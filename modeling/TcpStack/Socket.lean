import TcpStack.Reliability
import TcpStack.ConnectionManager

namespace TcpStack.Socket

open Wire StateMachine Reliability ConnectionManager TCPConnectionManager

/-- A `TCPSocket`: `connection` is the `shared_ptr` it holds, `none` for null,
and the process-wide manager is passed to each operation. -/
structure TCPSocket where
  connection : Option Nat
  reliability : TCPReliability
  receiveBuffer : Bytes
  isListening : Bool
  isBlocking : Bool
  recvTimeout : Int
  sendTimeout : Int
  localIp : BitVec 32
  localPort : BitVec 16
  deriving DecidableEq, Repr

/-- One send loop of `TCPSocket::send`. Each continuing round sends a byte at
least, so `length` rounds of fuel suffice (`sendLoop_fuel`). -/
def sendLoop (p length now : Nat) :
    Nat → Nat → TCPReliability → TCPConnectionManager → Nat × TCPReliability × TCPConnectionManager
  | 0, total, r, m => (total, r, m)
  | fuel + 1, total, r, m =>
      if total < length && r.canSendData 1024 then
        let chunk := r.getDataToSend 1024 now
        if chunk.1.isEmpty then (total, chunk.2, m)
        else
          let sent := m.sendSegment p chunk.1 (TCPHeader.psh ||| TCPHeader.ack)
          if sent.1 then sendLoop p length now fuel (total + chunk.1.length) chunk.2 sent.2
          else (total, chunk.2, sent.2)
      else (total, r, m)

def retransmitSegments (p : Nat) (r : TCPReliability) (now : Nat) :
    List TCPSegment → TCPConnectionManager → List TCPSegment × TCPConnectionManager
  | [], m => ([], m)
  | segment :: rest, m =>
      if r.shouldRetransmit now segment then
        let m := (m.sendSegment p segment.data (TCPHeader.psh ||| TCPHeader.ack)).2
        let tail := retransmitSegments p r now rest m
        (TCPReliability.markSegmentSent segment now :: tail.1, tail.2)
      else
        let tail := retransmitSegments p r now rest m
        (segment :: tail.1, tail.2)

theorem sendLoop_fuel (p length now : Nat) :
    ∀ fuel total r m, length ≤ total + fuel →
      sendLoop p length now (fuel + 1) total r m = sendLoop p length now fuel total r m := by
  intro fuel
  induction fuel with
  | zero =>
      intro total r m h
      simp [sendLoop, show ¬ total < length by omega]
  | succ fuel ih =>
      intro total r m h
      rw [sendLoop.eq_2 p length now total r m (fuel + 1), sendLoop.eq_2 p length now total r m fuel]
      dsimp only
      split_ifs with h1 h2 h3
      · rfl
      · have hne : 0 < (r.getDataToSend 1024 now).1.length := List.length_pos.2 (by simpa using h2)
        exact ih _ _ _ (by omega)
      · rfl
      · rfl

namespace TCPSocket

def init : TCPSocket := ⟨none, .init, [], false, true, 0, 0, 0, 0⟩

/-- The private constructor `accept` uses. -/
def ofConnection (p : Nat) (conn : TCPConnection) : TCPSocket :=
  { init with connection := some p, reliability := TCPReliability.init.setInitialSeq conn.localSeq,
              localIp := conn.localIp, localPort := conn.localPort }

variable (s : TCPSocket) (m : TCPConnectionManager)

def isConnected : Bool :=
  match s.connection with
  | some p => (m.heap p).stateMachine.isEstablished
  | none => false

def bind (ip : BitVec 32) (port : BitVec 16) : Bool × TCPSocket :=
  if ip = 0 then (false, { s with localIp := 0 }) else (true, { s with localIp := ip, localPort := port })

def listen : Bool × TCPSocket × TCPConnectionManager :=
  if s.localIp = 0 ∨ s.localPort = 0 then (false, s, m)
  else (true, { s with isListening := true }, (m.listen s.localIp s.localPort).2)

def accept (inbound : List (IPHeader × Bytes × BitVec 32)) : Option TCPSocket × TCPConnectionManager :=
  if !s.isListening then (none, m)
  else
    let r := m.acceptConnection inbound
    (r.1.map fun p => ofConnection p (r.2.heap p), r.2)

def connect (remoteIp : BitVec 32) (port : BitVec 16) (iss : BitVec 32) :
    Bool × TCPSocket × TCPConnectionManager :=
  if remoteIp = 0 then (false, s, m)
  else
    let s := { s with localIp := if s.localIp = 0 then 0x0100007F else s.localIp,
                      localPort := if s.localPort = 0 then 12345 else s.localPort }
    let r := m.connect s.localIp s.localPort remoteIp port iss
    match r.1 with
    | none => (false, { s with connection := none }, r.2)
    | some p =>
        let s := { s with connection := some p,
                          reliability := s.reliability.setInitialSeq (r.2.heap p).localSeq }
        (s.isConnected r.2, s, r.2)

def send (data : Bytes) (now : Nat) : Int × TCPSocket × TCPConnectionManager :=
  match s.connection with
  | none => (-1, s, m)
  | some p =>
      if !(m.heap p).stateMachine.isEstablished then (-1, s, m)
      else
        let r := sendLoop p data.length now data.length 0 (s.reliability.bufferData data) m
        (r.1, { s with reliability := r.2.1 }, r.2.2)

/-- `recv` at its entry check. A call that finds the buffer empty returns 0
once its wait ends, or never: nothing fills the buffer meanwhile. -/
def recv (length : Nat) : Int × Bytes × TCPSocket :=
  if !s.isConnected m then (-1, [], s)
  else if s.receiveBuffer.isEmpty then (0, [], s)
  else
    let toCopy := min length s.receiveBuffer.length
    (toCopy, s.receiveBuffer.take toCopy, { s with receiveBuffer := s.receiveBuffer.drop toCopy })

def close : TCPSocket × TCPConnectionManager :=
  let m := match s.connection with
    | some p => if (m.heap p).stateMachine.isEstablished then (m.closeConnection p).2 else m
    | none => m
  ({ s with connection := none, isListening := false }, m)

def sweep (now : Nat) : TCPSocket × TCPConnectionManager :=
  match s.connection with
  | none => (s, m)
  | some p =>
      let r := retransmitSegments p s.reliability now s.reliability.unackedSegments m
      ({ s with reliability := { s.reliability with unackedSegments := r.1 } }, r.2)

def processReceivedData (data : Bytes) : TCPSocket :=
  { s with receiveBuffer := s.receiveBuffer ++ data }

end TCPSocket

/-- What can happen to one socket: its own calls, a round of its worker, and a
segment its manager processes. `process_received_data` has no caller, so no
step delivers data. -/
inductive SocketAction
  | send (data : Bytes) (now : Nat)
  | recv (length : Nat)
  | sweep (now : Nat)
  | close
  | segment (ip : IPHeader) (tcpData : Bytes) (iss : BitVec 32)
  deriving Repr

def step : TCPSocket × TCPConnectionManager → SocketAction → TCPSocket × TCPConnectionManager
  | (s, m), .send data now => (s.send m data now).2
  | (s, m), .recv length => ((s.recv m length).2.2, m)
  | (s, m), .sweep now => s.sweep m now
  | (s, m), .close => s.close m
  | (s, m), .segment ip tcpData iss => (s, (m.processIncomingSegment ip tcpData iss).2)

def run (start : TCPSocket × TCPConnectionManager) (actions : List SocketAction) :
    TCPSocket × TCPConnectionManager :=
  actions.foldl step start

@[simp] theorem run_nil (start : TCPSocket × TCPConnectionManager) : run start [] = start := rfl

@[simp] theorem run_cons (start : TCPSocket × TCPConnectionManager) (a : SocketAction)
    (actions : List SocketAction) : run start (a :: actions) = run (step start a) actions := rfl

theorem run_induction (P : TCPSocket × TCPConnectionManager → Prop)
    (hstep : ∀ x a, P x → P (step x a)) :
    ∀ actions x, P x → P (run x actions) := by
  intro actions
  induction actions with
  | nil => exact fun _ h => h
  | cons a actions ih => exact fun x h => ih _ (hstep x a h)

end TcpStack.Socket
