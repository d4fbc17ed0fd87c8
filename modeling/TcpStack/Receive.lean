import TcpStack.Socket
import TcpStack.Table

namespace TcpStack.Receive

open Wire StateMachine ConnectionManager TCPConnectionManager Socket Table

section Handlers

variable (m : TCPConnectionManager) (ip : IPHeader) (header : TCPHeader) (data : Bytes) (q : Nat)

theorem findConnection_congr {m m' : TCPConnectionManager} (hc : m'.connections = m.connections)
    (hh : ∀ q, (m'.heap q).hasTuple = (m.heap q).hasTuple) : m'.findConnection = m.findConnection := by
  funext a b x y
  simp only [findConnection, hc, hh]

theorem findConnection_setConn {p : Nat} {c : TCPConnection} (h : c.hasTuple = (m.heap p).hasTuple) :
    (m.setConn p c).findConnection = m.findConnection :=
  findConnection_congr rfl fun q => by by_cases hq : q = p <;> simp [hq, h]

theorem findConnection_handleAckSegment :
    (m.handleAckSegment ip header).findConnection = m.findConnection := by
  unfold handleAckSegment
  split
  · rfl
  · exact findConnection_setConn m rfl

theorem handleAckSegment_heap :
    (m.handleAckSegment ip header).heap q =
      if m.findConnection ip.dstIp header.dstPort ip.srcIp header.srcPort = some q then
        (m.heap q).processEvent .ackReceived
      else m.heap q := by
  unfold handleAckSegment
  rcases m.findConnection ip.dstIp header.dstPort ip.srcIp header.srcPort with _ | p
  · simp
  · by_cases hq : q = p
    · simp [hq]
    · simp [hq, Ne.symm hq]

theorem handleDataSegment_localAck :
    ((m.handleDataSegment ip header data).heap q).localAck =
      if m.findConnection ip.dstIp header.dstPort ip.srcIp header.srcPort = some q ∧
          (m.heap q).stateMachine.canReceiveData = true then header.seqNum + .ofNat 32 data.length
      else (m.heap q).localAck := by
  unfold handleDataSegment
  rcases m.findConnection ip.dstIp header.dstPort ip.srcIp header.srcPort with _ | p
  · simp
  · by_cases hq : q = p
    · subst hq
      by_cases hr : (m.heap q).stateMachine.canReceiveData = true <;> simp [hr]
    · by_cases hr : (m.heap p).stateMachine.canReceiveData = true <;> simp [hr, hq, Ne.symm hq]

theorem handleRstSegment_localAck :
    ((m.handleRstSegment ip header).heap q).localAck = (m.heap q).localAck := by
  unfold handleRstSegment
  rcases m.findConnection ip.dstIp header.dstPort ip.srcIp header.srcPort with _ | p
  · rfl
  · by_cases hq : q = p <;> simp [hq, TCPConnection.processEvent]

theorem dispatchSegment_localAck (iss : BitVec 32) (hs : header.hasFlag TCPHeader.syn = false)
    (hf : header.hasFlag TCPHeader.ack = true ∨ header.hasFlag TCPHeader.fin = false) :
    ((m.dispatchSegment ip header iss).heap q).localAck = (m.heap q).localAck := by
  cases hack : header.hasFlag TCPHeader.ack
  · have hfin : header.hasFlag TCPHeader.fin = false := by simpa [hack] using hf
    simp only [dispatchSegment, hs, hack, hfin, Bool.false_eq_true, if_false]
    split
    · exact handleRstSegment_localAck m ip header q
    · rfl
  · simp only [dispatchSegment, hs, hack, Bool.false_eq_true, if_false, if_true, handleAckSegment_heap]
    split <;> rfl

theorem dispatchSegment_plain (iss : BitVec 32) (hs : header.hasFlag TCPHeader.syn = false)
    (hf : header.hasFlag TCPHeader.ack = true ∨ header.hasFlag TCPHeader.fin = false)
    (hr : header.hasFlag TCPHeader.ack = true ∨ header.hasFlag TCPHeader.rst = false) :
    m.dispatchSegment ip header iss =
      if header.hasFlag TCPHeader.ack then m.handleAckSegment ip header else m := by
  cases hack : header.hasFlag TCPHeader.ack <;> simp_all [dispatchSegment]

theorem processIncomingSegment_of_accepted (tcpData : Bytes) (iss : BitVec 32)
    (h : (m.processIncomingSegment ip tcpData iss).1 = true) :
    let header := { (TCPHeader.ofImage tcpData).toHostOrder with checksum := 0 }
    (m.processIncomingSegment ip tcpData iss).2 =
      if (tcpData.drop 20).isEmpty then m.dispatchSegment ip header iss
      else (m.dispatchSegment ip header iss).handleDataSegment ip header (tcpData.drop 20) := by
  unfold processIncomingSegment at h ⊢
  dsimp only at h ⊢
  split_ifs at h ⊢ <;> rfl

theorem dispatchSegment_checksum (c : BitVec 16) (iss : BitVec 32) :
    m.dispatchSegment ip { header with checksum := c } iss = m.dispatchSegment ip header iss :=
  rfl

theorem handleDataSegment_checksum (c : BitVec 16) :
    m.handleDataSegment ip { header with checksum := c } data = m.handleDataSegment ip header data :=
  rfl

theorem localAck_dispatch_data (iss : BitVec 32) (hs : header.hasFlag TCPHeader.syn = false)
    (hf : header.hasFlag TCPHeader.ack = true ∨ header.hasFlag TCPHeader.fin = false)
    (hr : header.hasFlag TCPHeader.ack = true ∨ header.hasFlag TCPHeader.rst = false ∨ data = []) :
    let conn := if header.hasFlag TCPHeader.ack then (m.heap q).processEvent .ackReceived else m.heap q
    ((if data.isEmpty then m.dispatchSegment ip header iss
      else (m.dispatchSegment ip header iss).handleDataSegment ip header data).heap q).localAck =
      if m.findConnection ip.dstIp header.dstPort ip.srcIp header.srcPort = some q ∧ data ≠ [] ∧
          conn.stateMachine.canReceiveData = true then header.seqNum + .ofNat 32 data.length
      else (m.heap q).localAck := by
  intro conn
  by_cases hd : data = []
  · subst hd
    simpa using dispatchSegment_localAck m ip header q iss hs hf
  rw [if_neg (by simpa using hd),
    dispatchSegment_plain m ip header iss hs hf (hr.imp_right fun h => h.resolve_right hd)]
  have hfind : (if header.hasFlag TCPHeader.ack then m.handleAckSegment ip header else m).findConnection =
      m.findConnection := by
    split
    · exact findConnection_handleAckSegment m ip header
    · rfl
  have hconn : (if header.hasFlag TCPHeader.ack then m.handleAckSegment ip header else m).heap q =
      if m.findConnection ip.dstIp header.dstPort ip.srcIp header.srcPort = some q then conn
      else m.heap q := by
    simp only [conn]
    split <;> simp [handleAckSegment_heap]
  have hack : conn.localAck = (m.heap q).localAck := by
    simp only [conn]
    split <;> rfl
  rw [handleDataSegment_localAck, hfind, hconn]
  by_cases hq : m.findConnection ip.dstIp header.dstPort ip.srcIp header.srcPort = some q <;>
    simp [hq, hack, hd]

end Handlers

variable {m : TCPConnectionManager}

def serverConn : TCPConnection :=
  { TCPConnection.blank with
    localIp := 0x0100007F, localPort := 9000, remoteIp := 0x0200007F, remotePort := 12345,
    localSeq := 5000, remoteSeq := 1000, localAck := 1001, windowSize := 65535,
    stateMachine := ⟨.established⟩ }

/-- The server end of 127.0.0.1:9000 ↔ 127.0.0.2:12345 after a handshake, at
address 0. No run reaches it (`not_reach_established`); a caller of the
manager's public fields can build it. -/
def established : TCPConnectionManager :=
  { TCPConnectionManager.init [] with
    heap := Function.update (TCPConnectionManager.init []).heap 0 serverConn, nextAddr := 1,
    connections := [0] }

theorem not_reach_established : ¬ Reach established :=
  fun h => absurd (h.tableInv.closed 0 (List.mem_singleton_self 0)) (by decide)

def delivered : TCPSocket × TCPConnectionManager → SocketAction → Bytes
  | (s, m), .recv length => (s.recv m length).2.1
  | _, _ => []

/-- The bytes of a run's `recv` calls, in call order. -/
def deliveredAlong : TCPSocket × TCPConnectionManager → List SocketAction → Bytes
  | _, [] => []
  | x, a :: actions => delivered x a ++ deliveredAlong (step x a) actions

theorem delivered_step (x : TCPSocket × TCPConnectionManager) (a : SocketAction) :
    delivered x a ++ (step x a).1.receiveBuffer = x.1.receiveBuffer := by
  obtain ⟨s, m⟩ := x
  cases a with
  | send data now =>
      simp only [step, TCPSocket.send, delivered, List.nil_append]
      split
      · rfl
      · split <;> rfl
  | recv length =>
      simp only [step, TCPSocket.recv, delivered]
      split_ifs
      · rfl
      · rfl
      · exact List.take_append_drop _ _
  | sweep now =>
      simp only [step, TCPSocket.sweep, delivered, List.nil_append]
      split <;> rfl
  | close => rfl
  | segment ip tcpData iss => rfl

theorem step_receiveBuffer (x : TCPSocket × TCPConnectionManager) (a : SocketAction) :
    (step x a).1.receiveBuffer <:+ x.1.receiveBuffer :=
  delivered_step x a ▸ List.suffix_append _ _

/-- No run adds a byte to a socket's receive buffer: `process_received_data`,
its one producer, has no caller. -/
theorem run_receiveBuffer_suffix (x : TCPSocket × TCPConnectionManager) (actions : List SocketAction) :
    (run x actions).1.receiveBuffer <:+ x.1.receiveBuffer :=
  run_induction (fun y => y.1.receiveBuffer <:+ x.1.receiveBuffer)
    (fun y a h => (step_receiveBuffer y a).trans h) actions x (List.suffix_refl _)

/-- The receive buffer is read as a FIFO: along every run, the bytes `recv`
returns, then what is left, are the buffer the run started with. -/
theorem recv_stream_run (x : TCPSocket × TCPConnectionManager) (actions : List SocketAction) :
    deliveredAlong x actions ++ (run x actions).1.receiveBuffer = x.1.receiveBuffer := by
  induction actions generalizing x with
  | nil => rfl
  | cons a actions ih => rw [run_cons, deliveredAlong, List.append_assoc, ih, delivered_step]

end TcpStack.Receive
