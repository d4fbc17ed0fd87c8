import TcpStack.StateMachine
import TcpStack.IpLayer

namespace TcpStack.ConnectionManager

open Wire StateMachine IpLayer

structure TCPConnection where
  localIp : BitVec 32
  localPort : BitVec 16
  remoteIp : BitVec 32
  remotePort : BitVec 16
  localSeq : BitVec 32
  remoteSeq : BitVec 32
  localAck : BitVec 32
  windowSize : BitVec 16
  stateMachine : TCPStateMachine
  deriving DecidableEq, Repr

namespace TCPConnection

/-- What `std::make_shared<TCPConnection>()` builds: every scalar zero, the
state machine CLOSED. -/
def blank : TCPConnection := ⟨0, 0, 0, 0, 0, 0, 0, 0, .init⟩

def processEvent (c : TCPConnection) (event : TCPEvent) : TCPConnection :=
  { c with stateMachine := c.stateMachine.processEvent event }

def hasTuple (c : TCPConnection) (localIp : BitVec 32) (localPort : BitVec 16)
    (remoteIp : BitVec 32) (remotePort : BitVec 16) : Bool :=
  c.localIp == localIp && c.localPort == localPort && c.remoteIp == remoteIp &&
    c.remotePort == remotePort

end TCPConnection

/-- Connection objects live in `heap` at the addresses the `shared_ptr`s hold;
addresses from `nextAddr` on are unused, and `connections` is `connections_`. -/
structure TCPConnectionManager where
  heap : Nat → TCPConnection
  nextAddr : Nat
  connections : List Nat
  listeningSockets : List TCPConnection
  ipLayer : IPLayer

def createTcpHeader (conn : TCPConnection) (data : Bytes) (flags : BitVec 8) : TCPHeader :=
  let header : TCPHeader :=
    TCPHeader.setDataOffset
      { srcPort := conn.localPort, dstPort := conn.remotePort, seqNum := conn.localSeq,
        ackNum := conn.localAck, dataOffsetReserved := 0, flags, windowSize := conn.windowSize,
        checksum := 0, urgentPointer := 0 } 5
  { header with checksum := calculateTcpChecksum conn.localIp conn.remoteIp header data }

theorem createTcpHeader_getDataOffset (conn : TCPConnection) (data : Bytes) (flags : BitVec 8) :
    (createTcpHeader conn data flags).getDataOffset = 5 :=
  show ((0 : BitVec 8) &&& 0x0F ||| (5 &&& 0x0F) <<< 4) >>> 4 &&& 0xF = 5 by decide

def tcpSegment (conn : TCPConnection) (data : Bytes) (flags : BitVec 8) : Bytes :=
  (createTcpHeader conn data flags).toNetworkOrder.image ++ data

namespace TCPConnectionManager

def init (outcomes : List Bool) : TCPConnectionManager :=
  ⟨fun _ => .blank, 0, [], [], ⟨outcomes, []⟩⟩

variable (m : TCPConnectionManager)

def setConn (p : Nat) (c : TCPConnection) : TCPConnectionManager :=
  { m with heap := Function.update m.heap p c }

def listen (localIp : BitVec 32) (localPort : BitVec 16) : Bool × TCPConnectionManager :=
  let conn := TCPConnection.processEvent
    { TCPConnection.blank with localIp, localPort, remoteIp := 0, remotePort := 0 } .passiveOpen
  (true, { m with listeningSockets := m.listeningSockets ++ [conn] })

def findConnection (localIp : BitVec 32) (localPort : BitVec 16) (remoteIp : BitVec 32)
    (remotePort : BitVec 16) : Option Nat :=
  m.connections.find? fun p => (m.heap p).hasTuple localIp localPort remoteIp remotePort

/-- `std::remove` by `shared_ptr`: every occurrence of the object goes. -/
def removeConnection (p : Nat) : TCPConnectionManager :=
  { m with connections := m.connections.filter (· != p) }

/-- The `can_send_data` check comes first; the sequence number advances only
once the IP layer reports success. -/
def sendSegment (p : Nat) (data : Bytes) (flags : BitVec 8) : Bool × TCPConnectionManager :=
  let conn := m.heap p
  if !conn.stateMachine.canSendData then (false, m)
  else
    let sent := m.ipLayer.sendPacket ⟨conn.localIp, conn.remoteIp, ipprotoTcp, tcpSegment conn data flags⟩
    let conn := if sent.1 && !data.isEmpty then
      { conn with localSeq := conn.localSeq + .ofNat 32 data.length } else conn
    (sent.1, ({ m with ipLayer := sent.2 }).setConn p conn)

def handleSynSegment (ip : IPHeader) (header : TCPHeader) (iss : BitVec 32) :
    TCPConnectionManager :=
  if m.listeningSockets.any (fun l => l.localIp == ip.dstIp && l.localPort == header.dstPort) then
    let conn := TCPConnection.processEvent
      { TCPConnection.blank with
        localIp := ip.dstIp, localPort := header.dstPort, remoteIp := ip.srcIp,
        remotePort := header.srcPort, remoteSeq := header.seqNum, localAck := header.seqNum + 1,
        localSeq := iss, windowSize := 65535 } .synReceived
    let p := m.nextAddr
    let m := { m with heap := Function.update m.heap p conn, nextAddr := p + 1,
                      connections := m.connections ++ [p] }
    (m.sendSegment p [] (TCPHeader.syn ||| TCPHeader.ack)).2
  else m

def handleSynAckSegment (ip : IPHeader) (header : TCPHeader) : TCPConnectionManager :=
  match m.findConnection ip.dstIp header.dstPort ip.srcIp header.srcPort with
  | none => m
  | some p =>
      let conn := TCPConnection.processEvent
        { m.heap p with remoteSeq := header.seqNum, localAck := header.seqNum + 1 } .synAckReceived
      ((m.setConn p conn).sendSegment p [] TCPHeader.ack).2

def handleAckSegment (ip : IPHeader) (header : TCPHeader) : TCPConnectionManager :=
  match m.findConnection ip.dstIp header.dstPort ip.srcIp header.srcPort with
  | none => m
  | some p => m.setConn p ((m.heap p).processEvent .ackReceived)

def handleFinSegment (ip : IPHeader) (header : TCPHeader) : TCPConnectionManager :=
  match m.findConnection ip.dstIp header.dstPort ip.srcIp header.srcPort with
  | none => m
  | some p =>
      let conn := { (m.heap p).processEvent .finReceived with localAck := header.seqNum + 1 }
      ((m.setConn p conn).sendSegment p [] TCPHeader.ack).2

def handleRstSegment (ip : IPHeader) (header : TCPHeader) : TCPConnectionManager :=
  match m.findConnection ip.dstIp header.dstPort ip.srcIp header.srcPort with
  | none => m
  | some p => (m.setConn p ((m.heap p).processEvent .rstReceived)).removeConnection p

/-- The payload moves `local_ack` and is acknowledged, but reaches no receive
buffer. -/
def handleDataSegment (ip : IPHeader) (header : TCPHeader) (data : Bytes) : TCPConnectionManager :=
  match m.findConnection ip.dstIp header.dstPort ip.srcIp header.srcPort with
  | none => m
  | some p =>
      if (m.heap p).stateMachine.canReceiveData then
        let conn := { m.heap p with localAck := header.seqNum + .ofNat 32 data.length }
        ((m.setConn p conn).sendSegment p [] TCPHeader.ack).2
      else m

def dispatchSegment (ip : IPHeader) (header : TCPHeader) (iss : BitVec 32) : TCPConnectionManager :=
  if header.hasFlag TCPHeader.syn then
    if header.hasFlag TCPHeader.ack then m.handleSynAckSegment ip header
    else m.handleSynSegment ip header iss
  else if header.hasFlag TCPHeader.ack then m.handleAckSegment ip header
  else if header.hasFlag TCPHeader.fin then m.handleFinSegment ip header
  else if header.hasFlag TCPHeader.rst then m.handleRstSegment ip header
  else m

/-- `iss` is the sequence number drawn should a SYN birth a connection. -/
def processIncomingSegment (ip : IPHeader) (tcpData : Bytes) (iss : BitVec 32) :
    Bool × TCPConnectionManager :=
  if tcpData.length < 20 then (false, m)
  else
    let header := (TCPHeader.ofImage tcpData).toHostOrder
    let header' := { header with checksum := 0 }
    let data := tcpData.drop 20
    if header.checksum ≠ calculateTcpChecksum ip.srcIp ip.dstIp header' data then (false, m)
    else
      let m := m.dispatchSegment ip header' iss
      (true, if data.isEmpty then m else m.handleDataSegment ip header' data)

def closeConnection (p : Nat) : Bool × TCPConnectionManager :=
  let sent := (m.setConn p ((m.heap p).processEvent .close)).sendSegment p []
    (TCPHeader.fin ||| TCPHeader.ack)
  (sent.1, sent.2.removeConnection p)

def connect (localIp : BitVec 32) (localPort : BitVec 16) (remoteIp : BitVec 32)
    (remotePort : BitVec 16) (iss : BitVec 32) : Option Nat × TCPConnectionManager :=
  let p := m.nextAddr
  let conn : TCPConnection :=
    { TCPConnection.blank with
      localIp := localIp, localPort := localPort, remoteIp := remoteIp, remotePort := remotePort,
      localSeq := iss, windowSize := 65535 }
  let m := { m with heap := Function.update m.heap p conn, nextAddr := p + 1,
                    connections := m.connections ++ [p] }
  let m := m.setConn p ((m.heap p).processEvent .activeOpen)
  let sent := m.sendSegment p [] TCPHeader.syn
  if sent.1 then (some p, sent.2) else (none, sent.2.removeConnection p)

def drainInbound (inbound : List (IPHeader × Bytes × BitVec 32)) : TCPConnectionManager :=
  inbound.foldl (fun m pkt =>
    if pkt.1.protocol == ipprotoTcp then (m.processIncomingSegment pkt.1 pkt.2.1 pkt.2.2).2 else m) m

def acceptConnection (inbound : List (IPHeader × Bytes × BitVec 32)) :
    Option Nat × TCPConnectionManager :=
  let m := m.drainInbound inbound
  (m.connections.find? fun p => (m.heap p).stateMachine.isEstablished, m)

section Frame

variable {p q : Nat} {c : TCPConnection} {data : Bytes} {flags : BitVec 8}

@[simp] theorem setConn_heap : (m.setConn p c).heap q = if q = p then c else m.heap q :=
  Function.update_apply ..

@[simp] theorem setConn_connections : (m.setConn p c).connections = m.connections := rfl

@[simp] theorem setConn_nextAddr : (m.setConn p c).nextAddr = m.nextAddr := rfl

@[simp] theorem setConn_listeningSockets :
    (m.setConn p c).listeningSockets = m.listeningSockets := rfl

@[simp] theorem setConn_ipLayer : (m.setConn p c).ipLayer = m.ipLayer := rfl

@[simp] theorem removeConnection_heap : (m.removeConnection p).heap = m.heap := rfl

@[simp] theorem removeConnection_connections :
    (m.removeConnection p).connections = m.connections.filter (· != p) := rfl

@[simp] theorem removeConnection_nextAddr : (m.removeConnection p).nextAddr = m.nextAddr := rfl

@[simp] theorem removeConnection_listeningSockets :
    (m.removeConnection p).listeningSockets = m.listeningSockets := rfl

@[simp] theorem removeConnection_ipLayer : (m.removeConnection p).ipLayer = m.ipLayer := rfl

theorem sendSegment_of_not_canSendData (h : (m.heap p).stateMachine.canSendData = false) :
    m.sendSegment p data flags = (false, m) := by
  simp [sendSegment, h]

@[simp] theorem sendSegment_connections :
    (m.sendSegment p data flags).2.connections = m.connections := by
  dsimp only [sendSegment]; split <;> rfl

@[simp] theorem sendSegment_nextAddr : (m.sendSegment p data flags).2.nextAddr = m.nextAddr := by
  dsimp only [sendSegment]; split <;> rfl

@[simp] theorem sendSegment_listeningSockets :
    (m.sendSegment p data flags).2.listeningSockets = m.listeningSockets := by
  dsimp only [sendSegment]; split <;> rfl

theorem sendSegment_heap (p : Nat) (data : Bytes) (flags : BitVec 8) : ∃ s : BitVec 32,
    (m.sendSegment p data flags).2.heap = Function.update m.heap p { m.heap p with localSeq := s } := by
  dsimp only [sendSegment]
  split
  · exact ⟨(m.heap p).localSeq, (Function.update_eq_self p m.heap).symm⟩
  · split
    · exact ⟨_, rfl⟩
    · exact ⟨(m.heap p).localSeq, rfl⟩

@[simp] theorem sendSegment_stateMachine :
    ((m.sendSegment p data flags).2.heap q).stateMachine = (m.heap q).stateMachine := by
  obtain ⟨s, hs⟩ := m.sendSegment_heap p data flags
  rw [hs, Function.update_apply]
  split_ifs <;> subst_vars <;> rfl

@[simp] theorem sendSegment_localAck :
    ((m.sendSegment p data flags).2.heap q).localAck = (m.heap q).localAck := by
  obtain ⟨s, hs⟩ := m.sendSegment_heap p data flags
  rw [hs, Function.update_apply]
  split_ifs <;> subst_vars <;> rfl

theorem findConnection_mem {localIp remoteIp : BitVec 32} {localPort remotePort : BitVec 16}
    (h : m.findConnection localIp localPort remoteIp remotePort = some p) : p ∈ m.connections :=
  List.mem_of_find?_eq_some h

/-- `connect` never gets its SYN out: the new connection is SYN_SENT, which
`can_send_data` refuses, so it is removed again. -/
theorem connect_eq {localIp remoteIp iss : BitVec 32} {localPort remotePort : BitVec 16} :
    m.connect localIp localPort remoteIp remotePort iss =
      (none, { m with
        heap := Function.update m.heap m.nextAddr
          (TCPConnection.processEvent { TCPConnection.blank with
            localIp := localIp, localPort := localPort, remoteIp := remoteIp,
            remotePort := remotePort, localSeq := iss, windowSize := 65535 } .activeOpen)
        nextAddr := m.nextAddr + 1
        connections := (m.connections ++ [m.nextAddr]).filter (· != m.nextAddr) }) := by
  simp only [connect, setConn_heap, if_pos, Function.update_same]
  rw [sendSegment_of_not_canSendData]
  · simp [setConn, removeConnection]
  · simp only [setConn_heap, ite_true]
    rfl

/-- `close_connection` never gets its FIN out either. -/
theorem closeConnection_eq :
    m.closeConnection p = (false, (m.setConn p ((m.heap p).processEvent .close)).removeConnection p) := by
  rw [closeConnection, sendSegment_of_not_canSendData]
  simpa [TCPConnection.processEvent] using canSendData_processEvent_close (m.heap p).stateMachine

end Frame

end TCPConnectionManager

end TcpStack.ConnectionManager
