import TcpStack.Edits

namespace TcpStack.Table

open Wire StateMachine ConnectionManager TCPConnectionManager Edits

/-- What every reachable manager keeps: each connection of the table is CLOSED,
and each table address was allocated. -/
structure TableInv (m : TCPConnectionManager) : Prop where
  closed : ∀ p ∈ m.connections, (m.heap p).stateMachine.currentState = .closed
  allocated : ∀ p ∈ m.connections, p < m.nextAddr

namespace TableInv

variable {m : TCPConnectionManager} {p : Nat}

theorem init (outcomes : List Bool) : TableInv (TCPConnectionManager.init outcomes) :=
  ⟨fun _ h => absurd h (List.not_mem_nil _), fun _ h => absurd h (List.not_mem_nil _)⟩

theorem setConn (h : TableInv m) {c : TCPConnection}
    (hc : p ∈ m.connections → c.stateMachine.currentState = .closed) : TableInv (m.setConn p c) := by
  refine ⟨fun q hq => ?_, h.allocated⟩
  rw [setConn_heap]
  split_ifs with hqp
  · exact hc (hqp ▸ hq)
  · exact h.closed q hq

theorem sendSegment (h : TableInv m) (data : Bytes) (flags : BitVec 8) :
    TableInv (m.sendSegment p data flags).2 :=
  ⟨fun q hq => by simpa using h.closed q (by simpa using hq),
    fun q hq => by simpa using h.allocated q (by simpa using hq)⟩

theorem removeConnection (h : TableInv m) : TableInv (m.removeConnection p) :=
  ⟨fun q hq => h.closed q (List.mem_filter.1 hq).1, fun q hq => h.allocated q (List.mem_filter.1 hq).1⟩

theorem push (h : TableInv m) {c : TCPConnection} (hc : c.stateMachine.currentState = .closed) :
    TableInv { m with heap := Function.update m.heap m.nextAddr c, nextAddr := m.nextAddr + 1,
                      connections := m.connections ++ [m.nextAddr] } := by
  constructor <;> intro q hq <;> rcases List.mem_append.1 hq with hq | hq
  · simpa [Function.update_noteq (Nat.ne_of_lt (h.allocated q hq))] using h.closed q hq
  · obtain rfl : q = m.nextAddr := by simpa using hq
    simpa using hc
  · exact Nat.lt_succ_of_lt (h.allocated q hq)
  · obtain rfl : q = m.nextAddr := by simpa using hq
    exact Nat.lt_succ_self _

theorem edit (h : TableInv m) {m' : TCPConnectionManager} (he : Edit m m') : TableInv m' := by
  cases he with
  | setConn hp hc => exact h.setConn fun hp => hc (h.closed _ hp)
  | send data flags _ => exact h.sendSegment data flags
  | remove => exact h.removeConnection
  | push hc => exact h.push hc

theorem edits (h : TableInv m) {m' : TCPConnectionManager} (he : Relation.ReflTransGen Edit m m') :
    TableInv m' :=
  edits_induction TableInv (fun _ _ h e => h.edit e) he h

theorem processIncomingSegment (h : TableInv m) (ip : IPHeader) (tcpData : Bytes) (iss : BitVec 32) :
    TableInv (m.processIncomingSegment ip tcpData iss).2 :=
  h.edits (edits_processIncomingSegment m ip tcpData iss)

theorem listen (h : TableInv m) (localIp : BitVec 32) (localPort : BitVec 16) :
    TableInv (m.listen localIp localPort).2 :=
  ⟨h.closed, h.allocated⟩

theorem connect (h : TableInv m) (localIp : BitVec 32) (localPort : BitVec 16) (remoteIp : BitVec 32)
    (remotePort : BitVec 16) (iss : BitVec 32) :
    TableInv (m.connect localIp localPort remoteIp remotePort iss).2 := by
  rw [connect_eq]
  constructor <;> intro q hq <;>
    obtain ⟨hq, hne⟩ : q ∈ m.connections ∧ q ≠ m.nextAddr := by simpa using hq
  · simpa [Function.update_noteq hne] using h.closed q hq
  · exact Nat.lt_succ_of_lt (h.allocated q hq)

theorem closeConnection (h : TableInv m) (p : Nat) : TableInv (m.closeConnection p).2 := by
  rw [closeConnection_eq]
  exact (h.setConn fun hp => closed_of_feed rfl (by decide) (by decide) (h.closed p hp)).removeConnection

theorem drainInbound (h : TableInv m) (inbound : List (IPHeader × Bytes × BitVec 32)) :
    TableInv (m.drainInbound inbound) :=
  h.edits (edits_drainInbound m inbound)

theorem acceptConnection_fst (h : TableInv m) (inbound : List (IPHeader × Bytes × BitVec 32)) :
    (m.acceptConnection inbound).1 = none := by
  rw [TCPConnectionManager.acceptConnection, List.find?_eq_none]
  intro p hp
  simp [TCPStateMachine.isEstablished, (h.drainInbound inbound).closed p hp]

end TableInv

/-- The manager states reached from a fresh manager by any sequence of the
public operations, under any pattern of IP-layer failures. -/
inductive Reach : TCPConnectionManager → Prop
  | init (outcomes : List Bool) : Reach (.init outcomes)
  | listen {m : TCPConnectionManager} (localIp : BitVec 32) (localPort : BitVec 16) :
      Reach m → Reach (m.listen localIp localPort).2
  | connect {m : TCPConnectionManager} (localIp : BitVec 32) (localPort : BitVec 16)
      (remoteIp : BitVec 32) (remotePort : BitVec 16) (iss : BitVec 32) :
      Reach m → Reach (m.connect localIp localPort remoteIp remotePort iss).2
  | accept {m : TCPConnectionManager} (inbound : List (IPHeader × Bytes × BitVec 32)) :
      Reach m → Reach (m.acceptConnection inbound).2
  | send {m : TCPConnectionManager} (p : Nat) (data : Bytes) (flags : BitVec 8) :
      Reach m → Reach (m.sendSegment p data flags).2
  | close {m : TCPConnectionManager} (p : Nat) : Reach m → Reach (m.closeConnection p).2
  | segment {m : TCPConnectionManager} (ip : IPHeader) (tcpData : Bytes) (iss : BitVec 32) :
      Reach m → Reach (m.processIncomingSegment ip tcpData iss).2

theorem Reach.tableInv {m : TCPConnectionManager} (h : Reach m) : TableInv m := by
  induction h with
  | init outcomes => exact .init outcomes
  | listen _ _ _ ih => exact ih.listen _ _
  | connect _ _ _ _ _ _ ih => exact ih.connect _ _ _ _ _
  | accept _ _ ih => exact ih.drainInbound _
  | send _ _ _ _ ih => exact ih.sendSegment _ _
  | close _ _ ih => exact ih.closeConnection _
  | segment _ _ _ _ ih => exact ih.processIncomingSegment _ _ _

/-- No connection object can send and none has: each is CLOSED or SYN_SENT, and
the IP layer has been handed nothing. -/
structure Silent (m : TCPConnectionManager) : Prop where
  mute : ∀ p, (m.heap p).stateMachine.currentState = .closed ∨
    (m.heap p).stateMachine.currentState = .synSent
  handed : m.ipLayer.handed = []

namespace Silent

variable {m : TCPConnectionManager} {p : Nat}

theorem sendSegment (h : Silent m) (data : Bytes) (flags : BitVec 8) : m.sendSegment p data flags = (false, m) :=
  m.sendSegment_of_not_canSendData (by rcases h.mute p with hs | hs <;> simp [TCPStateMachine.canSendData, hs])

theorem removeConnection (h : Silent m) : Silent (m.removeConnection p) := ⟨h.mute, h.handed⟩

theorem setConn (h : Silent m) {c : TCPConnection}
    (hc : c.stateMachine.currentState = .closed ∨ c.stateMachine.currentState = .synSent) :
    Silent (m.setConn p c) := by
  refine ⟨fun q => ?_, h.handed⟩
  rw [setConn_heap]
  split_ifs
  exacts [hc, h.mute q]

theorem edit (hi : TableInv m) (h : Silent m) {m' : TCPConnectionManager} (he : Edit m m') : Silent m' := by
  cases he with
  | setConn hp hc => exact h.setConn (.inl (hc (hi.closed _ hp)))
  | send data flags _ => rw [h.sendSegment data flags]; exact h
  | remove => exact h.removeConnection
  | push hc =>
      refine ⟨fun q => ?_, h.handed⟩
      by_cases hq : q = m.nextAddr
      · subst hq
        simp [hc]
      · simpa [hq] using h.mute q

theorem edits (hi : TableInv m) (h : Silent m) {m' : TCPConnectionManager}
    (he : Relation.ReflTransGen Edit m m') : Silent m' :=
  (edits_induction (fun m => TableInv m ∧ Silent m) (fun _ _ h e => ⟨h.1.edit e, h.2.edit h.1 e⟩) he
    ⟨hi, h⟩).2

end Silent

theorem Reach.silent {m : TCPConnectionManager} (h : Reach m) : Silent m := by
  induction h with
  | init outcomes => exact ⟨fun _ => .inl rfl, rfl⟩
  | listen _ _ _ ih => exact ⟨ih.mute, ih.handed⟩
  | @connect m _ _ _ _ _ _ ih =>
      rw [connect_eq]
      refine ⟨fun q => ?_, ih.handed⟩
      by_cases hq : q = m.nextAddr
      · subst hq
        simp only [Function.update_same]
        exact .inr rfl
      · simpa [hq] using ih.mute q
  | accept _ hm ih => exact ih.edits hm.tableInv (edits_drainInbound _ _)
  | send _ _ _ _ ih => rw [ih.sendSegment]; exact ih
  | close p _ ih =>
      rw [closeConnection_eq]
      refine (ih.setConn (.inl ?_)).removeConnection
      rcases ih.mute p with hs | hs <;>
        simp only [TCPConnection.processEvent, TCPStateMachine.processEvent_currentState, hs] <;> rfl
  | segment _ _ _ hm ih => exact ih.edits hm.tableInv (edits_processIncomingSegment _ _ _ _)

variable {m : TCPConnectionManager}

def client : TCPConnection :=
  { TCPConnection.blank with localIp := 0x0200007F, localPort := 12345, remoteIp := 0x0100007F,
                             remotePort := 9000, localSeq := 1000 }

def fromClient : IPHeader := ⟨0x45, 0, 0, 0, 0x40, 64, 6, 0, 0x0200007F, 0x0100007F⟩

/-- Every connection of a reachable table is CLOSED: the SYN handler births its
connections CLOSED, `connect` removes its own, and no segment revives one. -/
theorem reachable_connections_closed (h : Reach m) :
    ∀ p ∈ m.connections, (m.heap p).stateMachine.currentState = .closed :=
  h.tableInv.closed

theorem reachable_connections_closed_handshake :
    let m := (((((TCPConnectionManager.init []).listen 0x0100007F 9000).2.processIncomingSegment
      fromClient (tcpSegment client [] TCPHeader.syn) 5000).2.processIncomingSegment fromClient
      (tcpSegment { client with localSeq := 1001, localAck := 5001 } [] TCPHeader.ack) 0).2)
    Reach m ∧ ∀ p ∈ m.connections, (m.heap p).stateMachine.currentState = .closed :=
  let h := (((Reach.init []).listen _ _).segment _ _ _).segment _ _ _
  ⟨h, reachable_connections_closed h⟩

/-- The stack never transmits: in every reachable state `send_segment` fails,
and no packet has ever been handed to the IP layer. -/
theorem reachable_sends_nothing (h : Reach m) :
    m.ipLayer.handed = [] ∧ ∀ p data flags, m.sendSegment p data flags = (false, m) :=
  ⟨h.silent.handed, fun _ data flags => h.silent.sendSegment data flags⟩

theorem reachable_sends_nothing_syn :
    let m := (((TCPConnectionManager.init []).listen 0x0100007F 9000).2.processIncomingSegment
      fromClient (tcpSegment client [] TCPHeader.syn) 5000).2
    Reach m ∧ m.ipLayer.handed = [] ∧ ∀ p data flags, m.sendSegment p data flags = (false, m) :=
  let h := ((Reach.init []).listen _ _).segment _ _ _
  ⟨h, reachable_sends_nothing h⟩

/-- No two live connections of the table share a 4-tuple, and `find_connection`
returns the live one. -/
def LiveTuplesUnique (m : TCPConnectionManager) : Prop :=
  (∀ p ∈ m.connections, ∀ q ∈ m.connections, p ≠ q →
    (m.heap p).stateMachine.currentState ≠ .closed →
    (m.heap q).stateMachine.currentState ≠ .closed →
    ((m.heap p).localIp, (m.heap p).localPort, (m.heap p).remoteIp, (m.heap p).remotePort) ≠
      ((m.heap q).localIp, (m.heap q).localPort, (m.heap q).remoteIp, (m.heap q).remotePort)) ∧
  ∀ p ∈ m.connections, (m.heap p).stateMachine.currentState ≠ .closed →
    m.findConnection (m.heap p).localIp (m.heap p).localPort (m.heap p).remoteIp
      (m.heap p).remotePort = some p

theorem live_connections_unique (h : Reach m) : LiveTuplesUnique m :=
  ⟨fun p hp _ _ _ hlive _ => absurd (h.tableInv.closed p hp) hlive,
    fun p hp hlive => absurd (h.tableInv.closed p hp) hlive⟩

theorem live_connections_unique_duplicate_syn :
    let m := ((((TCPConnectionManager.init []).listen 0x0100007F 9000).2.processIncomingSegment
      fromClient (tcpSegment client [] TCPHeader.syn) 5000).2.processIncomingSegment
      fromClient (tcpSegment client [] TCPHeader.syn) 7000).2
    Reach m ∧ m.connections = [0, 1] ∧ LiveTuplesUnique m :=
  let h := (((Reach.init []).listen _ _).segment _ _ _).segment _ _ _
  ⟨h, by decide, live_connections_unique h⟩

/-- Every connection a segment leaves in the table under its 4-tuple is CLOSED. -/
theorem segment_leaves_no_live_connection (h : Reach m) (ip : IPHeader) (tcpData : Bytes)
    (iss : BitVec 32) :
    let m' := (m.processIncomingSegment ip tcpData iss).2
    let header := (TCPHeader.ofImage tcpData).toHostOrder
    ∀ p ∈ m'.connections, (m'.heap p).hasTuple ip.dstIp header.dstPort ip.srcIp header.srcPort →
      (m'.heap p).stateMachine.currentState = .closed :=
  fun p hp _ => (h.segment ip tcpData iss).tableInv.closed p hp

theorem segment_leaves_no_live_connection_rst_ack :
    let m := (((TCPConnectionManager.init []).listen 0x0100007F 9000).2.processIncomingSegment
      fromClient (tcpSegment client [] TCPHeader.syn) 5000).2
    let seg := tcpSegment { client with localSeq := 1001 } [] (TCPHeader.rst ||| TCPHeader.ack)
    let m' := (m.processIncomingSegment fromClient seg 0).2
    let header := (TCPHeader.ofImage seg).toHostOrder
    Reach m ∧ ∀ p ∈ m'.connections,
      (m'.heap p).hasTuple fromClient.dstIp header.dstPort fromClient.srcIp header.srcPort →
      (m'.heap p).stateMachine.currentState = .closed :=
  let h := ((Reach.init []).listen _ _).segment _ _ _
  ⟨h, segment_leaves_no_live_connection h _ _ _⟩

/-- `accept_connection` returns a null pointer in every reachable state. -/
theorem acceptConnection_returns_none (h : Reach m) (inbound : List (IPHeader × Bytes × BitVec 32)) :
    (m.acceptConnection inbound).1 = none :=
  h.tableInv.acceptConnection_fst inbound

theorem acceptConnection_returns_none_handshake :
    let m := ((TCPConnectionManager.init []).listen 0x0100007F 9000).2
    Reach m ∧ (m.acceptConnection
      [(fromClient, tcpSegment client [] TCPHeader.syn, 5000),
       (fromClient, tcpSegment { client with localSeq := 1001, localAck := 5001 } [] TCPHeader.ack,
        0)]).1 = none :=
  let h := (Reach.init []).listen _ _
  ⟨h, acceptConnection_returns_none h _⟩

end TcpStack.Table
