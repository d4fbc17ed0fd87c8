import TcpStack.Table

namespace TcpStack.Peers

open Wire StateMachine IpLayer ConnectionManager TCPConnectionManager Table

/-- One public operation of a manager, with any arguments. -/
inductive Op : TCPConnectionManager → TCPConnectionManager → Prop
  | listen (m : TCPConnectionManager) (localIp : BitVec 32) (localPort : BitVec 16) :
      Op m (m.listen localIp localPort).2
  | connect (m : TCPConnectionManager) (localIp : BitVec 32) (localPort : BitVec 16)
      (remoteIp : BitVec 32) (remotePort : BitVec 16) (iss : BitVec 32) :
      Op m (m.connect localIp localPort remoteIp remotePort iss).2
  | accept (m : TCPConnectionManager) (inbound : List (IPHeader × Bytes × BitVec 32)) :
      Op m (m.acceptConnection inbound).2
  | send (m : TCPConnectionManager) (p : Nat) (data : Bytes) (flags : BitVec 8) :
      Op m (m.sendSegment p data flags).2
  | close (m : TCPConnectionManager) (p : Nat) : Op m (m.closeConnection p).2
  | segment (m : TCPConnectionManager) (ip : IPHeader) (tcpData : Bytes) (iss : BitVec 32) :
      Op m (m.processIncomingSegment ip tcpData iss).2

theorem reach_of_op {m m' : TCPConnectionManager} (h : Reach m) (ho : Op m m') : Reach m' := by
  cases ho with
  | listen => exact h.listen _ _
  | connect => exact h.connect _ _ _ _ _
  | accept => exact h.accept _
  | send => exact h.send _ _ _
  | close => exact h.close _
  | segment => exact h.segment _ _ _

def sent (m : TCPConnectionManager) : List Transmit :=
  (m.ipLayer.handed.filter (·.2)).map (·.1)

/-- Two managers joined by one link; `toA` and `toB` count the packets of the
other side already delivered. -/
structure Network where
  a : TCPConnectionManager
  b : TCPConnectionManager
  toA : Nat
  toB : Nat

def start (outcomesA outcomesB : List Bool) : Network :=
  ⟨.init outcomesA, .init outcomesB, 0, 0⟩

/-- An operation of either side, or the next packet one side sent reaching the
other, parsed and drained as `accept_connection` does. -/
inductive Step : Network → Network → Prop
  | opA {n : Network} {a : TCPConnectionManager} : Op n.a a → Step n { n with a }
  | opB {n : Network} {b : TCPConnectionManager} : Op n.b b → Step n { n with b }
  | deliverToB {n : Network} {t : Transmit} {ip : IPHeader} {payload : Bytes} (packetId : BitVec 16)
      (iss : BitVec 32) : (sent n.a)[n.toB]? = some t →
      IPLayer.parsePacket (IPLayer.createPacket t.srcIp t.dstIp t.protocol t.payload packetId) =
        some (ip, payload) →
      Step n { n with b := n.b.drainInbound [(ip, payload, iss)], toB := n.toB + 1 }
  | deliverToA {n : Network} {t : Transmit} {ip : IPHeader} {payload : Bytes} (packetId : BitVec 16)
      (iss : BitVec 32) : (sent n.b)[n.toA]? = some t →
      IPLayer.parsePacket (IPLayer.createPacket t.srcIp t.dstIp t.protocol t.payload packetId) =
        some (ip, payload) →
      Step n { n with a := n.a.drainInbound [(ip, payload, iss)], toA := n.toA + 1 }

def Quiet (n : Network) : Prop := Reach n.a ∧ Reach n.b ∧ n.toA = 0 ∧ n.toB = 0

theorem sent_eq_nil {m : TCPConnectionManager} (h : Reach m) : sent m = [] := by
  simp [sent, h.silent.handed]

theorem Quiet.step {n n' : Network} (h : Quiet n) (hs : Step n n') : Quiet n' := by
  obtain ⟨ha, hb, h0, h1⟩ := h
  cases hs with
  | opA ho => exact ⟨reach_of_op ha ho, hb, h0, h1⟩
  | opB ho => exact ⟨ha, reach_of_op hb ho, h0, h1⟩
  | deliverToB _ _ ht _ => simp [sent_eq_nil ha] at ht
  | deliverToA _ _ ht _ => simp [sent_eq_nil hb] at ht

/-- The pair never talks: along every interleaving of operations and in-order
deliveries, no packet is sent and no connection of either side is ESTABLISHED. -/
theorem network_never_connects (outcomesA outcomesB : List Bool) {n : Network}
    (h : Relation.ReflTransGen Step (start outcomesA outcomesB) n) :
    sent n.a = [] ∧ sent n.b = [] ∧ n.toA = 0 ∧ n.toB = 0 ∧
      ∀ p, (n.a.heap p).stateMachine.currentState ≠ .established ∧
        (n.b.heap p).stateMachine.currentState ≠ .established := by
  have hq : Quiet n := by
    induction h with
    | refl => exact ⟨.init _, .init _, rfl, rfl⟩
    | tail _ hs ih => exact ih.step hs
  obtain ⟨ha, hb, h0, h1⟩ := hq
  refine ⟨sent_eq_nil ha, sent_eq_nil hb, h0, h1, fun p => ⟨?_, ?_⟩⟩
  · rcases ha.silent.mute p with hs | hs <;> simp [hs]
  · rcases hb.silent.mute p with hs | hs <;> simp [hs]

theorem network_never_connects_handshake :
    let n : Network := ⟨((TCPConnectionManager.init []).listen 0x0100007F 9000).2,
      ((TCPConnectionManager.init []).connect 0x0200007F 12345 0x0100007F 9000 1000).2, 0, 0⟩
    Relation.ReflTransGen Step (start [] []) n ∧
      sent n.a = [] ∧ sent n.b = [] ∧ n.toA = 0 ∧ n.toB = 0 ∧
      ∀ p, (n.a.heap p).stateMachine.currentState ≠ .established ∧
        (n.b.heap p).stateMachine.currentState ≠ .established :=
  have h : Relation.ReflTransGen Step (start [] [])
      ⟨((TCPConnectionManager.init []).listen 0x0100007F 9000).2,
        ((TCPConnectionManager.init []).connect 0x0200007F 12345 0x0100007F 9000 1000).2, 0, 0⟩ :=
    .tail (.single (.opA (.listen _ _ _))) (.opB (.connect _ _ _ _ _ _))
  ⟨h, network_never_connects [] [] h⟩

theorem edit_listeningSockets {m m' : TCPConnectionManager} (he : Edits.Edit m m') :
    m'.listeningSockets = m.listeningSockets := by
  cases he with
  | setConn => rfl
  | send data flags => simp
  | remove => rfl
  | push => rfl

theorem edits_listeningSockets {m m' : TCPConnectionManager} (he : Relation.ReflTransGen Edits.Edit m m') :
    m'.listeningSockets = m.listeningSockets :=
  Edits.edits_induction (fun m' => m'.listeningSockets = m.listeningSockets)
    (fun _ _ h e => (edit_listeningSockets e).trans h) he rfl

theorem op_listeningSockets {m m' : TCPConnectionManager} (ho : Op m m') :
    m.listeningSockets <+: m'.listeningSockets := by
  cases ho with
  | listen => exact List.prefix_append _ _
  | connect => exact (congrArg (fun r => m.listeningSockets <+: r.2.listeningSockets) (connect_eq m)).mpr (List.prefix_refl _)
  | accept inbound => exact (edits_listeningSockets (Edits.edits_drainInbound _ inbound)) ▸ List.prefix_refl _
  | send => simp
  | close => simp [closeConnection]
  | segment ip tcpData iss =>
      exact (edits_listeningSockets (Edits.edits_processIncomingSegment _ ip tcpData iss)) ▸ List.prefix_refl _

/-- A manager never stops listening: along every run of its operations every
listener stays, so a closed listening socket's port keeps accepting SYNs. -/
theorem listening_never_stops {m m' : TCPConnectionManager} (h : Relation.ReflTransGen Op m m') :
    m.listeningSockets <+: m'.listeningSockets := by
  induction h with
  | refl => exact List.prefix_refl _
  | tail _ ho ih => exact ih.trans (op_listeningSockets ho)

theorem listening_never_stops_syn_close :
    let m : TCPConnectionManager := ((TCPConnectionManager.init []).listen 0x0100007F 9000).2
    let m' := ((m.processIncomingSegment fromClient (tcpSegment client [] TCPHeader.syn) 5000).2.closeConnection 0).2
    Relation.ReflTransGen Op m m' ∧ m.listeningSockets <+: m'.listeningSockets :=
  have h : Relation.ReflTransGen Op ((TCPConnectionManager.init []).listen 0x0100007F 9000).2
      ((((TCPConnectionManager.init []).listen 0x0100007F 9000).2.processIncomingSegment fromClient
        (tcpSegment client [] TCPHeader.syn) 5000).2.closeConnection 0).2 :=
    .tail (.single (.segment _ _ _ _)) (.close _ _)
  ⟨h, listening_never_stops h⟩

end TcpStack.Peers
