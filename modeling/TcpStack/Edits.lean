import Mathlib.Logic.Relation
import TcpStack.ConnectionManager

namespace TcpStack.Edits

open Wire StateMachine ConnectionManager TCPConnectionManager

/-- One edit a segment handler makes: a write to a connection of the table that
never revives a CLOSED one, a send, a removal, or a CLOSED connection pushed
at the first unused address. -/
inductive Edit : TCPConnectionManager → TCPConnectionManager → Prop
  | setConn {m : TCPConnectionManager} {p : Nat} {c : TCPConnection} :
      p ∈ m.connections →
      ((m.heap p).stateMachine.currentState = .closed → c.stateMachine.currentState = .closed) →
      Edit m (m.setConn p c)
  | send {m : TCPConnectionManager} {p : Nat} (data : Bytes) (flags : BitVec 8) :
      p ∈ m.connections → Edit m (m.sendSegment p data flags).2
  | remove (m : TCPConnectionManager) (p : Nat) : Edit m (m.removeConnection p)
  | push (m : TCPConnectionManager) {c : TCPConnection} :
      c.stateMachine.currentState = .closed →
      Edit m { m with heap := Function.update m.heap m.nextAddr c, nextAddr := m.nextAddr + 1,
                      connections := m.connections ++ [m.nextAddr] }

variable {m : TCPConnectionManager} {p : Nat}

theorem closed_of_feed {c : TCPConnection} {s : TCPState} {e : TCPEvent}
    (hc : c.stateMachine.currentState = transition s e) (h1 : e ≠ .passiveOpen) (h2 : e ≠ .activeOpen) :
    s = .closed → c.stateMachine.currentState = .closed :=
  fun h => by rw [hc, h, transition_closed e h1 h2]

theorem edits_found {localIp remoteIp : BitVec 32} {localPort remotePort : BitVec 16} {c : TCPConnection}
    (hf : m.findConnection localIp localPort remoteIp remotePort = some p)
    (hc : (m.heap p).stateMachine.currentState = .closed → c.stateMachine.currentState = .closed)
    (data : Bytes) (flags : BitVec 8) :
    Relation.ReflTransGen Edit m ((m.setConn p c).sendSegment p data flags).2 :=
  .tail (.single (.setConn (findConnection_mem m hf) hc)) (.send data flags (findConnection_mem m hf))

section Handlers

variable (m : TCPConnectionManager) (ip : IPHeader) (header : TCPHeader)

theorem edits_handleSynSegment (iss : BitVec 32) :
    Relation.ReflTransGen Edit m (m.handleSynSegment ip header iss) := by
  unfold handleSynSegment
  split
  · exact .tail (.single (.push m rfl)) (.send _ _ (List.mem_append_right _ (List.mem_singleton_self _)))
  · exact .refl

theorem edits_handleSynAckSegment : Relation.ReflTransGen Edit m (m.handleSynAckSegment ip header) := by
  unfold handleSynAckSegment
  split
  · exact .refl
  · exact edits_found ‹_› (closed_of_feed rfl (by decide) (by decide)) _ _

theorem edits_handleAckSegment : Relation.ReflTransGen Edit m (m.handleAckSegment ip header) := by
  unfold handleAckSegment
  split
  · exact .refl
  · exact .single (.setConn (findConnection_mem m ‹_›) (closed_of_feed rfl (by decide) (by decide)))

theorem edits_handleFinSegment : Relation.ReflTransGen Edit m (m.handleFinSegment ip header) := by
  unfold handleFinSegment
  split
  · exact .refl
  · exact edits_found ‹_› (closed_of_feed rfl (by decide) (by decide)) _ _

theorem edits_handleRstSegment : Relation.ReflTransGen Edit m (m.handleRstSegment ip header) := by
  unfold handleRstSegment
  split
  · exact .refl
  · exact .tail (.single (.setConn (findConnection_mem m ‹_›) (closed_of_feed rfl (by decide) (by decide))))
      (.remove _ _)

theorem edits_handleDataSegment (data : Bytes) :
    Relation.ReflTransGen Edit m (m.handleDataSegment ip header data) := by
  unfold handleDataSegment
  split
  · exact .refl
  · split
    · refine edits_found ‹_› ?_ _ _
      exact fun h => h
    · exact .refl

theorem edits_dispatchSegment (iss : BitVec 32) :
    Relation.ReflTransGen Edit m (m.dispatchSegment ip header iss) := by
  unfold dispatchSegment
  split_ifs
  exacts [edits_handleSynAckSegment m ip header, edits_handleSynSegment m ip header iss,
    edits_handleAckSegment m ip header, edits_handleFinSegment m ip header,
    edits_handleRstSegment m ip header, .refl]

end Handlers

/-- Everything `process_incoming_segment` does is a run of edits. -/
theorem edits_processIncomingSegment (m : TCPConnectionManager) (ip : IPHeader) (tcpData : Bytes)
    (iss : BitVec 32) : Relation.ReflTransGen Edit m (m.processIncomingSegment ip tcpData iss).2 := by
  unfold processIncomingSegment
  split
  · exact .refl
  · dsimp only
    split
    · exact .refl
    · split
      · exact edits_dispatchSegment m ip _ iss
      · exact (edits_dispatchSegment m ip _ iss).trans (edits_handleDataSegment _ ip _ _)

theorem edits_drainInbound (m : TCPConnectionManager) (inbound : List (IPHeader × Bytes × BitVec 32)) :
    Relation.ReflTransGen Edit m (m.drainInbound inbound) := by
  unfold drainInbound
  induction inbound generalizing m with
  | nil => exact .refl
  | cons pkt rest ih =>
      refine Relation.ReflTransGen.trans ?_ (ih _)
      dsimp only
      split
      · exact edits_processIncomingSegment m _ _ _
      · exact .refl

theorem edits_induction (P : TCPConnectionManager → Prop) (hstep : ∀ m m', P m → Edit m m' → P m')
    {m m' : TCPConnectionManager} (he : Relation.ReflTransGen Edit m m') (h : P m) : P m' := by
  induction he with
  | refl => exact h
  | tail _ e ih => exact hstep _ _ ih e

end TcpStack.Edits
