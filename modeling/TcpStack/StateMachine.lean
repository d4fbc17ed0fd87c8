import Mathlib.Data.List.Chain

namespace TcpStack.StateMachine

inductive TCPState
  | closed
  | listen
  | synSent
  | synReceived
  | established
  | finWait1
  | finWait2
  | closeWait
  | closing
  | lastAck
  | timeWait
  deriving DecidableEq, Repr

inductive TCPEvent
  | passiveOpen
  | activeOpen
  | synReceived
  | synAckReceived
  | ackReceived
  | finReceived
  | close
  | timeout
  | rstReceived
  deriving DecidableEq, Repr

/-- `TCPStateMachine::transition`, one arm per `case` of the nested `switch`;
an event a state does not list leaves it where it is. -/
def transition : TCPState → TCPEvent → TCPState
  | .closed, .passiveOpen => .listen
  | .closed, .activeOpen => .synSent
  | .listen, .synReceived => .synReceived
  | .listen, .close => .closed
  | .synSent, .synAckReceived => .established
  | .synSent, .synReceived => .synReceived
  | .synSent, .close | .synSent, .timeout | .synSent, .rstReceived => .closed
  | .synReceived, .ackReceived => .established
  | .synReceived, .close | .synReceived, .rstReceived => .closed
  | .established, .close => .finWait1
  | .established, .finReceived => .closeWait
  | .established, .rstReceived => .closed
  | .finWait1, .ackReceived => .finWait2
  | .finWait1, .finReceived => .closing
  | .finWait1, .rstReceived => .closed
  | .finWait2, .finReceived => .timeWait
  | .finWait2, .rstReceived => .closed
  | .closeWait, .close => .lastAck
  | .closeWait, .rstReceived => .closed
  | .closing, .ackReceived => .timeWait
  | .closing, .rstReceived => .closed
  | .lastAck, .ackReceived | .lastAck, .rstReceived => .closed
  | .timeWait, .timeout | .timeWait, .rstReceived => .closed
  | current, _ => current

structure TCPStateMachine where
  currentState : TCPState
  deriving DecidableEq, Repr

namespace TCPStateMachine

def init : TCPStateMachine := ⟨.closed⟩

def getState (sm : TCPStateMachine) : TCPState := sm.currentState

def processEvent (sm : TCPStateMachine) (event : TCPEvent) : TCPStateMachine :=
  ⟨transition sm.currentState event⟩

def isEstablished (sm : TCPStateMachine) : Bool := sm.currentState == .established

def isClosed (sm : TCPStateMachine) : Bool := sm.currentState == .closed

def canSendData (sm : TCPStateMachine) : Bool :=
  sm.currentState == .established || sm.currentState == .closeWait

def canReceiveData (sm : TCPStateMachine) : Bool :=
  sm.currentState == .established || sm.currentState == .finWait1 ||
    sm.currentState == .finWait2

@[simp] theorem processEvent_currentState (sm : TCPStateMachine) (event : TCPEvent) :
    (sm.processEvent event).currentState = transition sm.currentState event := rfl

@[simp] theorem init_currentState : init.currentState = .closed := rfl

def processEvents (sm : TCPStateMachine) (events : List TCPEvent) : TCPStateMachine :=
  events.foldl processEvent sm

def trace (sm : TCPStateMachine) : List TCPEvent → List TCPState
  | [] => [sm.currentState]
  | event :: events => sm.currentState :: trace (sm.processEvent event) events

@[simp] theorem processEvents_nil (sm : TCPStateMachine) : sm.processEvents [] = sm := rfl

@[simp] theorem processEvents_cons (sm : TCPStateMachine) (event : TCPEvent) (events : List TCPEvent) :
    sm.processEvents (event :: events) = (sm.processEvent event).processEvents events := rfl

theorem trace_head? (sm : TCPStateMachine) (events : List TCPEvent) :
    (sm.trace events).head? = some sm.currentState := by
  cases events <;> rfl

theorem currentState_mem_trace (sm : TCPStateMachine) (events : List TCPEvent) :
    sm.currentState ∈ sm.trace events := by
  cases events <;> exact List.mem_cons_self _ _

theorem canSendData_or_canReceiveData (sm : TCPStateMachine)
    (h : sm.canSendData = true ∨ sm.canReceiveData = true) :
    sm.currentState = .established ∨ sm.currentState = .closeWait ∨ sm.currentState = .finWait1 ∨
      sm.currentState = .finWait2 := by
  rcases sm with ⟨s⟩
  cases s <;> simp_all [canSendData, canReceiveData]

end TCPStateMachine

theorem transition_closed (event : TCPEvent) (hp : event ≠ .passiveOpen)
    (ha : event ≠ .activeOpen) : transition .closed event = .closed := by
  cases event <;> first | rfl | contradiction

theorem canSendData_processEvent_close (sm : TCPStateMachine) :
    (sm.processEvent .close).canSendData = false := by
  rcases sm with ⟨s⟩
  cases s <;> rfl

/-- How far a connection has come: CLOSED, opening, ESTABLISHED, closing. -/
def phase : TCPState → Nat
  | .closed => 0
  | .listen | .synSent | .synReceived => 1
  | .established => 2
  | _ => 3

theorem phase_eq_two {s : TCPState} : phase s = 2 ↔ s = .established := by
  cases s <;> decide

def Advances (a b : TCPState) : Prop := b = .closed ∨ phase a ≤ phase b ∧ phase b ≤ phase a + 1

instance : DecidableRel Advances := fun a b =>
  inferInstanceAs (Decidable (b = .closed ∨ phase a ≤ phase b ∧ phase b ≤ phase a + 1))

theorem transition_advances (s : TCPState) (event : TCPEvent) : Advances s (transition s event) := by
  cases s <;> cases event <;> decide

section Lifecycle

open TCPStateMachine

theorem trace_advances (sm : TCPStateMachine) (events : List TCPEvent) :
    (sm.trace events).Chain' Advances := by
  induction events generalizing sm with
  | nil => exact List.chain'_singleton _
  | cons event events ih =>
      refine List.chain'_cons'.2 ⟨fun t ht => ?_, ih _⟩
      rw [trace_head?, Option.mem_some_iff] at ht
      exact ht ▸ transition_advances sm.currentState event

theorem established_mem_trace (sm : TCPStateMachine) (events : List TCPEvent) (h1 : phase sm.currentState ≤ 1)
    (h2 : 2 ≤ phase (sm.processEvents events).currentState) : .established ∈ sm.trace events := by
  induction events generalizing sm with
  | nil =>
      rw [processEvents_nil] at h2
      omega
  | cons event events ih =>
      apply List.mem_cons_of_mem
      by_cases he : transition sm.currentState event = .established
      · exact he ▸ currentState_mem_trace (sm.processEvent event) events
      · have hne : phase (transition sm.currentState event) ≠ 2 := mt phase_eq_two.1 he
        refine ih _ (show phase (transition sm.currentState event) ≤ 1 from ?_) h2
        rcases transition_advances sm.currentState event with hc | ⟨-, hle⟩
        · rw [hc]
          decide
        · omega

theorem closed_mem_trace (sm : TCPStateMachine) (events : List TCPEvent)
    (h : phase (sm.processEvents events).currentState < phase sm.currentState) :
    .closed ∈ (sm.trace events).tail := by
  induction events generalizing sm with
  | nil => exact absurd h (Nat.lt_irrefl _)
  | cons event events ih =>
      show .closed ∈ (sm.processEvent event).trace events
      rcases transition_advances sm.currentState event with hc | ⟨hle, -⟩
      · exact hc ▸ currentState_mem_trace (sm.processEvent event) events
      · exact List.mem_of_mem_tail (ih _ (Nat.lt_of_lt_of_le h hle))

end Lifecycle

/-- The life of a connection: each step returns the machine to CLOSED or moves
it on by at most one phase, so it reaches the closing states only through
ESTABLISHED and never reopens without passing through CLOSED. -/
theorem connection_lifecycle (sm : TCPStateMachine) (events : List TCPEvent) :
    let final := (sm.processEvents events).currentState
    (sm.trace events).Chain' Advances ∧
      (phase sm.currentState ≤ 1 → 2 ≤ phase final → .established ∈ sm.trace events) ∧
      (phase final < phase sm.currentState → .closed ∈ (sm.trace events).tail) ∧
      ((TCPStateMachine.init.processEvents events).canSendData = true ∨
          (TCPStateMachine.init.processEvents events).canReceiveData = true →
        .established ∈ TCPStateMachine.init.trace events) := by
  refine ⟨trace_advances sm events, established_mem_trace sm events, closed_mem_trace sm events, fun h => ?_⟩
  refine established_mem_trace _ events (Nat.zero_le 1) ?_
  rcases TCPStateMachine.canSendData_or_canReceiveData _ h with h | h | h | h <;> rw [h] <;> decide

/-- The arrows of RFC 793's state diagram (Figure 6) with the reset processing
of Section 3.4, for the events the table names. -/
def rfc793Next : TCPState → TCPEvent → List TCPState
  | .closed, .passiveOpen => [.listen]
  | .closed, .activeOpen => [.synSent]
  | .listen, .synReceived => [.synReceived]
  | .listen, .close => [.closed]
  | .synSent, .synReceived => [.synReceived]
  | .synSent, .synAckReceived => [.established]
  | .synSent, .close => [.closed]
  | .synReceived, .ackReceived => [.established]
  | .synReceived, .close => [.finWait1]
  | .synReceived, .rstReceived => [.listen, .closed]
  | .established, .close => [.finWait1]
  | .established, .finReceived => [.closeWait]
  | .finWait1, .ackReceived => [.finWait2]
  | .finWait1, .finReceived => [.closing]
  | .finWait2, .finReceived => [.timeWait]
  | .closeWait, .close => [.lastAck]
  | .closing, .ackReceived => [.timeWait]
  | .lastAck, .ackReceived => [.closed]
  | .timeWait, .timeout => [.closed]
  | .closed, .rstReceived | .listen, .rstReceived => []
  | _, .rstReceived => [.closed]
  | _, _ => []

def offDiagram (s : TCPState) (event : TCPEvent) : Bool :=
  (s == .synReceived && event == .close) || (s == .synSent && event == .timeout)

inductive Rfc793Path : TCPState → List TCPEvent → TCPState → Prop
  | nil (s : TCPState) : Rfc793Path s [] s
  | stay {s t : TCPState} {event : TCPEvent} {events : List TCPEvent} :
      Rfc793Path s events t → Rfc793Path s (event :: events) t
  | move {s s' t : TCPState} {event : TCPEvent} {events : List TCPEvent} :
      s' ∈ rfc793Next s event → Rfc793Path s' events t → Rfc793Path s (event :: events) t

theorem transition_on_diagram (s : TCPState) (event : TCPEvent) :
    transition s event = s ∨ transition s event ∈ rfc793Next s event ∨ offDiagram s event = true := by
  cases s <;> cases event <;> decide

theorem rfc793Next_taken (s : TCPState) (event : TCPEvent) :
    ∀ t ∈ rfc793Next s event,
      transition s event = t ∨ s = .synReceived ∧ (event = .close ∨ event = .rstReceived ∧ t = .listen) := by
  cases s <;> cases event <;> decide

namespace TCPStateMachine

def staysOnDiagram (sm : TCPStateMachine) : List TCPEvent → Bool
  | [] => true
  | event :: events => !offDiagram sm.currentState event && (sm.processEvent event).staysOnDiagram events

end TCPStateMachine

theorem processEvents_rfc793Path (sm : TCPStateMachine) (events : List TCPEvent)
    (h : sm.staysOnDiagram events = true) :
    Rfc793Path sm.currentState events (sm.processEvents events).currentState := by
  induction events generalizing sm with
  | nil => exact .nil _
  | cons event events ih =>
      simp only [TCPStateMachine.staysOnDiagram, Bool.and_eq_true, Bool.not_eq_true'] at h
      have hp := ih _ h.2
      rw [TCPStateMachine.processEvent_currentState] at hp
      rw [TCPStateMachine.processEvents_cons]
      rcases transition_on_diagram sm.currentState event with hs | hm | hoff
      · exact .stay (hs ▸ hp)
      · exact .move hm hp
      · exact absurd hoff (by rw [h.1]; decide)

/-- The state table refines RFC 793's diagram but for three moves: CLOSE in
SYN-RECEIVED goes straight to CLOSED, TIMEOUT in SYN-SENT has no arrow, and the
reset back to LISTEN is missing. A run avoiding the first two is a stuttering
path of the diagram. -/
theorem process_event_refines_rfc793 (sm : TCPStateMachine) (events : List TCPEvent) :
    (∀ s event, transition s event ≠ s → transition s event ∈ rfc793Next s event ∨ offDiagram s event = true) ∧
      (∀ s event, ∀ t ∈ rfc793Next s event,
        transition s event = t ∨ s = .synReceived ∧ (event = .close ∨ event = .rstReceived ∧ t = .listen)) ∧
      (sm.staysOnDiagram events = true →
        Rfc793Path sm.currentState events (sm.processEvents events).currentState) :=
  ⟨fun s event hne => (transition_on_diagram s event).resolve_left hne, rfc793Next_taken,
    processEvents_rfc793Path sm events⟩

theorem process_event_refines_rfc793_passive :
    let events : List TCPEvent := [.passiveOpen, .synReceived, .ackReceived, .finReceived, .close, .ackReceived]
    TCPStateMachine.init.staysOnDiagram events = true ∧ Rfc793Path .closed events .closed :=
  ⟨by decide, (process_event_refines_rfc793 TCPStateMachine.init _).2.2 (by decide)⟩

end TcpStack.StateMachine
