import TcpStack.Receive

namespace TcpStack.Transmit

open Wire StateMachine Reliability ConnectionManager TCPConnectionManager Socket Table Receive

def unackedKeys (r : TCPReliability) : List (BitVec 32 × Bytes) :=
  r.unackedSegments.map fun s => (s.seqNum, s.data)

/-- What sending may do to the engine: append one segment, and leave the
acknowledgment state and the peer window alone. -/
def Grows (r r' : TCPReliability) : Prop :=
  r'.lastAckReceived = r.lastAckReceived ∧ r'.remoteWindowSize = r.remoteWindowSize ∧
    unackedKeys r <+: unackedKeys r'

theorem Grows.refl (r : TCPReliability) : Grows r r := ⟨rfl, rfl, List.prefix_refl _⟩

theorem Grows.trans {r r' r'' : TCPReliability} (h : Grows r r') (h' : Grows r' r'') : Grows r r'' :=
  ⟨h'.1.trans h.1, h'.2.1.trans h.2.1, h.2.2.trans h'.2.2⟩

theorem grows_getDataToSend (r : TCPReliability) (maxSize now : Nat) :
    Grows r (r.getDataToSend maxSize now).2 := by
  dsimp only [TCPReliability.getDataToSend]
  split
  · exact Grows.refl _
  · exact ⟨rfl, rfl, by simp [unackedKeys]⟩

theorem grows_bufferData (r : TCPReliability) (data : Bytes) : Grows r (r.bufferData data) :=
  Grows.refl r

theorem retransmitSegments_fst (p : Nat) (r : TCPReliability) (now : Nat) :
    ∀ segments m, (retransmitSegments p r now segments m).1 =
      segments.map fun s => if r.shouldRetransmit now s then TCPReliability.markSegmentSent s now else s := by
  intro segments
  induction segments with
  | nil => exact fun _ => rfl
  | cons segment rest ih =>
      intro m
      rw [retransmitSegments]
      split <;> simp [*]

section Steps

variable (P : TCPReliability → Prop) (hsend : ∀ r maxSize now, P r → P (r.getDataToSend maxSize now).2)

include hsend

theorem sendLoop_preserves (p length now : Nat) :
    ∀ fuel total r m, P r → P (sendLoop p length now fuel total r m).2.1 := by
  intro fuel
  induction fuel with
  | zero => exact fun _ _ _ h => h
  | succ fuel ih =>
      intro total r m h
      rw [sendLoop.eq_2]
      dsimp only
      split_ifs
      · exact hsend _ _ _ h
      · exact ih _ _ _ (hsend _ _ _ h)
      · exact hsend _ _ _ h
      · exact h

/-- A step touches a socket's engine only where a send runs the send loop and a
sweep marks the segments that are due. -/
theorem step_preserves (hbuf : ∀ r data, P r → P (r.bufferData data))
    (hmark : ∀ (r : TCPReliability) (now : Nat), P r → P { r with
      unackedSegments := r.unackedSegments.map fun s =>
        if r.shouldRetransmit now s then TCPReliability.markSegmentSent s now else s })
    (x : TCPSocket × TCPConnectionManager) (a : SocketAction) (h : P x.1.reliability) :
    P (step x a).1.reliability := by
  obtain ⟨s, m⟩ := x
  cases a with
  | send data now =>
      simp only [step, TCPSocket.send]
      split
      · exact h
      · split
        · exact h
        · exact sendLoop_preserves P hsend _ _ _ _ _ _ _ (hbuf _ data h)
  | recv length =>
      simp only [step, TCPSocket.recv]
      split_ifs <;> exact h
  | sweep now =>
      simp only [step, TCPSocket.sweep]
      split
      · exact h
      · rw [retransmitSegments_fst]
        exact hmark _ now h
  | close => exact h
  | segment ip tcpData iss => exact h

end Steps

theorem grows_mark (r : TCPReliability) (now : Nat) :
    Grows r { r with unackedSegments := r.unackedSegments.map fun s =>
      if r.shouldRetransmit now s then TCPReliability.markSegmentSent s now else s } := by
  refine ⟨rfl, rfl, ?_⟩
  simp [unackedKeys, Function.comp_def, apply_ite, TCPReliability.markSegmentSent]

theorem grows_step (x : TCPSocket × TCPConnectionManager) (a : SocketAction) :
    Grows x.1.reliability (step x a).1.reliability :=
  step_preserves (Grows x.1.reliability) (fun r _ _ h => h.trans (grows_getDataToSend r _ _))
    (fun r data h => h.trans (grows_bufferData r data)) (fun r now h => h.trans (grows_mark r now)) x a (Grows.refl _)

/-- Nothing the peer sends reaches a socket's engine: along every run
`get_last_ack()` and the peer window keep their values and the unacked list
only grows. -/
theorem engine_ignores_acks (x : TCPSocket × TCPConnectionManager) (actions : List SocketAction) :
    let r := (run x actions).1.reliability
    r.getLastAck = x.1.reliability.getLastAck ∧
      r.remoteWindowSize = x.1.reliability.remoteWindowSize ∧
      unackedKeys x.1.reliability <+: unackedKeys r :=
  run_induction (fun y => Grows x.1.reliability y.1.reliability)
    (fun y a h => h.trans (grows_step y a)) actions x (Grows.refl _)

theorem retransmitSegments_stateMachine (p : Nat) (r : TCPReliability) (now : Nat) :
    ∀ segments m q, ((retransmitSegments p r now segments m).2.heap q).stateMachine = (m.heap q).stateMachine := by
  intro segments
  induction segments with
  | nil => exact fun _ _ => rfl
  | cons segment rest ih =>
      intro m q
      rw [retransmitSegments]
      split <;> simp [ih]

/-- No unacknowledged segment has been re-sent more often than the cap. -/
def CountsCapped (r : TCPReliability) : Prop :=
  ∀ s ∈ r.unackedSegments, s.retransmitCount ≤ r.maxRetransmits

instance : DecidablePred CountsCapped := fun r =>
  inferInstanceAs (Decidable (∀ s ∈ r.unackedSegments, s.retransmitCount ≤ r.maxRetransmits))

theorem countsCapped_getDataToSend {r : TCPReliability} (h : CountsCapped r) (maxSize now : Nat) :
    CountsCapped (r.getDataToSend maxSize now).2 := by
  intro s hs
  rw [TCPReliability.getDataToSend_unacked] at hs
  have hm : (r.getDataToSend maxSize now).2.maxRetransmits = r.maxRetransmits := by
    dsimp only [TCPReliability.getDataToSend]; split <;> rfl
  rw [hm]
  rcases List.mem_append.1 hs with hs | hs
  · exact h s hs
  · split at hs
    · simp at hs
    · simp only [List.mem_singleton] at hs
      subst hs
      exact BitVec.le_def.2 (Nat.zero_le _)

theorem countsCapped_mark {r : TCPReliability} (h : CountsCapped r) (now : Nat) :
    CountsCapped { r with unackedSegments := r.unackedSegments.map fun s =>
      if r.shouldRetransmit now s then TCPReliability.markSegmentSent s now else s } := by
  intro s hs
  obtain ⟨t, ht, rfl⟩ := List.mem_map.1 hs
  split
  · next hd =>
      have hlt : t.retransmitCount < r.maxRetransmits := by
        simp only [TCPReliability.shouldRetransmit, Bool.and_eq_true, decide_eq_true_eq] at hd
        exact hd.2
      have := r.maxRetransmits.isLt
      rw [BitVec.lt_def] at hlt
      show t.retransmitCount + 1 ≤ r.maxRetransmits
      have h1 : (1 : BitVec 8).toNat = 1 := rfl
      rw [BitVec.le_def, BitVec.toNat_add, h1]
      omega
  · exact h t ht

theorem countsCapped_step (x : TCPSocket × TCPConnectionManager) (a : SocketAction)
    (h : CountsCapped x.1.reliability) : CountsCapped (step x a).1.reliability :=
  step_preserves CountsCapped (fun _ _ _ h => countsCapped_getDataToSend h _ _) (fun _ _ h => h)
    (fun _ now h => countsCapped_mark h now) x a h

theorem sweep_unacked (s : TCPSocket) (m : TCPConnectionManager) (p : Nat) (hp : s.connection = some p)
    (now : Nat) : (s.sweep m now).1.reliability.unackedSegments =
      s.reliability.unackedSegments.map fun seg =>
        if s.reliability.shouldRetransmit now seg then TCPReliability.markSegmentSent seg now else seg := by
  simp only [TCPSocket.sweep, hp]
  exact retransmitSegments_fst _ _ _ _ _

theorem rto_step (x : TCPSocket × TCPConnectionManager) (a : SocketAction) :
    (step x a).1.reliability.rto = x.1.reliability.rto :=
  step_preserves (fun r => r.rto = x.1.reliability.rto) (fun r _ _ h => (TCPReliability.getDataToSend_rto r _ _).trans h)
    (fun _ _ h => h) (fun _ _ h => h) x a rfl

/-- Retransmission runs on a fixed timer: along every run the RTO stays the
engine's first, and a sweep re-sends only a segment last sent more than that
RTO ago, restarting its timer. -/
theorem retransmission_paced (x : TCPSocket × TCPConnectionManager) (actions : List SocketAction) (now : Nat) :
    let y := run x actions
    y.1.reliability.rto = x.1.reliability.rto ∧
      List.Forall₂ (fun s s' => s' = s ∨
          x.1.reliability.rto * 1000000 < (now : Int) - s.sentTime ∧ s' = TCPReliability.markSegmentSent s now)
        y.1.reliability.unackedSegments (step y (.sweep now)).1.reliability.unackedSegments := by
  intro y
  have hrto : y.1.reliability.rto = x.1.reliability.rto :=
    run_induction (fun z => z.1.reliability.rto = x.1.reliability.rto) (fun z a h => (rto_step z a).trans h)
      actions x rfl
  refine ⟨hrto, ?_⟩
  clear_value y
  obtain ⟨s, m⟩ := y
  show List.Forall₂ _ s.reliability.unackedSegments (s.sweep m now).1.reliability.unackedSegments
  cases hp : s.connection with
  | none =>
      simp only [TCPSocket.sweep, hp]
      exact List.forall₂_same.2 fun _ _ => .inl rfl
  | some p =>
      rw [sweep_unacked s m p hp now, List.forall₂_map_right_iff]
      refine List.forall₂_same.2 fun seg _ => ?_
      split
      · next hd =>
          simp only [TCPReliability.shouldRetransmit, Bool.and_eq_true, decide_eq_true_eq] at hd
          exact .inr ⟨hrto ▸ hd.1.2, rfl⟩
      · exact .inl rfl

end TcpStack.Transmit
