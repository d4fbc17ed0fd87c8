import TcpStack.Reliability

namespace TcpStack.Rtt

open Reliability TCPReliability

/-- RFC 6298's estimator in whole milliseconds, as the specification words it. -/
structure RttEstimate where
  srtt : Nat
  rttvar : Nat
  deriving DecidableEq, Repr

namespace RttEstimate

def first (R : Nat) : RttEstimate := ⟨R, R / 2⟩

def next (e : RttEstimate) (R : Nat) : RttEstimate :=
  ⟨(7 * e.srtt + R) / 8, (3 * e.rttvar + ((e.srtt : Int) - R).natAbs) / 4⟩

def rto (e : RttEstimate) : Nat := min 60000 (max 200 (e.srtt + max 100 (4 * e.rttvar)))

theorem rto_eq (e : RttEstimate) :
    min (max ((e.srtt : Int) + max 100 (4 * (e.rttvar : Int))) 200) 60000 = (e.rto : Int) := by
  rw [rto]
  omega

end RttEstimate

def rfcEstimate : List Nat → Option RttEstimate
  | [] => none
  | R :: Rs => some (Rs.foldl RttEstimate.next (RttEstimate.first R))

def updateRtts (r : TCPReliability) (samples : List Int) : TCPReliability :=
  samples.foldl TCPReliability.updateRtt r

section Smoothing

variable {old sample : Int}

theorem smooth_rttAlpha_trunc (h1 : 0 ≤ old) (h2 : 0 ≤ sample) :
    (smooth rttAlpha old sample).trunc = (7 * old + sample) / 8 := by
  simp only [smooth, rttAlpha, Dyadic.trunc, Dyadic.add_def, Dyadic.sub_def, Dyadic.mul_def, Dyadic.ofInt]
  rw [Int.tdiv_eq_ediv (by omega) (by decide)]
  omega

theorem smooth_rttBeta_trunc (h1 : 0 ≤ old) (h2 : 0 ≤ sample) :
    (smooth rttBeta old sample).trunc = (3 * old + sample) / 4 := by
  simp only [smooth, rttBeta, Dyadic.trunc, Dyadic.add_def, Dyadic.sub_def, Dyadic.mul_def, Dyadic.ofInt]
  rw [Int.tdiv_eq_ediv (by omega) (by decide)]
  omega

/-- Below 2^40 every `double` the smoothing forms fits a 53-bit significand, so
binary64 computes it exactly, as the model does. -/
theorem smooth_exact (w : Dyadic) (hw : w = rttAlpha ∨ w = rttBeta) (h1 : 0 ≤ old) (h1' : old < 2 ^ 40)
    (h2 : 0 ≤ sample) (h2' : sample < 2 ^ 40) :
    (Dyadic.ofInt old).Exact ∧ (Dyadic.ofInt sample).Exact ∧ (Dyadic.ofInt 1 - w).Exact ∧
      ((Dyadic.ofInt 1 - w) * .ofInt old).Exact ∧ (w * .ofInt sample).Exact ∧ (smooth w old sample).Exact := by
  rcases hw with rfl | rfl <;>
    simp only [Dyadic.Exact, smooth, rttAlpha, rttBeta, Dyadic.add_def, Dyadic.sub_def, Dyadic.mul_def,
      Dyadic.ofInt] <;> omega

end Smoothing

section Steps

variable {r : TCPReliability}

theorem calculateRto_rto (r : TCPReliability) :
    r.calculateRto.rto = min (max (r.srtt + max 100 (4 * r.rttvar)) 200) 60000 := rfl

@[simp] theorem calculateRto_srtt (r : TCPReliability) : r.calculateRto.srtt = r.srtt := rfl

@[simp] theorem calculateRto_rttvar (r : TCPReliability) : r.calculateRto.rttvar = r.rttvar := rfl

theorem updateRtt_of_srtt_eq_zero (h : r.srtt = 0) (rtt : Int) :
    r.updateRtt rtt = ({ r with srtt := rtt, rttvar := rtt.tdiv 2 } : TCPReliability).calculateRto := by
  rw [updateRtt, if_pos h]

theorem updateRtt_of_srtt_ne_zero (h : r.srtt ≠ 0) (rtt : Int) :
    r.updateRtt rtt =
      ({ r with rttvar := (smooth rttBeta r.rttvar (Dyadic.ofInt (r.srtt - rtt).natAbs).trunc).trunc,
                srtt := (smooth rttAlpha r.srtt rtt).trunc } : TCPReliability).calculateRto := by
  rw [updateRtt, if_neg h]

theorem updateRtt_rto (rtt : Int) :
    (r.updateRtt rtt).rto =
      min (max ((r.updateRtt rtt).srtt + max 100 (4 * (r.updateRtt rtt).rttvar)) 200) 60000 := by
  unfold updateRtt
  split <;> rfl

theorem updateRtt_first (h : r.srtt = 0) (R : Nat) :
    (r.updateRtt R).srtt = (RttEstimate.first R).srtt ∧ (r.updateRtt R).rttvar = (RttEstimate.first R).rttvar ∧
      (r.updateRtt R).rto = (RttEstimate.first R).rto := by
  have hs : (r.updateRtt R).srtt = R := by rw [updateRtt_of_srtt_eq_zero h, calculateRto_srtt]
  have hv : (r.updateRtt R).rttvar = ((R / 2 : Nat) : Int) := by
    rw [updateRtt_of_srtt_eq_zero h, calculateRto_rttvar]
    exact Int.tdiv_eq_ediv (Int.ofNat_nonneg R) (by decide : (0 : Int) ≤ 2)
  refine ⟨hs, hv, ?_⟩
  rw [updateRtt_rto, hs, hv]
  exact RttEstimate.rto_eq (RttEstimate.first R)

theorem updateRtt_next (e : RttEstimate) (hs : r.srtt = e.srtt) (hv : r.rttvar = e.rttvar) (he : e.srtt ≠ 0)
    (R : Nat) :
    (r.updateRtt R).srtt = (e.next R).srtt ∧ (r.updateRtt R).rttvar = (e.next R).rttvar ∧
      (r.updateRtt R).rto = (e.next R).rto := by
  have hne : r.srtt ≠ 0 := by omega
  have hs' : (r.updateRtt R).srtt = (e.next R).srtt := by
    rw [updateRtt_of_srtt_ne_zero hne, calculateRto_srtt, hs,
      smooth_rttAlpha_trunc (Int.ofNat_nonneg _) (Int.ofNat_nonneg _), RttEstimate.next]
    dsimp only
    omega
  have hv' : (r.updateRtt R).rttvar = (e.next R).rttvar := by
    rw [updateRtt_of_srtt_ne_zero hne, calculateRto_rttvar, hs, hv,
      show (Dyadic.ofInt ((e.srtt : Int) - R).natAbs).trunc = (((e.srtt : Int) - R).natAbs : Int) from
        Int.tdiv_one _,
      smooth_rttBeta_trunc (Int.ofNat_nonneg _) (Int.ofNat_nonneg _), RttEstimate.next]
    dsimp only
    omega
  refine ⟨hs', hv', ?_⟩
  rw [updateRtt_rto, hs', hv']
  exact RttEstimate.rto_eq (e.next R)

end Steps

/-- The engine holds the nonzero estimate `e`, below 2^40. -/
structure Tracks (r : TCPReliability) (e : RttEstimate) : Prop where
  srtt : r.srtt = e.srtt
  rttvar : r.rttvar = e.rttvar
  rto : r.rto = e.rto
  pos : 0 < e.srtt
  srtt_lt : e.srtt < 2 ^ 40
  rttvar_lt : e.rttvar < 2 ^ 40

section Tracking

variable {r : TCPReliability} {R : Nat}

theorem tracks_first (hr : r.srtt = 0) (hR : 0 < R ∧ R < 2 ^ 40) :
    Tracks (r.updateRtt R) (RttEstimate.first R) := by
  obtain ⟨hs, hv, ho⟩ := updateRtt_first hr R
  exact ⟨hs, hv, ho, hR.1, hR.2, by simp only [RttEstimate.first]; omega⟩

theorem Tracks.next {e : RttEstimate} (h : Tracks r e) (hR : 0 < R ∧ R < 2 ^ 40) :
    Tracks (r.updateRtt R) (e.next R) := by
  obtain ⟨hs, hv, ho⟩ := updateRtt_next e h.srtt h.rttvar (Nat.pos_iff_ne_zero.1 h.pos) R
  have := h.pos
  have := h.srtt_lt
  have := h.rttvar_lt
  exact ⟨hs, hv, ho, by simp only [RttEstimate.next]; omega, by simp only [RttEstimate.next]; omega,
    by simp only [RttEstimate.next]; omega⟩

theorem tracks_updateRtts : ∀ (Rs : List Nat) {r : TCPReliability} {e : RttEstimate}, Tracks r e →
    (∀ x ∈ Rs, 0 < x ∧ x < 2 ^ 40) → Tracks (updateRtts r (Rs.map (↑))) (Rs.foldl RttEstimate.next e)
  | [], _, _, h, _ => h
  | x :: xs, _, _, h, hx =>
      tracks_updateRtts xs (h.next (hx x (List.mem_cons_self _ _))) fun y hy => hx y (List.mem_cons_of_mem _ hy)

end Tracking

/-- `update_rtt` follows RFC 6298 while no sample is 0 ms: from `srtt_` 0, along
every sequence of samples in 1..2^40 - 1, SRTT, RTTVAR and RTO are those of
the recurrence, each smoothing exact in binary64. -/
theorem updateRtts_rfc (r : TCPReliability) (hr : r.srtt = 0) (R : Nat) (Rs : List Nat)
    (hpos : ∀ x ∈ R :: Rs, 0 < x ∧ x < 2 ^ 40) :
    let e := Rs.foldl RttEstimate.next (RttEstimate.first R)
    let r' := updateRtts r ((R :: Rs).map (↑))
    r'.srtt = e.srtt ∧ r'.rttvar = e.rttvar ∧ r'.rto = e.rto ∧ r'.srtt < 2 ^ 40 ∧ r'.rttvar < 2 ^ 40 := by
  intro e r'
  have h : Tracks r' e := tracks_updateRtts Rs (tracks_first hr (hpos R (List.mem_cons_self _ _)))
    fun x hx => hpos x (List.mem_cons_of_mem _ hx)
  have := h.srtt_lt
  have := h.rttvar_lt
  exact ⟨h.srtt, h.rttvar, h.rto, by rw [h.srtt]; omega, by rw [h.rttvar]; omega⟩

theorem updateRtts_rfc_three :
    TCPReliability.init.srtt = 0 ∧ (∀ x ∈ [100, 120, 80], 0 < x ∧ x < 2 ^ 40) ∧
      (updateRtts TCPReliability.init (([100, 120, 80] : List Nat).map (↑))).srtt =
          ([120, 80].foldl RttEstimate.next (RttEstimate.first 100)).srtt ∧
      (updateRtts TCPReliability.init (([100, 120, 80] : List Nat).map (↑))).rttvar =
          ([120, 80].foldl RttEstimate.next (RttEstimate.first 100)).rttvar ∧
      (updateRtts TCPReliability.init (([100, 120, 80] : List Nat).map (↑))).rto =
          ([120, 80].foldl RttEstimate.next (RttEstimate.first 100)).rto ∧
      (updateRtts TCPReliability.init (([100, 120, 80] : List Nat).map (↑))).srtt < 2 ^ 40 ∧
      (updateRtts TCPReliability.init (([100, 120, 80] : List Nat).map (↑))).rttvar < 2 ^ 40 :=
  ⟨rfl, by decide, updateRtts_rfc _ rfl 100 [120, 80] (by decide)⟩

/-- The code takes `srtt_` 0 for "no sample yet", so after a 0 ms sample the next
sample restarts the estimator. -/
theorem zero_srtt_restarts_estimator :
    let a : TCPReliability := updateRtts TCPReliability.init [0, 100]
    let b : TCPReliability := updateRtts TCPReliability.init [1, 0, 100]
    a.srtt = 100 ∧ a.rttvar = 50 ∧ a.rto = 300 ∧ (updateRtts TCPReliability.init [1, 0]).srtt = 0 ∧
      b.srtt = 100 ∧ b.rttvar = 50 ∧ b.rto = 300 ∧
      rfcEstimate [0, 100] = some ⟨12, 25⟩ ∧ rfcEstimate [1, 0, 100] = some ⟨12, 25⟩ ∧
      RttEstimate.rto ⟨12, 25⟩ = 200 := by
  decide

end TcpStack.Rtt
