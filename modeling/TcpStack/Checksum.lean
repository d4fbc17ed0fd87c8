import TcpStack.Codec

namespace TcpStack.Checksum

open Wire Codec

/-- The plain sum `checksum_accumulate` adds on a little-endian host: native
words `b0 + 256 b1`, an odd byte shifted left by eight. -/
def nativeSum : Bytes → Nat
  | b0 :: b1 :: rest => b0.toNat + 256 * b1.toNat + nativeSum rest
  | [b] => 256 * b.toNat
  | [] => 0

def wordSum : Bytes → Nat
  | b0 :: b1 :: rest => 256 * b0.toNat + b1.toNat + wordSum rest
  | [b] => 256 * b.toNat
  | [] => 0

def onesFold (s : Nat) : Nat := if s = 0 then 0 else (s - 1) % 65535 + 1

def rfcChecksum (data : Bytes) : Nat := 0xFFFF - internetSum data

/-- The bytes the code's sum stands for in network order: an odd byte goes on
the left of its word, where RFC 1071 puts it on the right. -/
def padLeft : Bytes → Bytes
  | b0 :: b1 :: rest => b0 :: b1 :: padLeft rest
  | [b] => [0, b]
  | [] => []

section Sums

theorem checksumAccumulate_toNat : ∀ (data : Bytes) (sum : BitVec 32),
    (checksumAccumulate data sum).toNat = (sum.toNat + nativeSum data) % 2 ^ 32
  | b0 :: b1 :: rest, sum => by
      have hw : ((load16 b0 b1).setWidth 32).toNat = b0.toNat + 256 * b1.toNat := by
        have := b0.isLt
        have := b1.isLt
        simp only [BitVec.toNat_setWidth, load16, BitVec.toNat_ofNat]
        omega
      rw [checksumAccumulate, checksumAccumulate_toNat rest, BitVec.toNat_add, hw, nativeSum, Nat.mod_add_mod,
        Nat.add_assoc]
  | [b], sum => by
      have hb : (b.setWidth 32 <<< 8).toNat = 256 * b.toNat := by
        have := b.isLt
        simp only [BitVec.toNat_shiftLeft, BitVec.toNat_setWidth, Nat.shiftLeft_eq]
        omega
      rw [checksumAccumulate, BitVec.toNat_add, hb, nativeSum]
  | [], sum => by
      rw [checksumAccumulate, nativeSum, Nat.add_zero, Nat.mod_eq_of_lt sum.isLt]

theorem nativeSum_le : ∀ data : Bytes, nativeSum data ≤ 65535 * ((data.length + 1) / 2)
  | b0 :: b1 :: rest => by
      have := b0.isLt
      have := b1.isLt
      have := nativeSum_le rest
      simp only [nativeSum, List.length_cons]
      omega
  | [b] => by
      have := b.isLt
      simp only [nativeSum, List.length_singleton]
      omega
  | [] => Nat.zero_le _

/-- A native word is a byte-swapped big-endian word and 65536 is 1 modulo 65535
(RFC 1071, byte-order independence). -/
theorem wordSum_padLeft_mod : ∀ data : Bytes, wordSum (padLeft data) % 65535 = 256 * nativeSum data % 65535
  | b0 :: b1 :: rest => by
      have := wordSum_padLeft_mod rest
      simp only [padLeft, wordSum, nativeSum]
      omega
  | [b] => by
      simp only [padLeft, wordSum, nativeSum, BitVec.ofNat_eq_ofNat, BitVec.toNat_ofNat, Nat.zero_mod]
      omega
  | [] => rfl

theorem wordSum_padLeft_eq_zero : ∀ data : Bytes, wordSum (padLeft data) = 0 ↔ nativeSum data = 0
  | b0 :: b1 :: rest => by
      have := wordSum_padLeft_eq_zero rest
      simp only [padLeft, wordSum, nativeSum]
      omega
  | [b] => by
      simp only [padLeft, wordSum, nativeSum, BitVec.ofNat_eq_ofNat, BitVec.toNat_ofNat, Nat.zero_mod]
      omega
  | [] => Iff.rfl

theorem padLeft_of_even : ∀ data : Bytes, data.length % 2 = 0 → padLeft data = data
  | b0 :: b1 :: rest, h => by
      rw [padLeft, padLeft_of_even rest (by simp only [List.length_cons] at h; omega)]
  | [_], h => by simp at h
  | [], _ => rfl

theorem checksumAccumulate_append : ∀ (a : Bytes), a.length % 2 = 0 → ∀ b sum,
    checksumAccumulate (a ++ b) sum = checksumAccumulate b (checksumAccumulate a sum)
  | b0 :: b1 :: rest, h, b, sum => by
      rw [List.cons_append, List.cons_append, checksumAccumulate, checksumAccumulate,
        checksumAccumulate_append rest (by simp only [List.length_cons] at h; omega)]
  | [_], h, _, _ => by simp at h
  | [], _, _, _ => rfl

theorem foldl_checksumAccumulate : ∀ (segments : List Bytes), (∀ seg ∈ segments.dropLast, seg.length % 2 = 0) →
    ∀ sum, segments.foldl (fun sum seg => checksumAccumulate seg sum) sum = checksumAccumulate segments.flatten sum
  | [], _, _ => rfl
  | [seg], _, sum => by simp
  | seg :: seg' :: rest, h, sum => by
      have hseg : seg.length % 2 = 0 := h seg (by simp)
      rw [List.foldl_cons, foldl_checksumAccumulate (seg' :: rest) (fun s hs => h s (by simp [hs]))]
      exact (checksumAccumulate_append seg hseg _ sum).symm

end Sums

section Folding

theorem onesFold_le (s : Nat) : onesFold s ≤ 65535 := by
  unfold onesFold
  split <;> omega

theorem onesFold_mod (s : Nat) : onesFold s % 65535 = s % 65535 := by
  unfold onesFold
  split <;> omega

theorem onesFold_eq {z s : Nat} (hz : 0 < z) (hle : z ≤ 65535) (hs : s ≠ 0) (h : z % 65535 = s % 65535) :
    onesFold s = z := by
  rw [onesFold, if_neg hs]
  omega

theorem onesAdd_onesFold {w : Nat} (hw : w < 65536) (s : Nat) : onesAdd w (onesFold s) = onesFold (w + s) := by
  have hle := onesFold_le s
  have hmod := onesFold_mod s
  by_cases h0 : w + s = 0
  · rw [h0, show s = 0 by omega, show w = 0 by omega]
    rfl
  · have hpos : s ≠ 0 → 0 < onesFold s := fun hs => by rw [onesFold, if_neg hs]; omega
    symm
    unfold onesAdd
    split <;> apply onesFold_eq _ _ h0 <;> omega

theorem internetSum_eq_onesFold : ∀ data : Bytes, internetSum data = onesFold (wordSum data)
  | b0 :: b1 :: rest => by
      have := b0.isLt
      have := b1.isLt
      rw [internetSum, internetSum_eq_onesFold rest, onesAdd_onesFold (by omega), wordSum]
  | [b] => by
      have := b.isLt
      simp only [internetSum, wordSum, onesFold]
      split_ifs <;> omega
  | [] => rfl

theorem addCarries_two (sum : BitVec 32) : (addCarries 2 sum).toNat = onesFold sum.toNat := by
  have hs := sum.isLt
  simp only [addCarries, onesFold]
  split_ifs <;> simp only [carry_shift_eq_zero_iff, carry_fold_toNat] at * <;> omega

theorem onesFold_swap {x y : Nat} (hmod : x % 65535 = 256 * y % 65535) (hzero : x = 0 ↔ y = 0) :
    onesFold x = onesFold y / 256 + 256 * (onesFold y % 256) := by
  by_cases hy : y = 0
  · rw [hzero.2 hy, hy]
    rfl
  · have hle := onesFold_le y
    have hf := onesFold_mod y
    have hpos : 0 < onesFold y := by rw [onesFold, if_neg hy]; omega
    apply onesFold_eq _ _ (mt hzero.1 hy) <;> omega

theorem swap_complement {F : Nat} (hF : F < 65536) :
    (65535 - (F / 256 + 256 * (F % 256))) / 256 + 256 * ((65535 - (F / 256 + 256 * (F % 256))) % 256) =
      65535 - F := by
  omega

end Folding

theorem calculateChecksum_padLeft (data : Bytes) (hlen : data.length ≤ 131074) :
    calculateChecksum data = htons (.ofNat 16 (rfcChecksum (padLeft data))) := by
  have hsum : nativeSum data < 2 ^ 32 := by
    have := nativeSum_le data
    omega
  have hacc : (checksumAccumulate data 0).toNat = nativeSum data := by
    rw [checksumAccumulate_toNat, show (0 : BitVec 32).toNat = 0 from rfl, Nat.zero_add, Nat.mod_eq_of_lt hsum]
  have hF := addCarries_lt (checksumAccumulate data 0)
  rw [addCarries_two, hacc] at hF
  have hrfc : internetSum (padLeft data) = onesFold (nativeSum data) / 256 + 256 * (onesFold (nativeSum data) % 256) := by
    rw [internetSum_eq_onesFold]
    exact onesFold_swap (wordSum_padLeft_mod data) (wordSum_padLeft_eq_zero data)
  apply BitVec.eq_of_toNat_eq
  rw [htons_toNat, calculateChecksum, BitVec.toNat_setWidth, BitVec.toNat_not, addCarries_two, hacc,
    BitVec.toNat_ofNat, rfcChecksum, hrfc]
  generalize onesFold (nativeSum data) = F at hF ⊢
  rw [Nat.mod_eq_of_lt (show 65535 - (F / 256 + 256 * (F % 256)) < 2 ^ 16 by omega), swap_complement hF]
  omega

/-- What both `calculate_checksum` overloads compute on a little-endian host:
the RFC 1071 checksum in network order of the bytes with an odd last byte
padded on the left, so RFC 1071's own for an even length. -/
theorem calculateChecksumSegments_rfc (segments : List Bytes)
    (heven : ∀ seg ∈ segments.dropLast, seg.length % 2 = 0) (hlen : segments.flatten.length ≤ 131074) :
    calculateChecksumSegments segments = calculateChecksum segments.flatten ∧
      calculateChecksum segments.flatten = htons (.ofNat 16 (rfcChecksum (padLeft segments.flatten))) ∧
      (segments.flatten.length % 2 = 0 →
        calculateChecksum segments.flatten = htons (.ofNat 16 (rfcChecksum segments.flatten))) := by
  have hpad := calculateChecksum_padLeft segments.flatten hlen
  refine ⟨?_, hpad, fun h => by rwa [padLeft_of_even _ h] at hpad⟩
  rw [calculateChecksumSegments, calculateChecksum, foldl_checksumAccumulate segments heven]

theorem calculateChecksumSegments_rfc_three :
    (∀ seg ∈ [[(0x12 : BitVec 8), 0x34], [0x56]].dropLast, seg.length % 2 = 0) ∧
      [[(0x12 : BitVec 8), 0x34], [0x56]].flatten.length ≤ 131074 ∧
      calculateChecksumSegments [[0x12, 0x34], [0x56]] = calculateChecksum [0x12, 0x34, 0x56] ∧
      calculateChecksum [0x12, 0x34, 0x56] = htons (.ofNat 16 (rfcChecksum (padLeft [0x12, 0x34, 0x56]))) ∧
      ([(0x12 : BitVec 8), 0x34, 0x56].length % 2 = 0 →
        calculateChecksum [0x12, 0x34, 0x56] = htons (.ofNat 16 (rfcChecksum [0x12, 0x34, 0x56]))) :=
  ⟨by decide, by decide, calculateChecksumSegments_rfc [[0x12, 0x34], [0x56]] (by decide) (by decide)⟩

/-- A trailing odd byte lands in the wrong half of its word: for the byte 0x01
the code stores FF FE where RFC 1071 sends FE FF. -/
theorem odd_byte_checksum_swapped :
    calculateChecksum [0x01] = 0xFEFF ∧ bytes16 (calculateChecksum [0x01]) = [0xFF, 0xFE] ∧
      calculateChecksumSegments [[0x01]] = 0xFEFF ∧ rfcChecksum [0x01] = 0xFEFF ∧
      bytes16 (htons (.ofNat 16 (rfcChecksum [0x01]))) = [0xFE, 0xFF] := by
  decide

end TcpStack.Checksum
