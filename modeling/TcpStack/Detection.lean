import TcpStack.Checksum
import TcpStack.Demux

namespace TcpStack.Detection

open Wire Codec Checksum IpLayer ConnectionManager

def weightedSum (w : Nat → Nat) : Nat → Bytes → Nat
  | _, [] => 0
  | k, x :: rest => w k * x.toNat + weightedSum w (k + 1) rest

/-- The weight `checksum_accumulate` gives place `i` of an `n`-byte buffer: 1
for the low byte of a native word, 256 for the high one and an odd last byte. -/
def nativeWeight (n i : Nat) : Nat := if i % 2 = 0 ∧ i + 1 < n then 1 else 256

theorem nativeWeight_cases (n i : Nat) : nativeWeight n i = 1 ∨ nativeWeight n i = 256 := by
  unfold nativeWeight
  split
  · exact .inl rfl
  · exact .inr rfl

theorem weightedSum_set (w : Nat → Nat) (b : BitVec 8) : ∀ (l : Bytes) (k i : Nat), i < l.length →
    weightedSum w k (l.set i b) + w (k + i) * (l.getD i 0).toNat = weightedSum w k l + w (k + i) * b.toNat
  | [], _, _, h => absurd h (Nat.not_lt_zero _)
  | x :: rest, k, 0, _ => by
      simp only [List.set_cons_zero, weightedSum, List.getD_cons_zero, Nat.add_zero]
      omega
  | x :: rest, k, i + 1, h => by
      have ih := weightedSum_set w b rest (k + 1) i (Nat.lt_of_succ_lt_succ h)
      rw [List.set_cons_succ, weightedSum, weightedSum, List.getD_cons_succ, show k + (i + 1) = k + 1 + i by omega]
      omega

theorem nativeSum_eq_weightedSum : ∀ (l : Bytes) (k : Nat), k % 2 = 0 →
    nativeSum l = weightedSum (nativeWeight (k + l.length)) k l
  | b0 :: b1 :: rest, k, hk => by
      have ih := nativeSum_eq_weightedSum rest (k + 1 + 1) (by omega)
      have h0 : nativeWeight (k + (rest.length + 1 + 1)) k = 1 := if_pos ⟨hk, by omega⟩
      have h1 : nativeWeight (k + (rest.length + 1 + 1)) (k + 1) = 256 := if_neg (by omega)
      rw [show k + 1 + 1 + rest.length = k + (rest.length + 1 + 1) by omega] at ih
      rw [nativeSum, weightedSum, weightedSum, ih, List.length_cons, List.length_cons, h0, h1]
      omega
  | [b], k, hk => by
      simp only [nativeSum, weightedSum, List.length_singleton]
      rw [nativeWeight, if_neg (by omega)]
      omega
  | [], _, _ => rfl

theorem nativeSum_set (l : Bytes) (i : Nat) (b : BitVec 8) (hi : i < l.length) :
    nativeSum (l.set i b) + nativeWeight l.length i * (l.getD i 0).toNat =
      nativeSum l + nativeWeight l.length i * b.toNat := by
  have := weightedSum_set (nativeWeight (0 + l.length)) b l 0 i hi
  rw [nativeSum_eq_weightedSum _ 0 rfl, nativeSum_eq_weightedSum l 0 rfl, List.length_set]
  simpa only [Nat.zero_add] using this

theorem onesFold_ne_of_set {w x y : Nat} (s s' : Nat) (hw : w = 1 ∨ w = 256) (hx : x < 256) (hy : y < 256)
    (hxy : x ≠ y) (h : s' + w * x = s + w * y) : onesFold s' ≠ onesFold s := by
  intro heq
  have h1 := onesFold_mod s
  have h2 := onesFold_mod s'
  rw [heq] at h2
  rcases hw with rfl | rfl <;> omega

theorem eq_sub_onesFold_iff {c s : Nat} : c = 65535 - onesFold s ↔ c + onesFold s = 65535 := by
  have := onesFold_le s
  omega

/-- Both checksum tests compare a stored value with the fold of a sum, so a byte
change at weight 1 or 256 that moves exactly one of them breaks a test that
held. -/
theorem test_detects_change {C C' s s' w x y : Nat} (hv : C + onesFold s = 65535) (hw : w = 1 ∨ w = 256)
    (hx : x < 256) (hy : y < 256) (hxy : x ≠ y)
    (h : C' + w * x = C + w * y ∧ s' = s ∨ C' = C ∧ s' + w * x = s + w * y) : C' + onesFold s' ≠ 65535 := by
  rcases h with ⟨hC, rfl⟩ | ⟨rfl, hs⟩
  · rcases hw with rfl | rfl <;> omega
  · have := onesFold_ne_of_set s s' hw hx hy hxy hs
    omega

theorem calculateChecksum_toNat (data : Bytes) (hlen : data.length ≤ 131074) :
    (calculateChecksum data).toNat = 65535 - onesFold (nativeSum data) := by
  have hsum : nativeSum data < 2 ^ 32 := by
    have := nativeSum_le data
    omega
  have hF := onesFold_le (nativeSum data)
  rw [calculateChecksum, BitVec.toNat_setWidth, BitVec.toNat_not, addCarries_two, checksumAccumulate_toNat,
    show (0 : BitVec 32).toNat = 0 from rfl, Nat.zero_add, Nat.mod_eq_of_lt hsum]
  omega

theorem nativeSum_append : ∀ (a b : Bytes), a.length % 2 = 0 → nativeSum (a ++ b) = nativeSum a + nativeSum b
  | b0 :: b1 :: rest, b, h => by
      rw [List.cons_append, List.cons_append, nativeSum, nativeSum,
        nativeSum_append rest b (by simp only [List.length_cons] at h; omega)]
      omega
  | [_], _, h => by simp at h
  | [], b, _ => (Nat.zero_add _).symm

theorem getD_set_of_lt (l : Bytes) {i : Nat} (j : Nat) (b : BitVec 8) (hi : i < l.length) :
    (l.set i b).getD j 0 = if i = j then b else l.getD j 0 := by
  simp only [List.getD_eq_getElem?_getD, List.getElem?_set, hi, if_true]
  split <;> rfl

theorem checksum_toNat_ipImage (G : IPHeader) :
    G.checksum.toNat = (G.image.getD 10 0).toNat + 256 * (G.image.getD 11 0).toNat := by
  have := G.checksum.isLt
  have h10 : G.image.getD 10 0 = .ofNat 8 G.checksum.toNat := rfl
  have h11 : G.image.getD 11 0 = .ofNat 8 (G.checksum.toNat / 256) := rfl
  rw [h10, h11, BitVec.toNat_ofNat, BitVec.toNat_ofNat]
  omega

theorem nativeSum_bytes16 (v : BitVec 16) : nativeSum (bytes16 v) = v.toNat := by
  have := v.isLt
  simp only [bytes16, nativeSum, BitVec.toNat_ofNat, Nat.reducePow]
  omega

theorem nativeSum_ipImage (G : IPHeader) :
    nativeSum G.image = nativeSum { G with checksum := 0 }.image + G.checksum.toNat := by
  simp (disch := simp [bytes16, bytes32]) only [IPHeader.image, nativeSum_append, nativeSum_bytes16]
  rw [show (0 : BitVec 16).toNat = 0 from rfl]
  omega

theorem validateChecksum_iff (G : IPHeader) :
    IPLayer.validateChecksum G = true ↔
      256 * (G.image.getD 10 0).toNat + (G.image.getD 11 0).toNat +
        onesFold (nativeSum { G with checksum := 0 }.image) = 65535 := by
  have := (G.image.getD 10 0).isLt
  have := (G.image.getD 11 0).isLt
  rw [IPLayer.validateChecksum, beq_iff_eq, BitVec.toNat_eq, ntohs, htons_toNat, IPLayer.calculateChecksum,
    calculateChecksum_toNat _ (by rw [IPHeader.image_length]; omega), checksum_toNat_ipImage G, eq_sub_onesFold_iff]
  omega

theorem validateChecksum_set {G : IPHeader} (hv : IPLayer.validateChecksum G = true) {i : Nat} (hi : i < 20)
    {b : BitVec 8} (hb : G.image.getD i 0 ≠ b) :
    IPLayer.validateChecksum (IPHeader.ofImage (G.image.set i b)) = false := by
  have himg : (IPHeader.ofImage (G.image.set i b)).image = G.image.set i b := by
    rw [IPHeader.image_ofImage _ (by simp), List.take_of_length_le (by simp)]
  have hset := nativeSum_set G.image i b (by rw [IPHeader.image_length]; exact hi)
  rw [← himg, nativeSum_ipImage (IPHeader.ofImage (G.image.set i b)), nativeSum_ipImage G,
    checksum_toNat_ipImage G, checksum_toNat_ipImage (IPHeader.ofImage (G.image.set i b)), himg,
    IPHeader.image_length, getD_set_of_lt _ 10 b (by simpa using hi), getD_set_of_lt _ 11 b (by simpa using hi)] at hset
  rw [validateChecksum_iff] at hv
  rw [← Bool.not_eq_true, validateChecksum_iff, himg, getD_set_of_lt _ 10 b (by simpa using hi),
    getD_set_of_lt _ 11 b (by simpa using hi)]
  have hxy : (G.image.getD i 0).toNat ≠ b.toNat := fun h => hb (BitVec.eq_of_toNat_eq h)
  have hx := (G.image.getD i 0).isLt
  have hy := b.isLt
  generalize nativeSum { G with checksum := 0 }.image = s at hset hv
  generalize nativeSum { IPHeader.ofImage (G.image.set i b) with checksum := 0 }.image = s' at hset ⊢
  by_cases hck : i = 10 ∨ i = 11
  · -- the checksum field: the stored value moves, the sum stays
    rcases hck with rfl | rfl
    · rw [if_pos rfl, if_neg (by decide)] at hset ⊢
      rw [show nativeWeight 20 10 = 1 from rfl] at hset
      exact test_detects_change hv (.inr rfl) hx hy hxy (.inl ⟨by omega, by omega⟩)
    · rw [if_neg (by decide), if_pos rfl] at hset ⊢
      rw [show nativeWeight 20 11 = 256 from rfl] at hset
      exact test_detects_change hv (.inl rfl) hx hy hxy (.inl ⟨by omega, by omega⟩)
  · -- any other byte: the stored value stays, the sum moves
    rw [if_neg (fun h => hck (.inl h)), if_neg (fun h => hck (.inr h))] at hset ⊢
    exact test_detects_change hv (nativeWeight_cases 20 i) hx hy hxy (.inr ⟨rfl, by omega⟩)

theorem validateChecksum_ofImage_set {p : Bytes} (h20 : 20 ≤ p.length)
    (hv : IPLayer.validateChecksum (IPHeader.ofImage p) = true) {i : Nat} (hi : i < 20) {b : BitVec 8}
    (hb : p.getD i 0 ≠ b) : IPLayer.validateChecksum (IPHeader.ofImage (p.set i b)) = false := by
  have himg := IPHeader.image_ofImage p h20
  have hq : IPHeader.ofImage (p.set i b) = IPHeader.ofImage ((IPHeader.ofImage p).image.set i b) := by
    rw [himg, ← List.set_take, IPHeader.ofImage_take]
  have hgi : (IPHeader.ofImage p).image.getD i 0 = p.getD i 0 := by
    rw [himg, List.getD_eq_getElem?_getD, List.getElem?_take, if_pos hi, ← List.getD_eq_getElem?_getD]
  rw [hq]
  exact validateChecksum_set hv hi (hgi ▸ hb)

theorem parsePacket_eq_none_of_invalid {q : Bytes} (h : IPLayer.validateChecksum (IPHeader.ofImage q) = false) :
    IPLayer.parsePacket q = none := by
  rcases hq : IPLayer.parsePacket q with _ | ⟨h', pl'⟩
  · rfl
  · obtain ⟨rfl, -, -, -, -, hv, -⟩ := IPLayer.parsePacket_eq_some.1 hq
    exact absurd (h ▸ hv) Bool.false_ne_true

theorem parsePacket_set_of_le {p : Bytes} {header : IPHeader} {payload : Bytes}
    (hp : IPLayer.parsePacket p = some (header, payload)) {i : Nat} (hi : 20 ≤ i) (b : BitVec 8) :
    IPLayer.parsePacket (p.set i b) = some (header, ((p.set i b).drop header.getHeaderLength.toNat).take
      ((ntohs header.totalLength).toNat - header.getHeaderLength.toNat)) := by
  obtain ⟨rfl, h2, h3, h4, h5, h6, -⟩ := IPLayer.parsePacket_eq_some.1 hp
  have hq : IPHeader.ofImage (p.set i b) = IPHeader.ofImage p := by
    rw [← IPHeader.ofImage_take, List.set_take, List.set_eq_of_length_le (by simp; omega), IPHeader.ofImage_take]
  rw [← hq] at h2 h3 h4 h5 h6 ⊢
  exact IPLayer.parsePacket_eq_some.2 ⟨rfl, h2, h3, h4, by rwa [List.length_set], h6, rfl⟩

/-- The header checksum detects every single-byte error in the 20 fixed bytes:
`parse_packet` then rejects the packet. -/
theorem parsePacket_rejects_header_byte_change {p : Bytes} {header : IPHeader} {payload : Bytes}
    (hp : IPLayer.parsePacket p = some (header, payload)) {i : Nat} (hi : i < 20) {b : BitVec 8}
    (hb : p.getD i 0 ≠ b) : IPLayer.parsePacket (p.set i b) = none := by
  obtain ⟨rfl, -, h3, h4, h5, hv, -⟩ := IPLayer.parsePacket_eq_some.1 hp
  exact parsePacket_eq_none_of_invalid (validateChecksum_ofImage_set (by omega) hv hi hb)

theorem parsePacket_rejects_header_byte_change_ttl :
    let p : Bytes := IPLayer.createPacket 0x0200007F 0x0100007F 6 [0x41] 1
    IPLayer.parsePacket p = some (IPHeader.ofImage p, [0x41]) ∧ 8 < 20 ∧ p.getD 8 0 ≠ 0x3F ∧
      IPLayer.parsePacket (p.set 8 0x3F) = none :=
  have hp : IPLayer.parsePacket (IPLayer.createPacket 0x0200007F 0x0100007F 6 [0x41] 1) =
      some (IPHeader.ofImage (IPLayer.createPacket 0x0200007F 0x0100007F 6 [0x41] 1), [0x41]) := by decide
  ⟨hp, by decide, by decide, parsePacket_rejects_header_byte_change hp (by decide) (by decide)⟩

theorem calculateTcpChecksum_toNat (srcIp dstIp : BitVec 32) (header : TCPHeader) (data : Bytes)
    (hlen : data.length ≤ 131042) :
    (calculateTcpChecksum srcIp dstIp header data).toNat = 65535 - onesFold
      (nativeSum (TCPPseudoHeader.image ⟨srcIp, dstIp, 0, ipprotoTcp, htons (.ofNat 16 (20 + data.length))⟩) +
        nativeSum header.image + nativeSum data) := by
  unfold calculateTcpChecksum calculateChecksumSegments
  dsimp only
  rw [foldl_checksumAccumulate _ (by split <;> simp [TCPPseudoHeader.image, bytes16, bytes32]) 0]
  have hflat : ∀ (p : Bytes), (([p, header.image] ++ if data.isEmpty then [] else [data]).flatten) =
      p ++ (header.image ++ data) := fun p => by
    split
    · next he => simp [List.isEmpty_iff.1 he]
    · simp
  rw [hflat]
  change (calculateChecksum _).toNat = _
  rw [calculateChecksum_toNat _ (by simp [TCPPseudoHeader.image, bytes16, bytes32]; omega),
    nativeSum_append _ _ (by simp [TCPPseudoHeader.image, bytes16, bytes32]), nativeSum_append _ _ (by simp),
    Nat.add_assoc]

/-- The weight the checksum gives byte `j` of a TCP header as it arrived: the
host-order copy swaps the bytes of every multi-byte field. -/
def tcpWeight (j : Nat) : Nat := if j = 12 then 1 else if j = 13 then 256 else if j % 2 = 0 then 256 else 1

theorem tcpWeight_cases (j : Nat) : tcpWeight j = 1 ∨ tcpWeight j = 256 := by
  unfold tcpWeight
  split_ifs <;> simp

theorem nativeSum_hostImage (t : Bytes) (h : 20 ≤ t.length) :
    nativeSum { (TCPHeader.ofImage t).toHostOrder with checksum := 0 }.image + 256 * (t.getD 16 0).toNat +
      (t.getD 17 0).toNat = weightedSum tcpWeight 0 (t.take 20) := by
  have hz : bytes16 0 = [0, 0] := rfl
  rw [take_twenty t h]
  simp only [TCPHeader.image, TCPHeader.toHostOrder, TCPHeader.ofImage, ntohs_load16, ntohl_load32,
    bytes16_load16, bytes32_load32, hz, List.cons_append, List.singleton_append, List.nil_append]
  simp [nativeSum, weightedSum, tcpWeight]
  omega

theorem hostChecksum_toNat (t : Bytes) :
    (TCPHeader.ofImage t).toHostOrder.checksum.toNat = 256 * (t.getD 16 0).toNat + (t.getD 17 0).toNat := by
  have := (t.getD 16 0).isLt
  have := (t.getD 17 0).isLt
  show (ntohs (load16 (t.getD 16 0) (t.getD 17 0))).toNat = _
  rw [ntohs_load16, load16, BitVec.toNat_ofNat]
  omega

theorem tcpCheck_iff (srcIp dstIp : BitVec 32) (t : Bytes) (hlen : t.length ≤ 65515) :
    (TCPHeader.ofImage t).toHostOrder.checksum =
        calculateTcpChecksum srcIp dstIp { (TCPHeader.ofImage t).toHostOrder with checksum := 0 } (t.drop 20) ↔
      256 * (t.getD 16 0).toNat + (t.getD 17 0).toNat + onesFold
        (nativeSum (TCPPseudoHeader.image ⟨srcIp, dstIp, 0, ipprotoTcp, htons (.ofNat 16 (20 + (t.length - 20)))⟩) +
          nativeSum { (TCPHeader.ofImage t).toHostOrder with checksum := 0 }.image + nativeSum (t.drop 20)) =
        65535 := by
  rw [BitVec.toNat_eq, hostChecksum_toNat, calculateTcpChecksum_toNat _ _ _ _ (by rw [List.length_drop]; omega),
    List.length_drop, eq_sub_onesFold_iff]

theorem tcpChecksum_set (srcIp dstIp : BitVec 32) {t : Bytes} (h20 : 20 ≤ t.length) (hlen : t.length ≤ 65515)
    (hv : (TCPHeader.ofImage t).toHostOrder.checksum =
      calculateTcpChecksum srcIp dstIp { (TCPHeader.ofImage t).toHostOrder with checksum := 0 } (t.drop 20))
    {i : Nat} (hi : i < t.length) {b : BitVec 8} (hb : t.getD i 0 ≠ b) :
    (TCPHeader.ofImage (t.set i b)).toHostOrder.checksum ≠ calculateTcpChecksum srcIp dstIp
      { (TCPHeader.ofImage (t.set i b)).toHostOrder with checksum := 0 } ((t.set i b).drop 20) := by
  intro hv'
  rw [tcpCheck_iff _ _ _ hlen] at hv
  rw [tcpCheck_iff _ _ _ (by rwa [List.length_set]), List.length_set, getD_set_of_lt t 16 b hi,
    getD_set_of_lt t 17 b hi] at hv'
  have hH := nativeSum_hostImage t h20
  have hH' := nativeSum_hostImage (t.set i b) (by rw [List.length_set]; exact h20)
  rw [List.set_take, getD_set_of_lt t 16 b hi, getD_set_of_lt t 17 b hi] at hH'
  have hxy : (t.getD i 0).toNat ≠ b.toNat := fun h => hb (BitVec.eq_of_toNat_eq h)
  have hx := (t.getD i 0).isLt
  have hy := b.isLt
  generalize nativeSum (TCPPseudoHeader.image ⟨srcIp, dstIp, 0, ipprotoTcp,
    htons (.ofNat 16 (20 + (t.length - 20)))⟩) = P at hv hv'
  generalize nativeSum { (TCPHeader.ofImage t).toHostOrder with checksum := 0 }.image = H at hv hH
  generalize nativeSum { (TCPHeader.ofImage (t.set i b)).toHostOrder with checksum := 0 }.image = H' at hv' hH'
  by_cases hi20 : i < 20
  · -- a header byte: the payload stays
    rw [List.drop_set_of_lt _ _ hi20] at hv'
    have hW := weightedSum_set tcpWeight b (t.take 20) 0 i (by rw [List.length_take]; omega)
    have hgi : (t.take 20).getD i 0 = t.getD i 0 := by
      rw [List.getD_eq_getElem?_getD, List.getElem?_take, if_pos hi20, ← List.getD_eq_getElem?_getD]
    rw [Nat.zero_add, hgi, ← hH', ← hH] at hW
    by_cases hck : i = 16 ∨ i = 17
    · -- the checksum field: the value compared moves, the sum stays
      rcases hck with rfl | rfl
      · rw [if_pos rfl, if_neg (by decide), show tcpWeight 16 = 256 from rfl] at hW
        rw [if_pos rfl, if_neg (by decide)] at hv'
        exact test_detects_change hv (.inr rfl) hx hy hxy (.inl ⟨by omega, by omega⟩) hv'
      · rw [if_neg (by decide), if_pos rfl, show tcpWeight 17 = 1 from rfl] at hW
        rw [if_neg (by decide), if_pos rfl] at hv'
        exact test_detects_change hv (.inl rfl) hx hy hxy (.inl ⟨by omega, by omega⟩) hv'
    · -- any other header byte: the value compared stays, the sum moves
      rw [if_neg (fun h => hck (.inl h)), if_neg (fun h => hck (.inr h))] at hW hv'
      exact test_detects_change hv (tcpWeight_cases i) hx hy hxy (.inr ⟨rfl, by omega⟩) hv'
  · -- a payload byte: the header stays, the sum moves
    rw [List.set_eq_of_length_le (by rw [List.length_take]; omega), if_neg (by omega), if_neg (by omega)] at hH'
    rw [if_neg (by omega), if_neg (by omega), List.drop_set, if_neg hi20] at hv'
    have hset := nativeSum_set (t.drop 20) (i - 20) b (by rw [List.length_drop]; omega)
    have hgi : (t.drop 20).getD (i - 20) 0 = t.getD i 0 := by
      rw [List.getD_eq_getElem?_getD, List.getElem?_drop, ← List.getD_eq_getElem?_getD, Nat.add_sub_cancel' (by omega)]
    rw [hgi] at hset
    exact test_detects_change hv (nativeWeight_cases (t.drop 20).length (i - 20)) hx hy hxy
      (.inr ⟨rfl, by omega⟩) hv'

theorem accepted_checksum {m : TCPConnectionManager} {ip : IPHeader} {tcpData : Bytes} {iss : BitVec 32}
    (hok : (m.processIncomingSegment ip tcpData iss).1 = true) :
    20 ≤ tcpData.length ∧ (TCPHeader.ofImage tcpData).toHostOrder.checksum =
      calculateTcpChecksum ip.srcIp ip.dstIp { (TCPHeader.ofImage tcpData).toHostOrder with checksum := 0 }
        (tcpData.drop 20) := by
  unfold TCPConnectionManager.processIncomingSegment at hok
  dsimp only at hok
  split_ifs at hok with h1 h2 <;> exact ⟨by omega, not_not.1 h2⟩

/-- A segment of at most 65515 bytes that `process_incoming_segment` accepts is
dropped whole once any one of its bytes changes, whatever ISS is drawn. -/
theorem processIncomingSegment_rejects_byte_change (m : TCPConnectionManager) (ip : IPHeader) (tcpData : Bytes)
    (iss : BitVec 32) (hok : (m.processIncomingSegment ip tcpData iss).1 = true) (hlen : tcpData.length ≤ 65515)
    {i : Nat} (hi : i < tcpData.length) {b : BitVec 8} (hb : tcpData.getD i 0 ≠ b) (iss' : BitVec 32) :
    m.processIncomingSegment ip (tcpData.set i b) iss' = (false, m) := by
  obtain ⟨h20, hv⟩ := accepted_checksum hok
  exact Demux.processIncomingSegment_rejected _ _ _ (.inr (tcpChecksum_set ip.srcIp ip.dstIp h20 hlen hv hi hb))

theorem processIncomingSegment_rejects_byte_change_payload :
    let seg := tcpSegment Table.client [0x41] (TCPHeader.psh ||| TCPHeader.ack)
    (Receive.established.processIncomingSegment Table.fromClient seg 0).1 = true ∧ seg.length ≤ 65515 ∧
      20 < seg.length ∧ seg.getD 20 0 ≠ 0x61 ∧
      Receive.established.processIncomingSegment Table.fromClient (seg.set 20 0x61) 0 = (false, Receive.established) :=
  ⟨by decide, by decide, by decide, by decide,
    processIncomingSegment_rejects_byte_change _ _ _ 0 (by decide) (by decide) (by decide) (by decide) 0⟩

/-- One wrong byte on the receive path of `accept_connection`: in the fixed IP
header or the TCP segment it is caught by `parse_packet` or the manager; in the
IP options or past the total length it goes unseen. -/
theorem receive_path_byte_errors (m : TCPConnectionManager) {p : Bytes} {ip : IPHeader} {payload : Bytes}
    (iss : BitVec 32) (hp : IPLayer.parsePacket p = some (ip, payload))
    (hok : (m.processIncomingSegment ip payload iss).1 = true) {i : Nat} {b : BitVec 8} (hb : p.getD i 0 ≠ b)
    (iss' : BitVec 32) :
    (i < 20 ∨ ip.getHeaderLength.toNat ≤ i ∧ i < (ntohs ip.totalLength).toNat →
      ∀ ip' payload', IPLayer.parsePacket (p.set i b) = some (ip', payload') →
        m.drainInbound [(ip', payload', iss')] = m) ∧
    (20 ≤ i ∧ i < ip.getHeaderLength.toNat ∨ (ntohs ip.totalLength).toNat ≤ i →
      IPLayer.parsePacket (p.set i b) = some (ip, payload)) := by
  obtain ⟨hhd, -, h3, h4, h5, hv, hpay⟩ := IPLayer.parsePacket_eq_some.1 hp
  have hlen : payload.length = (ntohs ip.totalLength).toNat - ip.getHeaderLength.toNat := by
    rw [hpay, List.length_take, List.length_drop]
    omega
  refine ⟨fun hcov ip' payload' hq => ?_, fun hunc => ?_⟩
  · rcases hcov with hi | ⟨hl, ht⟩
    · -- a fixed header byte: the IP layer drops the packet
      rw [parsePacket_eq_none_of_invalid (validateChecksum_ofImage_set (by omega) (hhd ▸ hv) hi hb)] at hq
      cases hq
    · -- a byte of the segment: the same header, the changed segment, which TCP drops
      rw [parsePacket_set_of_le hp (by omega) b] at hq
      obtain ⟨rfl, rfl⟩ := Prod.mk.inj (Option.some.inj hq)
      have hset : ((p.set i b).drop ip.getHeaderLength.toNat).take
          ((ntohs ip.totalLength).toNat - ip.getHeaderLength.toNat) = payload.set (i - ip.getHeaderLength.toNat) b := by
        rw [List.drop_set, if_neg (by omega), List.set_take, ← hpay]
      have hgi : payload.getD (i - ip.getHeaderLength.toNat) 0 = p.getD i 0 := by
        rw [hpay, List.getD_eq_getElem?_getD, List.getElem?_take, if_pos (by omega), List.getElem?_drop,
          Nat.add_sub_cancel' hl, ← List.getD_eq_getElem?_getD]
      obtain ⟨h20, hcheck⟩ := accepted_checksum hok
      rw [hset]
      simp only [TCPConnectionManager.drainInbound, List.foldl_cons, List.foldl_nil]
      split
      · exact congrArg Prod.snd (Demux.processIncomingSegment_rejected _ _ iss'
          (.inr (tcpChecksum_set ip.srcIp ip.dstIp h20 (by omega) hcheck (by omega) (hgi ▸ hb))))
      · rfl
  · -- an option byte, or one past the total length: the same header and payload
    rw [parsePacket_set_of_le hp (by omega) b, List.drop_set]
    split_ifs with hlt
    · rw [← hpay]
    · rw [List.set_take, List.set_eq_of_length_le (by rw [← hpay, hlen]; omega), ← hpay]

theorem receive_path_byte_errors_payload :
    let seg : Bytes := tcpSegment Table.client [0x41] (TCPHeader.psh ||| TCPHeader.ack)
    let p := IPLayer.createPacket 0x0200007F 0x0100007F 6 seg 1
    IPLayer.parsePacket p = some (IPHeader.ofImage p, seg) ∧
      (Receive.established.processIncomingSegment (IPHeader.ofImage p) seg 0).1 = true ∧ p.getD 40 0 ≠ 0x61 ∧
      (40 < 20 ∨ (IPHeader.ofImage p).getHeaderLength.toNat ≤ 40 ∧ 40 < (ntohs (IPHeader.ofImage p).totalLength).toNat →
        ∀ ip' payload', IPLayer.parsePacket (p.set 40 0x61) = some (ip', payload') →
          Receive.established.drainInbound [(ip', payload', 0)] = Receive.established) ∧
      (20 ≤ 40 ∧ 40 < (IPHeader.ofImage p).getHeaderLength.toNat ∨ (ntohs (IPHeader.ofImage p).totalLength).toNat ≤ 40 →
        IPLayer.parsePacket (p.set 40 0x61) = some (IPHeader.ofImage p, seg)) :=
  have hp : IPLayer.parsePacket (IPLayer.createPacket 0x0200007F 0x0100007F 6
      (tcpSegment Table.client [0x41] (TCPHeader.psh ||| TCPHeader.ack)) 1) =
      some (IPHeader.ofImage (IPLayer.createPacket 0x0200007F 0x0100007F 6
        (tcpSegment Table.client [0x41] (TCPHeader.psh ||| TCPHeader.ack)) 1),
        tcpSegment Table.client [0x41] (TCPHeader.psh ||| TCPHeader.ack)) := by decide
  have hok : (Receive.established.processIncomingSegment (IPHeader.ofImage (IPLayer.createPacket 0x0200007F
      0x0100007F 6 (tcpSegment Table.client [0x41] (TCPHeader.psh ||| TCPHeader.ack)) 1))
      (tcpSegment Table.client [0x41] (TCPHeader.psh ||| TCPHeader.ack)) 0).1 = true := by decide
  ⟨hp, hok, by decide, receive_path_byte_errors _ 0 hp hok (by decide) 0⟩

/-- The drain loop of `accept_connection` over the raw socket's datagrams: it
reads and parses the next one while that succeeds, so a rejected datagram is
dropped and ends the loop. -/
def receiveLoop (m : TCPConnectionManager) :
    List (Bytes × BitVec 32) → TCPConnectionManager × List (Bytes × BitVec 32)
  | [] => (m, [])
  | (packet, iss) :: queue =>
      match IPLayer.parsePacket packet with
      | none => (m, queue)
      | some (ip, payload) => receiveLoop (m.drainInbound [(ip, payload, iss)]) queue

def parses (d : Bytes × BitVec 32) : Bool := (IPLayer.parsePacket d.1).isSome

def inbound (d : Bytes × BitVec 32) : Option (IPHeader × Bytes × BitVec 32) :=
  (IPLayer.parsePacket d.1).map fun r => (r.1, r.2, d.2)

/-- The loop over raw datagrams drains the parsed ones up to the first rejected
one, which is consumed: those behind it wait for the next `accept_connection`. -/
theorem receiveLoop_drains (m : TCPConnectionManager) (queue : List (Bytes × BitVec 32)) :
    receiveLoop m queue =
      (m.drainInbound ((queue.takeWhile parses).filterMap inbound), (queue.dropWhile parses).tail) := by
  induction queue generalizing m with
  | nil => rfl
  | cons d queue ih =>
      obtain ⟨packet, iss⟩ := d
      rcases hp : IPLayer.parsePacket packet with _ | ⟨ip, payload⟩
      · have hd : parses (packet, iss) = false := by simp [parses, hp]
        simp only [receiveLoop, hp, List.takeWhile_cons, List.dropWhile_cons, hd]
        rfl
      · have hd : parses (packet, iss) = true := by simp [parses, hp]
        have hi : inbound (packet, iss) = some (ip, payload, iss) := by simp [inbound, hp]
        simp only [receiveLoop, hp, List.takeWhile_cons, List.dropWhile_cons, hd, if_true,
          List.filterMap_cons, hi, ih]
        rfl

end TcpStack.Detection
