import Mathlib.Data.List.Basic

namespace TcpStack.Wire

abbrev Bytes := List (BitVec 8)

/-- The in-memory layout of a 16-bit field on the little-endian hosts the
stack targets. -/
def bytes16 (v : BitVec 16) : Bytes :=
  [.ofNat 8 v.toNat, .ofNat 8 (v.toNat / 256)]

def bytes32 (v : BitVec 32) : Bytes :=
  [.ofNat 8 v.toNat, .ofNat 8 (v.toNat / 256), .ofNat 8 (v.toNat / 65536),
    .ofNat 8 (v.toNat / 16777216)]

def load16 (b0 b1 : BitVec 8) : BitVec 16 :=
  .ofNat 16 (b0.toNat + 256 * b1.toNat)

def load32 (b0 b1 b2 b3 : BitVec 8) : BitVec 32 :=
  .ofNat 32 (b0.toNat + 256 * b1.toNat + 65536 * b2.toNat + 16777216 * b3.toNat)

def htons (v : BitVec 16) : BitVec 16 :=
  .ofNat 16 (v.toNat / 256 + 256 * (v.toNat % 256))

def htonl (v : BitVec 32) : BitVec 32 :=
  .ofNat 32 (v.toNat / 16777216 + 256 * (v.toNat / 65536 % 256) +
    65536 * (v.toNat / 256 % 256) + 16777216 * (v.toNat % 256))

def ntohs (v : BitVec 16) : BitVec 16 := htons v

def ntohl (v : BitVec 32) : BitVec 32 := htonl v

structure TCPHeader where
  srcPort : BitVec 16
  dstPort : BitVec 16
  seqNum : BitVec 32
  ackNum : BitVec 32
  dataOffsetReserved : BitVec 8
  flags : BitVec 8
  windowSize : BitVec 16
  checksum : BitVec 16
  urgentPointer : BitVec 16
  deriving DecidableEq, Repr

namespace TCPHeader

def fin : BitVec 8 := 0x01
def syn : BitVec 8 := 0x02
def rst : BitVec 8 := 0x04
def psh : BitVec 8 := 0x08
def ack : BitVec 8 := 0x10
def urg : BitVec 8 := 0x20
def ece : BitVec 8 := 0x40
def cwr : BitVec 8 := 0x80

def getDataOffset (h : TCPHeader) : BitVec 8 := (h.dataOffsetReserved >>> 4) &&& 0xF

def getHeaderLength (h : TCPHeader) : BitVec 8 := h.getDataOffset * 4

def setDataOffset (h : TCPHeader) (offset : BitVec 8) : TCPHeader :=
  { h with dataOffsetReserved := (h.dataOffsetReserved &&& 0x0F) ||| ((offset &&& 0x0F) <<< 4) }

def hasFlag (h : TCPHeader) (flag : BitVec 8) : Bool := (h.flags &&& flag) != 0

def toNetworkOrder (h : TCPHeader) : TCPHeader :=
  { h with srcPort := htons h.srcPort, dstPort := htons h.dstPort, seqNum := htonl h.seqNum,
           ackNum := htonl h.ackNum, windowSize := htons h.windowSize,
           checksum := htons h.checksum, urgentPointer := htons h.urgentPointer }

def toHostOrder (h : TCPHeader) : TCPHeader :=
  { h with srcPort := ntohs h.srcPort, dstPort := ntohs h.dstPort, seqNum := ntohl h.seqNum,
           ackNum := ntohl h.ackNum, windowSize := ntohs h.windowSize,
           checksum := ntohs h.checksum, urgentPointer := ntohs h.urgentPointer }

def image (h : TCPHeader) : Bytes :=
  bytes16 h.srcPort ++ bytes16 h.dstPort ++ bytes32 h.seqNum ++ bytes32 h.ackNum ++
    [h.dataOffsetReserved, h.flags] ++ bytes16 h.windowSize ++ bytes16 h.checksum ++
    bytes16 h.urgentPointer

def ofImage (b : Bytes) : TCPHeader :=
  { srcPort := load16 (b.getD 0 0) (b.getD 1 0)
    dstPort := load16 (b.getD 2 0) (b.getD 3 0)
    seqNum := load32 (b.getD 4 0) (b.getD 5 0) (b.getD 6 0) (b.getD 7 0)
    ackNum := load32 (b.getD 8 0) (b.getD 9 0) (b.getD 10 0) (b.getD 11 0)
    dataOffsetReserved := b.getD 12 0
    flags := b.getD 13 0
    windowSize := load16 (b.getD 14 0) (b.getD 15 0)
    checksum := load16 (b.getD 16 0) (b.getD 17 0)
    urgentPointer := load16 (b.getD 18 0) (b.getD 19 0) }

end TCPHeader

structure TCPPseudoHeader where
  srcIp : BitVec 32
  dstIp : BitVec 32
  reserved : BitVec 8
  protocol : BitVec 8
  tcpLength : BitVec 16
  deriving DecidableEq, Repr

def TCPPseudoHeader.image (p : TCPPseudoHeader) : Bytes :=
  bytes32 p.srcIp ++ bytes32 p.dstIp ++ [p.reserved, p.protocol] ++ bytes16 p.tcpLength

/-- The IPv4 header as the packed structure holds it: the multi-byte fields
stay in network order, addresses included. -/
structure IPHeader where
  versionIhl : BitVec 8
  tos : BitVec 8
  totalLength : BitVec 16
  identification : BitVec 16
  flagsFragment : BitVec 16
  ttl : BitVec 8
  protocol : BitVec 8
  checksum : BitVec 16
  srcIp : BitVec 32
  dstIp : BitVec 32
  deriving DecidableEq, Repr

namespace IPHeader

def getVersion (h : IPHeader) : BitVec 8 := (h.versionIhl >>> 4) &&& 0xF

def getIhl (h : IPHeader) : BitVec 8 := h.versionIhl &&& 0xF

def getHeaderLength (h : IPHeader) : BitVec 8 := h.getIhl * 4

def setVersion (h : IPHeader) (version : BitVec 8) : IPHeader :=
  { h with versionIhl := (h.versionIhl &&& 0x0F) ||| ((version &&& 0x0F) <<< 4) }

def setIhl (h : IPHeader) (ihl : BitVec 8) : IPHeader :=
  { h with versionIhl := (h.versionIhl &&& 0xF0) ||| (ihl &&& 0x0F) }

def getFlags (h : IPHeader) : BitVec 16 := ntohs h.flagsFragment >>> 13

def getFragmentOffset (h : IPHeader) : BitVec 16 := ntohs h.flagsFragment &&& 0x1FFF

def setFlagsFragment (h : IPHeader) (flags fragmentOffset : BitVec 16) : IPHeader :=
  { h with flagsFragment := htons (((flags &&& 0x7) <<< 13) ||| (fragmentOffset &&& 0x1FFF)) }

def image (h : IPHeader) : Bytes :=
  [h.versionIhl, h.tos] ++ bytes16 h.totalLength ++ bytes16 h.identification ++
    bytes16 h.flagsFragment ++ [h.ttl, h.protocol] ++ bytes16 h.checksum ++ bytes32 h.srcIp ++
    bytes32 h.dstIp

def ofImage (b : Bytes) : IPHeader :=
  { versionIhl := b.getD 0 0
    tos := b.getD 1 0
    totalLength := load16 (b.getD 2 0) (b.getD 3 0)
    identification := load16 (b.getD 4 0) (b.getD 5 0)
    flagsFragment := load16 (b.getD 6 0) (b.getD 7 0)
    ttl := b.getD 8 0
    protocol := b.getD 9 0
    checksum := load16 (b.getD 10 0) (b.getD 11 0)
    srcIp := load32 (b.getD 12 0) (b.getD 13 0) (b.getD 14 0) (b.getD 15 0)
    dstIp := load32 (b.getD 16 0) (b.getD 17 0) (b.getD 18 0) (b.getD 19 0) }

end IPHeader

def ipprotoTcp : BitVec 8 := 6

/-- `NetworkUtils::checksum_accumulate`: native 16-bit words are added to a
32-bit sum, and a trailing odd byte is added shifted left by eight. -/
def checksumAccumulate : Bytes → BitVec 32 → BitVec 32
  | b0 :: b1 :: rest, sum => checksumAccumulate rest (sum + (load16 b0 b1).setWidth 32)
  | [b], sum => sum + (b.setWidth 32 <<< 8)
  | [], sum => sum

/-- The carry-folding loop `while (sum >> 16) sum = (sum & 0xFFFF) + (sum >> 16)`,
run for at most `fuel` rounds. -/
def addCarries : Nat → BitVec 32 → BitVec 32
  | 0, sum => sum
  | fuel + 1, sum =>
      if sum >>> 16 = 0#32 then sum else addCarries fuel ((sum &&& 0xFFFF#32) + (sum >>> 16))

def calculateChecksum (data : Bytes) : BitVec 16 :=
  (~~~(addCarries 2 (checksumAccumulate data 0))).setWidth 16

def calculateChecksumSegments (segments : List Bytes) : BitVec 16 :=
  (~~~(addCarries 2 (segments.foldl (fun sum seg => checksumAccumulate seg sum) 0))).setWidth 16

/-- `TCPConnectionManager::calculate_tcp_checksum` over the host-order header. -/
def calculateTcpChecksum (srcIp dstIp : BitVec 32) (header : TCPHeader) (data : Bytes) : BitVec 16 :=
  let pseudo : TCPPseudoHeader :=
    { srcIp, dstIp, reserved := 0, protocol := ipprotoTcp,
      tcpLength := htons (.ofNat 16 (20 + data.length)) }
  calculateChecksumSegments
    ([pseudo.image, header.image] ++ if data.isEmpty then [] else [data])

theorem load16_bytes16 (v : BitVec 16) : load16 (.ofNat 8 v.toNat) (.ofNat 8 (v.toNat / 256)) = v := by
  apply BitVec.eq_of_toNat_eq
  have := v.isLt
  simp only [load16, BitVec.toNat_ofNat]
  omega

theorem load32_bytes32 (v : BitVec 32) :
    load32 (.ofNat 8 v.toNat) (.ofNat 8 (v.toNat / 256)) (.ofNat 8 (v.toNat / 65536))
      (.ofNat 8 (v.toNat / 16777216)) = v := by
  apply BitVec.eq_of_toNat_eq
  have := v.isLt
  simp only [load32, BitVec.toNat_ofNat]
  omega

theorem htons_toNat (v : BitVec 16) : (htons v).toNat = v.toNat / 256 + 256 * (v.toNat % 256) := by
  rw [htons, BitVec.toNat_ofNat]
  apply Nat.mod_eq_of_lt
  have := v.isLt
  omega

@[simp] theorem ntohs_htons (v : BitVec 16) : ntohs (htons v) = v := by
  apply BitVec.eq_of_toNat_eq
  rw [ntohs, htons_toNat, htons_toNat]
  omega

theorem htonl_toNat (v : BitVec 32) : (htonl v).toNat = v.toNat / 16777216 + 256 * (v.toNat / 65536 % 256) +
    65536 * (v.toNat / 256 % 256) + 16777216 * (v.toNat % 256) := by
  rw [htonl, BitVec.toNat_ofNat]
  apply Nat.mod_eq_of_lt
  have := v.isLt
  omega

theorem bytes_of_word {a0 a1 a2 a3 : Nat} (h0 : a0 < 256) (h1 : a1 < 256) (h2 : a2 < 256) :
    (a0 + 256 * a1 + 65536 * a2 + 16777216 * a3) / 16777216 = a3 ∧
      (a0 + 256 * a1 + 65536 * a2 + 16777216 * a3) / 65536 % 256 = a2 ∧
      (a0 + 256 * a1 + 65536 * a2 + 16777216 * a3) / 256 % 256 = a1 ∧
      (a0 + 256 * a1 + 65536 * a2 + 16777216 * a3) % 256 = a0 := by
  omega

@[simp] theorem ntohl_htonl (v : BitVec 32) : ntohl (htonl v) = v := by
  apply BitVec.eq_of_toNat_eq
  obtain ⟨b0, b1, b2, b3, h0, h1, h2, h3, hv⟩ : ∃ b0 b1 b2 b3, b0 < 256 ∧ b1 < 256 ∧ b2 < 256 ∧ b3 < 256 ∧
      v.toNat = b0 + 256 * b1 + 65536 * b2 + 16777216 * b3 :=
    ⟨v.toNat % 256, v.toNat / 256 % 256, v.toNat / 65536 % 256, v.toNat / 16777216, by omega, by omega,
      by omega, by have := v.isLt; omega, by omega⟩
  obtain ⟨e3, e2, e1, e0⟩ := @bytes_of_word _ _ _ b3 h0 h1 h2
  obtain ⟨f0, f1, f2, f3⟩ := @bytes_of_word _ _ _ b0 h3 h2 h1
  rw [ntohl, htonl_toNat, htonl_toNat, hv, e3, e2, e1, e0, f0, f1, f2, f3]

@[simp] theorem TCPHeader.image_length (h : TCPHeader) : h.image.length = 20 := rfl

@[simp] theorem IPHeader.image_length (h : IPHeader) : h.image.length = 20 := rfl

theorem TCPHeader.ofImage_image_append (h : TCPHeader) (rest : Bytes) :
    TCPHeader.ofImage (h.image ++ rest) = h := by
  simp only [TCPHeader.ofImage, TCPHeader.image, bytes16, bytes32, List.cons_append,
    List.singleton_append, List.nil_append, List.getD_cons_zero, List.getD_cons_succ, load16_bytes16,
    load32_bytes32]

theorem TCPHeader.toHostOrder_toNetworkOrder (h : TCPHeader) : h.toNetworkOrder.toHostOrder = h := by
  simp only [TCPHeader.toNetworkOrder, TCPHeader.toHostOrder, ntohs_htons, ntohl_htonl]

theorem IPHeader.ofImage_image_append (h : IPHeader) (rest : Bytes) :
    IPHeader.ofImage (h.image ++ rest) = h := by
  simp only [IPHeader.ofImage, IPHeader.image, bytes16, bytes32, List.cons_append,
    List.singleton_append, List.nil_append, List.getD_cons_zero, List.getD_cons_succ, load16_bytes16,
    load32_bytes32]

theorem IPHeader.ofImage_take (b : Bytes) : IPHeader.ofImage (b.take 20) = IPHeader.ofImage b := by
  simp (disch := decide) only [IPHeader.ofImage, List.getD_eq_getElem?_getD, List.getElem?_take_of_lt]

theorem bytes16_load16 (b0 b1 : BitVec 8) : bytes16 (load16 b0 b1) = [b0, b1] := by
  have := b0.isLt
  have := b1.isLt
  have h1 : (b0.toNat + 256 * b1.toNat) / 256 = b1.toNat := by omega
  have h0 : (b0.toNat + 256 * b1.toNat) % 256 = b0.toNat := by omega
  simp only [bytes16, load16, List.cons.injEq, and_true, BitVec.toNat_eq, BitVec.toNat_ofNat, Nat.reducePow,
    Nat.mod_eq_of_lt (show b0.toNat + 256 * b1.toNat < 65536 by omega), h1, h0, Nat.mod_eq_of_lt this]

theorem bytes32_load32 (b0 b1 b2 b3 : BitVec 8) : bytes32 (load32 b0 b1 b2 b3) = [b0, b1, b2, b3] := by
  have h3 := b3.isLt
  obtain ⟨e3, e2, e1, e0⟩ := @bytes_of_word _ _ _ b3.toNat b0.isLt b1.isLt b2.isLt
  simp only [bytes32, load32, List.cons.injEq, and_true, BitVec.toNat_eq, BitVec.toNat_ofNat, Nat.reducePow,
    Nat.mod_eq_of_lt (show b0.toNat + 256 * b1.toNat + 65536 * b2.toNat + 16777216 * b3.toNat < 4294967296 by omega),
    e3, e2, e1, e0, Nat.mod_eq_of_lt h3]

theorem take_eq_map_getD (b : Bytes) (n : Nat) (h : n ≤ b.length) :
    b.take n = (List.range n).map (b.getD · 0) :=
  List.ext_getElem (by simp only [List.length_take, List.length_map, List.length_range]; omega) fun j h1 _ => by
    have hj : j < b.length := by rw [List.length_take] at h1; omega
    simp only [List.getElem_take, List.getElem_map, List.getElem_range, List.getD_eq_getElem?_getD,
      List.getElem?_eq_getElem hj, Option.getD_some]

theorem take_twenty (b : Bytes) (h : 20 ≤ b.length) :
    b.take 20 = [b.getD 0 0, b.getD 1 0, b.getD 2 0, b.getD 3 0, b.getD 4 0, b.getD 5 0, b.getD 6 0,
      b.getD 7 0, b.getD 8 0, b.getD 9 0, b.getD 10 0, b.getD 11 0, b.getD 12 0, b.getD 13 0, b.getD 14 0,
      b.getD 15 0, b.getD 16 0, b.getD 17 0, b.getD 18 0, b.getD 19 0] :=
  take_eq_map_getD b 20 h

theorem IPHeader.image_ofImage (b : Bytes) (h : 20 ≤ b.length) : (IPHeader.ofImage b).image = b.take 20 := by
  rw [take_twenty b h]
  simp only [IPHeader.image, IPHeader.ofImage, bytes16_load16, bytes32_load32, List.cons_append,
    List.singleton_append, List.nil_append]

theorem ntohs_load16 (b0 b1 : BitVec 8) : ntohs (load16 b0 b1) = load16 b1 b0 := by
  apply BitVec.eq_of_toNat_eq
  have := b0.isLt
  have := b1.isLt
  have h1 : (b0.toNat + 256 * b1.toNat) / 256 = b1.toNat := by omega
  have h0 : (b0.toNat + 256 * b1.toNat) % 256 = b0.toNat := by omega
  simp only [ntohs, htons_toNat, load16, BitVec.toNat_ofNat, Nat.reducePow,
    Nat.mod_eq_of_lt (show b0.toNat + 256 * b1.toNat < 65536 by omega),
    Nat.mod_eq_of_lt (show b1.toNat + 256 * b0.toNat < 65536 by omega), h1, h0]

theorem ntohl_load32 (b0 b1 b2 b3 : BitVec 8) : ntohl (load32 b0 b1 b2 b3) = load32 b3 b2 b1 b0 := by
  apply BitVec.eq_of_toNat_eq
  have := b0.isLt
  have := b1.isLt
  have := b2.isLt
  have := b3.isLt
  obtain ⟨e3, e2, e1, e0⟩ := @bytes_of_word _ _ _ b3.toNat b0.isLt b1.isLt b2.isLt
  simp only [ntohl, htonl_toNat, load32, BitVec.toNat_ofNat, Nat.reducePow,
    Nat.mod_eq_of_lt (show b0.toNat + 256 * b1.toNat + 65536 * b2.toNat + 16777216 * b3.toNat < 4294967296 by omega),
    Nat.mod_eq_of_lt (show b3.toNat + 256 * b2.toNat + 65536 * b1.toNat + 16777216 * b0.toNat < 4294967296 by omega),
    e3, e2, e1, e0]

theorem carry_fold_toNat (s : BitVec 32) :
    ((s &&& 0xFFFF#32) + (s >>> 16)).toNat = s.toNat % 65536 + s.toNat / 65536 := by
  have h1 : (s &&& 0xFFFF#32).toNat = s.toNat % 65536 := by
    simpa using Nat.and_pow_two_sub_one_eq_mod s.toNat 16
  have hs := s.isLt
  rw [BitVec.toNat_add, h1, BitVec.toNat_ushiftRight, Nat.shiftRight_eq_div_pow]
  omega

theorem carry_shift_eq_zero_iff (s : BitVec 32) : s >>> 16 = 0#32 ↔ s.toNat < 65536 := by
  rw [BitVec.toNat_eq, BitVec.toNat_ushiftRight, Nat.shiftRight_eq_div_pow]
  simp only [BitVec.toNat_ofNat]
  omega

theorem addCarries_lt (sum : BitVec 32) : (addCarries 2 sum).toNat < 65536 := by
  have hs := sum.isLt
  simp only [addCarries]
  split_ifs <;> simp only [carry_shift_eq_zero_iff, carry_fold_toNat] at * <;> omega

theorem addCarries_of_lt {s : BitVec 32} (h : s.toNat < 65536) : ∀ k, addCarries k s = s
  | 0 => rfl
  | k + 1 => by simp [addCarries, (carry_shift_eq_zero_iff s).2 h]

/-- Two rounds of the carry loop leave no carry, so more rounds change nothing. -/
theorem addCarries_fuel (sum : BitVec 32) (n : Nat) : addCarries (n + 2) sum = addCarries 2 sum := by
  have hs := sum.isLt
  simp only [addCarries]
  split_ifs with h1 h2
  · rfl
  · rfl
  · apply addCarries_of_lt
    simp only [carry_shift_eq_zero_iff, carry_fold_toNat] at h1 h2 ⊢
    omega

end TcpStack.Wire
