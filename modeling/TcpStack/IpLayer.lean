import TcpStack.Wire

namespace TcpStack.IpLayer

open Wire

structure Transmit where
  srcIp : BitVec 32
  dstIp : BitVec 32
  protocol : BitVec 8
  payload : Bytes
  deriving DecidableEq, Repr

/-- The IP layer as the TCP code sees it: `outcomes` are the raw socket's
verdicts for the coming sends (none left means success), and `handed` records
every call with its verdict. -/
structure IPLayer where
  outcomes : List Bool
  handed : List (Transmit × Bool)
  deriving DecidableEq, Repr

namespace IPLayer

def sendPacket (ip : IPLayer) (packet : Transmit) : Bool × IPLayer :=
  let ok := ip.outcomes.headD true
  (ok, ⟨ip.outcomes.tail, ip.handed ++ [(packet, ok)]⟩)

def calculateChecksum (header : IPHeader) : BitVec 16 := Wire.calculateChecksum header.image

def validateChecksum (header : IPHeader) : Bool :=
  ntohs header.checksum == calculateChecksum { header with checksum := 0 }

/-- `packetId` is the value of `packet_id_` it reads and then increments. -/
def createIpHeader (srcIp dstIp : BitVec 32) (protocol : BitVec 8) (payloadLength packetId : BitVec 16) :
    IPHeader :=
  let header : IPHeader := ⟨0, 0, 0, 0, 0, 0, 0, 0, 0, 0⟩
  let header := (header.setVersion 4).setIhl 5
  let header := { header with tos := 0, totalLength := htons (20 + payloadLength),
                              identification := htons packetId }
  let header := header.setFlagsFragment 0x2 0
  { header with ttl := 64, protocol, checksum := 0, srcIp, dstIp }

section CreateIpHeader

variable (srcIp dstIp : BitVec 32) (protocol : BitVec 8) (payloadLength packetId : BitVec 16)

theorem createIpHeader_versionIhl : (createIpHeader srcIp dstIp protocol payloadLength packetId).versionIhl = 0x45 :=
  show ((0 : BitVec 8) &&& 0x0F ||| (4 &&& 0x0F) <<< 4) &&& 0xF0 ||| (5 &&& 0x0F) = 0x45 by decide

theorem createIpHeader_flagsFragment :
    (createIpHeader srcIp dstIp protocol payloadLength packetId).flagsFragment = 0x40 :=
  show htons (((2 : BitVec 16) &&& 0x7) <<< 13 ||| (0 &&& 0x1FFF)) = 0x40 by decide

end CreateIpHeader

/-- The payload length is cut to 16 bits where `create_ip_header` takes it. -/
def createPacket (srcIp dstIp : BitVec 32) (protocol : BitVec 8) (payload : Bytes) (packetId : BitVec 16) :
    Bytes :=
  let header := { createIpHeader srcIp dstIp protocol (.ofNat 16 payload.length) packetId with checksum := 0 }
  let header := { header with checksum := htons (calculateChecksum header) }
  header.image ++ payload

def parsePacket (packet : Bytes) : Option (IPHeader × Bytes) :=
  if packet.length < 20 then none
  else
    let header := IPHeader.ofImage packet
    if header.getVersion ≠ 4 then none
    else
      let headerLength := header.getHeaderLength.toNat
      if headerLength < 20 ∨ headerLength > packet.length then none
      else
        let totalLength := (ntohs header.totalLength).toNat
        if totalLength > packet.length ∨ totalLength < headerLength then none
        else if !validateChecksum header then none
        else some (header, (packet.drop headerLength).take (totalLength - headerLength))

theorem parsePacket_eq_some {packet : Bytes} {header : IPHeader} {payload : Bytes} :
    parsePacket packet = some (header, payload) ↔
      header = IPHeader.ofImage packet ∧ header.getVersion = 4 ∧ 20 ≤ header.getHeaderLength.toNat ∧
        header.getHeaderLength.toNat ≤ (ntohs header.totalLength).toNat ∧
        (ntohs header.totalLength).toNat ≤ packet.length ∧ validateChecksum header = true ∧
        payload = (packet.drop header.getHeaderLength.toNat).take
          ((ntohs header.totalLength).toNat - header.getHeaderLength.toNat) := by
  unfold parsePacket
  simp only [Option.ite_none_left_eq_some, Option.some.injEq, Prod.mk.injEq, not_lt, not_or, gt_iff_lt,
    Bool.not_eq_true', Bool.not_eq_false, Decidable.not_not]
  constructor
  · rintro ⟨-, h2, ⟨h3, -⟩, ⟨h4, h4'⟩, h5, rfl, rfl⟩
    exact ⟨rfl, h2, h3, h4', h4, h5, rfl⟩
  · rintro ⟨rfl, h2, h3, h4, h5, h6, rfl⟩
    exact ⟨by omega, h2, ⟨h3, by omega⟩, ⟨h5, h4⟩, h6, rfl, rfl⟩

/-- `parse_packet` reads only the fixed header and the payload range: a buffer
that agrees with an accepted packet there, whatever its options and trailing
bytes, is accepted with the same header and payload. -/
theorem parsePacket_reads_header_and_payload {p q : Bytes} {header : IPHeader} {payload : Bytes}
    (hp : parsePacket p = some (header, payload)) (hhead : q.take 20 = p.take 20)
    (hlen : (ntohs header.totalLength).toNat ≤ q.length)
    (hpay : (q.drop header.getHeaderLength.toNat).take
      ((ntohs header.totalLength).toNat - header.getHeaderLength.toNat) = payload) :
    parsePacket q = some (header, payload) := by
  obtain ⟨rfl, h2, h3, h4, -, h6, rfl⟩ := parsePacket_eq_some.1 hp
  have hq : IPHeader.ofImage p = IPHeader.ofImage q := by
    rw [← IPHeader.ofImage_take q, hhead, IPHeader.ofImage_take]
  exact parsePacket_eq_some.2 ⟨hq, h2, h3, h4, hlen, h6, hpay.symm⟩

theorem createPacket_eq_image_append (srcIp dstIp : BitVec 32) (protocol : BitVec 8) (payload : Bytes)
    (packetId : BitVec 16) :
    ∃ h : IPHeader, createPacket srcIp dstIp protocol payload packetId = h.image ++ payload ∧
      validateChecksum h = true ∧ h.getVersion = 4 ∧ h.getHeaderLength.toNat = 20 ∧
      (ntohs h.totalLength).toNat = (20 + payload.length) % 65536 := by
  let h0 : IPHeader := { createIpHeader srcIp dstIp protocol (.ofNat 16 payload.length) packetId with checksum := 0 }
  refine ⟨{ h0 with checksum := htons (calculateChecksum h0) }, rfl, ?_, ?_, ?_, ?_⟩
  · simp only [validateChecksum, ntohs_htons, beq_iff_eq]
  · simp only [h0, IPHeader.getVersion, createIpHeader_versionIhl]
    decide
  · simp only [h0, IPHeader.getHeaderLength, IPHeader.getIhl, createIpHeader_versionIhl]
    decide
  · show (ntohs (htons (20 + .ofNat 16 payload.length))).toNat = _
    have h20 : (20 : BitVec 16).toNat = 20 := rfl
    simp only [ntohs_htons, BitVec.toNat_add, BitVec.toNat_ofNat, h20]
    omega

/-- `create_packet` then `parse_packet`: a payload of at most 65515 bytes comes
back whole, a longer one cut to `(20 + length) mod 65536 - 20` bytes, or
rejected when that sum wraps below 20. -/
theorem parsePacket_createPacket (srcIp dstIp : BitVec 32) (protocol : BitVec 8) (payload : Bytes)
    (packetId : BitVec 16) :
    (parsePacket (createPacket srcIp dstIp protocol payload packetId)).map Prod.snd =
      if (20 + payload.length) % 65536 < 20 then none
      else some (payload.take ((20 + payload.length) % 65536 - 20)) := by
  obtain ⟨h, hp, hv, hver, hhl, htot⟩ := createPacket_eq_image_append srcIp dstIp protocol payload packetId
  have hof : h = IPHeader.ofImage (h.image ++ payload) := (IPHeader.ofImage_image_append h payload).symm
  rw [hp]
  split_ifs with hlt
  · -- the length field wrapped below the header: no header length fits it
    rcases hq : parsePacket (h.image ++ payload) with _ | ⟨hdr, pl⟩
    · rfl
    · obtain ⟨rfl, -, h3, h4, -⟩ := parsePacket_eq_some.1 hq
      rw [← hof] at h3 h4
      omega
  · have hlen : (h.image ++ payload).length = 20 + payload.length := by simp
    rw [(@parsePacket_eq_some (h.image ++ payload) h (payload.take ((20 + payload.length) % 65536 - 20))).2
      ⟨hof, hver, by omega, by omega, by omega, hv, by rw [hhl, htot, List.drop_left' (IPHeader.image_length h)]⟩]
    rfl

end IPLayer

theorem parsePacket_reads_header_and_payload_padded :
    let p : Bytes := IPLayer.createPacket 0x0200007F 0x0100007F 6 [0x41] 1
    IPLayer.parsePacket p = some (IPHeader.ofImage p, [0x41]) ∧ (p ++ [0, 0]).take 20 = p.take 20 ∧
      (ntohs (IPHeader.ofImage p).totalLength).toNat ≤ (p ++ [0, 0]).length ∧
      ((p ++ [0, 0]).drop (IPHeader.ofImage p).getHeaderLength.toNat).take
        ((ntohs (IPHeader.ofImage p).totalLength).toNat - (IPHeader.ofImage p).getHeaderLength.toNat) = [0x41] ∧
      IPLayer.parsePacket (p ++ [0, 0]) = some (IPHeader.ofImage p, [0x41]) :=
  have hp : IPLayer.parsePacket (IPLayer.createPacket 0x0200007F 0x0100007F 6 [0x41] 1) =
      some (IPHeader.ofImage (IPLayer.createPacket 0x0200007F 0x0100007F 6 [0x41] 1), [0x41]) := by decide
  ⟨hp, by decide, by decide, by decide, IPLayer.parsePacket_reads_header_and_payload hp (by decide) (by decide) (by decide)⟩

end TcpStack.IpLayer
