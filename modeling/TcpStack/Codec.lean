import TcpStack.Receive

namespace TcpStack.Codec

open Wire IpLayer ConnectionManager TCPConnectionManager Table Receive

def onesAdd (a b : Nat) : Nat := if a + b < 65536 then a + b else a + b - 65535

/-- The sum RFC 1071 defines: big-endian 16-bit words added in one's complement,
an odd byte padded on the right; a checksummed range sums to 0xFFFF. -/
def internetSum : Bytes → Nat
  | b0 :: b1 :: rest => onesAdd (256 * b0.toNat + b1.toNat) (internetSum rest)
  | [b] => 256 * b.toNat
  | [] => 0

def pseudoHeader (srcIp dstIp : BitVec 32) (tcpLength : Nat) : Bytes :=
  bytes32 srcIp ++ bytes32 dstIp ++ [0, 6, .ofNat 8 (tcpLength / 256), .ofNat 8 tcpLength]

theorem createTcpHeader_checksum (conn : TCPConnection) (data : Bytes) (flags : BitVec 8) :
    calculateTcpChecksum conn.localIp conn.remoteIp { createTcpHeader conn data flags with checksum := 0 }
      data = (createTcpHeader conn data flags).checksum :=
  rfl

theorem decode_tcpSegment (conn : TCPConnection) (data : Bytes) (flags : BitVec 8) :
    (TCPHeader.ofImage (tcpSegment conn data flags)).toHostOrder = createTcpHeader conn data flags := by
  rw [tcpSegment, TCPHeader.ofImage_image_append, TCPHeader.toHostOrder_toNetworkOrder]

theorem tcpSegment_drop (conn : TCPConnection) (data : Bytes) (flags : BitVec 8) :
    (tcpSegment conn data flags).drop 20 = data :=
  List.drop_left' (TCPHeader.image_length _)

/-- The stack reads back what it writes: the bytes `send_segment` builds pass the
checksum test and decode to the header `create_tcp_header` built. -/
theorem segment_round_trip (m : TCPConnectionManager) (conn : TCPConnection) (data : Bytes)
    (flags : BitVec 8) (ip : IPHeader) (iss : BitVec 32) (hsrc : ip.srcIp = conn.localIp)
    (hdst : ip.dstIp = conn.remoteIp) :
    let seg : Bytes := tcpSegment conn data flags
    let header := (TCPHeader.ofImage seg).toHostOrder
    (m.processIncomingSegment ip seg iss).1 = true ∧ header = createTcpHeader conn data flags ∧
      seg.drop 20 = data ∧ header.srcPort = conn.localPort ∧ header.dstPort = conn.remotePort ∧
      header.seqNum = conn.localSeq ∧ header.ackNum = conn.localAck ∧ header.getDataOffset = 5 ∧
      header.flags = flags ∧ header.windowSize = conn.windowSize ∧ header.urgentPointer = 0 := by
  intro seg header
  have hh : header = createTcpHeader conn data flags := decode_tcpSegment conn data flags
  have hlen : ¬ seg.length < 20 := by simp [seg, tcpSegment]
  have hsum : header.checksum =
      calculateTcpChecksum ip.srcIp ip.dstIp { header with checksum := 0 } (seg.drop 20) := by
    rw [hh, tcpSegment_drop, hsrc, hdst, createTcpHeader_checksum]
  refine ⟨?_, hh, tcpSegment_drop conn data flags, ?_⟩
  · simp only [processIncomingSegment, hlen, if_false]
    rw [if_neg (not_not_intro hsum)]
  · rw [hh]
    exact ⟨rfl, rfl, rfl, rfl, createTcpHeader_getDataOffset conn data flags, rfl, rfl, rfl⟩

theorem segment_round_trip_ack :
    let ip : IPHeader := { fromClient with srcIp := serverConn.localIp, dstIp := serverConn.remoteIp }
    let seg : Bytes := tcpSegment serverConn [0x41] (TCPHeader.psh ||| TCPHeader.ack)
    let header := (TCPHeader.ofImage seg).toHostOrder
    ip.srcIp = serverConn.localIp ∧ ip.dstIp = serverConn.remoteIp ∧
      (established.processIncomingSegment ip seg 0).1 = true ∧
      header = createTcpHeader serverConn [0x41] (TCPHeader.psh ||| TCPHeader.ack) ∧ seg.drop 20 = [0x41] ∧
      header.srcPort = serverConn.localPort ∧ header.dstPort = serverConn.remotePort ∧
      header.seqNum = serverConn.localSeq ∧ header.ackNum = serverConn.localAck ∧
      header.getDataOffset = 5 ∧ header.flags = TCPHeader.psh ||| TCPHeader.ack ∧
      header.windowSize = serverConn.windowSize ∧ header.urgentPointer = 0 :=
  ⟨rfl, rfl, segment_round_trip _ _ _ _ _ _ rfl rfl⟩

def framedSegment (ip : IPHeader) (header : TCPHeader) (rest : Bytes) : Bytes :=
  let cleared : TCPHeader := { header with checksum := 0 }
  ({ cleared with checksum := calculateTcpChecksum ip.srcIp ip.dstIp cleared rest } : TCPHeader).toNetworkOrder.image ++
    rest

/-- `process_incoming_segment` never reads the data offset: a segment with the
code's own checksum is accepted whatever its offset, options going to the data
handler. -/
theorem processIncomingSegment_ignores_dataOffset (m : TCPConnectionManager) (ip : IPHeader)
    (header : TCPHeader) (rest : Bytes) (iss : BitVec 32) :
    let cleared : TCPHeader := { header with checksum := 0 }
    m.processIncomingSegment ip (framedSegment ip header rest) iss =
      (true, if rest.isEmpty then m.dispatchSegment ip cleared iss
        else (m.dispatchSegment ip cleared iss).handleDataSegment ip cleared rest) := by
  intro cleared
  have hlen : ¬ (framedSegment ip header rest).length < 20 := by simp [framedSegment]
  have hdec : (TCPHeader.ofImage (framedSegment ip header rest)).toHostOrder =
      { cleared with checksum := calculateTcpChecksum ip.srcIp ip.dstIp cleared rest } := by
    rw [framedSegment, TCPHeader.ofImage_image_append, TCPHeader.toHostOrder_toNetworkOrder]
  have hdrop : (framedSegment ip header rest).drop 20 = rest := List.drop_left' (TCPHeader.image_length _)
  simp only [processIncomingSegment, hlen, if_false, hdec, hdrop]
  rw [if_neg (not_not_intro rfl)]

/-- `parse_packet` accepts what `create_packet` frames and returns the payload
unchanged, under the header `create_ip_header` builds. -/
theorem packet_round_trip (srcIp dstIp : BitVec 32) (protocol : BitVec 8) (payload : Bytes)
    (packetId : BitVec 16) (hlen : payload.length ≤ 65515) :
    ∃ header : IPHeader,
      IPLayer.parsePacket (IPLayer.createPacket srcIp dstIp protocol payload packetId) = some (header, payload) ∧
      header.getVersion = 4 ∧ header.getIhl = 5 ∧ (ntohs header.totalLength).toNat = 20 + payload.length ∧
      header.getFlags = 2 ∧ header.getFragmentOffset = 0 ∧ header.ttl = 64 ∧ header.protocol = protocol ∧
      header.srcIp = srcIp ∧ header.dstIp = dstIp ∧ IPLayer.validateChecksum header = true := by
  let h0 : IPHeader :=
    { IPLayer.createIpHeader srcIp dstIp protocol (.ofNat 16 payload.length) packetId with checksum := 0 }
  let h : IPHeader := { h0 with checksum := htons (IPLayer.calculateChecksum h0) }
  have hp : IPLayer.createPacket srcIp dstIp protocol payload packetId = h.image ++ payload := rfl
  have hv : IPLayer.validateChecksum h = true := by
    simp only [IPLayer.validateChecksum, ntohs_htons, beq_iff_eq]
  have htot : (ntohs h.totalLength).toNat = 20 + payload.length := by
    show (ntohs (htons (20 + .ofNat 16 payload.length))).toNat = _
    have h20 : (20 : BitVec 16).toNat = 20 := rfl
    simp only [ntohs_htons, BitVec.toNat_add, BitVec.toNat_ofNat, h20]
    omega
  have hfix : h.getVersion = 4 ∧ h.getIhl = 5 ∧ h.getFlags = 2 ∧ h.getFragmentOffset = 0 := by
    simp only [h, h0, IPHeader.getVersion, IPHeader.getIhl, IPHeader.getFlags, IPHeader.getFragmentOffset,
      IPLayer.createIpHeader_versionIhl, IPLayer.createIpHeader_flagsFragment]
    decide
  have hhl : h.getHeaderLength.toNat = 20 := by
    simp only [IPHeader.getHeaderLength, hfix.2.1]
    rfl
  refine ⟨h, ?_, hfix.1, hfix.2.1, htot, hfix.2.2.1, hfix.2.2.2, rfl, rfl, rfl, rfl, hv⟩
  clear_value h h0
  rw [hp, IPLayer.parsePacket, IPHeader.ofImage_image_append]
  simp [hfix.1, hv, hhl, htot, List.drop_left' (IPHeader.image_length h)]

theorem packet_round_trip_one_byte :
    [(0x41 : BitVec 8)].length ≤ 65515 ∧ ∃ header : IPHeader,
      IPLayer.parsePacket (IPLayer.createPacket 0x0200007F 0x0100007F 6 [0x41] 1) = some (header, [0x41]) ∧
      header.getVersion = 4 ∧ header.getIhl = 5 ∧ (ntohs header.totalLength).toNat = 20 + [(0x41 : BitVec 8)].length ∧
      header.getFlags = 2 ∧ header.getFragmentOffset = 0 ∧ header.ttl = 64 ∧ header.protocol = 6 ∧
      header.srcIp = 0x0200007F ∧ header.dstIp = 0x0100007F ∧ IPLayer.validateChecksum header = true :=
  ⟨by decide, packet_round_trip _ _ _ _ _ (by decide)⟩

/-- The TCP checksum is not RFC 1071's: the code's segments do not sum to 0xFFFF,
and a SYN with RFC 1071's checksum is rejected. -/
theorem tcp_checksum_not_rfc :
    let sent : List (Transmit × Bool) :=
      (established.sendSegment 0 [0x41] (TCPHeader.psh ||| TCPHeader.ack)).2.ipLayer.handed
    let seg : Bytes := tcpSegment serverConn [0x41] (TCPHeader.psh ||| TCPHeader.ack)
    let syn : Bytes := tcpSegment client [] TCPHeader.syn
    let rfcSyn : Bytes := syn.take 16 ++ [0x5A, 0x96] ++ syn.drop 18
    let m := ((TCPConnectionManager.init []).listen 0x0100007F 9000).2
    sent.map (·.1.payload) = [seg] ∧
      internetSum (pseudoHeader serverConn.localIp serverConn.remoteIp seg.length ++ seg) = 5865 ∧
      internetSum (pseudoHeader fromClient.srcIp fromClient.dstIp rfcSyn.length ++ rfcSyn) = 0xFFFF ∧
      (m.processIncomingSegment fromClient rfcSyn 5000).1 = false ∧
      internetSum (pseudoHeader fromClient.srcIp fromClient.dstIp syn.length ++ syn) = 11730 ∧
      (m.processIncomingSegment fromClient syn 5000).1 = true := by
  decide

/-- Nor is the IP header checksum: the code's packet does not sum to 0xFFFF yet
parses, and the one with RFC 1071's checksum is rejected. -/
theorem ip_checksum_not_rfc :
    let pkt : Bytes := IPLayer.createPacket 0x0200007F 0x0100007F 6 [0x41] 1
    let rfcPkt : Bytes := pkt.take 10 ++ [0x3C, 0xDF] ++ pkt.drop 12
    pkt = [0x45, 0, 0, 21, 0, 1, 0x40, 0, 64, 6, 0xDF, 0x3C, 127, 0, 0, 2, 127, 0, 0, 1, 0x41] ∧
      internetSum (pkt.take 20) = 41565 ∧ (IPLayer.parsePacket pkt).isSome = true ∧
      internetSum (rfcPkt.take 20) = 0xFFFF ∧ IPLayer.parsePacket rfcPkt = none := by
  decide

/-- TCP options are taken as data: with data offset 6, the four option bytes
are acknowledged as payload, and data offset 0 is accepted too. -/
theorem options_taken_as_data :
    let conn : TCPConnection := { client with localSeq := 1001, localAck := 5001 }
    let withOptions : Bytes := framedSegment fromClient
      ((createTcpHeader conn [] (TCPHeader.psh ||| TCPHeader.ack)).setDataOffset 6) [2, 4, 5, 0xB4, 0x41]
    let noOffset : Bytes := framedSegment fromClient
      ((createTcpHeader conn [] (TCPHeader.psh ||| TCPHeader.ack)).setDataOffset 0) [0x41]
    (TCPHeader.ofImage withOptions).toHostOrder.getDataOffset = 6 ∧
      (established.processIncomingSegment fromClient withOptions 0).1 = true ∧
      ((established.processIncomingSegment fromClient withOptions 0).2.heap 0).localAck = 1006 ∧
      (TCPHeader.ofImage noOffset).toHostOrder.getDataOffset = 0 ∧
      (established.processIncomingSegment fromClient noOffset 0).1 = true := by
  decide

end TcpStack.Codec
