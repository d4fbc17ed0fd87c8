import TcpStack.Table

namespace TcpStack.Demux

open Wire StateMachine ConnectionManager TCPConnectionManager Table

/-- What a segment addressed to the 4-tuple of `ip` and `header` may change:
no listener, and no allocated connection of another 4-tuple. -/
structure Framed (ip : IPHeader) (header : TCPHeader) (m m' : TCPConnectionManager) : Prop where
  listeningSockets : m'.listeningSockets = m.listeningSockets
  nextAddr_le : m.nextAddr ≤ m'.nextAddr
  other : ∀ q < m.nextAddr, (m.heap q).hasTuple ip.dstIp header.dstPort ip.srcIp header.srcPort = false →
    m'.heap q = m.heap q ∧ (q ∈ m'.connections ↔ q ∈ m.connections)

namespace Framed

variable {ip : IPHeader} {header : TCPHeader} {m m' m'' : TCPConnectionManager} {p : Nat}

theorem refl (m : TCPConnectionManager) : Framed ip header m m :=
  ⟨rfl, le_rfl, fun _ _ _ => ⟨rfl, Iff.rfl⟩⟩

theorem trans (h : Framed ip header m m') (h' : Framed ip header m' m'') : Framed ip header m m'' := by
  refine ⟨h'.listeningSockets.trans h.listeningSockets, h.nextAddr_le.trans h'.nextAddr_le, fun q hq ht => ?_⟩
  obtain ⟨e, hm⟩ := h.other q hq ht
  obtain ⟨e', hm'⟩ := h'.other q (lt_of_lt_of_le hq h.nextAddr_le) (by rw [e]; exact ht)
  exact ⟨e'.trans e, hm'.trans hm⟩

theorem ne_of_other (hp : (m.heap p).hasTuple ip.dstIp header.dstPort ip.srcIp header.srcPort = true ∨ m.nextAddr ≤ p)
    {q : Nat} (hq : q < m.nextAddr) (ht : (m.heap q).hasTuple ip.dstIp header.dstPort ip.srcIp header.srcPort = false) :
    q ≠ p := by
  rintro rfl
  rcases hp with hp | hp
  · rw [hp] at ht; exact Bool.noConfusion ht
  · omega

theorem setConn (hp : (m.heap p).hasTuple ip.dstIp header.dstPort ip.srcIp header.srcPort = true ∨ m.nextAddr ≤ p)
    (c : TCPConnection) : Framed ip header m (m.setConn p c) :=
  ⟨rfl, le_rfl, fun q hq ht => ⟨by simp [ne_of_other hp hq ht], Iff.rfl⟩⟩

theorem sendSegment (hp : (m.heap p).hasTuple ip.dstIp header.dstPort ip.srcIp header.srcPort = true ∨ m.nextAddr ≤ p)
    (data : Bytes) (flags : BitVec 8) : Framed ip header m (m.sendSegment p data flags).2 := by
  obtain ⟨s, hs⟩ := m.sendSegment_heap p data flags
  refine ⟨by simp, by simp, fun q hq ht => ⟨?_, by simp⟩⟩
  rw [hs, Function.update_noteq (ne_of_other hp hq ht)]

theorem removeConnection (hp : (m.heap p).hasTuple ip.dstIp header.dstPort ip.srcIp header.srcPort = true) :
    Framed ip header m (m.removeConnection p) :=
  ⟨rfl, le_rfl, fun q hq ht => ⟨rfl, by simp [ne_of_other (.inl hp) hq ht]⟩⟩

theorem push (m : TCPConnectionManager) (c : TCPConnection) :
    Framed ip header m { m with heap := Function.update m.heap m.nextAddr c, nextAddr := m.nextAddr + 1,
                                connections := m.connections ++ [m.nextAddr] } :=
  ⟨rfl, Nat.le_succ _, fun q hq _ => ⟨Function.update_noteq (Nat.ne_of_lt hq) _ _, by simp [Nat.ne_of_lt hq]⟩⟩

theorem of_checksum (c : BitVec 16) (h : Framed ip { header with checksum := c } m m') : Framed ip header m m' :=
  ⟨h.listeningSockets, h.nextAddr_le, h.other⟩

end Framed

section Handlers

variable (m : TCPConnectionManager) (ip : IPHeader) (header : TCPHeader) {p : Nat}

theorem hasTuple_of_find (hf : m.findConnection ip.dstIp header.dstPort ip.srcIp header.srcPort = some p) :
    (m.heap p).hasTuple ip.dstIp header.dstPort ip.srcIp header.srcPort = true := by
  unfold findConnection at hf
  simpa using List.find?_some hf

theorem framed_found (hf : m.findConnection ip.dstIp header.dstPort ip.srcIp header.srcPort = some p)
    {c : TCPConnection} (hc : c.hasTuple = (m.heap p).hasTuple) (data : Bytes) (flags : BitVec 8) :
    Framed ip header m ((m.setConn p c).sendSegment p data flags).2 :=
  (Framed.setConn (.inl (hasTuple_of_find m ip header hf)) c).trans
    (Framed.sendSegment (.inl (by simp [hc, hasTuple_of_find m ip header hf])) data flags)

theorem framed_handleSynSegment (iss : BitVec 32) : Framed ip header m (m.handleSynSegment ip header iss) := by
  unfold handleSynSegment
  split
  · refine (Framed.push m _).trans (Framed.sendSegment (.inl ?_) _ _)
    simp [TCPConnection.hasTuple, TCPConnection.processEvent]
  · exact .refl m

theorem framed_handleSynAckSegment : Framed ip header m (m.handleSynAckSegment ip header) := by
  unfold handleSynAckSegment
  split
  · exact .refl m
  · refine framed_found m ip header ‹_› ?_ _ _
    rfl

theorem framed_handleAckSegment : Framed ip header m (m.handleAckSegment ip header) := by
  unfold handleAckSegment
  split
  · exact .refl m
  · exact Framed.setConn (.inl (hasTuple_of_find m ip header ‹_›)) _

theorem framed_handleFinSegment : Framed ip header m (m.handleFinSegment ip header) := by
  unfold handleFinSegment
  split
  · exact .refl m
  · refine framed_found m ip header ‹_› ?_ _ _
    rfl

theorem framed_handleRstSegment : Framed ip header m (m.handleRstSegment ip header) := by
  unfold handleRstSegment
  split
  · exact .refl m
  · rename_i p hf
    refine (Framed.setConn (.inl (hasTuple_of_find m ip header hf)) _).trans (Framed.removeConnection ?_)
    simpa [TCPConnection.processEvent] using hasTuple_of_find m ip header hf

theorem framed_handleDataSegment (data : Bytes) : Framed ip header m (m.handleDataSegment ip header data) := by
  unfold handleDataSegment
  split
  · exact .refl m
  · split
    · refine framed_found m ip header ‹_› ?_ _ _
      rfl
    · exact .refl m

theorem framed_dispatchSegment (iss : BitVec 32) : Framed ip header m (m.dispatchSegment ip header iss) := by
  unfold dispatchSegment
  split_ifs
  exacts [framed_handleSynAckSegment m ip header, framed_handleSynSegment m ip header iss,
    framed_handleAckSegment m ip header, framed_handleFinSegment m ip header,
    framed_handleRstSegment m ip header, .refl m]

theorem handleDataSegment_connections (data : Bytes) :
    (m.handleDataSegment ip header data).connections = m.connections := by
  unfold handleDataSegment
  split
  · rfl
  · split <;> simp

theorem handleDataSegment_nextAddr (data : Bytes) : (m.handleDataSegment ip header data).nextAddr = m.nextAddr := by
  unfold handleDataSegment
  split
  · rfl
  · split <;> simp

theorem handleDataSegment_listeningSockets (data : Bytes) :
    (m.handleDataSegment ip header data).listeningSockets = m.listeningSockets := by
  unfold handleDataSegment
  split
  · rfl
  · split <;> simp

theorem handleSynSegment_of_listener (iss : BitVec 32)
    (hl : m.listeningSockets.any (fun l => l.localIp == ip.dstIp && l.localPort == header.dstPort) = true) :
    (m.handleSynSegment ip header iss).connections = m.connections ++ [m.nextAddr] ∧
      (m.handleSynSegment ip header iss).nextAddr = m.nextAddr + 1 ∧
      (m.handleSynSegment ip header iss).listeningSockets = m.listeningSockets := by
  unfold handleSynSegment
  rw [if_pos hl]
  simp

theorem dispatchSegment_connections (iss : BitVec 32) :
    List.Sublist (m.dispatchSegment ip header iss).connections m.connections ∨
      (header.hasFlag TCPHeader.syn = true ∧ header.hasFlag TCPHeader.ack = false ∧
        m.listeningSockets.any (fun l => l.localIp == ip.dstIp && l.localPort == header.dstPort) = true ∧
        (m.dispatchSegment ip header iss).connections = m.connections ++ [m.nextAddr]) := by
  unfold dispatchSegment
  split_ifs with hs ha
  · left
    unfold handleSynAckSegment
    split <;> simp
  · unfold handleSynSegment
    split
    · exact .inr ⟨hs, by simpa using ha, ‹_›, by simp⟩
    · exact .inl (List.Sublist.refl _)
  · left
    unfold handleAckSegment
    split <;> simp
  · left
    unfold handleFinSegment
    split <;> simp
  · left
    unfold handleRstSegment
    split <;> simp
  · exact .inl (List.Sublist.refl _)

theorem framed_processIncomingSegment (ip : IPHeader) (tcpData : Bytes) (iss : BitVec 32) :
    Framed ip (TCPHeader.ofImage tcpData).toHostOrder m (m.processIncomingSegment ip tcpData iss).2 := by
  unfold processIncomingSegment
  split
  · exact .refl m
  · dsimp only
    split
    · exact .refl m
    · refine Framed.of_checksum 0 ?_
      split
      · exact framed_dispatchSegment m ip _ iss
      · exact (framed_dispatchSegment m ip _ iss).trans (framed_handleDataSegment _ ip _ _)

/-- The table after a segment: a sublist of the old one, or the old one with the
connection a SYN without ACK for a listener births appended. -/
theorem processIncomingSegment_connections (ip : IPHeader) (tcpData : Bytes) (iss : BitVec 32) :
    let header := (TCPHeader.ofImage tcpData).toHostOrder
    let m' := (m.processIncomingSegment ip tcpData iss).2
    List.Sublist m'.connections m.connections ∨
      (header.hasFlag TCPHeader.syn = true ∧ header.hasFlag TCPHeader.ack = false ∧
        m.listeningSockets.any (fun l => l.localIp == ip.dstIp && l.localPort == header.dstPort) = true ∧
        m'.connections = m.connections ++ [m.nextAddr]) := by
  unfold processIncomingSegment
  split
  · exact .inl (List.Sublist.refl _)
  · dsimp only
    split
    · exact .inl (List.Sublist.refl _)
    · split
      · exact dispatchSegment_connections m ip _ iss
      · rw [handleDataSegment_connections]
        exact dispatchSegment_connections m ip _ iss

theorem processIncomingSegment_fst (ip : IPHeader) (tcpData : Bytes) (m' : TCPConnectionManager)
    (iss iss' : BitVec 32) :
    (m.processIncomingSegment ip tcpData iss).1 = (m'.processIncomingSegment ip tcpData iss').1 := by
  unfold processIncomingSegment
  dsimp only
  split_ifs <;> rfl

theorem processIncomingSegment_syn (ip : IPHeader) (tcpData : Bytes) (iss : BitVec 32)
    (hok : (m.processIncomingSegment ip tcpData iss).1 = true)
    (hsyn : (TCPHeader.ofImage tcpData).toHostOrder.hasFlag TCPHeader.syn = true)
    (hack : (TCPHeader.ofImage tcpData).toHostOrder.hasFlag TCPHeader.ack = false)
    (hl : m.listeningSockets.any
      (fun l => l.localIp == ip.dstIp && l.localPort == (TCPHeader.ofImage tcpData).toHostOrder.dstPort) = true) :
    (m.processIncomingSegment ip tcpData iss).2.connections = m.connections ++ [m.nextAddr] ∧
      (m.processIncomingSegment ip tcpData iss).2.nextAddr = m.nextAddr + 1 ∧
      (m.processIncomingSegment ip tcpData iss).2.listeningSockets = m.listeningSockets := by
  have hsyn' := handleSynSegment_of_listener m ip { (TCPHeader.ofImage tcpData).toHostOrder with checksum := 0 } iss hl
  have hd : m.dispatchSegment ip { (TCPHeader.ofImage tcpData).toHostOrder with checksum := 0 } iss =
      m.handleSynSegment ip { (TCPHeader.ofImage tcpData).toHostOrder with checksum := 0 } iss := by
    have hs : ({ (TCPHeader.ofImage tcpData).toHostOrder with checksum := 0 } : TCPHeader).hasFlag
        TCPHeader.syn = true := hsyn
    have ha : ({ (TCPHeader.ofImage tcpData).toHostOrder with checksum := 0 } : TCPHeader).hasFlag
        TCPHeader.ack = false := hack
    rw [dispatchSegment, if_pos hs, if_neg (Bool.eq_false_iff.1 ha)]
  unfold processIncomingSegment at hok ⊢
  dsimp only at hok ⊢
  split_ifs at hok ⊢
  · rw [hd]
    exact hsyn'
  · rw [hd, handleDataSegment_connections, handleDataSegment_nextAddr, handleDataSegment_listeningSockets]
    exact hsyn'

end Handlers

/-- A SYN flood fills the table: each copy of an accepted SYN without ACK for a
listener appends one connection and removes none; nothing bounds the table. -/
theorem syn_flood_grows_table (m : TCPConnectionManager) (ip : IPHeader) (tcpData : Bytes)
    (hok : (m.processIncomingSegment ip tcpData 0).1 = true)
    (hsyn : (TCPHeader.ofImage tcpData).toHostOrder.hasFlag TCPHeader.syn = true)
    (hack : (TCPHeader.ofImage tcpData).toHostOrder.hasFlag TCPHeader.ack = false)
    (hl : m.listeningSockets.any
      (fun l => l.localIp == ip.dstIp && l.localPort == (TCPHeader.ofImage tcpData).toHostOrder.dstPort) = true)
    (isses : List (BitVec 32)) :
    (isses.foldl (fun m iss => (m.processIncomingSegment ip tcpData iss).2) m).connections =
      m.connections ++ List.range' m.nextAddr isses.length := by
  induction isses generalizing m with
  | nil => exact (List.append_nil _).symm
  | cons iss isses ih =>
      have hok' := (processIncomingSegment_fst m ip tcpData m iss 0).trans hok
      obtain ⟨hc, hn, hls⟩ := processIncomingSegment_syn m ip tcpData iss hok' hsyn hack hl
      rw [List.foldl_cons, ih _ ((processIncomingSegment_fst _ ip tcpData m 0 0).trans hok) (hls ▸ hl), hc, hn,
        List.length_cons, List.range'_succ, List.append_assoc, List.singleton_append]

theorem syn_flood_grows_table_three :
    let m := ((TCPConnectionManager.init []).listen 0x0100007F 9000).2
    let seg := tcpSegment client [] TCPHeader.syn
    (m.processIncomingSegment fromClient seg 0).1 = true ∧
      (TCPHeader.ofImage seg).toHostOrder.hasFlag TCPHeader.syn = true ∧
      (TCPHeader.ofImage seg).toHostOrder.hasFlag TCPHeader.ack = false ∧
      m.listeningSockets.any (fun l => l.localIp == fromClient.dstIp &&
        l.localPort == (TCPHeader.ofImage seg).toHostOrder.dstPort) = true ∧
      ([5000, 7000, 9000].foldl (fun m iss => (m.processIncomingSegment fromClient seg iss).2) m).connections =
        m.connections ++ List.range' m.nextAddr 3 :=
  ⟨by decide, by decide, by decide, by decide, syn_flood_grows_table _ _ _ (by decide) (by decide) (by decide)
    (by decide) [5000, 7000, 9000]⟩

variable {m : TCPConnectionManager}

theorem processIncomingSegment_rejected (ip : IPHeader) (tcpData : Bytes) (iss : BitVec 32)
    (h : tcpData.length < 20 ∨ (TCPHeader.ofImage tcpData).toHostOrder.checksum ≠
      calculateTcpChecksum ip.srcIp ip.dstIp { (TCPHeader.ofImage tcpData).toHostOrder with checksum := 0 }
        (tcpData.drop 20)) :
    m.processIncomingSegment ip tcpData iss = (false, m) := by
  unfold processIncomingSegment
  by_cases hl : tcpData.length < 20
  · rw [if_pos hl]
  · rw [if_neg hl]
    exact if_pos (h.resolve_left hl)

/-- The frame of `process_incoming_segment` in every reachable state: listeners
and connections of other 4-tuples are untouched, the table gains at most the
connection a SYN births, and a rejected segment changes nothing. -/
theorem segment_frame (h : Reach m) (ip : IPHeader) (tcpData : Bytes) (iss : BitVec 32) :
    let header : TCPHeader := (TCPHeader.ofImage tcpData).toHostOrder
    let m' := (m.processIncomingSegment ip tcpData iss).2
    m'.listeningSockets = m.listeningSockets ∧
      (∀ q < m.nextAddr, (m.heap q).hasTuple ip.dstIp header.dstPort ip.srcIp header.srcPort = false →
        m'.heap q = m.heap q ∧ (q ∈ m'.connections ↔ q ∈ m.connections)) ∧
      List.Sublist m'.connections (m.connections ++ [m.nextAddr]) ∧
      (m.nextAddr ∈ m'.connections → header.hasFlag TCPHeader.syn = true ∧
        header.hasFlag TCPHeader.ack = false ∧
        m.listeningSockets.any (fun l => l.localIp == ip.dstIp && l.localPort == header.dstPort) = true) ∧
      (tcpData.length < 20 ∨
          header.checksum ≠ calculateTcpChecksum ip.srcIp ip.dstIp { header with checksum := 0 } (tcpData.drop 20) →
        m.processIncomingSegment ip tcpData iss = (false, m)) := by
  intro header m'
  have hf := framed_processIncomingSegment m ip tcpData iss
  refine ⟨hf.listeningSockets, hf.other, ?_, fun hn => ?_, processIncomingSegment_rejected ip tcpData iss⟩
  · rcases processIncomingSegment_connections m ip tcpData iss with hs | ⟨-, -, -, he⟩
    · exact hs.trans (List.sublist_append_left _ _)
    · exact he ▸ List.Sublist.refl _
  · rcases processIncomingSegment_connections m ip tcpData iss with hs | ⟨hs, ha, hl, -⟩
    · exact absurd (h.tableInv.allocated _ (hs.subset hn)) (lt_irrefl _)
    · exact ⟨hs, ha, hl⟩

theorem segment_frame_syn :
    let m := ((TCPConnectionManager.init []).listen 0x0100007F 9000).2
    let seg := tcpSegment client [] TCPHeader.syn
    let header : TCPHeader := (TCPHeader.ofImage seg).toHostOrder
    let m' := (m.processIncomingSegment fromClient seg 5000).2
    Reach m ∧ m'.listeningSockets = m.listeningSockets ∧
      (∀ q < m.nextAddr, (m.heap q).hasTuple fromClient.dstIp header.dstPort fromClient.srcIp header.srcPort = false →
        m'.heap q = m.heap q ∧ (q ∈ m'.connections ↔ q ∈ m.connections)) ∧
      List.Sublist m'.connections (m.connections ++ [m.nextAddr]) ∧
      (m.nextAddr ∈ m'.connections → header.hasFlag TCPHeader.syn = true ∧
        header.hasFlag TCPHeader.ack = false ∧
        m.listeningSockets.any (fun l => l.localIp == fromClient.dstIp && l.localPort == header.dstPort) = true) ∧
      (seg.length < 20 ∨ header.checksum ≠
          calculateTcpChecksum fromClient.srcIp fromClient.dstIp { header with checksum := 0 } (seg.drop 20) →
        m.processIncomingSegment fromClient seg 5000 = (false, m)) :=
  let h := (Reach.init []).listen _ _
  ⟨h, segment_frame h _ _ _⟩

end TcpStack.Demux
