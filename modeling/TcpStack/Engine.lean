import TcpStack.Reliability

namespace TcpStack.Engine

open Wire Reliability TCPReliability

/-- The calls a socket makes on its engine once the initial sequence number is
set. -/
inductive EngineCall
  | bufferData (data : Bytes)
  | getDataToSend (maxSize now : Nat)
  | processAck (ackNum : BitVec 32)
  | updateRemoteWindow (window : BitVec 16)
  | setWindowSize (window : BitVec 16)
  deriving Repr

namespace EngineCall

def input : EngineCall → Bytes
  | bufferData data => data
  | _ => []

def apply (r : TCPReliability) : EngineCall → List Bytes × TCPReliability
  | bufferData data => ([], r.bufferData data)
  | getDataToSend maxSize now => ([(r.getDataToSend maxSize now).1], (r.getDataToSend maxSize now).2)
  | processAck ackNum => ([], r.processAck ackNum)
  | updateRemoteWindow window => ([], r.updateRemoteWindow window)
  | setWindowSize window => ([], r.setWindowSize window)

end EngineCall

def engineRun (r : TCPReliability) : List EngineCall → List Bytes × TCPReliability
  | [] => ([], r)
  | call :: calls =>
      ((call.apply r).1 ++ (engineRun (call.apply r).2 calls).1, (engineRun (call.apply r).2 calls).2)

namespace EngineCall

variable (r : TCPReliability) (call : EngineCall)

theorem apply_conserves :
    r.sendBuffer ++ call.input = (call.apply r).1.flatten ++ (call.apply r).2.sendBuffer := by
  cases call with
  | bufferData data => rfl
  | getDataToSend maxSize now => simp [input, apply, getDataToSend_conserves]
  | processAck ackNum => simp [input, apply, processAck_sendBuffer]
  | updateRemoteWindow window => simp [input, apply, TCPReliability.updateRemoteWindow]
  | setWindowSize window => simp [input, apply, TCPReliability.setWindowSize]

theorem apply_nextSeqNum :
    (call.apply r).2.nextSeqNum = r.nextSeqNum + .ofNat 32 (call.apply r).1.flatten.length := by
  cases call with
  | bufferData data => simp [apply, TCPReliability.bufferData]
  | getDataToSend maxSize now => simp [apply, getDataToSend_nextSeqNum]
  | processAck ackNum => simp [apply, processAck_nextSeqNum]
  | updateRemoteWindow window => simp [apply, TCPReliability.updateRemoteWindow]
  | setWindowSize window => simp [apply, TCPReliability.setWindowSize]

end EngineCall

theorem engineRun_conserves (r : TCPReliability) (calls : List EngineCall) :
    r.sendBuffer ++ (calls.map EngineCall.input).flatten =
      (engineRun r calls).1.flatten ++ (engineRun r calls).2.sendBuffer := by
  induction calls generalizing r with
  | nil => simp [engineRun]
  | cons call calls ih =>
      rw [List.map_cons, List.flatten_cons, ← List.append_assoc, EngineCall.apply_conserves,
        List.append_assoc, ih]
      simp [engineRun]

theorem engineRun_nextSeqNum (r : TCPReliability) (calls : List EngineCall) :
    (engineRun r calls).2.nextSeqNum = r.nextSeqNum + .ofNat 32 (engineRun r calls).1.flatten.length := by
  induction calls generalizing r with
  | nil => simp [engineRun]
  | cons call calls ih =>
      simp only [engineRun, ih, EngineCall.apply_nextSeqNum, List.flatten_append, List.length_append,
        BitVec.ofNat_add, BitVec.add_assoc]

/-- The send queue is a FIFO numbered consecutively: after `set_initial_seq(iss)`,
the chunks returned, then what stays queued, are the bytes queued, and each
chunk is one unacknowledged segment at `iss` plus the bytes before it. -/
theorem send_queue_fifo (r : TCPReliability) (iss : BitVec 32) (calls : List EngineCall) (maxSize now : Nat) :
    let x : List Bytes × TCPReliability := engineRun (r.setInitialSeq iss) calls
    let y := x.2.getDataToSend maxSize now
    (x.1 ++ [y.1]).flatten ++ y.2.sendBuffer = r.sendBuffer ++ (calls.map EngineCall.input).flatten ∧
      y.1.length ≤ maxSize ∧
      y.2.unackedSegments = x.2.unackedSegments ++
        if y.1.isEmpty then [] else [TCPSegment.ofData (iss + .ofNat 32 x.1.flatten.length) y.1 now] := by
  intro x y
  refine ⟨?_, getDataToSend_length_le _ _ _, ?_⟩
  · rw [List.flatten_append, List.flatten_singleton, List.append_assoc,
      getDataToSend_conserves, ← engineRun_conserves]
    rfl
  · rw [getDataToSend_unacked, engineRun_nextSeqNum]
    rfl

def segmentEnd (s : TCPSegment) : Nat := s.seqNum.toNat + s.data.length

def laidTo (stop : Nat) : List TCPSegment → Bool
  | [] => true
  | [s] => segmentEnd s == stop
  | s :: t :: rest => segmentEnd s == t.seqNum.toNat && laidTo stop (t :: rest)

/-- The sending state the acknowledgment law assumes, in plain numbers so that
nothing straddles 2^32. -/
structure SendWindow (r : TCPReliability) : Prop where
  una_le : r.lastAckReceived.toNat ≤ r.nextSeqNum.toNat
  inFlight : r.bytesInFlight.toNat = r.nextSeqNum.toNat - r.lastAckReceived.toNat
  laid : laidTo r.nextSeqNum.toNat r.unackedSegments = true
  pending : ∀ s ∈ r.unackedSegments, r.lastAckReceived.toNat < segmentEnd s

section Laid

variable {stop : Nat} {s t : TCPSegment} {rest : List TCPSegment}

theorem laidTo_tail (h : laidTo stop (s :: rest) = true) : laidTo stop rest = true := by
  cases rest with
  | nil => rfl
  | cons t rest => simp only [laidTo, Bool.and_eq_true] at h; exact h.2

theorem laidTo_end_le (h : laidTo stop (s :: rest) = true) :
    ∀ t ∈ s :: rest, segmentEnd s ≤ segmentEnd t ∧ segmentEnd t ≤ stop := by
  induction rest generalizing s with
  | nil =>
      simp only [laidTo, beq_iff_eq] at h
      simp [h]
  | cons u rest ih =>
      simp only [laidTo, Bool.and_eq_true, beq_iff_eq] at h
      have hu : segmentEnd s ≤ segmentEnd u := by rw [h.1, segmentEnd]; omega
      intro t ht
      rcases List.mem_cons.1 ht with rfl | ht
      · exact ⟨le_rfl, hu.trans (ih h.2 u (List.mem_cons_self _ _)).2⟩
      · have := ih h.2 t ht
        exact ⟨hu.trans this.1, this.2⟩

theorem laidTo_mem_le {l : List TCPSegment} (h : laidTo stop l = true) (hs : s ∈ l) : segmentEnd s ≤ stop := by
  cases l with
  | nil => exact absurd hs (List.not_mem_nil _)
  | cons t rest => exact (laidTo_end_le h s hs).2

theorem laidTo_filter (a : Nat) : ∀ {l : List TCPSegment}, laidTo stop l = true →
    laidTo stop (l.filter fun s => !decide (segmentEnd s ≤ a)) = true
  | [], _ => rfl
  | s :: rest, h => by
      by_cases hs : segmentEnd s ≤ a
      · rw [List.filter_cons_of_neg (by simpa using hs)]
        exact laidTo_filter a (laidTo_tail h)
      · rw [List.filter_eq_self.2 fun t ht => by simpa using lt_of_lt_of_le (not_le.1 hs) (laidTo_end_le h t ht).1]
        exact h

end Laid

theorem processAck_of_lt {r : TCPReliability} {a : BitVec 32} (h : r.lastAckReceived < a) :
    r.processAck a =
      { r with lastAckReceived := a
               unackedSegments := r.unackedSegments.filter fun s => !decide (segmentEnd s ≤ a.toNat)
               bytesInFlight := if a - r.lastAckReceived ≤ r.bytesInFlight then
                 r.bytesInFlight - (a - r.lastAckReceived) else 0 } :=
  if_pos h

section ProcessAck

variable {r : TCPReliability} {a : BitVec 32}

theorem sub_lastAck_toNat (hlt : r.lastAckReceived < a) :
    (a - r.lastAckReceived).toNat = a.toNat - r.lastAckReceived.toNat :=
  BitVec.toNat_sub_of_le (BitVec.le_def.2 (BitVec.lt_def.1 hlt).le)

theorem processAck_of_le (hle : a ≤ r.lastAckReceived) : r.processAck a = r :=
  if_neg fun hlt => absurd (BitVec.lt_def.1 hlt) (not_lt.2 (BitVec.le_def.1 hle))

theorem processAck_of_mem (hr : SendWindow r) (hlt : r.lastAckReceived < a) (hle : a ≤ r.nextSeqNum) :
    (r.processAck a).getLastAck = a ∧
      (r.processAck a).unackedSegments = r.unackedSegments.filter (fun s => !decide (segmentEnd s ≤ a.toNat)) ∧
      (r.processAck a).bytesInFlight.toNat = r.nextSeqNum.toNat - a.toNat ∧ SendWindow (r.processAck a) := by
  rw [BitVec.le_def] at hle
  have hd := sub_lastAck_toNat hlt
  have hf := hr.inFlight
  have hlt' := BitVec.lt_def.1 hlt
  have hfit : a - r.lastAckReceived ≤ r.bytesInFlight := by rw [BitVec.le_def]; omega
  have hbif : (r.bytesInFlight - (a - r.lastAckReceived)).toNat = r.nextSeqNum.toNat - a.toNat := by
    rw [BitVec.toNat_sub_of_le hfit]; omega
  rw [processAck_of_lt hlt, if_pos hfit]
  refine ⟨rfl, rfl, hbif, ⟨hle, hbif, laidTo_filter _ hr.laid, fun s hs => ?_⟩⟩
  simpa [segmentEnd] using (List.mem_filter.1 hs).2

theorem processAck_of_gt (hr : SendWindow r) (hgt : r.nextSeqNum < a) :
    (r.processAck a).getLastAck = a ∧ (r.processAck a).unackedSegments = [] ∧
      (r.processAck a).bytesInFlight = 0 := by
  have hu := hr.una_le
  have hf := hr.inFlight
  rw [BitVec.lt_def] at hgt
  have hlt : r.lastAckReceived < a := by rw [BitVec.lt_def]; omega
  have hfit : ¬ a - r.lastAckReceived ≤ r.bytesInFlight := by
    rw [BitVec.le_def, sub_lastAck_toNat hlt]; omega
  rw [processAck_of_lt hlt, if_neg hfit]
  refine ⟨rfl, List.filter_eq_nil_iff.2 fun s hs => ?_, rfl⟩
  simpa using (laidTo_mem_le hr.laid hs).trans hgt.le

end ProcessAck

/-- What `process_ack` does. Without wrap, an ack in the window removes exactly
the segments it covers and keeps the invariant, and one beyond it empties the
flight; in every state, an ack at or below the last one changes nothing. -/
theorem processAck_in_window (r : TCPReliability) (a : BitVec 32) :
    (SendWindow r → r.lastAckReceived < a → a ≤ r.nextSeqNum →
      (r.processAck a).getLastAck = a ∧
      (r.processAck a).unackedSegments = r.unackedSegments.filter (fun s => !decide (segmentEnd s ≤ a.toNat)) ∧
      (r.processAck a).bytesInFlight.toNat = r.nextSeqNum.toNat - a.toNat ∧ SendWindow (r.processAck a)) ∧
    (a ≤ r.lastAckReceived → r.processAck a = r) ∧
    (SendWindow r → r.nextSeqNum < a → (r.processAck a).getLastAck = a ∧ (r.processAck a).unackedSegments = [] ∧
      (r.processAck a).bytesInFlight = 0) :=
  ⟨processAck_of_mem, processAck_of_le, processAck_of_gt⟩

def tenInFlight : TCPReliability :=
  { TCPReliability.init with
    lastAckReceived := 1000, nextSeqNum := 1010, bytesInFlight := 10,
    unackedSegments := [TCPSegment.ofData 1000 (List.replicate 10 0x41) 0] }

theorem processAck_in_window_half :
    SendWindow tenInFlight ∧ tenInFlight.lastAckReceived < 1005 ∧ 1005 ≤ tenInFlight.nextSeqNum ∧
      (tenInFlight.processAck 1005).getLastAck = 1005 ∧
      (tenInFlight.processAck 1005).unackedSegments =
        tenInFlight.unackedSegments.filter (fun s => !decide (segmentEnd s ≤ (1005 : BitVec 32).toNat)) ∧
      (tenInFlight.processAck 1005).bytesInFlight.toNat = tenInFlight.nextSeqNum.toNat - (1005 : BitVec 32).toNat ∧
      SendWindow (tenInFlight.processAck 1005) :=
  have h : SendWindow tenInFlight := ⟨by decide, by decide, by decide, by decide⟩
  ⟨h, by decide, by decide, (processAck_in_window tenInFlight 1005).1 h (by decide) (by decide)⟩

def wrapped : TCPReliability :=
  { TCPReliability.init with
    lastAckReceived := 0xFFFFFFF8, nextSeqNum := 8, bytesInFlight := 16,
    unackedSegments := [TCPSegment.ofData 0xFFFFFFF8 (List.replicate 16 0x41) 0] }

/-- An ack beyond anything sent is taken; an ack inside a flight that crosses
the wrap is ignored. -/
theorem ack_compared_without_wrap :
    (tenInFlight.processAck 2000).getLastAck = 2000 ∧ (tenInFlight.processAck 2000).unackedSegments = [] ∧
      (tenInFlight.processAck 2000).bytesInFlight = 0 ∧
      wrapped.bytesInFlight = wrapped.nextSeqNum - wrapped.lastAckReceived ∧
      (0xFFFFFFF8 : BitVec 32) + .ofNat 32 16 = wrapped.nextSeqNum ∧
      (4 : BitVec 32) - wrapped.lastAckReceived = 12 ∧ wrapped.processAck 4 = wrapped := by
  decide

theorem apply_keeps_wrapped_segment (r : TCPReliability) (call : EngineCall) {s : TCPSegment}
    (hs : s ∈ r.unackedSegments) (hw : 2 ^ 32 ≤ segmentEnd s) : s ∈ (call.apply r).2.unackedSegments := by
  cases call with
  | bufferData data => exact hs
  | getDataToSend maxSize now =>
      rw [EngineCall.apply, getDataToSend_unacked]
      exact List.mem_append_left _ hs
  | processAck ackNum =>
      by_cases hlt : r.lastAckReceived < ackNum
      · rw [EngineCall.apply, processAck_of_lt hlt]
        refine List.mem_filter.2 ⟨hs, ?_⟩
        simpa using ackNum.isLt.trans_le hw
      · rw [EngineCall.apply, processAck_of_le (BitVec.not_lt.1 hlt)]
        exact hs
  | updateRemoteWindow window => exact hs
  | setWindowSize window => exact hs

/-- A segment sent across the wrap of the sequence space is never acknowledged:
its end, compared in `size_t`, reaches 2^32, so it outlives every
acknowledgment along every run. -/
theorem wrapped_segment_never_acked (r : TCPReliability) (calls : List EngineCall) {s : TCPSegment}
    (hs : s ∈ r.unackedSegments) (hw : 2 ^ 32 ≤ segmentEnd s) : s ∈ (engineRun r calls).2.unackedSegments := by
  induction calls generalizing r with
  | nil => exact hs
  | cons call calls ih => exact ih _ (apply_keeps_wrapped_segment r call hs hw)

theorem wrapped_segment_never_acked_ffff :
    let s : TCPSegment := TCPSegment.ofData 0xFFFFFFF8 (List.replicate 16 0x41) 0
    s ∈ wrapped.unackedSegments ∧ 2 ^ 32 ≤ segmentEnd s ∧
      (engineRun wrapped [.processAck 0xFFFFFFFF]).2.getLastAck = 0xFFFFFFFF ∧
      s ∈ (engineRun wrapped [.processAck 0xFFFFFFFF]).2.unackedSegments :=
  ⟨by decide, by decide, by decide, wrapped_segment_never_acked _ _ (by decide) (by decide)⟩

theorem laidTo_append {stop : Nat} (s : TCPSegment) (hs : s.seqNum.toNat = stop) :
    ∀ {l : List TCPSegment}, laidTo stop l = true → laidTo (segmentEnd s) (l ++ [s]) = true
  | [], _ => by simp [laidTo]
  | [t], h => by simp_all [laidTo]
  | t :: u :: rest, h => by
      simp only [laidTo, Bool.and_eq_true] at h
      exact Bool.and_eq_true _ _ ▸ ⟨h.1, laidTo_append s hs h.2⟩

namespace EngineCall

def fits (r : TCPReliability) : EngineCall → Bool
  | getDataToSend maxSize now => decide (r.nextSeqNum.toNat + (r.getDataToSend maxSize now).1.length < 2 ^ 32)
  | processAck ackNum => decide (ackNum ≤ r.nextSeqNum)
  | _ => true

end EngineCall

def fitsAll (r : TCPReliability) : List EngineCall → Bool
  | [] => true
  | call :: calls => call.fits r && fitsAll (call.apply r).2 calls

section Window

variable {r : TCPReliability}

theorem SendWindow.of_fields {r' : TCPReliability} (hr : SendWindow r)
    (ha : r'.lastAckReceived = r.lastAckReceived) (hn : r'.nextSeqNum = r.nextSeqNum)
    (hb : r'.bytesInFlight = r.bytesInFlight) (hu : r'.unackedSegments = r.unackedSegments) :
    SendWindow r' :=
  ⟨ha ▸ hn ▸ hr.una_le, ha ▸ hn ▸ hb ▸ hr.inFlight, hn ▸ hu ▸ hr.laid, ha ▸ hu ▸ hr.pending⟩

theorem sendWindow_getDataToSend (hr : SendWindow r) (maxSize now : Nat)
    (hfit : r.nextSeqNum.toNat + (r.getDataToSend maxSize now).1.length < 2 ^ 32) :
    SendWindow (r.getDataToSend maxSize now).2 := by
  have hn := getDataToSend_nextSeqNum r maxSize now
  have hb := getDataToSend_bytesInFlight r maxSize now
  have ha := getDataToSend_lastAckReceived r maxSize now
  have hu := getDataToSend_unacked r maxSize now
  generalize (r.getDataToSend maxSize now).1 = c at hn hb hu hfit
  cases hc : c.isEmpty
  · -- a chunk goes out: one segment from the old next sequence number to the new one
    have h1 := hr.una_le
    have h2 := hr.inFlight
    have hpos : 0 < c.length := List.length_pos.2 fun h => by simp [h] at hc
    have hn' : (r.getDataToSend maxSize now).2.nextSeqNum.toNat = r.nextSeqNum.toNat + c.length := by
      rw [hn, BitVec.toNat_add, BitVec.toNat_ofNat]; omega
    have hb' : (r.getDataToSend maxSize now).2.bytesInFlight.toNat = r.bytesInFlight.toNat + c.length := by
      rw [hb, BitVec.toNat_add, BitVec.toNat_ofNat]; omega
    rw [hc, if_neg Bool.false_ne_true] at hu
    refine ⟨by rw [ha]; omega, by rw [ha]; omega, ?_, fun s hs => ?_⟩
    · rw [hu, hn']
      exact laidTo_append (TCPSegment.ofData r.nextSeqNum c now) rfl hr.laid
    · rw [hu] at hs
      rw [ha]
      rcases List.mem_append.1 hs with hs | hs
      · exact hr.pending s hs
      · rw [List.mem_singleton.1 hs]
        show r.lastAckReceived.toNat < r.nextSeqNum.toNat + c.length
        omega
  · -- nothing goes out
    rw [List.isEmpty_iff.1 hc] at hn hb
    rw [hc, if_pos rfl, List.append_nil] at hu
    exact hr.of_fields ha (by simpa using hn) (by simpa using hb) hu

theorem sendWindow_processAck (hr : SendWindow r) {a : BitVec 32} (ha : a ≤ r.nextSeqNum) :
    SendWindow (r.processAck a) := by
  by_cases hlt : r.lastAckReceived < a
  · exact (processAck_of_mem hr hlt ha).2.2.2
  · rw [processAck_of_le (BitVec.not_lt.1 hlt)]
    exact hr

theorem sendWindow_apply (hr : SendWindow r) (call : EngineCall) (h : call.fits r = true) :
    SendWindow (call.apply r).2 := by
  cases call with
  | bufferData data => exact hr.of_fields rfl rfl rfl rfl
  | getDataToSend maxSize now => exact sendWindow_getDataToSend hr maxSize now (of_decide_eq_true h)
  | processAck ackNum => exact sendWindow_processAck hr (of_decide_eq_true h)
  | updateRemoteWindow window => exact hr.of_fields rfl rfl rfl rfl
  | setWindowSize window => exact hr.of_fields rfl rfl rfl rfl

end Window

/-- The send window is an invariant of every run whose calls fit the states they
meet: the peer acknowledges only what was sent and sequence numbers stay below
2^32. -/
theorem sendWindow_engineRun (r : TCPReliability) (hr : SendWindow r) (calls : List EngineCall)
    (h : fitsAll r calls = true) : SendWindow (engineRun r calls).2 := by
  induction calls generalizing r with
  | nil => exact hr
  | cons call calls ih =>
      simp only [fitsAll, Bool.and_eq_true] at h
      exact ih _ (sendWindow_apply hr call h.1) h.2

theorem sendWindow_setInitialSeq_iff (iss : BitVec 32) : SendWindow (init.setInitialSeq iss) ↔ iss = 0 := by
  refine ⟨fun h => BitVec.eq_of_toNat_eq ?_, ?_⟩
  · simpa [setInitialSeq, init] using h.inFlight.symm
  · rintro rfl
    exact ⟨le_rfl, rfl, rfl, fun _ hs => absurd hs (List.not_mem_nil _)⟩

theorem sendWindow_engineRun_ack :
    SendWindow tenInFlight ∧
      fitsAll tenInFlight [.bufferData (List.replicate 5 0x42), .getDataToSend 1024 0, .processAck 1012] = true ∧
      SendWindow (engineRun tenInFlight
        [.bufferData (List.replicate 5 0x42), .getDataToSend 1024 0, .processAck 1012]).2 :=
  have h : SendWindow tenInFlight := ⟨by decide, by decide, by decide, by decide⟩
  ⟨h, by decide, sendWindow_engineRun tenInFlight h _ (by decide)⟩

end TcpStack.Engine
