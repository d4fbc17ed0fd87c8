import TcpStack.Transmit
import TcpStack.Engine

namespace TcpStack.Flow

open Wire Reliability TCPReliability ConnectionManager Engine Socket Transmit

/-- The bytes in flight fit the effective window. -/
def InWindow (r : TCPReliability) : Prop := r.bytesInFlight.toNat ≤ r.getEffectiveWindow.toNat

instance : DecidablePred InWindow := fun r =>
  inferInstanceAs (Decidable (r.bytesInFlight.toNat ≤ r.getEffectiveWindow.toNat))

section Chunk

variable (r : TCPReliability) (maxSize now : Nat)

theorem getDataToSend_fst : (r.getDataToSend maxSize now).1 = r.sendBuffer.take
    (min (min maxSize (BitVec.ofNat 32 r.getEffectiveWindow.toNat - r.bytesInFlight).toNat) r.sendBuffer.length) := by
  dsimp only [getDataToSend]
  split <;> rfl

theorem getDataToSend_getEffectiveWindow :
    (r.getDataToSend maxSize now).2.getEffectiveWindow = r.getEffectiveWindow := by
  dsimp only [getDataToSend]
  split <;> rfl

theorem room_of_inWindow (h : InWindow r) :
    (BitVec.ofNat 32 r.getEffectiveWindow.toNat - r.bytesInFlight).toNat =
      r.getEffectiveWindow.toNat - r.bytesInFlight.toNat := by
  have hw := r.getEffectiveWindow.isLt
  have hW : (BitVec.ofNat 32 r.getEffectiveWindow.toNat).toNat = r.getEffectiveWindow.toNat := by
    rw [BitVec.toNat_ofNat]
    omega
  rw [BitVec.toNat_sub_of_le (BitVec.le_def.2 (by rw [hW]; exact h)), hW]

theorem room_of_past_window (h : r.getEffectiveWindow.toNat < r.bytesInFlight.toNat) :
    (BitVec.ofNat 32 r.getEffectiveWindow.toNat - r.bytesInFlight).toNat =
      2 ^ 32 - (r.bytesInFlight.toNat - r.getEffectiveWindow.toNat) := by
  have hw := r.getEffectiveWindow.isLt
  have hb := r.bytesInFlight.isLt
  rw [BitVec.toNat_sub, BitVec.toNat_ofNat]
  omega

theorem chunk_le_room (h : InWindow r) :
    (r.getDataToSend maxSize now).1.length ≤ r.getEffectiveWindow.toNat - r.bytesInFlight.toNat := by
  rw [getDataToSend_fst, List.length_take, room_of_inWindow r h]
  omega

theorem getDataToSend_bytesInFlight_toNat (h : InWindow r) :
    (r.getDataToSend maxSize now).2.bytesInFlight.toNat =
      r.bytesInFlight.toNat + (r.getDataToSend maxSize now).1.length := by
  have hc := chunk_le_room r maxSize now h
  have hw := r.getEffectiveWindow.isLt
  rw [getDataToSend_bytesInFlight, BitVec.toNat_add, BitVec.toNat_ofNat]
  omega

theorem inWindow_getDataToSend (h : InWindow r) : InWindow (r.getDataToSend maxSize now).2 := by
  have hc := chunk_le_room r maxSize now h
  have hrw := getDataToSend_bytesInFlight_toNat r maxSize now h
  unfold InWindow at h ⊢
  rw [getDataToSend_getEffectiveWindow, hrw]
  omega

end Chunk

section Ack

variable (r : TCPReliability) (a : BitVec 32)

theorem processAck_getEffectiveWindow : (r.processAck a).getEffectiveWindow = r.getEffectiveWindow := by
  by_cases hlt : r.lastAckReceived < a
  · rw [processAck_of_lt hlt]
    rfl
  · rw [processAck_of_le (BitVec.not_lt.1 hlt)]

theorem processAck_bytesInFlight_le : (r.processAck a).bytesInFlight.toNat ≤ r.bytesInFlight.toNat := by
  by_cases hlt : r.lastAckReceived < a
  · rw [processAck_of_lt hlt]
    dsimp only
    split
    · next h =>
        rw [BitVec.toNat_sub_of_le h]
        omega
    · exact Nat.zero_le _
  · rw [processAck_of_le (BitVec.not_lt.1 hlt)]

end Ack

/-- What flow control asks of the peer: a window call leaves room for the bytes
already in flight. -/
def keepsFlight (r : TCPReliability) : EngineCall → Bool
  | .updateRemoteWindow window => decide (InWindow (r.updateRemoteWindow window))
  | .setWindowSize window => decide (InWindow (r.setWindowSize window))
  | _ => true

def keepsFlightAll (r : TCPReliability) : List EngineCall → Bool
  | [] => true
  | call :: calls => keepsFlight r call && keepsFlightAll (call.apply r).2 calls

theorem inWindow_apply {r : TCPReliability} (h : InWindow r) (call : EngineCall)
    (hk : keepsFlight r call = true) : InWindow (call.apply r).2 := by
  cases call with
  | bufferData data => exact h
  | getDataToSend maxSize now => exact inWindow_getDataToSend r maxSize now h
  | processAck ackNum =>
      show (r.processAck ackNum).bytesInFlight.toNat ≤ (r.processAck ackNum).getEffectiveWindow.toNat
      rw [processAck_getEffectiveWindow]
      exact Nat.le_trans (processAck_bytesInFlight_le r ackNum) h
  | updateRemoteWindow window => exact of_decide_eq_true hk
  | setWindowSize window => exact of_decide_eq_true hk

/-- Flow control holds while the peer never shrinks the window below the flight:
along every such run of calls an engine's flight stays within the effective
window. -/
theorem flow_control_engineRun (r : TCPReliability) (hr : InWindow r) (calls : List EngineCall)
    (hk : keepsFlightAll r calls = true) : InWindow (engineRun r calls).2 := by
  induction calls generalizing r with
  | nil => exact hr
  | cons call calls ih =>
      simp only [keepsFlightAll, Bool.and_eq_true] at hk
      exact ih _ (inWindow_apply hr call hk.1) hk.2

theorem flow_control_engineRun_shrink :
    InWindow Engine.tenInFlight ∧
      keepsFlightAll Engine.tenInFlight
        [.bufferData (List.replicate 5 0x42), .getDataToSend 1024 0, .updateRemoteWindow 16, .processAck 1012] = true ∧
      InWindow (engineRun Engine.tenInFlight
        [.bufferData (List.replicate 5 0x42), .getDataToSend 1024 0, .updateRemoteWindow 16, .processAck 1012]).2 :=
  ⟨by decide, by decide, flow_control_engineRun _ (by decide) _ (by decide)⟩

/-- Once the peer shrinks the window below the flight, `get_data_to_send`'s
32-bit difference wraps, and a chunk is taken as if there were no window. -/
theorem getDataToSend_ignores_shrunk_window (r : TCPReliability) (maxSize now : Nat)
    (h : r.getEffectiveWindow.toNat < r.bytesInFlight.toNat)
    (hmax : maxSize + (r.bytesInFlight.toNat - r.getEffectiveWindow.toNat) ≤ 2 ^ 32) :
    (r.getDataToSend maxSize now).1 = r.sendBuffer.take maxSize := by
  rw [getDataToSend_fst, room_of_past_window r h,
    show min maxSize (2 ^ 32 - (r.bytesInFlight.toNat - r.getEffectiveWindow.toNat)) = maxSize by omega,
    ← List.take_take, List.take_of_length_le (Nat.le_refl _)]

theorem getDataToSend_ignores_shrunk_window_ten :
    let r : TCPReliability :=
      { Engine.tenInFlight with remoteWindowSize := 4, sendBuffer := List.replicate 30 0x42 }
    r.getEffectiveWindow.toNat < r.bytesInFlight.toNat ∧
      1024 + (r.bytesInFlight.toNat - r.getEffectiveWindow.toNat) ≤ 2 ^ 32 ∧
      (r.getDataToSend 1024 0).1 = r.sendBuffer.take 1024 :=
  ⟨by decide, by decide, getDataToSend_ignores_shrunk_window _ 1024 0 (by decide) (by decide)⟩

def unackedBytes : List TCPSegment → Nat
  | [] => 0
  | s :: rest => s.data.length + unackedBytes rest

theorem unackedBytes_append (l l' : List TCPSegment) : unackedBytes (l ++ l') = unackedBytes l + unackedBytes l' := by
  induction l with
  | nil => exact (Nat.zero_add _).symm
  | cons s rest ih => rw [List.cons_append, unackedBytes, unackedBytes, ih, Nat.add_assoc]

theorem unackedBytes_mark (r : TCPReliability) (now : Nat) (l : List TCPSegment) :
    unackedBytes (l.map fun s => if r.shouldRetransmit now s then TCPReliability.markSegmentSent s now else s) =
      unackedBytes l := by
  induction l with
  | nil => rfl
  | cons s rest ih =>
      rw [List.map_cons, unackedBytes, unackedBytes, ih]
      split <;> rfl

/-- What a socket's engine keeps along every run: the effective window `W` it
started with, at most `W` bytes in flight, and exactly those bytes unacked. -/
structure Flight (W : BitVec 16) (r : TCPReliability) : Prop where
  window : r.getEffectiveWindow = W
  within : r.bytesInFlight.toNat ≤ W.toNat
  accounted : unackedBytes r.unackedSegments = r.bytesInFlight.toNat

namespace Flight

variable {W : BitVec 16} {r : TCPReliability}

theorem getDataToSend (h : Flight W r) (maxSize now : Nat) : Flight W (r.getDataToSend maxSize now).2 := by
  have hin : InWindow r := by unfold InWindow; rw [h.window]; exact h.within
  have hc := chunk_le_room r maxSize now hin
  have hb := getDataToSend_bytesInFlight_toNat r maxSize now hin
  refine ⟨(getDataToSend_getEffectiveWindow r maxSize now).trans h.window, ?_, ?_⟩
  · rw [hb, ← h.window]
    unfold InWindow at hin
    omega
  · rw [getDataToSend_unacked, hb, unackedBytes_append, h.accounted]
    split
    · next he => rw [List.isEmpty_iff.1 he]; rfl
    · rfl

theorem mark (h : Flight W r) (now : Nat) :
    Flight W { r with unackedSegments := r.unackedSegments.map fun s =>
      if r.shouldRetransmit now s then TCPReliability.markSegmentSent s now else s } :=
  ⟨h.window, h.within, (unackedBytes_mark r now _).trans h.accounted⟩

end Flight

/-- A socket sends at most one window's worth of data in its whole life: along
every run its flight stays within the window it started with and is held by
the unacknowledged list, which only grows. -/
theorem socket_sends_one_window (x : TCPSocket × TCPConnectionManager)
    (hin : x.1.reliability.bytesInFlight.toNat ≤ x.1.reliability.getEffectiveWindow.toNat)
    (hacc : unackedBytes x.1.reliability.unackedSegments = x.1.reliability.bytesInFlight.toNat)
    (actions : List SocketAction) :
    let r := (run x actions).1.reliability
    r.getEffectiveWindow = x.1.reliability.getEffectiveWindow ∧
      unackedBytes r.unackedSegments = r.bytesInFlight.toNat ∧
      r.bytesInFlight.toNat ≤ x.1.reliability.getEffectiveWindow.toNat ∧
      unackedKeys x.1.reliability <+: unackedKeys r := by
  have hf : Flight x.1.reliability.getEffectiveWindow (run x actions).1.reliability :=
    run_induction (fun y => Flight x.1.reliability.getEffectiveWindow y.1.reliability)
      (fun y a h => step_preserves (Flight _) (fun _ _ _ h => h.getDataToSend _ _) (fun _ _ h => ⟨h.1, h.2, h.3⟩)
        (fun _ now h => h.mark now) y a h) actions x ⟨rfl, hin, hacc⟩
  have hg : Grows x.1.reliability (run x actions).1.reliability :=
    run_induction (fun y => Grows x.1.reliability y.1.reliability) (fun y a h => h.trans (grows_step y a))
      actions x (Grows.refl _)
  exact ⟨hf.window, hf.accounted, hf.within, hg.2.2⟩

theorem socket_sends_one_window_established :
    let x : TCPSocket × TCPConnectionManager := (TCPSocket.ofConnection 0 Receive.serverConn, Receive.established)
    let r := (run x [.send [0x41] 0, .sweep 1000000001]).1.reliability
    x.1.reliability.bytesInFlight.toNat ≤ x.1.reliability.getEffectiveWindow.toNat ∧
      unackedBytes x.1.reliability.unackedSegments = x.1.reliability.bytesInFlight.toNat ∧
      r.getEffectiveWindow = x.1.reliability.getEffectiveWindow ∧
      unackedBytes r.unackedSegments = r.bytesInFlight.toNat ∧
      r.bytesInFlight.toNat ≤ x.1.reliability.getEffectiveWindow.toNat ∧
      unackedKeys x.1.reliability <+: unackedKeys r :=
  ⟨by decide, by decide, socket_sends_one_window _ (by decide) (by decide) _⟩

/-- The bytes an engine holds for the peer in stream order: the unacknowledged
segments', then the send queue. -/
def stream (r : TCPReliability) : Bytes := (r.unackedSegments.map (·.data)).flatten ++ r.sendBuffer

theorem stream_bufferData (r : TCPReliability) (data : Bytes) : stream (r.bufferData data) = stream r ++ data :=
  (List.append_assoc _ _ _).symm

theorem stream_getDataToSend (r : TCPReliability) (maxSize now : Nat) :
    stream (r.getDataToSend maxSize now).2 = stream r := by
  have hc := getDataToSend_conserves r maxSize now
  have hu := getDataToSend_unacked r maxSize now
  generalize (r.getDataToSend maxSize now).1 = c at hc hu
  rw [stream, stream, hu, List.map_append, List.flatten_append, List.append_assoc, ← hc]
  congr 2
  split
  · next h => rw [List.isEmpty_iff.1 h]; rfl
  · exact List.flatten_singleton c

theorem stream_mark (r : TCPReliability) (now : Nat) :
    stream { r with unackedSegments := r.unackedSegments.map fun s =>
      if r.shouldRetransmit now s then TCPReliability.markSegmentSent s now else s } = stream r := by
  simp only [stream, List.map_map, Function.comp_def, apply_ite TCPSegment.data, TCPReliability.markSegmentSent,
    ite_self]

/-- The data a step gives the engine: that of a send on an established
connection. -/
def accepted : TCPSocket × TCPConnectionManager → SocketAction → Bytes
  | (s, m), .send data _ => if s.isConnected m then data else []
  | _, _ => []

def acceptedAlong : TCPSocket × TCPConnectionManager → List SocketAction → Bytes
  | _, [] => []
  | x, a :: actions => accepted x a ++ acceptedAlong (step x a) actions

theorem stream_step (x : TCPSocket × TCPConnectionManager) (a : SocketAction) :
    stream (step x a).1.reliability = stream x.1.reliability ++ accepted x a := by
  obtain ⟨s, m⟩ := x
  cases a with
  | send data now =>
      simp only [step, TCPSocket.send, accepted, TCPSocket.isConnected]
      split
      · next hc => simp only [hc, Bool.false_eq_true, if_false, List.append_nil]
      · next p hc =>
          simp only [hc]
          by_cases he : (m.heap p).stateMachine.isEstablished = true
          · simp only [he, Bool.not_true, Bool.false_eq_true, if_false, if_true]
            exact sendLoop_preserves (fun r => stream r = stream s.reliability ++ data)
              (fun r _ _ h => (stream_getDataToSend r _ _).trans h) _ _ _ _ _ _ _ (stream_bufferData _ _)
          · simp only [he, Bool.not_false, Bool.false_eq_true, if_true, if_false, List.append_nil]
  | recv length =>
      simp only [step, TCPSocket.recv, accepted, List.append_nil]
      split_ifs <;> rfl
  | sweep now =>
      simp only [step, TCPSocket.sweep, accepted, List.append_nil]
      split
      · rfl
      · rw [retransmitSegments_fst]
        exact stream_mark _ now
  | close => exact (List.append_nil _).symm
  | segment ip tcpData iss => exact (List.append_nil _).symm

/-- A socket's outgoing stream is a FIFO of what `send` took: along every run,
the unacknowledged bytes then the queue are the start's followed by the data
of every send on an established connection, in call order. -/
theorem send_stream_run (x : TCPSocket × TCPConnectionManager) (actions : List SocketAction) :
    stream (run x actions).1.reliability = stream x.1.reliability ++ acceptedAlong x actions := by
  induction actions generalizing x with
  | nil => exact (List.append_nil _).symm
  | cons a actions ih => rw [run_cons, ih, stream_step, acceptedAlong, List.append_assoc]

end TcpStack.Flow
