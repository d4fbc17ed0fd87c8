import Mathlib.Algebra.Group.Int
import TcpStack.Wire

namespace TcpStack.Reliability

open Wire

structure TCPSegment where
  seqNum : BitVec 32
  data : Bytes
  sentTime : Nat
  retransmitCount : BitVec 8
  acknowledged : Bool
  deriving DecidableEq, Repr

def TCPSegment.ofData (seq : BitVec 32) (segmentData : Bytes) (now : Nat) : TCPSegment :=
  ⟨seq, segmentData, now, 0, false⟩

/-- The state of `TCPReliability`: the send buffer is the `std::queue`, front
first, and `rto`, `srtt` and `rttvar` are millisecond counts. -/
structure TCPReliability where
  nextSeqNum : BitVec 32
  lastAckReceived : BitVec 32
  sendBuffer : Bytes
  unackedSegments : List TCPSegment
  rto : Int
  srtt : Int
  rttvar : Int
  maxRetransmits : BitVec 8
  sendWindowSize : BitVec 16
  remoteWindowSize : BitVec 16
  bytesInFlight : BitVec 32
  deriving DecidableEq, Repr

/-- A `double` as the binary fraction `num / 2 ^ exp` it stands for; rounding to
a 53-bit significand is left out (`Dyadic.Exact` says when none is needed). -/
structure Dyadic where
  num : Int
  exp : Nat
  deriving DecidableEq, Repr

namespace Dyadic

def ofInt (n : Int) : Dyadic := ⟨n, 0⟩

instance : Add Dyadic := ⟨fun a b => ⟨a.num * 2 ^ b.exp + b.num * 2 ^ a.exp, a.exp + b.exp⟩⟩

instance : Sub Dyadic := ⟨fun a b => ⟨a.num * 2 ^ b.exp - b.num * 2 ^ a.exp, a.exp + b.exp⟩⟩

instance : Mul Dyadic := ⟨fun a b => ⟨a.num * b.num, a.exp + b.exp⟩⟩

theorem add_def (a b : Dyadic) : a + b = ⟨a.num * 2 ^ b.exp + b.num * 2 ^ a.exp, a.exp + b.exp⟩ := rfl

theorem sub_def (a b : Dyadic) : a - b = ⟨a.num * 2 ^ b.exp - b.num * 2 ^ a.exp, a.exp + b.exp⟩ := rfl

theorem mul_def (a b : Dyadic) : a * b = ⟨a.num * b.num, a.exp + b.exp⟩ := rfl

def trunc (a : Dyadic) : Int := a.num.tdiv (2 ^ a.exp)

def Exact (a : Dyadic) : Prop := a.num.natAbs < 2 ^ 53

instance : DecidablePred Exact := fun a => inferInstanceAs (Decidable (a.num.natAbs < 2 ^ 53))

end Dyadic

def rttAlpha : Dyadic := ⟨1, 3⟩

def rttBeta : Dyadic := ⟨1, 2⟩

def smooth (w : Dyadic) (old sample : Int) : Dyadic :=
  (Dyadic.ofInt 1 - w) * .ofInt old + w * .ofInt sample

namespace TCPReliability

def init : TCPReliability :=
  { nextSeqNum := 0, lastAckReceived := 0, sendBuffer := [], unackedSegments := [],
    rto := 1000, srtt := 0, rttvar := 0, maxRetransmits := 3, sendWindowSize := 65535,
    remoteWindowSize := 65535, bytesInFlight := 0 }

variable (r : TCPReliability)

def setInitialRto (rto : Int) : TCPReliability := { r with rto }

def setMaxRetransmits (maxRetx : BitVec 8) : TCPReliability := { r with maxRetransmits := maxRetx }

def setWindowSize (window : BitVec 16) : TCPReliability := { r with sendWindowSize := window }

def getNextSeq : BitVec 32 := r.nextSeqNum

def advanceSeq (bytes : BitVec 32) : TCPReliability := { r with nextSeqNum := r.nextSeqNum + bytes }

def setInitialSeq (seq : BitVec 32) : TCPReliability := { r with nextSeqNum := seq }

def updateRemoteWindow (window : BitVec 16) : TCPReliability := { r with remoteWindowSize := window }

def getBytesInFlight : BitVec 32 := r.bytesInFlight

def getLastAck : BitVec 32 := r.lastAckReceived

def getEffectiveWindow : BitVec 16 :=
  if r.remoteWindowSize < r.sendWindowSize then r.remoteWindowSize else r.sendWindowSize

def isSeqAcknowledged (seqNum : BitVec 32) : Bool := seqNum < r.lastAckReceived

def canSendData (dataSize : Nat) : Bool :=
  r.bytesInFlight.toNat + dataSize ≤ r.getEffectiveWindow.toNat

def bufferData (data : Bytes) : TCPReliability := { r with sendBuffer := r.sendBuffer ++ data }

/-- Dequeue up to `maxSize` bytes within the window, recorded as one
unacknowledged segment; the window difference wraps as `uint16_t - uint32_t`. -/
def getDataToSend (maxSize now : Nat) : Bytes × TCPReliability :=
  let availableWindow := (BitVec.ofNat 32 r.getEffectiveWindow.toNat - r.bytesInFlight).toNat
  let toSend := min (min maxSize availableWindow) r.sendBuffer.length
  let data := r.sendBuffer.take toSend
  let r := { r with sendBuffer := r.sendBuffer.drop toSend }
  if data.isEmpty then (data, r)
  else
    (data, { r with unackedSegments := r.unackedSegments ++ [TCPSegment.ofData r.nextSeqNum data now]
                    nextSeqNum := r.nextSeqNum + .ofNat 32 data.length
                    bytesInFlight := r.bytesInFlight + .ofNat 32 data.length })

/-- The filter of `get_segments_to_retransmit`; `now - sent_time > rto_`
compares nanoseconds with milliseconds. -/
def shouldRetransmit (now : Nat) (segment : TCPSegment) : Bool :=
  !segment.acknowledged && decide ((now : Int) - segment.sentTime > r.rto * 1000000) &&
    segment.retransmitCount < r.maxRetransmits

def getSegmentsToRetransmit (now : Nat) : List TCPSegment :=
  r.unackedSegments.filter (r.shouldRetransmit now)

def hasTimeout (now : Nat) : Bool :=
  r.unackedSegments.any fun segment =>
    !segment.acknowledged && decide ((now : Int) - segment.sentTime > r.rto * 1000000) &&
      r.maxRetransmits ≤ segment.retransmitCount

def removeAcknowledgedSegments (ackNum : BitVec 32) : TCPReliability :=
  { r with unackedSegments :=
      r.unackedSegments.filter fun s => !decide (s.seqNum.toNat + s.data.length ≤ ackNum.toNat) }

def processAck (ackNum : BitVec 32) : TCPReliability :=
  if r.lastAckReceived < ackNum then
    let newlyAckedBytes := ackNum - r.lastAckReceived
    let r := ({ r with lastAckReceived := ackNum }).removeAcknowledgedSegments ackNum
    { r with bytesInFlight :=
        if newlyAckedBytes ≤ r.bytesInFlight then r.bytesInFlight - newlyAckedBytes else 0 }
  else r

def calculateRto : TCPReliability :=
  let rto := r.srtt + max 100 (4 * r.rttvar)
  { r with rto := min (max rto 200) 60000 }

/-- A sample taken while `srtt_` is 0 restarts the estimator, as a first sample
does. -/
def updateRtt (rtt : Int) : TCPReliability :=
  let r :=
    if r.srtt = 0 then { r with srtt := rtt, rttvar := rtt.tdiv 2 }
    else
      let rttDiff := (Dyadic.ofInt (r.srtt - rtt).natAbs).trunc
      { r with rttvar := (smooth rttBeta r.rttvar rttDiff).trunc, srtt := (smooth rttAlpha r.srtt rtt).trunc }
  r.calculateRto

def markSegmentSent (segment : TCPSegment) (now : Nat) : TCPSegment :=
  { segment with sentTime := now, retransmitCount := segment.retransmitCount + 1 }

section Queue

variable (maxSize now : Nat)

theorem getDataToSend_conserves :
    (r.getDataToSend maxSize now).1 ++ (r.getDataToSend maxSize now).2.sendBuffer = r.sendBuffer := by
  dsimp only [getDataToSend]
  split <;> exact List.take_append_drop _ _

theorem getDataToSend_length_le : (r.getDataToSend maxSize now).1.length ≤ maxSize := by
  dsimp only [getDataToSend]
  split <;> simp only [List.length_take] <;> omega

theorem getDataToSend_nextSeqNum :
    (r.getDataToSend maxSize now).2.nextSeqNum = r.nextSeqNum + .ofNat 32 (r.getDataToSend maxSize now).1.length := by
  dsimp only [getDataToSend]
  split
  · next h =>
      rw [List.isEmpty_iff.1 h]
      simp
  · rfl

theorem getDataToSend_bytesInFlight :
    (r.getDataToSend maxSize now).2.bytesInFlight =
      r.bytesInFlight + .ofNat 32 (r.getDataToSend maxSize now).1.length := by
  dsimp only [getDataToSend]
  split
  · next h =>
      rw [List.isEmpty_iff.1 h]
      simp
  · rfl

theorem getDataToSend_lastAckReceived :
    (r.getDataToSend maxSize now).2.lastAckReceived = r.lastAckReceived := by
  dsimp only [getDataToSend]
  split <;> rfl

theorem getDataToSend_rto : (r.getDataToSend maxSize now).2.rto = r.rto := by
  dsimp only [getDataToSend]
  split <;> rfl

theorem getDataToSend_unacked :
    (r.getDataToSend maxSize now).2.unackedSegments = r.unackedSegments ++
      if (r.getDataToSend maxSize now).1.isEmpty then []
      else [TCPSegment.ofData r.nextSeqNum (r.getDataToSend maxSize now).1 now] := by
  dsimp only [getDataToSend]
  split
  · exact (List.append_nil _).symm
  · rfl

theorem processAck_sendBuffer (ackNum : BitVec 32) : (r.processAck ackNum).sendBuffer = r.sendBuffer := by
  dsimp only [processAck]
  split <;> rfl

theorem processAck_nextSeqNum (ackNum : BitVec 32) : (r.processAck ackNum).nextSeqNum = r.nextSeqNum := by
  dsimp only [processAck]
  split <;> rfl

end Queue

/-- `set_initial_seq` moves `next_seq_num_` alone: with nothing in flight, the
engine reports `iss` bytes between the last acknowledgment and the next
sequence number. -/
theorem setInitialSeq_leaves_lastAck (iss : BitVec 32) :
    let r : TCPReliability := init.setInitialSeq iss
    r.getBytesInFlight = 0 ∧ r.getNextSeq - r.getLastAck = iss ∧ r.unackedSegments = [] := by
  simp [setInitialSeq, getBytesInFlight, getNextSeq, getLastAck, init]

end TCPReliability

end TcpStack.Reliability
