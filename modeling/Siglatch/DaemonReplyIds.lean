import Siglatch.DaemonRunner
import Siglatch.MuxStreamRuns

set_option autoImplicit false

namespace Siglatch.DaemonReplyIds
open MuxTypes MuxStream MuxStreamOps MuxStreamRuns DaemonTypes DaemonRunner StepRuns

/-! Under which ids the replies to the fragments of a stream travel. -/

def identity (reply : SendPacket) : FragmentKey :=
  (reply.sessionId, reply.streamId, reply.messageId, reply.fragmentIndex)

/-- The replies have ids of their own, so that a queue that holds a packet with the ids of one
does not take a packet with the ids of the other for the same fragment. -/
def Distinct (reply other : SendPacket) : Prop :=
  identity reply ≠ identity other ∧
  ∀ slot packet : RecvPacket, fragmentKey slot = identity reply →
    fragmentKey packet = identity other → sameFragment packet slot = false

/-- The first request is ahead in its message id, which wraps round at 2^64, by as much as it is
behind in its fragment index. -/
def TradesOff (job other : Job) : Prop :=
  job.fragmentIndex < other.fragmentIndex ∧
  job.messageId = other.messageId + (other.fragmentIndex - job.fragmentIndex).toUInt64

instance (job other : Job) : Decidable (TradesOff job other) := inferInstanceAs (Decidable (_ ∧ _))

section Ids

variable {job other : Job} {reply otherReply : SendPacket}

theorem distinct_iff : Distinct reply otherReply ↔ identity reply ≠ identity otherReply := by
  constructor
  · exact And.left
  · intro differ
    refine ⟨differ, ?_⟩
    intro slot packet held comes
    apply Bool.eq_false_of_not_eq_true
    intro same
    apply differ
    rw [← held, ← comes]
    exact sameFragment_iff.mp same

theorem identity_reply (copied : copyJobReplyToSend job = some reply) :
    identity reply =
      (job.sessionId, job.streamId, job.messageId + job.fragmentIndex.toUInt64, 0) := by
  unfold copyJobReplyToSend at copied
  split at copied
  · contradiction
  · obtain rfl := Option.some.inj copied
    rfl

theorem tradesOff_sum : TradesOff job other ↔ job.fragmentIndex < other.fragmentIndex ∧
    job.messageId + job.fragmentIndex.toUInt64 =
      other.messageId + other.fragmentIndex.toUInt64 := by
  unfold TradesOff
  refine and_congr_right ?_
  intro behind
  have gap : (other.fragmentIndex - job.fragmentIndex).toUInt64 =
      other.fragmentIndex.toUInt64 - job.fragmentIndex.toUInt64 := by
    apply UInt64.toNat_inj.mp
    have below := UInt32.lt_iff_toNat_lt.mp behind
    have fits := other.fragmentIndex.toNat_lt
    rw [UInt32.toNat_toUInt64, UInt32.toNat_sub, UInt64.toNat_sub, UInt32.toNat_toUInt64,
      UInt32.toNat_toUInt64]
    omega
  rw [gap]
  constructor
  · intro ahead
    rw [ahead, UInt64.add_assoc, UInt64.sub_add_cancel]
  · intro same
    rw [← UInt64.add_left_inj job.fragmentIndex.toUInt64, same, UInt64.add_assoc,
      UInt64.sub_add_cancel]

theorem sum_ne_iff (differ : (job.messageId, job.fragmentIndex) ≠
      (other.messageId, other.fragmentIndex)) :
    job.messageId + job.fragmentIndex.toUInt64 ≠ other.messageId + other.fragmentIndex.toUInt64 ↔
      ¬ TradesOff job other ∧ ¬ TradesOff other job := by
  rw [tradesOff_sum, tradesOff_sum]
  constructor
  · intro apart
    exact ⟨fun h => apart h.2, fun h => apart h.2.symm⟩
  · rintro ⟨behind, ahead⟩ same
    by_cases equal : job.fragmentIndex = other.fragmentIndex
    · apply differ
      rw [equal] at same
      rw [(UInt64.add_left_inj _).mp same, equal]
    · rcases UInt32.lt_or_lt_of_ne equal with less | more
      · exact behind ⟨less, same⟩
      · exact ahead ⟨more, same.symm⟩

/-- The replies to two requests of one stream have different ids exactly when neither request
makes up in its message id for what it lacks in its fragment index. -/
theorem replies_distinct_iff (job other : Job) (reply otherReply : SendPacket)
    (session : job.sessionId = other.sessionId) (stream : job.streamId = other.streamId)
    (differ : (job.messageId, job.fragmentIndex) ≠ (other.messageId, other.fragmentIndex))
    (answered : copyJobReplyToSend job = some reply)
    (otherAnswered : copyJobReplyToSend other = some otherReply) :
    Distinct reply otherReply ↔ ¬ TradesOff job other ∧ ¬ TradesOff other job := by
  rw [distinct_iff, identity_reply answered, identity_reply otherAnswered, session, stream,
    ← sum_ne_iff differ]
  simp

end Ids

section Samples

def overlapping (messageId : UInt64) (index count : UInt32) : RecvPacket :=
  { RecvPacket.zero with
    wireVersion := 262144, sessionId := 1, streamId := 1, messageId := messageId
    fragmentIndex := index, fragmentCount := count, receivedMs := 1
    user := some RequestPacket.zero }

def overlap : List Op :=
  [.ingest (overlapping 7 0 2), .ingest (overlapping 7 1 2), .ingest (overlapping 8 0 1),
    .drain true, .drain true, .drain true]

def answeredJob (messageId : UInt64) (index count : UInt32) : Job :=
  ((loadFromNormal (stored (overlapping messageId index count))).map fun job =>
    { job with shouldReply := true, response := [1] }).getD Job.zero

def replyOf (messageId : UInt64) (index : UInt32) : SendPacket :=
  { wireVersion := 262144, wireForm := 0, receivedMs := 0, sessionId := 1
    messageId := messageId + index.toUInt64, streamId := 1, fragmentIndex := 0
    fragmentCount := 1, timestamp := 0, ip := [], clientPort := 0, encrypted := false
    wireAuth := false, user := some { RequestPacket.zero with
      actionId := KNOCK_RESPONSE_ACTION_ID, payload := [1] } }

theorem replies_distinct_sample :
    Distinct (replyOf 7 0) (replyOf 7 1) ↔
      ¬ TradesOff (answeredJob 7 0 2) (answeredJob 7 1 2) ∧
      ¬ TradesOff (answeredJob 7 1 2) (answeredJob 7 0 2) :=
  replies_distinct_iff (answeredJob 7 0 2) (answeredJob 7 1 2) (replyOf 7 0) (replyOf 7 1)
    (by decide) (by decide) (by decide) (by decide) (by decide)

theorem replies_collide :
    ¬ ∀ (job other : Job) (reply otherReply : SendPacket), job.sessionId = other.sessionId →
      job.streamId = other.streamId →
      (job.messageId, job.fragmentIndex) ≠ (other.messageId, other.fragmentIndex) →
      copyJobReplyToSend job = some reply → copyJobReplyToSend other = some otherReply →
      Distinct reply otherReply := by
  intro claimed
  have distinct := claimed (answeredJob 7 1 2) (answeredJob 8 0 1) (replyOf 7 1) (replyOf 8 0)
    (by decide) (by decide) (by decide) (by decide) (by decide)
  exact distinct.1 (by decide)

end Samples

end Siglatch.DaemonReplyIds
