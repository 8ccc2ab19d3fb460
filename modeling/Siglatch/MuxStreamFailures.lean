import Siglatch.MuxStreamIds
import Siglatch.MuxStreamRecovery

set_option autoImplicit false

namespace Siglatch.MuxStreamFailures
open MuxTypes MuxStream MuxStreamView MuxStreamOps MuxStreamRuns MuxStreamRecovery MuxStreamIds
open StepRuns

/-! What an ingest that refuses a packet leaves behind. -/

/-- Nothing queued, tracked, counted or in flight has changed. -/
structure Untouched (state state' : StreamState) : Prop where
  queue : state'.readyQueue = state.readyQueue
  count : state'.readyCount = state.readyCount
  sessions : trackedSessions state' = trackedSessions state
  streams : ∀ sessionId, streamsOf state' sessionId = streamsOf state sessionId
  counters : ∀ sessionId, streamCounter state' sessionId = streamCounter state sessionId
  trackers : ∀ sessionId streamId,
    tracker state' sessionId streamId = tracker state sessionId streamId

/-- The packet has nothing new for the trackers: it has no session or none is free; or it is of
a tracked session, names a stream that the session's counter has passed, and either that stream
has no tracker and none is free, or it has one, whose counter has passed the message that the
packet names, and the packet does not begin a message. -/
def Settled (state : StreamState) (normal : RecvPacket) : Prop :=
  normal.sessionId = 0 ∨ NoSession state normal.sessionId ∨
  ∃ next, streamCounter state normal.sessionId = some next ∧
    IdCounter.Passed (2 ^ 32) next.toNat normal.streamId.toNat ∧
    (NoTracker state normal.sessionId normal.streamId ∨
      ∃ t, tracker state normal.sessionId normal.streamId = some t ∧
        IdCounter.Passed (2 ^ 64) t.nextMessageId.toNat normal.messageId.toNat ∧
        (Singular normal ∨ t.messageId ≠ 0))

section Begin

variable {t t' : MessageTracker} {p : RecvPacket}

theorem held_eq_iff (named : p.messageId ≠ 0)
    (orderly : t.messageId ≠ 0 → t.fragmentCount ≠ 0 ∧ t.nextFragmentIndex < t.fragmentCount) :
    held t p = t ↔ Singular p ∨ t.messageId ≠ 0 := by
  unfold held
  by_cases single : Singular p
  · rw [begin_singular single named]
    simp [single]
  by_cases idle : t.messageId = 0
  · rw [begin_idle single named idle]
    simp only [single, idle, ne_eq, not_true_eq_false, or_self, iff_false]
    intro same
    apply named
    rw [← idle, ← same]
    rfl
  · simp only [ne_eq, idle, not_false_eq_true, or_true, iff_true]
    by_cases own : t.messageId = p.messageId
    · rw [begin_same single named own (orderly idle).1]
      rfl
    · rw [begin_busy single idle own (orderly idle).2]
      rfl

end Begin

section Settled

variable {state final : StreamState} {normal : RecvPacket}

def Orderly (state : StreamState) : Prop :=
  ∀ sessionId streamId t, tracker state sessionId streamId = some t → t.messageId ≠ 0 →
    t.fragmentCount ≠ 0 ∧ t.nextFragmentIndex < t.fragmentCount

theorem tracked_of_counter {sessionId : UInt64} {next : UInt32}
    (counter : streamCounter state sessionId = some next) :
    sessionId ∈ trackedSessions state ∧ (sessionFor state sessionId).nextStreamId = next := by
  obtain ⟨session, tracked, rfl⟩ := Option.map_eq_some_iff.mp counter
  refine ⟨?_, ?_⟩
  · by_contra untracked
    rw [sessionAt_none_iff.mpr untracked] at tracked
    contradiction
  · unfold sessionFor
    rw [tracked]
    rfl

theorem counter_stays_iff (counted : Counted state final normal) :
    streamCounter final normal.sessionId = streamCounter state normal.sessionId ↔
      ∃ next, streamCounter state normal.sessionId = some next ∧
        IdCounter.Passed (2 ^ 32) next.toNat normal.streamId.toNat := by
  rw [counted.counters, if_pos rfl]
  constructor
  · intro same
    have next := (tracked_of_counter same.symm).2
    refine ⟨_, same.symm, ?_⟩
    rw [← next]
    exact streamIdAfter_eq_iff.mp next.symm
  · rintro ⟨next, counter, passed⟩
    rw [counter, (tracked_of_counter counter).2]
    exact congrArg some (streamIdAfter_eq_iff.mpr passed)

theorem streamIdOf_passed {next : ℕ}
    (passed : IdCounter.Passed (2 ^ 32) next normal.streamId.toNat) :
    normal.streamId ≠ 0 ∧ streamIdOf state normal = normal.streamId := by
  have named : normal.streamId ≠ 0 := by
    intro zero
    apply passed.1
    rw [zero]
    rfl
  exact ⟨named, if_neg named⟩

theorem untouched_refl (state : StreamState) : Untouched state state :=
  ⟨rfl, rfl, rfl, fun _ => rfl, fun _ => rfl, fun _ _ => rfl⟩

theorem untouched_of_counted (counted : Counted state final normal)
    (tracked : normal.sessionId ∈ trackedSessions state)
    (sessions : trackedSessions final =
      if normal.sessionId ∈ trackedSessions state then trackedSessions state
      else if (trackedSessions state).card = SESSION_TRACKER_CAPACITY then trackedSessions state
      else normal.sessionId ::ₘ trackedSessions state)
    (streams : streamsOf final normal.sessionId = streamsOf state normal.sessionId)
    (counter : streamCounter final normal.sessionId = streamCounter state normal.sessionId)
    (trackers : ∀ sessionId streamId,
      tracker final sessionId streamId = tracker state sessionId streamId) :
    Untouched state final := by
  refine ⟨counted.queue, counted.count, sessions.trans (if_pos tracked), ?_, ?_, trackers⟩
  · intro sessionId
    by_cases same : sessionId = normal.sessionId
    · rw [same]
      exact streams
    · exact counted.streams sessionId same
  · intro sessionId
    by_cases same : sessionId = normal.sessionId
    · rw [same]
      exact counter
    · rw [counted.counters, if_neg same]

theorem tracker_stays_iff (orderly : Orderly state) (posted : Posted state final normal) :
    tracker final normal.sessionId (streamIdOf state normal) =
        tracker state normal.sessionId (streamIdOf state normal) ↔
      ∃ t, tracker state normal.sessionId (streamIdOf state normal) = some t ∧
        IdCounter.Passed (2 ^ 64) t.nextMessageId.toNat normal.messageId.toNat ∧
        (Singular normal ∨ t.messageId ≠ 0) := by
  rw [posted.here]
  cases tracked : tracker state normal.sessionId (streamIdOf state normal) with
  | none => simp
  | some t =>
    have found : trackerFor state normal.sessionId (streamIdOf state normal) = t := by
      unfold trackerFor
      rw [tracked]
      rfl
    rw [found]
    simp only [Option.some.injEq, exists_eq_left']
    by_cases stays : messageIdAfter t.nextMessageId normal.messageId = t.nextMessageId
    · have passed := messageIdAfter_eq_iff.mp stays
      have named : normal.messageId ≠ 0 := by
        intro zero
        apply passed.1
        rw [zero]
        rfl
      have given : (withIds state normal).messageId = normal.messageId := if_neg named
      rw [stays]
      rw [held_eq_iff (by rw [given]; exact named) (orderly _ _ t tracked)]
      exact (and_iff_right passed).symm
    · have moved : ¬ IdCounter.Passed (2 ^ 64) t.nextMessageId.toNat normal.messageId.toNat :=
        fun passed => stays (messageIdAfter_eq_iff.mpr passed)
      refine iff_of_false ?_ fun h => moved h.1
      intro same
      have counter := congrArg MessageTracker.nextMessageId same
      rw [held_counter] at counter
      exact stays counter

theorem untouched_of_posted (posted : Posted state final normal)
    (tracked : normal.sessionId ∈ trackedSessions state)
    (sessions : trackedSessions final =
      if normal.sessionId ∈ trackedSessions state then trackedSessions state
      else if (trackedSessions state).card = SESSION_TRACKER_CAPACITY then trackedSessions state
      else normal.sessionId ::ₘ trackedSessions state)
    (counter : streamCounter final normal.sessionId = streamCounter state normal.sessionId)
    (member : streamIdOf state normal ∈ streamsOf state normal.sessionId)
    (stays : tracker final normal.sessionId (streamIdOf state normal) =
      tracker state normal.sessionId (streamIdOf state normal)) : Untouched state final := by
  refine untouched_of_counted posted.counted tracked sessions
    (posted.streams.trans (if_pos member)) counter ?_
  intro sessionId streamId
  by_cases here : sessionId = normal.sessionId ∧ streamId = streamIdOf state normal
  · rw [here.1, here.2]
    exact stays
  · exact posted.elsewhere sessionId streamId here

theorem untouched_iff_settled (orderly : Orderly state)
    (refused : (ingest state normal).1 = false) :
    Untouched state (ingest state normal).2 ↔ Settled state normal := by
  by_cases zero : normal.sessionId = 0
  · refine iff_of_true ?_ (.inl zero)
    rw [ingest_nameless zero]
    exact untouched_refl state
  have sessions := ingest_trackedSessions state zero
  rcases ingest_outcome zero with ⟨full, -, unchanged⟩ |
    ⟨room, noStream, -, final, ended, counted, streams, trackers⟩ |
    ⟨room, free, a, final, -, -, posted, ended | ⟨taken, -⟩⟩
  · refine iff_of_true ?_ (.inr (.inl full))
    rw [unchanged]
    exact untouched_refl state
  · rw [ended] at sessions ⊢
    constructor
    · intro untouched
      obtain ⟨next, counter, passed⟩ :=
        (counter_stays_iff counted).mp (untouched.counters normal.sessionId)
      obtain ⟨named, own⟩ := @streamIdOf_passed state _ _ passed
      rw [own] at noStream
      exact .inr (.inr ⟨next, counter, passed, .inl (noStream.resolve_left named)⟩)
    · intro settled
      obtain ⟨next, counter, passed, -⟩ := (settled.resolve_left zero).resolve_left room
      exact untouched_of_counted counted (tracked_of_counter counter).1 sessions streams
        ((counter_stays_iff counted).mpr ⟨next, counter, passed⟩) trackers
  · rw [ended] at sessions ⊢
    constructor
    · intro untouched
      obtain ⟨next, counter, passed⟩ :=
        (counter_stays_iff posted.counted).mp (untouched.counters normal.sessionId)
      have stays := (tracker_stays_iff orderly posted).mp (untouched.trackers _ _)
      rw [(@streamIdOf_passed state _ _ passed).2] at stays
      exact .inr (.inr ⟨next, counter, passed, .inr stays⟩)
    · intro settled
      obtain ⟨next, counter, passed, known⟩ := (settled.resolve_left zero).resolve_left room
      have own := (@streamIdOf_passed state _ _ passed).2
      rcases known with full | stays
      · rw [own] at free
        exact absurd (.inr full) free
      · have member : streamIdOf state normal ∈ streamsOf state normal.sessionId := by
          obtain ⟨t, tracked, -⟩ := stays
          by_contra missing
          rw [← tracker_none_iff, own, tracked] at missing
          contradiction
        exact untouched_of_posted posted (tracked_of_counter counter).1 sessions
          ((counter_stays_iff posted.counted).mpr ⟨next, counter, passed⟩) member
          ((tracker_stays_iff orderly posted).mpr (by rw [own]; exact stays))
  · rw [taken] at refused
    exact absurd refused (by decide)

theorem orderly_reached (adapters : Option (List UInt32)) (ops : List Op) :
    Orderly (run step (start adapters) ops).1 := by
  intro sessionId streamId t tracked busy
  obtain ⟨several, next, -⟩ := sound_run adapters ops sessionId streamId t tracked busy
  exact ⟨several, next⟩

/-- In every reachable state, an ingest that refuses a packet leaves the stream as it was exactly
when the packet is settled there. -/
theorem refused_untouched_iff (adapters : Option (List UInt32)) (ops : List Op)
    (normal : RecvPacket)
    (refused : (ingest (run step (start adapters) ops).1 normal).1 = false) :
    Untouched (run step (start adapters) ops).1
        (ingest (run step (start adapters) ops).1 normal).2 ↔
      Settled (run step (start adapters) ops).1 normal :=
  untouched_iff_settled (orderly_reached adapters ops) refused

def again : RecvPacket := { RecvPacket.zero with
  sessionId := 1, streamId := 1, messageId := 1, receivedMs := 1 }

theorem again_untouched :
    Untouched (run step (start none) [.ingest again]).1
        (ingest (run step (start none) [.ingest again]).1 again).2 ↔
      Settled (run step (start none) [.ingest again]).1 again :=
  refused_untouched_iff none [.ingest again] again (by decide +kernel)

def opening : RecvPacket := { again with fragmentCount := 2 }

theorem opening_claims_stream :
    ¬ ∀ (adapters : Option (List UInt32)) (ops : List Op) (normal : RecvPacket),
      (ingest (run step (start adapters) ops).1 normal).1 = false →
      Untouched (run step (start adapters) ops).1
        (ingest (run step (start adapters) ops).1 normal).2 := by
  intro claimed
  have untouched := claimed none [.ingest again] opening (by decide +kernel)
  have before : tracker (run step (start none) [.ingest again]).1 1 1 =
      some ⟨1, 2, 0, 0, 0, true⟩ := by decide +kernel
  have after : tracker (ingest (run step (start none) [.ingest again]).1 opening).2 1 1 =
      some ⟨1, 2, 1, 0, 2, true⟩ := by decide +kernel
  have same := untouched.trackers 1 1
  rw [before, after] at same
  exact absurd same (by decide)

end Settled

end Siglatch.MuxStreamFailures
