import Siglatch.MuxStreamPending
import Siglatch.MuxStreamDelivery
import Siglatch.MuxIntake

set_option autoImplicit false

namespace Siglatch.MuxStreamReady
open MuxTypes MuxStream MuxStreamView MuxStreamOps MuxStreamIds MuxStreamRuns MuxStreamPending
open MuxStreamDelivery (queuedKeys)

/-! The ready queue's slots, their number and the trackers, over all that is done to a stream. -/

inductive Call where
  | stream (op : Op)
  | reset

def call (state : StreamState) : Call → StreamState × List Event
  | .stream op => step state op
  | .reset => (stateReset state, [])

/-- What the code takes for granted about its slots and trackers. -/
structure Represented (state : StreamState) : Prop where
  count : state.readyCount =
    (Finset.univ.filter fun i => (state.readyQueue i).sessionId ≠ 0).card
  bound : state.readyCount ≤ READY_QUEUE_CAPACITY
  distinct : ∀ i j, (state.readyQueue i).sessionId ≠ 0 →
    fragmentKey (state.readyQueue i) = fragmentKey (state.readyQueue j) → i = j
  ids : ∀ i, (state.readyQueue i).sessionId ≠ 0 →
    (state.readyQueue i).streamId ≠ 0 ∧ (state.readyQueue i).messageId ≠ 0
  tracked : ∀ i, (state.readyQueue i).sessionId ≠ 0 → ∃ s m,
    (state.sessionTrackers s).active = true ∧
    (state.sessionTrackers s).sessionId = (state.readyQueue i).sessionId ∧
    ((state.sessionTrackers s).streamTrackers m).active = true ∧
    ((state.sessionTrackers s).streamTrackers m).streamId = (state.readyQueue i).streamId
  sessions : ∀ s s', (state.sessionTrackers s).active = true →
    (state.sessionTrackers s').active = true →
    (state.sessionTrackers s).sessionId = (state.sessionTrackers s').sessionId → s = s'
  streams : ∀ s m m', (state.sessionTrackers s).active = true →
    ((state.sessionTrackers s).streamTrackers m).active = true →
    ((state.sessionTrackers s).streamTrackers m').active = true →
    ((state.sessionTrackers s).streamTrackers m).streamId =
      ((state.sessionTrackers s).streamTrackers m').streamId → m = m'

structure Consistent (state : StreamState) : Prop where
  kept : Kept state
  message : ∀ p ∈ queued state, p.messageId ≠ 0
  tracked : ∀ p ∈ queued state, p.streamId ∈ streamsOf state p.sessionId
  distinct : (queuedKeys state).Nodup
  sessions : (trackedSessions state).Nodup
  streams : ∀ sessionId, (streamsOf state sessionId).Nodup

section Slots

variable {state : StreamState}

theorem consistent_empty (empty : queued state = 0) (count : state.readyCount = 0)
    (untracked : trackedSessions state = 0) : Consistent state := by
  have absent (p : RecvPacket) : p ∉ queued state := by
    rw [empty]
    exact Multiset.notMem_zero p
  refine ⟨kept_empty empty count, ?_, ?_, ?_, ?_, fun sessionId => ?_⟩
  · intro p member
    exact absurd member (absent p)
  · intro p member
    exact absurd member (absent p)
  · unfold queuedKeys
    rw [empty]
    exact Multiset.nodup_zero
  · rw [untracked]
    exact Multiset.nodup_zero
  · have unknown : sessionAt state sessionId = none := by
      rw [sessionAt_none_iff, untracked]
      exact Multiset.notMem_zero sessionId
    unfold streamsOf trackedStreams
    rw [unknown]
    exact Multiset.nodup_zero

theorem consistent_start (adapters : Option (List UInt32)) : Consistent (start adapters) :=
  consistent_empty (queued_start adapters) rfl trackedSessions_stateInit

theorem queued_slot {i : Fin READY_QUEUE_CAPACITY} (taken : (state.readyQueue i).sessionId ≠ 0) :
    state.readyQueue i ∈ queued state := queued_mem.mpr ⟨taken, i, rfl⟩

theorem key_of_active {session : SessionTracker} (active : session.active = true) :
    session.key = some session.sessionId := if_pos active

theorem stream_key_of_active {t : MessageTracker} (active : t.active = true) :
    t.key = some t.streamId := if_pos active

theorem active_of_key {session : SessionTracker} {sessionId : UInt64}
    (key : session.key = some sessionId) :
    session.active = true ∧ session.sessionId = sessionId := by
  unfold SessionTracker.key at key
  split at key
  · rename_i active
    exact ⟨active, Option.some.inj key⟩
  · cases key

theorem active_of_stream_key {t : MessageTracker} {streamId : UInt32}
    (key : t.key = some streamId) : t.active = true ∧ t.streamId = streamId := by
  unfold MessageTracker.key at key
  split at key
  · rename_i active
    exact ⟨active, Option.some.inj key⟩
  · cases key

/-- What holds of the contents holds of the slots. -/
theorem Consistent.represented (consistent : Consistent state) : Represented state := by
  refine ⟨?_, ?_, ?_, ?_, ?_, ?_, ?_⟩
  · rw [consistent.kept.count]
    unfold queued
    rw [SlotTable.card_contents]
    congr 1
    ext i
    simp only [Finset.mem_filter, Finset.mem_univ, true_and]
    rw [Option.isSome_iff_ne_none, ne_eq, occupied_eq_none]
  · rw [consistent.kept.count]
    exact queued_card_le state
  · intro i j taken same
    have distinct := consistent.distinct
    unfold queuedKeys queued at distinct
    rw [SlotTable.contents_map] at distinct
    have other : (state.readyQueue j).sessionId ≠ 0 := by
      rw [← show (state.readyQueue i).sessionId = (state.readyQueue j).sessionId from
        congrArg Prod.fst same]
      exact taken
    refine SlotTable.slot_unique distinct (b := fragmentKey (state.readyQueue i)) ?_ ?_
    · rw [occupied_eq_some.mpr ⟨rfl, taken⟩, Option.map_some]
    · rw [occupied_eq_some.mpr ⟨rfl, other⟩, Option.map_some, same]
  · intro i taken
    exact ⟨consistent.kept.stream _ (queued_slot taken), consistent.message _ (queued_slot taken)⟩
  · intro i taken
    have member := consistent.tracked _ (queued_slot taken)
    have known : tracker state (state.readyQueue i).sessionId (state.readyQueue i).streamId ≠
        none := fun missing => tracker_none_iff.mp missing member
    obtain ⟨t, found⟩ := Option.ne_none_iff_exists'.mp known
    obtain ⟨s, m, session, stream, -⟩ := slots_of_tracker found
    obtain ⟨active, named⟩ := active_of_key (SlotTable.lookup_key session)
    obtain ⟨active', named'⟩ := active_of_stream_key (SlotTable.lookup_key stream)
    exact ⟨s, m, active, named, active', named'⟩
  · intro s s' active active' same
    refine SlotTable.slot_unique consistent.sessions (key_of_active active) ?_
    rw [same]
    exact key_of_active active'
  · intro s m m' active active1 active2 same
    have slot := SlotTable.lookup_unique consistent.sessions (key_of_active active)
    have streams := consistent.streams (state.sessionTrackers s).sessionId
    unfold streamsOf trackedStreams at streams
    rw [sessionAt_of_lookup slot] at streams
    refine SlotTable.slot_unique streams (stream_key_of_active active1) ?_
    rw [same]
    exact stream_key_of_active active2

end Slots

section Calls

variable {state : StreamState}

theorem ingest_streamsOf (state : StreamState) (normal : RecvPacket) (sessionId : UInt64) :
    streamsOf (ingest state normal).2 sessionId = streamsOf state sessionId ∨
    ∃ streamId, streamId ∉ streamsOf state sessionId ∧
      streamsOf (ingest state normal).2 sessionId = streamId ::ₘ streamsOf state sessionId := by
  by_cases zero : normal.sessionId = 0
  · rw [ingest_nameless zero]
    exact .inl rfl
  have posted_streams {final : StreamState} (posted : Posted state final normal) :
      streamsOf final sessionId = streamsOf state sessionId ∨
      ∃ streamId, streamId ∉ streamsOf state sessionId ∧
        streamsOf final sessionId = streamId ::ₘ streamsOf state sessionId := by
    by_cases own : sessionId = normal.sessionId
    · rw [own, posted.streams]
      split
      · exact .inl rfl
      · rename_i missing
        exact .inr ⟨_, missing, rfl⟩
    · exact .inl (posted.counted.streams sessionId own)
  rcases @ingest_outcome state normal zero with ⟨-, -, ingested⟩ |
    ⟨-, -, -, final, ingested, counted, streams, -⟩ |
    ⟨-, -, a, final, -, -, posted, ingested | ⟨-, -, frame⟩⟩
  · rw [ingested]
    exact .inl rfl
  · rw [ingested]
    refine .inl ?_
    by_cases own : sessionId = normal.sessionId
    · rw [own]
      exact streams
    · exact counted.streams sessionId own
  · rw [ingested]
    exact posted_streams posted
  · have same : streamsOf (ingest state normal).2 sessionId = streamsOf final sessionId := by
      unfold streamsOf
      rw [frame.trackedStreams]
    rw [same]
    exact posted_streams posted

theorem ingest_streams_le (state : StreamState) (normal : RecvPacket) (sessionId : UInt64) :
    streamsOf state sessionId ≤ streamsOf (ingest state normal).2 sessionId := by
  rcases ingest_streamsOf state normal sessionId with same | ⟨streamId, -, grown⟩
  · rw [same]
  · rw [grown]
    exact Multiset.le_cons_self _ _

theorem ingest_queue (state : StreamState) (normal : RecvPacket) :
    queued (ingest state normal).2 = queued state ∨
    ∃ p, (∀ q ∈ queued state, fragmentKey q ≠ fragmentKey p) ∧ p.messageId ≠ 0 ∧
      p.streamId ∈ streamsOf (ingest state normal).2 p.sessionId ∧
      queued (ingest state normal).2 = p ::ₘ queued state := by
  rcases ingest_cases state normal with ⟨after, assigned, ingested⟩ |
    ⟨a, after, -, spec, -, ingested⟩ |
    ⟨a, before, t, after, -, spec, begins, claimed, -, ingested⟩
  · rw [ingested]
    exact .inl (queued_of_readyQueue (assignIds_none assigned).1)
  · rw [ingested]
    exact .inl (queued_of_readyQueue spec.queue)
  · have session : a.packet.sessionId ≠ 0 := by
      rw [spec.session]
      exact spec.session_ne
    have same := queued_of_readyQueue claimed.queue
    rw [ingested]
    rcases queuePacket_cases after session with ⟨-, fresh, -, queue, frame⟩ | ⟨unchanged, -⟩
    · rw [same] at fresh queue
      refine .inr ⟨stored a.packet, fresh, ?_, ?_, queue⟩
      · intro nameless
        change a.packet.messageId = 0 at nameless
        rw [begin_no_message nameless] at begins
        cases begins
      · have member : a.packet.streamId ∈ streamsOf after normal.sessionId := by
          by_contra missing
          have tracked := claimed.here
          rw [tracker_none_iff.mpr missing] at tracked
          cases tracked
        unfold streamsOf
        rw [frame.trackedStreams]
        change a.packet.streamId ∈ streamsOf after a.packet.sessionId
        rw [spec.session]
        exact member
    · rw [unchanged]
      exact .inl same

theorem consistent_ingest (consistent : Consistent state) (normal : RecvPacket) :
    Consistent (ingest state normal).2 := by
  have streams_le := ingest_streams_le state normal
  have earlier (p : RecvPacket) (member : p ∈ queued state) :
      p.streamId ∈ streamsOf (ingest state normal).2 p.sessionId :=
    Multiset.mem_of_le (streams_le p.sessionId) (consistent.tracked p member)
  have sessions := MuxIntake.tracks_nodup (MuxIntake.ingest_tracks state normal)
    consistent.sessions
  have streams (sessionId : UInt64) : (streamsOf (ingest state normal).2 sessionId).Nodup := by
    rcases ingest_streamsOf state normal sessionId with same | ⟨streamId, missing, grown⟩
    · rw [same]
      exact consistent.streams sessionId
    · rw [grown]
      exact Multiset.nodup_cons.mpr ⟨missing, consistent.streams sessionId⟩
  have kept := kept_ingest consistent.kept normal
  rcases ingest_queue state normal with same | ⟨p, fresh, message, stream, grown⟩
  · refine ⟨kept, ?_, ?_, ?_, sessions, streams⟩
    · rw [same]
      exact consistent.message
    · rw [same]
      exact earlier
    · unfold queuedKeys
      rw [same]
      exact consistent.distinct
  · refine ⟨kept, ?_, ?_, ?_, sessions, streams⟩
    · rw [grown]
      intro q member
      rcases Multiset.mem_cons.mp member with rfl | old
      · exact message
      · exact consistent.message q old
    · rw [grown]
      intro q member
      rcases Multiset.mem_cons.mp member with rfl | old
      · exact stream
      · exact earlier q old
    · unfold queuedKeys
      rw [grown, Multiset.map_cons, Multiset.nodup_cons]
      refine ⟨?_, consistent.distinct⟩
      intro again
      obtain ⟨q, member, key⟩ := Multiset.mem_map.mp again
      exact fresh q member key

theorem consistent_less {state' : StreamState} (consistent : Consistent state)
    (kept : Kept state') (queue : queued state' ≤ queued state)
    (sessions : trackedSessions state' = trackedSessions state)
    (streams : ∀ sessionId, trackedStreams state' sessionId = trackedStreams state sessionId) :
    Consistent state' := by
  have same (sessionId : UInt64) : streamsOf state' sessionId = streamsOf state sessionId := by
    unfold streamsOf
    rw [streams]
  refine ⟨kept, ?_, ?_, ?_, ?_, ?_⟩
  · intro p member
    exact consistent.message p (Multiset.mem_of_le queue member)
  · intro p member
    rw [same]
    exact consistent.tracked p (Multiset.mem_of_le queue member)
  · exact Multiset.nodup_of_le (Multiset.map_le_map queue) consistent.distinct
  · rw [sessions]
    exact consistent.sessions
  · intro sessionId
    rw [same]
    exact consistent.streams sessionId

theorem consistent_step (consistent : Consistent state) (op : Op) :
    Consistent (step state op).1 := by
  have kept := kept_step state op consistent.kept
  cases op with
  | ingest normal => exact consistent_ingest consistent normal
  | drain callerUser =>
    change Kept (drain state callerUser).2 at kept
    change Consistent (drain state callerUser).2
    rcases drain_cases state callerUser with ⟨p, after, drained, spec⟩ | ⟨drained, -⟩
    · rw [drained] at kept ⊢
      refine consistent_less consistent kept ?_ spec.sessions spec.streams
      rw [spec.queue]
      exact Multiset.le_cons_self _ _
    · rw [drained]
      exact consistent
  | expire nowMs =>
    have frame := expire_frame state nowMs
    exact consistent_less consistent kept (expire_queued_le state nowMs) frame.trackedSessions
      frame.trackedStreams

theorem consistent_call (consistent : Consistent state) (op : Call) :
    Consistent (call state op).1 := by
  cases op with
  | stream op => exact consistent_step consistent op
  | reset => exact consistent_start state.adapterLib

end Calls

theorem consistent_run (adapters : Option (List UInt32)) (calls : List Call) :
    Consistent (StepRuns.run call (start adapters) calls).1 :=
  @StepRuns.run_history _ _ _ call (fun state _ => Consistent state) (fun _ => True)
    (fun _ _ op _ consistent => consistent_call consistent op) (start adapters)
    (consistent_start adapters) calls fun _ _ => trivial

/-- In every state that ingests, drains, expiries and resets lead to, the slots, their number and
the trackers fit together. -/
theorem represented_run (adapters : Option (List UInt32)) (calls : List Call) :
    Represented (StepRuns.run call (start adapters) calls).1 :=
  (consistent_run adapters calls).represented

end Siglatch.MuxStreamReady
