import Siglatch.IdCounter
import Siglatch.MuxStreamOps

set_option autoImplicit false

namespace Siglatch.MuxStreamIds
open MuxTypes MuxStream MuxStreamView MuxStreamOps

/-! The ids that a stream gives to its packets, and the counters that they come from. -/

def givenStreamId (next id : UInt32) : UInt32 := if id = 0 then next else id

def streamIdAfter (next id : UInt32) : UInt32 :=
  if next ≤ givenStreamId next id then givenStreamId next id + 1 else next

def givenMessageId (next id : UInt64) : UInt64 := if id = 0 then next else id

def messageIdAfter (next id : UInt64) : UInt64 :=
  if next ≤ givenMessageId next id then givenMessageId next id + 1 else next

section Counters

theorem givenStreamId_toNat (next id : UInt32) :
    (givenStreamId next id).toNat = IdCounter.given next.toNat id.toNat := by
  unfold givenStreamId IdCounter.given
  by_cases own : id = 0
  · rw [if_pos own, own]
    rfl
  · have named : id.toNat ≠ 0 := fun zero => own (UInt32.toNat_inj.mp zero)
    rw [if_neg own, if_neg named]

theorem givenMessageId_toNat (next id : UInt64) :
    (givenMessageId next id).toNat = IdCounter.given next.toNat id.toNat := by
  unfold givenMessageId IdCounter.given
  by_cases own : id = 0
  · rw [if_pos own, own]
    rfl
  · have named : id.toNat ≠ 0 := fun zero => own (UInt64.toNat_inj.mp zero)
    rw [if_neg own, if_neg named]

theorem streamIdAfter_toNat (next id : UInt32) :
    (streamIdAfter next id).toNat = IdCounter.after (2 ^ 32) next.toNat id.toNat := by
  unfold streamIdAfter IdCounter.after
  simp only [← givenStreamId_toNat, UInt32.le_iff_toNat_le]
  split
  · exact UInt32.toNat_add _ _
  · rfl

theorem messageIdAfter_toNat (next id : UInt64) :
    (messageIdAfter next id).toNat = IdCounter.after (2 ^ 64) next.toNat id.toNat := by
  unfold messageIdAfter IdCounter.after
  simp only [← givenMessageId_toNat, UInt64.le_iff_toNat_le]
  split
  · exact UInt64.toNat_add _ _
  · rfl

theorem streamIdAfter_eq_iff {next id : UInt32} :
    streamIdAfter next id = next ↔ IdCounter.Passed (2 ^ 32) next.toNat id.toNat := by
  rw [← UInt32.toNat_inj, streamIdAfter_toNat]
  exact IdCounter.after_eq_iff (by decide) next.toNat_lt

theorem messageIdAfter_eq_iff {next id : UInt64} :
    messageIdAfter next id = next ↔ IdCounter.Passed (2 ^ 64) next.toNat id.toNat := by
  rw [← UInt64.toNat_inj, messageIdAfter_toNat]
  exact IdCounter.after_eq_iff (by decide) next.toNat_lt

theorem assignStreamId_ids (session : SessionTracker) (p : RecvPacket) :
    (assignStreamId session p).1.streamId = givenStreamId session.nextStreamId p.streamId ∧
    (assignStreamId session p).2.nextStreamId =
      streamIdAfter session.nextStreamId p.streamId := by
  unfold assignStreamId streamIdAfter givenStreamId
  split
  · refine ⟨rfl, ?_⟩
    rw [if_pos (UInt32.le_refl _)]
    exact ite_self _
  · split
    · exact ⟨rfl, rfl⟩
    · exact ⟨rfl, rfl⟩

theorem assignMessageId_ids (t : MessageTracker) (p : RecvPacket) :
    (assignMessageId t p).1.messageId = givenMessageId t.nextMessageId p.messageId ∧
    (assignMessageId t p).2.nextMessageId = messageIdAfter t.nextMessageId p.messageId := by
  unfold assignMessageId messageIdAfter givenMessageId
  split
  · refine ⟨rfl, ?_⟩
    rw [if_pos (UInt64.le_refl _)]
    exact ite_self _
  · split
    · exact ⟨rfl, rfl⟩
    · exact ⟨rfl, rfl⟩

end Counters

section Views

/-- The session's tracker as an ingest finds or makes it. -/
def sessionFor (state : StreamState) (sessionId : UInt64) : SessionTracker :=
  (sessionAt state sessionId).getD (.fresh sessionId)

def trackerFor (state : StreamState) (sessionId : UInt64) (streamId : UInt32) : MessageTracker :=
  (tracker state sessionId streamId).getD (.fresh streamId)

def streamCounter (state : StreamState) (sessionId : UInt64) : Option UInt32 :=
  (sessionAt state sessionId).map SessionTracker.nextStreamId

def streamsOf (state : StreamState) (sessionId : UInt64) : Multiset UInt32 :=
  (trackedStreams state sessionId).getD 0

def NoSession (state : StreamState) (sessionId : UInt64) : Prop :=
  sessionId ∉ trackedSessions state ∧ (trackedSessions state).card = SESSION_TRACKER_CAPACITY

def NoTracker (state : StreamState) (sessionId : UInt64) (streamId : UInt32) : Prop :=
  streamId ∉ streamsOf state sessionId ∧
  (streamsOf state sessionId).card = TRACKER_CAPACITY

def streamIdOf (state : StreamState) (normal : RecvPacket) : UInt32 :=
  givenStreamId (sessionFor state normal.sessionId).nextStreamId normal.streamId

/-- The message id that a packet carries or is given on its stream. -/
def messageIdOf (state : StreamState) (normal : RecvPacket) : UInt64 :=
  givenMessageId (trackerFor state normal.sessionId (streamIdOf state normal)).nextMessageId
    normal.messageId

variable {state : StreamState} {sessionId : UInt64} {streamId : UInt32}

theorem streamsOf_eq : streamsOf state sessionId =
    SlotTable.contents MessageTracker.key (sessionFor state sessionId).streamTrackers := by
  unfold streamsOf trackedStreams sessionFor
  cases sessionAt state sessionId with
  | none =>
    symm
    exact SlotTable.contents_empty fun _ => rfl
  | some session => rfl

theorem trackerAt_sessionFor :
    trackerAt (sessionFor state sessionId) streamId = tracker state sessionId streamId := by
  unfold sessionFor
  cases tracked : sessionAt state sessionId with
  | none =>
    rw [tracker_none_of_untracked tracked]
    exact trackerAt_fresh sessionId streamId
  | some session =>
    rw [tracker_of_sessionAt tracked]
    rfl

theorem tracker_none_iff :
    tracker state sessionId streamId = none ↔ streamId ∉ streamsOf state sessionId := by
  rw [← trackerAt_sessionFor, streamsOf_eq]
  exact SlotTable.entry_none_iff

end Views

section Assign

variable {state state' : StreamState} {normal : RecvPacket}

/-- Once a packet has its session, the session's stream counter has stepped, whether the packet
gets a stream or not. -/
structure Counted (state state' : StreamState) (normal : RecvPacket) : Prop where
  queue : state'.readyQueue = state.readyQueue
  count : state'.readyCount = state.readyCount
  counters : ∀ sessionId, streamCounter state' sessionId =
    if sessionId = normal.sessionId then
      some (streamIdAfter (sessionFor state normal.sessionId).nextStreamId normal.streamId)
    else streamCounter state sessionId
  streams : ∀ sessionId, sessionId ≠ normal.sessionId →
    streamsOf state' sessionId = streamsOf state sessionId

theorem findSessionTracker_sessionAt {sessionId : UInt64} {i : Fin SESSION_TRACKER_CAPACITY}
    (found : findSessionTracker state sessionId true = (some i, state')) :
    state'.readyCount = state.readyCount ∧ state'.sessionTrackers i = sessionFor state sessionId ∧
    ∀ other, sessionAt state' other =
      if other = sessionId then some (sessionFor state sessionId) else sessionAt state other := by
  have nonzero := (findSessionTracker_create found).1
  have slot := (findSessionTracker_create found).2.2.2.1
  unfold findSessionTracker at found
  rw [if_neg nonzero, if_pos rfl] at found
  obtain ⟨hit, rfl⟩ := Prod.mk.inj found
  have acquired : SlotTable.acquire SessionTracker.key (.fresh sessionId) state.sessionTrackers
      sessionId = (some i, (SlotTable.acquire SessionTracker.key (.fresh sessionId)
        state.sessionTrackers sessionId).2) := Prod.ext hit rfl
  obtain ⟨-, here, elsewhere⟩ := SlotTable.acquire_some (session_key_fresh sessionId) acquired
  refine ⟨rfl, here, ?_⟩
  intro other
  split
  · rename_i same
    rw [same, sessionAt_of_lookup slot]
    exact congrArg some here
  · rename_i differ
    exact elsewhere other differ

theorem findSessionTracker_outcome (state : StreamState) {sessionId : UInt64}
    (nonzero : sessionId ≠ 0) :
    NoSession state sessionId ∧ findSessionTracker state sessionId true = (none, state) ∨
    ¬ NoSession state sessionId ∧
      ∃ i state', findSessionTracker state sessionId true = (some i, state') := by
  unfold findSessionTracker NoSession trackedSessions
  rw [if_neg nonzero, if_pos rfl, ← @SlotTable.acquire_none_iff _ _ _ _ _ _ _ (.fresh sessionId)]
  obtain ⟨i, -, acquired⟩ | ⟨i, -, -, acquired⟩ | ⟨-, -, acquired⟩ := SlotTable.acquire_cases
    SessionTracker.key (.fresh sessionId) state.sessionTrackers sessionId
  · rw [acquired]
    exact .inr ⟨Option.some_ne_none i, i, _, rfl⟩
  · rw [acquired]
    exact .inr ⟨Option.some_ne_none i, i, _, rfl⟩
  · rw [acquired]
    exact .inl ⟨rfl, rfl⟩

theorem findMessageTracker_outcome (session : SessionTracker) (streamId : UInt32) :
    (streamId = 0 ∨ streamId ∉ SlotTable.contents MessageTracker.key session.streamTrackers ∧
        (SlotTable.contents MessageTracker.key session.streamTrackers).card = TRACKER_CAPACITY) ∧
      findMessageTracker session streamId true = (none, session) ∨
    ¬ (streamId = 0 ∨ streamId ∉ SlotTable.contents MessageTracker.key session.streamTrackers ∧
        (SlotTable.contents MessageTracker.key session.streamTrackers).card = TRACKER_CAPACITY) ∧
      ∃ j session', findMessageTracker session streamId true = (some j, session') := by
  by_cases zero : streamId = 0
  · exact .inl ⟨.inl zero, by unfold findMessageTracker; rw [if_pos zero]⟩
  · unfold findMessageTracker
    rw [if_neg zero, if_pos rfl, or_iff_right zero,
      ← @SlotTable.acquire_none_iff _ _ _ _ _ _ _ (.fresh streamId)]
    obtain ⟨j, -, acquired⟩ | ⟨j, -, -, acquired⟩ | ⟨-, -, acquired⟩ := SlotTable.acquire_cases
      MessageTracker.key (.fresh streamId) session.streamTrackers streamId
    · rw [acquired]
      exact .inr ⟨Option.some_ne_none j, j, _, rfl⟩
    · rw [acquired]
      exact .inr ⟨Option.some_ne_none j, j, _, rfl⟩
    · rw [acquired]
      exact .inl ⟨rfl, rfl⟩

theorem findMessageTracker_streams {session session' : SessionTracker} {streamId : UInt32}
    {j : Fin TRACKER_CAPACITY}
    (found : findMessageTracker session streamId true = (some j, session')) :
    session'.nextStreamId = session.nextStreamId ∧
    SlotTable.contents MessageTracker.key session'.streamTrackers =
      if streamId ∈ SlotTable.contents MessageTracker.key session.streamTrackers then
        SlotTable.contents MessageTracker.key session.streamTrackers
      else streamId ::ₘ SlotTable.contents MessageTracker.key session.streamTrackers := by
  unfold findMessageTracker at found
  split at found
  · cases found
  rw [if_pos rfl] at found
  obtain ⟨hit, rfl⟩ := Prod.mk.inj found
  refine ⟨rfl, (SlotTable.acquire_contents (message_key_fresh streamId)).trans ?_⟩
  split
  · rfl
  · rename_i new
    have room : (SlotTable.contents MessageTracker.key session.streamTrackers).card ≠
        TRACKER_CAPACITY := fun full => by
      rw [SlotTable.acquire_none_iff.mpr ⟨new, full⟩] at hit
      cases hit
    rw [if_neg room]

theorem streamCounter_setSession {sessionId : UInt64} {i : Fin SESSION_TRACKER_CAPACITY}
    {session : SessionTracker}
    (slot : SlotTable.lookup SessionTracker.key state.sessionTrackers sessionId = some i)
    (named : session.key = some sessionId) (other : UInt64) :
    streamCounter (state.setSession i session) other =
      if other = sessionId then some session.nextStreamId else streamCounter state other := by
  unfold streamCounter
  rw [sessionAt_setSession slot named]
  split
  · rfl
  · rfl

theorem streamsOf_setSession {sessionId : UInt64} {i : Fin SESSION_TRACKER_CAPACITY}
    {session : SessionTracker}
    (slot : SlotTable.lookup SessionTracker.key state.sessionTrackers sessionId = some i)
    (named : session.key = some sessionId) (other : UInt64) :
    streamsOf (state.setSession i session) other =
      if other = sessionId then SlotTable.contents MessageTracker.key session.streamTrackers
      else streamsOf state other := by
  unfold streamsOf trackedStreams
  rw [sessionAt_setSession slot named]
  split
  · rfl
  · rfl

theorem streamCounter_congr {sessionId : UInt64}
    (same : sessionAt state' sessionId = sessionAt state sessionId) :
    streamCounter state' sessionId = streamCounter state sessionId ∧
    streamsOf state' sessionId = streamsOf state sessionId := by
  unfold streamCounter streamsOf trackedStreams
  rw [same]
  exact ⟨rfl, rfl⟩

section Numbered

variable {i : Fin SESSION_TRACKER_CAPACITY}

theorem counted_setSession
    (found : findSessionTracker state normal.sessionId true = (some i, state'))
    (session : SessionTracker) (named : session.key = some normal.sessionId)
    (next : session.nextStreamId =
      streamIdAfter (sessionFor state normal.sessionId).nextStreamId normal.streamId) :
    Counted state (state'.setSession i session) normal := by
  obtain ⟨-, queue, -, slot, -⟩ := findSessionTracker_create found
  obtain ⟨count, -, elsewhere⟩ := findSessionTracker_sessionAt found
  refine ⟨queue, count, ?_, ?_⟩
  · intro sessionId
    rw [streamCounter_setSession slot named, next]
    split
    · rfl
    · rename_i other
      refine (streamCounter_congr ?_).1
      rw [elsewhere, if_neg other]
  · intro sessionId other
    rw [streamsOf_setSession slot named, if_neg other]
    refine (streamCounter_congr ?_).2
    rw [elsewhere, if_neg other]

theorem assignStreamId_found
    (found : findSessionTracker state normal.sessionId true = (some i, state')) :
    let numbered := assignStreamId (state'.sessionTrackers i) normal
    numbered.1.streamId = streamIdOf state normal ∧ numbered.1.messageId = normal.messageId ∧
    numbered.2.key = some normal.sessionId ∧
    numbered.2.streamTrackers = (sessionFor state normal.sessionId).streamTrackers ∧
    numbered.2.nextStreamId =
      streamIdAfter (sessionFor state normal.sessionId).nextStreamId normal.streamId := by
  obtain ⟨-, -, -, slot, -⟩ := findSessionTracker_create found
  obtain ⟨-, here, -⟩ := findSessionTracker_sessionAt found
  obtain ⟨named, trackers⟩ := assignStreamId_session (state'.sessionTrackers i) normal
  obtain ⟨stream, counter⟩ := assignStreamId_ids (state'.sessionTrackers i) normal
  have message := congrArg RecvPacket.messageId
    (assignStreamId_packet (state'.sessionTrackers i) normal).1
  rw [SlotTable.lookup_key slot] at named
  rw [here] at trackers stream counter
  rw [here] at named message ⊢
  exact ⟨stream, message, named, trackers, counter⟩

end Numbered

theorem offered_setSession (session : SessionTracker) (i : Fin SESSION_TRACKER_CAPACITY)
    (j : Fin TRACKER_CAPACITY) (t : MessageTracker) (p : RecvPacket) :
    offered (state.setSession i (session.setTracker j t)) ⟨p, i, j⟩ = t := by
  change ((Function.update state.sessionTrackers i _) i).streamTrackers j = t
  rw [Function.update_self]
  exact Function.update_self j t session.streamTrackers

/-- What a packet that gets its ids leaves of its session's counter and streams and of its
stream's tracker. -/
structure Numbered (state state' : StreamState) (normal : RecvPacket) (a : Assigned) : Prop where
  counted : Counted state state' normal
  stream : a.packet.streamId = streamIdOf state normal
  message : a.packet.messageId = messageIdOf state normal
  streams : streamsOf state' normal.sessionId =
    if streamIdOf state normal ∈ streamsOf state normal.sessionId then
      streamsOf state normal.sessionId
    else streamIdOf state normal ::ₘ streamsOf state normal.sessionId
  stands : offered state' a =
    { trackerFor state normal.sessionId (streamIdOf state normal) with
      nextMessageId := messageIdAfter
        (trackerFor state normal.sessionId (streamIdOf state normal)).nextMessageId
        normal.messageId }

theorem assignIds_numbered {a : Assigned} (h : assignIds state normal = (some a, state')) :
    Numbered state state' normal a := by
  obtain ⟨state1, packet1, session1, session2, t, found, assigned, found2, assigned2, rfl⟩ :=
    assignIds_stages h
  obtain ⟨-, -, -, slot, -⟩ := findSessionTracker_create found
  obtain ⟨stream1, message1, named1, trackers1, next1⟩ := assignStreamId_found found
  rw [assigned] at stream1 message1 named1 trackers1 next1
  dsimp only at stream1 message1 named1 trackers1 next1
  have streams1 : SlotTable.contents MessageTracker.key session1.streamTrackers =
      streamsOf state normal.sessionId := by
    rw [streamsOf_eq]
    exact congrArg _ trackers1
  obtain ⟨next2, streams2⟩ := findMessageTracker_streams found2
  obtain ⟨-, key2, -, here2, -⟩ := findMessageTracker_create found2
  rw [streams1] at streams2
  rw [stream1] at streams2 here2
  have tracker2 : session2.streamTrackers a.tracker =
      trackerFor state normal.sessionId (streamIdOf state normal) := by
    rw [here2]
    unfold trackerFor
    rw [← trackerAt_sessionFor]
    unfold trackerAt
    rw [trackers1]
  obtain ⟨message2, counter2⟩ := assignMessageId_ids (session2.streamTrackers a.tracker) packet1
  have kept2 := assignMessageId_tracker (session2.streamTrackers a.tracker) packet1
  obtain ⟨same2, -⟩ := assigned_packet assigned assigned2
  rw [assigned2] at message2 counter2 kept2
  have named2 : (session2.setTracker a.tracker t).key = some normal.sessionId := by
    rw [← named1, ← key2]
    rfl
  refine ⟨counted_setSession found _ named2 (next2.trans next1), same2.trans stream1, ?_, ?_, ?_⟩
  · unfold messageIdOf
    rw [← tracker2, ← message1]
    exact message2
  · rw [streamsOf_setSession slot named2, if_pos rfl, ← streams2]
    have sameKey := congrArg MessageTracker.key kept2
    exact SlotTable.contents_overwrite sameKey
  · have there := @offered_setSession state1 session2 a.session a.tracker t a.packet
    rw [there, ← tracker2, ← message1, ← counter2]
    exact kept2

/-- A packet finds no session tracker, or its session's counter steps and it finds no stream
tracker, or it gets both ids. -/
theorem assignIds_outcome (state : StreamState) {normal : RecvPacket}
    (nonzero : normal.sessionId ≠ 0) :
    (NoSession state normal.sessionId ∧ assignIds state normal = (none, state)) ∨
    (¬ NoSession state normal.sessionId ∧
      (streamIdOf state normal = 0 ∨
        NoTracker state normal.sessionId (streamIdOf state normal)) ∧
      ∃ state', assignIds state normal = (none, state') ∧ Counted state state' normal ∧
        streamsOf state' normal.sessionId = streamsOf state normal.sessionId) ∨
    (¬ NoSession state normal.sessionId ∧
      ¬ (streamIdOf state normal = 0 ∨
        NoTracker state normal.sessionId (streamIdOf state normal)) ∧
      ∃ a state', assignIds state normal = (some a, state') ∧ AssignedTo state state' normal a ∧
        Numbered state state' normal a) := by
  rcases findSessionTracker_outcome state nonzero with ⟨full, found⟩ | ⟨room, i, state1, found⟩
  · refine .inl ⟨full, ?_⟩
    unfold assignIds
    rw [if_neg nonzero, found]
  obtain ⟨-, -, -, slot, -⟩ := findSessionTracker_create found
  obtain ⟨stream1, -, named1, trackers1, next1⟩ := assignStreamId_found found
  rcases assigned : assignStreamId (state1.sessionTrackers i) normal with ⟨packet1, session1⟩
  rw [assigned] at stream1 named1 trackers1 next1
  dsimp only at stream1 named1 trackers1 next1
  have streams1 : SlotTable.contents MessageTracker.key session1.streamTrackers =
      streamsOf state normal.sessionId := by
    rw [streamsOf_eq]
    exact congrArg _ trackers1
  have outcome := findMessageTracker_outcome session1 packet1.streamId
  rw [streams1, stream1] at outcome
  rcases outcome with ⟨full, found2⟩ | ⟨free, j, session2, found2⟩
  · refine .inr (.inl ⟨room, full, state1.setSession i session1, ?_,
      counted_setSession found session1 named1 next1, ?_⟩)
    · unfold assignIds
      rw [if_neg nonzero, found]
      simp only [assigned, stream1, found2]
    · rw [streamsOf_setSession slot named1, if_pos rfl]
      exact streams1
  · rcases assigned2 : assignMessageId (session2.streamTrackers j) packet1 with ⟨packet2, t⟩
    have whole : assignIds state normal =
        (some ⟨packet2, i, j⟩, state1.setSession i (session2.setTracker j t)) := by
      unfold assignIds
      rw [if_neg nonzero, found]
      simp only [assigned, stream1, found2, assigned2]
    exact .inr (.inr ⟨room, free, _, _, whole, assignIds_some whole, assignIds_numbered whole⟩)

end Assign

section Ingest

variable {state : StreamState} {normal p : RecvPacket} {t t' : MessageTracker}

def held (t : MessageTracker) (p : RecvPacket) : MessageTracker := (messageTrackerBegin t p).getD t

theorem begin_counter (begins : messageTrackerBegin t p = some t') :
    t'.nextMessageId = t.nextMessageId := by
  grind [messageTrackerBegin]

theorem held_counter : (held t p).nextMessageId = t.nextMessageId := by
  unfold held
  cases begins : messageTrackerBegin t p with
  | none => rfl
  | some t' => exact begin_counter begins

def withIds (state : StreamState) (normal : RecvPacket) : RecvPacket :=
  { normal with streamId := streamIdOf state normal, messageId := messageIdOf state normal }

/-- What a packet that got its ids leaves in the trackers before it meets the queue. -/
structure Posted (state final : StreamState) (normal : RecvPacket) : Prop where
  counted : Counted state final normal
  streams : streamsOf final normal.sessionId =
    if streamIdOf state normal ∈ streamsOf state normal.sessionId then
      streamsOf state normal.sessionId
    else streamIdOf state normal ::ₘ streamsOf state normal.sessionId
  here : tracker final normal.sessionId (streamIdOf state normal) = some (held
    { trackerFor state normal.sessionId (streamIdOf state normal) with
      nextMessageId := messageIdAfter
        (trackerFor state normal.sessionId (streamIdOf state normal)).nextMessageId
        normal.messageId } (withIds state normal))
  elsewhere : ∀ sessionId streamId,
    ¬ (sessionId = normal.sessionId ∧ streamId = streamIdOf state normal) →
      tracker final sessionId streamId = tracker state sessionId streamId

theorem Counted.of_claim {state1 : StreamState} {a : Assigned} {t : MessageTracker}
    (spec : AssignedTo state state1 normal a) (counted : Counted state state1 normal)
    (named : t.key = ((state1.sessionTrackers a.session).streamTrackers a.tracker).key) :
    Counted state (state1.setSession a.session
      ((state1.sessionTrackers a.session).setTracker a.tracker t)) normal ∧
    streamsOf (state1.setSession a.session
      ((state1.sessionTrackers a.session).setTracker a.tracker t)) normal.sessionId =
        streamsOf state1 normal.sessionId := by
  have streams (sessionId : UInt64) : streamsOf (state1.setSession a.session
      ((state1.sessionTrackers a.session).setTracker a.tracker t)) sessionId =
        streamsOf state1 sessionId := by
    unfold streamsOf
    rw [trackedStreams_setTracker spec.session_slot named]
  refine ⟨⟨counted.queue, counted.count, ?_, ?_⟩, streams _⟩
  · intro sessionId
    have kept : ((state1.sessionTrackers a.session).setTracker a.tracker t).key =
        some normal.sessionId := SlotTable.lookup_key spec.session_slot
    rw [streamCounter_setSession spec.session_slot kept, ← counted.counters]
    split
    · rename_i same
      rw [same]
      unfold streamCounter
      rw [sessionAt_of_lookup spec.session_slot]
      rfl
    · rfl
  · intro sessionId other
    rw [streams]
    exact counted.streams sessionId other

section Numbers

variable {state1 : StreamState} {a : Assigned}

theorem Numbered.packet (h : Numbered state state1 normal a)
    (spec : AssignedTo state state1 normal a) : a.packet = withIds state normal := by
  rw [spec.packet, h.stream, h.message]
  rfl

theorem Numbered.unclaimed (h : Numbered state state1 normal a)
    (spec : AssignedTo state state1 normal a)
    (begins : messageTrackerBegin (offered state1 a) a.packet = none) :
    Posted state state1 normal := by
  have here := tracker_of_assigned spec
  have elsewhere := spec.elsewhere
  rw [h.stream] at here elsewhere
  refine ⟨h.counted, h.streams, ?_, elsewhere⟩
  rw [here, ← h.stands, ← h.packet spec, held, begins]
  rfl

theorem Numbered.claimed (h : Numbered state state1 normal a)
    (spec : AssignedTo state state1 normal a)
    (begins : messageTrackerBegin (offered state1 a) a.packet = some t) :
    Posted state (state1.setSession a.session
      ((state1.sessionTrackers a.session).setTracker a.tracker t)) normal := by
  obtain ⟨counted, streams⟩ := Counted.of_claim spec h.counted (begin_key begins)
  have claimed := claimed_of_begin spec begins
  have here := claimed.here
  have elsewhere := claimed.elsewhere
  rw [h.stream] at here elsewhere
  refine ⟨counted, streams.trans h.streams, ?_, elsewhere⟩
  rw [here, ← h.stands, ← h.packet spec, held, begins]
  rfl

end Numbers

/-- The packet gets no session, or no stream, or its ids; then it has moved the trackers before
the queue takes it or refuses it. -/
theorem ingest_outcome (nonzero : normal.sessionId ≠ 0) :
    (NoSession state normal.sessionId ∧ (assignIds state normal).1 = none ∧
      ingest state normal = (false, state)) ∨
    (¬ NoSession state normal.sessionId ∧
      (streamIdOf state normal = 0 ∨ NoTracker state normal.sessionId (streamIdOf state normal)) ∧
      (assignIds state normal).1 = none ∧
      ∃ final, ingest state normal = (false, final) ∧ Counted state final normal ∧
        streamsOf final normal.sessionId = streamsOf state normal.sessionId ∧
        ∀ sessionId streamId, tracker final sessionId streamId = tracker state sessionId streamId) ∨
    (¬ NoSession state normal.sessionId ∧
      ¬ (streamIdOf state normal = 0 ∨
        NoTracker state normal.sessionId (streamIdOf state normal)) ∧
      ∃ a final, (assignIds state normal).1 = some a ∧ a.packet = withIds state normal ∧
        Posted state final normal ∧
        (ingest state normal = (false, final) ∨
          (ingest state normal).1 = true ∧
            queued (ingest state normal).2 = stored a.packet ::ₘ queued state ∧
            SameTrackers final (ingest state normal).2)) := by
  rcases assignIds_outcome state nonzero with ⟨full, assigned⟩ |
    ⟨room, full, final, assigned, counted, streams⟩ |
    ⟨room, free, a, state1, assigned, spec, numbered⟩
  · exact .inl ⟨full, by rw [assigned], ingest_unassigned assigned⟩
  · exact .inr (.inl ⟨room, full, by rw [assigned], final, ingest_unassigned assigned, counted,
      streams, (assignIds_none assigned).2.2⟩)
  · have packet := numbered.packet spec
    have session : a.packet.sessionId ≠ 0 := by
      rw [spec.session]
      exact nonzero
    cases begins : messageTrackerBegin (offered state1 a) a.packet with
    | none =>
      exact .inr (.inr ⟨room, free, a, state1, by rw [assigned], packet,
        numbered.unclaimed spec begins, .inl (ingest_unclaimed assigned begins)⟩)
    | some t =>
      refine .inr (.inr ⟨room, free, a, _, by rw [assigned], packet,
        numbered.claimed spec begins, ?_⟩)
      rw [ingest_claimed assigned begins]
      have same := queued_of_readyQueue (claimed_of_begin spec begins).queue
      rcases queuePacket_cases (state1.setSession a.session
          ((state1.sessionTrackers a.session).setTracker a.tracker t)) session with
        ⟨taken, -, -, queue, frame⟩ | ⟨unchanged, -⟩
      · rw [same] at queue
        exact .inr ⟨taken, queue, frame⟩
      · exact .inl unchanged

end Ingest

end Siglatch.MuxStreamIds
