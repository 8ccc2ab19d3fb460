import Siglatch.MuxStreamIds
import Siglatch.MuxStreamRuns

set_option autoImplicit false

namespace Siglatch.MuxStreamFreshIds
open MuxTypes MuxStream MuxStreamView MuxStreamOps MuxStreamRuns MuxStreamIds StepRuns

/-! Whether the ids that a stream makes up are new. -/

abbrev Trace := List (StreamState × Op)

/-- Some packet of the session carried the stream id or was given it. -/
def StreamUsed (trace : Trace) (sessionId : UInt64) (streamId : UInt32) : Prop :=
  ∃ state normal, (state, Op.ingest normal) ∈ trace ∧ normal.sessionId = sessionId ∧
    streamIdOf state normal = streamId

/-- Some packet of the stream carried the message id or was given it. -/
def MessageUsed (trace : Trace) (sessionId : UInt64) (streamId : UInt32) (messageId : UInt64) :
    Prop :=
  ∃ state normal, (state, Op.ingest normal) ∈ trace ∧ normal.sessionId = sessionId ∧
    streamIdOf state normal = streamId ∧ messageIdOf state normal = messageId

def messageCounter (state : StreamState) (sessionId : UInt64) (streamId : UInt32) :
    Option UInt64 :=
  (tracker state sessionId streamId).map MessageTracker.nextMessageId

/-- Every counter that an ingest may still use is above the ids used so far, unless the last one
is among them. -/
structure Chased (state : StreamState) (trace : Trace) : Prop where
  streams : ∀ sessionId, sessionId ≠ 0 → ¬ NoSession state sessionId →
    IdCounter.Above (2 ^ 32) UInt32.toNat (sessionFor state sessionId).nextStreamId.toNat
      (StreamUsed trace sessionId)
  messages : ∀ sessionId streamId, sessionId ≠ 0 → streamId ≠ 0 → ¬ NoSession state sessionId →
    ¬ NoTracker state sessionId streamId →
    IdCounter.Above (2 ^ 64) UInt64.toNat (trackerFor state sessionId streamId).nextMessageId.toNat
      (MessageUsed trace sessionId streamId)

section Used

variable {trace : Trace} {state : StreamState} {normal : RecvPacket} {sessionId : UInt64}
  {streamId : UInt32}

theorem streamUsed_other {op : Op} (other : ∀ normal, op = .ingest normal →
      normal.sessionId ≠ sessionId) :
    StreamUsed (trace ++ [(state, op)]) sessionId = StreamUsed trace sessionId := by
  funext k
  refine propext ⟨?_, ?_⟩
  · rintro ⟨s, n, member, session, gives⟩
    rcases List.mem_append.mp member with earlier | now
    · exact ⟨s, n, earlier, session, gives⟩
    · obtain ⟨rfl, same⟩ := Prod.mk.inj (List.mem_singleton.mp now)
      exact absurd session (other n same.symm)
  · rintro ⟨s, n, member, rest⟩
    exact ⟨s, n, List.mem_append_left _ member, rest⟩

theorem messageUsed_other {op : Op} (other : ∀ normal, op = .ingest normal →
      normal.sessionId ≠ sessionId ∨ streamIdOf state normal ≠ streamId) :
    MessageUsed (trace ++ [(state, op)]) sessionId streamId =
      MessageUsed trace sessionId streamId := by
  funext k
  refine propext ⟨?_, ?_⟩
  · rintro ⟨s, n, member, session, stream, gives⟩
    rcases List.mem_append.mp member with earlier | now
    · exact ⟨s, n, earlier, session, stream, gives⟩
    · obtain ⟨rfl, same⟩ := Prod.mk.inj (List.mem_singleton.mp now)
      rcases other n same.symm with differ | differ
      · exact absurd session differ
      · exact absurd stream differ
  · rintro ⟨s, n, member, rest⟩
    exact ⟨s, n, List.mem_append_left _ member, rest⟩

theorem streamUsed_ingest (k : UInt32) :
    StreamUsed (trace ++ [(state, .ingest normal)]) normal.sessionId k ↔
      StreamUsed trace normal.sessionId k ∨ k = streamIdOf state normal := by
  constructor
  · rintro ⟨s, n, member, session, gives⟩
    rcases List.mem_append.mp member with earlier | now
    · exact .inl ⟨s, n, earlier, session, gives⟩
    · obtain ⟨rfl, same⟩ := Prod.mk.inj (List.mem_singleton.mp now)
      obtain rfl := Op.ingest.inj same
      exact .inr gives.symm
  · rintro (⟨s, n, member, rest⟩ | rfl)
    · exact ⟨s, n, List.mem_append_left _ member, rest⟩
    · exact ⟨state, normal, List.mem_append_right _ (List.mem_singleton.mpr rfl), rfl, rfl⟩

theorem messageUsed_ingest (k : UInt64) :
    MessageUsed (trace ++ [(state, .ingest normal)]) normal.sessionId (streamIdOf state normal) k ↔
      MessageUsed trace normal.sessionId (streamIdOf state normal) k ∨
        k = messageIdOf state normal := by
  constructor
  · rintro ⟨s, n, member, session, stream, gives⟩
    rcases List.mem_append.mp member with earlier | now
    · exact .inl ⟨s, n, earlier, session, stream, gives⟩
    · obtain ⟨rfl, same⟩ := Prod.mk.inj (List.mem_singleton.mp now)
      obtain rfl := Op.ingest.inj same
      exact .inr gives.symm
  · rintro (⟨s, n, member, rest⟩ | rfl)
    · exact ⟨s, n, List.mem_append_left _ member, rest⟩
    · exact ⟨state, normal, List.mem_append_right _ (List.mem_singleton.mpr rfl), rfl, rfl, rfl⟩

end Used

section Steps

variable {state state' : StreamState} {trace trace' : Trace} {normal : RecvPacket}

theorem sessionFor_counter (state : StreamState) (sessionId : UInt64) :
    (sessionFor state sessionId).nextStreamId = (streamCounter state sessionId).getD 1 := by
  unfold sessionFor streamCounter
  cases sessionAt state sessionId with
  | none => rfl
  | some session => rfl

theorem trackerFor_counter (state : StreamState) (sessionId : UInt64) (streamId : UInt32) :
    (trackerFor state sessionId streamId).nextMessageId =
      (messageCounter state sessionId streamId).getD 1 := by
  unfold trackerFor messageCounter
  cases tracker state sessionId streamId with
  | none => rfl
  | some t => rfl

theorem chased_congr (chased : Chased state trace)
    (sessions : ∀ sessionId, NoSession state sessionId → NoSession state' sessionId)
    (trackers : ∀ sessionId streamId, NoTracker state sessionId streamId →
      NoTracker state' sessionId streamId)
    (streamCounters : ∀ sessionId,
      streamCounter state' sessionId = streamCounter state sessionId)
    (messageCounters : ∀ sessionId streamId,
      messageCounter state' sessionId streamId = messageCounter state sessionId streamId)
    (streamUsed : ∀ sessionId, sessionId ≠ 0 → ¬ NoSession state' sessionId →
      StreamUsed trace' sessionId = StreamUsed trace sessionId)
    (messageUsed : ∀ sessionId streamId, sessionId ≠ 0 → ¬ NoSession state' sessionId →
      MessageUsed trace' sessionId streamId = MessageUsed trace sessionId streamId) :
    Chased state' trace' := by
  refine ⟨?_, ?_⟩
  · intro sessionId nonzero room
    rw [sessionFor_counter, streamCounters, ← sessionFor_counter, streamUsed sessionId nonzero room]
    exact chased.streams sessionId nonzero fun full => room (sessions sessionId full)
  · intro sessionId streamId nonzero named room free
    rw [trackerFor_counter, messageCounters, ← trackerFor_counter,
      messageUsed sessionId streamId nonzero room]
    exact chased.messages sessionId streamId nonzero named
      (fun full => room (sessions sessionId full))
      fun full => free (trackers sessionId streamId full)

theorem noSession_ingest (normal : RecvPacket) {sessionId : UInt64}
    (full : NoSession state sessionId) : NoSession (ingest state normal).2 sessionId := by
  have same : trackedSessions (ingest state normal).2 = trackedSessions state := by
    by_cases zero : normal.sessionId = 0
    · rw [ingest_nameless zero]
    · rw [ingest_trackedSessions state zero]
      split
      · rfl
      · exact if_pos full.2
  unfold NoSession
  rw [same]
  exact full

theorem streams_counted (chased : Chased state trace) (counted : Counted state state' normal)
    (sessions : ∀ sessionId, NoSession state sessionId → NoSession state' sessionId)
    (sessionId : UInt64) (nonzero : sessionId ≠ 0) (room : ¬ NoSession state' sessionId) :
    IdCounter.Above (2 ^ 32) UInt32.toNat (sessionFor state' sessionId).nextStreamId.toNat
      (StreamUsed (trace ++ [(state, .ingest normal)]) sessionId) := by
  have before := chased.streams sessionId nonzero fun full => room (sessions sessionId full)
  by_cases own : sessionId = normal.sessionId
  · rw [own] at before ⊢
    rw [sessionFor_counter, counted.counters, if_pos rfl]
    dsimp only [Option.getD_some]
    rw [streamIdAfter_toNat]
    exact IdCounter.above_after (UInt32.toNat_lt _) normal.streamId.toNat_lt before
      (givenStreamId_toNat _ _) streamUsed_ingest
  · have unused := @streamUsed_other trace state sessionId (.ingest normal) fun n same => by
      obtain rfl := Op.ingest.inj same
      exact fun e => own e.symm
    rw [sessionFor_counter, counted.counters, if_neg own, ← sessionFor_counter, unused]
    exact before

theorem messages_elsewhere (chased : Chased state trace)
    (sessions : ∀ sessionId, NoSession state sessionId → NoSession state' sessionId)
    {sessionId : UInt64} {streamId : UInt32}
    (other : sessionId ≠ normal.sessionId ∨ streamId ≠ streamIdOf state normal)
    (same : tracker state' sessionId streamId = tracker state sessionId streamId)
    (nonzero : sessionId ≠ 0) (named : streamId ≠ 0) (room : ¬ NoSession state' sessionId)
    (free : ¬ NoTracker state sessionId streamId) :
    IdCounter.Above (2 ^ 64) UInt64.toNat (trackerFor state' sessionId streamId).nextMessageId.toNat
      (MessageUsed (trace ++ [(state, .ingest normal)]) sessionId streamId) := by
  have unused := @messageUsed_other trace state sessionId streamId (.ingest normal) fun n e => by
    obtain rfl := Op.ingest.inj e
    exact other.imp Ne.symm Ne.symm
  unfold trackerFor
  rw [same, unused]
  exact chased.messages sessionId streamId nonzero named
    (fun full => room (sessions sessionId full)) free

theorem chased_refused (chased : Chased state trace) (counted : Counted state state' normal)
    (sessions : ∀ sessionId, NoSession state sessionId → NoSession state' sessionId)
    (full : streamIdOf state normal = 0 ∨
      NoTracker state normal.sessionId (streamIdOf state normal))
    (streams : streamsOf state' normal.sessionId = streamsOf state normal.sessionId)
    (trackers : ∀ sessionId streamId,
      tracker state' sessionId streamId = tracker state sessionId streamId) :
    Chased state' (trace ++ [(state, .ingest normal)]) := by
  have kept (sessionId : UInt64) : streamsOf state' sessionId = streamsOf state sessionId := by
    by_cases own : sessionId = normal.sessionId
    · rw [own]
      exact streams
    · exact counted.streams sessionId own
  refine ⟨streams_counted chased counted sessions, ?_⟩
  intro sessionId streamId nonzero named room free
  have free' : ¬ NoTracker state sessionId streamId := by
    unfold NoTracker at free ⊢
    rw [kept] at free
    exact free
  refine messages_elsewhere chased sessions ?_ (trackers _ _) nonzero named room free'
  by_contra here
  simp only [not_or, not_not] at here
  rw [here.1, here.2] at free'
  rw [here.2] at named
  exact free' (full.resolve_left named)

theorem chased_posted (chased : Chased state trace) (posted : Posted state state' normal)
    (sessions : ∀ sessionId, NoSession state sessionId → NoSession state' sessionId)
    (free : ¬ NoTracker state normal.sessionId (streamIdOf state normal)) :
    Chased state' (trace ++ [(state, .ingest normal)]) := by
  refine ⟨streams_counted chased posted.counted sessions, ?_⟩
  intro sessionId streamId nonzero named room free'
  by_cases here : sessionId = normal.sessionId ∧ streamId = streamIdOf state normal
  · obtain ⟨rfl, rfl⟩ := here
    have before := chased.messages _ _ nonzero named (fun full => room (sessions _ full)) free
    have stands : (trackerFor state' normal.sessionId (streamIdOf state normal)).nextMessageId =
        messageIdAfter (trackerFor state normal.sessionId (streamIdOf state normal)).nextMessageId
          normal.messageId := by
      rw [trackerFor_counter]
      unfold messageCounter
      rw [posted.here]
      exact held_counter
    rw [stands, messageIdAfter_toNat]
    exact IdCounter.above_after (UInt64.toNat_lt _) normal.messageId.toNat_lt before
      (givenMessageId_toNat _ _) messageUsed_ingest
  · have unfull : ¬ NoTracker state sessionId streamId := by
      intro full
      apply free'
      by_cases own : sessionId = normal.sessionId
      · rw [own] at full ⊢
        have member : streamIdOf state normal ∈ streamsOf state normal.sessionId := by
          by_contra missing
          exact free ⟨missing, full.2⟩
        unfold NoTracker
        rw [posted.streams, if_pos member]
        exact full
      · unfold NoTracker
        rw [posted.counted.streams sessionId own]
        exact full
    rw [not_and_or] at here
    exact messages_elsewhere chased sessions here
      (posted.elsewhere sessionId streamId (not_and_or.mpr here)) nonzero named room unfull

theorem chased_same (chased : Chased state trace) (same : SameTrackers state state') :
    Chased state' trace := by
  refine chased_congr chased ?_ ?_ ?_ ?_ (fun _ _ _ => rfl) fun _ _ _ _ => rfl
  · intro sessionId full
    unfold NoSession
    rw [same.trackedSessions]
    exact full
  · intro sessionId streamId full
    unfold NoTracker streamsOf
    rw [same.trackedStreams]
    exact full
  · intro sessionId
    unfold streamCounter sessionAt
    rw [same.1]
  · intro sessionId streamId
    unfold messageCounter
    rw [same.tracker]

theorem chased_unnamed (chased : Chased state trace)
    (other : ∀ sessionId, sessionId ≠ 0 → ¬ NoSession state sessionId →
      normal.sessionId ≠ sessionId) :
    Chased state (trace ++ [(state, .ingest normal)]) := by
  have apart (sessionId : UInt64) (nonzero : sessionId ≠ 0) (room : ¬ NoSession state sessionId)
      (n : RecvPacket) (same : Op.ingest normal = .ingest n) : n.sessionId ≠ sessionId := by
    obtain rfl := Op.ingest.inj same
    exact other sessionId nonzero room
  refine chased_congr chased (fun _ full => full) (fun _ _ full => full) (fun _ => rfl)
    (fun _ _ => rfl) ?_ ?_
  · intro sessionId nonzero room
    exact streamUsed_other (apart sessionId nonzero room)
  · intro sessionId streamId nonzero room
    exact messageUsed_other fun n same => .inl (apart sessionId nonzero room n same)

theorem chased_ingest (chased : Chased state trace) (normal : RecvPacket) :
    Chased (ingest state normal).2 (trace ++ [(state, .ingest normal)]) := by
  have sessions (sessionId : UInt64) (full : NoSession state sessionId) :=
    noSession_ingest normal full
  by_cases zero : normal.sessionId = 0
  · rw [ingest_nameless zero]
    refine chased_unnamed chased ?_
    intro sessionId nonzero _
    rw [zero]
    exact nonzero.symm
  rcases ingest_outcome zero with ⟨full, -, ended⟩ |
    ⟨-, full, -, final, ended, counted, streams, trackers⟩ |
    ⟨-, free, a, final, -, -, posted, ended | ⟨-, -, same⟩⟩
  · rw [ended]
    refine chased_unnamed chased ?_
    rintro sessionId - room rfl
    exact room full
  · rw [ended] at sessions ⊢
    exact chased_refused chased counted sessions full streams trackers
  · rw [ended] at sessions ⊢
    exact chased_posted chased posted sessions fun full => free (.inr full)
  · have before (sessionId : UInt64) (full : NoSession state sessionId) :
        NoSession final sessionId := by
      have after := sessions sessionId full
      unfold NoSession at after ⊢
      rw [same.trackedSessions] at after
      exact after
    exact chased_same (chased_posted chased posted before fun full => free (.inr full)) same

theorem streamCounter_overwrite {i : Fin SESSION_TRACKER_CAPACITY} {session : SessionTracker}
    (named : session.key = (state.sessionTrackers i).key)
    (next : session.nextStreamId = (state.sessionTrackers i).nextStreamId) (sessionId : UInt64) :
    streamCounter (state.setSession i session) sessionId = streamCounter state sessionId := by
  have keys (j : Fin SESSION_TRACKER_CAPACITY) :
      ((state.setSession i session).sessionTrackers j).key = (state.sessionTrackers j).key := by
    change (Function.update state.sessionTrackers i session j).key = _
    by_cases here : j = i
    · rw [here, Function.update_self, named]
    · rw [Function.update_of_ne here]
  have slots : SlotTable.lookup SessionTracker.key (state.setSession i session).sessionTrackers
      sessionId = SlotTable.lookup SessionTracker.key state.sessionTrackers sessionId :=
    SlotTable.find?_congr fun j => decide_eq_decide.mpr (by rw [keys])
  unfold streamCounter sessionAt SlotTable.entry
  rw [slots, Option.map_map, Option.map_map]
  refine Option.map_congr ?_
  intro j _
  change (Function.update state.sessionTrackers i session j).nextStreamId = _
  by_cases here : j = i
  · rw [here, Function.update_self, next]
    rfl
  · rw [Function.update_of_ne here]
    rfl

theorem advanceMessage_streamCounter (state : StreamState) (slot : RecvPacket)
    (sessionId : UInt64) :
    streamCounter (advanceMessage state slot) sessionId = streamCounter state sessionId := by
  unfold advanceMessage
  split
  · split
    · rfl
    · dsimp only
      split
      · rfl
      · split
        · exact streamCounter_overwrite (by rfl) (by rfl) sessionId
        · rfl
  · rfl

theorem drain_streamCounter (state : StreamState) (callerUser : Bool) (sessionId : UInt64) :
    streamCounter (drain state callerUser).2 sessionId = streamCounter state sessionId := by
  unfold drain
  split
  · rfl
  · dsimp only
    split
    · rfl
    · split
      · rfl
      · exact advanceMessage_streamCounter state _ sessionId

theorem advanceTracker_counter (t : MessageTracker) :
    (advanceTracker t).nextMessageId = t.nextMessageId := by
  unfold advanceTracker
  generalize (if t.nextFragmentIndex < 4294967295 then t.nextFragmentIndex + 1
    else t.nextFragmentIndex) = next
  dsimp only
  split
  · rfl
  · rfl

theorem chased_drain (chased : Chased state trace) (callerUser : Bool) :
    Chased (drain state callerUser).2 (trace ++ [(state, .drain callerUser)]) := by
  refine chased_congr chased ?_ ?_ (drain_streamCounter state callerUser) ?_
    (fun _ _ _ => streamUsed_other fun _ e => by contradiction)
    fun _ _ _ _ => messageUsed_other fun _ e => by contradiction
  · intro sessionId full
    rcases drain_cases state callerUser with ⟨p, after, drained, spec⟩ | ⟨drained, -⟩
    · rw [drained]
      unfold NoSession
      rw [spec.sessions]
      exact full
    · rw [drained]
      exact full
  · intro sessionId streamId full
    rcases drain_cases state callerUser with ⟨p, after, drained, spec⟩ | ⟨drained, -⟩
    · rw [drained]
      unfold NoTracker streamsOf
      rw [spec.streams]
      exact full
    · rw [drained]
      exact full
  · intro sessionId streamId
    rcases drain_cases state callerUser with ⟨p, after, drained, spec⟩ | ⟨drained, -⟩
    · rw [drained]
      unfold messageCounter
      by_cases here : sessionId = p.sessionId ∧ streamId = p.streamId
      · rw [here.1, here.2, spec.here, Option.map_map]
        refine Option.map_congr ?_
        intro t _
        change (stepped p t).nextMessageId = t.nextMessageId
        unfold stepped
        split
        · rfl
        · exact advanceTracker_counter t
      · rw [spec.elsewhere sessionId streamId here]
    · rw [drained]

theorem chased_step (state : StreamState) (trace : Trace) (op : Op) (chased : Chased state trace) :
    Chased (step state op).1 (trace ++ [(state, op)]) := by
  cases op with
  | ingest normal => exact chased_ingest chased normal
  | drain callerUser => exact chased_drain chased callerUser
  | expire nowMs =>
    have same := chased_same chased (expire_frame state nowMs)
    exact chased_congr same (fun _ full => full) (fun _ _ full => full) (fun _ => rfl)
      (fun _ _ => rfl) (fun _ _ _ => streamUsed_other fun _ e => by contradiction)
      fun _ _ _ _ => messageUsed_other fun _ e => by contradiction

end Steps

section Runs

variable {state : StreamState} {trace : Trace} {normal : RecvPacket}

theorem chased_empty (sessions : ∀ sessionId, sessionAt state sessionId = none) :
    Chased state [] := by
  refine ⟨?_, ?_⟩
  · intro sessionId _ _ _
    unfold sessionFor
    rw [sessions]
    refine ⟨Nat.one_pos, ?_⟩
    rintro k ⟨_, _, member, -⟩
    cases member
  · intro sessionId streamId _ _ _ _ _
    unfold trackerFor
    rw [tracker_none_of_untracked (sessions sessionId)]
    refine ⟨Nat.one_pos, ?_⟩
    rintro k ⟨_, _, member, -⟩
    cases member

theorem chased_run (adapters : Option (List UInt32)) (ops : List Op) :
    Chased (run step (start adapters) ops).1 (steps step (start adapters) ops) := by
  refine run_traced chased_step (start adapters) (chased_empty ?_) ops
  intro sessionId
  have untracked : trackedSessions (start adapters) = 0 := trackedSessions_stateInit
  rw [sessionAt_none_iff, untracked]
  exact Multiset.notMem_zero sessionId

/-- Neither counter that the packet asks has been driven past its last id. -/
def Unspent (state : StreamState) (trace : Trace) (normal : RecvPacket) : Prop :=
  (normal.streamId = 0 → ¬ StreamUsed trace normal.sessionId 4294967295) ∧
  (normal.messageId = 0 →
    ¬ MessageUsed trace normal.sessionId (streamIdOf state normal) 18446744073709551615)

/-- The packet is refused for want of a tracker, or the ids that it does not bring itself are not
zero and new. -/
def FreshIds (state : StreamState) (trace : Trace) (normal : RecvPacket) : Prop :=
  ((assignIds state normal).1 = none → NoSession state normal.sessionId ∨
    NoTracker state normal.sessionId (streamIdOf state normal)) ∧
  ∀ a, (assignIds state normal).1 = some a →
    ((ingest state normal).1 = true →
      queued (ingest state normal).2 = stored a.packet ::ₘ queued state) ∧
    (normal.streamId = 0 → a.packet.streamId ≠ 0 ∧
      ¬ StreamUsed trace normal.sessionId a.packet.streamId) ∧
    (normal.messageId = 0 → a.packet.messageId ≠ 0 ∧
      ¬ MessageUsed trace normal.sessionId a.packet.streamId a.packet.messageId)

theorem streamIdOf_fresh (chased : Chased state trace) (nonzero : normal.sessionId ≠ 0)
    (room : ¬ NoSession state normal.sessionId) (own : normal.streamId = 0)
    (unspent : ¬ StreamUsed trace normal.sessionId 4294967295) :
    streamIdOf state normal ≠ 0 ∧
      ¬ StreamUsed trace normal.sessionId (streamIdOf state normal) := by
  have given : streamIdOf state normal = (sessionFor state normal.sessionId).nextStreamId :=
    if_pos own
  have below (k : UInt32) (used : StreamUsed trace normal.sessionId k) : k.toNat ≠ 2 ^ 32 - 1 := by
    intro last
    obtain rfl : k = 4294967295 := UInt32.toNat_inj.mp last
    exact unspent used
  obtain ⟨positive, unused⟩ := IdCounter.own_fresh (chased.streams _ nonzero room) below
    (congrArg UInt32.toNat given)
  exact ⟨fun zero => positive (congrArg UInt32.toNat zero), unused⟩

theorem messageIdOf_fresh (chased : Chased state trace) (nonzero : normal.sessionId ≠ 0)
    (room : ¬ NoSession state normal.sessionId) (named : streamIdOf state normal ≠ 0)
    (free : ¬ NoTracker state normal.sessionId (streamIdOf state normal))
    (own : normal.messageId = 0)
    (unspent : ¬ MessageUsed trace normal.sessionId (streamIdOf state normal)
      18446744073709551615) :
    messageIdOf state normal ≠ 0 ∧
      ¬ MessageUsed trace normal.sessionId (streamIdOf state normal)
        (messageIdOf state normal) := by
  have given : messageIdOf state normal =
      (trackerFor state normal.sessionId (streamIdOf state normal)).nextMessageId := if_pos own
  have below (k : UInt64) (used : MessageUsed trace normal.sessionId (streamIdOf state normal) k) :
      k.toNat ≠ 2 ^ 64 - 1 := by
    intro last
    obtain rfl : k = 18446744073709551615 := UInt64.toNat_inj.mp last
    exact unspent used
  obtain ⟨positive, unused⟩ := IdCounter.own_fresh
    (chased.messages _ _ nonzero named room free) below (congrArg UInt64.toNat given)
  exact ⟨fun zero => positive (congrArg UInt64.toNat zero), unused⟩

/-- In every run, a packet of a session that asks for an id gets one that no packet of the session,
or of the stream, has carried before, as long as the last id has not been used there. -/
theorem own_ids_fresh (adapters : Option (List UInt32)) (ops : List Op) (normal : RecvPacket)
    (session : normal.sessionId ≠ 0)
    (unspent : Unspent (run step (start adapters) ops).1 (steps step (start adapters) ops) normal) :
    FreshIds (run step (start adapters) ops).1 (steps step (start adapters) ops) normal := by
  have chased := chased_run adapters ops
  rcases ingest_outcome session with ⟨full, assigned, -⟩ | ⟨room, full, assigned, -⟩ |
    ⟨room, free, a, final, assigned, packet, -, ended⟩
  · exact ⟨fun _ => .inl full, fun a e => by rw [assigned] at e; contradiction⟩
  · refine ⟨fun _ => .inr ?_, fun a e => by rw [assigned] at e; contradiction⟩
    refine full.resolve_left ?_
    by_cases own : normal.streamId = 0
    · exact (streamIdOf_fresh chased session room own (unspent.1 own)).1
    · exact fun zero => own ((if_neg own).symm.trans zero)
  · rw [not_or] at free
    refine ⟨fun e => by rw [assigned] at e; contradiction, ?_⟩
    intro b found
    obtain rfl : a = b := Option.some.inj (assigned.symm.trans found)
    refine ⟨?_, ?_, ?_⟩
    · intro taken
      rcases ended with refused | ⟨-, queue, -⟩
      · rw [refused] at taken
        contradiction
      · exact queue
    · intro own
      rw [packet]
      exact streamIdOf_fresh chased session room own (unspent.1 own)
    · intro own
      rw [packet]
      exact messageIdOf_fresh chased session room free.1 free.2 own (unspent.2 own)

def unnamed : RecvPacket := { RecvPacket.zero with sessionId := 1, receivedMs := 1 }

theorem unnamed_fresh :
    FreshIds (run step (start none) []).1 (steps step (start none) []) unnamed := by
  refine own_ids_fresh none [] unnamed (by decide) ⟨fun _ => ?_, fun _ => ?_⟩
  · rintro ⟨_, _, member, -⟩
    cases member
  · rintro ⟨_, _, member, -⟩
    cases member

def lastStream : RecvPacket := { unnamed with streamId := 4294967295, messageId := 1 }

/-- After the last stream id the counter stands at zero, which is no stream. -/
theorem lastStream_wraps :
    ¬ ∀ (adapters : Option (List UInt32)) (ops : List Op) (normal : RecvPacket),
      normal.sessionId ≠ 0 →
      FreshIds (run step (start adapters) ops).1 (steps step (start adapters) ops) normal := by
  intro claimed
  have fresh := claimed none [.ingest lastStream] unnamed (by decide)
  have refused : (assignIds (run step (start none) [.ingest lastStream]).1 unnamed).1.isNone := by
    decide +kernel
  have sessions : (trackedSessions (run step (start none) [.ingest lastStream]).1).card = 1 := by
    decide +kernel
  have streams : (streamsOf (run step (start none) [.ingest lastStream]).1 1).card = 1 := by
    decide +kernel
  rcases fresh.1 (Option.isNone_iff_eq_none.mp refused) with ⟨-, full⟩ | ⟨-, full⟩
  · rw [sessions] at full
    exact absurd full (by decide)
  · rw [show unnamed.sessionId = 1 from rfl, streams] at full
    exact absurd full (by decide)

end Runs

end Siglatch.MuxStreamFreshIds
