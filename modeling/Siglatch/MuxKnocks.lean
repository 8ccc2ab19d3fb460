import Siglatch.MuxReassembly
import Siglatch.MuxSessionRuns
import Siglatch.MuxVisit

set_option autoImplicit false

namespace Siglatch.MuxKnocks
open MuxTypes KnockCodec MuxAdapter MuxNormalize MuxInbox MuxInboxRuns MuxSession MuxStreamView
open MuxStreamOps MuxStreamIds MuxStreamReady MuxReassembly MuxIntake MuxFragments MuxLiveSessions
open DaemonLoop MuxVisit

/-! Whole messages one after another through one connection. -/

/-- A whole message as knock clients send it: one that names its session goes into stream 1. -/
structure Knock (control : Control) (normal : RecvPacket) : Prop where
  normalised : Normalised control normal
  structured : normal.wireVersion ≠ 0
  single : Singular normal
  first : normal.fragmentIndex = 0
  known : normal.user.isSome = true → normal.wireVersion ∈ registered
  owned : control.sessionByClient = true →
    normal.sessionId ≠ 0 ∧ normal.streamId = 1 ∧ normal.messageId ≠ 0

/-- The session that the packet goes into: the one that its client has named before, or the next. -/
def sessionOf (state : SessionState) (control : Control) (normal : RecvPacket) : UInt64 :=
  match (if control.sessionByClient then
      findByClientSession state normal.sessionId normal.wireVersion normal.wireForm else none) with
  | some i => (state.sessions i).sessionId
  | none => state.nextSessionId

def occupancy (state : SessionState) : ℕ :=
  (Finset.univ.filter fun i => (state.sessions i).active = true).card

/-- No more slots are taken than sessions have been handed to the stream, which tracks none but the
first 64 of these, with stream 1 for every client's own. -/
structure Tended (intake : Intake) (handed : List UInt64) : Prop where
  occupied : occupancy intake.session ≤ distinct handed
  numbered : ∀ id ∈ trackedSessions intake.stream, id.toNat ≤ 64
  streams : ∀ i, (intake.session.sessions i).active = true →
    (intake.session.sessions i).clientSessionId ≠ 0 →
    (intake.session.sessions i).sessionId.toNat ≤ 64 →
    1 ∈ streamsOf intake.stream (intake.session.sessions i).sessionId

theorem tended_start (adapters : Option (List UInt32)) : Tended (start adapters) [] := by
  have free (i : Fin SESSION_CAPACITY) :
      ((start adapters).session.sessions i).active = false := rfl
  refine ⟨?_, ?_, ?_⟩
  · unfold occupancy
    simp [free]
  · have empty : trackedSessions (start adapters).stream = 0 := trackedSessions_stateInit
    rw [empty]
    exact fun id member => absurd member (Multiset.notMem_zero id)
  · intro i active
    rw [free i] at active
    cases active

section Table

variable {state state' : SessionState} {control : Control} {normal p : RecvPacket}
  {nowMs : UInt64} {i : Fin SESSION_CAPACITY}

theorem occupancy_emptied
    (emptied : ∀ j, state'.sessions j = .zero ∨ state'.sessions j = state.sessions j) :
    occupancy state' ≤ occupancy state := by
  refine Finset.card_le_card ?_
  intro j member
  have active := (Finset.mem_filter.mp member).2
  refine Finset.mem_filter.mpr ⟨Finset.mem_univ j, ?_⟩
  rcases emptied j with gone | kept
  · rw [gone] at active
    cases active
  · rw [← kept]
    exact active

theorem occupancy_joins (joins : Joins state state' normal p nowMs i) :
    occupancy state' = occupancy state := by
  unfold occupancy
  congr 1
  ext j
  simp only [Finset.mem_filter, Finset.mem_univ, true_and]
  by_cases same : j = i
  · rw [same]
    exact iff_of_true joins.active joins.was_active
  · rw [joins.others j same]

theorem occupancy_starts (starts : Starts state state' normal p nowMs i) :
    occupancy state' ≤ occupancy state + 1 := by
  refine (Finset.card_le_card ?_).trans (Finset.card_insert_le i _)
  intro j member
  have active := (Finset.mem_filter.mp member).2
  by_cases same : j = i
  · rw [same]
    exact Finset.mem_insert_self i _
  · rw [starts.others j same] at active
    exact Finset.mem_insert_of_mem (Finset.mem_filter.mpr ⟨Finset.mem_univ j, active⟩)

theorem occupancy_full (full : ∀ i, (state.sessions i).active = true) : occupancy state = 64 := by
  unfold occupancy
  rw [Finset.filter_true_of_mem fun i _ => full i]
  exact Finset.card_fin 64

theorem knock_opens (knock : Knock control normal) (anonymous : control.sessionByClient ≠ true) :
    Opens state control normal := by
  refine ⟨fun byClient => absurd byClient anonymous, ?_, fun raw => absurd raw knock.structured⟩
  intro _ named
  exact absurd (knock.normalised.resolve_left anonymous) named

theorem sessionOf_opens (opens : Opens state control normal) :
    sessionOf state control normal = state.nextSessionId := by
  unfold sessionOf
  by_cases byClient : control.sessionByClient = true
  · rw [if_pos byClient, opens.1 byClient]
  · rw [if_neg byClient]

theorem starts_client (starts : Starts state state' normal p nowMs i)
    (opens : Opens state control normal)
    (ingested : ingest state control normal nowMs = some (state', p))
    (named : (state'.sessions i).clientSessionId ≠ 0) : control.sessionByClient = true := by
  obtain ⟨_, _, _, -, -, -, -, known⟩ | ⟨j, after, q, again, slot, -⟩ | ⟨refused, -⟩ :=
    MuxSessionRuns.ingest_slot state control normal nowMs
  · exact absurd opens known
  · rw [ingested] at again
    obtain ⟨rfl, -⟩ := Prod.mk.inj (Option.some.inj again)
    have same : i = j := by
      by_contra other
      have active := starts.active
      rw [slot.others i other, starts.was_free] at active
      cases active
    rw [same, slot.client] at named
    by_contra anonymous
    rw [if_neg anonymous] at named
    exact named rfl
  · rw [ingested] at refused
    cases refused

end Table

section Stream

variable {stream : MuxStream.StreamState} {p : RecvPacket}

theorem refused_queue (refused : (MuxStream.ingest stream p).1 = false) :
    queued (MuxStream.ingest stream p).2 = queued stream := by
  obtain ⟨after, assigned, ingested⟩ | ⟨a, after, -, spec, -, ingested⟩ |
      ⟨a, before, t, after, -, spec, -, claimed, -, ingested⟩ :=
    MuxStreamOps.ingest_cases stream p
  · rw [ingested]
    exact queued_of_readyQueue (assignIds_none assigned).1
  · rw [ingested]
    exact queued_of_readyQueue spec.queue
  · have session : a.packet.sessionId ≠ 0 := by
      rw [spec.session]
      exact spec.session_ne
    rw [ingested] at refused ⊢
    rcases queuePacket_cases after session with ⟨taken, -⟩ | ⟨unchanged, -⟩
    · rw [taken] at refused
      cases refused
    · rw [unchanged]
      exact queued_of_readyQueue claimed.queue

theorem accepted_stream (nonzero : p.sessionId ≠ 0)
    (accepted : (MuxStream.ingest stream p).1 = true) :
    streamIdOf stream p ∈ streamsOf (MuxStream.ingest stream p).2 p.sessionId := by
  obtain ⟨-, -, same⟩ | ⟨-, -, -, final, same, -⟩ | ⟨-, -, a, final, -, -, posted, same | frame⟩ :=
    ingest_outcome nonzero
  · rw [same] at accepted
    cases accepted
  · rw [same] at accepted
    cases accepted
  · rw [same] at accepted
    cases accepted
  · unfold streamsOf
    rw [frame.2.2.trackedStreams]
    change streamIdOf stream p ∈ streamsOf final p.sessionId
    rw [posted.streams]
    split
    · assumption
    · exact Multiset.mem_cons_self _ _

theorem joined_served (nonzero : p.sessionId ≠ 0) (stream_ne : p.streamId ≠ 0)
    (message : p.messageId ≠ 0) (member : p.streamId ∈ streamsOf stream p.sessionId)
    (single : Singular p) (first : p.fragmentIndex = 0) (readable : Readable stream true p)
    (empty : queued stream = 0) : ∃ after, MuxStream.ingest stream p = (true, after) ∧
      queued after = {stored p} ∧
      ∃ left, MuxStream.drain after true = (some (stored p), left) ∧ queued left = 0 := by
  obtain ⟨t, tracked⟩ : ∃ t, tracker stream p.sessionId p.streamId = some t := by
    cases found : tracker stream p.sessionId p.streamId with
    | none => exact absurd member (tracker_none_iff.mp found)
    | some t => exact ⟨t, rfl⟩
  obtain ⟨a, state1, assigned⟩ := assignIds_explicit nonzero stream_ne tracked
  have spec := assignIds_some assigned
  have packet := assigned_explicit spec stream_ne message
  have begins : MuxStream.messageTrackerBegin (offered state1 a) a.packet =
      some (offered state1 a) := by
    rw [packet]
    exact begin_singular single message
  obtain ⟨after, ingested, adapters, queue, here⟩ := ingest_accepted assigned packet nonzero
    begins (by rw [empty]; exact fun q member => absurd member (Multiset.notMem_zero q))
    (by rw [empty]; decide)
  rw [empty] at queue
  refine ⟨after, ingested, queue, ?_⟩
  refine drained_when_alone queue nonzero stream_ne single first ?_ ?_
  · obtain ⟨session, found, -⟩ := Option.bind_eq_some_iff.mp here
    rw [found]
    rfl
  · intro user
    refine ⟨rfl, ?_⟩
    have copied := (readable user).2
    unfold MuxStream.copyUser at copied ⊢
    rw [adapters]
    exact copied

end Stream

section Intake

variable {intake : Intake} {handed recorded : List UInt64} {control : Control}
  {normal p : RecvPacket} {nowMs : UInt64} {session : SessionState} {i : Fin SESSION_CAPACITY}

structure Resting (intake : Intake) (handed : List UInt64) : Prop where
  queue : queued intake.stream = 0
  consistent : Consistent intake.stream
  adapters : intake.stream.adapterLib = some registered
  ledger : Ledger intake handed
  tended : Tended intake handed

theorem tended_swept (tended : Tended intake handed) (nowMs : UInt64) :
    Tended ⟨(MuxSession.expire intake.session nowMs).2, intake.stream⟩ handed := by
  have emptied := @expire_emptied intake.session nowMs
  refine ⟨(occupancy_emptied emptied).trans tended.occupied, tended.numbered, ?_⟩
  intro j active named small
  dsimp only at active named small ⊢
  rcases emptied j with gone | kept
  · rw [gone] at active
    cases active
  · rw [kept] at active named small ⊢
    exact tended.streams j active named small

theorem tended_tracked {stream : MuxStream.StreamState} (tended : Tended intake handed)
    (sessions : trackedSessions stream = trackedSessions intake.stream)
    (streams : ∀ id, trackedStreams stream id = trackedStreams intake.stream id) :
    Tended ⟨intake.session, stream⟩ handed := by
  refine ⟨tended.occupied, ?_, ?_⟩
  · rw [sessions]
    exact tended.numbered
  · intro j active named small
    unfold streamsOf
    rw [streams]
    exact tended.streams j active named small

theorem large_refused (resting : Resting intake handed) (few : distinct handed < 2 ^ 64 - 1)
    (nonzero : p.sessionId ≠ 0) (within : p.sessionId.toNat ≤ distinct handed + 1)
    (large : ¬ p.sessionId.toNat ≤ 64) : (MuxStream.ingest intake.stream p).1 = false ∧
      p.sessionId ∉ trackedSessions (MuxStream.ingest intake.stream p).2 := by
  have untracked : p.sessionId ∉ trackedSessions intake.stream :=
    fun there => large (resting.tended.numbered _ there)
  have full := tracked_full resting.ledger few (by omega)
  refine ⟨refused_when_full nonzero untracked full, ?_⟩
  rw [ingest_trackedSessions intake.stream nonzero, if_neg untracked, if_pos full]
  exact untracked

theorem tended_ingest (resting : Resting intake handed) (few : distinct handed < 2 ^ 64 - 1)
    (nonzero : p.sessionId ≠ 0) (within : p.sessionId.toNat ≤ distinct handed + 1)
    (occupied : occupancy session ≤ distinct recorded)
    (slots : ∀ j, (session.sessions j).active = true → (session.sessions j).clientSessionId ≠ 0 →
      (∃ k, (intake.session.sessions k).active = true ∧
        (intake.session.sessions k).clientSessionId ≠ 0 ∧
        (intake.session.sessions k).sessionId = (session.sessions j).sessionId) ∨
      (session.sessions j).sessionId = p.sessionId ∧ (p.sessionId.toNat ≤ 64 →
        1 ∈ streamsOf (MuxStream.ingest intake.stream p).2 p.sessionId)) :
    Tended ⟨session, (MuxStream.ingest intake.stream p).2⟩ recorded := by
  refine ⟨occupied, ?_, ?_⟩
  · intro id member
    dsimp only at member
    by_cases same : id = p.sessionId
    · by_contra large
      rw [same] at large member
      exact (large_refused resting few nonzero within large).2 member
    · apply resting.tended.numbered id
      rw [ingest_trackedSessions intake.stream nonzero] at member
      split at member
      · exact member
      split at member
      · exact member
      · exact (Multiset.mem_cons.mp member).resolve_left same
  · intro j active named small
    dsimp only at active named small ⊢
    rcases slots j active named with ⟨k, was, had, same⟩ | ⟨same, new⟩
    · rw [← same] at small ⊢
      exact Multiset.mem_of_le (ingest_streams_le intake.stream p _)
        (resting.tended.streams k was had small)
    · rw [same] at small ⊢
      exact new small

def Serves (after : Intake) (recorded : List UInt64) (normal : RecvPacket) (sessionId : UInt64)
    (accepted : Bool) : Prop :=
  if sessionId.toNat ≤ 64 then accepted = true ∧ ∃ streamId messageId,
      Holding after (deliveredAs (handedOn normal sessionId) streamId messageId) recorded
  else accepted = false ∧ Resting after recorded

theorem knock_readable (resting : Resting intake handed) (knock : Knock control normal) :
    Readable intake.stream true normal := by
  intro user
  refine ⟨rfl, ?_⟩
  unfold MuxStream.copyUser
  rw [resting.adapters]
  exact List.contains_iff_mem.mpr (knock.known user)

theorem intake_of_ingest (ingested : MuxSession.ingest intake.session control normal nowMs =
    some (session, p)) : MuxIntake.intake intake control normal nowMs =
      ((MuxStream.ingest intake.stream p).1, ⟨session, (MuxStream.ingest intake.stream p).2⟩) := by
  unfold MuxIntake.intake
  rw [ingested]

theorem recorded_ledger (ledger : Ledger intake handed) (knock : Knock control normal)
    (ingested : MuxSession.ingest intake.session control normal nowMs = some (session, p)) :
    Ledger ⟨session, (MuxStream.ingest intake.stream p).2⟩ (handed ++ [p.sessionId]) := by
  have kept := ledger_step intake handed (.packet control normal nowMs) knock.normalised ledger
  have emitted : (MuxIntake.step intake (.packet control normal nowMs)).2 = [p.sessionId] := by
    unfold MuxIntake.step
    dsimp only
    rw [ingested]
  change Ledger (MuxIntake.intake intake control normal nowMs).2
    (handed ++ (MuxIntake.step intake (.packet control normal nowMs)).2) at kept
  rw [emitted, intake_of_ingest ingested] at kept
  exact kept

theorem ingested_adapters (resting : Resting intake handed)
    (ingested : MuxSession.ingest intake.session control normal nowMs = some (session, p)) :
    (MuxStream.ingest intake.stream p).2.adapterLib = some registered := by
  have adapted := (intake_adapters intake control normal nowMs).trans resting.adapters
  rw [intake_of_ingest ingested] at adapted
  exact adapted

theorem refused_resting (resting : Resting intake handed) (knock : Knock control normal)
    (ingested : MuxSession.ingest intake.session control normal nowMs = some (session, p))
    (refused : (MuxStream.ingest intake.stream p).1 = false)
    (tended : Tended ⟨session, (MuxStream.ingest intake.stream p).2⟩ (handed ++ [p.sessionId])) :
    Resting ⟨session, (MuxStream.ingest intake.stream p).2⟩ (handed ++ [p.sessionId]) :=
  ⟨(refused_queue refused).trans resting.queue, consistent_ingest resting.consistent p,
    ingested_adapters resting ingested, recorded_ledger resting.ledger knock ingested, tended⟩

theorem joins_named (resting : Resting intake handed) (few : distinct handed < 2 ^ 64 - 1)
    (knock : Knock control normal) (joins : Joins intake.session session normal p nowMs i)
    (known : ¬ Opens intake.session control normal)
    (byClient : control.sessionByClient = true → normal.wireVersion ≠ 0 →
      findByClientSession intake.session normal.sessionId normal.wireVersion normal.wireForm =
        some i) : control.sessionByClient = true ∧
      (intake.session.sessions i).clientSessionId ≠ 0 ∧
      sessionOf intake.session control normal = (intake.session.sessions i).sessionId ∧
      p.sessionId = (intake.session.sessions i).sessionId ∧ p.sessionId ∈ handed ∧
      p.sessionId ≠ 0 ∧ p.sessionId.toNat ≤ distinct handed := by
  have owned : control.sessionByClient = true := by
    by_contra anonymous
    exact known (knock_opens knock anonymous)
  have found := byClient owned knock.structured
  have same : p.sessionId = (intake.session.sessions i).sessionId := by
    rw [joins.packet]
    rfl
  have member : p.sessionId ∈ handed :=
    resting.ledger.opened _ ⟨i, joins.was_active, same.symm⟩
  obtain ⟨positive, within⟩ := resting.ledger.ids few _ member
  refine ⟨owned, ?_, ?_, same, member, ?_, within⟩
  · rw [(findByClientSession_some found).2.1]
    exact (knock.owned owned).1
  · unfold sessionOf
    rw [if_pos owned, found]
  · intro zero
    rw [zero] at positive
    exact absurd positive (by decide)

/-- A packet of a client's session: the stream takes it if it tracks the session. -/
theorem knock_joins (resting : Resting intake handed) (few : distinct handed < 2 ^ 64 - 1)
    (knock : Knock control normal)
    (ingested : MuxSession.ingest intake.session control normal nowMs = some (session, p))
    (joins : Joins intake.session session normal p nowMs i)
    (known : ¬ Opens intake.session control normal)
    (byClient : control.sessionByClient = true → normal.wireVersion ≠ 0 →
      findByClientSession intake.session normal.sessionId normal.wireVersion normal.wireForm =
        some i) : ∃ after recorded,
      MuxIntake.intake intake control normal nowMs = ((MuxStream.ingest intake.stream p).1, after) ∧
      distinct recorded ≤ distinct handed + 1 ∧ Tended after recorded ∧
      Serves after recorded normal (sessionOf intake.session control normal)
        (MuxStream.ingest intake.stream p).1 := by
  obtain ⟨owned, client, session_same, sessionId, member, nonzero, within⟩ :=
    joins_named resting few knock joins known byClient
  obtain ⟨-, stream_one, message⟩ := knock.owned owned
  have counted : distinct (handed ++ [p.sessionId]) = distinct handed := distinct_known member
  have tended : Tended ⟨session, (MuxStream.ingest intake.stream p).2⟩
      (handed ++ [p.sessionId]) := by
    refine tended_ingest resting few nonzero (by omega) ?_ ?_
    · rw [occupancy_joins joins, counted]
      exact resting.tended.occupied
    · intro j active had
      refine .inl ?_
      by_cases here : j = i
      · rw [here]
        exact ⟨i, joins.was_active, client, joins.session.symm⟩
      · rw [joins.others j here] at active had ⊢
        exact ⟨j, active, had, rfl⟩
  refine ⟨_, handed ++ [p.sessionId], intake_of_ingest ingested, by omega, tended, ?_⟩
  unfold Serves
  rw [session_same, ← sessionId]
  split
  · rename_i small
    have tracked : 1 ∈ streamsOf intake.stream p.sessionId := by
      rw [sessionId] at small ⊢
      exact resting.tended.streams i joins.was_active client small
    have readable := knock_readable resting knock
    have carried : p = handedOn normal p.sessionId := by
      rw [sessionId]
      exact joins.packet
    have streamId : p.streamId = 1 := by
      rw [carried]
      exact stream_one
    obtain ⟨after, accepted, queue, left, drained, empty⟩ := @joined_served intake.stream p nonzero
      (by rw [streamId]; decide) (by rw [carried]; exact message)
      (by rw [streamId]; exact tracked) (by rw [carried]; exact knock.single)
      (by rw [carried]; exact knock.first) (by rw [carried]; exact readable) resting.queue
    have delivered : stored p =
        deliveredAs (handedOn normal p.sessionId) p.streamId p.messageId := by
      unfold deliveredAs
      rw [← carried]
    have consistent := consistent_ingest resting.consistent p
    have adapters := ingested_adapters resting ingested
    have ledger := recorded_ledger resting.ledger knock ingested
    rw [accepted] at consistent adapters ledger ⊢
    rw [delivered] at queue drained
    exact ⟨rfl, p.streamId, p.messageId, queue, ⟨left, drained, empty⟩, consistent, adapters,
      ledger⟩
  · rename_i large
    have refused := (large_refused resting few nonzero (by omega) large).1
    exact ⟨refused, refused_resting resting knock ingested refused tended⟩

/-- A packet that opens a session: the stream takes it if it is one of the first 64. -/
theorem knock_starts (resting : Resting intake handed) (few : distinct handed < 2 ^ 64 - 1)
    (knock : Knock control normal)
    (ingested : MuxSession.ingest intake.session control normal nowMs = some (session, p))
    (starts : Starts intake.session session normal p nowMs i)
    (opens : Opens intake.session control normal) : ∃ after recorded,
      MuxIntake.intake intake control normal nowMs = ((MuxStream.ingest intake.stream p).1, after) ∧
      distinct recorded ≤ distinct handed + 1 ∧ Tended after recorded ∧
      Serves after recorded normal (sessionOf intake.session control normal)
        (MuxStream.ingest intake.stream p).1 := by
  have nonzero := (started_untracked resting.ledger few starts).1
  have sessionId : p.sessionId = intake.session.nextSessionId := by
    rw [starts.packet]
    rfl
  have counter : p.sessionId.toNat = distinct handed + 1 := by
    rw [sessionId]
    exact resting.ledger.counter few
  have counted : distinct (handed ++ [p.sessionId]) = distinct handed + 1 := by
    apply distinct_new
    intro member
    have within := (resting.ledger.ids few _ member).2
    omega
  have tended : Tended ⟨session, (MuxStream.ingest intake.stream p).2⟩
      (handed ++ [p.sessionId]) := by
    refine tended_ingest resting few nonzero counter.le ?_ ?_
    · rw [counted]
      exact (occupancy_starts starts).trans (Nat.succ_le_succ resting.tended.occupied)
    · intro j active had
      by_cases here : j = i
      · rw [here] at had ⊢
        refine .inr ⟨starts.session.trans sessionId.symm, ?_⟩
        intro small
        have owned := knock.owned (starts_client starts opens ingested had)
        have accepted := (started_served resting.ledger (by omega) starts knock.single knock.first
          (knock_readable resting knock) resting.queue).1
        have stream_one : streamIdOf intake.stream p = 1 := by
          unfold streamIdOf givenStreamId
          rw [starts.packet]
          change (if normal.streamId = 0 then _ else normal.streamId) = 1
          rw [owned.2.1]
          rfl
        have member := accepted_stream nonzero accepted
        rw [stream_one] at member
        exact member
      · rw [starts.others j here] at active had ⊢
        exact .inl ⟨j, active, had, rfl⟩
  refine ⟨_, handed ++ [p.sessionId], intake_of_ingest ingested, counted.le, tended, ?_⟩
  unfold Serves
  rw [sessionOf_opens opens, ← sessionId]
  split
  · rename_i small
    obtain ⟨streamId, messageId, after, taken, holding⟩ := @intake_holds handed normal control
      intake nowMs resting.queue resting.consistent resting.adapters resting.ledger (by omega)
      knock.normalised ⟨opens, ⟨i, starts.was_free⟩⟩ knock.single knock.first knock.known
    rw [intake_of_ingest ingested] at taken
    obtain ⟨accepted, rfl⟩ := Prod.mk.inj taken
    rw [← sessionId] at holding
    exact ⟨accepted, streamId, messageId, holding⟩
  · rename_i large
    have refused := (large_refused resting few nonzero counter.le large).1
    exact ⟨refused, refused_resting resting knock ingested refused tended⟩

theorem intake_knock (resting : Resting intake handed) (few : distinct handed < 2 ^ 64 - 1)
    (knock : Knock control normal) (nowMs : UInt64) : ∃ accepted after recorded,
      MuxIntake.intake intake control normal nowMs = (accepted, after) ∧
      distinct recorded ≤ distinct handed + 1 ∧ Tended after recorded ∧
      Serves after recorded normal (sessionOf intake.session control normal) accepted := by
  obtain ⟨i, session, p, ingested, joins, known, byClient⟩ |
      ⟨i, session, p, ingested, starts, opens⟩ | ⟨refused, opens, full⟩ :=
    ingest_cases intake.session nowMs knock.normalised
  · exact ⟨_, knock_joins resting few knock ingested joins known byClient⟩
  · exact ⟨_, knock_starts resting few knock ingested starts opens⟩
  · have many := resting.tended.occupied
    rw [occupancy_full full] at many
    have counter := resting.ledger.counter few
    refine ⟨false, intake, handed, ?_, Nat.le_succ _, resting.tended, ?_⟩
    · unfold MuxIntake.intake
      rw [refused]
    · unfold Serves
      rw [sessionOf_opens opens, if_neg (by omega)]
      exact ⟨rfl, resting⟩

theorem sessionOf_le (resting : Resting intake handed) (few : distinct handed < 2 ^ 64 - 1) :
    (sessionOf intake.session control normal).toNat ≤ distinct handed + 1 := by
  unfold sessionOf
  split
  · rename_i i found
    have active : (intake.session.sessions i).active = true := by
      by_cases owned : control.sessionByClient = true
      · rw [if_pos owned] at found
        exact (findByClientSession_some found).1
      · rw [if_neg owned] at found
        cases found
    exact (resting.ledger.ids few _ (resting.ledger.opened _ ⟨i, active, rfl⟩)).2.trans
      (Nat.le_succ _)
  · exact (resting.ledger.counter few).le

end Intake

section Pump

variable {mux : MuxState} {handed : List UInt64} {env : CodecEnv} {clock : PumpClock}
  {window : Window} {datagram : Datagram} {normal : RecvPacket} {control : Control}

structure Rests (mux : MuxState) (handed : List UInt64) : Prop where
  looked : mux.ingress.contents = []
  resting : Resting mux.intake handed

theorem rests_connect (socketFd : ℤ) (policy : PolicyEnforceEncryption) :
    Rests (connectSocket socketFd policy) [] :=
  have quiet := quiet_connect socketFd policy
  ⟨quiet.looked, quiet.queue, quiet.consistent, quiet.adapters, quiet.ledger, tended_start _⟩

theorem Rests.quiet (rests : Rests mux handed) : Quiet mux handed :=
  ⟨rests.looked, rests.resting.queue, rests.resting.consistent, rests.resting.adapters,
    rests.resting.ledger⟩

theorem rests_swept (rests : Rests mux handed) (nowMs : UInt64) :
    Resting ⟨(MuxSession.expire mux.intake.session nowMs).2, mux.intake.stream⟩ handed :=
  ⟨rests.resting.queue, rests.resting.consistent, rests.resting.adapters,
    swept_ledger rests.resting.ledger nowMs, tended_swept rests.resting.tended nowMs⟩

theorem pump_nothing (rests : Rests mux handed) (env : CodecEnv) (clock : PumpClock) :
    Rests (pump env clock [] mux).1 handed := by
  have contents := ingressPump_contents rests.looked [] (Nat.zero_le 64)
  have listed := pumpIngress_list mux.policy env clock.taken (ingressPump mux.ingress [])
    (expireBoth mux.intake clock.start)
  rw [contents, swept rests.resting.queue clock] at listed
  obtain ⟨intake_eq, rest⟩ := Prod.mk.inj listed
  have resting := rests_swept rests clock.start
  have still : (MuxStream.expire mux.intake.stream clock.finish).2 = mux.intake.stream := by
    apply expire_fresh
    rw [rests.resting.queue]
    exact fun p member => absurd member (Multiset.notMem_zero p)
  have finished : (pump env clock [] mux).1.intake =
      ⟨(MuxSession.expire mux.intake.session clock.start).2, mux.intake.stream⟩ := by
    unfold pump
    dsimp only
    rw [swept rests.resting.queue clock]
    split
    · rw [intake_eq]
      dsimp only
      rw [still]
    · exact intake_eq
  refine ⟨?_, ?_⟩
  · unfold pump
    dsimp only
    rw [swept rests.resting.queue clock]
    exact (Prod.mk.inj rest).2
  · rw [finished]
    exact resting

theorem pump_unread (rests : Rests mux handed) (clock : PumpClock)
    (made : normalize mux.policy env datagram.ingress ⟨false⟩ = (none, control)) :
    Rests (pump env clock [datagram] mux).1 handed := by
  obtain ⟨quiet, same⟩ := pump_skipped rests.quiet clock made
  refine ⟨quiet.looked, ?_⟩
  rw [same]
  exact rests_swept rests clock.start

/-- The pump over one whole message. -/
theorem pump_knock (rests : Rests mux handed) (few : distinct handed < 2 ^ 64 - 1)
    (timely : Timely window clock) (received : window.Holds datagram.receivedMs)
    (made : normalize mux.policy env datagram.ingress ⟨false⟩ = (some normal, control))
    (knock : Knock control normal) : ∃ recorded, distinct recorded ≤ distinct handed + 1 ∧
      Tended (pump env clock [datagram] mux).1.intake recorded ∧
      let sessionId := sessionOf (MuxSession.expire mux.intake.session clock.start).2 control normal
      if sessionId.toNat ≤ 64 then ∃ streamId messageId, Offers (pump env clock [datagram] mux).1
        (deliveredAs (handedOn normal sessionId) streamId messageId) recorded
      else Rests (pump env clock [datagram] mux).1 recorded := by
  obtain ⟨accepted, after, recorded, taken, grows, tended, serves⟩ :=
    intake_knock (rests_swept rests clock.start) few knock (clock.taken 0)
  refine ⟨recorded, grows, ?_⟩
  unfold Serves at serves
  dsimp only at serves ⊢
  split at serves
  · rename_i small
    obtain ⟨rfl, streamId, messageId, holding⟩ := serves
    obtain ⟨same, offers⟩ := pump_holds rests.looked rests.resting.queue timely.finish made taken
      holding (by
        change window.Holds normal.receivedMs
        rw [normalize_received (congrArg Prod.fst made)]
        exact received)
    rw [if_pos small, same]
    exact ⟨tended, streamId, messageId, offers⟩
  · rename_i large
    obtain ⟨rfl, resting⟩ := serves
    have turned : (MuxInbox.take mux.policy env (clock.taken 0) ⟨false⟩
        (expireBoth mux.intake clock.start) datagram.ingress).intake = after := by
      rw [swept rests.resting.queue clock]
      unfold MuxInbox.take
      rw [made]
      dsimp only
      rw [taken]
    obtain ⟨looked, finished⟩ := pump_single rests.looked env clock datagram (by
      rw [turned, resting.queue]
      exact fun p member => absurd member (Multiset.notMem_zero p))
    rw [turned] at finished
    rw [if_neg large, finished]
    refine ⟨tended, looked, ?_⟩
    rw [finished]
    exact resting

/-- Once the packet has been handed out, the connection is at rest again. -/
theorem handed_rests {p : RecvPacket} {after : MuxState} (offers : Offers mux p handed)
    (tended : Tended mux.intake handed) (handedOut : handOut mux = some (p, after)) :
    Rests after handed := by
  obtain ⟨found, same, quiet, -⟩ := offers_handed offers
  obtain rfl : found = after :=
    (Prod.mk.inj (Option.some.inj (same.symm.trans handedOut))).2
  obtain ⟨stream, drained, -⟩ := offers.drained
  have left : (MuxInbox.drain mux).2.intake = ⟨mux.intake.session, stream⟩ := by
    unfold MuxInbox.drain
    rw [drained]
  have whole : (MuxInbox.drain mux).2 = found := congrArg Prod.snd (handOut_some handedOut)
  rw [whole] at left
  refine ⟨quiet.looked, quiet.queue, quiet.consistent, quiet.adapters, quiet.ledger, ?_⟩
  rw [left]
  rcases drain_cases mux.intake.stream true with ⟨q, again, taken, spec⟩ | ⟨taken, -⟩
  · rw [drained] at taken
    obtain ⟨-, rfl⟩ := Prod.mk.inj taken
    exact tended_tracked tended spec.sessions spec.streams
  · rw [drained] at taken
    cases (Prod.mk.inj taken).1

end Pump

end Siglatch.MuxKnocks
