import Siglatch.MuxReassembly

set_option autoImplicit false

namespace Siglatch.MuxReassemblyRuns
open MuxTypes MuxStream MuxStreamView MuxStreamOps MuxReassembly

structure Trackable (state : StreamState) (sessionId : UInt64) (streamId : UInt32) : Prop where
  session_room : trackedStreams state sessionId = none →
    (trackedSessions state).card < SESSION_TRACKER_CAPACITY
  stream_room : ∀ streams, trackedStreams state sessionId = some streams →
    streamId ∈ streams ∨ streams.card < TRACKER_CAPACITY

/-- Nothing of the message is here yet, its stream has no message in flight, and there is room. -/
structure Waiting (msg : Message) (state : StreamState) : Prop where
  trackable : Trackable state msg.sessionId msg.streamId
  idle : ∀ t, tracker state msg.sessionId msg.streamId = some t → t.messageId = 0
  absent : ∀ q ∈ queued state, ¬ msg.Owns q
  room : (queued state).card + msg.count ≤ READY_QUEUE_CAPACITY

section Ingest

variable {msg : Message} {state : StreamState}

theorem findSessionTracker_room {sessionId : UInt64} (hs : sessionId ≠ 0)
    (hroom : trackedStreams state sessionId = none →
      (trackedSessions state).card < SESSION_TRACKER_CAPACITY) :
    ∃ i state', findSessionTracker state sessionId true = (some i, state') ∧
      SlotTable.contents MessageTracker.key (state'.sessionTrackers i).streamTrackers =
        (trackedStreams state sessionId).getD 0 := by
  obtain ⟨i, hl, ha⟩ | ⟨i, hl, -, ha⟩ | ⟨hl, hfull, -⟩ := SlotTable.acquire_cases SessionTracker.key
    (.fresh sessionId) state.sessionTrackers sessionId
  · refine ⟨i, { state with sessionTrackers := state.sessionTrackers }, ?_, ?_⟩
    · unfold findSessionTracker
      rw [if_neg hs, if_pos rfl, ha]
    · rw [trackedStreams, sessionAt_of_lookup hl]
      rfl
  · refine ⟨i, { state with
      sessionTrackers := Function.update state.sessionTrackers i (.fresh sessionId) }, ?_, ?_⟩
    · unfold findSessionTracker
      rw [if_neg hs, if_pos rfl, ha]
    · have hnone : sessionAt state sessionId = none :=
        sessionAt_none_iff.mpr (SlotTable.lookup_none_iff.mp hl)
      rw [trackedStreams, hnone]
      simp only [Function.update_self]
      exact SlotTable.contents_empty fun _ => rfl
  · have hnone : sessionAt state sessionId = none :=
      sessionAt_none_iff.mpr (SlotTable.lookup_none_iff.mp hl)
    have hlt := hroom (by rw [trackedStreams, hnone]; rfl)
    change (trackedSessions state).card = SESSION_TRACKER_CAPACITY at hfull
    omega

theorem assignIds_room {normal : RecvPacket} (hs : normal.sessionId ≠ 0)
    (hst : normal.streamId ≠ 0) (h : Trackable state normal.sessionId normal.streamId) :
    ∃ a state', assignIds state normal = (some a, state') := by
  obtain ⟨i, state1, hfind, hcontents⟩ := findSessionTracker_room hs h.session_room
  unfold assignIds
  rw [if_neg hs, hfind]
  simp only
  split
  · rename_i hnone
    obtain ⟨-, htrackers⟩ := assignStreamId_session (state1.sessionTrackers i) normal
    obtain ⟨-, hz | ⟨huntracked, hfull⟩⟩ := findMessageTracker_create_none hnone
    · rw [(assignStreamId_packet (state1.sessionTrackers i) normal).2 hst] at hz
      exact absurd hz hst
    · rw [(assignStreamId_packet (state1.sessionTrackers i) normal).2 hst] at huntracked
      have hout := SlotTable.entry_none_iff.mp huntracked
      rw [htrackers, hcontents] at hout hfull
      cases htracked : trackedStreams state normal.sessionId with
      | none =>
        rw [htracked] at hfull
        contradiction
      | some streams =>
        rw [htracked] at hout hfull
        obtain hin | hlt := h.stream_room streams htracked
        · exact absurd hin hout
        · change streams.card = TRACKER_CAPACITY at hfull
          omega
  · exact ⟨_, _, rfl⟩

/-- The first fragment to arrive claims the stream for its message. -/
theorem ingest_first (h : Waiting msg state) (i : Fin msg.count) :
    ∃ state', ingest state (msg.fragment i) = (true, state') ∧
      state'.adapterLib = state.adapterLib ∧ queued state' = msg.held i ::ₘ queued state ∧
      Reassembling msg state' {i} 0 := by
  have hs : (msg.fragment i).sessionId ≠ 0 := by rw [msg.session]; exact msg.session_ne
  have hst : (msg.fragment i).streamId ≠ 0 := by rw [msg.stream]; exact msg.stream_ne
  have hm : (msg.fragment i).messageId ≠ 0 := by rw [msg.message]; exact msg.message_ne
  have htrackable := h.trackable
  rw [← msg.session i, ← msg.stream i] at htrackable
  obtain ⟨a, state1, hassign⟩ := assignIds_room hs hst htrackable
  have hspec := assignIds_some hassign
  have hpacket := assigned_explicit hspec hst hm
  obtain ⟨id, hoffered⟩ := hspec.here
  have hidle : (offered state1 a).messageId = 0 := by
    unfold offered
    rw [hoffered, hpacket]
    cases htracker : tracker state (msg.fragment i).sessionId (msg.fragment i).streamId with
    | none => rfl
    | some t =>
      rw [msg.session, msg.stream] at htracker
      exact h.idle t htracker
  have hbegin := @begin_idle (offered state1 a) _ (msg.fragment_not_singular i) hm hidle
  rw [← hpacket] at hbegin
  have hfree : ∀ q ∈ queued state, fragmentKey q ≠ fragmentKey (msg.fragment i) := by
    intro q hq hkey
    have hparts : q.sessionId = msg.sessionId ∧ q.streamId = msg.streamId ∧
        q.messageId = msg.messageId ∧ q.fragmentIndex = (msg.fragment i).fragmentIndex := by
      simpa [fragmentKey, msg.session i, msg.stream i, msg.message i] using hkey
    exact h.absent q hq ⟨hparts.1, hparts.2.1, hparts.2.2.1⟩
  have hroom := h.room
  have hmany := msg.many
  obtain ⟨state', hin, hlib, hqueue, htracker⟩ := ingest_accepted hassign hpacket hs hbegin hfree
    (by omega)
  refine ⟨state', hin, hlib, hqueue, ?_⟩
  rw [msg.session, msg.stream] at htracker
  rw [hpacket] at htracker
  have hnone : (queued state).filter msg.Owns = 0 := Multiset.filter_eq_nil.mpr h.absent
  apply reassembling_insert (Finset.notMem_empty i) (Nat.zero_le _) _ hnone _ hqueue htracker
    (msg.message i) rfl (msg.total i)
  · intro j hj
    exact absurd hj (Nat.not_lt_zero _)
  · exact hroom

end Ingest

section Waiting

variable {msg : Message} {state state' : StreamState}

theorem Trackable.of_same {sessionId : UInt64} {streamId : UInt32}
    (h : Trackable state sessionId streamId)
    (hstreams : trackedStreams state' sessionId = trackedStreams state sessionId)
    (hsessions : trackedSessions state' = trackedSessions state) :
    Trackable state' sessionId streamId := by
  refine ⟨?_, ?_⟩
  · rw [hstreams, hsessions]
    exact h.session_room
  · rw [hstreams]
    exact h.stream_room

theorem drain_waiting (h : Waiting msg state) (callerUser : Bool) :
    (∃ p state', ¬ msg.Owns p ∧ drain state callerUser = (some p, state') ∧
      state'.adapterLib = state.adapterLib ∧ queued state = p ::ₘ queued state' ∧
      Waiting msg state') ∨
    drain state callerUser = (none, state) := by
  obtain ⟨p, state', hdrain, hd⟩ | ⟨hnone, -⟩ := drain_cases state callerUser
  · have hmem : p ∈ queued state := by rw [hd.queue]; exact Multiset.mem_cons_self p _
    refine .inl ⟨p, state', h.absent p hmem, hdrain, hd.adapters, hd.queue, ?_⟩
    refine ⟨h.trackable.of_same (hd.streams _) hd.sessions, ?_, ?_, ?_⟩
    · intro t' ht'
      by_cases hon : msg.sessionId = p.sessionId ∧ msg.streamId = p.streamId
      · rw [hon.1, hon.2, hd.here] at ht'
        obtain ⟨t, ht, rfl⟩ := Option.map_eq_some_iff.mp ht'
        have hidle := ht
        rw [← hon.1, ← hon.2] at hidle
        have hzero := h.idle t hidle
        -- A fragment is only drained from a stream with a message in flight.
        by_cases hsing : Singular p
        · rw [stepped, if_pos hsing]
          exact hzero
        · obtain ⟨-, -, t2, ht2, hne, -⟩ := (packetIsDeliverable_fragment hsing).mp hd.deliverable
          rw [ht] at ht2
          obtain rfl := Option.some.inj ht2
          exact absurd hzero hne
      · rw [hd.elsewhere _ _ hon] at ht'
        exact h.idle t' ht'
    · intro q hq
      apply h.absent q
      rw [hd.queue]
      exact Multiset.mem_cons_of_mem hq
    · have hroom := h.room
      rw [hd.queue, Multiset.card_cons] at hroom
      omega
  · exact .inr hnone

theorem expire_waiting (h : Waiting msg state) (nowMs : UInt64) :
    Waiting msg (expire state nowMs).2 := by
  have hframe := expire_frame state nowMs
  refine ⟨h.trackable.of_same (hframe.trackedStreams _) hframe.trackedSessions, ?_, ?_, ?_⟩
  · rw [hframe.tracker]
    exact h.idle
  · intro q hq
    exact h.absent q (Multiset.mem_of_le (expire_queued_le state nowMs) hq)
  · have fewer := Multiset.card_le_card (expire_queued_le state nowMs)
    exact (Nat.add_le_add_right fewer _).trans h.room

theorem expire_reassembling {arrived : Finset (Fin msg.count)} {next : ℕ}
    (h : Reassembling msg state arrived next) {nowMs : UInt64}
    (hfresh : ∀ i, isExpired (msg.held i) nowMs = false) :
    Reassembling msg (expire state nowMs).2 arrived next := by
  have hframe := expire_frame state nowMs
  refine ⟨h.next_le, h.returned, ?_, ?_, ?_, ?_⟩
  · rw [expire_queued, Multiset.filter_filter, ← h.queue]
    apply Multiset.filter_congr
    intro q hq
    constructor
    · exact And.left
    · intro howns
      obtain ⟨i, -, -, rfl⟩ := owned_held h hq howns
      exact ⟨howns, hfresh i⟩
  · have fewer := Multiset.card_le_card (expire_queued_le state nowMs)
    exact (Nat.add_le_add_right fewer _).trans h.room
  · rw [hframe.tracker]
    exact h.idle
  · rw [hframe.tracker]
    exact h.busy

end Waiting

section Incoming

variable {msg : Message} {state : StreamState} {arrived : Finset (Fin msg.count)} {next : ℕ}

/-- The message from before its first fragment arrives until it is drained. -/
structure Incoming (msg : Message) (state : StreamState) (arrived : Finset (Fin msg.count))
    (next : ℕ) : Prop where
  stage : arrived = ∅ ∧ next = 0 ∧ Waiting msg state ∨ Reassembling msg state arrived next
  readable : ∀ q ∈ queued state, Readable state true q

def rest (msg : Message) (next : ℕ) : List RecvPacket :=
  ((List.finRange msg.count).drop next).map msg.held

theorem rest_next (i : Fin msg.count) : rest msg i.val = msg.held i :: rest msg (i.val + 1) := by
  unfold rest
  rw [List.drop_eq_getElem_cons (by simp)]
  simp

theorem rest_done : rest msg msg.count = [] := by
  unfold rest
  rw [List.drop_eq_nil_of_le (by simp)]
  rfl

theorem readable_of_adapters {state' : StreamState} {p : RecvPacket}
    (hlib : state'.adapterLib = state.adapterLib) (h : Readable state true p) :
    Readable state' true p := by
  intro huser
  have hcopy := h huser
  unfold copyUser at hcopy ⊢
  rwa [hlib]

theorem incoming_ingest (h : Incoming msg state arrived next) {i : Fin msg.count}
    (hi : i ∉ arrived) (hread : Readable state true (msg.held i)) :
    ∃ state', ingest state (msg.fragment i) = (true, state') ∧
      state'.adapterLib = state.adapterLib ∧ Incoming msg state' (insert i arrived) next := by
  have haccepted : ∃ state', ingest state (msg.fragment i) = (true, state') ∧
      state'.adapterLib = state.adapterLib ∧ queued state' = msg.held i ::ₘ queued state ∧
      Reassembling msg state' (insert i arrived) next := by
    rcases h.stage with ⟨rfl, rfl, hwaiting⟩ | hre
    · exact ingest_first hwaiting i
    · exact ingest_fragment hre hi
  obtain ⟨state', hin, hlib, hqueue, hre⟩ := haccepted
  refine ⟨state', hin, hlib, .inr hre, ?_⟩
  intro q hq
  rw [hqueue] at hq
  rcases Multiset.mem_cons.mp hq with rfl | hq
  · exact readable_of_adapters hlib hread
  · exact readable_of_adapters hlib (h.readable q hq)

/-- A drain hands out the next fragment of the message or leaves the message as it is. -/
theorem incoming_drain (h : Incoming msg state arrived next) :
    ∃ next', Incoming msg (drain state true).2 arrived next' ∧
      (drain state true).1.toList.filter msg.Owns ++ rest msg next' = rest msg next := by
  have hquiet {p : RecvPacket} {state' : StreamState} (howns : ¬ msg.Owns p)
      (hdrain : drain state true = (some p, state'))
      (hlib : state'.adapterLib = state.adapterLib)
      (hqueue : queued state = p ::ₘ queued state')
      (hstage : arrived = ∅ ∧ next = 0 ∧ Waiting msg state' ∨
        Reassembling msg state' arrived next) :
      ∃ next', Incoming msg (drain state true).2 arrived next' ∧
        (drain state true).1.toList.filter msg.Owns ++ rest msg next' = rest msg next := by
    refine ⟨next, ?_, ?_⟩
    · rw [hdrain]
      refine ⟨hstage, ?_⟩
      intro q hq
      apply readable_of_adapters hlib (h.readable q _)
      rw [hqueue]
      exact Multiset.mem_cons_of_mem hq
    · rw [hdrain]
      simp [howns]
  have hnothing (hnone : drain state true = (none, state)) :
      ∃ next', Incoming msg (drain state true).2 arrived next' ∧
        (drain state true).1.toList.filter msg.Owns ++ rest msg next' = rest msg next := by
    rw [hnone]
    exact ⟨next, h, rfl⟩
  rcases h.stage with ⟨hempty, hzero, hwaiting⟩ | hre
  · obtain ⟨p, state', howns, hdrain, hlib, hqueue, hafter⟩ | hnone := drain_waiting hwaiting true
    · exact hquiet howns hdrain hlib hqueue (.inl ⟨hempty, hzero, hafter⟩)
    · exact hnothing hnone
  · obtain ⟨i, state', rfl, hdrain, hlib, hqueue, hafter⟩ |
        ⟨p, state', howns, hdrain, hlib, hqueue, hafter⟩ | hnone := drain_reassembling hre true
    · refine ⟨i.val + 1, ?_, ?_⟩
      · rw [hdrain]
        refine ⟨.inr hafter, ?_⟩
        intro q hq
        apply readable_of_adapters hlib (h.readable q _)
        rw [hqueue]
        exact Multiset.mem_cons_of_mem hq
      · rw [hdrain, rest_next i]
        simp [msg.owns_held i]
    · exact hquiet howns hdrain hlib hqueue (.inr hafter)
    · exact hnothing hnone

theorem incoming_expire (h : Incoming msg state arrived next) {nowMs : UInt64}
    (hfresh : ∀ i, isExpired (msg.held i) nowMs = false) :
    Incoming msg (expire state nowMs).2 arrived next := by
  refine ⟨?_, ?_⟩
  · rcases h.stage with ⟨hempty, hzero, hwaiting⟩ | hre
    · exact .inl ⟨hempty, hzero, expire_waiting hwaiting nowMs⟩
    · exact .inr (expire_reassembling hre hfresh)
  · intro q hq
    exact h.readable q (Multiset.mem_of_le (expire_queued_le state nowMs) hq)

theorem incoming_done (h : Incoming msg state Finset.univ next)
    (hnone : drain state true = (none, state)) : next = msg.count := by
  have hmany := msg.many
  rcases h.stage with ⟨hempty, -, -⟩ | hre
  · have hfirst := Finset.mem_univ (⟨0, by omega⟩ : Fin msg.count)
    rw [hempty] at hfirst
    exact absurd hfirst (Finset.notMem_empty _)
  · by_contra hne
    have hlt := lt_of_le_of_ne hre.next_le hne
    exact drain_none_missing hre h.readable hnone hlt (Finset.mem_univ _)

end Incoming

end Siglatch.MuxReassemblyRuns
