import Siglatch.MuxStreamView

set_option autoImplicit false

namespace Siglatch.MuxStreamOps
open MuxTypes MuxStream MuxStreamView

/-! What each stream operation does to the queued packets and to the trackers. -/

abbrev FragmentKey := UInt64 × UInt32 × UInt64 × UInt32

def fragmentKey (p : RecvPacket) : FragmentKey :=
  (p.sessionId, p.streamId, p.messageId, p.fragmentIndex)

def stored (p : RecvPacket) : RecvPacket := { p with complete := finalFragment p }

@[simp] theorem fragmentKey_stored (p : RecvPacket) : fragmentKey (stored p) = fragmentKey p := rfl

theorem sameFragment_iff {p slot : RecvPacket} :
    sameFragment p slot = true ↔ fragmentKey slot = fragmentKey p := by
  simp [sameFragment, fragmentKey, and_assoc]

/-- The state changes in its queue and queue counter only. -/
def SameTrackers (state state' : StreamState) : Prop :=
  state'.sessionTrackers = state.sessionTrackers ∧ state'.adapterLib = state.adapterLib

theorem SameTrackers.tracker {state state' : StreamState} (h : SameTrackers state state')
    (sessionId : UInt64) (streamId : UInt32) :
    MuxStreamView.tracker state' sessionId streamId =
      MuxStreamView.tracker state sessionId streamId := by
  unfold MuxStreamView.tracker sessionAt
  rw [h.1]

theorem SameTrackers.trackedStreams {state state' : StreamState} (h : SameTrackers state state')
    (sessionId : UInt64) :
    MuxStreamView.trackedStreams state' sessionId =
      MuxStreamView.trackedStreams state sessionId := by
  unfold MuxStreamView.trackedStreams sessionAt
  rw [h.1]

theorem SameTrackers.trackedSessions {state state' : StreamState} (h : SameTrackers state state') :
    MuxStreamView.trackedSessions state' = MuxStreamView.trackedSessions state := by
  unfold MuxStreamView.trackedSessions
  rw [h.1]

section Queue

theorem storePacket_queued {state : StreamState} {i : Fin READY_QUEUE_CAPACITY} {p : RecvPacket}
    (hi : (state.readyQueue i).sessionId = 0) (hp : p.sessionId ≠ 0) :
    queued (storePacket state i p) = stored p ::ₘ queued state := by
  have hfree : occupied (state.readyQueue i) = none := occupied_eq_none.mpr hi
  have hnew : occupied (stored p) = some (stored p) := occupied_eq_some.mpr ⟨rfl, hp⟩
  exact SlotTable.contents_fill hfree hnew

theorem storePacket_trackers (state : StreamState) (i : Fin READY_QUEUE_CAPACITY)
    (p : RecvPacket) : SameTrackers state (storePacket state i p) := ⟨rfl, rfl⟩

theorem queued_full_iff {state : StreamState} :
    (SlotTable.find? state.readyQueue fun slot => slot.sessionId == 0) = none ↔
      (queued state).card = READY_QUEUE_CAPACITY := by
  have hle := queued_card_le state
  have hfree := SlotTable.free_iff (f := occupied) state.readyQueue
  rw [SlotTable.find?_none_iff]
  constructor
  · intro h
    by_contra hne
    have hlt : (SlotTable.contents occupied state.readyQueue).card < READY_QUEUE_CAPACITY :=
      Nat.lt_of_le_of_ne hle hne
    obtain ⟨i, hi⟩ := hfree.mpr hlt
    have hz := h i
    rw [occupied_eq_none] at hi
    simp [hi] at hz
  · intro h i
    by_contra hz
    have hi : (state.readyQueue i).sessionId = 0 := by simpa using hz
    have hlt := hfree.mp ⟨i, occupied_eq_none.mpr hi⟩
    change (queued state).card < READY_QUEUE_CAPACITY at hlt
    omega

/-- Queueing adds the packet, or refuses a duplicate or an overflow and changes nothing. -/
theorem queuePacket_cases (state : StreamState) {p : RecvPacket} (hp : p.sessionId ≠ 0) :
    ((queuePacket state p).1 = true ∧ (∀ q ∈ queued state, fragmentKey q ≠ fragmentKey p) ∧
      (queued state).card < READY_QUEUE_CAPACITY ∧
      queued (queuePacket state p).2 = stored p ::ₘ queued state ∧
      SameTrackers state (queuePacket state p).2) ∨
    (queuePacket state p = (false, state) ∧
      ((∃ q ∈ queued state, fragmentKey q = fragmentKey p) ∨
        (queued state).card = READY_QUEUE_CAPACITY)) := by
  unfold queuePacket
  cases hf : SlotTable.find? state.readyQueue (sameFragment p) with
  | some i =>
    have hkey : fragmentKey (state.readyQueue i) = fragmentKey p :=
      sameFragment_iff.mp (SlotTable.find?_holds hf)
    have hi : (state.readyQueue i).sessionId ≠ 0 := by
      have hs : (state.readyQueue i).sessionId = p.sessionId := congrArg Prod.fst hkey
      rwa [hs]
    refine .inr ⟨by simp [hi], .inl ⟨state.readyQueue i, ?_, hkey⟩⟩
    exact queued_mem.mpr ⟨hi, i, rfl⟩
  | none =>
    have hnone : ∀ q ∈ queued state, fragmentKey q ≠ fragmentKey p := by
      intro q hq he
      obtain ⟨-, i, rfl⟩ := queued_mem.mp hq
      have hno := SlotTable.find?_none_iff.mp hf i
      rw [sameFragment_iff.mpr he] at hno
      simp at hno
    cases hz : SlotTable.find? state.readyQueue fun slot => slot.sessionId == 0 with
    | none => exact .inr ⟨rfl, .inr (queued_full_iff.mp hz)⟩
    | some i =>
      have hi : (state.readyQueue i).sessionId = 0 := by
        have hb : ((state.readyQueue i).sessionId == 0) = true := SlotTable.find?_holds hz
        simpa using hb
      refine .inl ⟨rfl, hnone, ?_, storePacket_queued hi hp, storePacket_trackers state i p⟩
      exact (SlotTable.free_iff (f := occupied) state.readyQueue).mp ⟨i, occupied_eq_none.mpr hi⟩

theorem queued_of_readyQueue {state state' : StreamState}
    (h : state'.readyQueue = state.readyQueue) : queued state' = queued state := by
  unfold queued
  rw [h]

end Queue

section Ids

theorem assignStreamId_session (session : SessionTracker) (p : RecvPacket) :
    (assignStreamId session p).2.key = session.key ∧
    (assignStreamId session p).2.streamTrackers = session.streamTrackers := by
  unfold assignStreamId
  split
  · exact ⟨rfl, rfl⟩
  · split
    · exact ⟨rfl, rfl⟩
    · exact ⟨rfl, rfl⟩

theorem assignStreamId_packet (session : SessionTracker) (p : RecvPacket) :
    (assignStreamId session p).1 = { p with streamId := (assignStreamId session p).1.streamId } ∧
    (p.streamId ≠ 0 → (assignStreamId session p).1.streamId = p.streamId) := by
  unfold assignStreamId
  split
  · rename_i h
    exact ⟨rfl, fun hp => absurd h hp⟩
  · split
    · exact ⟨rfl, fun _ => rfl⟩
    · exact ⟨rfl, fun _ => rfl⟩

theorem assignMessageId_tracker (t : MessageTracker) (p : RecvPacket) :
    (assignMessageId t p).2 =
      { t with nextMessageId := (assignMessageId t p).2.nextMessageId } := by
  unfold assignMessageId
  split
  · rfl
  · split
    · rfl
    · rfl

theorem assignMessageId_packet (t : MessageTracker) (p : RecvPacket) :
    (assignMessageId t p).1 = { p with messageId := (assignMessageId t p).1.messageId } ∧
    (p.messageId ≠ 0 → (assignMessageId t p).1.messageId = p.messageId) := by
  unfold assignMessageId
  split
  · rename_i h
    exact ⟨rfl, fun hp => absurd h hp⟩
  · split
    · exact ⟨rfl, fun _ => rfl⟩
    · exact ⟨rfl, fun _ => rfl⟩

theorem assignMessageId_fresh (streamId : UInt32) (p : RecvPacket) :
    (assignMessageId (.fresh streamId) p).1.messageId ≠ 0 := by
  unfold assignMessageId
  split
  · change (1 : UInt64) ≠ 0
    decide
  · rename_i h
    split
    · exact h
    · exact h

theorem findSessionTracker_create {state state' : StreamState} {sessionId : UInt64}
    {i : Fin SESSION_TRACKER_CAPACITY}
    (h : findSessionTracker state sessionId true = (some i, state')) :
    sessionId ≠ 0 ∧ state'.readyQueue = state.readyQueue ∧
    state'.adapterLib = state.adapterLib ∧
    SlotTable.lookup SessionTracker.key state'.sessionTrackers sessionId = some i ∧
    ∀ sessionId' streamId,
      tracker state' sessionId' streamId = tracker state sessionId' streamId := by
  unfold findSessionTracker at h
  split at h
  · simp at h
  · rename_i hs
    simp only [if_true] at h
    obtain ⟨hfound, hstate⟩ := Prod.mk.inj h
    have htable : state'.sessionTrackers = (SlotTable.acquire SessionTracker.key
        (.fresh sessionId) state.sessionTrackers sessionId).2 := by rw [← hstate]
    have ha : SlotTable.acquire SessionTracker.key (.fresh sessionId) state.sessionTrackers
        sessionId = (some i, state'.sessionTrackers) := Prod.ext hfound htable.symm
    obtain ⟨hl, hval, hne⟩ := SlotTable.acquire_some (session_key_fresh sessionId) ha
    refine ⟨hs, by rw [← hstate], by rw [← hstate], hl, ?_⟩
    intro sessionId' streamId
    by_cases he : sessionId' = sessionId
    · rw [he, tracker_of_sessionAt (sessionAt_of_lookup hl), hval]
      change trackerAt ((sessionAt state sessionId).getD _) streamId = _
      cases hsession : sessionAt state sessionId with
      | none =>
        rw [tracker_none_of_untracked hsession]
        exact trackerAt_fresh sessionId streamId
      | some session =>
        rw [tracker_of_sessionAt hsession]
        rfl
    · exact congrArg (fun s => Option.bind s fun session => trackerAt session streamId)
        (hne sessionId' he)

theorem findSessionTracker_create_none {state state' : StreamState} {sessionId : UInt64}
    (h : findSessionTracker state sessionId true = (none, state')) :
    state' = state ∧ (sessionId = 0 ∨ sessionId ∉ trackedSessions state ∧
      (trackedSessions state).card = SESSION_TRACKER_CAPACITY) := by
  unfold findSessionTracker at h
  split at h
  · rename_i hs
    exact ⟨(Prod.mk.inj h).2.symm, .inl hs⟩
  · simp only [if_true] at h
    obtain ⟨hfound, rfl⟩ := Prod.mk.inj h
    obtain ⟨i, -, ha⟩ | ⟨i, -, -, ha⟩ | ⟨-, -, ha⟩ := SlotTable.acquire_cases SessionTracker.key
      (.fresh sessionId) state.sessionTrackers sessionId
    · rw [ha] at hfound; simp at hfound
    · rw [ha] at hfound; simp at hfound
    · refine ⟨by rw [ha], .inr (SlotTable.acquire_none_iff.mp hfound)⟩

theorem findSessionTracker_tracked (state : StreamState) {sessionId : UInt64}
    (hs : sessionId ≠ 0) :
    trackedSessions (findSessionTracker state sessionId true).2 =
      if sessionId ∈ trackedSessions state then trackedSessions state
      else if (trackedSessions state).card = SESSION_TRACKER_CAPACITY then trackedSessions state
      else sessionId ::ₘ trackedSessions state := by
  unfold findSessionTracker
  rw [if_neg hs, if_pos rfl]
  exact SlotTable.acquire_contents (session_key_fresh sessionId)

theorem findMessageTracker_create {session session' : SessionTracker} {streamId : UInt32}
    {j : Fin TRACKER_CAPACITY}
    (h : findMessageTracker session streamId true = (some j, session')) :
    streamId ≠ 0 ∧ session'.key = session.key ∧
    SlotTable.lookup MessageTracker.key session'.streamTrackers streamId = some j ∧
    session'.streamTrackers j = (trackerAt session streamId).getD (.fresh streamId) ∧
    ∀ streamId', streamId' ≠ streamId →
      trackerAt session' streamId' = trackerAt session streamId' := by
  unfold findMessageTracker at h
  split at h
  · simp at h
  · rename_i hs
    simp only [if_true] at h
    obtain ⟨hfound, rfl⟩ := Prod.mk.inj h
    have ha : SlotTable.acquire MessageTracker.key (.fresh streamId) session.streamTrackers
        streamId = (some j, (SlotTable.acquire MessageTracker.key (.fresh streamId)
          session.streamTrackers streamId).2) := Prod.ext hfound rfl
    obtain ⟨hl, hval, hne⟩ := SlotTable.acquire_some (message_key_fresh streamId) ha
    exact ⟨hs, rfl, hl, hval, hne⟩

theorem findMessageTracker_create_none {session session' : SessionTracker} {streamId : UInt32}
    (h : findMessageTracker session streamId true = (none, session')) :
    session' = session ∧ (streamId = 0 ∨ trackerAt session streamId = none ∧
      (SlotTable.contents MessageTracker.key session.streamTrackers).card = TRACKER_CAPACITY) := by
  unfold findMessageTracker at h
  split at h
  · rename_i hs
    exact ⟨(Prod.mk.inj h).2.symm, .inl hs⟩
  · simp only [if_true] at h
    obtain ⟨hfound, rfl⟩ := Prod.mk.inj h
    obtain ⟨i, -, ha⟩ | ⟨i, -, -, ha⟩ | ⟨-, -, ha⟩ := SlotTable.acquire_cases MessageTracker.key
      (.fresh streamId) session.streamTrackers streamId
    · rw [ha] at hfound; simp at hfound
    · rw [ha] at hfound; simp at hfound
    · refine ⟨by rw [ha], .inr ?_⟩
      have hno := SlotTable.acquire_none_iff.mp hfound
      exact ⟨SlotTable.entry_none_iff.mpr hno.1, hno.2⟩

end Ids

section Assign

/-- What giving a packet its ids does: the trackers it names exist afterwards, only the
    named stream's next message id may have moved, and the queue is untouched. -/
structure AssignedTo (state state' : StreamState) (normal : RecvPacket) (a : Assigned) :
    Prop where
  queue : state'.readyQueue = state.readyQueue
  adapters : state'.adapterLib = state.adapterLib
  session_ne : normal.sessionId ≠ 0
  stream_ne : a.packet.streamId ≠ 0
  packet : a.packet =
    { normal with streamId := a.packet.streamId, messageId := a.packet.messageId }
  stream : normal.streamId ≠ 0 → a.packet.streamId = normal.streamId
  message : normal.messageId ≠ 0 → a.packet.messageId = normal.messageId
  session_slot :
    SlotTable.lookup SessionTracker.key state'.sessionTrackers normal.sessionId = some a.session
  tracker_slot : SlotTable.lookup MessageTracker.key
    (state'.sessionTrackers a.session).streamTrackers a.packet.streamId = some a.tracker
  message_ne : tracker state normal.sessionId a.packet.streamId = none → a.packet.messageId ≠ 0
  here : ∃ next, (state'.sessionTrackers a.session).streamTrackers a.tracker =
    { (tracker state normal.sessionId a.packet.streamId).getD (.fresh a.packet.streamId) with
      nextMessageId := next }
  elsewhere : ∀ sessionId streamId,
    ¬ (sessionId = normal.sessionId ∧ streamId = a.packet.streamId) →
      tracker state' sessionId streamId = tracker state sessionId streamId

theorem AssignedTo.session {state state' : StreamState} {normal : RecvPacket} {a : Assigned}
    (h : AssignedTo state state' normal a) : a.packet.sessionId = normal.sessionId := by
  rw [h.packet]

/-- The stages of giving a packet its ids, each on what the one before it left. -/
theorem assignIds_stages {state state' : StreamState} {normal : RecvPacket} {a : Assigned}
    (h : assignIds state normal = (some a, state')) :
    ∃ found packet session session' t,
      findSessionTracker state normal.sessionId true = (some a.session, found) ∧
      assignStreamId (found.sessionTrackers a.session) normal = (packet, session) ∧
      findMessageTracker session packet.streamId true = (some a.tracker, session') ∧
      assignMessageId (session'.streamTrackers a.tracker) packet = (a.packet, t) ∧
      state' = found.setSession a.session (session'.setTracker a.tracker t) := by
  unfold assignIds at h
  split at h
  · simp at h
  split at h
  · simp at h
  rename_i _ i found hfound
  split at h
  rename_i _ packet session hstream
  split at h
  · simp at h
  rename_i _ j session' htracker
  split at h
  rename_i _ packet' t hmessage
  obtain ⟨ha, rfl⟩ := Prod.mk.inj h
  obtain rfl := Option.some.inj ha
  exact ⟨found, packet, session, session', t, hfound, hstream, htracker, hmessage, rfl⟩

theorem assigned_packet {session session' : SessionTracker} {t t' : MessageTracker}
    {normal packet packet' : RecvPacket}
    (hstream : assignStreamId session normal = (packet, session'))
    (hmessage : assignMessageId t packet = (packet', t')) :
    packet'.streamId = packet.streamId ∧
    packet' = { normal with streamId := packet'.streamId, messageId := packet'.messageId } ∧
    (normal.streamId ≠ 0 → packet'.streamId = normal.streamId) ∧
    (normal.messageId ≠ 0 → packet'.messageId = normal.messageId) := by
  obtain ⟨hpacket, hkept⟩ := assignStreamId_packet session normal
  obtain ⟨hpacket', hkept'⟩ := assignMessageId_packet t packet
  rw [hstream] at hpacket hkept
  rw [hmessage] at hpacket' hkept'
  dsimp only at hpacket hkept hpacket' hkept'
  have hsame : packet'.streamId = packet.streamId := by rw [hpacket']
  have hcarried : packet.messageId = normal.messageId := by rw [hpacket]
  refine ⟨hsame, ?_, fun hp => hsame.trans (hkept hp), fun hp => ?_⟩
  · rw [hpacket', hpacket]
  · rw [← hcarried] at hp ⊢
    exact hkept' hp

theorem assignIds_some {state state' : StreamState} {normal : RecvPacket} {a : Assigned}
    (h : assignIds state normal = (some a, state')) : AssignedTo state state' normal a := by
  obtain ⟨state1, packet1, session1, session2, t, hfind, hassign, hfind2, hassign2, rfl⟩ :=
    assignIds_stages h
  obtain ⟨hs, hqueue, hadapters, hslot, htracker⟩ := findSessionTracker_create hfind
  obtain ⟨ht, hkey2, htslot, hval, helse⟩ := findMessageTracker_create hfind2
  obtain ⟨hkey1, htrackers1⟩ := assignStreamId_session (state1.sessionTrackers a.session) normal
  have hmt := assignMessageId_tracker (session2.streamTrackers a.tracker) packet1
  obtain ⟨hstream2, hpacket, hstream, hmessage⟩ := assigned_packet hassign hassign2
  rw [hassign] at hkey1 htrackers1
  rw [hassign2] at hmt
  dsimp only at hkey1 htrackers1 hmt
  have hkey3 : (session2.setTracker a.tracker t).key = some normal.sessionId := by
    change session2.key = _
    rw [hkey2, hkey1]
    exact SlotTable.lookup_key hslot
  have hmkey : t.key = some packet1.streamId := by
    rw [hmt]
    exact SlotTable.lookup_key htslot
  have hview : ∀ streamId,
      trackerAt session1 streamId = tracker state normal.sessionId streamId := by
    intro streamId
    rw [← htracker, tracker_of_sessionAt (sessionAt_of_lookup hslot)]
    unfold trackerAt
    rw [htrackers1]
  obtain ⟨hsession, htracked, hwritten⟩ := setSession_setTracker_found hslot hkey3 htslot hmkey
  rw [← hstream2] at ht htracked hval helse hmkey htslot
  refine ⟨hqueue, hadapters, hs, ht, hpacket, hstream, hmessage, hsession, htracked, ?_, ?_, ?_⟩
  · intro hnone
    rw [← hview] at hnone
    rw [hnone] at hval
    have hfresh : session2.streamTrackers a.tracker = .fresh a.packet.streamId := hval
    have hid := assignMessageId_fresh a.packet.streamId packet1
    rw [← hfresh, hassign2] at hid
    exact hid
  · refine ⟨t.nextMessageId, ?_⟩
    rw [hwritten, ← hview, ← hval]
    exact hmt
  · intro sessionId streamId hne
    rw [tracker_setSession hslot hkey3, ← htracker]
    split
    · rename_i he
      have hst : streamId ≠ a.packet.streamId := fun e => hne ⟨he, e⟩
      rw [trackerAt_setTracker htslot hmkey, if_neg hst, helse streamId hst, hview, he, htracker]
    · rfl

theorem assignIds_trackedSessions (state : StreamState) {normal : RecvPacket}
    (hs : normal.sessionId ≠ 0) :
    trackedSessions (assignIds state normal).2 =
      trackedSessions (findSessionTracker state normal.sessionId true).2 := by
  unfold assignIds
  rw [if_neg hs]
  split
  · rename_i hfind
    rw [hfind]
  rename_i i state1 hfind
  rw [hfind]
  obtain ⟨-, -, -, hslot, -⟩ := findSessionTracker_create hfind
  have hkey1 := (assignStreamId_session (state1.sessionTrackers i) normal).1
  rw [SlotTable.lookup_key hslot] at hkey1
  simp only
  split
  · rename_i session2 hfind2
    obtain ⟨rfl, -⟩ := findMessageTracker_create_none hfind2
    exact trackedSessions_setSession hslot hkey1
  · rename_i j session2 hfind2
    have hkey2 := (findMessageTracker_create hfind2).2.1
    rw [hkey1] at hkey2
    exact trackedSessions_setSession hslot hkey2

/-- Giving ids fails without touching the queue or any stream's tracker. -/
theorem assignIds_none {state state' : StreamState} {normal : RecvPacket}
    (h : assignIds state normal = (none, state')) :
    state'.readyQueue = state.readyQueue ∧ state'.adapterLib = state.adapterLib ∧
    ∀ sessionId streamId, tracker state' sessionId streamId = tracker state sessionId streamId := by
  unfold assignIds at h
  split at h
  · obtain ⟨-, rfl⟩ := Prod.mk.inj h
    exact ⟨rfl, rfl, fun _ _ => rfl⟩
  split at h
  · rename_i _ _ state1 hfind
    obtain ⟨-, rfl⟩ := Prod.mk.inj h
    obtain ⟨rfl, -⟩ := findSessionTracker_create_none hfind
    exact ⟨rfl, rfl, fun _ _ => rfl⟩
  rename_i _ _ i state1 hfind
  obtain ⟨hs, hqueue, hadapters, hslot, htracker⟩ := findSessionTracker_create hfind
  obtain ⟨hkey1, htrackers1⟩ := assignStreamId_session (state1.sessionTrackers i) normal
  split at h
  rename_i _ packet1 session1 hassign
  rw [hassign] at hkey1 htrackers1
  simp only at hkey1 htrackers1
  split at h
  · rename_i _ session2 hfind2
    obtain ⟨-, rfl⟩ := Prod.mk.inj h
    obtain ⟨rfl, -⟩ := findMessageTracker_create_none hfind2
    have hkey : session2.key = some normal.sessionId := hkey1.trans (SlotTable.lookup_key hslot)
    refine ⟨hqueue, hadapters, ?_⟩
    intro sessionId streamId
    rw [tracker_setSession hslot hkey, ← htracker]
    split
    · rename_i he
      rw [he, tracker_of_sessionAt (sessionAt_of_lookup hslot)]
      unfold trackerAt
      rw [htrackers1]
    · rfl
  · split at h
    simp at h

end Assign

section Begin

variable {t t' : MessageTracker} {p : RecvPacket}

theorem fragmentCount_le_one_iff :
    (if p.fragmentCount = 0 then 1 else p.fragmentCount) ≤ 1 ↔ Singular p := by
  unfold Singular
  split
  · rename_i h
    simp [h]
  · rename_i h
    rw [UInt32.le_iff_toNat_le]
    constructor
    · intro hle
      refine .inr (UInt32.toNat_inj.mp ?_)
      have hpos : p.fragmentCount.toNat ≠ 0 := fun e => h (UInt32.toNat_inj.mp e)
      change p.fragmentCount.toNat ≤ 1 at hle
      change p.fragmentCount.toNat = 1
      omega
    · rintro (h0 | h1)
      · exact absurd h0 h
      · rw [h1]

theorem fragmentCount_of_fragment (hp : ¬ Singular p) :
    (if p.fragmentCount = 0 then 1 else p.fragmentCount) = p.fragmentCount :=
  if_neg fun h => hp (.inl h)

theorem begin_singular (hp : Singular p) (hm : p.messageId ≠ 0) :
    messageTrackerBegin t p = some t := by
  unfold messageTrackerBegin
  simp only [if_neg hm, if_pos (fragmentCount_le_one_iff.mpr hp)]

theorem begin_no_message (hm : p.messageId = 0) : messageTrackerBegin t p = none :=
  if_pos hm

theorem begin_idle (hp : ¬ Singular p) (hm : p.messageId ≠ 0) (ht : t.messageId = 0) :
    messageTrackerBegin t p = some { t with
      messageId := p.messageId, nextFragmentIndex := 0, fragmentCount := p.fragmentCount } := by
  unfold messageTrackerBegin
  have hmany := mt fragmentCount_le_one_iff.mp hp
  rw [fragmentCount_of_fragment hp] at hmany
  simp only [if_neg hm, if_pos ht, fragmentCount_of_fragment hp, if_neg hmany]

theorem begin_same (hp : ¬ Singular p) (hm : p.messageId ≠ 0) (ht : t.messageId = p.messageId)
    (hc : t.fragmentCount ≠ 0) : messageTrackerBegin t p = some t := by
  unfold messageTrackerBegin
  have hmany := mt fragmentCount_le_one_iff.mp hp
  have hne : t.messageId ≠ 0 := by rw [ht]; exact hm
  simp only [if_neg hm, if_neg hmany, if_neg hne, if_pos ht, if_neg hc]

theorem begin_busy (hp : ¬ Singular p) (ht : t.messageId ≠ 0) (hne : t.messageId ≠ p.messageId)
    (hlt : t.nextFragmentIndex < t.fragmentCount) : messageTrackerBegin t p = none := by
  unfold messageTrackerBegin
  have hmany := mt fragmentCount_le_one_iff.mp hp
  by_cases hm : p.messageId = 0
  · rw [if_pos hm]
  · have hopen : ¬ t.fragmentCount ≤ t.nextFragmentIndex := UInt32.not_le.mpr hlt
    simp only [if_neg hm, if_neg hmany, if_neg ht, if_neg hne, if_neg hopen]

/-- A tracker that a packet may use either stays as it was or is claimed by the packet. -/
theorem begin_cases (h : messageTrackerBegin t p = some t') (hinv : t.messageId ≠ 0 →
      t.fragmentCount ≠ 0 ∧ t.nextFragmentIndex < t.fragmentCount) :
    t' = t ∧ (Singular p ∨ t.messageId = p.messageId ∧ t.messageId ≠ 0) ∨
    ¬ Singular p ∧ t.messageId = 0 ∧ t' = { t with
      messageId := p.messageId, nextFragmentIndex := 0, fragmentCount := p.fragmentCount } := by
  by_cases hm : p.messageId = 0
  · rw [begin_no_message hm] at h
    contradiction
  by_cases hp : Singular p
  · rw [begin_singular hp hm] at h
    exact .inl ⟨(Option.some.inj h).symm, .inl hp⟩
  by_cases ht : t.messageId = 0
  · rw [begin_idle hp hm ht] at h
    exact .inr ⟨hp, ht, (Option.some.inj h).symm⟩
  by_cases he : t.messageId = p.messageId
  · rw [begin_same hp hm he (hinv ht).1] at h
    exact .inl ⟨(Option.some.inj h).symm, .inr ⟨he, ht⟩⟩
  · rw [begin_busy hp ht he (hinv ht).2] at h
    contradiction

theorem begin_key (h : messageTrackerBegin t p = some t') : t'.key = t.key := by
  grind [messageTrackerBegin, MessageTracker.key]

end Begin

section Ingest

/-- The state in which an ingested packet meets the ready queue: its stream's tracker has
    accepted it and nothing else has moved. -/
structure Claimed (state state' : StreamState) (normal : RecvPacket) (a : Assigned)
    (t : MessageTracker) : Prop where
  queue : state'.readyQueue = state.readyQueue
  adapters : state'.adapterLib = state.adapterLib
  here : tracker state' normal.sessionId a.packet.streamId = some t
  elsewhere : ∀ sessionId streamId,
    ¬ (sessionId = normal.sessionId ∧ streamId = a.packet.streamId) →
      tracker state' sessionId streamId = tracker state sessionId streamId

def offered (state : StreamState) (a : Assigned) : MessageTracker :=
  (state.sessionTrackers a.session).streamTrackers a.tracker

theorem tracker_of_assigned {state state' : StreamState} {normal : RecvPacket} {a : Assigned}
    (h : AssignedTo state state' normal a) :
    tracker state' normal.sessionId a.packet.streamId = some (offered state' a) := by
  rw [tracker_of_sessionAt (sessionAt_of_lookup h.session_slot)]
  exact SlotTable.entry_of_lookup h.tracker_slot

theorem claimed_of_begin {state state' : StreamState} {normal : RecvPacket} {a : Assigned}
    {t : MessageTracker} (h : AssignedTo state state' normal a)
    (hb : messageTrackerBegin (offered state' a) a.packet = some t) :
    Claimed state (state'.setSession a.session
      ((state'.sessionTrackers a.session).setTracker a.tracker t)) normal a t := by
  have hkey : t.key = some a.packet.streamId :=
    (begin_key hb).trans (SlotTable.lookup_key h.tracker_slot)
  refine ⟨h.queue, h.adapters, ?_, ?_⟩
  · rw [tracker_setTracker h.session_slot h.tracker_slot hkey]
    exact if_pos ⟨rfl, rfl⟩
  · intro sessionId streamId hne
    rw [tracker_setTracker h.session_slot h.tracker_slot hkey, if_neg hne]
    exact h.elsewhere sessionId streamId hne

theorem ingest_nameless {state : StreamState} {normal : RecvPacket} (hs : normal.sessionId = 0) :
    ingest state normal = (false, state) := by
  unfold ingest assignIds
  rw [if_pos hs]

theorem ingest_unassigned {state state' : StreamState} {normal : RecvPacket}
    (hassign : assignIds state normal = (none, state')) :
    ingest state normal = (false, state') := by
  unfold ingest
  rw [hassign]

theorem ingest_unclaimed {state state' : StreamState} {normal : RecvPacket} {a : Assigned}
    (hassign : assignIds state normal = (some a, state'))
    (hb : messageTrackerBegin (offered state' a) a.packet = none) :
    ingest state normal = (false, state') := by
  unfold offered at hb
  unfold ingest
  rw [hassign]
  dsimp only
  rw [hb]

theorem ingest_claimed {state state' : StreamState} {normal : RecvPacket} {a : Assigned}
    {t : MessageTracker} (hassign : assignIds state normal = (some a, state'))
    (hb : messageTrackerBegin (offered state' a) a.packet = some t) :
    ingest state normal = queuePacket (state'.setSession a.session
      ((state'.sessionTrackers a.session).setTracker a.tracker t)) a.packet := by
  unfold offered at hb
  unfold ingest
  rw [hassign]
  dsimp only
  rw [hb]

/-- The three ways an ingest goes: no tracker for the packet, a tracker that refuses it, or
    a tracker that accepts it and hands it to the ready queue. -/
theorem ingest_cases (state : StreamState) (normal : RecvPacket) :
    (∃ state', assignIds state normal = (none, state') ∧
      ingest state normal = (false, state')) ∨
    (∃ a state', assignIds state normal = (some a, state') ∧
      AssignedTo state state' normal a ∧
      messageTrackerBegin (offered state' a) a.packet = none ∧
      ingest state normal = (false, state')) ∨
    ∃ a state1 t state', assignIds state normal = (some a, state1) ∧
      AssignedTo state state1 normal a ∧
      messageTrackerBegin (offered state1 a) a.packet = some t ∧
      Claimed state state' normal a t ∧
      trackedSessions state' = trackedSessions state1 ∧
      ingest state normal = queuePacket state' a.packet := by
  cases hassign : assignIds state normal with
  | mk found state1 =>
    cases found with
    | none => exact .inl ⟨state1, rfl, ingest_unassigned hassign⟩
    | some a =>
      have hspec := assignIds_some hassign
      refine .inr ?_
      cases hb : messageTrackerBegin (offered state1 a) a.packet with
      | none => exact .inl ⟨a, state1, rfl, hspec, hb, ingest_unclaimed hassign hb⟩
      | some t =>
        refine .inr ⟨a, state1, t, _, rfl, hspec, hb, claimed_of_begin hspec hb, ?_,
          ingest_claimed hassign hb⟩
        exact trackedSessions_setSession hspec.session_slot
          (SlotTable.lookup_key hspec.session_slot)

theorem ingest_trackedSessions (state : StreamState) {normal : RecvPacket}
    (hs : normal.sessionId ≠ 0) :
    trackedSessions (ingest state normal).2 =
      if normal.sessionId ∈ trackedSessions state then trackedSessions state
      else if (trackedSessions state).card = SESSION_TRACKER_CAPACITY then trackedSessions state
      else normal.sessionId ::ₘ trackedSessions state := by
  rw [← findSessionTracker_tracked state hs, ← assignIds_trackedSessions state hs]
  obtain ⟨state', hassign, hin⟩ | ⟨a, state', hassign, -, -, hin⟩ |
      ⟨a, state1, t, state', hassign, hspec, -, -, hsame, hin⟩ := ingest_cases state normal
  · rw [hassign, hin]
  · rw [hassign, hin]
  · have hp : a.packet.sessionId ≠ 0 := by rw [hspec.session]; exact hs
    rw [hassign, hin, ← hsame]
    obtain ⟨-, -, -, -, hframe⟩ | ⟨hno, -⟩ := queuePacket_cases state' hp
    · exact hframe.trackedSessions
    · rw [hno]

/-- A session seen for the first time gets a tracker, and its packet gets its ids, as long as
    a session tracker is free. -/
theorem assignIds_new_session {state : StreamState} {normal : RecvPacket}
    (hs : normal.sessionId ≠ 0) (hnew : normal.sessionId ∉ trackedSessions state)
    (hroom : (trackedSessions state).card < SESSION_TRACKER_CAPACITY) :
    ∃ a state', assignIds state normal = (some a, state') := by
  obtain ⟨i, hl, -⟩ | ⟨i, -, -, ha⟩ | ⟨-, hc, -⟩ := SlotTable.acquire_cases SessionTracker.key
    (.fresh normal.sessionId) state.sessionTrackers normal.sessionId
  · exact absurd hl (by rw [SlotTable.lookup_none_iff.mpr hnew]; simp)
  · have hfind : findSessionTracker state normal.sessionId true = (some i, { state with
        sessionTrackers := Function.update state.sessionTrackers i
          (.fresh normal.sessionId) }) := by
      unfold findSessionTracker
      rw [if_neg hs, if_pos rfl, ha]
    unfold assignIds
    rw [if_neg hs, hfind]
    simp only [Function.update_self]
    split
    · rename_i hnone
      obtain ⟨-, hz | ⟨-, hfull⟩⟩ := findMessageTracker_create_none hnone
      · unfold assignStreamId at hz
        split at hz
        · change (1 : UInt32) = 0 at hz
          contradiction
        · rename_i hst
          split at hz
          · exact absurd hz hst
          · exact absurd hz hst
      · have hempty : SlotTable.contents MessageTracker.key
            (assignStreamId (.fresh normal.sessionId) normal).2.streamTrackers = 0 := by
          rw [(assignStreamId_session (.fresh normal.sessionId) normal).2]
          exact SlotTable.contents_empty fun _ => rfl
        rw [hempty] at hfull
        contradiction
    · exact ⟨_, _, rfl⟩
  · change (trackedSessions state).card = SESSION_TRACKER_CAPACITY at hc
    omega

end Ingest

section Drain

theorem not_singular_iff {p : RecvPacket} : ¬ Singular p ↔ 1 < p.fragmentCount := by
  rw [← fragmentCount_le_one_iff]
  split
  · rename_i h
    simp [h]
  · exact UInt32.not_le

/-- The caller can take the packet: it carries no user data, or the caller has a buffer for
    it and the adapter that copies it is known. -/
def Readable (state : StreamState) (callerUser : Bool) (p : RecvPacket) : Prop :=
  p.user.isSome = true → callerUser = true ∧ copyUser state p = true

instance (p : RecvPacket) : Decidable (Singular p) := inferInstanceAs (Decidable (_ ∨ _))

def stepped (p : RecvPacket) (t : MessageTracker) : MessageTracker :=
  if Singular p then t else advanceTracker t

theorem advanceTracker_key (t : MessageTracker) : (advanceTracker t).key = t.key := by
  unfold advanceTracker MessageTracker.key
  simp only
  split <;> split <;> rfl

theorem advanceMessage_frame (state : StreamState) (p : RecvPacket) :
    (advanceMessage state p).readyQueue = state.readyQueue ∧
    (advanceMessage state p).adapterLib = state.adapterLib := by
  unfold advanceMessage
  split
  · split
    · exact ⟨rfl, rfl⟩
    · simp only
      split
      · exact ⟨rfl, rfl⟩
      · split
        · exact ⟨rfl, rfl⟩
        · exact ⟨rfl, rfl⟩
  · exact ⟨rfl, rfl⟩

theorem advanceMessage_singular (state : StreamState) {p : RecvPacket} (hp : Singular p) :
    advanceMessage state p = state :=
  if_neg fun h => not_singular_iff.mpr h hp

theorem advanceMessage_fragment {state : StreamState} {p : RecvPacket} {t : MessageTracker}
    (hp : ¬ Singular p) (hs : p.sessionId ≠ 0) (hst : p.streamId ≠ 0)
    (ht : tracker state p.sessionId p.streamId = some t) (hm : p.messageId = t.messageId) :
    trackedSessions (advanceMessage state p) = trackedSessions state ∧
    (∀ sessionId, trackedStreams (advanceMessage state p) sessionId =
      trackedStreams state sessionId) ∧
    ∀ sessionId streamId, tracker (advanceMessage state p) sessionId streamId =
      if sessionId = p.sessionId ∧ streamId = p.streamId then some (advanceTracker t)
      else tracker state sessionId streamId := by
  obtain ⟨i, j, hi, hj, rfl⟩ := slots_of_tracker ht
  have hstep : advanceMessage state p = state.setSession i ((state.sessionTrackers i).setTracker j
      (advanceTracker ((state.sessionTrackers i).streamTrackers j))) := by
    unfold advanceMessage
    simp only [if_pos (not_singular_iff.mp hp), findSessionTracker_false hs, hi,
      findMessageTracker_false hst, hj, if_pos hm.symm]
  have hsame := advanceTracker_key ((state.sessionTrackers i).streamTrackers j)
  have hkey := hsame.trans (SlotTable.lookup_key hj)
  rw [hstep]
  exact ⟨trackedSessions_setSession hi (SlotTable.lookup_key hi),
    trackedStreams_setTracker hi hsame, tracker_setTracker hi hj hkey⟩

/-- A drain that returns a packet takes a deliverable one out of the queue and steps its
    stream past it. -/
structure Drained (state state' : StreamState) (callerUser : Bool) (p : RecvPacket) : Prop where
  readable : Readable state callerUser p
  deliverable : packetIsDeliverable state p = true
  queue : queued state = p ::ₘ queued state'
  adapters : state'.adapterLib = state.adapterLib
  sessions : trackedSessions state' = trackedSessions state
  streams : ∀ sessionId, trackedStreams state' sessionId = trackedStreams state sessionId
  here : tracker state' p.sessionId p.streamId =
    (tracker state p.sessionId p.streamId).map (stepped p)
  elsewhere : ∀ sessionId streamId, ¬ (sessionId = p.sessionId ∧ streamId = p.streamId) →
    tracker state' sessionId streamId = tracker state sessionId streamId

theorem readable_iff {state : StreamState} {callerUser : Bool} {p : RecvPacket} :
    Readable state callerUser p ↔ (p.user.isSome && !callerUser) = false ∧
      (p.user.isSome && !copyUser state p) = false := by
  unfold Readable
  cases p.user.isSome <;> cases callerUser <;> cases copyUser state p <;> simp

theorem advanceMessage_deliverable {state : StreamState} {p : RecvPacket}
    (hp : packetIsDeliverable state p = true) :
    trackedSessions (advanceMessage state p) = trackedSessions state ∧
    (∀ sessionId, trackedStreams (advanceMessage state p) sessionId =
      trackedStreams state sessionId) ∧
    tracker (advanceMessage state p) p.sessionId p.streamId =
      (tracker state p.sessionId p.streamId).map (stepped p) ∧
    ∀ sessionId streamId, ¬ (sessionId = p.sessionId ∧ streamId = p.streamId) →
      tracker (advanceMessage state p) sessionId streamId = tracker state sessionId streamId := by
  by_cases hsing : Singular p
  · rw [advanceMessage_singular state hsing]
    refine ⟨rfl, fun _ => rfl, ?_, fun _ _ _ => rfl⟩
    have hid : stepped p = id := by funext t; exact if_pos hsing
    rw [hid, Option.map_id]
    rfl
  · obtain ⟨hs, hst, t, ht, -, hm, -⟩ := (packetIsDeliverable_fragment hsing).mp hp
    obtain ⟨hsessions, hstreams, htracker⟩ := advanceMessage_fragment hsing hs hst ht hm
    refine ⟨hsessions, hstreams, ?_, ?_⟩
    · rw [htracker, if_pos ⟨rfl, rfl⟩, ht]
      exact congrArg some (if_neg hsing).symm
    · intro sessionId streamId hne
      rw [htracker, if_neg hne]

theorem deliverable_session {state : StreamState} {p : RecvPacket}
    (h : packetIsDeliverable state p = true) : p.sessionId ≠ 0 := by
  intro hs
  unfold packetIsDeliverable at h
  rw [if_pos (.inl hs)] at h
  contradiction

theorem drain_cases (state : StreamState) (callerUser : Bool) :
    (∃ p state', drain state callerUser = (some p, state') ∧ Drained state state' callerUser p) ∨
    (drain state callerUser = (none, state) ∧
      ((∀ p ∈ queued state, packetIsDeliverable state p = false) ∨
        ∃ p ∈ queued state, packetIsDeliverable state p = true ∧
          ¬ Readable state callerUser p)) := by
  unfold drain
  cases hf : SlotTable.find? state.readyQueue fun slot =>
      slot.sessionId != 0 && packetIsDeliverable state slot with
  | none =>
    refine .inr ⟨rfl, .inl ?_⟩
    intro p hp
    obtain ⟨hs, i, rfl⟩ := queued_mem.mp hp
    have hno := SlotTable.find?_none_iff.mp hf i
    simpa [hs] using hno
  | some i =>
    have hfound : ((state.readyQueue i).sessionId != 0 &&
        packetIsDeliverable state (state.readyQueue i)) = true := SlotTable.find?_holds hf
    obtain ⟨hs, hd⟩ := Bool.and_eq_true_iff.mp hfound
    have hmem : state.readyQueue i ∈ queued state :=
      queued_mem.mpr ⟨by simpa using hs, i, rfl⟩
    by_cases hr : Readable state callerUser (state.readyQueue i)
    · obtain ⟨hcaller, hcopy⟩ := readable_iff.mp hr
      refine .inl ⟨state.readyQueue i, _, by simp only [hcaller, hcopy]; rfl, ?_⟩
      obtain ⟨hsessions, hstreams, hhere, helse⟩ := advanceMessage_deliverable hd
      refine ⟨hr, hd, ?_, (advanceMessage_frame state _).2, hsessions, hstreams, hhere, helse⟩
      exact SlotTable.contents_clear (occupied_eq_some.mpr ⟨rfl, deliverable_session hd⟩) rfl
    · refine .inr ⟨?_, .inr ⟨state.readyQueue i, hmem, hd, hr⟩⟩
      rw [readable_iff, not_and_or] at hr
      simp only
      obtain hcaller | hcopy := hr
      · rw [if_pos (by simpa using hcaller)]
      · split
        · rfl
        · rw [if_pos (by simpa using hcopy)]

end Drain

section Expire

theorem expire_queued (state : StreamState) (nowMs : UInt64) :
    queued (expire state nowMs).2 =
      (queued state).filter fun p => isExpired p nowMs = false := by
  refine SlotTable.contents_filter ?_
  intro i
  change occupied (if isExpired (state.readyQueue i) nowMs then RecvPacket.zero
    else state.readyQueue i) = _
  by_cases hs : (state.readyQueue i).sessionId = 0
  · have hkeep : isExpired (state.readyQueue i) nowMs = false := if_pos hs
    rw [hkeep, occupied_eq_none.mpr hs]
    simp [occupied_eq_none, hs]
  · rw [occupied_eq_some.mpr ⟨rfl, hs⟩]
    cases he : isExpired (state.readyQueue i) nowMs with
    | true =>
      have hgone : occupied RecvPacket.zero = none := rfl
      simp [Option.filter, he, hgone]
    | false => simp [Option.filter, he, occupied_eq_some.mpr ⟨rfl, hs⟩]

theorem expire_queued_le (state : StreamState) (nowMs : UInt64) :
    queued (expire state nowMs).2 ≤ queued state := by
  rw [expire_queued]
  exact Multiset.filter_le _ _

theorem expire_frame (state : StreamState) (nowMs : UInt64) :
    SameTrackers state (expire state nowMs).2 := ⟨rfl, rfl⟩

end Expire

end Siglatch.MuxStreamOps
