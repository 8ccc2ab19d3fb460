import Siglatch.MuxStream

set_option autoImplicit false

namespace Siglatch.MuxStreamView
open MuxTypes MuxStream

/-! What a stream state means: the packets queued in it and the tracker of each stream. -/

def occupied (slot : RecvPacket) : Option RecvPacket :=
  if slot.sessionId = 0 then none else some slot

def queued (state : StreamState) : Multiset RecvPacket :=
  SlotTable.contents occupied state.readyQueue

def trackedSessions (state : StreamState) : Multiset UInt64 :=
  SlotTable.contents SessionTracker.key state.sessionTrackers

def sessionAt (state : StreamState) (sessionId : UInt64) : Option SessionTracker :=
  SlotTable.entry SessionTracker.key state.sessionTrackers sessionId

def trackerAt (session : SessionTracker) (streamId : UInt32) : Option MessageTracker :=
  SlotTable.entry MessageTracker.key session.streamTrackers streamId

def tracker (state : StreamState) (sessionId : UInt64) (streamId : UInt32) :
    Option MessageTracker :=
  (sessionAt state sessionId).bind fun session => trackerAt session streamId

def trackedStreams (state : StreamState) (sessionId : UInt64) : Option (Multiset UInt32) :=
  (sessionAt state sessionId).map fun session =>
    SlotTable.contents MessageTracker.key session.streamTrackers

theorem occupied_eq_some {slot p : RecvPacket} :
    occupied slot = some p ↔ slot = p ∧ p.sessionId ≠ 0 := by
  unfold occupied
  split
  · rename_i h
    constructor
    · intro hn
      contradiction
    · rintro ⟨rfl, hp⟩
      exact absurd h hp
  · rename_i h
    constructor
    · intro hs
      obtain rfl := Option.some.inj hs
      exact ⟨rfl, h⟩
    · rintro ⟨rfl, _⟩
      rfl

theorem occupied_eq_none {slot : RecvPacket} : occupied slot = none ↔ slot.sessionId = 0 := by
  unfold occupied
  split
  · rename_i h; simp [h]
  · rename_i h; simp [h]

@[simp] theorem session_key_fresh (sessionId : UInt64) :
    (SessionTracker.fresh sessionId).key = some sessionId := rfl

@[simp] theorem message_key_fresh (streamId : UInt32) :
    (MessageTracker.fresh streamId).key = some streamId := rfl

theorem queued_mem {state : StreamState} {p : RecvPacket} :
    p ∈ queued state ↔ p.sessionId ≠ 0 ∧ ∃ i, state.readyQueue i = p := by
  unfold queued
  rw [SlotTable.mem_contents]
  constructor
  · rintro ⟨i, hi⟩
    obtain ⟨rfl, hp⟩ := occupied_eq_some.mp hi
    exact ⟨hp, i, rfl⟩
  · rintro ⟨hp, i, rfl⟩
    exact ⟨i, occupied_eq_some.mpr ⟨rfl, hp⟩⟩

theorem queued_card_le (state : StreamState) : (queued state).card ≤ READY_QUEUE_CAPACITY :=
  SlotTable.card_contents_le state.readyQueue

@[simp] theorem queued_stateInit : queued stateInit = 0 :=
  SlotTable.contents_empty fun _ => rfl

@[simp] theorem trackedSessions_stateInit : trackedSessions stateInit = 0 :=
  SlotTable.contents_empty fun _ => rfl

theorem sessionAt_none_iff {state : StreamState} {sessionId : UInt64} :
    sessionAt state sessionId = none ↔ sessionId ∉ trackedSessions state :=
  SlotTable.entry_none_iff

theorem trackerAt_fresh (sessionId : UInt64) (streamId : UInt32) :
    trackerAt (SessionTracker.fresh sessionId) streamId = none := by
  unfold trackerAt
  rw [SlotTable.entry_none_iff]
  have hempty : SlotTable.contents MessageTracker.key
      (SessionTracker.fresh sessionId).streamTrackers = 0 :=
    SlotTable.contents_empty fun _ => rfl
  rw [hempty]
  exact Multiset.notMem_zero _

theorem tracker_of_sessionAt {state : StreamState} {sessionId : UInt64} {streamId : UInt32}
    {session : SessionTracker} (h : sessionAt state sessionId = some session) :
    tracker state sessionId streamId = trackerAt session streamId := by
  unfold tracker
  rw [h]
  rfl

theorem tracker_none_of_untracked {state : StreamState} {sessionId : UInt64} {streamId : UInt32}
    (h : sessionAt state sessionId = none) : tracker state sessionId streamId = none := by
  unfold tracker
  rw [h]
  rfl

section Update

variable {state : StreamState} {sessionId : UInt64} {i : Fin SESSION_TRACKER_CAPACITY}
  {session : SessionTracker}

theorem sessionAt_of_lookup
    (h : SlotTable.lookup SessionTracker.key state.sessionTrackers sessionId = some i) :
    sessionAt state sessionId = some (state.sessionTrackers i) :=
  SlotTable.entry_of_lookup h

theorem sessionAt_setSession
    (h : SlotTable.lookup SessionTracker.key state.sessionTrackers sessionId = some i)
    (hkey : session.key = some sessionId) (sessionId' : UInt64) :
    sessionAt (state.setSession i session) sessionId' =
      if sessionId' = sessionId then some session else sessionAt state sessionId' := by
  by_cases hs : sessionId' = sessionId
  · rw [if_pos hs, hs]
    exact SlotTable.entry_overwrite_self h hkey
  · rw [if_neg hs]
    exact SlotTable.entry_overwrite_ne h hkey hs

theorem trackedSessions_setSession
    (h : SlotTable.lookup SessionTracker.key state.sessionTrackers sessionId = some i)
    (hkey : session.key = some sessionId) :
    trackedSessions (state.setSession i session) = trackedSessions state := by
  refine SlotTable.contents_overwrite ?_
  rw [hkey, SlotTable.lookup_key h]

theorem tracker_setSession
    (h : SlotTable.lookup SessionTracker.key state.sessionTrackers sessionId = some i)
    (hkey : session.key = some sessionId) (sessionId' : UInt64) (streamId : UInt32) :
    tracker (state.setSession i session) sessionId' streamId =
      if sessionId' = sessionId then trackerAt session streamId
      else tracker state sessionId' streamId := by
  unfold tracker
  rw [sessionAt_setSession h hkey]
  split
  · rfl
  · rfl

theorem trackedStreams_setTracker {j : Fin TRACKER_CAPACITY} {t : MessageTracker}
    (h : SlotTable.lookup SessionTracker.key state.sessionTrackers sessionId = some i)
    (hkey : t.key = ((state.sessionTrackers i).streamTrackers j).key) (sessionId' : UInt64) :
    trackedStreams (state.setSession i ((state.sessionTrackers i).setTracker j t)) sessionId' =
      trackedStreams state sessionId' := by
  have hsession : ((state.sessionTrackers i).setTracker j t).key = some sessionId :=
    SlotTable.lookup_key h
  unfold trackedStreams
  rw [sessionAt_setSession h hsession]
  by_cases hs : sessionId' = sessionId
  · rw [if_pos hs, hs, sessionAt_of_lookup h]
    exact congrArg some (SlotTable.contents_overwrite hkey)
  · rw [if_neg hs]

theorem trackerAt_setTracker {j : Fin TRACKER_CAPACITY} {streamId : UInt32} {t : MessageTracker}
    (h : SlotTable.lookup MessageTracker.key session.streamTrackers streamId = some j)
    (hkey : t.key = some streamId) (streamId' : UInt32) :
    trackerAt (session.setTracker j t) streamId' =
      if streamId' = streamId then some t else trackerAt session streamId' := by
  by_cases hs : streamId' = streamId
  · rw [if_pos hs, hs]
    exact SlotTable.entry_overwrite_self h hkey
  · rw [if_neg hs]
    exact SlotTable.entry_overwrite_ne h hkey hs

theorem setSession_setTracker_found {j : Fin TRACKER_CAPACITY} {streamId : UInt32}
    {t : MessageTracker}
    (h : SlotTable.lookup SessionTracker.key state.sessionTrackers sessionId = some i)
    (hkey : (session.setTracker j t).key = some sessionId)
    (hj : SlotTable.lookup MessageTracker.key session.streamTrackers streamId = some j)
    (ht : t.key = some streamId) :
    SlotTable.lookup SessionTracker.key
        (state.setSession i (session.setTracker j t)).sessionTrackers sessionId = some i ∧
      SlotTable.lookup MessageTracker.key
        ((state.setSession i (session.setTracker j t)).sessionTrackers i).streamTrackers streamId =
          some j ∧
      ((state.setSession i (session.setTracker j t)).sessionTrackers i).streamTrackers j = t := by
  have hwritten : (state.setSession i (session.setTracker j t)).sessionTrackers i =
      session.setTracker j t := Function.update_self i _ state.sessionTrackers
  refine ⟨(SlotTable.lookup_overwrite h hkey sessionId).trans h, ?_, ?_⟩
  · rw [hwritten]
    exact (SlotTable.lookup_overwrite hj ht streamId).trans hj
  · rw [hwritten]
    exact Function.update_self j t session.streamTrackers

/-- Overwriting one stream's tracker changes the view at that stream only. -/
theorem tracker_setTracker {j : Fin TRACKER_CAPACITY} {streamId : UInt32} {t : MessageTracker}
    (h : SlotTable.lookup SessionTracker.key state.sessionTrackers sessionId = some i)
    (hj : SlotTable.lookup MessageTracker.key (state.sessionTrackers i).streamTrackers streamId =
      some j)
    (hkey : t.key = some streamId) (sessionId' : UInt64) (streamId' : UInt32) :
    tracker (state.setSession i ((state.sessionTrackers i).setTracker j t)) sessionId' streamId' =
      if sessionId' = sessionId ∧ streamId' = streamId then some t
      else tracker state sessionId' streamId' := by
  have hsession : ((state.sessionTrackers i).setTracker j t).key = some sessionId :=
    SlotTable.lookup_key h
  rw [tracker_setSession h hsession]
  by_cases hs : sessionId' = sessionId
  · rw [if_pos hs, trackerAt_setTracker hj hkey, hs, tracker_of_sessionAt (sessionAt_of_lookup h)]
    by_cases ht : streamId' = streamId
    · simp [ht]
    · simp [ht]
  · simp [hs]

end Update

section Find

theorem findSessionTracker_false {state : StreamState} {sessionId : UInt64} (h : sessionId ≠ 0) :
    (findSessionTracker state sessionId false).1 =
      SlotTable.lookup SessionTracker.key state.sessionTrackers sessionId := by
  simp [findSessionTracker, h]

theorem findMessageTracker_false {session : SessionTracker} {streamId : UInt32}
    (h : streamId ≠ 0) :
    (findMessageTracker session streamId false).1 =
      SlotTable.lookup MessageTracker.key session.streamTrackers streamId := by
  simp [findMessageTracker, h]

theorem lookup_of_sessionAt {state : StreamState} {sessionId : UInt64} {session : SessionTracker}
    (h : sessionAt state sessionId = some session) :
    ∃ i, SlotTable.lookup SessionTracker.key state.sessionTrackers sessionId = some i ∧
      state.sessionTrackers i = session :=
  Option.map_eq_some_iff.mp h

theorem lookup_of_trackerAt {session : SessionTracker} {streamId : UInt32} {t : MessageTracker}
    (h : trackerAt session streamId = some t) :
    ∃ j, SlotTable.lookup MessageTracker.key session.streamTrackers streamId = some j ∧
      session.streamTrackers j = t :=
  Option.map_eq_some_iff.mp h

/-- A tracked stream sits in the slots that the two searches find. -/
theorem slots_of_tracker {state : StreamState} {sessionId : UInt64} {streamId : UInt32}
    {t : MessageTracker} (h : tracker state sessionId streamId = some t) :
    ∃ i j, SlotTable.lookup SessionTracker.key state.sessionTrackers sessionId = some i ∧
      SlotTable.lookup MessageTracker.key (state.sessionTrackers i).streamTrackers streamId =
        some j ∧ (state.sessionTrackers i).streamTrackers j = t := by
  obtain ⟨session, hsession, ht⟩ := Option.bind_eq_some_iff.mp h
  obtain ⟨i, hi, rfl⟩ := lookup_of_sessionAt hsession
  obtain ⟨j, hj, rfl⟩ := lookup_of_trackerAt ht
  exact ⟨i, j, hi, hj, rfl⟩

def Singular (packet : RecvPacket) : Prop := packet.fragmentCount = 0 ∨ packet.fragmentCount = 1

def Awaited (state : StreamState) (packet : RecvPacket) : Prop :=
  ∃ t, tracker state packet.sessionId packet.streamId = some t ∧ t.messageId ≠ 0 ∧
    packet.messageId = t.messageId ∧ packet.fragmentIndex = t.nextFragmentIndex

theorem packetIsDeliverable_zero {state : StreamState} {packet : RecvPacket} {rest : Prop}
    (hz : packet.sessionId = 0 ∨ packet.streamId = 0) :
    packetIsDeliverable state packet = true ↔
      packet.sessionId ≠ 0 ∧ packet.streamId ≠ 0 ∧ rest := by
  unfold packetIsDeliverable
  rw [if_pos hz]
  simp only [Bool.false_eq_true, false_iff]
  rintro ⟨hs, ht, -⟩
  exact hz.elim hs ht

theorem packetIsDeliverable_singular {state : StreamState} {packet : RecvPacket}
    (hp : Singular packet) :
    packetIsDeliverable state packet = true ↔ packet.sessionId ≠ 0 ∧ packet.streamId ≠ 0 ∧
      (sessionAt state packet.sessionId).isSome ∧ packet.fragmentIndex = 0 := by
  by_cases hz : packet.sessionId = 0 ∨ packet.streamId = 0
  · exact packetIsDeliverable_zero hz
  · unfold packetIsDeliverable
    have hs : packet.sessionId ≠ 0 := fun e => hz (.inl e)
    have ht : packet.streamId ≠ 0 := fun e => hz (.inr e)
    rw [if_neg hz, findSessionTracker_false hs]
    unfold sessionAt SlotTable.entry
    cases SlotTable.lookup SessionTracker.key state.sessionTrackers packet.sessionId with
    | none => simp
    | some i =>
      have hp' : packet.fragmentCount = 0 ∨ packet.fragmentCount = 1 := hp
      simp [hs, ht, hp']

theorem packetIsDeliverable_fragment {state : StreamState} {packet : RecvPacket}
    (hp : ¬ Singular packet) :
    packetIsDeliverable state packet = true ↔ packet.sessionId ≠ 0 ∧ packet.streamId ≠ 0 ∧
      Awaited state packet := by
  by_cases hz : packet.sessionId = 0 ∨ packet.streamId = 0
  · exact packetIsDeliverable_zero hz
  · unfold packetIsDeliverable Awaited
    have hs : packet.sessionId ≠ 0 := fun e => hz (.inl e)
    have ht : packet.streamId ≠ 0 := fun e => hz (.inr e)
    have hp' : ¬ (packet.fragmentCount = 0 ∨ packet.fragmentCount = 1) := hp
    rw [if_neg hz, findSessionTracker_false hs]
    cases hi : SlotTable.lookup SessionTracker.key state.sessionTrackers packet.sessionId with
    | none =>
      have hnone : sessionAt state packet.sessionId = none := by
        simp [sessionAt, SlotTable.entry, hi]
      simp [tracker_none_of_untracked hnone]
    | some i =>
      rw [tracker_of_sessionAt (sessionAt_of_lookup hi)]
      simp only [if_neg hp', findMessageTracker_false ht]
      cases hj : SlotTable.lookup MessageTracker.key (state.sessionTrackers i).streamTrackers
          packet.streamId with
      | none =>
        have hnone : trackerAt (state.sessionTrackers i) packet.streamId = none := by
          simp [trackerAt, SlotTable.entry, hj]
        simp [hnone]
      | some j =>
        have hsome : trackerAt (state.sessionTrackers i) packet.streamId =
            some ((state.sessionTrackers i).streamTrackers j) := SlotTable.entry_of_lookup hj
        rw [hsome]
        by_cases hm : ((state.sessionTrackers i).streamTrackers j).messageId = 0
        · simp [hm]
        · by_cases he : packet.messageId = ((state.sessionTrackers i).streamTrackers j).messageId
          · simp [hs, ht, hm, he]
          · simp [hm, he]

end Find

end Siglatch.MuxStreamView
