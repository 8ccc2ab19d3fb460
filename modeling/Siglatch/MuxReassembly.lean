import Siglatch.MuxStreamOps
import Mathlib.Data.Finset.Card

set_option autoImplicit false

namespace Siglatch.MuxReassembly
open MuxTypes MuxStream MuxStreamView MuxStreamOps

structure Message where
  count : ℕ
  sessionId : UInt64
  streamId : UInt32
  messageId : UInt64
  fragment : Fin count → RecvPacket
  many : 2 ≤ count
  small : count ≤ READY_QUEUE_CAPACITY
  session_ne : sessionId ≠ 0
  stream_ne : streamId ≠ 0
  message_ne : messageId ≠ 0
  session : ∀ i, (fragment i).sessionId = sessionId
  stream : ∀ i, (fragment i).streamId = streamId
  message : ∀ i, (fragment i).messageId = messageId
  index : ∀ i, (fragment i).fragmentIndex.toNat = i.val
  total : ∀ i, (fragment i).fragmentCount.toNat = count

namespace Message

variable (msg : Message)

def Owns (p : RecvPacket) : Prop :=
  p.sessionId = msg.sessionId ∧ p.streamId = msg.streamId ∧ p.messageId = msg.messageId

instance (p : RecvPacket) : Decidable (msg.Owns p) := inferInstanceAs (Decidable (_ ∧ _))

def held (i : Fin msg.count) : RecvPacket := stored (msg.fragment i)

theorem owns_held (i : Fin msg.count) : msg.Owns (msg.held i) :=
  ⟨msg.session i, msg.stream i, msg.message i⟩

theorem held_index (i : Fin msg.count) : (msg.held i).fragmentIndex.toNat = i.val := msg.index i

theorem held_injective {i j : Fin msg.count}
    (h : (msg.held i).fragmentIndex = (msg.held j).fragmentIndex) : i = j := by
  apply Fin.ext
  rw [← msg.held_index i, ← msg.held_index j, h]

theorem fragment_not_singular (i : Fin msg.count) : ¬ Singular (msg.fragment i) := by
  have htotal := msg.total i
  have hmany := msg.many
  rintro (h | h)
  · rw [h] at htotal
    change 0 = msg.count at htotal
    omega
  · rw [h] at htotal
    change 1 = msg.count at htotal
    omega

theorem held_not_singular (i : Fin msg.count) : ¬ Singular (msg.held i) :=
  msg.fragment_not_singular i

end Message

/-- The stream has `arrived` of the message's fragments and has returned the first `next`. -/
structure Reassembling (msg : Message) (state : StreamState) (arrived : Finset (Fin msg.count))
    (next : ℕ) : Prop where
  next_le : next ≤ msg.count
  returned : ∀ i : Fin msg.count, i.val < next → i ∈ arrived
  queue : (queued state).filter msg.Owns =
    (arrived.filter fun i => next ≤ i.val).val.map msg.held
  room : (queued state).card + (msg.count - arrived.card) ≤ READY_QUEUE_CAPACITY
  idle : arrived = ∅ ∨ next = msg.count →
    ∃ t, tracker state msg.sessionId msg.streamId = some t ∧ t.messageId = 0
  busy : arrived ≠ ∅ → next < msg.count →
    ∃ t, tracker state msg.sessionId msg.streamId = some t ∧ t.messageId = msg.messageId ∧
      t.nextFragmentIndex.toNat = next ∧ t.fragmentCount.toNat = msg.count

section Ingest

variable {msg : Message} {state : StreamState} {arrived : Finset (Fin msg.count)} {next : ℕ}

/-- A packet naming a tracked stream and its own message is always given its ids. -/
theorem assignIds_explicit {normal : RecvPacket} {t : MessageTracker}
    (hs : normal.sessionId ≠ 0) (hst : normal.streamId ≠ 0)
    (ht : tracker state normal.sessionId normal.streamId = some t) :
    ∃ a state', assignIds state normal = (some a, state') := by
  obtain ⟨i, j, hi, hj, -⟩ := slots_of_tracker ht
  have hsession : findSessionTracker state normal.sessionId true = (some i, state) := by
    unfold findSessionTracker SlotTable.acquire
    rw [if_neg hs, if_pos rfl, hi]
  obtain ⟨hkey, htrackers⟩ := assignStreamId_session (state.sessionTrackers i) normal
  have hstream := (assignStreamId_packet (state.sessionTrackers i) normal).2 hst
  have hmessage : (findMessageTracker (assignStreamId (state.sessionTrackers i) normal).2
      (assignStreamId (state.sessionTrackers i) normal).1.streamId true).1 = some j := by
    unfold findMessageTracker SlotTable.acquire
    rw [hstream, if_neg hst, if_pos rfl, htrackers, hj]
  unfold assignIds
  rw [if_neg hs, hsession]
  simp only
  split
  · rename_i hfind
    rw [hfind] at hmessage
    contradiction
  · exact ⟨_, _, rfl⟩

theorem assigned_explicit {state' : StreamState} {normal : RecvPacket} {a : Assigned}
    (h : AssignedTo state state' normal a) (hst : normal.streamId ≠ 0)
    (hm : normal.messageId ≠ 0) : a.packet = normal := by
  rw [h.packet, h.stream hst, h.message hm]

theorem not_arrived_le (h : Reassembling msg state arrived next) {i : Fin msg.count}
    (hi : i ∉ arrived) : next ≤ i.val := by
  by_contra hlt
  exact hi (h.returned i (by omega))

theorem no_collision (h : Reassembling msg state arrived next) {i : Fin msg.count}
    (hi : i ∉ arrived) : ∀ q ∈ queued state, fragmentKey q ≠ fragmentKey (msg.fragment i) := by
  intro q hq hkey
  have hparts : q.sessionId = msg.sessionId ∧ q.streamId = msg.streamId ∧
      q.messageId = msg.messageId ∧ q.fragmentIndex = (msg.fragment i).fragmentIndex := by
    simpa [fragmentKey, msg.session i, msg.stream i, msg.message i] using hkey
  obtain ⟨hs, hst, hm, hindex⟩ := hparts
  have hmem : q ∈ (queued state).filter msg.Owns := Multiset.mem_filter.mpr ⟨hq, hs, hst, hm⟩
  rw [h.queue] at hmem
  obtain ⟨j, hj, rfl⟩ := Multiset.mem_map.mp hmem
  obtain rfl := msg.held_injective hindex
  exact hi (Finset.mem_filter.mp hj).1

theorem card_arrived_lt {i : Fin msg.count} (hi : i ∉ arrived) : arrived.card < msg.count := by
  have hlt := Finset.card_lt_univ_of_notMem hi
  rwa [Fintype.card_fin] at hlt

theorem filter_insert_arrived {i : Fin msg.count} (hle : next ≤ i.val) (hi : i ∉ arrived) :
    ((insert i arrived).filter fun j => next ≤ j.val).val.map msg.held =
      msg.held i ::ₘ (arrived.filter fun j => next ≤ j.val).val.map msg.held := by
  have hnot : i ∉ arrived.filter fun j => next ≤ j.val := fun h => hi (Finset.mem_filter.mp h).1
  rw [Finset.filter_insert, if_pos hle, Finset.insert_val_of_notMem hnot, Multiset.map_cons]

theorem begin_fragment (h : Reassembling msg state arrived next) {i : Fin msg.count}
    (hi : i ∉ arrived) : ∃ t, tracker state msg.sessionId msg.streamId = some t ∧
      ∀ id, ∃ t', messageTrackerBegin { t with nextMessageId := id } (msg.fragment i) = some t' ∧
        t'.messageId = msg.messageId ∧ t'.nextFragmentIndex.toNat = next ∧
        t'.fragmentCount.toNat = msg.count := by
  have hmessage : (msg.fragment i).messageId ≠ 0 := by rw [msg.message]; exact msg.message_ne
  by_cases hempty : arrived = ∅
  · obtain ⟨t, ht, hidle⟩ := h.idle (.inl hempty)
    refine ⟨t, ht, ?_⟩
    intro id
    have hnext : next = 0 := by
      by_contra hpos
      have hmem := h.returned ⟨0, by have := msg.many; omega⟩ (by change 0 < next; omega)
      rw [hempty] at hmem
      exact absurd hmem (Finset.notMem_empty _)
    refine ⟨_, begin_idle (msg.fragment_not_singular i) hmessage hidle, msg.message i, ?_,
      msg.total i⟩
    exact hnext.symm
  · have hlt : next < msg.count := lt_of_le_of_lt (not_arrived_le h hi) i.isLt
    obtain ⟨t, ht, hm, hn, hc⟩ := h.busy hempty hlt
    refine ⟨t, ht, ?_⟩
    intro id
    have hcount : t.fragmentCount ≠ 0 := by
      intro hz
      rw [hz] at hc
      have := msg.many
      change 0 = msg.count at hc
      omega
    refine ⟨{ t with nextMessageId := id }, ?_, hm, hn, hc⟩
    exact begin_same (msg.fragment_not_singular i) hmessage (hm.trans (msg.message i).symm) hcount

/-- A packet under ids of its own that its tracker takes goes into the queue, if there is room for
    it and nothing under its key. -/
theorem ingest_accepted {normal : RecvPacket} {a : Assigned} {state1 : StreamState}
    {t : MessageTracker} (hassign : assignIds state normal = (some a, state1))
    (hpacket : a.packet = normal) (hs : normal.sessionId ≠ 0)
    (hbegin : messageTrackerBegin (offered state1 a) a.packet = some t)
    (hfree : ∀ q ∈ queued state, fragmentKey q ≠ fragmentKey normal)
    (hroom : (queued state).card < READY_QUEUE_CAPACITY) :
    ∃ state', ingest state normal = (true, state') ∧ state'.adapterLib = state.adapterLib ∧
      queued state' = stored normal ::ₘ queued state ∧
      tracker state' normal.sessionId normal.streamId = some t := by
  obtain ⟨_, hno, -⟩ | ⟨_, _, hsome, -, hnone, -⟩ |
      ⟨a', state1', t', state2, hsome, -, hb', hclaim, -, hin⟩ := ingest_cases state normal
  · rw [hassign] at hno
    simp at hno
  · rw [hassign] at hsome
    obtain ⟨rfl, rfl⟩ : a = _ ∧ state1 = _ := by simpa using hsome
    rw [hbegin] at hnone
    contradiction
  rw [hassign] at hsome
  obtain ⟨rfl, rfl⟩ : a = _ ∧ state1 = _ := by simpa using hsome
  obtain rfl : t = t' := Option.some.inj (hbegin.symm.trans hb')
  rw [hpacket] at hin
  have hsame := queued_of_readyQueue hclaim.queue
  obtain ⟨hok, -, -, hq, hframe⟩ | ⟨-, hdup | hfull⟩ := queuePacket_cases state2 hs
  · refine ⟨(queuePacket state2 normal).2, by rw [hin]; exact Prod.ext hok rfl, ?_, ?_, ?_⟩
    · rw [hframe.2, hclaim.adapters]
    · rw [hq, hsame]
    · rw [hframe.tracker]
      have hhere := hclaim.here
      rwa [hpacket] at hhere
  · obtain ⟨q, hq, hkey⟩ := hdup
    rw [hsame] at hq
    exact absurd hkey (hfree q hq)
  · rw [hsame] at hfull
    omega

theorem reassembling_insert {state' : StreamState} {t : MessageTracker} {i : Fin msg.count}
    (hi : i ∉ arrived) (hle : next ≤ i.val)
    (hreturned : ∀ j : Fin msg.count, j.val < next → j ∈ arrived)
    (hold : (queued state).filter msg.Owns =
      (arrived.filter fun i => next ≤ i.val).val.map msg.held)
    (hroom : (queued state).card + (msg.count - arrived.card) ≤ READY_QUEUE_CAPACITY)
    (hqueue : queued state' = msg.held i ::ₘ queued state)
    (ht : tracker state' msg.sessionId msg.streamId = some t) (hm : t.messageId = msg.messageId)
    (hn : t.nextFragmentIndex.toNat = next) (hc : t.fragmentCount.toNat = msg.count) :
    Reassembling msg state' (insert i arrived) next := by
  have hlt := i.isLt
  have hcard := card_arrived_lt hi
  refine ⟨by omega, ?_, ?_, ?_, ?_, ?_⟩
  · intro j hj
    exact Finset.mem_insert_of_mem (hreturned j hj)
  · rw [hqueue, Multiset.filter_cons_of_pos _ (msg.owns_held i), hold]
    exact (filter_insert_arrived hle hi).symm
  · rw [hqueue, Multiset.card_cons, Finset.card_insert_of_notMem hi]
    omega
  · rintro (hz | hz)
    · exact absurd hz (Finset.insert_ne_empty i arrived)
    · omega
  · intro _ _
    exact ⟨t, ht, hm, hn, hc⟩

theorem ingest_fragment (h : Reassembling msg state arrived next) {i : Fin msg.count}
    (hi : i ∉ arrived) : ∃ state', ingest state (msg.fragment i) = (true, state') ∧
      state'.adapterLib = state.adapterLib ∧ queued state' = msg.held i ::ₘ queued state ∧
      Reassembling msg state' (insert i arrived) next := by
  have hs : (msg.fragment i).sessionId ≠ 0 := by rw [msg.session]; exact msg.session_ne
  have hst : (msg.fragment i).streamId ≠ 0 := by rw [msg.stream]; exact msg.stream_ne
  have hm : (msg.fragment i).messageId ≠ 0 := by rw [msg.message]; exact msg.message_ne
  obtain ⟨t, ht, hbegin⟩ := begin_fragment h hi
  have ht' : tracker state (msg.fragment i).sessionId (msg.fragment i).streamId = some t := by
    rw [msg.session, msg.stream]; exact ht
  obtain ⟨a, state1, hassign⟩ := assignIds_explicit hs hst ht'
  have hspec := assignIds_some hassign
  have hpacket := assigned_explicit hspec hst hm
  obtain ⟨id, hoffered⟩ := hspec.here
  obtain ⟨t2, hb, hm2, hn2, hc2⟩ := hbegin id
  have hbegin2 : messageTrackerBegin (offered state1 a) a.packet = some t2 := by
    unfold offered
    rw [hoffered, hpacket, ht']
    exact hb
  have hcard := card_arrived_lt hi
  have hroom := h.room
  obtain ⟨state', hin, hlib, hqueue, htracker⟩ := ingest_accepted hassign hpacket hs hbegin2
    (no_collision h hi) (by omega)
  rw [msg.session, msg.stream] at htracker
  exact ⟨state', hin, hlib, hqueue, reassembling_insert hi (not_arrived_le h hi) h.returned h.queue
    h.room hqueue htracker hm2 hn2 hc2⟩

end Ingest

section Drain

variable {msg : Message} {state state' : StreamState} {arrived : Finset (Fin msg.count)}
  {next : ℕ} {callerUser : Bool} {p : RecvPacket}

theorem owned_held (h : Reassembling msg state arrived next) (hp : p ∈ queued state)
    (howns : msg.Owns p) : ∃ i ∈ arrived, next ≤ i.val ∧ p = msg.held i := by
  have hmem : p ∈ (queued state).filter msg.Owns := Multiset.mem_filter.mpr ⟨hp, howns⟩
  rw [h.queue] at hmem
  obtain ⟨i, hi, rfl⟩ := Multiset.mem_map.mp hmem
  obtain ⟨ha, hle⟩ := Finset.mem_filter.mp hi
  exact ⟨i, ha, hle, rfl⟩

theorem tracker_idle_or_busy (h : Reassembling msg state arrived next) :
    ∃ t, tracker state msg.sessionId msg.streamId = some t ∧
      (t.messageId = 0 ∨ t.messageId = msg.messageId ∧ t.nextFragmentIndex.toNat = next ∧
        t.fragmentCount.toNat = msg.count ∧ next < msg.count) := by
  by_cases hidle : arrived = ∅ ∨ next = msg.count
  · obtain ⟨t, ht, hm⟩ := h.idle hidle
    exact ⟨t, ht, .inl hm⟩
  · rw [not_or] at hidle
    have hlt := lt_of_le_of_ne h.next_le hidle.2
    obtain ⟨t, ht, hm, hn, hc⟩ := h.busy hidle.1 hlt
    exact ⟨t, ht, .inr ⟨hm, hn, hc, hlt⟩⟩

theorem deliverable_on_stream (h : Reassembling msg state arrived next)
    (hd : packetIsDeliverable state p = true) (hp : ¬ Singular p) (hs : p.sessionId = msg.sessionId)
    (hst : p.streamId = msg.streamId) :
    msg.Owns p ∧ p.fragmentIndex.toNat = next ∧ next < msg.count ∧
      ∃ t, tracker state msg.sessionId msg.streamId = some t ∧ t.messageId = msg.messageId ∧
        t.nextFragmentIndex.toNat = next ∧ t.fragmentCount.toNat = msg.count := by
  obtain ⟨-, -, t, ht, hne, hm, hindex⟩ := (packetIsDeliverable_fragment hp).mp hd
  rw [hs, hst] at ht
  obtain ⟨t', ht', hcase⟩ := tracker_idle_or_busy h
  obtain rfl : t = t' := Option.some.inj (ht.symm.trans ht')
  obtain hz | ⟨hid, hn, hc, hlt⟩ := hcase
  · exact absurd hz hne
  · exact ⟨⟨hs, hst, hm.trans hid⟩, by rw [hindex]; exact hn, hlt, t, ht, hid, hn, hc⟩

theorem nextFragmentIndex_succ {t : MessageTracker} {count : ℕ}
    (hn : t.nextFragmentIndex.toNat = next) (hlt : next < count) (hsmall : count ≤ 64) :
    t.nextFragmentIndex < 4294967295 ∧ (t.nextFragmentIndex + 1).toNat = next + 1 := by
  constructor
  · rw [UInt32.lt_iff_toNat_lt, hn]
    change next < 4294967295
    omega
  · rw [UInt32.toNat_add, hn]
    change (next + 1) % 4294967296 = next + 1
    omega

theorem advance_middle {t : MessageTracker} {count : ℕ} (hn : t.nextFragmentIndex.toNat = next)
    (hc : t.fragmentCount.toNat = count) (hlt : next + 1 < count) (hsmall : count ≤ 64) :
    (advanceTracker t).messageId = t.messageId ∧
    (advanceTracker t).nextFragmentIndex.toNat = next + 1 ∧
    (advanceTracker t).fragmentCount.toNat = count := by
  obtain ⟨hmax, hsucc⟩ := nextFragmentIndex_succ hn (by omega : next < count) hsmall
  have hopen : ¬ (t.fragmentCount = 0 ∨ t.fragmentCount ≤ t.nextFragmentIndex + 1) := by
    rintro (hz | hle)
    · rw [hz] at hc
      change 0 = count at hc
      omega
    · rw [UInt32.le_iff_toNat_le, hsucc, hc] at hle
      omega
  unfold advanceTracker
  simp only [if_pos hmax, if_neg hopen]
  exact ⟨trivial, hsucc, hc⟩

theorem advance_last {t : MessageTracker} {count : ℕ} (hn : t.nextFragmentIndex.toNat = next)
    (hc : t.fragmentCount.toNat = count) (hlast : next + 1 = count) (hsmall : count ≤ 64) :
    (advanceTracker t).messageId = 0 := by
  obtain ⟨hmax, hsucc⟩ := nextFragmentIndex_succ hn (by omega : next < count) hsmall
  have hfull : t.fragmentCount = 0 ∨ t.fragmentCount ≤ t.nextFragmentIndex + 1 := by
    right
    rw [UInt32.le_iff_toNat_le, hsucc, hc]
    omega
  unfold advanceTracker
  simp only [if_pos hmax, if_pos hfull]

theorem filter_next_arrived {i : Fin msg.count} (hi : i ∈ arrived) (hnext : i.val = next) :
    (arrived.filter fun j => next ≤ j.val).val.map msg.held =
      msg.held i ::ₘ (arrived.filter fun j => next + 1 ≤ j.val).val.map msg.held := by
  have hnot : i ∉ arrived.filter fun j => next + 1 ≤ j.val := by
    intro h
    have := (Finset.mem_filter.mp h).2
    omega
  have hsplit : (arrived.filter fun j => next ≤ j.val) =
      insert i (arrived.filter fun j => next + 1 ≤ j.val) := by
    ext j
    simp only [Finset.mem_filter, Finset.mem_insert]
    constructor
    · rintro ⟨hj, hle⟩
      by_cases he : j = i
      · exact .inl he
      · have hne : j.val ≠ i.val := fun e => he (Fin.ext e)
        exact .inr ⟨hj, by omega⟩
    · rintro (rfl | ⟨hj, hle⟩)
      · exact ⟨hi, hnext.ge⟩
      · exact ⟨hj, by omega⟩
  rw [hsplit, Finset.insert_val_of_notMem hnot, Multiset.map_cons]

theorem drain_held (h : Reassembling msg state arrived next) {i : Fin msg.count}
    (hi : i ∈ arrived) (hd : Drained state state' callerUser (msg.held i)) :
    i.val = next ∧ Reassembling msg state' arrived (next + 1) := by
  obtain ⟨-, hindex, hlt, t, ht, hm, hn, hc⟩ := deliverable_on_stream h hd.deliverable
    (msg.held_not_singular i) (msg.session i) (msg.stream i)
  have hnext : i.val = next := (msg.held_index i).symm.trans hindex
  have hafter : tracker state' msg.sessionId msg.streamId = some (advanceTracker t) := by
    have hhere := hd.here
    rw [show (msg.held i).sessionId = msg.sessionId from msg.session i,
      show (msg.held i).streamId = msg.streamId from msg.stream i, ht] at hhere
    rw [hhere]
    exact congrArg some (if_neg (msg.held_not_singular i))
  refine ⟨hnext, ⟨hlt, ?_, ?_, ?_, ?_, ?_⟩⟩
  · intro j hj
    by_cases he : j = i
    · rw [he]; exact hi
    · have hne : j.val ≠ i.val := fun e => he (Fin.ext e)
      exact h.returned j (by omega)
  · have hq := h.queue
    rw [hd.queue, Multiset.filter_cons_of_pos _ (msg.owns_held i),
      filter_next_arrived hi hnext] at hq
    exact (Multiset.cons_inj_right _).mp hq
  · have hroom := h.room
    rw [hd.queue, Multiset.card_cons] at hroom
    omega
  · rintro (hz | hz)
    · rw [hz] at hi
      exact absurd hi (Finset.notMem_empty i)
    · exact ⟨_, hafter, advance_last hn hc hz msg.small⟩
  · intro _ hlt'
    obtain ⟨hm', hn', hc'⟩ := advance_middle hn hc hlt' msg.small
    exact ⟨_, hafter, hm'.trans hm, hn', hc'⟩

theorem drain_other (h : Reassembling msg state arrived next) (hp : ¬ msg.Owns p)
    (hd : Drained state state' callerUser p) : Reassembling msg state' arrived next := by
  have hsame : tracker state' msg.sessionId msg.streamId =
      tracker state msg.sessionId msg.streamId := by
    by_cases hon : msg.sessionId = p.sessionId ∧ msg.streamId = p.streamId
    · have hsing : Singular p := by
        by_contra hmany
        exact hp (deliverable_on_stream h hd.deliverable hmany hon.1.symm hon.2.symm).1
      have hid : stepped p = id := by funext t; exact if_pos hsing
      rw [hon.1, hon.2, hd.here, hid, Option.map_id]
      rfl
    · exact hd.elsewhere _ _ hon
  refine ⟨h.next_le, h.returned, ?_, ?_, ?_, ?_⟩
  · rw [← h.queue, hd.queue, Multiset.filter_cons_of_neg _ hp]
  · have hroom := h.room
    rw [hd.queue, Multiset.card_cons] at hroom
    omega
  · rw [hsame]; exact h.idle
  · rw [hsame]; exact h.busy

/-- What a drain does to a message that is coming in: it returns the next fragment, or a
    packet of something else, or nothing. -/
theorem drain_reassembling (h : Reassembling msg state arrived next) (callerUser : Bool) :
    (∃ i state', i.val = next ∧ drain state callerUser = (some (msg.held i), state') ∧
      state'.adapterLib = state.adapterLib ∧ queued state = msg.held i ::ₘ queued state' ∧
      Reassembling msg state' arrived (next + 1)) ∨
    (∃ p state', ¬ msg.Owns p ∧ drain state callerUser = (some p, state') ∧
      state'.adapterLib = state.adapterLib ∧ queued state = p ::ₘ queued state' ∧
      Reassembling msg state' arrived next) ∨
    drain state callerUser = (none, state) := by
  obtain ⟨p, state', hdrain, hd⟩ | ⟨hnone, -⟩ := drain_cases state callerUser
  · by_cases howns : msg.Owns p
    · obtain ⟨i, hi, -, rfl⟩ := owned_held h (by rw [hd.queue]; simp) howns
      obtain ⟨hnext, hre⟩ := drain_held h hi hd
      exact .inl ⟨i, state', hnext, hdrain, hd.adapters, hd.queue, hre⟩
    · exact .inr (.inl ⟨p, state', howns, hdrain, hd.adapters, hd.queue, drain_other h howns hd⟩)
  · exact .inr (.inr hnone)

/-- A drain that finds nothing leaves no returnable fragment behind. -/
theorem drain_none_missing (h : Reassembling msg state arrived next)
    (hread : ∀ q ∈ queued state, Readable state callerUser q)
    (hnone : drain state callerUser = (none, state)) (hlt : next < msg.count) :
    (⟨next, hlt⟩ : Fin msg.count) ∉ arrived := by
  intro hi
  obtain ⟨t, ht, hm, hn, -⟩ := h.busy (Finset.ne_empty_of_mem hi) hlt
  have hmem : msg.held ⟨next, hlt⟩ ∈ (queued state).filter msg.Owns := by
    rw [h.queue]
    exact Multiset.mem_map_of_mem _ (Finset.mem_filter.mpr ⟨hi, le_rfl⟩)
  have hq := (Multiset.mem_filter.mp hmem).1
  have hdeliver : packetIsDeliverable state (msg.held ⟨next, hlt⟩) = true := by
    refine (packetIsDeliverable_fragment (msg.held_not_singular _)).mpr ⟨?_, ?_, t, ?_, ?_, ?_, ?_⟩
    · rw [(msg.owns_held _).1]; exact msg.session_ne
    · rw [(msg.owns_held _).2.1]; exact msg.stream_ne
    · rw [(msg.owns_held _).1, (msg.owns_held _).2.1]; exact ht
    · rw [hm]; exact msg.message_ne
    · rw [(msg.owns_held _).2.2, hm]
    · apply UInt32.toNat_inj.mp
      rw [msg.held_index, hn]
  obtain ⟨p, state', hsome, -⟩ | ⟨-, hno | ⟨q, hqm, -, hunread⟩⟩ := drain_cases state callerUser
  · rw [hnone] at hsome
    simp at hsome
  · rw [hno _ hq] at hdeliver
    contradiction
  · exact hunread (hread q hqm)

end Drain

end Siglatch.MuxReassembly
