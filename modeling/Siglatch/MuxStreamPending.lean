import Siglatch.MuxStreamIds
import Siglatch.MuxStreamRuns

set_option autoImplicit false

namespace Siglatch.MuxStreamPending
open MuxTypes MuxStream MuxStreamView MuxStreamOps MuxStreamRuns MuxStreamIds StepRuns

/-! When the counter of queued packets and the search for one to hand out agree. -/

/-- A single packet that is its own first fragment, or the fragment that a message in flight is
waiting for. -/
def Takeable (state : StreamState) (p : RecvPacket) : Prop :=
  Singular p ∧ p.fragmentIndex = 0 ∨ ¬ Singular p ∧ Awaited state p

/-- The queue is empty, or the first of its packets that can be taken now is one whose user data
has an adapter. -/
def Served (state : StreamState) : Prop :=
  queued state = 0 ∨ ∃ i, state.readyQueue i ∈ queued state ∧
    Takeable state (state.readyQueue i) ∧ Readable state true (state.readyQueue i) ∧
    ∀ j, j < i → state.readyQueue j ∈ queued state → ¬ Takeable state (state.readyQueue j)

/-- The counter counts the queue, and every queued packet is of a tracked session and a stream. -/
structure Kept (state : StreamState) : Prop where
  count : state.readyCount = (queued state).card
  session : ∀ p ∈ queued state, p.sessionId ∈ trackedSessions state
  stream : ∀ p ∈ queued state, p.streamId ≠ 0

section Steps

variable {state : StreamState}

theorem assignIds_count (state : StreamState) (normal : RecvPacket) :
    (assignIds state normal).2.readyCount = state.readyCount := by
  by_cases zero : normal.sessionId = 0
  · unfold assignIds
    rw [if_pos zero]
  · rcases assignIds_outcome state zero with ⟨-, assigned⟩ | ⟨-, -, after, assigned, counted, -⟩ |
      ⟨-, -, a, after, assigned, -, numbered⟩
    · rw [assigned]
    · rw [assigned]
      exact counted.count
    · rw [assigned]
      exact numbered.counted.count

theorem queuePacket_count (state : StreamState) (p : RecvPacket) :
    (queuePacket state p).2.readyCount =
      state.readyCount + (queuePacket state p).1.toNat := by
  unfold queuePacket
  split
  · split
    · rfl
    · rfl
  · split
    · rfl
    · rfl

theorem ingest_count (state : StreamState) (normal : RecvPacket) :
    (ingest state normal).2.readyCount =
      state.readyCount + (ingest state normal).1.toNat := by
  have same := assignIds_count state normal
  unfold ingest
  split
  · rename_i after assigned
    rw [assigned] at same
    exact same
  · rename_i a after assigned
    rw [assigned] at same
    dsimp only
    split
    · exact same
    · rw [queuePacket_count]
      exact congrArg (· + _) same

theorem kept_empty (empty : queued state = 0) (count : state.readyCount = 0) : Kept state := by
  have absent (p : RecvPacket) : p ∉ queued state := by
    rw [empty]
    exact Multiset.notMem_zero p
  refine ⟨?_, fun p member => absurd member (absent p), fun p member => absurd member (absent p)⟩
  rw [count, empty]
  exact Multiset.card_zero.symm

theorem ingest_sessions_le (state : StreamState) (normal : RecvPacket) :
    trackedSessions state ≤ trackedSessions (ingest state normal).2 := by
  by_cases zero : normal.sessionId = 0
  · rw [ingest_nameless zero]
  · rw [ingest_trackedSessions state zero]
    split
    · exact le_rfl
    · split
      · exact le_rfl
      · exact Multiset.le_cons_self _ _

theorem kept_ingest (kept : Kept state) (normal : RecvPacket) : Kept (ingest state normal).2 := by
  have grows := ingest_sessions_le state normal
  have stays (same : queued (ingest state normal).2 = queued state)
      (refused : (ingest state normal).1 = false) : Kept (ingest state normal).2 := by
    refine ⟨?_, ?_, ?_⟩
    · rw [ingest_count, refused, same]
      exact kept.count
    · intro p member
      rw [same] at member
      exact Multiset.mem_of_le grows (kept.session p member)
    · rw [same]
      exact kept.stream
  rcases ingest_cases state normal with ⟨after, assigned, ingested⟩ |
    ⟨a, after, -, spec, -, ingested⟩ |
    ⟨a, before, t, after, -, spec, -, claimed, sessions, ingested⟩
  · exact stays (by rw [ingested]; exact queued_of_readyQueue (assignIds_none assigned).1)
      (by rw [ingested])
  · exact stays (by rw [ingested]; exact queued_of_readyQueue spec.queue) (by rw [ingested])
  · have session : a.packet.sessionId ≠ 0 := by
      rw [spec.session]
      exact spec.session_ne
    have same := queued_of_readyQueue claimed.queue
    rcases queuePacket_cases after session with ⟨taken, -, -, queue, frame⟩ | ⟨unchanged, -⟩
    · have member : normal.sessionId ∈ trackedSessions (ingest state normal).2 := by
        rw [ingested, frame.trackedSessions]
        by_contra missing
        have tracked := claimed.here
        rw [tracker_none_of_untracked (sessionAt_none_iff.mpr missing)] at tracked
        exact absurd tracked (Option.some_ne_none t).symm
      rw [same] at queue
      rw [← ingested] at taken queue
      refine ⟨?_, ?_, ?_⟩
      · rw [ingest_count, taken, queue, Multiset.card_cons, kept.count]
        rfl
      · intro p queuedNow
        rw [queue] at queuedNow
        rcases Multiset.mem_cons.mp queuedNow with rfl | earlier
        · change a.packet.sessionId ∈ _
          rw [spec.session]
          exact member
        · exact Multiset.mem_of_le grows (kept.session p earlier)
      · intro p queuedNow
        rw [queue] at queuedNow
        rcases Multiset.mem_cons.mp queuedNow with rfl | earlier
        · exact spec.stream_ne
        · exact kept.stream p earlier
    · exact stays (by rw [ingested, unchanged]; exact same) (by rw [ingested, unchanged])

theorem kept_drain (kept : Kept state) (callerUser : Bool) : Kept (drain state callerUser).2 := by
  rcases drain_cases state callerUser with ⟨p, after, drained, spec⟩ | ⟨drained, -⟩
  · have earlier {q : RecvPacket} (member : q ∈ queued after) : q ∈ queued state := by
      rw [spec.queue]
      exact Multiset.mem_cons_of_mem member
    have count : after.readyCount = state.readyCount - 1 := by
      have returned : (drain state callerUser).1 = some p := by rw [drained]
      rw [← show (drain state callerUser).2 = after by rw [drained]]
      unfold drain at returned ⊢
      split
      · rename_i missed
        rw [missed] at returned
        contradiction
      · rename_i i found
        rw [found] at returned
        dsimp only at returned ⊢
        split
        · rename_i unread
          rw [if_pos unread] at returned
          contradiction
        · rename_i readable
          rw [if_neg readable] at returned
          split
          · rename_i unread
            rw [if_pos unread] at returned
            contradiction
          · rfl
    rw [drained]
    refine ⟨?_, ?_, fun q member => kept.stream q (earlier member)⟩
    · rw [count, kept.count, spec.queue, Multiset.card_cons]
      rfl
    · intro q member
      rw [spec.sessions]
      exact kept.session q (earlier member)
  · rw [drained]
    exact kept

theorem expiredCount_eq (state : StreamState) (nowMs : UInt64) :
    expiredCount state nowMs = ((queued state).filter fun p => isExpired p nowMs = true).card := by
  have gone : SlotTable.contents occupied (fun i =>
      if isExpired (state.readyQueue i) nowMs then state.readyQueue i else RecvPacket.zero) =
      (queued state).filter fun p => isExpired p nowMs = true := by
    refine SlotTable.contents_filter ?_
    intro i
    by_cases free : (state.readyQueue i).sessionId = 0
    · have fresh : isExpired (state.readyQueue i) nowMs = false := if_pos free
      rw [fresh, occupied_eq_none.mpr free]
      rfl
    · rw [occupied_eq_some.mpr ⟨rfl, free⟩]
      cases old : isExpired (state.readyQueue i) nowMs with
      | true => simp [Option.filter, old, occupied_eq_some.mpr ⟨rfl, free⟩]
      | false => simp [Option.filter, old, show occupied RecvPacket.zero = none from rfl]
  rw [← gone, SlotTable.card_contents]
  unfold expiredCount
  congr 1
  ext i
  simp only [Finset.mem_filter, Finset.mem_univ, true_and]
  cases old : isExpired (state.readyQueue i) nowMs with
  | true =>
    have held : (state.readyQueue i).sessionId ≠ 0 := by
      intro free
      rw [show isExpired (state.readyQueue i) nowMs = false from if_pos free] at old
      contradiction
    simp [occupied_eq_some.mpr ⟨rfl, held⟩]
  | false => simp [show occupied RecvPacket.zero = none from rfl]

theorem kept_expire (kept : Kept state) (nowMs : UInt64) : Kept (expire state nowMs).2 := by
  have earlier {p : RecvPacket} (member : p ∈ queued (expire state nowMs).2) : p ∈ queued state :=
    Multiset.mem_of_le (expire_queued_le state nowMs) member
  refine ⟨?_, ?_, fun p member => kept.stream p (earlier member)⟩
  · change state.readyCount - expiredCount state nowMs = _
    have split := Multiset.filter_add_not (fun p => isExpired p nowMs = true) (queued state)
    have sizes := congrArg Multiset.card split
    rw [Multiset.card_add] at sizes
    rw [kept.count, expiredCount_eq, expire_queued]
    simp only [Bool.not_eq_true] at sizes
    omega
  · intro p member
    rw [(expire_frame state nowMs).trackedSessions]
    exact kept.session p (earlier member)

theorem kept_step (state : StreamState) (op : Op) (kept : Kept state) : Kept (step state op).1 := by
  cases op with
  | ingest normal => exact kept_ingest kept normal
  | drain callerUser => exact kept_drain kept callerUser
  | expire nowMs => exact kept_expire kept nowMs

end Steps

section Drain

variable {state : StreamState}

theorem deliverable_iff_takeable (kept : Kept state) {p : RecvPacket} (member : p ∈ queued state) :
    packetIsDeliverable state p = true ↔ Takeable state p := by
  have session : p.sessionId ≠ 0 := (queued_mem.mp member).1
  have stream := kept.stream p member
  have tracked : (sessionAt state p.sessionId).isSome := by
    rw [Option.isSome_iff_ne_none]
    intro untracked
    exact sessionAt_none_iff.mp untracked (kept.session p member)
  unfold Takeable
  by_cases single : Singular p
  · rw [packetIsDeliverable_singular single]
    simp [session, stream, tracked, single]
  · rw [packetIsDeliverable_fragment single]
    simp [session, stream, single]

theorem found_iff (kept : Kept state) (i : Fin READY_QUEUE_CAPACITY) :
    ((state.readyQueue i).sessionId != 0 && packetIsDeliverable state (state.readyQueue i)) = true ↔
      state.readyQueue i ∈ queued state ∧ Takeable state (state.readyQueue i) := by
  rw [Bool.and_eq_true, bne_iff_ne]
  constructor
  · rintro ⟨occupied, deliverable⟩
    have member : state.readyQueue i ∈ queued state := queued_mem.mpr ⟨occupied, i, rfl⟩
    exact ⟨member, (deliverable_iff_takeable kept member).mp deliverable⟩
  · rintro ⟨member, takeable⟩
    exact ⟨(queued_mem.mp member).1, (deliverable_iff_takeable kept member).mpr takeable⟩

theorem drain_returns_iff (kept : Kept state) :
    (drain state true).1.isSome = true ↔ ∃ i, state.readyQueue i ∈ queued state ∧
      Takeable state (state.readyQueue i) ∧ Readable state true (state.readyQueue i) ∧
      ∀ j, j < i → state.readyQueue j ∈ queued state → ¬ Takeable state (state.readyQueue j) := by
  cases found : SlotTable.find? state.readyQueue fun slot =>
      slot.sessionId != 0 && packetIsDeliverable state slot with
  | none =>
    have nothing : (drain state true).1 = none := by
      unfold drain
      rw [found]
    rw [nothing]
    refine iff_of_false Bool.false_ne_true ?_
    rintro ⟨i, member, takeable, -⟩
    have missed := SlotTable.find?_none_iff.mp found i
    rw [(found_iff kept i).mpr ⟨member, takeable⟩] at missed
    contradiction
  | some i =>
    obtain ⟨member, takeable⟩ := (found_iff kept i).mp (SlotTable.find?_holds found)
    have earlier (j : Fin READY_QUEUE_CAPACITY) (before : j < i)
        (queuedThere : state.readyQueue j ∈ queued state) :
          ¬ Takeable state (state.readyQueue j) := by
      intro takeableThere
      have missed := SlotTable.find?_first found before
      rw [(found_iff kept j).mpr ⟨queuedThere, takeableThere⟩] at missed
      contradiction
    have returned : (drain state true).1.isSome = true ↔
        Readable state true (state.readyQueue i) := by
      unfold drain
      rw [readable_iff, found]
      dsimp only
      split
      · rename_i unread
        simp at unread
      · split
        · rename_i unread
          simp [unread]
        · rename_i copied
          simp only [Bool.not_eq_true] at copied
          simp [copied]
    rw [returned]
    constructor
    · intro readable
      exact ⟨i, member, takeable, readable, earlier⟩
    · rintro ⟨k, queuedThere, takeableThere, readable, first⟩
      rcases lt_trichotomy i k with before | rfl | before
      · exact absurd takeable (first i before member)
      · exact readable
      · exact absurd takeableThere (earlier k before queuedThere)

theorem hasPending_iff (kept : Kept state) : hasPending state = true ↔ queued state ≠ 0 := by
  unfold hasPending
  rw [decide_eq_true_iff, kept.count, Multiset.card_pos]

theorem pending_iff_served (kept : Kept state) :
    hasPending state = (drain state true).1.isSome ↔ Served state := by
  have returns := drain_returns_iff kept
  have pending := hasPending_iff kept
  unfold Served
  rw [← returns, Bool.eq_iff_iff, pending]
  by_cases empty : queued state = 0
  · have nothing : ¬ (drain state true).1.isSome = true := by
      rw [returns]
      rintro ⟨i, member, -⟩
      rw [empty] at member
      exact Multiset.notMem_zero _ member
    simp [empty, nothing]
  · simp [empty]

theorem kept_run (adapters : Option (List UInt32)) (ops : List Op) :
    Kept (run step (start adapters) ops).1 :=
  @run_history _ _ _ step (fun state _ => Kept state) (fun _ => True)
    (fun state _ op _ kept => kept_step state op kept) (start adapters)
    (kept_empty (queued_start adapters) rfl) ops fun _ _ => trivial

/-- In every reachable state, packets are said to be pending exactly when a drain with a user
buffer returns one, if and only if the state is served. -/
theorem pending_agrees_iff (adapters : Option (List UInt32)) (ops : List Op) :
    hasPending (run step (start adapters) ops).1 =
        (drain (run step (start adapters) ops).1 true).1.isSome ↔
      Served (run step (start adapters) ops).1 :=
  pending_iff_served (kept_run adapters ops)

def orphan : RecvPacket := { RecvPacket.zero with
  sessionId := 1, streamId := 1, messageId := 1, receivedMs := 1
  fragmentIndex := 1, fragmentCount := 2 }

theorem orphan_pending :
    ¬ ∀ (adapters : Option (List UInt32)) (ops : List Op),
      hasPending (run step (start adapters) ops).1 =
        (drain (run step (start adapters) ops).1 true).1.isSome := by
  intro claimed
  have agrees := claimed none [.ingest orphan]
  have pending : hasPending (run step (start none) [.ingest orphan]).1 = true := by decide +kernel
  have stuck : (drain (run step (start none) [.ingest orphan]).1 true).1.isSome = false := by
    decide +kernel
  rw [pending, stuck] at agrees
  contradiction

end Drain

end Siglatch.MuxStreamPending
