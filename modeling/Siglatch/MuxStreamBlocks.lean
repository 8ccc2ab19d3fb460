import Siglatch.MuxStreamRuns

set_option autoImplicit false

namespace Siglatch.MuxStreamBlocks
open MuxTypes MuxStream MuxStreamView MuxStreamOps MuxStreamRuns StepRuns

/-! The fragmented messages that one stream hands out, told apart by its tracker. -/

section Stream

variable (sessionId : UInt64) (streamId : UInt32)

/-- A message in flight: its id, the fragment count recorded for it and the fragment awaited. -/
structure Flight where
  messageId : UInt64
  count : ℕ
  next : ℕ

def flightOf (t : MessageTracker) : Option Flight :=
  if t.messageId = 0 then none
  else some ⟨t.messageId, t.fragmentCount.toNat, t.nextFragmentIndex.toNat⟩

def flight (state : StreamState) : Option Flight :=
  (tracker state sessionId streamId).bind flightOf

/-- What happens on the stream: a message begins, with the fragment count that its tracker records,
or a packet of several fragments is drained. -/
inductive Mark where
  | began (messageId : UInt64) (count : ℕ)
  | fragment (messageId : UInt64) (index : ℕ)
  deriving DecidableEq

def beginMarks (before after : Option Flight) : List Mark :=
  match before, after with
  | none, some f => [.began f.messageId f.count]
  | _, _ => []

def drainMarks (drained : Option RecvPacket) : List Mark :=
  match drained with
  | none => []
  | some p =>
    if p.sessionId = sessionId ∧ p.streamId = streamId ∧ 1 < p.fragmentCount then
      [.fragment p.messageId p.fragmentIndex.toNat]
    else []

def markStep (state : StreamState) (op : Op) : StreamState × List Mark :=
  ((step state op).1, match op with
    | .ingest _ => beginMarks (flight sessionId streamId state)
        (flight sessionId streamId (step state op).1)
    | .drain callerUser => drainMarks sessionId streamId (drain state callerUser).1
    | .expire _ => [])

end Stream

def block (messageId : UInt64) (count n : ℕ) : List Mark :=
  .began messageId count :: (List.range n).map (.fragment messageId)

def whole (message : UInt64 × ℕ) : List Mark := block message.1 message.2 message.2

/-- Whole messages one after the other, and at most one more that is still short of fragments. -/
def InBlocks (marks : List Mark) : Prop :=
  ∃ done : List (UInt64 × ℕ), marks = done.flatMap whole ∨
    ∃ messageId count n, n < count ∧ marks = done.flatMap whole ++ block messageId count n

theorem block_succ (messageId : UInt64) (count n : ℕ) :
    block messageId count (n + 1) = block messageId count n ++ [.fragment messageId n] := by
  unfold block
  rw [List.range_succ, List.map_append]
  rfl

section Steps

variable {sessionId : UInt64} {streamId : UInt32} {state : StreamState}

/-- The fragment awaited exists. -/
def Sound (sessionId : UInt64) (streamId : UInt32) (state : StreamState) : Prop :=
  ∀ f, flight sessionId streamId state = some f → f.next < f.count

theorem flight_congr {state' : StreamState}
    (h : tracker state' sessionId streamId = tracker state sessionId streamId) :
    flight sessionId streamId state' = flight sessionId streamId state := by
  unfold flight
  rw [h]

theorem flightOf_sound (hsound : Sound sessionId streamId state) {t : MessageTracker}
    (ht : tracker state sessionId streamId = some t) (hm : t.messageId ≠ 0) :
    t.fragmentCount ≠ 0 ∧ t.nextFragmentIndex < t.fragmentCount := by
  have hlt := hsound ⟨t.messageId, t.fragmentCount.toNat, t.nextFragmentIndex.toNat⟩ (by
    unfold flight
    rw [ht]
    exact if_neg hm)
  refine ⟨?_, UInt32.lt_iff_toNat_lt.mpr hlt⟩
  intro hz
  rw [hz] at hlt
  exact absurd hlt (Nat.not_lt_zero _)

section Assigned

variable {after : StreamState} {normal : RecvPacket} {a : Assigned}

theorem flightOf_offered (assigned : AssignedTo state after normal a) :
    flightOf (offered after a) = flight normal.sessionId a.packet.streamId state := by
  obtain ⟨next, here⟩ := assigned.here
  unfold flight offered
  rw [here]
  cases tracker state normal.sessionId a.packet.streamId with
  | none => rfl
  | some t => rfl

theorem flight_assigned (assigned : AssignedTo state after normal a) :
    flight sessionId streamId after = flight sessionId streamId state := by
  by_cases on : sessionId = normal.sessionId ∧ streamId = a.packet.streamId
  · obtain ⟨rfl, rfl⟩ := on
    rw [← flightOf_offered assigned]
    unfold flight
    rw [tracker_of_assigned assigned]
    rfl
  · exact flight_congr (assigned.elsewhere _ _ on)

end Assigned

theorem flightOf_begin {t t' : MessageTracker} {p : RecvPacket}
    (begins : messageTrackerBegin t p = some t')
    (valid : t.messageId ≠ 0 → t.fragmentCount ≠ 0 ∧ t.nextFragmentIndex < t.fragmentCount) :
    flightOf t' = flightOf t ∨
    flightOf t = none ∧ ∃ f, flightOf t' = some f ∧ f.next = 0 ∧ 0 < f.count := by
  rcases begin_cases begins valid with ⟨rfl, -⟩ | ⟨several, idle, rfl⟩
  · exact .inl rfl
  · have named : p.messageId ≠ 0 := fun unnamed => by
      rw [begin_no_message unnamed] at begins
      cases begins
    have many := UInt32.lt_iff_toNat_lt.mp (not_singular_iff.mp several)
    exact .inr ⟨if_pos idle, _, if_neg named, rfl, lt_trans Nat.zero_lt_one many⟩

theorem flight_ingest (hsound : Sound sessionId streamId state) (normal : RecvPacket) :
    flight sessionId streamId (ingest state normal).2 = flight sessionId streamId state ∨
    flight sessionId streamId state = none ∧
      ∃ f, flight sessionId streamId (ingest state normal).2 = some f ∧ f.next = 0 ∧
        0 < f.count := by
  rcases ingest_cases state normal with ⟨after, assigned, ingested⟩ |
    ⟨a, after, -, assigned, -, ingested⟩ |
    ⟨a, before, t, after, -, assigned, begins, claimed, -, ingested⟩
  · left
    rw [ingested]
    exact flight_congr ((assignIds_none assigned).2.2 _ _)
  · left
    rw [ingested]
    exact flight_assigned assigned
  · have same : flight sessionId streamId (ingest state normal).2 =
        flight sessionId streamId after := by
      have session : a.packet.sessionId ≠ 0 := by
        rw [assigned.session]
        exact assigned.session_ne
      rw [ingested]
      rcases queuePacket_cases after session with ⟨-, -, -, -, frame⟩ | ⟨refused, -⟩
      · exact flight_congr (frame.tracker _ _)
      · rw [refused]
    rw [same]
    by_cases on : sessionId = normal.sessionId ∧ streamId = a.packet.streamId
    · obtain ⟨rfl, rfl⟩ := on
      have sound : Sound normal.sessionId a.packet.streamId before := by
        unfold Sound
        rw [flight_assigned assigned]
        exact hsound
      have here : flight normal.sessionId a.packet.streamId after = flightOf t := by
        unfold flight
        rw [claimed.here]
        rfl
      rw [here, ← flightOf_offered assigned]
      exact flightOf_begin begins (flightOf_sound sound (tracker_of_assigned assigned))
    · exact .inl (flight_congr (claimed.elsewhere _ _ on))

def Flight.advance (f : Flight) : Option Flight :=
  if f.count ≤ f.next + 1 then none else some { f with next := f.next + 1 }

theorem flightOf_advance {t : MessageTracker} (busy : t.messageId ≠ 0)
    (left : t.nextFragmentIndex < t.fragmentCount) :
    flightOf (advanceTracker t) =
      (⟨t.messageId, t.fragmentCount.toNat, t.nextFragmentIndex.toNat⟩ : Flight).advance := by
  have bound := UInt32.lt_iff_toNat_lt.mp left
  have fits := t.fragmentCount.toNat_lt
  have below : t.nextFragmentIndex < 4294967295 := by
    rw [UInt32.lt_iff_toNat_lt]
    change t.nextFragmentIndex.toNat < 4294967295
    omega
  have succ : (t.nextFragmentIndex + 1).toNat = t.nextFragmentIndex.toNat + 1 := by
    rw [UInt32.toNat_add]
    change (t.nextFragmentIndex.toNat + 1) % 4294967296 = _
    omega
  have nonzero : t.fragmentCount ≠ 0 := by
    intro hz
    rw [hz] at bound
    exact absurd bound (Nat.not_lt_zero _)
  have last : (t.fragmentCount = 0 ∨ t.fragmentCount ≤ t.nextFragmentIndex + 1) ↔
      t.fragmentCount.toNat ≤ t.nextFragmentIndex.toNat + 1 := by
    rw [or_iff_right nonzero, UInt32.le_iff_toNat_le, succ]
  unfold advanceTracker Flight.advance flightOf
  simp only [if_pos below, last]
  split
  · exact if_pos rfl
  · dsimp only
    rw [succ]

theorem flight_drain (hsound : Sound sessionId streamId state) (callerUser : Bool) :
    drainMarks sessionId streamId (drain state callerUser).1 = [] ∧
      flight sessionId streamId (drain state callerUser).2 = flight sessionId streamId state ∨
    ∃ f, flight sessionId streamId state = some f ∧
      drainMarks sessionId streamId (drain state callerUser).1 = [.fragment f.messageId f.next] ∧
      flight sessionId streamId (drain state callerUser).2 = f.advance := by
  rcases drain_cases state callerUser with ⟨p, after, drained, spec⟩ | ⟨drained, -⟩
  · rw [drained]
    by_cases on : sessionId = p.sessionId ∧ streamId = p.streamId
    · obtain ⟨rfl, rfl⟩ := on
      by_cases single : Singular p
      · left
        refine ⟨if_neg fun h => not_singular_iff.mpr h.2.2 single, flight_congr ?_⟩
        have stay : stepped p = id := by funext t; exact if_pos single
        rw [spec.here, stay, Option.map_id]
        rfl
      · right
        obtain ⟨-, -, t, tracked, busy, message, index⟩ :=
          (packetIsDeliverable_fragment single).mp spec.deliverable
        have left := (flightOf_sound hsound tracked busy).2
        refine ⟨⟨t.messageId, t.fragmentCount.toNat, t.nextFragmentIndex.toNat⟩, ?_, ?_, ?_⟩
        · unfold flight
          rw [tracked]
          exact if_neg busy
        · rw [← message, ← index]
          exact if_pos ⟨rfl, rfl, not_singular_iff.mp single⟩
        · unfold flight
          rw [spec.here, tracked, Option.map_some, Option.bind_some, stepped, if_neg single]
          exact flightOf_advance busy left
    · left
      refine ⟨if_neg fun h => on ⟨h.1.symm, h.2.1.symm⟩, flight_congr (spec.elsewhere _ _ on)⟩
  · rw [drained]
    exact .inl ⟨rfl, rfl⟩

end Steps

section Runs

variable {sessionId : UInt64} {streamId : UInt32}

def standing (f : Option Flight) : List Mark :=
  f.elim [] fun f => block f.messageId f.count f.next

structure AtBlock (sessionId : UInt64) (streamId : UInt32) (state : StreamState)
    (marks : List Mark) : Prop where
  sound : Sound sessionId streamId state
  blocks : ∃ done : List (UInt64 × ℕ),
    marks = done.flatMap whole ++ standing (flight sessionId streamId state)

section AtBlock

variable {state state' : StreamState} {marks : List Mark}

theorem AtBlock.kept (h : AtBlock sessionId streamId state marks)
    (same : flight sessionId streamId state' = flight sessionId streamId state) :
    AtBlock sessionId streamId state' (marks ++ []) := by
  obtain ⟨sound, done, rfl⟩ := h
  refine ⟨?_, done, ?_⟩
  · unfold Sound
    rw [same]
    exact sound
  · rw [List.append_nil, same]

theorem AtBlock.began (h : AtBlock sessionId streamId state marks)
    (idle : flight sessionId streamId state = none) {f : Flight}
    (begun : flight sessionId streamId state' = some f) (first : f.next = 0)
    (many : 0 < f.count) :
    AtBlock sessionId streamId state' (marks ++ [.began f.messageId f.count]) := by
  obtain ⟨-, done, rfl⟩ := h
  refine ⟨?_, done, ?_⟩
  · intro g hg
    obtain rfl := Option.some.inj (begun.symm.trans hg)
    rw [first]
    exact many
  · rw [begun, idle]
    change (_ ++ []) ++ [_] = _ ++ block f.messageId f.count f.next
    rw [List.append_nil, first]
    rfl

/-- The awaited fragment extends the last block, which is whole if it was the last one. -/
theorem AtBlock.advanced (h : AtBlock sessionId streamId state marks) {f : Flight}
    (busy : flight sessionId streamId state = some f)
    (advanced : flight sessionId streamId state' = f.advance) :
    AtBlock sessionId streamId state' (marks ++ [.fragment f.messageId f.next]) := by
  obtain ⟨sound, done, rfl⟩ := h
  have left := sound f busy
  have grown : (done.flatMap whole ++ standing (flight sessionId streamId state)) ++
      [.fragment f.messageId f.next] =
      done.flatMap whole ++ block f.messageId f.count (f.next + 1) := by
    rw [busy, List.append_assoc, block_succ]
    rfl
  rw [grown]
  by_cases last : f.count ≤ f.next + 1
  · have landed : f.advance = none := if_pos last
    have full : f.next + 1 = f.count := by omega
    rw [landed] at advanced
    refine ⟨?_, done ++ [(f.messageId, f.count)], ?_⟩
    · intro g hg
      rw [advanced] at hg
      cases hg
    · rw [advanced, full, List.flatMap_append, List.flatMap_singleton]
      exact (List.append_nil _).symm
  · have flies : f.advance = some { f with next := f.next + 1 } := if_neg last
    rw [flies] at advanced
    refine ⟨?_, done, ?_⟩
    · intro g hg
      obtain rfl := Option.some.inj (advanced.symm.trans hg)
      exact Nat.lt_of_not_le last
    · rw [advanced]
      rfl

end AtBlock

theorem atBlock_step (state : StreamState) (marks : List Mark) (op : Op)
    (h : AtBlock sessionId streamId state marks) :
    AtBlock sessionId streamId (markStep sessionId streamId state op).1
      (marks ++ (markStep sessionId streamId state op).2) := by
  cases op with
  | ingest normal =>
    change AtBlock sessionId streamId (ingest state normal).2 (_ ++ beginMarks _
      (flight sessionId streamId (ingest state normal).2))
    rcases flight_ingest h.sound normal with same | ⟨idle, f, begun, first, many⟩
    · have quiet : beginMarks (flight sessionId streamId state)
          (flight sessionId streamId (ingest state normal).2) = [] := by
        rw [same]
        cases flight sessionId streamId state with
        | none => rfl
        | some f => rfl
      rw [quiet]
      exact h.kept same
    · have marked : beginMarks (flight sessionId streamId state)
          (flight sessionId streamId (ingest state normal).2) =
          [.began f.messageId f.count] := by
        rw [idle, begun]
        rfl
      rw [marked]
      exact h.began idle begun first many
  | drain callerUser =>
    change AtBlock sessionId streamId (drain state callerUser).2 (_ ++
      drainMarks sessionId streamId (drain state callerUser).1)
    rcases flight_drain h.sound callerUser with ⟨quiet, same⟩ | ⟨f, busy, mark, advanced⟩
    · rw [quiet]
      exact h.kept same
    · rw [mark]
      exact h.advanced busy advanced
  | expire nowMs =>
    exact h.kept (flight_congr ((expire_frame state nowMs).tracker _ _))

/-- On every stream, whatever is sent into it and however it is drained and expired, messages of
several fragments come out one at a time, each from its first fragment on without a gap, and the
next one begins only after as many fragments as were recorded when the last one began. -/
theorem drained_in_blocks (adapters : Option (List UInt32)) (ops : List Op) (sessionId : UInt64)
    (streamId : UInt32) :
    InBlocks (run (markStep sessionId streamId) (start adapters) ops).2 := by
  have idle : flight sessionId streamId (start adapters) = none := by
    unfold flight
    rw [tracker_start]
    rfl
  have begins : AtBlock sessionId streamId (start adapters) [] := by
    refine ⟨?_, [], ?_⟩
    · intro f hf
      rw [idle] at hf
      contradiction
    · rw [idle]
      rfl
  obtain ⟨sound, done, marks⟩ := @run_history _ _ _ (markStep sessionId streamId)
    (AtBlock sessionId streamId) (fun _ => True)
    (fun state marks op _ => atBlock_step state marks op) (start adapters) begins ops
    fun _ _ => trivial
  refine ⟨done, ?_⟩
  cases standingFlight : flight sessionId streamId
      (run (markStep sessionId streamId) (start adapters) ops).1 with
  | none =>
    rw [standingFlight] at marks
    exact .inl (marks.trans (List.append_nil _))
  | some f =>
    rw [standingFlight] at marks
    exact .inr ⟨f.messageId, f.count, f.next, sound f standingFlight, marks⟩

end Runs

end Siglatch.MuxStreamBlocks
