import Siglatch.MuxStreamRuns
import Siglatch.MuxReassembly
import Mathlib.Data.List.OfFn

set_option autoImplicit false

namespace Siglatch.MuxStreamRecovery
open MuxTypes MuxStream MuxStreamView MuxStreamOps MuxStreamRuns MuxReassembly StepRuns

/-- A packet of that message was offered to the stream, queued or not. -/
def Used (events : List Event) (sessionId : UInt64) (streamId : UInt32) (messageId : UInt64) :
    Prop :=
  ∃ p accepted, .offered p accepted ∈ events ∧ p.sessionId = sessionId ∧ p.streamId = streamId ∧
    p.messageId = messageId

/-- A message in flight is one that was offered, with fragments still to return. -/
def InFlight (events : List Event) (sessionId : UInt64) (streamId : UInt32)
    (t : MessageTracker) : Prop :=
  t.messageId ≠ 0 → t.fragmentCount ≠ 0 ∧ t.nextFragmentIndex < t.fragmentCount ∧
    Used events sessionId streamId t.messageId

def TrackersSound (state : StreamState) (events : List Event) : Prop :=
  ∀ sessionId streamId t, tracker state sessionId streamId = some t →
    InFlight events sessionId streamId t

section Invariant

variable {events : List Event} {sessionId : UInt64} {streamId : UInt32} {t : MessageTracker}

theorem InFlight.append (h : InFlight events sessionId streamId t) (more : List Event) :
    InFlight (events ++ more) sessionId streamId t := by
  intro hm
  obtain ⟨hc, hlt, p, accepted, hmem, hp⟩ := h hm
  exact ⟨hc, hlt, p, accepted, List.mem_append_left _ hmem, hp⟩

theorem inFlight_zero (h : t.messageId = 0) : InFlight events sessionId streamId t :=
  fun hm => absurd h hm

theorem inFlight_advance (h : InFlight events sessionId streamId t) :
    InFlight events sessionId streamId (advanceTracker t) := by
  unfold advanceTracker
  generalize (if t.nextFragmentIndex < 4294967295 then t.nextFragmentIndex + 1
    else t.nextFragmentIndex) = next
  simp only
  split
  · exact inFlight_zero rfl
  · rename_i hopen
    rw [not_or] at hopen
    intro hm
    obtain ⟨hc, -, hused⟩ := h hm
    exact ⟨hc, UInt32.not_le.mp hopen.2, hused⟩

theorem sound_frame {state state' : StreamState} (h : TrackersSound state events)
    (hsame : ∀ sessionId streamId,
      tracker state' sessionId streamId = tracker state sessionId streamId)
    (more : List Event) : TrackersSound state' (events ++ more) := by
  intro sessionId streamId t ht
  rw [hsame] at ht
  exact (h sessionId streamId t ht).append more

theorem offered_inFlight {state state' : StreamState} {normal : RecvPacket} {a : Assigned}
    (h : TrackersSound state events) (hspec : AssignedTo state state' normal a) :
    InFlight events normal.sessionId a.packet.streamId (offered state' a) := by
  obtain ⟨next, hnext⟩ := hspec.here
  unfold offered
  rw [hnext]
  cases ht : tracker state normal.sessionId a.packet.streamId with
  | none => exact inFlight_zero rfl
  | some t => exact fun hm => h _ _ t ht hm

theorem sound_offered {state state' : StreamState} {normal : RecvPacket} {a : Assigned}
    {t : MessageTracker} (h : TrackersSound state events) (more : List Event)
    (hhere : tracker state' normal.sessionId a.packet.streamId = some t)
    (helse : ∀ sessionId streamId, ¬ (sessionId = normal.sessionId ∧ streamId = a.packet.streamId) →
      tracker state' sessionId streamId = tracker state sessionId streamId)
    (ht : InFlight (events ++ more) normal.sessionId a.packet.streamId t) :
    TrackersSound state' (events ++ more) := by
  intro sessionId streamId t' ht'
  by_cases hon : sessionId = normal.sessionId ∧ streamId = a.packet.streamId
  · obtain ⟨rfl, rfl⟩ := hon
    obtain rfl : t = t' := Option.some.inj (hhere.symm.trans ht')
    exact ht
  · rw [helse _ _ hon] at ht'
    exact (h _ _ t' ht').append more

theorem begin_inFlight {t t' : MessageTracker} {a : Assigned} {accepted : Bool}
    (h : InFlight events a.packet.sessionId a.packet.streamId t)
    (hb : messageTrackerBegin t a.packet = some t') :
    InFlight (events ++ [.offered a.packet accepted]) a.packet.sessionId a.packet.streamId t' := by
  have hinv : t.messageId ≠ 0 → t.fragmentCount ≠ 0 ∧ t.nextFragmentIndex < t.fragmentCount :=
    fun hm => ⟨(h hm).1, (h hm).2.1⟩
  obtain ⟨rfl, -⟩ | ⟨hp, -, rfl⟩ := begin_cases hb hinv
  · exact h.append _
  · intro _
    have hlt := not_singular_iff.mp hp
    refine ⟨fun hz => hp (.inl hz), ?_, a.packet, accepted, by simp, rfl, rfl, rfl⟩
    rw [UInt32.lt_iff_toNat_lt] at hlt ⊢
    exact lt_trans Nat.zero_lt_one hlt

theorem sound_step (state : StreamState) (events : List Event) (op : Op)
    (h : TrackersSound state events) :
    TrackersSound (step state op).1 (events ++ (step state op).2) := by
  cases op with
  | ingest normal =>
    obtain ⟨state', hassign, hin⟩ | ⟨a, state', hassign, hspec, -, hin⟩ |
        ⟨a, state1, t, state', hassign, hspec, hb, hclaim, -, hin⟩ := ingest_cases state normal
    · simp only [step, hassign, hin]
      exact sound_frame h (assignIds_none hassign).2.2 []
    · simp only [step, hassign, hin]
      exact sound_offered h _ (tracker_of_assigned hspec) hspec.elsewhere
        ((offered_inFlight h hspec).append _)
    · have hs : a.packet.sessionId ≠ 0 := by rw [hspec.session]; exact hspec.session_ne
      have hflight := offered_inFlight h hspec
      rw [← hspec.session] at hflight
      have hqueue : ∀ sessionId streamId,
          tracker (queuePacket state' a.packet).2 sessionId streamId =
          tracker state' sessionId streamId := by
        obtain ⟨-, -, -, -, hframe⟩ | ⟨hno, -⟩ := queuePacket_cases state' hs
        · exact hframe.tracker
        · rw [hno]; exact fun _ _ => rfl
      simp only [step, hassign, hin]
      refine sound_offered h _ ((hqueue _ _).trans hclaim.here) ?_ ?_
      · intro sessionId streamId hne
        rw [hqueue]
        exact hclaim.elsewhere sessionId streamId hne
      · rw [← hspec.session]
        exact begin_inFlight hflight hb
  | drain callerUser =>
    obtain ⟨p, state', hd, hspec⟩ | ⟨hd, -⟩ := drain_cases state callerUser
    · simp only [step, hd]
      intro sessionId streamId t ht
      refine InFlight.append ?_ _
      by_cases hon : sessionId = p.sessionId ∧ streamId = p.streamId
      · obtain ⟨rfl, rfl⟩ := hon
        rw [hspec.here] at ht
        obtain ⟨t', ht', rfl⟩ := Option.map_eq_some_iff.mp ht
        have hold := h _ _ t' ht'
        unfold stepped
        split
        · exact hold
        · exact inFlight_advance hold
      · rw [hspec.elsewhere _ _ hon] at ht
        exact h _ _ t ht
    · simp only [step, hd]
      exact sound_frame h (fun _ _ => rfl) []
  | expire nowMs => exact sound_frame h (expire_frame state nowMs).tracker []

theorem sound_run (adapters : Option (List UInt32)) (ops : List Op) :
    TrackersSound (run step (start adapters) ops).1 (run step (start adapters) ops).2 := by
  refine run_history (fun _ => True) (fun s events op _ => sound_step s events op)
    (start adapters) ?_ ops fun _ _ => trivial
  intro sessionId streamId t ht
  rw [tracker_start] at ht
  contradiction

end Invariant

def ingestAll : StreamState → List RecvPacket → List Bool × StreamState
  | state, [] => ([], state)
  | state, p :: ps =>
    let now := ingest state p
    let rest := ingestAll now.2 ps
    (now.1 :: rest.1, rest.2)

def drainTimes : ℕ → StreamState → List (Option RecvPacket)
  | 0, _ => []
  | n + 1, state => (drain state true).1 :: drainTimes n (drain state true).2

/-- Every fragment is accepted, and draining returns the message in order and then nothing. -/
def Recovers (state : StreamState) (msg : Message) (arrival : List (Fin msg.count)) : Prop :=
  (∀ accepted ∈ (ingestAll state (arrival.map msg.fragment)).1, accepted = true) ∧
  drainTimes (msg.count + 1) (ingestAll state (arrival.map msg.fragment)).2 =
    (List.finRange msg.count).map (fun i => some (msg.held i)) ++ [none]

section Recovery

variable {msg : Message} {state : StreamState} {arrived : Finset (Fin msg.count)} {next : ℕ}

theorem ingestAll_fragments (h : Reassembling msg state arrived next)
    (hown : ∀ q ∈ queued state, msg.Owns q) (arrival : List (Fin msg.count))
    (hnodup : arrival.Nodup) (hnew : ∀ i ∈ arrival, i ∉ arrived) :
    (∀ accepted ∈ (ingestAll state (arrival.map msg.fragment)).1, accepted = true) ∧
    (ingestAll state (arrival.map msg.fragment)).2.adapterLib = state.adapterLib ∧
    (∀ q ∈ queued (ingestAll state (arrival.map msg.fragment)).2, msg.Owns q) ∧
    Reassembling msg (ingestAll state (arrival.map msg.fragment)).2 (arrived ∪ arrival.toFinset)
      next := by
  induction arrival generalizing state arrived with
  | nil =>
    refine ⟨fun b hb => absurd hb List.not_mem_nil, rfl, hown, ?_⟩
    rw [List.toFinset_nil, Finset.union_empty]
    exact h
  | cons i arrival ih =>
    obtain ⟨state', hin, hadapters, hq, hre⟩ := ingest_fragment h (hnew i List.mem_cons_self)
    have hown' : ∀ q ∈ queued state', msg.Owns q := by
      intro q hqm
      rw [hq] at hqm
      obtain rfl | hqm := Multiset.mem_cons.mp hqm
      · exact msg.owns_held i
      · exact hown q hqm
    have hnew' : ∀ j ∈ arrival, j ∉ insert i arrived := by
      intro j hj hmem
      obtain rfl | hmem := Finset.mem_insert.mp hmem
      · exact (List.nodup_cons.mp hnodup).1 hj
      · exact hnew j (List.mem_cons_of_mem _ hj) hmem
    obtain ⟨hall, hadapt, howns, hre'⟩ := ih hre hown' (List.nodup_cons.mp hnodup).2 hnew'
    simp only [List.map_cons, ingestAll, hin]
    refine ⟨?_, hadapt.trans hadapters, howns, ?_⟩
    · intro b hb
      obtain rfl | hb := List.mem_cons.mp hb
      · rfl
      · exact hall b hb
    · have hset : arrived ∪ (i :: arrival).toFinset = insert i arrived ∪ arrival.toFinset := by
        ext j
        simp
      rw [hset]
      exact hre'

theorem drainTimes_message (h : Reassembling msg state Finset.univ next)
    (hown : ∀ q ∈ queued state, msg.Owns q)
    (hread : ∀ q ∈ queued state, Readable state true q) :
    drainTimes (msg.count - next + 1) state =
      ((List.finRange msg.count).drop next).map (fun i => some (msg.held i)) ++ [none] := by
  induction hleft : msg.count - next generalizing state next with
  | zero =>
    have hdone : next = msg.count := by have := h.next_le; omega
    have hempty : queued state = 0 := by
      have hq := h.queue
      rw [Multiset.filter_eq_self.mpr hown, hdone] at hq
      rw [hq, Finset.filter_false_of_mem fun i _ => by have := i.isLt; omega]
      rfl
    obtain ⟨p, state', -, hd⟩ | ⟨hnone, -⟩ := drain_cases state true
    · have hq := hd.queue
      rw [hempty] at hq
      exact absurd hq (Multiset.zero_ne_cons)
    · rw [hdone, List.drop_eq_nil_of_le (by simp)]
      simp [drainTimes, hnone]
  | succ left ih =>
    have hlt : next < msg.count := by omega
    have hdrop : (List.finRange msg.count).drop next =
        ⟨next, hlt⟩ :: (List.finRange msg.count).drop (next + 1) := by
      rw [List.drop_eq_getElem_cons (by simpa using hlt)]
      simp
    obtain ⟨i, state', hi, hdrain, hadapters, hq, hre⟩ | ⟨p, state', hp, -, -, hq, -⟩ | hnone :=
      drain_reassembling h true
    · have hsub : ∀ q ∈ queued state', q ∈ queued state := by
        intro q hqm
        rw [hq]
        exact Multiset.mem_cons_of_mem hqm
      have hrest := ih hre (fun q hqm => hown q (hsub q hqm))
        (by
          intro q hqm huser
          have hr := hread q (hsub q hqm) huser
          unfold copyUser at hr ⊢
          rwa [hadapters]) (by omega)
      obtain rfl : i = ⟨next, hlt⟩ := Fin.ext hi
      rw [hdrop]
      unfold drainTimes
      rw [hdrain, hrest]
      rfl
    · exact absurd (hown p (by rw [hq]; exact Multiset.mem_cons_self p _)) hp
    · exact absurd (Finset.mem_univ _) (drain_none_missing h hread hnone hlt)

theorem reassembling_empty {t : MessageTracker} (hempty : queued state = 0)
    (ht : tracker state msg.sessionId msg.streamId = some t) (hidle : t.messageId = 0) :
    Reassembling msg state ∅ 0 := by
  refine ⟨Nat.zero_le _, ?_, ?_, ?_, fun _ => ⟨t, ht, hidle⟩, ?_⟩
  · intro i hi
    omega
  · rw [hempty]
    rfl
  · rw [hempty]
    have := msg.small
    simpa using this
  · intro hne
    exact absurd rfl hne

theorem recovers_of_idle {t : MessageTracker} {arrival : List (Fin msg.count)}
    (hempty : queued state = 0) (ht : tracker state msg.sessionId msg.streamId = some t)
    (hidle : t.messageId = 0)
    (hread : ∀ i, (msg.fragment i).user.isSome = true → copyUser state (msg.fragment i) = true)
    (harrival : arrival.Perm (List.finRange msg.count)) : Recovers state msg arrival := by
  have hstart := reassembling_empty hempty ht hidle
  have hnodup : arrival.Nodup := harrival.nodup_iff.mpr (List.nodup_finRange _)
  have hall : ∅ ∪ arrival.toFinset = Finset.univ := by
    ext i
    simp [harrival.mem_iff]
  obtain ⟨hok, hadapters, hown, hre⟩ := ingestAll_fragments hstart
    (by rw [hempty]; exact fun q hq => absurd hq (Multiset.notMem_zero q)) arrival hnodup
    (fun i _ => Finset.notMem_empty i)
  rw [hall] at hre
  refine ⟨hok, ?_⟩
  have hdrain := drainTimes_message hre hown ?_
  · simpa using hdrain
  · intro q hq huser
    obtain ⟨i, -, -, rfl⟩ := owned_held hre hq (hown q hq)
    refine ⟨rfl, ?_⟩
    have hc := hread i huser
    unfold copyUser at hc ⊢
    rw [hadapters]
    exact hc

theorem ingest_refused_in_flight {events : List Event} {t : MessageTracker}
    (ht : tracker state msg.sessionId msg.streamId = some t)
    (hflight : InFlight events msg.sessionId msg.streamId t) (hm : t.messageId ≠ 0)
    (hne : t.messageId ≠ msg.messageId) (i : Fin msg.count) :
    (ingest state (msg.fragment i)).1 = false := by
  have hst : (msg.fragment i).streamId ≠ 0 := by rw [msg.stream]; exact msg.stream_ne
  have hmid : (msg.fragment i).messageId ≠ 0 := by rw [msg.message]; exact msg.message_ne
  obtain ⟨_, -, hin⟩ | ⟨_, _, -, -, -, hin⟩ | ⟨a, state1, t', state2, -, hspec, hb, -, -, -⟩ :=
    ingest_cases state (msg.fragment i)
  · rw [hin]
  · rw [hin]
  · have hpacket := assigned_explicit hspec hst hmid
    obtain ⟨id, hoffered⟩ := hspec.here
    rw [hpacket, msg.session, msg.stream, ht] at hoffered
    have hbusy : messageTrackerBegin (offered state1 a) a.packet = none := by
      unfold offered
      rw [hoffered, hpacket]
      refine begin_busy (msg.fragment_not_singular i) hm ?_ (hflight hm).2.1
      rw [msg.message]
      exact hne
    rw [hbusy] at hb
    contradiction

end Recovery

/-- In a reachable state with an empty queue, a fresh message gets through exactly when the
    stream has no message in flight. -/
theorem recovers_iff_no_message_in_flight (adapters : Option (List UInt32)) (ops : List Op)
    (msg : Message) (arrival : List (Fin msg.count)) (t : MessageTracker)
    (hempty : queued (run step (start adapters) ops).1 = 0)
    (ht : tracker (run step (start adapters) ops).1 msg.sessionId msg.streamId = some t)
    (hfresh : ¬ Used (run step (start adapters) ops).2 msg.sessionId msg.streamId msg.messageId)
    (hread : ∀ i, (msg.fragment i).user.isSome = true →
      copyUser (run step (start adapters) ops).1 (msg.fragment i) = true)
    (harrival : arrival.Perm (List.finRange msg.count)) :
    Recovers (run step (start adapters) ops).1 msg arrival ↔ t.messageId = 0 := by
  have hflight := sound_run adapters ops msg.sessionId msg.streamId t ht
  constructor
  · intro hrec
    by_contra hm
    have hne : t.messageId ≠ msg.messageId := fun e => hfresh (e ▸ (hflight hm).2.2)
    obtain ⟨i, rest, rfl⟩ : ∃ i rest, arrival = i :: rest := by
      cases harr : arrival with
      | nil =>
        have hlen := harrival.length_eq
        rw [harr] at hlen
        have := msg.many
        simp at hlen
        omega
      | cons i rest => exact ⟨i, rest, rfl⟩
    have hrefused := ingest_refused_in_flight ht hflight hm hne i
    have hfirst := hrec.1 (ingest (run step (start adapters) ops).1 (msg.fragment i)).1
      List.mem_cons_self
    rw [hrefused] at hfirst
    contradiction
  · intro hidle
    exact recovers_of_idle hempty ht hidle hread harrival

def twoFragments (messageId : UInt64) (i : Fin 2) : RecvPacket :=
  { RecvPacket.zero with
    sessionId := 1, streamId := 1, messageId := messageId, receivedMs := 1
    fragmentIndex := i.val.toUInt32, fragmentCount := 2 }

def secondMessage : Message where
  count := 2
  sessionId := 1
  streamId := 1
  messageId := 2
  fragment := twoFragments 2
  many := le_rfl
  small := by decide
  session_ne := by decide
  stream_ne := by decide
  message_ne := by decide
  session := fun _ => rfl
  stream := fun _ => rfl
  message := fun _ => rfl
  index := by decide
  total := by decide

def lastFirst : List (Fin secondMessage.count) := [⟨1, by decide⟩, ⟨0, by decide⟩]

def wholeFirst : List Op :=
  [.ingest (twoFragments 1 0), .ingest (twoFragments 1 1), .drain true, .drain true, .expire 40000]

def lostFragment : List Op := [.ingest (twoFragments 1 0), .expire 40000]

theorem wholeFirst_events : (run step (start none) wholeFirst).2 =
    [.offered (twoFragments 1 0) true, .offered (twoFragments 1 1) true,
      .delivered (stored (twoFragments 1 0)), .delivered (stored (twoFragments 1 1))] := by
  decide +kernel

theorem lostFragment_events : (run step (start none) lostFragment).2 =
    [.offered (twoFragments 1 0) true] := by
  decide +kernel

theorem wholeFirst_recovers :
    Recovers (run step (start none) wholeFirst).1 secondMessage lastFirst ↔ (0 : UInt64) = 0 :=
  recovers_iff_no_message_in_flight none wholeFirst secondMessage lastFirst ⟨1, 2, 0, 0, 0, true⟩
    (by decide +kernel) (by decide +kernel)
    (by
      rw [wholeFirst_events]
      rintro ⟨p, accepted, hmem, -, -, hm⟩
      obtain rfl | rfl : p = twoFragments 1 0 ∨ p = twoFragments 1 1 := by
        simp only [List.mem_cons, Event.offered.injEq, List.not_mem_nil, or_false,
          reduceCtorEq] at hmem
        exact hmem.imp And.left And.left
      · exact absurd hm (by decide)
      · exact absurd hm (by decide))
    (fun _ h => absurd h Bool.false_ne_true) (by decide)

theorem lostFragment_blocks_stream :
    ¬ ∀ (adapters : Option (List UInt32)) (ops : List Op) (msg : Message)
      (arrival : List (Fin msg.count)) (t : MessageTracker),
      queued (run step (start adapters) ops).1 = 0 →
      tracker (run step (start adapters) ops).1 msg.sessionId msg.streamId = some t →
      ¬ Used (run step (start adapters) ops).2 msg.sessionId msg.streamId msg.messageId →
      (∀ i, (msg.fragment i).user.isSome = true →
        copyUser (run step (start adapters) ops).1 (msg.fragment i) = true) →
      arrival.Perm (List.finRange msg.count) →
      Recovers (run step (start adapters) ops).1 msg arrival := by
  intro h
  have hfresh : ¬ Used (run step (start none) lostFragment).2 1 1 2 := by
    rw [lostFragment_events]
    rintro ⟨p, accepted, hmem, -, -, hm⟩
    obtain rfl : p = twoFragments 1 0 := by
      simp only [List.mem_cons, Event.offered.injEq, List.not_mem_nil, or_false] at hmem
      exact hmem.1
    exact absurd hm (by decide)
  have hrec := h none lostFragment secondMessage lastFirst ⟨1, 2, 1, 0, 2, true⟩
    (by decide +kernel) (by decide +kernel) hfresh (fun _ h => absurd h Bool.false_ne_true)
    (by decide)
  have hrefused : (ingestAll (run step (start none) lostFragment).1
      (lastFirst.map secondMessage.fragment)).1 = [false, false] := by decide +kernel
  have hall := hrec.1
  rw [hrefused] at hall
  exact absurd (hall false List.mem_cons_self) (by decide)

end Siglatch.MuxStreamRecovery
