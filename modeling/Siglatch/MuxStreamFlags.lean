import Siglatch.MuxStreamBlocks
import Siglatch.MuxStreamFailures

set_option autoImplicit false

namespace Siglatch.MuxStreamFlags
open MuxTypes MuxStream MuxStreamView MuxStreamOps MuxStreamRuns MuxStreamBlocks MuxStreamFailures
open StepRuns

/-! Which of the fragments that a stream hands out carry the complete flag. -/

/-- Every packet handed out by the operation carries the flag just when its stream has no message
in flight afterwards; a packet that is a message of its own carries it always. -/
def FlagExact (state : StreamState) : Op → Prop
  | .drain callerUser => ∀ p, (drain state callerUser).1 = some p →
      if Singular p then p.complete = true
      else p.complete = true ↔
        flight p.sessionId p.streamId (drain state callerUser).2 = none
  | _ => True

/-- A fragment handed out is the last one by its own fragment count just when it is by the count
recorded when its message began. -/
def EndsAlike (state : StreamState) : Op → Prop
  | .drain callerUser => ∀ p, (drain state callerUser).1 = some p → ¬ Singular p →
      ∀ f, flight p.sessionId p.streamId state = some f →
      (p.fragmentCount.toNat ≤ f.next + 1 ↔ f.count ≤ f.next + 1)
  | _ => True

def Flagged (state : StreamState) : Prop :=
  ∀ p ∈ queued state, p.complete = finalFragment p

section Steps

variable {state : StreamState}

theorem flagged_step (state : StreamState) (op : Op) (flagged : Flagged state) :
    Flagged (step state op).1 := by
  have kept {events : List Event} (queue : QueueStep state (step state op).1 events) :
      Flagged (step state op).1 := by
    intro p member
    cases queue with
    | quiet same =>
      rw [same] at member
      exact flagged p member
    | refused q same =>
      rw [same] at member
      exact flagged p member
    | accepted q _ grown =>
      rw [grown] at member
      rcases Multiset.mem_cons.mp member with rfl | earlier
      · rfl
      · exact flagged p earlier
    | delivered q shrunk =>
      apply flagged
      rw [shrunk]
      exact Multiset.mem_cons_of_mem member
    | expired fewer => exact flagged p (Multiset.mem_of_le fewer member)
  exact kept (step_queue state op)

theorem finalFragment_singular {p : RecvPacket} (single : Singular p)
    (first : p.fragmentIndex = 0) :
    finalFragment p = true := by
  unfold finalFragment
  rw [first]
  rcases single with none | one
  · exact if_pos none
  · rw [one]
    rfl

theorem finalFragment_iff {p : RecvPacket} (several : ¬ Singular p)
    (below : p.fragmentIndex.toNat + 1 < 4294967296) :
    finalFragment p = true ↔ p.fragmentCount.toNat ≤ p.fragmentIndex.toNat + 1 := by
  have counted : p.fragmentCount ≠ 0 := fun none => several (.inl none)
  have next : (p.fragmentIndex + 1).toNat = p.fragmentIndex.toNat + 1 := by
    rw [UInt32.toNat_add]
    exact Nat.mod_eq_of_lt below
  unfold finalFragment
  rw [if_neg counted, decide_eq_true_iff, UInt32.le_iff_toNat_le, next]

theorem flagExact_drain (orderly : Orderly state) (flagged : Flagged state) (callerUser : Bool) :
    FlagExact state (.drain callerUser) ↔ EndsAlike state (.drain callerUser) := by
  unfold FlagExact EndsAlike
  dsimp only
  rcases drain_cases state callerUser with ⟨p, after, drained, spec⟩ | ⟨drained, -⟩
  · rw [drained]
    simp only [Option.some.injEq, forall_eq']
    have flag : p.complete = finalFragment p := by
      apply flagged
      rw [spec.queue]
      exact Multiset.mem_cons_self p _
    by_cases single : Singular p
    · obtain ⟨-, -, -, first⟩ := (packetIsDeliverable_singular single).mp spec.deliverable
      rw [if_pos single, flag]
      exact iff_of_true (finalFragment_singular single first)
        fun several => absurd single several
    · obtain ⟨-, -, t, tracked, busy, -, index⟩ :=
        (packetIsDeliverable_fragment single).mp spec.deliverable
      have left := (orderly _ _ t tracked busy).2
      have flying : flight p.sessionId p.streamId state =
          some ⟨t.messageId, t.fragmentCount.toNat, t.nextFragmentIndex.toNat⟩ := by
        unfold flight
        rw [tracked]
        exact if_neg busy
      have landed : flight p.sessionId p.streamId after = none ↔
          t.fragmentCount.toNat ≤ t.nextFragmentIndex.toNat + 1 := by
        unfold flight
        rw [spec.here, tracked, Option.map_some, Option.bind_some, stepped, if_neg single,
          flightOf_advance busy left]
        unfold Flight.advance
        split
        · rename_i last
          exact iff_of_true rfl last
        · rename_i more
          exact iff_of_false (Option.some_ne_none _) more
      have below : p.fragmentIndex.toNat + 1 < 4294967296 := by
        have bound := UInt32.lt_iff_toNat_lt.mp left
        have fits := t.fragmentCount.toNat_lt
        rw [index]
        omega
      rw [if_neg single, flag, finalFragment_iff single below, landed, index, flying]
      simp only [single, not_false_eq_true, forall_const, Option.some.injEq, forall_eq']
  · rw [drained]
    simp

end Steps

section Runs

theorem flagged_empty {state : StreamState} (empty : queued state = 0) : Flagged state := by
  intro p member
  rw [empty] at member
  exact absurd member (Multiset.notMem_zero p)

theorem flagged_run (adapters : Option (List UInt32)) (ops : List Op) :
    Flagged (run step (start adapters) ops).1 :=
  @run_history _ _ _ step (fun state _ => Flagged state) (fun _ => True)
    (fun state _ op _ flagged => flagged_step state op flagged) (start adapters)
    (flagged_empty (queued_start adapters)) ops fun _ _ => trivial

theorem flagExact_reached (adapters : Option (List UInt32)) (ops : List Op) (op : Op) :
    FlagExact (run step (start adapters) ops).1 op ↔
      EndsAlike (run step (start adapters) ops).1 op := by
  cases op with
  | ingest normal => exact Iff.rfl
  | drain callerUser =>
    exact flagExact_drain (orderly_reached adapters ops) (flagged_run adapters ops) callerUser
  | expire nowMs => exact Iff.rfl

/-- In every run, all packets handed out carry an exact flag just when each fragment handed out
ends its message by its own count and by the recorded count alike. -/
theorem flags_exact_iff (adapters : Option (List UInt32)) (ops : List Op) :
    (∀ p ∈ steps step (start adapters) ops, FlagExact p.1 p.2) ↔
      ∀ p ∈ steps step (start adapters) ops, EndsAlike p.1 p.2 := by
  refine forall_congr' fun p => forall_congr' fun taken => ?_
  obtain ⟨fewer, ends⟩ := reached_run (steps_reached taken)
  rw [← ends]
  exact flagExact_reached adapters fewer p.2

theorem not_flagExact {state : StreamState} {callerUser : Bool} {p : RecvPacket}
    {t : MessageTracker} (returned : (drain state callerUser).1 = some p) (several : ¬ Singular p)
    (complete : p.complete = true)
    (tracked : tracker (drain state callerUser).2 p.sessionId p.streamId = some t)
    (busy : t.messageId ≠ 0) : ¬ FlagExact state (.drain callerUser) := by
  intro exactly
  have finished := exactly p returned
  rw [if_neg several] at finished
  have landed := finished.mp complete
  unfold flight at landed
  rw [tracked, Option.bind_some, flightOf, if_neg busy] at landed
  exact Option.some_ne_none _ landed

def shortCount : RecvPacket := { RecvPacket.zero with
  sessionId := 1, streamId := 1, messageId := 1, receivedMs := 1
  fragmentIndex := 1, fragmentCount := 2 }

def miscounted : List Op :=
  [.ingest { shortCount with fragmentIndex := 0, fragmentCount := 3 }, .ingest shortCount,
    .drain true]

theorem miscounted_not_exact :
    ¬ ∀ (adapters : Option (List UInt32)) (ops : List Op),
      ∀ p ∈ steps step (start adapters) ops, FlagExact p.1 p.2 := by
  intro claimed
  have flagExact := claimed none (miscounted ++ [.drain true])
    ((run step (start none) miscounted).1, .drain true)
    (steps_last step (start none) miscounted (.drain true))
  refine @not_flagExact _ true { shortCount with complete := true } ⟨1, 2, 1, 2, 3, true⟩
    (by decide +kernel) (by decide) rfl (by decide +kernel) (by decide) flagExact

end Runs

end Siglatch.MuxStreamFlags
