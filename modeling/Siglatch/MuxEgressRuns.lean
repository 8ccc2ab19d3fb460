import Siglatch.FifoLog
import Siglatch.MuxEgress

set_option autoImplicit false

namespace Siglatch.MuxEgressRuns
open MuxTypes RingQueue StepRuns FifoLog MuxEgress

inductive EgressOp where
  | stage (packet : EgressData)
  | flush (send : ℕ → EgressData → Bool) (sock : ℤ)

inductive EgressEvent where
  | staged (packet : EgressData)
  | sent (packet : EgressData)

def egressStep (state : EgressState) : EgressOp → EgressState × List EgressEvent
  | .stage packet =>
    match stageEgress state packet with
    | some state => (state, [.staged packet])
    | none => (state, [])
  | .flush send sock =>
    ((flushEgress send state sock).state, (flushEgress send state sock).sent.map .sent)

def stagedPackets (events : List EgressEvent) : List EgressData :=
  events.filterMap fun | .staged packet => some packet | .sent _ => none

def sentPackets (events : List EgressEvent) : List EgressData :=
  events.filterMap fun | .staged _ => none | .sent packet => some packet

/-- An empty entry never reaches the wire, so the queue does not see it. -/
def carried : EgressEvent → Option (Event EgressData)
  | .staged packet => if nonempty packet then some (.put packet) else none
  | .sent packet => some (.take packet)

def waiting (state : EgressState) : List EgressData := state.contents.filter nonempty

theorem carried_sent (packets : List EgressData) :
    (packets.map EgressEvent.sent).filterMap carried = packets.map .take := by
  rw [List.filterMap_map]
  induction packets with
  | nil => rfl
  | cons packet packets ih => simpa [carried] using ih

theorem stage_refines (state : EgressState) (packet : EgressData) :
    Runs (waiting state) ((egressStep state (.stage packet)).2.filterMap carried)
      (waiting (egressStep state (.stage packet)).1) := by
  cases staged : stageEgress state packet with
  | none =>
    have refused : egressStep state (.stage packet) = (state, []) := by simp [egressStep, staged]
    rw [refused]
    exact .nil (waiting state)
  | some after =>
    have appended : after.contents = state.contents ++ [packet] := (stageEgress_some staged).2.2.2
    have taken : egressStep state (.stage packet) = (after, [.staged packet]) := by
      simp [egressStep, staged]
    rw [taken]
    by_cases used : nonempty packet = true
    · have held : waiting after = waiting state ++ [packet] := by
        simp [waiting, appended, List.filter_append, used]
      rw [held]
      simpa [carried, used] using runs_puts [packet] (waiting state)
    · have held : waiting after = waiting state := by
        simp [waiting, appended, List.filter_append, used]
      rw [held]
      simpa [carried, used] using Runs.nil (waiting state)

theorem flush_refines (state : EgressState) (send : ℕ → EgressData → Bool) (sock : ℤ) :
    Runs (waiting state) ((egressStep state (.flush send sock)).2.filterMap carried)
      (waiting (egressStep state (.flush send sock)).1) := by
  have fifo : (flushEgress send state sock).sent ++ waiting (flushEgress send state sock).state =
      waiting state := flushEgress_fifo send state sock
  change Runs _ (((flushEgress send state sock).sent.map EgressEvent.sent).filterMap carried) _
  rw [carried_sent, ← fifo]
  exact runs_takes _ _

theorem egressStep_refines (state : EgressState) (op : EgressOp) :
    Runs (waiting state) ((egressStep state op).2.filterMap carried)
      (waiting (egressStep state op).1) := by
  cases op with
  | stage packet => exact stage_refines state packet
  | flush send sock => exact flush_refines state send sock

theorem puts_carried (events : List EgressEvent) :
    puts (events.filterMap carried) = (stagedPackets events).filter nonempty := by
  induction events with
  | nil => rfl
  | cons event events ih =>
    cases event with
    | staged packet =>
      by_cases used : nonempty packet = true
      · simpa [stagedPackets, carried, used, puts] using ih
      · simpa [stagedPackets, carried, used, puts] using ih
    | sent packet => simpa [stagedPackets, carried, puts] using ih

theorem takes_carried (events : List EgressEvent) :
    takes (events.filterMap carried) = sentPackets events := by
  induction events with
  | nil => rfl
  | cons event events ih =>
    cases event with
    | staged packet =>
      by_cases used : nonempty packet = true
      · simpa [sentPackets, carried, used, takes] using ih
      · simpa [sentPackets, carried, used, takes] using ih
    | sent packet => simpa [sentPackets, carried, takes] using ih

/-- Whatever is staged and whatever the sends do, the ring is a queue: what went out is a prefix
    of what was staged, and what is still to go is the rest. -/
theorem egress_refines_fifo (ops : List EgressOp) :
    let out := run egressStep stateInit ops
    out.1.count ≤ EGRESS_QUEUE_CAPACITY ∧
    out.1.tail = (out.1.head + out.1.count) % EGRESS_QUEUE_CAPACITY ∧
    Runs [] (out.2.filterMap carried) (waiting out.1) ∧
    sentPackets out.2 <+: (stagedPackets out.2).filter nonempty ∧
    (stagedPackets out.2).filter nonempty = sentPackets out.2 ++ waiting out.1 := by
  intro out
  have refined : Runs [] (out.2.filterMap carried) (waiting out.1) :=
    run_refines egressStep_refines stateInit ops
  have kept : (stagedPackets out.2).filter nonempty = sentPackets out.2 ++ waiting out.1 := by
    rw [← puts_carried, ← takes_carried, ← refined.conserves, List.nil_append]
  exact ⟨out.1.count_le, out.1.tail_eq, refined, ⟨waiting out.1, kept.symm⟩, kept⟩

end Siglatch.MuxEgressRuns
