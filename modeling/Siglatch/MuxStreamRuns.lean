import Siglatch.StepRuns
import Siglatch.MuxStreamOps

set_option autoImplicit false

namespace Siglatch.MuxStreamRuns
open MuxTypes MuxStream MuxStreamView MuxStreamOps StepRuns

inductive Op where
  | ingest (normal : RecvPacket)
  | drain (callerUser : Bool)
  | expire (nowMs : UInt64)

/-- `offered p accepted`: a packet, with the ids it was given, and whether it was queued. -/
inductive Event where
  | offered (p : RecvPacket) (accepted : Bool)
  | delivered (p : RecvPacket)
  deriving DecidableEq

def step (state : StreamState) : Op → StreamState × List Event
  | .ingest normal => ((ingest state normal).2,
      match (assignIds state normal).1 with
      | none => []
      | some a => [.offered a.packet (ingest state normal).1])
  | .drain callerUser => ((drain state callerUser).2,
      match (drain state callerUser).1 with
      | none => []
      | some p => [.delivered p])
  | .expire nowMs => ((expire state nowMs).2, [])

def start (adapters : Option (List UInt32)) : StreamState :=
  { stateInit with adapterLib := adapters }

@[simp] theorem queued_start (adapters : Option (List UInt32)) : queued (start adapters) = 0 :=
  queued_stateInit

@[simp] theorem tracker_start (adapters : Option (List UInt32)) (sessionId : UInt64)
    (streamId : UInt32) : tracker (start adapters) sessionId streamId = none := by
  refine tracker_none_of_untracked (sessionAt_none_iff.mpr ?_)
  have hempty : trackedSessions (start adapters) = 0 := trackedSessions_stateInit
  rw [hempty]
  exact Multiset.notMem_zero _

/-- What one operation does to the queue, with the events it emits. -/
inductive QueueStep (state state' : StreamState) : List Event → Prop where
  | quiet : queued state' = queued state → QueueStep state state' []
  | refused (p : RecvPacket) : queued state' = queued state →
      QueueStep state state' [.offered p false]
  | accepted (p : RecvPacket) : (∀ q ∈ queued state, fragmentKey q ≠ fragmentKey p) →
      queued state' = stored p ::ₘ queued state → QueueStep state state' [.offered p true]
  | delivered (p : RecvPacket) : queued state = p ::ₘ queued state' →
      QueueStep state state' [.delivered p]
  | expired : queued state' ≤ queued state → QueueStep state state' []

theorem step_queue (state : StreamState) (op : Op) :
    QueueStep state (step state op).1 (step state op).2 := by
  cases op with
  | ingest normal =>
    obtain ⟨state', hassign, hin⟩ | ⟨a, state', hassign, hspec, -, hin⟩ |
        ⟨a, state1, t, state', hassign, hspec, -, hclaim, -, hin⟩ := ingest_cases state normal
    · simp only [step, hassign, hin]
      exact .quiet (queued_of_readyQueue (assignIds_none hassign).1)
    · simp only [step, hassign, hin]
      exact .refused a.packet (queued_of_readyQueue hspec.queue)
    · have hs : a.packet.sessionId ≠ 0 := by rw [hspec.session]; exact hspec.session_ne
      have hsame := queued_of_readyQueue hclaim.queue
      obtain ⟨hok, hnew, -, hq, -⟩ | ⟨hno, -⟩ := queuePacket_cases state' hs
      · simp only [step, hassign, hin, hok]
        rw [hsame] at hnew hq
        exact .accepted a.packet hnew hq
      · simp only [step, hassign, hin, hno]
        exact .refused a.packet hsame
  | drain callerUser =>
    obtain ⟨p, state', hd, hspec⟩ | ⟨hd, -⟩ := drain_cases state callerUser
    · simp only [step, hd]
      exact .delivered p hspec.queue
    · simp only [step, hd]
      exact .quiet rfl
  | expire nowMs =>
    exact .expired (expire_queued_le state nowMs)

end Siglatch.MuxStreamRuns
