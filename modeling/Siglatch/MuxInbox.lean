import Siglatch.MuxEgress
import Siglatch.MuxIntake
import Siglatch.MuxNormalize

set_option autoImplicit false

namespace Siglatch.MuxInbox
open MuxTypes RingQueue KnockCodec MuxAdapter MuxNormalize MuxEgress MuxIntake

def INGRESS_QUEUE_CAPACITY : ℕ := 64

structure Datagram where
  bytes : Bytes
  receivedMs : UInt64
  ip : CString
  clientPort : UInt16
  deriving DecidableEq

/-- The read cuts off what does not fit the buffer. -/
def Datagram.ingress (datagram : Datagram) : Ingress :=
  { Ingress.zero with
    buffer := datagram.bytes.take NORMALIZED_PACKET_BUFFER_SIZE
    receivedMs := datagram.receivedMs, ip := datagram.ip, clientPort := datagram.clientPort }

abbrev IngressState := Ring INGRESS_QUEUE_CAPACITY Ingress

def ingressInit : IngressState := Ring.empty (by decide) Ingress.zero

def receive (state : IngressState) : List Datagram → IngressState
  | [] => state
  | datagram :: waiting =>
    if h : state.count < INGRESS_QUEUE_CAPACITY then
      receive (state.push datagram.ingress h) waiting
    else state

/-- Datagrams are read only into an empty queue. -/
def ingressPump (state : IngressState) (waiting : List Datagram) : IngressState :=
  if 0 < state.count then state else receive state waiting

structure MuxState where
  policy : PolicyEnforceEncryption
  socketFd : ℤ
  ingress : IngressState
  intake : Intake
  egress : EgressState

def connectSocket (socketFd : ℤ) (policy : PolicyEnforceEncryption) : MuxState where
  policy := policy
  socketFd := socketFd
  ingress := ingressInit
  intake := MuxIntake.start (some registered)
  egress := MuxEgress.stateInit

inductive Outcome where
  | skipped
  | refused
  | queued (normal : RecvPacket)

structure Taken where
  outcome : Outcome
  control : Control
  intake : Intake

def take (policy : PolicyEnforceEncryption) (env : CodecEnv) (nowMs : UInt64) (control : Control)
    (intake : Intake) (raw : Ingress) : Taken :=
  match normalize policy env raw control with
  | (none, control) => ⟨.skipped, control, intake⟩
  | (some normal, control) =>
    match MuxIntake.intake intake control normal nowMs with
    | (true, intake) => ⟨.queued normal, control, intake⟩
    | (false, intake) => ⟨.refused, control, intake⟩

/-- What a pump leaves behind, and the packets that it put into the ready queue. A refused packet
ends the pump, so that it is not `finished`. -/
structure Pumped where
  ingress : IngressState
  intake : Intake
  finished : Bool
  queued : List RecvPacket

section Pump

variable (policy : PolicyEnforceEncryption) (env : CodecEnv) (clock : ℕ → UInt64)

/-- The pump loop, whose `k`-th packet is taken in at `clock k`. -/
def pumpLoop : ℕ → ℕ → Control → IngressState → Intake → Pumped
  | 0, _, _, ingress, intake => ⟨ingress, intake, true, []⟩
  | fuel + 1, k, control, ingress, intake =>
    if h : 0 < ingress.count then
      let taken := take policy env (clock k) control intake ingress.front
      let ingress := ingress.pop Ingress.zero h
      match taken.outcome with
      | .refused => ⟨ingress, taken.intake, false, []⟩
      | .skipped => pumpLoop fuel (k + 1) taken.control ingress taken.intake
      | .queued normal =>
        let rest := pumpLoop fuel (k + 1) taken.control ingress taken.intake
        { rest with queued := normal :: rest.queued }
    else ⟨ingress, intake, true, []⟩

/-- The control record starts out cleared and is not cleared again between packets. -/
def pumpIngress (ingress : IngressState) (intake : Intake) : Pumped :=
  pumpLoop policy env clock ingress.count 0 ⟨false⟩ ingress intake

structure PumpClock where
  start : UInt64
  taken : ℕ → UInt64
  finish : UInt64

def expireBoth (intake : Intake) (nowMs : UInt64) : Intake :=
  ⟨(MuxSession.expire intake.session nowMs).2, (MuxStream.expire intake.stream nowMs).2⟩

def pump (env : CodecEnv) (clock : PumpClock) (waiting : List Datagram) (state : MuxState) :
    MuxState × List RecvPacket :=
  let expired := expireBoth state.intake clock.start
  let pumped := pumpIngress state.policy env clock.taken (ingressPump state.ingress waiting) expired
  let intake := if pumped.finished then
      { pumped.intake with stream := (MuxStream.expire pumped.intake.stream clock.finish).2 }
    else pumped.intake
  ({ state with ingress := pumped.ingress, intake := intake }, pumped.queued)

def drain (state : MuxState) : Option RecvPacket × MuxState :=
  let drained := MuxStream.drain state.intake.stream true
  (drained.1, { state with intake := { state.intake with stream := drained.2 } })

def pumpList : ℕ → Control → Intake → List Ingress → Intake × List RecvPacket × List Ingress
  | _, _, intake, [] => (intake, [], [])
  | k, control, intake, raw :: waiting =>
    let taken := take policy env (clock k) control intake raw
    match taken.outcome with
    | .refused => (taken.intake, [], waiting)
    | .skipped => pumpList (k + 1) taken.control taken.intake waiting
    | .queued normal =>
      let rest := pumpList (k + 1) taken.control taken.intake waiting
      (rest.1, normal :: rest.2.1, rest.2.2)

theorem pumpLoop_list (fuel k : ℕ) (control : Control) (ingress : IngressState) (intake : Intake)
    (enough : ingress.contents.length ≤ fuel) :
    let pumped := pumpLoop policy env clock fuel k control ingress intake
    (pumped.intake, pumped.queued, pumped.ingress.contents) =
      pumpList policy env clock k control intake ingress.contents := by
  induction fuel generalizing k control ingress intake with
  | zero =>
    have empty : ingress.contents = [] := List.length_eq_zero_iff.mp (Nat.le_zero.mp enough)
    unfold pumpLoop
    dsimp only
    rw [empty]
    rfl
  | succ fuel ih =>
    unfold pumpLoop
    split
    · rename_i nonempty
      have contents := Ring.contents_pop ingress Ingress.zero nonempty
      rw [contents] at enough ⊢
      have fewer : (ingress.pop Ingress.zero nonempty).contents.length ≤ fuel :=
        Nat.le_of_succ_le_succ enough
      unfold pumpList
      dsimp only
      generalize take policy env (clock k) control intake ingress.front = taken
      cases taken.outcome with
      | refused => rfl
      | skipped => exact ih (k + 1) taken.control _ taken.intake fewer
      | queued normal =>
        have rest := ih (k + 1) taken.control _ taken.intake fewer
        dsimp only at rest ⊢
        rw [← rest]
    · rename_i none_left
      have empty : ingress.contents = [] := (Ring.contents_eq_nil ingress).mpr (by omega)
      dsimp only
      rw [empty]
      rfl

/-- The loop goes through the queue in the order in which the datagrams came in. -/
theorem pumpIngress_list (ingress : IngressState) (intake : Intake) :
    let pumped := pumpIngress policy env clock ingress intake
    (pumped.intake, pumped.queued, pumped.ingress.contents) =
      pumpList policy env clock 0 ⟨false⟩ intake ingress.contents :=
  pumpLoop_list policy env clock _ 0 ⟨false⟩ ingress intake (Ring.contents_length ingress).le

theorem receive_contents (state : IngressState) (waiting : List Datagram)
    (room : state.count + waiting.length ≤ INGRESS_QUEUE_CAPACITY) :
    (receive state waiting).contents = state.contents ++ waiting.map Datagram.ingress := by
  induction waiting generalizing state with
  | nil => simp [receive]
  | cons datagram waiting ih =>
    rw [List.length_cons] at room
    have free : state.count < INGRESS_QUEUE_CAPACITY := by omega
    unfold receive
    rw [dif_pos free, ih _ (by change state.count + 1 + waiting.length ≤ _; omega),
      Ring.contents_push]
    simp

/-- An idle connection takes in all that waits, up to its capacity. -/
theorem ingressPump_contents {state : IngressState} (idle : state.contents = [])
    (waiting : List Datagram) (room : waiting.length ≤ INGRESS_QUEUE_CAPACITY) :
    (ingressPump state waiting).contents = waiting.map Datagram.ingress := by
  have empty := (Ring.contents_eq_nil state).mp idle
  unfold ingressPump
  rw [if_neg (by omega), receive_contents state waiting (by omega), idle, List.nil_append]

end Pump

end Siglatch.MuxInbox
