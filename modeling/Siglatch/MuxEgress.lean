import Siglatch.RingQueue
import Siglatch.MuxTypes

set_option autoImplicit false

namespace Siglatch.MuxEgress
open MuxTypes RingQueue

def EGRESS_QUEUE_CAPACITY : ℕ := 64

abbrev EgressState := Ring EGRESS_QUEUE_CAPACITY EgressData

def stateInit : EgressState := Ring.empty (by decide) EgressData.zero

def hasPending (state : EgressState) : Bool := decide (0 < state.count)

def enqueueEgress (state : EgressState) (egress : EgressData) : Option EgressState :=
  if egress.egressBuffer.length > NORMALIZED_PACKET_BUFFER_SIZE then none
  else if h : state.count < EGRESS_QUEUE_CAPACITY then some (state.push egress h)
  else none

def stageEgress (state : EgressState) (packet : EgressData) : Option EgressState :=
  if packet.egressBuffer.length > NORMALIZED_PACKET_BUFFER_SIZE then none
  else enqueueEgress state packet

/-- What a flush leaves behind and the datagrams it handed to the socket, in order. -/
structure FlushResult where
  state : EgressState
  sent : List EgressData

def FlushResult.flushed (r : FlushResult) : ℕ := r.sent.length

/-- The flush loop. `send k` is the outcome of the `k`-th send attempt of this call; `fuel`
    bounds the iterations, each of which removes the head entry or ends the loop. -/
def flushLoop (send : ℕ → EgressData → Bool) : ℕ → ℕ → EgressState → FlushResult
  | 0, _, state => ⟨state, []⟩
  | fuel + 1, k, state =>
    if h : 0 < state.count then
      if state.front.egressBuffer.length = 0 then
        flushLoop send fuel k (state.pop EgressData.zero h)
      else if send k state.front then
        let rest := flushLoop send fuel (k + 1) (state.pop EgressData.zero h)
        ⟨rest.state, state.front :: rest.sent⟩
      else ⟨state, []⟩
    else ⟨state, []⟩

def flushEgress (send : ℕ → EgressData → Bool) (state : EgressState) (sock : ℤ) : FlushResult :=
  if sock < 0 then ⟨state, []⟩ else flushLoop send state.count 0 state

theorem stateInit_contents : stateInit.contents = [] := rfl

theorem enqueueEgress_some {state state' : EgressState} {egress : EgressData}
    (h : enqueueEgress state egress = some state') :
    egress.egressBuffer.length ≤ NORMALIZED_PACKET_BUFFER_SIZE ∧
    state.count < EGRESS_QUEUE_CAPACITY ∧ state'.count = state.count + 1 ∧
    state'.contents = state.contents ++ [egress] := by
  unfold enqueueEgress at h
  split at h
  · contradiction
  · rename_i hlen
    split at h
    · rename_i hc
      obtain rfl := Option.some.inj h
      exact ⟨Nat.not_lt.mp hlen, hc, rfl, Ring.contents_push state egress hc⟩
    · contradiction

theorem stageEgress_some {state state' : EgressState} {packet : EgressData}
    (h : stageEgress state packet = some state') :
    packet.egressBuffer.length ≤ NORMALIZED_PACKET_BUFFER_SIZE ∧
    state.count < EGRESS_QUEUE_CAPACITY ∧ state'.count = state.count + 1 ∧
    state'.contents = state.contents ++ [packet] := by
  unfold stageEgress at h
  split at h
  · contradiction
  · exact enqueueEgress_some h

theorem stageEgress_isSome_iff {state : EgressState} {packet : EgressData} :
    (stageEgress state packet).isSome ↔
    packet.egressBuffer.length ≤ NORMALIZED_PACKET_BUFFER_SIZE ∧
    state.count < EGRESS_QUEUE_CAPACITY := by
  by_cases hlen : packet.egressBuffer.length > NORMALIZED_PACKET_BUFFER_SIZE
  · simp [stageEgress, hlen]
  · by_cases hc : state.count < EGRESS_QUEUE_CAPACITY
    · simp [stageEgress, enqueueEgress, hlen, hc, Nat.not_lt.mp hlen]
    · simp [stageEgress, enqueueEgress, hlen, hc]

section Flush

def nonempty (e : EgressData) : Bool := decide (e.egressBuffer.length ≠ 0)

theorem flushLoop_fifo (send : ℕ → EgressData → Bool) (fuel k : ℕ) (state : EgressState) :
    (flushLoop send fuel k state).sent ++
      (flushLoop send fuel k state).state.contents.filter nonempty =
    state.contents.filter nonempty := by
  induction fuel generalizing k state with
  | zero => rfl
  | succ fuel ih =>
    unfold flushLoop
    split
    · rename_i h
      split
      · rename_i hempty
        rw [ih, Ring.contents_pop state EgressData.zero h]
        simp [nonempty, hempty]
      · rename_i hlen
        split
        · rw [Ring.contents_pop state EgressData.zero h, List.filter_cons_of_pos (by
            simpa [nonempty] using hlen)]
          exact congrArg (List.cons state.front) (ih (k + 1) _)
        · rfl
    · rfl

theorem flushEgress_fifo (send : ℕ → EgressData → Bool) (state : EgressState) (sock : ℤ) :
    (flushEgress send state sock).sent ++
      (flushEgress send state sock).state.contents.filter nonempty =
    state.contents.filter nonempty := by
  unfold flushEgress
  split
  · rfl
  · exact flushLoop_fifo send state.count 0 state

variable (reachable : CString → UInt16 → Bool)

def endpointSend (_ : ℕ) (e : EgressData) : Bool := reachable e.ip e.clientPort

def blocked (e : EgressData) : Bool := nonempty e && !reachable e.ip e.clientPort

theorem flushLoop_endpoint (fuel k : ℕ) (state : EgressState) (hf : state.count ≤ fuel) :
    (flushLoop (endpointSend reachable) fuel k state).state.contents =
      state.contents.dropWhile (fun e => !blocked reachable e) ∧
    (flushLoop (endpointSend reachable) fuel k state).sent =
      (state.contents.takeWhile fun e => !blocked reachable e).filter nonempty := by
  induction fuel generalizing k state with
  | zero =>
    have hnil := (Ring.contents_eq_nil state).mpr (Nat.le_zero.mp hf)
    simp [flushLoop, hnil]
  | succ fuel ih =>
    unfold flushLoop
    split
    · rename_i h
      have hpop : (state.pop EgressData.zero h).count ≤ fuel := by
        change state.count - 1 ≤ fuel
        omega
      rw [Ring.contents_pop state EgressData.zero h]
      split
      · rename_i hempty
        have hpass : blocked reachable state.front = false := by simp [blocked, nonempty, hempty]
        have hnone : nonempty state.front = false := by simp [nonempty, hempty]
        simpa [hpass, hnone] using ih k _ hpop
      · rename_i hlen
        have hsome : nonempty state.front = true := by simpa [nonempty] using hlen
        split
        · rename_i hsend
          have hr : reachable state.front.ip state.front.clientPort = true := hsend
          have hpass : blocked reachable state.front = false := by simp [blocked, hr]
          simpa [hpass, hsome] using ih (k + 1) _ hpop
        · rename_i hsend
          have hr : reachable state.front.ip state.front.clientPort = false := by
            simpa [endpointSend] using hsend
          have hstop : blocked reachable state.front = true := by simp [blocked, hsome, hr]
          simp [hstop, Ring.contents_pop state EgressData.zero h]
    · have hnil := (Ring.contents_eq_nil state).mpr (by omega)
      simp [hnil]

theorem dropWhile_split {α : Type*} (p : α → Bool) (l : List α) :
    l.dropWhile (fun a => !p a) = [] ∧ (∀ a ∈ l, p a = false) ∨
    ∃ pre a post, l = pre ++ a :: post ∧ (∀ b ∈ pre, p b = false) ∧ p a = true ∧
      l.dropWhile (fun a => !p a) = a :: post := by
  induction l with
  | nil => exact .inl ⟨rfl, fun a ha => absurd ha (List.not_mem_nil)⟩
  | cons x xs ih =>
    by_cases hx : p x = true
    · exact .inr ⟨[], x, xs, rfl, fun b hb => absurd hb (List.not_mem_nil), hx, by simp [hx]⟩
    · have hf : p x = false := by simpa using hx
      obtain ⟨hnil, hall⟩ | ⟨pre, a, post, rfl, hpre, ha, hdrop⟩ := ih
      · refine .inl ⟨by simpa [hf] using hnil, ?_⟩
        intro a ha
        obtain rfl | ha := List.mem_cons.mp ha
        · exact hf
        · exact hall a ha
      · refine .inr ⟨x :: pre, a, post, rfl, ?_, ha, by simpa [hf] using hdrop⟩
        intro b hb
        obtain rfl | hb := List.mem_cons.mp hb
        · exact hf
        · exact hpre b hb

/-- Nothing for a reachable endpoint waits behind a datagram that cannot be sent. -/
def NoneBehind (l : List EgressData) : Prop :=
  ∀ pre e post, l = pre ++ e :: post → blocked reachable e = true →
    ∀ e' ∈ post, reachable e'.ip e'.clientPort = false

theorem dropWhile_unreachable_iff (l : List EgressData) :
    (∀ e ∈ l.dropWhile fun e => !blocked reachable e, reachable e.ip e.clientPort = false) ↔
      NoneBehind reachable l := by
  have hblocked : ∀ e, blocked reachable e = true → reachable e.ip e.clientPort = false := by
    intro e he
    simp only [blocked, Bool.and_eq_true, Bool.not_eq_true'] at he
    exact he.2
  obtain ⟨hnil, hall⟩ | ⟨pre, a, post, rfl, hpre, ha, hdrop⟩ :=
      dropWhile_split (blocked reachable) l
  · rw [hnil]
    refine ⟨fun _ pre e post hl he => ?_, fun _ e he => absurd he List.not_mem_nil⟩
    rw [hall e (by rw [hl]; simp)] at he
    contradiction
  · rw [hdrop]
    constructor
    · intro h pre' e post' hl he e' he'
      -- A blocked entry cannot stand before the first one.
      obtain ⟨mid, rfl, hmid⟩ | ⟨mid, rfl, hmid⟩ := List.append_eq_append_iff.mp hl
      · cases mid with
        | nil =>
          obtain ⟨rfl, rfl⟩ := List.cons.inj hmid
          exact h e' (List.mem_cons_of_mem _ he')
        | cons b mid =>
          obtain ⟨rfl, rfl⟩ := List.cons.inj hmid
          exact h e' (by simp [he'])
      · cases mid with
        | nil =>
          obtain ⟨rfl, rfl⟩ := List.cons.inj hmid
          exact h e' (List.mem_cons_of_mem _ he')
        | cons b mid =>
          obtain ⟨rfl, rfl⟩ := List.cons.inj hmid
          rw [hpre e (by simp)] at he
          contradiction
    · intro h e he
      obtain rfl | he := List.mem_cons.mp he
      · exact hblocked e ha
      · exact h pre a post rfl ha e he

/-- A flush stops at the first datagram that cannot be sent and keeps it for a retry. -/
theorem flushEgress_stops_at_first_failure (state : EgressState) (sock : ℤ) (hsock : 0 ≤ sock) :
    (flushEgress (endpointSend reachable) state sock).sent =
      (state.contents.takeWhile fun e => !blocked reachable e).filter nonempty ∧
    (flushEgress (endpointSend reachable) state sock).state.contents =
      state.contents.dropWhile (fun e => !blocked reachable e) ∧
    ((∀ e ∈ (flushEgress (endpointSend reachable) state sock).state.contents,
        reachable e.ip e.clientPort = false) ↔ NoneBehind reachable state.contents) := by
  have hflush : flushEgress (endpointSend reachable) state sock =
      flushLoop (endpointSend reachable) state.count 0 state := if_neg (by omega)
  obtain ⟨hkept, hsent⟩ := flushLoop_endpoint reachable state.count 0 state le_rfl
  rw [hflush, hkept]
  exact ⟨hsent, rfl, dropWhile_unreachable_iff reachable state.contents⟩

end Flush

def reply (ip : CString) (port : UInt16) : EgressData :=
  { EgressData.zero with ip := ip, clientPort := port, egressBuffer := [79, 75, 0] }

def portZeroFirst : EgressState :=
  (stateInit.push (reply [49] 0) (by decide)).push (reply [50] 4000) (by decide)

def portNonzero (_ : CString) (port : UInt16) : Bool := port != 0

theorem portZeroFirst_contents :
    portZeroFirst.contents = [reply [49] 0, reply [50] 4000] := by
  unfold portZeroFirst
  rw [Ring.contents_push, Ring.contents_push, stateInit_contents]
  rfl

theorem portZeroFirst_flush :
    (flushEgress (endpointSend portNonzero) portZeroFirst 3).sent = [] ∧
    (flushEgress (endpointSend portNonzero) portZeroFirst 3).state.contents =
      [reply [49] 0, reply [50] 4000] := by
  have h := flushEgress_stops_at_first_failure portNonzero portZeroFirst 3 (by decide)
  rw [portZeroFirst_contents] at h
  exact ⟨h.1.trans (by decide), h.2.1.trans (by decide)⟩

theorem flushEgress_leaves_reachable_peer :
    ¬ ∀ (state : EgressState) (sock : ℤ) (reachable : CString → UInt16 → Bool), 0 ≤ sock →
      ∀ e ∈ (flushEgress (endpointSend reachable) state sock).state.contents,
        reachable e.ip e.clientPort = false := by
  intro h
  have hkept := flushLoop_endpoint portNonzero portZeroFirst.count 0 portZeroFirst le_rfl
  have hflush : (flushEgress (endpointSend portNonzero) portZeroFirst 3).state.contents =
      [reply [49] 0, reply [50] 4000] := by
    rw [portZeroFirst_contents] at hkept
    exact hkept.1.trans (by decide)
  have hall := h portZeroFirst 3 portNonzero (by decide) (reply [50] 4000)
    (by rw [hflush]; simp)
  contradiction

end Siglatch.MuxEgress
