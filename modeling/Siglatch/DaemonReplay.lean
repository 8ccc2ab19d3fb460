import Siglatch.DaemonDelivery
import Siglatch.LibNonce

set_option autoImplicit false

namespace Siglatch.DaemonReplay
open MuxTypes AppConfig KnockContext KnockDigest DaemonTypes DaemonPayload DaemonRunner MuxNormalize
open MuxStreamView MuxInbox MuxInboxRuns MuxRoundTrip DaemonLoop DaemonDelivery StepRuns
open LibNonce (NONCE_DEFAULT_CAPACITY NONCE_DEFAULT_TTL_SECONDS)

/-- What two requests have in common if one is a copy of the other. -/
structure Knock where
  wireVersion : UInt32
  timestamp : UInt32
  request : RequestPacket
  deriving DecidableEq

def jobKnock (job : Job) : Knock := ⟨job.wireVersion, job.timestamp, job.request⟩

def drainedPacket : Event → Option RecvPacket
  | .drained normal => some normal
  | _ => none

def processedRecord : Event → Option Processed
  | .processed record => some record
  | _ => none

/-- A request that the daemon takes up: the packet that its job was made of, what became of it, and
the hash that signatures were checked with. -/
structure Service where
  hash : Hash
  packet : RecvPacket
  record : Processed

def called (service : Service) : Bool := service.record.done.dispatched.isSome

/-- The request is structured, and the gate is open for it in the state in which it is taken up. -/
def Open (service : Service) : Prop :=
  service.record.job.wireVersion ≠ 0 ∧ ∃ server user action, Gate service.hash
    service.record.before.config service.record.before.listener service.record.job server user
    action

def Copies (a b : Service) : Prop :=
  a.record.job.wireVersion ≠ 0 ∧ jobKnock a.record.job = jobKnock b.record.job

theorem open_any_iff (service : Service) :
    (service.record.job.wireVersion ≠ 0 ∧
      (service.record.before.listener.server.any fun server =>
        (userById service.record.before.config
          service.record.job.request.userId.toUInt32).any fun user =>
        (actionById service.record.before.config
          service.record.job.request.actionId.toUInt32).any fun action =>
        decide (Gate service.hash service.record.before.config service.record.before.listener
          service.record.job server user action)) = true) ↔ Open service := by
  simp only [Option.any_eq_true, decide_eq_true_eq]
  refine and_congr_right fun _ => ?_
  constructor
  · rintro ⟨server, -, user, -, action, -, gate⟩
    exact ⟨server, user, action, gate⟩
  · rintro ⟨server, user, action, gate⟩
    exact ⟨server, gate.listening, user, gate.user_known, action, gate.action_known, gate⟩

instance (service : Service) : Decidable (Open service) :=
  decidable_of_iff _ (open_any_iff service)

/-- They arrived while a nonce lives. -/
def Close (a b : Service) : Prop :=
  |(a.packet.receivedMs.toNat : ℤ) - b.packet.receivedMs.toNat| ≤ NONCE_DEFAULT_TTL_SECONDS * 1000

instance (a b : Service) : Decidable (Copies a b) := inferInstanceAs (Decidable (_ ∧ _))

instance (a b : Service) : Decidable (Close a b) := inferInstanceAs (Decidable (_ ≤ _))

/-- The requests that a turn takes up: packets that jobs can be made of, in the order in which the
inbox hands them out. -/
def turnServices (now : Option Loop × Turn) : List Service :=
  let events := (DaemonLoop.step now.1 now.2).2
  List.zipWith (Service.mk now.2.world.hash)
    ((events.filterMap drainedPacket).filter fun p => (loadFromNormal p).isSome)
    (events.filterMap processedRecord)

/-- The last requests for which the gate was open, as many as the nonce cache holds. -/
def remembered (history : List Service) : List Service :=
  (history.filter fun service => decide (Open service)).reverse.take NONCE_DEFAULT_CAPACITY

section Run

variable (loop : Loop) (inputs : List Turn)

def services : List Service :=
  (steps DaemonLoop.step (some loop) inputs).flatMap turnServices

def received : List Ingress :=
  (steps DaemonLoop.step (some loop) inputs).flatMap fun now => arrivals now.1 now.2

/-- Some pump of the run makes this packet of the datagram. -/
def Made (raw : Ingress) (p : RecvPacket) : Prop :=
  ∃ now ∈ steps DaemonLoop.step (some loop) inputs, ∃ ready control,
    now.1.bind reconnect = some ready ∧
    (normalize ready.mux.policy (now.2.world.codecEnv ready.runtime) raw control).1 = some p

/-- The services account for the run: for all that is processed in it, each with the packet of its
job, which a datagram of the run was decoded to when it arrived. -/
structure Accounts : Prop where
  processed : (services loop inputs).map Service.record =
    (run DaemonLoop.step (some loop) inputs).2.filterMap processedRecord
  loaded : ∀ service ∈ services loop inputs,
    loadFromNormal service.packet = some service.record.job
  arrived : ∀ service ∈ services loop inputs, ∃ raw ∈ received loop inputs,
    raw.receivedMs = service.packet.receivedMs ∧
      ∃ p, Made loop inputs raw p ∧ content p = content service.packet

/-- Of two copies of a request that arrive while a nonce lives, with fewer calls in between than
the nonce cache holds, no more than one leads to a call. -/
def Protected : Prop :=
  ∀ earlier a between b later, services loop inputs = earlier ++ a :: (between ++ b :: later) →
    Copies a b → Close a b → between.countP called < NONCE_DEFAULT_CAPACITY →
    ¬ (called a = true ∧ called b = true)

/-- Where a request is taken up of which a copy is remembered that arrived while a nonce lives, the
gate has been closed since. -/
def Guarded : Prop :=
  ∀ earlier service later, services loop inputs = earlier ++ service :: later →
    (∃ a ∈ remembered earlier, Copies a service ∧ Close a service) → ¬ Open service

end Run

section Jobs

theorem fill_loads (fuel : ℕ) (mux : MuxState) (jobs : JobState)
    (room : jobs.count + (queued mux.intake.stream).card ≤ APP_JOB_READY_QUEUE_CAPACITY) :
    (fill fuel mux jobs).jobs.contents =
      jobs.contents ++ (fill fuel mux jobs).handed.filterMap loadFromNormal := by
  induction fuel generalizing mux jobs with
  | zero => exact (List.append_nil _).symm
  | succ fuel ih =>
    unfold fill
    cases handed : handOut mux with
    | none => exact (List.append_nil _).symm
    | some next =>
      obtain ⟨normal, after⟩ := next
      rw [handOut_queued handed, Multiset.card_cons] at room
      have space : jobs.count < APP_JOB_READY_QUEUE_CAPACITY := by omega
      dsimp only
      cases loaded : loadFromNormal normal with
      | none =>
        have refused : enqueue jobs normal = none := by
          unfold enqueue
          rw [dif_pos space, loaded]
          rfl
        rw [refused, Option.getD_none, List.filterMap_cons_none loaded]
        exact ih after jobs (by omega)
      | some job =>
        have pushed : enqueue jobs normal = some (jobs.push job space) := by
          unfold enqueue
          rw [dif_pos space, loaded]
          rfl
        have longer : (jobs.push job space).count = jobs.count + 1 := rfl
        rw [pushed, Option.getD_some, ih after _ (by omega), RingQueue.Ring.contents_push,
          List.filterMap_cons_some loaded, List.append_assoc]
        rfl

theorem zip_loaded {handed : List RecvPacket} {log : List Processed}
    (front : log.map (·.job) <+: handed.filterMap loadFromNormal) (hash : Hash) :
    let taken := List.zipWith (Service.mk hash)
      (handed.filter fun p => (loadFromNormal p).isSome) log
    taken.map Service.record = log ∧ ∀ service ∈ taken, service.hash = hash ∧
      service.packet ∈ handed ∧ loadFromNormal service.packet = some service.record.job := by
  induction handed generalizing log with
  | nil =>
    rw [List.filterMap_nil, List.prefix_nil, List.map_eq_nil_iff] at front
    rw [front]
    exact ⟨rfl, fun _ member => absurd member List.not_mem_nil⟩
  | cons p handed ih =>
    cases loaded : loadFromNormal p with
    | none =>
      rw [List.filterMap_cons_none loaded] at front
      rw [List.filter_cons_of_neg (by rw [loaded]; exact Bool.false_ne_true)]
      obtain ⟨all, each⟩ := ih front
      exact ⟨all, fun service member => by
        obtain ⟨same, inside, job⟩ := each service member
        exact ⟨same, List.mem_cons_of_mem p inside, job⟩⟩
    | some job =>
      rw [List.filterMap_cons_some loaded] at front
      rw [List.filter_cons_of_pos (by rw [loaded]; rfl)]
      cases log with
      | nil => exact ⟨rfl, fun _ member => absurd member List.not_mem_nil⟩
      | cons record log =>
        rw [List.map_cons, List.cons_prefix_cons] at front
        obtain ⟨rfl, rest⟩ := front
        obtain ⟨all, each⟩ := ih rest
        refine ⟨congrArg (record :: ·) all, ?_⟩
        intro service member
        rcases List.mem_cons.mp member with rfl | later
        · exact ⟨rfl, List.mem_cons_self, loaded⟩
        · obtain ⟨same, inside, loads⟩ := each service later
          exact ⟨same, List.mem_cons_of_mem p inside, loads⟩

end Jobs

section Turns

variable {loop : Loop} {input : Turn}

theorem filterMap_finished {ready : Loop} {after : Option Loop} {events : List Event}
    (finished : Finished input ready after events) :
    events.filterMap drainedPacket = (intake input ready).handed ∧
      events.filterMap processedRecord = drainLog input.world (intake input ready).jobs.count 0
        ready.runtime (intake input ready).jobs (intake input ready).mux.egress := by
  have handed (packets : List RecvPacket) :
      (packets.map Event.drained).filterMap drainedPacket = packets ∧
        (packets.map Event.drained).filterMap processedRecord = [] := by
    rw [List.filterMap_map, List.filterMap_map]
    exact ⟨List.filterMap_some, List.filterMap_eq_nil_iff.mpr fun _ _ => rfl⟩
  have logged (log : List Processed) :
      (log.map Event.processed).filterMap drainedPacket = [] ∧
        (log.map Event.processed).filterMap processedRecord = log := by
    rw [List.filterMap_map, List.filterMap_map]
    exact ⟨List.filterMap_eq_nil_iff.mpr fun _ _ => rfl, List.filterMap_some⟩
  rw [finished.events, List.filterMap_cons_none rfl, List.filterMap_cons_none rfl,
    List.filterMap_append, List.filterMap_append, (handed _).1, (handed _).2, (logged _).1,
    (logged _).2]
  exact ⟨List.append_nil _, rfl⟩

theorem turnServices_loaded (idle : loop.jobs.contents = []) :
    (turnServices (some loop, input)).map Service.record =
        (turn loop input).2.filterMap processedRecord ∧
      ∀ service ∈ turnServices (some loop, input), service.hash = input.world.hash ∧
        .drained service.packet ∈ (turn loop input).2 ∧
        loadFromNormal service.packet = some service.record.job := by
  have member {p : RecvPacket} (inside : p ∈ (turn loop input).2.filterMap drainedPacket) :
      .drained p ∈ (turn loop input).2 := by
    obtain ⟨event, there, drained⟩ := List.mem_filterMap.mp inside
    cases event with
    | drained normal => exact Option.some.inj drained ▸ there
    | pumped runtime mux => cases drained
    | processed record => cases drained
  have front : ((turn loop input).2.filterMap processedRecord).map (·.job) <+:
      ((turn loop input).2.filterMap drainedPacket).filterMap loadFromNormal := by
    rcases turn_cases loop input with ⟨-, ended⟩ | ⟨ready, reconnected, broken | finished⟩
    · rw [ended]
      exact List.nil_prefix
    · rw [broken]
      exact List.nil_prefix
    · obtain ⟨-, jobs, -⟩ := @reconnect_some (fun _ => True) _ (fun _ => True) _ _ _ reconnected
      rw [← jobs] at idle
      have empty : ready.jobs.count = 0 := (RingQueue.Ring.contents_eq_nil ready.jobs).mp idle
      have few : (queued (pumped input ready).intake.stream).card ≤ APP_JOB_READY_QUEUE_CAPACITY :=
        queued_card_le _
      have filled := fill_loads (pumped input ready).intake.stream.readyCount (pumped input ready)
        ready.jobs (by omega)
      rw [← intake_pumped, idle, List.nil_append] at filled
      obtain ⟨drained, processed⟩ := filterMap_finished finished
      rw [drained, processed, ← filled]
      exact ⟨_, drainLog_jobs _ _ _ _ _⟩
  obtain ⟨all, each⟩ := zip_loaded front input.world.hash
  refine ⟨all, fun service taken => ?_⟩
  obtain ⟨same, inside, loads⟩ := each service taken
  exact ⟨same, member inside, loads⟩

theorem turn_hands {P : RecvPacket → Prop} [DecidablePred P] {Good : Ingress → Prop}
    [DecidablePred Good] (lasting : Lasting P) (loop : Loop) (input : Turn)
    (comes : ∀ ready, reconnect loop = some ready →
      Comes P Good ready.mux.policy (input.world.codecEnv ready.runtime)) :
    loopHeld P Good (turn loop input).1 + (turn loop input).2.countP (hands P) ≤
      loopHeld P Good (some loop) + (arrivals (some loop) input).countP Good := by
  cases reconnected : reconnect loop with
  | none =>
    unfold turn
    rw [reconnected]
    exact Nat.zero_le _
  | some ready =>
    obtain ⟨-, -, -, fewer, -⟩ := @reconnect_some P _ Good _ _ _ reconnected
    have counted := turn_count lasting reconnected (comes ready reconnected)
    unfold arrivals
    rw [Option.bind_some, reconnected]
    change _ ≤ held P Good loop.mux.intake loop.mux.ingress.contents + _
    dsimp only
    omega

end Turns

section Runs

variable {loop : Loop} {inputs : List Turn} {opensslReady : Bool} {config : Option Config}
  {listener : Listener} {context : CodecContext}

theorem started_idle (started : start opensslReady config listener context = some loop) :
    ∀ state ∈ reached DaemonLoop.step (some loop) inputs, ∀ now ∈ state,
      now.jobs.contents = [] := by
  refine @run_reached _ _ _ DaemonLoop.step (fun state => ∀ now ∈ state, now.jobs.contents = [])
    (fun _ _ => True) ?_ (some loop) ?_ inputs fun _ _ => trivial
  · intro state input _ before next continues
    cases state with
    | none => cases continues
    | some now => exact turn_jobs continues
  · intro now same
    obtain rfl := Option.some.inj same
    exact (start_idle started).jobs

theorem made_received {raw : Ingress} {p : RecvPacket} (made : Made loop inputs raw p) :
    p.receivedMs = raw.receivedMs := by
  obtain ⟨now, -, ready, control, -, decoded⟩ := made
  rcases normalize_cases decoded with copied | ⟨adapter, identity, out, after, -, -, -, rfl⟩
  · exact (rawCopy_raw copied).received
  · rfl

open Classical in
theorem drained_arrived (started : start opensslReady config listener context = some loop)
    {q : RecvPacket} (drained : .drained q ∈ (run DaemonLoop.step (some loop) inputs).2) :
    ∃ raw ∈ received loop inputs, raw.receivedMs = q.receivedMs ∧
      ∃ p, Made loop inputs raw p ∧ content p = content q := by
  let P : RecvPacket → Prop := fun p => content p = content q
  let Good : Ingress → Prop := fun raw => ∃ p, Made loop inputs raw p ∧ P p
  have lasting : Lasting P := lasting_of_content fun _ => Iff.rfl
  have counted := @run_count _ _ _ DaemonLoop.step (loopHeld P Good)
    (fun state input => (arrivals state input).countP Good) (hands P)
    (fun state input => (state, input) ∈ steps DaemonLoop.step (some loop) inputs) ?_ (some loop)
    inputs fun _ taken => taken
  · have nothing : loopHeld P Good (some loop) = 0 := by
      have work := @start_workHeld P _ Good _ (fun _ => True) _ _ _ _ _ _ started
      exact Nat.eq_zero_of_add_eq_zero_right work
    have total : (received loop inputs).countP Good =
        ((steps DaemonLoop.step (some loop) inputs).map fun now =>
          (arrivals now.1 now.2).countP Good).sum := List.countP_flatMap
    have one : 0 < (run DaemonLoop.step (some loop) inputs).2.countP (hands P) :=
      List.countP_pos_iff.mpr ⟨_, drained, decide_eq_true rfl⟩
    have some_good : 0 < (received loop inputs).countP Good := by omega
    obtain ⟨raw, read, good⟩ := List.countP_pos_iff.mp some_good
    obtain ⟨p, made, same⟩ := of_decide_eq_true good
    refine ⟨raw, read, ?_, p, made, same⟩
    rw [← made_received made]
    change (content p).receivedMs = (content q).receivedMs
    exact congrArg RecvPacket.receivedMs same
  · intro state input taken
    cases state with
    | none => exact Nat.le_refl _
    | some before =>
      apply turn_hands lasting before input
      rintro ready reconnected raw control p decoded same
      exact ⟨p, ⟨_, taken, ready, control, reconnected, decoded⟩, same⟩

theorem services_turn {service : Service} (member : service ∈ services loop inputs) :
    ∃ before input, (some before, input) ∈ steps DaemonLoop.step (some loop) inputs ∧
      service ∈ turnServices (some before, input) := by
  obtain ⟨⟨state, input⟩, taken, inside⟩ := List.mem_flatMap.mp member
  cases state with
  | none => cases inside
  | some before => exact ⟨before, input, taken, inside⟩

theorem services_account (started : start opensslReady config listener context = some loop) :
    Accounts loop inputs := by
  have idle := @started_idle loop inputs _ _ _ _ started
  refine ⟨?_, fun service member => ?_, fun service member => ?_⟩
  · unfold services
    rw [run_flatMap, List.map_flatMap, List.filterMap_flatMap]
    refine List.flatMap_congr fun now taken => ?_
    obtain ⟨state, input⟩ := now
    cases state with
    | none => rfl
    | some before =>
      exact (turnServices_loaded (idle _ (steps_reached taken) before rfl)).1
  · obtain ⟨before, input, taken, inside⟩ := services_turn member
    exact ((turnServices_loaded (idle _ (steps_reached taken) before rfl)).2 service inside).2.2
  · obtain ⟨before, input, taken, inside⟩ := services_turn member
    obtain ⟨-, drained, -⟩ :=
      (turnServices_loaded (idle _ (steps_reached taken) before rfl)).2 service inside
    exact drained_arrived started (steps_events taken _ drained)

/-- A request leads to a call just when the gate is open for it. -/
theorem called_eq (started : start opensslReady config listener context = some loop)
    {service : Service} (member : service ∈ services loop inputs) :
    called service = decide (Open service) := by
  have idle := @started_idle loop inputs _ _ _ _ started
  obtain ⟨before, input, taken, inside⟩ := services_turn member
  obtain ⟨all, each⟩ :=
    @turnServices_loaded before input (idle _ (steps_reached taken) before rfl)
  have record : service.record ∈ (turn before input).2.filterMap processedRecord := by
    rw [← all]
    exact List.mem_map_of_mem inside
  obtain ⟨event, happened, is_record⟩ := List.mem_filterMap.mp record
  cases event with
  | pumped runtime mux => cases is_record
  | drained normal => cases is_record
  | processed record =>
    obtain rfl : record = service.record := Option.some.inj is_record
    rw [Bool.eq_iff_iff, decide_eq_true_iff]
    unfold called Open
    rw [(each service inside).1, turn_records happened, Option.isSome_iff_exists]
    constructor
    · rintro ⟨⟨user, action⟩, reached⟩
      obtain ⟨structured, server, gate⟩ := (consume_gate_iff _ _ _ user action).mp reached
      exact ⟨structured, server, user, action, gate⟩
    · rintro ⟨structured, server, user, action, gate⟩
      exact ⟨(user, action), (consume_gate_iff _ _ _ user action).mpr
        ⟨structured, server, gate⟩⟩

end Runs

section Memory

/-- The latest of the items of a kind are those that few of the kind have followed. -/
theorem mem_latest_iff {α : Type*} (kind : α → Bool) (n : ℕ) (items : List α) (a : α) :
    a ∈ ((items.filter kind).reverse.take n) ↔ ∃ earlier between,
      items = earlier ++ a :: between ∧ kind a = true ∧ between.countP kind < n := by
  induction items using List.reverseRecOn generalizing n with
  | nil => simp
  | append_singleton items x ih =>
    have split_last : (∃ earlier between, items ++ [x] = earlier ++ a :: between ∧ kind a = true ∧
        between.countP kind < n) ↔ (x = a ∧ kind a = true ∧ 0 < n) ∨
        ∃ earlier between, items = earlier ++ a :: between ∧ kind a = true ∧
          (between ++ [x]).countP kind < n := by
      constructor
      · rintro ⟨earlier, between, same, is, few⟩
        rcases List.eq_nil_or_concat between with rfl | ⟨front, last, rfl⟩
        · obtain ⟨-, last⟩ := List.append_inj' same rfl
          exact .inl ⟨List.head_eq_of_cons_eq last, is, few⟩
        · rw [List.concat_eq_append] at same few
          rw [← List.cons_append, ← List.append_assoc] at same
          obtain ⟨rest, last⟩ := List.append_inj' same rfl
          obtain rfl := List.head_eq_of_cons_eq last
          exact .inr ⟨earlier, front, rest, is, few⟩
      · rintro (⟨rfl, is, room⟩ | ⟨earlier, between, rfl, is, few⟩)
        · exact ⟨items, [], rfl, is, room⟩
        · exact ⟨earlier, between ++ [x], by rw [List.append_assoc]; rfl, is, few⟩
    rw [split_last, List.filter_append, List.reverse_append]
    simp only [List.countP_append]
    cases fits : kind x with
    | false =>
      rw [List.filter_cons_of_neg (by rw [fits]; exact Bool.false_ne_true), List.filter_nil,
        List.reverse_nil, List.nil_append, ih n,
        List.countP_cons_of_neg (by rw [fits]; exact Bool.false_ne_true), List.countP_nil]
      refine (or_iff_right ?_).symm
      rintro ⟨rfl, is, -⟩
      rw [fits] at is
      cases is
    | true =>
      rw [List.filter_cons_of_pos fits, List.filter_nil, List.reverse_singleton,
        List.countP_cons_of_pos fits, List.countP_nil]
      cases n with
      | zero => simp
      | succ n =>
        rw [List.singleton_append, List.take_succ_cons, List.mem_cons, ih n]
        refine or_congr ⟨fun same => ⟨same.symm, same ▸ fits, Nat.succ_pos n⟩,
          fun h => h.1.symm⟩ ?_
        simp only [Nat.zero_add, Nat.add_lt_add_iff_right]

end Memory

section Claim

variable {loop : Loop} {opensslReady : Bool} {config : Option Config} {listener : Listener}
  {context : CodecContext}

theorem pair_called (started : start opensslReady config listener context = some loop)
    {inputs : List Turn} {earlier between later : List Service} {a b : Service}
    (pair : services loop inputs = earlier ++ a :: (between ++ b :: later)) :
    called a = decide (Open a) ∧ called b = decide (Open b) ∧
      between.countP called = between.countP fun service => decide (Open service) := by
  have calls {service : Service} (inside : service ∈ earlier ++ a :: (between ++ b :: later)) :
      called service = decide (Open service) := called_eq started (pair ▸ inside)
  refine ⟨calls (by simp), calls (by simp), List.countP_congr fun other inside => ?_⟩
  rw [calls (by simp [inside])]

/-- In a run from the start no two close copies of a request lead to a call, exactly if the gate is
closed for every close copy of a request that is remembered. -/
theorem knock_protected_iff (started : start opensslReady config listener context = some loop)
    (inputs : List Turn) :
    Accounts loop inputs ∧ (Protected loop inputs ↔ Guarded loop inputs) := by
  refine ⟨services_account started, ?_⟩
  constructor
  · intro apart earlier service later served ⟨a, kept, copies, close⟩ opens
    obtain ⟨before, between, rfl, opened, few⟩ := (mem_latest_iff _ _ earlier a).mp kept
    rw [List.append_assoc] at served
    obtain ⟨first, second, counted⟩ := pair_called started served
    refine apart before a between service later served copies close (counted ▸ few) ⟨?_, ?_⟩
    · exact first.trans opened
    · exact second.trans (decide_eq_true opens)
  · intro guarded earlier a between b later served copies close few ⟨first, second⟩
    obtain ⟨opened, opens, counted⟩ := pair_called started served
    rw [← List.cons_append, ← List.append_assoc] at served
    refine guarded (earlier ++ a :: between) b later served ⟨a, ?_, copies, close⟩ ?_
    · exact (mem_latest_iff _ _ _ a).mpr
        ⟨earlier, between, rfl, opened.symm.trans first, counted ▸ few⟩
    · exact of_decide_eq_true (opens.symm.trans second)

theorem guarded_of_apart {inputs : List Turn}
    (apart : (services loop inputs).Pairwise fun a b => ¬ (Copies a b ∧ Close a b)) :
    Guarded loop inputs := by
  rintro earlier service later served ⟨a, kept, close⟩ -
  obtain ⟨before, between, rfl, -, -⟩ := (mem_latest_iff _ _ earlier a).mp kept
  rw [served] at apart
  obtain ⟨-, -, cross⟩ := List.pairwise_append.mp apart
  exact cross a (List.mem_append_right _ List.mem_cons_self) service List.mem_cons_self close

end Claim

def lateKnock : Turn :=
  { knockTurn 1 with
    waiting := [{ aliceKnock with receivedMs := 66000 }], clock := ⟨66000, fun _ => 66000, 66000⟩ }

/-- Two calls, with more than a minute between them. -/
theorem late_protected : Protected doorbellLoop [knockTurn 1, lateKnock] ∧
    (services doorbellLoop [knockTurn 1, lateKnock]).countP called = 2 := by
  obtain ⟨-, exactly⟩ := knock_protected_iff doorbell_starts [knockTurn 1, lateKnock]
  exact ⟨exactly.mpr (guarded_of_apart (by decide +kernel)), by decide +kernel⟩

/-- The same datagram twice in one turn: the door is opened twice. -/
theorem copy_not_protected :
    ¬ ∀ (opensslReady : Bool) (config : Option Config) (listener : Listener)
        (context : CodecContext) (loop : Loop) (inputs : List Turn),
      start opensslReady config listener context = some loop → Protected loop inputs := by
  intro always
  have protects := always _ _ _ _ doorbellLoop [knockTurn 2] doorbell_starts
  have two : (services doorbellLoop [knockTurn 2]).length = 2 := by decide +kernel
  have all : (services doorbellLoop [knockTurn 2]).all called = true := by decide +kernel
  have close : (services doorbellLoop [knockTurn 2]).Pairwise fun a b =>
      Copies a b ∧ Close a b := by
    decide +kernel
  obtain ⟨a, b, both⟩ := List.length_eq_two.mp two
  rw [both] at all close
  obtain ⟨copies, near⟩ := List.pairwise_pair.mp close
  refine protects [] a [] b [] both copies near (by decide) ⟨?_, ?_⟩
  · exact List.all_eq_true.mp all a List.mem_cons_self
  · exact List.all_eq_true.mp all b (List.mem_cons_of_mem a List.mem_cons_self)

end Siglatch.DaemonReplay
