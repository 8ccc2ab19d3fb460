import Siglatch.AppRuntime
import Siglatch.DaemonRunner
import Siglatch.MuxInboxRuns
import Siglatch.MuxRoundTrip

set_option autoImplicit false

namespace Siglatch.DaemonLoop
open MuxTypes AppConfig KnockContext DaemonTypes DaemonPayload DaemonRunner AppRuntime KnockCodec
open MuxNormalize MuxEgress MuxOutbox MuxInbox MuxInboxRuns MuxStreamView StepRuns
open KnockDigest KnockEncode KnockTransmit MuxAdapter MuxRoundTrip

/-- What the daemon meets outside in one turn of its loop. The flushes are the two around the
intake and the one after the jobs; a broken socket reports an error to the pump. -/
structure Turn where
  world : World
  clock : PumpClock
  waiting : List Datagram
  broken : Bool
  early : ℕ → EgressData → Bool
  late : ℕ → EgressData → Bool
  last : ℕ → EgressData → Bool

structure Loop where
  runtime : Runtime
  mux : MuxState
  trackedSock : ℤ
  jobs : JobState

def configureMuxPolicy (listener : Listener) (mux : MuxState) : MuxState :=
  match listener.server with
  | some server => { mux with policy := if server.secure then .yes else .no }
  | none => { mux with policy := .no }

def connect (listener : Listener) : Option MuxState :=
  if listener.sock < 0 then none
  else some (configureMuxPolicy listener (connectSocket listener.sock .any))

/-- The listener may have moved to another socket, which is noticed by its number. -/
def reconnect (loop : Loop) : Option Loop :=
  if loop.trackedSock ≠ loop.runtime.listener.sock then
    (connect loop.runtime.listener).map fun mux =>
      { loop with mux := mux, trackedSock := loop.runtime.listener.sock }
  else some loop

def flushOutbox (send : ℕ → EgressData → Bool) (mux : MuxState) : MuxState :=
  if MuxEgress.hasPending mux.egress then
    { mux with egress := (flush send mux.egress mux.socketFd).state }
  else mux

def handOut (mux : MuxState) : Option (RecvPacket × MuxState) :=
  if MuxStream.hasPending mux.intake.stream then
    (MuxInbox.drain mux).1.map fun normal => (normal, (MuxInbox.drain mux).2)
  else none

structure Filled where
  mux : MuxState
  jobs : JobState
  handed : List RecvPacket

def fill : ℕ → MuxState → JobState → Filled
  | 0, mux, jobs => ⟨mux, jobs, []⟩
  | fuel + 1, mux, jobs =>
    match handOut mux with
    | none => ⟨mux, jobs, []⟩
    | some (normal, mux) =>
      let rest := fill fuel mux ((enqueue jobs normal).getD jobs)
      { rest with handed := normal :: rest.handed }

/-- What became of a job, and the reply that was to be staged for it under what the codecs saw at
that moment. -/
structure Processed where
  before : Runtime
  job : Job
  done : Consumed
  reply : Option (CodecEnv × Job)

def process (world : World) (runtime : Runtime) (job : Job) : Processed :=
  let done := consume world.hash world.handlers runtime job
  ⟨runtime, job, done,
    if asksReply done.job then some (world.codecEnv done.runtime, done.job) else none⟩

def stageProcessed (world : World) (k : ℕ) (egress : EgressState) (record : Processed) : Reply :=
  match record.reply with
  | none => ⟨1, egress⟩
  | some (env, job) => stageOutboxReply env (world.random k) (world.send k)
      record.done.runtime.listener.sock egress job

/-- The jobs that the runner's loop gets through, the last of which may be the one that ends it. -/
def drainLog (world : World) : ℕ → ℕ → Runtime → JobState → EgressState → List Processed
  | 0, _, _, _, _ => []
  | fuel + 1, k, runtime, jobs, egress =>
    match DaemonTypes.drain jobs with
    | none => []
    | some (job, jobs) =>
      let record := process world runtime job
      let reply := stageProcessed world k egress record
      record :: if reply.rc ≤ 0 then []
        else drainLog world fuel (k + 1) record.done.runtime jobs reply.egress

inductive Event where
  | pumped (runtime : Runtime) (mux : MuxState)
  | drained (normal : RecvPacket)
  | processed (record : Processed)

/-- The first half of a turn: the pump between its two flushes, then the drains. -/
def intake (input : Turn) (loop : Loop) : Filled :=
  let ready := flushOutbox input.early loop.mux
  let mux := flushOutbox input.late
    (pump (input.world.codecEnv loop.runtime) input.clock input.waiting ready).1
  fill mux.intake.stream.readyCount mux loop.jobs

/-- One turn of the loop. The daemon ends if it cannot reconnect, if the pump fails or if a reply
cannot be staged. -/
def turn (loop : Loop) (input : Turn) : Option Loop × List Event :=
  match reconnect loop with
  | none => (none, [])
  | some loop =>
    let pumped := Event.pumped loop.runtime (flushOutbox input.early loop.mux)
    if input.broken then (none, [pumped])
    else
      let filled := intake input loop
      let egress := filled.mux.egress
      let log := drainLog input.world filled.jobs.count 0 loop.runtime filled.jobs egress
      let drained := drainJobsAndFlush input.world input.last loop.runtime filled.jobs egress
      (if drained.rc < 0 then none
        else some {
          runtime := drained.runtime, mux := { filled.mux with egress := drained.egress }
          trackedSock := loop.trackedSock, jobs := drained.jobs },
        pumped :: (filled.handed.map Event.drained ++ log.map Event.processed))

/-- A daemon that has ended stays as it is. -/
def step (loop : Option Loop) (input : Turn) : Option Loop × List Event :=
  match loop with
  | none => (none, [])
  | some loop => turn loop input

/-- The daemon at the head of its loop for the first time. -/
def start (opensslReady : Bool) (config : Option Config) (listener : Listener)
    (context : CodecContext) : Option Loop :=
  match initSessionForServer opensslReady listener.server OpenSSLSession.zero with
  | (false, _) => none
  | (true, session) => (connect listener).map fun mux =>
    ⟨⟨config, listener, session, context⟩, mux, listener.sock, stateInit⟩

/-- A server's name as it is asked for on the command line or in the environment, if a server's
buffer can hold it. -/
structure ServerName where
  text : CString
  nonempty : text ≠ []
  fits : text.length < 64

/-- The way from a loaded configuration into the loop: a server is selected, the codec context is
built for it and its socket is opened. -/
def startup (outside : Outside) (config : Config) (name : ServerName) : Option Loop :=
  match serverByName (some config) name.text with
  | none => none
  | some server =>
    if !server.enabled then none
    else
      match syncCodecContext outside.grants (some config) (some server) create with
      | (false, _) => none
      | (true, context) =>
        match openBoundSocket outside.rebind server with
        | none => none
        | some (sock, boundPort) =>
          start outside.opensslReady (some config)
            ⟨sock, boundPort, server.bindIp.take 63, some server⟩ context

section Log

variable {world : World}

/-- The log is one of the runner's own loop: it ends in the same runtime, with the same jobs. -/
theorem drainLoop_succ (fuel k : ℕ) (runtime : Runtime) {jobs rest : JobState} {job : Job}
    (egress : EgressState) (drained : DaemonTypes.drain jobs = some (job, rest)) :
    let record := process world runtime job
    let reply := stageProcessed world k egress record
    drainLoop world (fuel + 1) k runtime jobs egress =
      if reply.rc ≤ 0 then
        ⟨if reply.rc < 0 then reply.rc else -1, record.done.runtime, rest, reply.egress⟩
      else drainLoop world fuel (k + 1) record.done.runtime rest reply.egress := by
  rw [drainLoop, drained]
  unfold stageProcessed process
  dsimp only
  split
  · rfl
  · have fine : ¬ (1 : ℤ) ≤ 0 := by decide
    rw [if_neg fine]

theorem drainLog_succ (fuel k : ℕ) (runtime : Runtime) {jobs rest : JobState} {job : Job}
    (egress : EgressState) (drained : DaemonTypes.drain jobs = some (job, rest)) :
    let record := process world runtime job
    let reply := stageProcessed world k egress record
    drainLog world (fuel + 1) k runtime jobs egress = record :: if reply.rc ≤ 0 then []
      else drainLog world fuel (k + 1) record.done.runtime rest reply.egress := by
  rw [drainLog, drained]

theorem drainLoop_empty (fuel k : ℕ) (runtime : Runtime) {jobs : JobState} (egress : EgressState)
    (empty : DaemonTypes.drain jobs = none) :
    drainLoop world (fuel + 1) k runtime jobs egress = ⟨0, runtime, jobs, egress⟩ := by
  rw [drainLoop, empty]

theorem drainLog_empty (fuel k : ℕ) (runtime : Runtime) {jobs : JobState} (egress : EgressState)
    (empty : DaemonTypes.drain jobs = none) :
    drainLog world (fuel + 1) k runtime jobs egress = [] := by
  rw [drainLog, empty]

theorem drainLog_jobs (fuel k : ℕ) (runtime : Runtime) (jobs : JobState) (egress : EgressState) :
    (drainLog world fuel k runtime jobs egress).map (·.job) ++
      (drainLoop world fuel k runtime jobs egress).jobs.contents = jobs.contents := by
  induction fuel generalizing k runtime jobs egress with
  | zero => rfl
  | succ fuel ih =>
    cases drained : DaemonTypes.drain jobs with
    | none =>
      rw [drainLoop_empty fuel k runtime egress drained,
        drainLog_empty fuel k runtime egress drained]
      rfl
    | some next =>
      obtain ⟨job, rest⟩ := next
      rw [drainLoop_succ fuel k runtime egress drained, drainLog_succ fuel k runtime egress drained,
        drain_some drained]
      split
      · rfl
      · exact congrArg (job :: ·) (ih (k + 1) _ rest _)

theorem drainLog_made (fuel k : ℕ) (runtime : Runtime) (jobs : JobState) (egress : EgressState) :
    ∀ record ∈ drainLog world fuel k runtime jobs egress,
      record = process world record.before record.job := by
  induction fuel generalizing k runtime jobs egress with
  | zero => exact fun _ member => absurd member List.not_mem_nil
  | succ fuel ih =>
    cases drained : DaemonTypes.drain jobs with
    | none =>
      rw [drainLog_empty fuel k runtime egress drained]
      exact fun _ member => absurd member List.not_mem_nil
    | some next =>
      obtain ⟨job, rest⟩ := next
      rw [drainLog_succ fuel k runtime egress drained]
      intro record member
      rcases List.mem_cons.mp member with rfl | later
      · rfl
      · split at later
        · exact absurd later List.not_mem_nil
        · exact ih (k + 1) _ rest _ record later

/-- What every job of the log keeps of the runtime holds whenever the runner gets to a job, and
when it is through. -/
theorem drainLoop_logged {I : Runtime → Prop} (fuel k : ℕ) (runtime : Runtime) (jobs : JobState)
    (egress : EgressState) (holds : I runtime)
    (kept : ∀ record ∈ drainLog world fuel k runtime jobs egress,
      I record.before → I record.done.runtime) :
    I (drainLoop world fuel k runtime jobs egress).runtime ∧
    ∀ record ∈ drainLog world fuel k runtime jobs egress, I record.before := by
  induction fuel generalizing k runtime jobs egress with
  | zero => exact ⟨holds, fun _ member => absurd member List.not_mem_nil⟩
  | succ fuel ih =>
    cases drained : DaemonTypes.drain jobs with
    | none =>
      rw [drainLoop_empty fuel k runtime egress drained,
        drainLog_empty fuel k runtime egress drained]
      exact ⟨holds, fun _ member => absurd member List.not_mem_nil⟩
    | some next =>
      obtain ⟨job, rest⟩ := next
      rw [drainLog_succ fuel k runtime egress drained] at kept
      rw [drainLoop_succ fuel k runtime egress drained, drainLog_succ fuel k runtime egress drained]
      have after := kept (process world runtime job) List.mem_cons_self holds
      split
      · refine ⟨after, ?_⟩
        intro record member
        rw [List.mem_singleton.mp member]
        exact holds
      · rename_i going
        rw [if_neg going] at kept
        obtain ⟨ends, logged⟩ := ih (k + 1) _ rest
          (stageProcessed world k egress (process world runtime job)).egress after
          (fun record member => kept record (List.mem_cons_of_mem _ member))
        refine ⟨ends, ?_⟩
        intro record member
        rcases List.mem_cons.mp member with rfl | later
        · exact holds
        · exact logged record later

/-- What every job that is like `J` keeps of the runtime, if all jobs are. -/
theorem drainLoop_keeps {I : Runtime → Prop} {J : Job → Prop}
    (kept : ∀ runtime job, I runtime → J job → I (process world runtime job).done.runtime)
    (fuel k : ℕ) (runtime : Runtime) (jobs : JobState) (egress : EgressState) (holds : I runtime)
    (alike : ∀ job ∈ jobs.contents, J job) :
    I (drainLoop world fuel k runtime jobs egress).runtime ∧
    (∀ job ∈ (drainLoop world fuel k runtime jobs egress).jobs.contents, J job) ∧
    ∀ record ∈ drainLog world fuel k runtime jobs egress, I record.before ∧ J record.job ∧
      record = process world record.before record.job := by
  have queue := @drainLog_jobs world fuel k runtime jobs egress
  have logs (record : Processed) (member : record ∈ drainLog world fuel k runtime jobs egress) :
      J record.job := by
    apply alike
    rw [← queue]
    exact List.mem_append_left _ (List.mem_map_of_mem member)
  have made := @drainLog_made world fuel k runtime jobs egress
  obtain ⟨ends, logged⟩ := @drainLoop_logged world I fuel k runtime jobs egress holds (by
    intro record member before
    rw [made record member]
    exact kept record.before record.job before (logs record member))
  refine ⟨ends, ?_, ?_⟩
  · intro job member
    apply alike
    rw [← queue]
    exact List.mem_append_right _ member
  · intro record member
    exact ⟨logged record member, logs record member, made record member⟩

def replay (world : World) : ℕ → EgressState → List Processed → EgressState
  | _, egress, [] => egress
  | k, egress, record :: log =>
    replay world (k + 1) (stageProcessed world k egress record).egress log

theorem drainLoop_replay (fuel k : ℕ) (runtime : Runtime) (jobs : JobState)
    (egress : EgressState) : (drainLoop world fuel k runtime jobs egress).egress =
      replay world k egress (drainLog world fuel k runtime jobs egress) := by
  induction fuel generalizing k runtime jobs egress with
  | zero => rfl
  | succ fuel ih =>
    cases drained : DaemonTypes.drain jobs with
    | none =>
      rw [drainLoop_empty fuel k runtime egress drained,
        drainLog_empty fuel k runtime egress drained]
      rfl
    | some next =>
      obtain ⟨job, rest⟩ := next
      rw [drainLoop_succ fuel k runtime egress drained, drainLog_succ fuel k runtime egress drained]
      rw [replay]
      split
      · rfl
      · exact ih (k + 1) _ rest _

theorem drainJobsAndFlush_kept (flushed : ℕ → EgressData → Bool) (runtime : Runtime)
    (jobs : JobState) (egress : EgressState) :
    let ended := drainJobsAndFlush world flushed runtime jobs egress
    let looped := drainLoop world jobs.count 0 runtime jobs egress
    ended.runtime = looped.runtime ∧ ended.jobs = looped.jobs := by
  unfold drainJobsAndFlush
  dsimp only
  split
  · exact ⟨rfl, rfl⟩
  · split
    · exact ⟨rfl, rfl⟩
    · exact ⟨rfl, rfl⟩

end Log

section Counts

variable {P : RecvPacket → Prop} [DecidablePred P] {Good : Ingress → Prop} [DecidablePred Good]

theorem flushOutbox_kept (send : ℕ → EgressData → Bool) (mux : MuxState) :
    (flushOutbox send mux).intake = mux.intake ∧ (flushOutbox send mux).ingress = mux.ingress ∧
      (flushOutbox send mux).policy = mux.policy := by
  unfold flushOutbox
  split
  · exact ⟨rfl, rfl, rfl⟩
  · exact ⟨rfl, rfl, rfl⟩

theorem handOut_some {mux after : MuxState} {normal : RecvPacket}
    (handed : handOut mux = some (normal, after)) : MuxInbox.drain mux = (some normal, after) := by
  unfold handOut at handed
  split at handed
  · obtain ⟨found, drained, same⟩ := Option.map_eq_some_iff.mp handed
    obtain ⟨rfl, rfl⟩ := Prod.mk.inj same
    exact Prod.ext drained rfl
  · contradiction

theorem fill_count (fuel : ℕ) (mux : MuxState) (jobs : JobState) :
    held P Good (fill fuel mux jobs).mux.intake (fill fuel mux jobs).mux.ingress.contents +
      (fill fuel mux jobs).handed.countP P = held P Good mux.intake mux.ingress.contents := by
  induction fuel generalizing mux jobs with
  | zero => exact Nat.add_zero _
  | succ fuel ih =>
    unfold fill
    cases handed : handOut mux with
    | none => exact Nat.add_zero _
    | some next =>
      obtain ⟨normal, after⟩ := next
      have counted := @drain_count P _ Good _ mux
      have rest := ih after ((enqueue jobs normal).getD jobs)
      rw [handOut_some handed] at counted
      simp only [Option.toList_some, List.countP_singleton] at counted
      dsimp only
      rw [List.countP_cons]
      omega

theorem fill_jobs {Q : Job → Prop} [DecidablePred Q]
    (loads : ∀ normal job, loadFromNormal normal = some job → Q job → P normal) (fuel : ℕ)
    (mux : MuxState) (jobs : JobState) :
    (fill fuel mux jobs).jobs.contents.countP Q ≤
      jobs.contents.countP Q + (fill fuel mux jobs).handed.countP P := by
  induction fuel generalizing mux jobs with
  | zero => exact Nat.le_add_right _ _
  | succ fuel ih =>
    unfold fill
    cases handOut mux with
    | none => exact Nat.le_add_right _ _
    | some next =>
      obtain ⟨normal, after⟩ := next
      have rest := ih after ((enqueue jobs normal).getD jobs)
      have first : ((enqueue jobs normal).getD jobs).contents.countP Q ≤
          jobs.contents.countP Q + if P normal then 1 else 0 := by
        cases queued : enqueue jobs normal with
        | none => exact Nat.le_add_right _ _
        | some next =>
          obtain ⟨job, loaded, contents⟩ := enqueue_some queued
          rw [Option.getD_some, contents, List.countP_append, List.countP_singleton]
          apply Nat.add_le_add_left
          split
          · rename_i like
            rw [if_pos (loads normal job loaded (of_decide_eq_true like))]
          · exact Nat.zero_le _
      dsimp only
      rw [List.countP_cons]
      simp only [decide_eq_true_eq]
      omega

theorem fill_policy (fuel : ℕ) (mux : MuxState) (jobs : JobState) :
    (fill fuel mux jobs).mux.policy = mux.policy := by
  induction fuel generalizing mux jobs with
  | zero => rfl
  | succ fuel ih =>
    unfold fill
    cases handed : handOut mux with
    | none => rfl
    | some next =>
      obtain ⟨normal, after⟩ := next
      have rest := ih after ((enqueue jobs normal).getD jobs)
      have kept : (MuxInbox.drain mux).2.policy = mux.policy := rfl
      rw [handOut_some handed] at kept
      exact rest.trans kept

theorem intake_policy (input : Turn) (loop : Loop) :
    (intake input loop).mux.policy = loop.mux.policy := by
  obtain ⟨-, -, late⟩ := flushOutbox_kept input.late
    (pump (input.world.codecEnv loop.runtime) input.clock input.waiting
      (flushOutbox input.early loop.mux)).1
  obtain ⟨-, -, early⟩ := flushOutbox_kept input.early loop.mux
  unfold intake
  dsimp only
  rw [fill_policy, late]
  exact early

theorem configureMuxPolicy_kept (listener : Listener) (mux : MuxState) :
    (configureMuxPolicy listener mux).intake = mux.intake ∧
      (configureMuxPolicy listener mux).ingress = mux.ingress := by
  unfold configureMuxPolicy
  split
  · exact ⟨rfl, rfl⟩
  · exact ⟨rfl, rfl⟩

theorem connect_held {listener : Listener} {mux : MuxState}
    (connected : connect listener = some mux) :
    held P Good mux.intake mux.ingress.contents = 0 := by
  have empty : queued (connectSocket listener.sock .any).intake.stream = 0 :=
    SlotTable.contents_empty fun _ => rfl
  have idle : (connectSocket listener.sock .any).ingress.contents = [] := rfl
  unfold connect at connected
  split at connected
  · cases connected
  · obtain ⟨intake, ingress⟩ := configureMuxPolicy_kept listener (connectSocket listener.sock .any)
    rw [← Option.some.inj connected, intake, ingress, held, empty, idle, Multiset.countP_zero,
      List.countP_nil]

theorem reconnect_some {loop ready : Loop} (h : reconnect loop = some ready) :
    ready.runtime = loop.runtime ∧ ready.jobs = loop.jobs ∧
    ready.trackedSock = loop.runtime.listener.sock ∧
    held P Good ready.mux.intake ready.mux.ingress.contents ≤
      held P Good loop.mux.intake loop.mux.ingress.contents ∧
    (ready = loop ∨ loop.trackedSock ≠ loop.runtime.listener.sock ∧
      connect loop.runtime.listener = some ready.mux) := by
  unfold reconnect at h
  split at h
  · rename_i moved
    obtain ⟨mux, connected, rfl⟩ := Option.map_eq_some_iff.mp h
    refine ⟨rfl, rfl, rfl, ?_, .inr ⟨moved, connected⟩⟩
    have nothing := @connect_held P _ Good _ _ _ connected
    dsimp only
    rw [nothing]
    exact Nat.zero_le _
  · rename_i same
    obtain rfl := Option.some.inj h
    exact ⟨rfl, rfl, not_not.mp same, le_rfl, .inl rfl⟩

/-- What a turn holds and hands out was held before or comes from a datagram that it reads. -/
theorem intake_count (lasting : Lasting P) (input : Turn) (loop : Loop)
    (comes : Comes P Good loop.mux.policy (input.world.codecEnv loop.runtime)) :
    let filled := intake input loop
    held P Good filled.mux.intake filled.mux.ingress.contents + filled.handed.countP P ≤
      held P Good loop.mux.intake loop.mux.ingress.contents +
        ((readNow loop.mux.ingress input.waiting).map Datagram.ingress).countP Good := by
  obtain ⟨intake₁, ingress₁, policy₁⟩ := flushOutbox_kept input.early loop.mux
  have pumped := @pump_count P _ Good _ (input.world.codecEnv loop.runtime) lasting
    (flushOutbox input.early loop.mux) (by rw [policy₁]; exact comes) input.clock input.waiting
  dsimp only at pumped
  rw [intake₁, ingress₁] at pumped
  obtain ⟨intake₂, ingress₂, -⟩ := flushOutbox_kept input.late
    (pump (input.world.codecEnv loop.runtime) input.clock input.waiting
      (flushOutbox input.early loop.mux)).1
  unfold intake
  dsimp only
  rw [fill_count, intake₂, ingress₂]
  exact pumped

end Counts

section Turns

/-- How a turn ends that gets as far as the jobs: with these events, and if the daemon goes on, in
the state in which the runner's loop has left it. -/
structure Finished (input : Turn) (ready : Loop) (after : Option Loop) (events : List Event) :
    Prop where
  events : events = .pumped ready.runtime (flushOutbox input.early ready.mux) ::
    ((intake input ready).handed.map .drained ++
      (drainLog input.world (intake input ready).jobs.count 0 ready.runtime
        (intake input ready).jobs (intake input ready).mux.egress).map .processed)
  left : ∀ next, after = some next →
    let drained := drainLoop input.world (intake input ready).jobs.count 0 ready.runtime
      (intake input ready).jobs (intake input ready).mux.egress
    next.runtime = drained.runtime ∧ next.jobs = drained.jobs ∧
      next.trackedSock = ready.trackedSock ∧ next.mux.intake = (intake input ready).mux.intake ∧
      next.mux.ingress = (intake input ready).mux.ingress ∧
      next.mux.policy = (intake input ready).mux.policy

theorem turn_cases (loop : Loop) (input : Turn) :
    (reconnect loop = none ∧ turn loop input = (none, [])) ∨ ∃ ready, reconnect loop = some ready ∧
      (turn loop input =
        (none, [.pumped ready.runtime (flushOutbox input.early ready.mux)]) ∨
      Finished input ready (turn loop input).1 (turn loop input).2) := by
  unfold turn
  cases reconnected : reconnect loop with
  | none => exact .inl ⟨rfl, rfl⟩
  | some ready =>
    refine .inr ⟨ready, rfl, ?_⟩
    dsimp only
    split
    · exact .inl rfl
    · refine .inr ⟨rfl, ?_⟩
      intro next continues
      dsimp only at continues
      split at continues
      · contradiction
      · obtain rfl := Option.some.inj continues
        obtain ⟨runtime, jobs⟩ := @drainJobsAndFlush_kept input.world input.last ready.runtime
          (intake input ready).jobs (intake input ready).mux.egress
        exact ⟨runtime, jobs, rfl, rfl, rfl, rfl⟩

/-- What a turn leaves and what happens in it, told by what happens once it is connected: a pump,
packets out of the inbox, and jobs after which the daemon may go on. -/
theorem turn_keeps {I : Loop → Prop} {E : Event → Prop} (loop : Loop) (input : Turn)
    (pumped : ∀ ready, reconnect loop = some ready →
      E (.pumped ready.runtime (flushOutbox input.early ready.mux)))
    (drained : ∀ normal, E (.drained normal))
    (processed : ∀ ready, reconnect loop = some ready →
      (∀ next events, Finished input ready (some next) events → I next) ∧
      ∀ record ∈ drainLog input.world (intake input ready).jobs.count 0 ready.runtime
        (intake input ready).jobs (intake input ready).mux.egress, E (.processed record)) :
    (∀ next, (turn loop input).1 = some next → I next) ∧
      ∀ event ∈ (turn loop input).2, E event := by
  rcases turn_cases loop input with ⟨-, ended⟩ | ⟨ready, reconnected, broken | finished⟩
  · rw [ended]
    refine ⟨?_, fun _ member => absurd member List.not_mem_nil⟩
    intro next continues
    cases continues
  · rw [broken]
    refine ⟨?_, ?_⟩
    · intro next continues
      cases continues
    · intro event member
      rw [List.mem_singleton.mp member]
      exact pumped ready reconnected
  · obtain ⟨goes_on, jobs⟩ := processed ready reconnected
    refine ⟨?_, ?_⟩
    · intro next continues
      rw [continues] at finished
      exact goes_on next _ finished
    · rw [finished.events]
      intro event member
      simp only [List.mem_cons, List.mem_append, List.mem_map] at member
      rcases member with rfl | ⟨normal, -, rfl⟩ | ⟨record, logged, rfl⟩
      · exact pumped ready reconnected
      · exact drained normal
      · exact jobs record logged

theorem turn_records {loop : Loop} {input : Turn} {record : Processed}
    (member : .processed record ∈ (turn loop input).2) :
    record = process input.world record.before record.job := by
  rcases turn_cases loop input with ⟨-, ended⟩ | ⟨ready, -, broken | finished⟩
  · rw [ended] at member
    cases member
  · rw [broken] at member
    cases List.mem_singleton.mp member
  · rw [finished.events] at member
    simp only [List.mem_cons, List.mem_append, List.mem_map, reduceCtorEq, and_false,
      exists_false, false_or, Event.processed.injEq, exists_eq_right] at member
    exact drainLog_made _ _ _ _ _ record member

theorem intake_jobs {P : RecvPacket → Prop} [DecidablePred P] {Q : Job → Prop} [DecidablePred Q]
    (loads : ∀ normal job, loadFromNormal normal = some job → Q job → P normal) (input : Turn)
    (loop : Loop) : (intake input loop).jobs.contents.countP Q ≤
      loop.jobs.contents.countP Q + (intake input loop).handed.countP P :=
  fill_jobs loads _ _ loop.jobs

theorem held_stream {P : RecvPacket → Prop} [DecidablePred P] {Good : Ingress → Prop}
    [DecidablePred Good] (intake : MuxIntake.Intake) {waiting : List Ingress}
    (bad : ∀ raw ∈ waiting, ¬ Good raw) :
    held P Good intake waiting = (queued intake.stream).countP P := by
  have nothing : waiting.countP Good = 0 := by
    rw [List.countP_eq_zero]
    intro raw member
    rw [decide_eq_true_eq]
    exact bad raw member
  unfold held
  rw [nothing, Nat.add_zero]

def hands (P : RecvPacket → Prop) [DecidablePred P] : Event → Bool
  | .drained p => decide (P p)
  | _ => false

def loopHeld (P : RecvPacket → Prop) [DecidablePred P] (Good : Ingress → Prop)
    [DecidablePred Good] : Option Loop → ℕ
  | none => 0
  | some loop => held P Good loop.mux.intake loop.mux.ingress.contents

/-- What a turn hands out and what is held after it was held before, once the connection stands, or
comes from a datagram that the turn reads. -/
theorem turn_count {P : RecvPacket → Prop} [DecidablePred P] {Good : Ingress → Prop}
    [DecidablePred Good] (lasting : Lasting P) {loop ready : Loop} {input : Turn}
    (reconnected : reconnect loop = some ready)
    (comes : Comes P Good ready.mux.policy (input.world.codecEnv ready.runtime)) :
    loopHeld P Good (turn loop input).1 + (turn loop input).2.countP (hands P) ≤
      held P Good ready.mux.intake ready.mux.ingress.contents +
        ((readNow ready.mux.ingress input.waiting).map Datagram.ingress).countP Good := by
  rcases turn_cases loop input with ⟨closed, -⟩ | ⟨same, again, broken | finished⟩
  · rw [reconnected] at closed
    cases closed
  · rw [broken]
    exact Nat.zero_le _
  · obtain rfl : same = ready := Option.some.inj (again.symm.trans reconnected)
    have counted := intake_count lasting input same comes
    have logged : ((drainLog input.world (intake input same).jobs.count 0 same.runtime
        (intake input same).jobs (intake input same).mux.egress).map Event.processed).countP
          (hands P) = 0 := by
      apply List.countP_eq_zero.mpr
      intro event member
      obtain ⟨record, -, rfl⟩ := List.mem_map.mp member
      exact Bool.false_ne_true
    have handed : ((intake input same).handed.map Event.drained).countP (hands P) =
        (intake input same).handed.countP P := List.countP_map
    have kept : loopHeld P Good (turn loop input).1 ≤
        held P Good (intake input same).mux.intake (intake input same).mux.ingress.contents := by
      cases after : (turn loop input).1 with
      | none => exact Nat.zero_le _
      | some next =>
        obtain ⟨-, -, -, packets, datagrams, -⟩ := finished.left next after
        change held P Good next.mux.intake next.mux.ingress.contents ≤ _
        rw [packets, datagrams]
    rw [finished.events, List.countP_cons_of_neg Bool.false_ne_true, List.countP_append, handed,
      logged]
    dsimp only at counted
    omega

def processes (Q : Job → Prop) [DecidablePred Q] : Event → Bool
  | .processed record => decide (Q record.job)
  | _ => false

def workHeld (P : RecvPacket → Prop) [DecidablePred P] (Good : Ingress → Prop)
    [DecidablePred Good] (Q : Job → Prop) [DecidablePred Q] : Option Loop → ℕ
  | none => 0
  | some loop =>
    held P Good loop.mux.intake loop.mux.ingress.contents + loop.jobs.contents.countP Q

/-- A daemon that starts holds nothing. -/
theorem start_workHeld {P : RecvPacket → Prop} [DecidablePred P] {Good : Ingress → Prop}
    [DecidablePred Good] {Q : Job → Prop} [DecidablePred Q] {opensslReady : Bool}
    {config : Option Config} {listener : Listener} {context : CodecContext} {loop : Loop}
    (started : start opensslReady config listener context = some loop) :
    workHeld P Good Q (some loop) = 0 := by
  unfold start at started
  split at started
  · cases started
  · obtain ⟨mux, connected, rfl⟩ := Option.map_eq_some_iff.mp started
    have nothing := @connect_held P _ Good _ _ _ connected
    change held P Good mux.intake mux.ingress.contents + 0 = 0
    omega

def arrivals (loop : Option Loop) (input : Turn) : List Ingress :=
  match loop.bind reconnect with
  | none => []
  | some ready => (readNow ready.mux.ingress input.waiting).map Datagram.ingress

/-- A processed job was in the daemon before the turn or comes from a datagram that the turn
reads. -/
theorem turn_processed {P : RecvPacket → Prop} [DecidablePred P] {Good : Ingress → Prop}
    [DecidablePred Good] {Q : Job → Prop} [DecidablePred Q] (lasting : Lasting P)
    (loads : ∀ normal job, loadFromNormal normal = some job → Q job → P normal) (loop : Loop)
    (input : Turn) (comes : ∀ ready, reconnect loop = some ready →
      Comes P Good ready.mux.policy (input.world.codecEnv ready.runtime)) :
    workHeld P Good Q (turn loop input).1 + (turn loop input).2.countP (processes Q) ≤
      workHeld P Good Q (some loop) + (arrivals (some loop) input).countP Good := by
  rcases turn_cases loop input with ⟨-, ended⟩ | ⟨ready, reconnected, broken | finished⟩
  · rw [ended]
    exact Nat.zero_le _
  · rw [broken]
    exact Nat.zero_le _
  · obtain ⟨-, jobs, -, fewer, -⟩ := @reconnect_some P _ Good _ _ _ reconnected
    have counted := intake_count lasting input ready (comes ready reconnected)
    have queued := intake_jobs loads input ready
    have logged := congrArg (List.countP Q) (@drainLog_jobs input.world
      (intake input ready).jobs.count 0 ready.runtime (intake input ready).jobs
      (intake input ready).mux.egress)
    rw [List.countP_append, List.countP_map] at logged
    have reads : arrivals (some loop) input =
        (readNow ready.mux.ingress input.waiting).map Datagram.ingress := by
      unfold arrivals
      rw [Option.bind_some, reconnected]
    have handed : ((intake input ready).handed.map Event.drained).countP (processes Q) = 0 := by
      apply List.countP_eq_zero.mpr
      intro event member
      obtain ⟨normal, -, rfl⟩ := List.mem_map.mp member
      exact Bool.false_ne_true
    have kept : workHeld P Good Q (turn loop input).1 ≤
        held P Good (intake input ready).mux.intake (intake input ready).mux.ingress.contents +
          (drainLoop input.world (intake input ready).jobs.count 0 ready.runtime
            (intake input ready).jobs (intake input ready).mux.egress).jobs.contents.countP Q := by
      cases after : (turn loop input).1 with
      | none => exact Nat.zero_le _
      | some next =>
        obtain ⟨-, left, -, packets, datagrams, -⟩ := finished.left next after
        change held P Good next.mux.intake next.mux.ingress.contents +
          next.jobs.contents.countP Q ≤ _
        rw [packets, datagrams, left]
    have processed : ((drainLog input.world (intake input ready).jobs.count 0 ready.runtime
        (intake input ready).jobs (intake input ready).mux.egress).map Event.processed).countP
          (processes Q) = (drainLog input.world (intake input ready).jobs.count 0 ready.runtime
        (intake input ready).jobs (intake input ready).mux.egress).countP
          ((fun job => decide (Q job)) ∘ fun record => record.job) := List.countP_map
    rw [finished.events, List.countP_cons_of_neg Bool.false_ne_true, List.countP_append, handed,
      processed, reads]
    change _ ≤ held P Good loop.mux.intake loop.mux.ingress.contents +
      loop.jobs.contents.countP Q + _
    rw [jobs] at queued
    dsimp only at counted
    omega

/-- A run from a state on: what every turn that is allowed keeps of the loop holds at the head of
every turn, and what follows for the events of a turn holds of all. -/
theorem run_events {ι : Type*} (read : ι → Turn) {I : Loop → Prop} {E : Event → Prop}
    (allowed : Loop → ι → Prop)
    (kept : ∀ loop op, allowed loop op → I loop →
      (∀ next, (turn loop (read op)).1 = some next → I next) ∧
        ∀ event ∈ (turn loop (read op)).2, E event)
    (loop : Loop) (holds : I loop) (ops : List ι)
    (all : ∀ p ∈ steps (fun state op => step state (read op)) (some loop) ops,
      ∀ before ∈ p.1, allowed before p.2) :
    ∀ event ∈ (run (fun state op => step state (read op)) (some loop) ops).2, E event := by
  apply (@run_steps _ _ _ _ (fun state : Option Loop => ∀ now ∈ state, I now) E
    (fun state op => ∀ before ∈ state, allowed before op) ?_ (some loop) ?_ ops all).2
  · intro state op may before
    cases state with
    | none =>
      refine ⟨?_, fun _ member => absurd member List.not_mem_nil⟩
      intro now stopped
      cases stopped
    | some loop => exact kept loop op (may loop rfl) (before loop rfl)
  · intro now same
    exact Option.some.inj same ▸ holds

end Turns

section Knocks

def aliceClient : CodecEnv :=
  { sampleSender with session := some ⟨some 5, none, alice.hmacKey, HMAC_SIZE⟩ }

theorem knock_encodes :
    (codecV1.encode aliceClient plainEntropy (sampleRequest false)).isSome = true := by
  decide +kernel

def aliceKnock : Datagram where
  bytes := ((codecV1.encode aliceClient plainEntropy (sampleRequest false)).get
    knock_encodes).egressBuffer
  receivedMs := 5000
  ip := ascii ['1', '0', '.', '1', '.', '2', '.', '3']
  clientPort := 4242

def doorWorld : World := { answering (ascii ['d', 'i', 'n', 'g']) with hash := paddedHash }

def knockTurn (knocks : ℕ) : Turn where
  world := doorWorld
  clock := ⟨5000, fun _ => 5000, 5000⟩
  waiting := List.replicate knocks aliceKnock
  broken := false
  early _ _ := true
  late _ _ := true
  last _ _ := true

def doorbellLoop : Loop where
  runtime := { doorbellRuntime with
    session := (initSessionForServer true (some frontServer) OpenSSLSession.zero).2 }
  mux := configureMuxPolicy doorbellRuntime.listener (connectSocket 3 .any)
  trackedSock := 3
  jobs := stateInit

theorem doorbell_starts : start true doorbellRuntime.config doorbellRuntime.listener
    KnockContext.create = some doorbellLoop := rfl

end Knocks

end Siglatch.DaemonLoop
