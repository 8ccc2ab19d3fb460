import Siglatch.DaemonLoop

set_option autoImplicit false

namespace Siglatch.DaemonReplies
open MuxTypes AppConfig KnockContext KnockDigest DaemonTypes RequestPolicy DaemonAuth DaemonPayload
open DaemonRunner KnockCodec MuxAdapter MuxNormalize MuxInbox MuxInboxRuns DaemonLoop
open StepRuns

/-- The session holds the keys that the configuration gives to the enabled user of the job. -/
def Keyed (config : Option Config) (session : OpenSSLSession) (job : Job) : Prop :=
  ∃ user, userById config job.request.userId.toUInt32 = some user ∧
    session.publicKey = user.pubkey ∧ session.hmacKey = user.hmacKey ∧ session.hmacKeyLen = 32

def Silent (job : Job) : Prop := job.shouldReply = false ∧ job.response = []

def KeyedReply (runtime : Runtime) (job : Job) : Prop :=
  asksReply job = true → Keyed runtime.config runtime.session job

section Consume

variable {hash : Hash} {handlers : Handlers} {runtime : Runtime} {job : Job} {user : User}
  {action : Action}

theorem asksReply_silent (silent : Silent job) : asksReply job = false := by
  unfold asksReply
  rw [silent.1, silent.2]
  rfl

theorem keyedReply_silent (runtime : Runtime) (silent : Silent job) : KeyedReply runtime job := by
  intro asks
  rw [asksReply_silent silent] at asks
  cases asks

theorem stageReply_request (config : Option Config) (job : Job) (reply : ActionReply) :
    (stageReply config job reply).request = job.request := by
  unfold stageReply
  split
  · rfl
  · rfl

theorem keyedReply_staged (config : Option Config) (reply : ActionReply)
    (keyed : Keyed runtime.config runtime.session job) :
    KeyedReply runtime (stageReply config job reply) := by
  intro _
  unfold Keyed
  rw [stageReply_request]
  exact keyed

theorem keyedReply_quiet (runtime : Runtime) (config : Option Config) {reply : ActionReply}
    (quiet : reply.shouldReply = false) : KeyedReply runtime (stageReply config job reply) := by
  apply keyedReply_silent
  unfold stageReply
  rw [quiet]
  exact ⟨rfl, rfl⟩

theorem keyed_assigned {config : Option Config} (session : OpenSSLSession)
    (known : userById config job.request.userId.toUInt32 = some user) :
    Keyed config (assignSessionToUser session user) job :=
  ⟨user, known, rfl, rfl, rfl⟩

theorem dispatchBuiltin_keyed (silent : Silent job) :
    let done := dispatchBuiltin handlers runtime job user action
    KeyedReply done.runtime done.job := by
  unfold dispatchBuiltin
  dsimp only
  split
  · cases known : userById (handlers.builtin runtime job user action).2.2.config
        job.request.userId.toUInt32 with
    | none => exact keyedReply_silent _ silent
    | some replyUser => exact keyedReply_staged _ _ (keyed_assigned _ known)
  · rename_i quiet
    exact keyedReply_quiet _ _ (Bool.eq_false_of_not_eq_true quiet)

theorem dispatchShell_keyed (silent : Silent job)
    (keyed : Keyed runtime.config runtime.session job) :
    let done := dispatchShell handlers runtime job user action
    KeyedReply done.runtime done.job := by
  unfold dispatchShell
  dsimp only
  split
  · exact keyedReply_silent runtime silent
  · split
    · exact keyedReply_staged _ _ keyed
    · split
      · exact keyedReply_staged _ _ keyed
      · split
        · exact keyedReply_staged _ _ keyed
        · exact keyedReply_staged _ _ keyed

theorem dispatchAction_keyed (silent : Silent job)
    (keyed : Keyed runtime.config runtime.session job) :
    let done := dispatchAction handlers runtime job user action
    KeyedReply done.runtime done.job := by
  unfold dispatchAction
  dsimp only
  split
  · exact keyedReply_silent runtime silent
  split
  · exact dispatchBuiltin_keyed silent
  split
  · exact keyedReply_staged _ _ keyed
  · exact dispatchShell_keyed silent keyed

theorem authorize_keyed {config : Option Config} {session : OpenSSLSession}
    (structured : job.wireVersion ≠ 0) (ok : (authorize hash config session job).ok = true) :
    Keyed config (authorize hash config session job).session job := by
  unfold authorize at ok ⊢
  dsimp only at ok ⊢
  rw [if_neg structured] at ok ⊢
  cases known : userById config job.request.userId.toUInt32 with
  | none =>
    rw [known] at ok
    cases ok
  | some user =>
    dsimp only
    split
    · exact keyed_assigned session known
    · exact keyed_assigned session known

theorem authorize_job (config : Option Config) (session : OpenSSLSession) (silent : Silent job) :
    Silent (authorize hash config session job).job ∧
      (authorize hash config session job).job.request = job.request := by
  unfold authorize
  dsimp only
  split
  · exact ⟨silent, rfl⟩
  split
  · exact ⟨silent, rfl⟩
  · split
    · exact ⟨silent, rfl⟩
    · exact ⟨silent, rfl⟩

/-- Whatever way a structured job takes, it is answered under its user's keys or not at all. -/
theorem consume_keyed (structured : job.wireVersion ≠ 0) (silent : Silent job) :
    let done := consume hash handlers runtime job
    KeyedReply done.runtime done.job := by
  unfold consume
  dsimp only
  split
  · exact keyedReply_silent runtime silent
  cases bindUserAction runtime.config runtime.listener job runtime.session with
  | mk session found =>
    cases found with
    | none => exact keyedReply_silent _ silent
    | some pair =>
      obtain ⟨quiet, request⟩ := @authorize_job hash job runtime.config session silent
      dsimp only
      split
      · exact keyedReply_silent _ quiet
      rename_i passed
      split
      · exact keyedReply_silent _ quiet
      · apply dispatchAction_keyed quiet
        have ok : (authorize hash runtime.config session job).ok = true := by
          simpa only [Bool.not_eq_true', Bool.not_eq_false] using passed
        unfold Keyed
        rw [request]
        exact authorize_keyed structured ok

theorem consume_raw (raw : job.wireVersion = 0) :
    (consume hash handlers runtime job).job.wireVersion = 0 := by
  unfold consume
  dsimp only
  split
  · exact raw
  dsimp only
  unfold unstructuredHandle
  split
  · exact raw
  split
  · exact raw
  split
  · exact raw
  · split
    · exact raw
    · exact raw

end Consume

section Intake

instance : DecidablePred Silent := fun job => by
  unfold Silent
  infer_instance

theorem loads_silent {normal : RecvPacket} {job : Job} (loaded : loadFromNormal normal = some job)
    (loud : ¬ Silent job) : normal.shouldReply = true := by
  by_contra quiet
  apply loud
  unfold loadFromNormal at loaded
  dsimp only at loaded
  split at loaded
  · obtain rfl := Option.some.inj loaded
    exact ⟨Bool.eq_false_of_not_eq_true quiet, rfl⟩
  · obtain ⟨user, -, rfl⟩ := Option.map_eq_some_iff.mp loaded
    exact ⟨Bool.eq_false_of_not_eq_true quiet, rfl⟩

theorem adapterDecode_quiet {ingress : Ingress} {decoded : Option NormalizedUnit} {p : RecvPacket}
    (made : adapterDecode ingress decoded = some p) : p.shouldReply = false := by
  obtain ⟨unit, -, copies⟩ := adapterDecode_copied made
  exact copies.quiet

/-- The mux never makes a packet that comes with an answer. -/
theorem normalize_quiet {policy : PolicyEnforceEncryption} {env : CodecEnv} {raw : Ingress}
    {control : Control} {p : RecvPacket} (made : (normalize policy env raw control).1 = some p) :
    p.shouldReply = false := by
  rcases normalize_cases made with copied | ⟨adapter, identity, out, after, found, decoded, -, rfl⟩
  · exact (rawCopy_raw copied).quiet
  · have registry := (demux_some found).1
    have first := congrArg Prod.fst decoded
    change out.shouldReply = false
    rcases adapters_cases registry with rfl | rfl | rfl | rfl <;> exact adapterDecode_quiet first

end Intake

section Runs

/-- A structured reply is staged under the keys that the configuration then gives to its user. -/
def KeyedEvent : Event → Prop
  | .processed record => ∀ env job, record.reply = some (env, job) → job.wireVersion ≠ 0 →
      ∃ session, env.session = some session ∧ Keyed record.done.runtime.config session job
  | _ => True

theorem process_keyed (world : World) (runtime : Runtime) {job : Job} (silent : Silent job) :
    KeyedEvent (.processed (process world runtime job)) := by
  intro env staged reply structured
  unfold process at reply ⊢
  dsimp only at reply ⊢
  split at reply
  · rename_i asks
    obtain ⟨rfl, rfl⟩ := Prod.mk.inj (Option.some.inj reply)
    refine ⟨_, rfl, consume_keyed ?_ silent asks⟩
    intro raw
    exact structured (consume_raw raw)
  · cases reply

def Unanswered : Event → Prop
  | .processed record =>
    Silent record.job ∧ ∃ world, record = process world record.before record.job
  | _ => True

theorem unanswered_keyed {event : Event} (unanswered : Unanswered event) : KeyedEvent event := by
  cases event with
  | pumped runtime mux => trivial
  | drained normal => trivial
  | processed record =>
    obtain ⟨silent, world, same⟩ := unanswered
    rw [same]
    exact process_keyed world record.before silent

/-- Nothing that waits in the connection or in the job queue comes with an answer. -/
def Quiet (loop : Loop) : Prop :=
  held (fun p => p.shouldReply = true) (fun _ => False) loop.mux.intake
    loop.mux.ingress.contents = 0 ∧
  loop.jobs.contents.countP (fun job => ¬ Silent job) = 0

theorem intake_quiet (input : Turn) {loop : Loop} (quiet : Quiet loop) :
    held (fun p => p.shouldReply = true) (fun _ => False) (intake input loop).mux.intake
      (intake input loop).mux.ingress.contents = 0 ∧
    (intake input loop).jobs.contents.countP (fun job => ¬ Silent job) = 0 := by
  have lasting : Lasting fun p => p.shouldReply = true := lasting_of_content fun _ => Iff.rfl
  have comes : Comes (fun p => p.shouldReply = true) (fun _ => False) loop.mux.policy
      (input.world.codecEnv loop.runtime) := by
    intro raw control p made replies
    rw [normalize_quiet made] at replies
    cases replies
  have counted := intake_count lasting input loop comes
  have unread (datagrams : List Ingress) : datagrams.countP (fun _ => decide False) = 0 :=
    List.countP_eq_zero.mpr fun _ _ => of_decide_eq_false rfl
  dsimp only at counted
  rw [quiet.1, unread] at counted
  have waits : loop.jobs.contents.countP (fun job => ¬ Silent job) = 0 := quiet.2
  have filled := intake_jobs (fun normal job loaded loud => loads_silent loaded loud) input loop
  omega

theorem turn_unanswered (loop : Loop) (input : Turn) (quiet : Quiet loop) :
    (∀ next, (turn loop input).1 = some next → Quiet next) ∧
      ∀ event ∈ (turn loop input).2, Unanswered event := by
  refine turn_keeps loop input (fun _ _ => trivial) (fun _ => trivial) ?_
  intro ready reconnected
  obtain ⟨-, jobs, -, carried, -⟩ := @reconnect_some (fun p => p.shouldReply = true) _
    (fun _ => False) _ _ _ reconnected
  have waiting : Quiet ready := by
    refine ⟨?_, jobs ▸ quiet.2⟩
    rw [quiet.1] at carried
    omega
  obtain ⟨connection, silent⟩ := intake_quiet input waiting
  have alike : ∀ job ∈ (intake input ready).jobs.contents, Silent job := by
    intro job member
    have calm := List.countP_eq_zero.mp silent job member
    simpa only [decide_not, Bool.not_eq_true', decide_eq_false_iff_not, not_not] using calm
  obtain ⟨-, left, logged⟩ := drainLoop_keeps (I := fun _ => True) (fun _ _ _ _ => trivial)
    (intake input ready).jobs.count 0 ready.runtime (intake input ready).jobs
    (intake input ready).mux.egress trivial alike
  refine ⟨?_, ?_⟩
  · intro next events finished
    obtain ⟨-, queue, -, packets, datagrams, -⟩ := finished.left next rfl
    refine ⟨by rw [packets, datagrams]; exact connection, ?_⟩
    rw [queue, List.countP_eq_zero]
    intro job member
    simpa only [decide_not, Bool.not_eq_true', decide_eq_false_iff_not, not_not] using
      left job member
  · intro record member
    obtain ⟨-, silent, same⟩ := logged record member
    exact ⟨silent, input.world, same⟩

theorem run_unanswered {opensslReady : Bool} {config : Option Config} {listener : Listener}
    {context : CodecContext} {loop : Loop}
    (started : start opensslReady config listener context = some loop) (inputs : List Turn) :
    ∀ event ∈ (run DaemonLoop.step (some loop) inputs).2, Unanswered event := by
  refine run_events id (I := Quiet) (fun _ _ => True)
    (fun loop input _ => turn_unanswered loop input) loop ?_ inputs (fun _ _ _ _ => trivial)
  have nothing := @start_workHeld (fun p => p.shouldReply = true) _ (fun _ => False) _
    (fun job => ¬ Silent job) _ _ _ _ _ _ started
  exact ⟨Nat.eq_zero_of_add_eq_zero_right nothing, Nat.eq_zero_of_add_eq_zero_left nothing⟩

/-- Whatever arrives and whatever the handlers do to the configuration, a structured reply of the
daemon is encoded with the keys of its own user. -/
theorem replies_keyed {opensslReady : Bool} {config : Option Config} {listener : Listener}
    {context : CodecContext} {loop : Loop}
    (started : start opensslReady config listener context = some loop) (inputs : List Turn) :
    ∀ event ∈ (run DaemonLoop.step (some loop) inputs).2, KeyedEvent event :=
  fun event member => unanswered_keyed (run_unanswered started inputs event member)

/-- One turn of the doorbell stages a structured reply, under alice's keys. -/
theorem doorbell_keyed :
    ((run DaemonLoop.step (some doorbellLoop) [knockTurn 1]).2.any fun
      | .processed record => record.reply.any fun reply => reply.2.wireVersion != 0
      | _ => false) = true ∧
    ∀ event ∈ (run DaemonLoop.step (some doorbellLoop) [knockTurn 1]).2, KeyedEvent event :=
  ⟨by decide +kernel, replies_keyed doorbell_starts [knockTurn 1]⟩

end Runs

end Siglatch.DaemonReplies
