import Siglatch.DaemonPrograms
import Siglatch.KnockReturn

set_option autoImplicit false

namespace Siglatch.KnockLaunch
open MuxTypes AppConfig KnockDigest DaemonTypes DaemonAuth DaemonPayload DaemonRunner
open DaemonReplies DaemonLoop DaemonPolicy KnockCodec MuxAdapter MuxInbox MuxIntake MuxFragments
open MuxRoundTrip SextetCode LibBase64 PayloadShell ProcessUser AppObject DaemonHandlers
open DaemonPrograms MuxVisit KnockJourney KnockReturn DaemonTraffic KnockResponse KnockEncode
open LibStr (decimalText)

section Dispatched

variable {hash : Hash} {handlers : Handlers} {runtime : Runtime} {job : Job} {user : User}
  {action : Action}

theorem authorize_wireAuth (config : Option Config) (session : OpenSSLSession) :
    ∃ signed, (authorize hash config session job).job = { job with wireAuth := signed } := by
  unfold authorize
  dsimp only
  split
  · exact ⟨true, rfl⟩
  split
  · exact ⟨false, rfl⟩
  split
  · exact ⟨false, rfl⟩
  · exact ⟨true, rfl⟩

theorem handed_job (hash : Hash) (runtime : Runtime) (job : Job) :
    ∃ signed, (handed hash runtime job).2 = { job with wireAuth := signed } :=
  authorize_wireAuth runtime.config _

theorem consume_dispatches
    (dispatched : (consume hash handlers runtime job).dispatched = some (user, action)) :
    runtime.listener.server ≠ none ∧ (consume hash handlers runtime job).job =
      (dispatchAction handlers (handed hash runtime job).1 (handed hash runtime job).2 user
        action).job := by
  unfold consume handed at *
  split at dispatched
  · cases dispatched
  rename_i listening
  split at dispatched
  · cases dispatched
  rename_i structured
  rw [if_neg listening, if_neg structured]
  refine ⟨listening, ?_⟩
  cases bound : bindUserAction runtime.config runtime.listener job runtime.session with
  | mk session found =>
    rw [bound] at dispatched
    cases found with
    | none => cases dispatched
    | some pair =>
      dsimp only at dispatched ⊢
      split at dispatched
      · cases dispatched
      rename_i authorized
      split at dispatched
      · cases dispatched
      rename_i allowed
      cases dispatched
      rw [if_neg authorized, if_neg allowed]

theorem dispatchShell_replies (shell : action.handler = .shell) (named : action.constructor ≠ [])
    (listening : runtime.listener.server ≠ none) : ∃ reply : ActionReply,
      reply.shouldReply = true ∧
      (dispatchAction handlers runtime job user action).job = stageReply runtime.config job reply ∧
      (reply.ok = true ↔ handlers.runShellWait runtime job user action = some 0) := by
  unfold dispatchAction
  rw [if_neg listening, if_neg (by rw [shell]; exact fun both => absurd both.1 (by decide)),
    if_neg (by rw [shell]; decide)]
  unfold dispatchShell
  dsimp only
  rw [if_neg named]
  cases handlers.runShellWait runtime job user action with
  | none =>
    refine ⟨.set false _, rfl, rfl, iff_of_false Bool.false_ne_true ?_⟩
    exact fun never => (by cases never)
  | some exitCode =>
    dsimp only
    by_cases zero : exitCode = 0
    · rw [if_pos zero, zero]
      exact ⟨.set true _, rfl, rfl, iff_of_true rfl rfl⟩
    · have failed : ¬ some exitCode = some (0 : ℤ) := fun same => zero (Option.some.inj same)
      rw [if_neg zero]
      split
      · exact ⟨.set false _, rfl, rfl, iff_of_false Bool.false_ne_true failed⟩
      · exact ⟨.set false _, rfl, rfl, iff_of_false Bool.false_ne_true failed⟩

theorem dispatchObject_replies (object : action.handler = .static ∨ action.handler = .dynamic)
    (listening : runtime.listener.server ≠ none) :
    (dispatchAction handlers runtime job user action).job = stageReply runtime.config job
      (if action.handler = .static then handlers.runStatic runtime job user action
        else handlers.runDynamic runtime job user action).2 := by
  unfold dispatchAction
  rw [if_neg listening, if_pos object]
  rw [if_neg]
  rintro ⟨builtin, -⟩
  rw [builtin] at object
  exact absurd object (by decide)

end Dispatched

section Launched

variable {outer : Outer} {runtime : Runtime} {job : Job} {user : User} {action : Action}

/-- A child that may not become the account leaves with 126. -/
def Leaves (outer : Outer) (runAs : CString) : Prop :=
  (enter outer.machine.toHost outer.machine.credentials runAs).1 = false →
    ∀ code, outer.system.waitpid = some (.exited code) → code = 126

theorem shellLaunch_stopped
    (stopped : (shellLaunch outer runtime job user action).child = .stopped) :
    (enter outer.machine.toHost outer.machine.credentials action.runAs).1 = false := by
  unfold shellLaunch at stopped
  split at stopped
  · rename_i server text serving fits
    unfold runShellWait at stopped
    split at stopped
    · cases stopped
    split at stopped
    · cases stopped
    rename_i final made
    have forked : forkExec outer.shell final action.runAs = .stopped := by
      split at stopped
      · cases stopped
      · split at stopped
        · exact stopped
        · exact stopped
    unfold forkExec at forked
    split at forked
    · cases forked
    split at forked
    · rename_i refused
      unfold enter
      rw [if_neg refused.1]
      exact refused.2
    · cases forked
  · cases stopped

theorem waitpidExitCode_zero {sys : System} (zero : waitpidExitCode sys = some 0) :
    sys.waitpid = some (.exited 0) := by
  unfold waitpidExitCode at zero
  split at zero
  · cases zero
  · rename_i code exited
    rw [exited, Option.some.inj zero]
  · have never := Option.some.inj zero
    omega
  · cases zero

theorem runShellWait_cases (sys : System) (scriptPath : CString) (argv : List CString)
    (execSplit : Bool) (runAs : CString) :
    let launch := runShellWait sys scriptPath argv execSplit runAs
    (launch.ok = false ∧ launch.exitCode ≠ some 0 ∧ launch.child = .unspawned) ∨
      launch.child ≠ .unspawned ∧ launch.ok = (waitpidExitCode sys).isSome ∧
        launch.exitCode = some ((waitpidExitCode sys).getD 127) := by
  unfold runShellWait
  dsimp only
  split
  · exact .inl ⟨rfl, (by decide), rfl⟩
  split
  · exact .inl ⟨rfl, (by decide), rfl⟩
  split
  · exact .inl ⟨rfl, (by decide), rfl⟩
  · rename_i spawned
    cases waitpidExitCode sys with
    | none => exact .inr ⟨spawned, rfl, rfl⟩
    | some code => exact .inr ⟨spawned, rfl, rfl⟩

theorem shellLaunch_zero (leaves : Leaves outer action.runAs) :
    let launch := shellLaunch outer runtime job user action
    launch.ok = true ∧ launch.exitCode = some 0 ↔
      ∃ started, program outer launch action.runAs = some started ∧ launch.exitCode = some 0 := by
  intro launch
  have known : (launch.ok = false ∧ launch.exitCode ≠ some 0 ∧ launch.child = .unspawned) ∨
      launch.child ≠ .unspawned ∧ launch.ok = (waitpidExitCode outer.system).isSome ∧
        launch.exitCode = some ((waitpidExitCode outer.system).getD 127) := by
    change (shellLaunch outer runtime job user action).ok = false ∧ _ ∨ _
    unfold launch shellLaunch
    split
    · exact runShellWait_cases outer.shell _ _ _ _
    · exact .inl ⟨rfl, (by decide), rfl⟩
  rcases known with ⟨refused, other, -⟩ | ⟨spawned, ok, code⟩
  · rw [refused]
    refine iff_of_false (fun both => Bool.false_ne_true both.1) ?_
    rintro ⟨started, -, zero⟩
    exact other zero
  · constructor
    · rintro ⟨done, zero⟩
      rw [ok] at done
      obtain ⟨waited, some_⟩ := Option.isSome_iff_exists.mp done
      rw [some_, Option.getD_some, zero] at code
      rw [← Option.some.inj code] at some_
      have exited := waitpidExitCode_zero some_
      unfold program
      cases child : launch.child with
      | unspawned => exact absurd child spawned
      | stopped => exact absurd (leaves (shellLaunch_stopped child) 0 exited) (by decide)
      | execs command => exact ⟨_, rfl, zero⟩
    · rintro ⟨started, -, zero⟩
      refine ⟨?_, zero⟩
      rw [ok]
      cases waited : waitpidExitCode outer.system with
      | none =>
        rw [waited, zero] at code
        exact absurd (Option.some.inj code) (by decide)
      | some exitCode => rfl

end Launched

section Handled

variable {machine : Machine} {ctx : ObjectContext} {isDynamic : Bool} {reply : ActionReply}

/-- The answer is what the object's handler has said, which was called as the account. -/
def Handled (machine : Machine) (ctx : ObjectContext) (isDynamic : Bool) (reply : ActionReply) :
    Prop :=
  ∃ handler ok given, (child machine ctx isDynamic).handler = some handler ∧
    handler ctx = some (ok, given) ∧ reply = received (answered ctx.action ok given) ∧
    Guarded machine (child machine ctx isDynamic).credentials ctx.action.runAs

theorem failed_ok {action : Action} {why : List Char} {ok : Bool} :
    (received (answered action ok (failed action why))).ok = false := rfl

theorem ran_handled {ran : Ran} {ok : Bool} {given : ActionReply}
    (from_ : ran = if isDynamic then runDynamicChild machine ctx else runStaticChild ctx)
    (result : ran.result = some (ok, given))
    (fine : (received (answered ctx.action ok given)).ok = true) :
    ∃ handler, ran.handler = some handler ∧ handler ctx = some (ok, given) := by
  have refused (why : List Char) (same : some (false, failed ctx.action why) = some (ok, given)) :
      ∃ handler : AppObjectHandlerFn, none = some handler ∧ handler ctx = some (ok, given) := by
    cases same
    rw [failed_ok] at fine
    cases fine
  cases isDynamic with
  | true =>
    rw [if_pos rfl] at from_
    unfold runDynamicChild at from_
    split at from_
    · subst from_
      exact refused _ result
    split at from_
    · subst from_
      exact refused _ result
    · subst from_
      exact ⟨_, rfl, result⟩
  | false =>
    rw [if_neg Bool.false_ne_true] at from_
    unfold runStaticChild at from_
    split at from_
    · subst from_
      exact refused _ result
    · subst from_
      exact ⟨_, rfl, result⟩

theorem childAnswer_handled (short : ctx.action.runAs.length < 64) {ok : Bool}
    (answer : childAnswer machine ctx isDynamic = some (ok, reply)) (fine : reply.ok = true) :
    Handled machine ctx isDynamic reply := by
  cases entered : (enter machine.toHost machine.credentials ctx.action.runAs).1 with
  | false =>
    rw [(child_refused entered).2] at answer
    cases answer
    cases fine
  | true =>
    have open_ : ¬ (enter machine.toHost machine.credentials ctx.action.runAs).1 = false := by
      rw [entered]
      decide
    obtain ⟨result, record, same⟩ := Option.map_eq_some_iff.mp answer
    obtain ⟨-, rfl⟩ := Prod.mk.inj same
    have calls : (child machine ctx isDynamic).handler =
        (if isDynamic then runDynamicChild machine ctx else runStaticChild ctx).handler := by
      unfold child
      dsimp only
      rw [if_neg open_]
    unfold child at record
    dsimp only at record
    rw [if_neg open_] at record
    obtain ⟨⟨done, given⟩, ran, rfl⟩ := Option.map_eq_some_iff.mp record
    obtain ⟨handler, named, came⟩ := ran_handled rfl ran fine
    rw [← calls] at named
    refine ⟨handler, done, given, named, came, rfl, child_guarded short ?_⟩
    rw [named]
    exact Option.some_ne_none handler

theorem runForked_handled (short : ctx.action.runAs.length < 64) {ops : List PipeChannel.Call}
    {ok : Bool} (returned : runForked machine ctx isDynamic ops = some (ok, reply))
    (fine : reply.ok = true) : Handled machine ctx isDynamic reply := by
  rcases runForked_told returned with answer | unserved | unserved
  · exact childAnswer_handled short answer fine
  · cases unserved
    cases fine
  · cases unserved
    cases fine

end Handled

section Answer

variable {adapter : Adapter} {client : CodecEnv} {send : SendPacket} {user : UserSendData}
  {loop : Loop} {input : Turn} {datagram : Datagram} {window : Window} {seen : List UInt64}

theorem meeting_processed
    (meeting : Meeting adapter client send user loop input datagram window seen)
    {record : Processed} (processed : .processed record ∈ (turn loop input).2) :
    record = process input.world loop.runtime record.job ∧
      Becomes adapter client send user datagram record.job := by
  by_cases allowed : LetThrough adapter send loop
  · obtain ⟨p, job, events, becomes⟩ :=
      brings_events meeting.vacant (meeting_brings meeting allowed)
    obtain rfl : record = process input.world loop.runtime job := by
      rw [events] at processed
      simpa using processed
    exact ⟨rfl, becomes⟩
  · rw [turn_refuses meeting allowed] at processed
    simp at processed

theorem buildSemanticReply_first {config : Option Config} {job : Job} {reply : ActionReply} :
    (buildSemanticReply config job reply)[0]? = some STATUS_OK ↔ reply.ok = true := by
  change some (if reply.ok then STATUS_OK else STATUS_ERROR) = some STATUS_OK ↔ _
  cases reply.ok with
  | true => exact iff_of_true rfl rfl
  | false => exact iff_of_false (by decide) Bool.false_ne_true

theorem buildSemanticReply_ok {config other : Option Config} {job : Job}
    {reply reply' : ActionReply}
    (same : buildSemanticReply config job reply = buildSemanticReply other job reply') :
    reply.ok = reply'.ok := by
  rw [Bool.eq_iff_iff, ← buildSemanticReply_first, ← buildSemanticReply_first, same]

theorem staged_response {record : Processed} {config : Option Config} {job : Job}
    {reply : ActionReply} (request : job.request = record.job.request)
    (answers : reply.shouldReply = true) (staged : record.done.job = stageReply config job reply) :
    asksReply record.done.job = true ∧
      record.done.job.response = buildSemanticReply config record.job reply := by
  rw [staged, ← buildSemanticReply_congr config reply request]
  unfold stageReply asksReply
  rw [answers]
  exact ⟨rfl, rfl⟩

theorem staged_settles
    (meeting : Meeting adapter client send user loop input datagram window seen)
    (hashes : input.world.hash = client.hash) (unsent : loop.mux.egress.contents = [])
    (sends : ∀ k packet, input.last k packet = true) {record : Processed}
    (processed : .processed record ∈ (turn loop input).2)
    (sendable : Sendable input.world.cipher record.done.runtime.session record.done.job)
    (open_ : 0 ≤ record.done.runtime.listener.sock) {config : Option Config} {job : Job}
    {reply : ActionReply} (request : job.request = record.job.request)
    (answers : reply.shouldReply = true) (staged : record.done.job = stageReply config job reply) :
    Settles adapter user datagram loop input record reply := by
  obtain ⟨asks, response⟩ := staged_response request answers staged
  obtain ⟨config', reply', response', settles⟩ :=
    processed_settles meeting hashes unsent sends processed asks sendable open_
  have same := buildSemanticReply_ok (response'.symm.trans response)
  unfold Settles exitStatusOf at settles ⊢
  rw [same] at settles
  exact settles

/-- What a program is given that is started for a request: who asks for what from where, and the
payload in base 64. -/
structure Given (outer : Outer) (server : Server) (owner : User) (action : Action) (ip : CString)
    (user : UserSendData) (started : Program) : Prop where
  command : ∃ text, decode tableChar 61 tableValue text = some user.payload ∧
    started.command = commanded action.constructor
      [ip, decimalText user.userId.toNat, owner.name, decimalText user.actionId.toNat, action.name,
        encryptedText server, text] action.execSplit
  guarded : Guarded outer.machine started.credentials action.runAs

/-- A client whose request for a program is dispatched, and that gets the answer to it, exits with 0
exactly if the program has run and left with 0. The program has run as the account that its action
names, on what the client has sent. -/
theorem shell_answered
    (meeting : Meeting adapter client send user loop input datagram window seen)
    (hashes : input.world.hash = client.hash) (unsent : loop.mux.egress.contents = [])
    (sends : ∀ k packet, input.last k packet = true) {record : Processed}
    (processed : .processed record ∈ (turn loop input).2)
    (sendable : Sendable input.world.cipher record.done.runtime.session record.done.job)
    (open_ : 0 ≤ record.done.runtime.listener.sock) {owner : User} {action : Action}
    (dispatched : record.done.dispatched = some (owner, action)) (shell : action.handler = .shell)
    (named : action.constructor ≠ []) (intact : Intact action.constructor action.execSplit)
    (short : action.runAs.length < 64) {outers : Runtime → Job → Outer}
    (real : Real outers input.world.handlers) :
    let runtime := (handed input.world.hash loop.runtime record.job).1
    let job := (handed input.world.hash loop.runtime record.job).2
    let outer := outers runtime job
    let launch := shellLaunch outer runtime job owner action
    Leaves outer action.runAs → ∃ server config reply, loop.runtime.listener.server = some server ∧
      record.done.job.response = buildSemanticReply config record.job reply ∧
      Settles adapter user datagram loop input record reply ∧
      (reply.ok = true ↔
        ∃ started, program outer launch action.runAs = some started ∧ launch.exitCode = some 0) ∧
      ∀ started, program outer launch action.runAs = some started →
        Given outer server owner action datagram.ip user started := by
  intro runtime job outer launch leaves
  obtain ⟨same, becomes⟩ := meeting_processed meeting processed
  have done : record.done =
      consume input.world.hash input.world.handlers loop.runtime record.job :=
    congrArg Processed.done same
  rw [done] at dispatched
  obtain ⟨listening, finished⟩ := consume_dispatches dispatched
  obtain ⟨server, serving⟩ := Option.ne_none_iff_exists'.mp listening
  obtain ⟨signed, unchanged⟩ := handed_job input.world.hash loop.runtime record.job
  obtain ⟨reply, answers, staged, ok⟩ := @dispatchShell_replies input.world.handlers runtime job
    owner action shell named listening
  rw [← done] at finished
  have request : job.request = record.job.request := by
    unfold job
    rw [unchanged]
  have settled := finished.trans staged
  refine ⟨server, runtime.config, reply, serving, (staged_response request answers settled).2,
    staged_settles meeting hashes unsent sends processed sendable open_ request answers settled,
    ?_, ?_⟩
  · have succeeds := @shellLaunch_zero outer runtime job owner action leaves
    dsimp only at succeeds
    rw [ok, real.shell]
    change (if launch.ok then launch.exitCode.map Int.ofNat else none) = some 0 ↔ _
    rw [← succeeds]
    change _ ↔ launch.ok = true ∧ launch.exitCode = some 0
    cases launch.ok with
    | true =>
      rw [if_pos rfl, Option.map_eq_some_iff]
      constructor
      · rintro ⟨code, exited, zero⟩
        rw [Int.ofNat_eq_zero.mp zero] at exited
        exact ⟨rfl, exited⟩
      · rintro ⟨-, exited⟩
        exact ⟨0, exited, rfl⟩
    | false =>
      rw [if_neg Bool.false_ne_true]
      exact iff_of_false (fun never => (by cases never)) fun both => Bool.false_ne_true both.1
  · intro started runs
    obtain ⟨entered, server', text, serving', written, made⟩ := shellLaunch_entered runs
    have payload : job.request.payload = user.payload := by
      rw [request]
      exact becomes.enqueued.payload
    have small : user.payload.length ≤ 1610612733 :=
      le_trans meeting.exchange.fits (by decide)
    refine ⟨⟨LibBase64.text user.payload, decode_encode table_alphabet _, ?_⟩,
      program_guarded short runs entered⟩
    obtain rfl := Option.some.inj (serving.symm.trans serving')
    have same_text : LibBase64.text user.payload = text := by
      rw [payload] at written
      exact Option.some.inj ((base64Text_short small).symm.trans written)
    have whole := (finalCommand_commanded_iff _ _ _).mpr intact started.command made
    rw [whole, same_text]
    unfold shellArgv job
    rw [unchanged, becomes.ip, becomes.enqueued.userId, becomes.enqueued.actionId]
    rfl

structure Presented (ctx : ObjectContext) (ip : CString) (user : UserSendData) (owner : User)
    (action : Action) : Prop where
  ip : ctx.job.ip = ip
  userId : ctx.job.request.userId = user.userId
  actionId : ctx.job.request.actionId = user.actionId
  challenge : ctx.job.request.challenge = user.challenge
  payload : ctx.job.request.payload = user.payload
  owner : ctx.user = owner
  action : ctx.action = action

/-- A request for an object that is dispatched is answered. The client that gets the answer exits
with 0 only if the object's handler has been called, as the account that the action names, on what
the client has sent, and has come back with a success. -/
theorem object_answered
    (meeting : Meeting adapter client send user loop input datagram window seen)
    (hashes : input.world.hash = client.hash) (unsent : loop.mux.egress.contents = [])
    (sends : ∀ k packet, input.last k packet = true) {record : Processed}
    (processed : .processed record ∈ (turn loop input).2)
    (sendable : Sendable input.world.cipher record.done.runtime.session record.done.job)
    (open_ : 0 ≤ record.done.runtime.listener.sock) {owner : User} {action : Action}
    (dispatched : record.done.dispatched = some (owner, action))
    (object : action.handler = .static ∨ action.handler = .dynamic)
    (short : action.runAs.length < 64) {outers : Runtime → Job → Outer}
    (real : Real outers input.world.handlers) :
    let runtime := (handed input.world.hash loop.runtime record.job).1
    let job := (handed input.world.hash loop.runtime record.job).2
    let outer := outers runtime job
    let ctx := buildContext runtime job owner action
    Presented ctx datagram.ip user owner action ∧ ∃ config reply,
      record.done.job.response = buildSemanticReply config record.job reply ∧
      Settles adapter user datagram loop input record reply ∧
      (reply.ok = true → Handled outer.machine ctx (action.handler == .dynamic) reply) := by
  intro runtime job outer ctx
  obtain ⟨same, becomes⟩ := meeting_processed meeting processed
  have done : record.done =
      consume input.world.hash input.world.handlers loop.runtime record.job :=
    congrArg Processed.done same
  rw [done] at dispatched
  obtain ⟨listening, finished⟩ := consume_dispatches dispatched
  obtain ⟨signed, unchanged⟩ := handed_job input.world.hash loop.runtime record.job
  have staged := @dispatchObject_replies input.world.handlers runtime job owner action object
    listening
  rw [← done] at finished
  have kept : job = { record.job with wireAuth := signed } := unchanged
  have request : job.request = record.job.request := by
    rw [kept]
  have presented : Presented ctx datagram.ip user owner action := by
    refine ⟨?_, ?_, ?_, ?_, ?_, rfl, rfl⟩
    · change job.ip = _
      rw [kept]
      exact becomes.ip
    · change job.request.userId = _
      rw [request]
      exact becomes.enqueued.userId
    · change job.request.actionId = _
      rw [request]
      exact becomes.enqueued.actionId
    · change job.request.challenge = _
      rw [request]
      exact becomes.enqueued.challenge
    · change job.request.payload = _
      rw [request]
      exact becomes.enqueued.payload
  obtain ⟨ok, reply, ops, returned, given⟩ : ∃ ok reply ops,
      runForked outer.machine ctx (action.handler == .dynamic) ops = some (ok, reply) ∧
      (if action.handler = .static then input.world.handlers.runStatic runtime job owner action
        else input.world.handlers.runDynamic runtime job owner action) = (ok, reply) := by
    rcases object with static | dynamic
    · obtain ⟨ops, returned⟩ := real.static runtime job owner action
      rw [if_pos static, static]
      exact ⟨_, _, ops, returned, rfl⟩
    · obtain ⟨ops, returned⟩ := real.dynamic runtime job owner action
      rw [if_neg (by rw [dynamic]; decide), dynamic]
      exact ⟨_, _, ops, returned, rfl⟩
  rw [given] at staged
  have settled := finished.trans staged
  have answers := runForked_replies returned
  exact ⟨presented, runtime.config, reply, (staged_response request answers settled).2,
    staged_settles meeting hashes unsent sends processed sendable open_ request answers settled,
    runForked_handled short returned⟩

end Answer

section Vault

def realHandlers (outer : Outer) : Handlers where
  builtin runtime _ _ _ := (false, ActionReply.reset, runtime)
  runStatic runtime job user action :=
    (childAnswer outer.machine (buildContext runtime job user action) false).getD
      (false, failed action "object_ipc_failed".toList)
  runDynamic runtime job user action :=
    (childAnswer outer.machine (buildContext runtime job user action) true).getD
      (false, failed action "object_ipc_failed".toList)
  runShellWait runtime job user action :=
    let launch := shellLaunch outer runtime job user action
    if launch.ok then launch.exitCode.map Int.ofNat else none
  runShellCapture runtime job deaddrop matchLen :=
    let launch := deaddropLaunch outer runtime job deaddrop matchLen
    if launch.ok then
      some ⟨launch.output, deaddropLaunch_fits outer runtime job deaddrop matchLen⟩
    else none

theorem realHandlers_real {outer : Outer} (piped : outer.machine.pipe = true)
    (forked : outer.machine.fork = true)
    (comes : ∀ ctx isDynamic, (childAnswer outer.machine ctx isDynamic).isSome = true) :
    Real (fun _ _ => outer) (realHandlers outer) := by
  have read (ctx : ObjectContext) (isDynamic : Bool) (other : Bool × ActionReply) : ∃ ops,
      runForked outer.machine ctx isDynamic ops =
        some ((childAnswer outer.machine ctx isDynamic).getD other) := by
    obtain ⟨answer, answers⟩ := Option.isSome_iff_exists.mp (comes ctx isDynamic)
    obtain ⟨ops, calm, returned⟩ := @runForked_returns outer.machine ctx isDynamic []
    obtain ⟨result, told⟩ := Option.isSome_iff_exists.mp returned
    refine ⟨ops, ?_⟩
    rw [answers, Option.getD_some, ← runForked_calm piped forked answers calm told]
    exact told
  exact ⟨fun runtime job user action => read _ false _, fun runtime job user action =>
    read _ true _, fun _ _ _ _ => rfl, fun _ _ _ _ => rfl⟩

theorem runStaticChild_comes (ctx : ObjectContext) :
    (runStaticChild ctx).result.isSome = true := by
  have comes (name : List Char) : (blurt name ctx).isSome = true := by
    unfold blurt
    dsimp only
    split
    · rfl
    split
    · rfl
    · rfl
  unfold runStaticChild
  split
  · rfl
  · rename_i handle found
    unfold lookupStatic at found
    split at found
    · cases found
      exact comes _
    split at found
    · cases found
      exact comes _
    · cases found

theorem porterOuter_comes (ctx : ObjectContext) (isDynamic : Bool) :
    (childAnswer porterOuter.machine ctx isDynamic).isSome = true := by
  unfold childAnswer child
  dsimp only
  rw [Option.isSome_map]
  split
  · rfl
  · rw [Option.isSome_map]
    cases isDynamic with
    | true => rfl
    | false => exact runStaticChild_comes ctx

def porterBell (handler : ActionHandler) : Action :=
  { DaemonRunner.doorbell with
    handler := handler
    constructor := if handler = .shell then ascii "/ring".toList else []
    object := if handler = .static then ascii "test_static".toList else []
    runAs := ascii "porter".toList }

def bellConfig (handler : ActionHandler) : Config :=
  { vaultConfig with actions := [porterBell handler] }

def bellLoop (handler : ActionHandler) : Loop :=
  { vaultLoop with
    runtime := { vaultLoop.runtime with config := some (bellConfig handler) } }

def bellTurn : Turn :=
  { vaultTurn with world := { vaultTurn.world with handlers := realHandlers porterOuter } }

theorem bell_meeting (handler : ActionHandler) : Meeting codecV4 aliceClient vaultSend sampleUser
    (bellLoop handler) bellTurn vaultKnock steadyWindow [] :=
  ⟨vault_meeting.member, vault_meeting.exchange, vault_meeting.apart, vault_meeting.whole,
    vault_meeting.addressed, vault_meeting.connected, vault_meeting.quiet, vault_meeting.idle,
    vault_meeting.few, vault_meeting.working, vault_meeting.waiting, vault_meeting.timely,
    vault_meeting.received, vault_meeting.slot, vault_meeting.unknown⟩

def rings (handler : ActionHandler) (record : Processed) : Bool :=
  answersAlice (bellConfig handler) record &&
  decide (record.done.dispatched = some (sealedAlice, porterBell handler))

def ringing (handler : ActionHandler) : Event → Bool
  | .processed record => rings handler record
  | _ => false

theorem bell_rings {handler : ActionHandler} (choice : handler ∈ [.shell, .static]) :
    ∃ record, .processed record ∈ (turn (bellLoop handler) bellTurn).2 ∧
      answersAlice (bellConfig handler) record = true ∧
      record.done.dispatched = some (sealedAlice, porterBell handler) := by
  have rung : (turn (bellLoop handler) bellTurn).2.any (ringing handler) = true := by
    revert handler
    decide +kernel
  obtain ⟨event, member, answers⟩ := List.any_eq_true.mp rung
  cases event with
  | pumped runtime mux => cases answers
  | drained normal => cases answers
  | processed record =>
    obtain ⟨answered, dispatched⟩ := Bool.and_eq_true_iff.mp answers
    exact ⟨record, member, answered, of_decide_eq_true dispatched⟩

def Rung (handler : ActionHandler) : Prop :=
  ∃ data, turnSent (bellLoop handler) bellTurn = [data] ∧
    target data = ⟨vaultKnock.ip, vaultKnock.clientPort⟩ ∧
    (awaitResponse vaultTurn.world.hash vaultClient (connectSocket 4 .any)
      [vaultRound ⟨data.egressBuffer, 5000, [], 50000⟩]).exitStatus = 0

theorem userById_actions (cfg : Config) (actions : List Action) (id : UInt32) :
    userById (some { cfg with actions := actions }) id = userById (some cfg) id := rfl

theorem handlers_apart (world : World) (handlers : Handlers) (runtime : Runtime) :
    ({ world with handlers := handlers } : World).hash = world.hash ∧
      ({ world with handlers := handlers } : World).codecEnv runtime = world.codecEnv runtime :=
  ⟨rfl, rfl⟩

theorem settles_rung {handler : ActionHandler} {record : Processed} {config : Option Config}
    {reply : ActionReply} (answered : answersAlice (bellConfig handler) record = true)
    (response : record.done.job.response = buildSemanticReply config record.job reply)
    (settles : Settles codecV4 sampleUser vaultKnock (bellLoop handler) bellTurn record reply) :
    Rung handler := by
  obtain ⟨-, -, -, current, ok⟩ := answersAlice_true answered
  have known : userById (some vaultConfig) sampleUser.userId.toUInt32 = some sealedAlice := by
    decide +kernel
  rw [← userById_actions vaultConfig [porterBell handler]] at known
  obtain ⟨hash, codec⟩ := handlers_apart vaultTurn.world (realHandlers porterOuter)
    record.done.runtime
  apply @vault_settles (bellLoop handler) bellTurn record reply hash codec
    (by rw [current]; exact known) settles
  rw [response] at ok
  exact buildSemanticReply_first.mp ok

theorem bell_runs : Rung .shell := by
  obtain ⟨record, member, answered, dispatched⟩ := @bell_rings .shell (by decide)
  obtain ⟨asks, sendable, open_, -⟩ := answersAlice_true answered
  have entered : (enter porterOuter.machine.toHost porterOuter.machine.credentials
      (porterBell .shell).runAs).1 = true := by
    decide
  have leaves : Leaves porterOuter (porterBell .shell).runAs := by
    intro refused
    rw [entered] at refused
    cases refused
  obtain ⟨server, config, reply, -, response, settles, -⟩ :=
    shell_answered (bell_meeting .shell) rfl rfl (fun _ _ => rfl) member sendable open_ dispatched
      rfl (by decide) (.inr (.inr (.inl (by decide)))) (by decide)
      (realHandlers_real rfl rfl porterOuter_comes) leaves
  exact settles_rung answered response settles

theorem bell_calls : Rung .static := by
  obtain ⟨record, member, answered, dispatched⟩ := @bell_rings .static (by decide)
  obtain ⟨asks, sendable, open_, -⟩ := answersAlice_true answered
  obtain ⟨-, config, reply, response, settles, -⟩ :=
    object_answered (bell_meeting .static) rfl rfl (fun _ _ => rfl) member sendable open_
      dispatched (.inl rfl) (by decide) (realHandlers_real rfl rfl porterOuter_comes)
  exact settles_rung answered response settles

end Vault

end Siglatch.KnockLaunch
