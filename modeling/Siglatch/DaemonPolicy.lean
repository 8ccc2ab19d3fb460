import Siglatch.AppBuiltin
import Siglatch.AppRuntimeReload
import Siglatch.DaemonLoop

set_option autoImplicit false

namespace Siglatch.DaemonPolicy
open MuxTypes AppConfig KnockContext KnockDigest DaemonTypes RequestPolicy DaemonAuth DaemonPayload
open DaemonRunner AppRuntime
open AppRuntimeReload AppBuiltin MuxNormalize MuxInbox DaemonLoop StepRuns

/-- A turn of the daemon with its own builtins, and what each of them meets outside. -/
structure DaemonTurn where
  turn : Turn
  around : Runtime → Job → Surroundings

def DaemonTurn.input (op : DaemonTurn) : Turn :=
  { op.turn with
    world := { op.turn.world with
      handlers := { op.turn.world.handlers with
        builtin := fun runtime job _ action =>
          handle (op.around runtime job) runtime job action } } }

def daemonStep (loop : Option Loop) (op : DaemonTurn) : Option Loop × List Event :=
  DaemonLoop.step loop op.input

def activeSecure (runtime : Runtime) : Bool :=
  match runtime.listener.server with
  | some server => server.secure
  | none => false

/-- What is cached of the active server's `secure` is what the server itself says. -/
structure InStep (runtime : Runtime) (policy : PolicyEnforceEncryption) : Prop where
  policy : policy = .yes ↔ activeSecure runtime = true
  context : runtime.codecContext.serverSecure = activeSecure runtime

def InStepEvent : Event → Prop
  | .pumped runtime mux => InStep runtime mux.policy
  | _ => True

/-- The socket is not taken for the tracked one, or the policy was made for such a server. -/
def Covers (tracked : ℤ) (policy : PolicyEnforceEncryption) (sock : ℤ) (secure : Bool) : Prop :=
  sock = tracked → (policy = .yes ↔ secure = true)

/-- The request asks for another binding than the listener's, and gets this listener for it. -/
structure Rebinding (around : Surroundings) (runtime : Runtime) (job : Job) (server : Server)
    (listener : Listener) (parsed : BindTarget) : Prop where
  serving : runtime.listener.server = some server
  parses : parseBindTarget around.isIpv6 job.request.payload = some parsed
  supported : ¬ ((bindTarget server parsed).bindIp ≠ [] ∧
    around.isIpv6 (bindTarget server parsed).bindIp = true)
  elsewhere : ¬ (listenerBoundPort runtime.listener = (bindTarget server parsed).port ∧
    runtime.listener.boundIp = (bindTarget server parsed).bindIp)
  opened : rebindListener around.toOutside runtime.listener (bindTarget server parsed) =
    some listener

section Calm

variable (around : Surroundings) (tracked : ℤ) (policy : PolicyEnforceEncryption)
  (runtime : Runtime) (job : Job)

/-- A candidate that gets as far as the codec context comes with a socket that is not taken for
the tracked one, or agrees with the policy; one that fails there has the old server's flag. -/
def CalmReload : Prop :=
  ∀ server newCfg selected listener, runtime.listener.server = some server →
    Staged around.toOutside runtime around.configPath server.name newCfg selected →
    moved around.toOutside runtime selected = some listener →
    (Rebuilds around.grants newCfg selected →
      Covers tracked policy listener.sock selected.secure) ∧
    (¬ Rebuilds around.grants newCfg selected → selected.secure = server.secure ∧
      Covers tracked policy listener.sock server.secure)

def CalmRebind : Prop :=
  ∀ server listener parsed, Rebinding around runtime job server listener parsed →
    Covers tracked policy listener.sock server.secure

end Calm

def handed (hash : Hash) (runtime : Runtime) (job : Job) : Runtime × Job :=
  let session := (bindUserAction runtime.config runtime.listener job runtime.session).1
  let authorized := authorize hash runtime.config session job
  ({ runtime with session := authorized.session }, authorized.job)

/-- Neither of the builtins that replace the server or the socket goes wrong on the job. -/
def Calm (hash : Hash) (around : Runtime → Job → Surroundings) (tracked : ℤ)
    (policy : PolicyEnforceEncryption) (runtime : Runtime) (job : Job) : Prop :=
  ∀ server user action, job.wireVersion ≠ 0 →
    Gate hash runtime.config runtime.listener job server user action →
    action.handler = .builtin →
    let (seen, request) := handed hash runtime job
    (action.builtin = ascii "reload_config".toList →
      CalmReload (around seen request) tracked policy seen) ∧
    (action.builtin = ascii "rebind_listener".toList →
      CalmRebind (around seen request) tracked policy seen request)

def CalmTurn (loop : Loop) (op : DaemonTurn) : Prop :=
  ∀ ready, reconnect loop = some ready →
    let filled := intake op.input ready
    ∀ record ∈ drainLog op.input.world filled.jobs.count 0 ready.runtime filled.jobs
        filled.mux.egress,
      Calm op.turn.world.hash op.around ready.trackedSock ready.mux.policy record.before record.job

/-- A daemon whose caches of `secure` will be right when the next turn begins. -/
structure Standing (tracked : ℤ) (policy : PolicyEnforceEncryption) (runtime : Runtime)
    (cfg : Config) (server : Server) : Prop where
  attached : Attached runtime cfg server
  context : runtime.codecContext.serverSecure = server.secure
  covers : Covers tracked policy runtime.listener.sock server.secure

section Builtins

variable {around : Surroundings} {tracked : ℤ} {policy : PolicyEnforceEncryption}
  {runtime : Runtime} {job : Job} {cfg : Config} {server : Server}

theorem Standing.session (h : Standing tracked policy runtime cfg server)
    (session : OpenSSLSession) :
    Standing tracked policy { runtime with session := session } cfg server :=
  ⟨⟨h.attached.config, h.attached.serving, h.attached.selected, h.attached.named,
    h.attached.name_fits, h.attached.key_loaded, h.attached.entries_named⟩, h.context, h.covers⟩

theorem attached_write (h : Attached runtime cfg server) {after : Config}
    {change : Server → Server} (written : serverSet runtime.config server.name change = some after)
    (name : ∀ s, (change s).name = s.name) (secure : ∀ s, (change s).secure = s.secure)
    (privKey : ∀ s, (change s).privKey = s.privKey) :
    Attached (attachServer runtime after server.name) after (change server) := by
  obtain ⟨before, found, config, lookup, now, -⟩ := serverSet_some written name
  obtain rfl : cfg = before := Option.some.inj (h.config.symm.trans config)
  obtain rfl : server = found := Option.some.inj (h.selected.symm.trans lookup)
  refine ⟨rfl, now, ?_, ?_, ?_, ?_, h.entries_named⟩
  · exact (congrArg (serverByName (some after)) (name server)).trans now
  · rw [name]
    exact h.named
  · rw [name]
    exact h.name_fits
  · rw [secure, privKey]
    exact h.key_loaded

theorem Standing.write (h : Standing tracked policy runtime cfg server) {after : Config}
    {change : Server → Server} (written : serverSet runtime.config server.name change = some after)
    (name : ∀ s, (change s).name = s.name) (secure : ∀ s, (change s).secure = s.secure)
    (privKey : ∀ s, (change s).privKey = s.privKey) :
    Standing tracked policy (attachServer runtime after server.name) after (change server) := by
  refine ⟨attached_write h.attached written name secure privKey, ?_, ?_⟩
  · exact h.context.trans (secure server).symm
  · rw [secure]
    exact h.covers

def Stands (tracked : ℤ) (policy : PolicyEnforceEncryption) (runtime : Runtime) : Prop :=
  ∃ cfg server, Standing tracked policy runtime cfg server

theorem attached_rolledBack (h : Attached runtime cfg server) (listener : Listener)
    {context : CodecContext} (named : ∀ entry ∈ context.keychain, entry.name ≠ [])
    (session : OpenSSLSession) :
    Attached { AppRuntimeReload.rolledBack runtime listener context with session := session } cfg
      server :=
  ⟨h.config, h.serving, h.selected, h.named, h.name_fits, h.key_loaded, named⟩

theorem Standing.rolledBack (h : Standing tracked policy runtime cfg server) {listener : Listener}
    {context : CodecContext} (named : ∀ entry ∈ context.keychain, entry.name ≠ [])
    (same : context.serverSecure = server.secure)
    (covers : Covers tracked policy listener.sock server.secure) (session : OpenSSLSession) :
    Standing tracked policy { AppRuntimeReload.rolledBack runtime listener context with
      session := session } cfg server :=
  ⟨attached_rolledBack h.attached listener named session, same, covers⟩

theorem attached_switched {newCfg : Config} {selected : Server} {outside : Outside}
    {configPath serverName : CString} (listener : Listener)
    (staged : Staged outside runtime configPath serverName newCfg selected)
    (fits : (targetName runtime serverName).length < 64) :
    Attached (AppRuntimeReload.switched newCfg selected listener
      (rebuilt outside.grants newCfg selected)) newCfg selected := by
  have name : selected.name = targetName runtime serverName := serverByName_name staged.selects
  refine ⟨rfl, rfl, ?_, ?_, ?_, staged.key_loaded, rebuilt_named _ _ _⟩
  · rw [name]
    exact staged.selects
  · rw [name]
    exact staged.target
  · rw [name]
    exact fits

theorem Standing.switched {newCfg : Config} {selected : Server} {outside : Outside}
    {configPath serverName : CString} {listener : Listener}
    (staged : Staged outside runtime configPath serverName newCfg selected)
    (fits : (targetName runtime serverName).length < 64)
    (covers : Covers tracked policy listener.sock selected.secure) :
    Standing tracked policy (AppRuntimeReload.switched newCfg selected listener
      (rebuilt outside.grants newCfg selected)) newCfg selected :=
  ⟨attached_switched listener staged fits, rebuilt_secure _ _ _, covers⟩

theorem reloadConfigHandle_runtime (h : Standing tracked policy runtime cfg server) :
    (reloadConfigHandle around runtime).2.2 = if around.configPath = [] then runtime
      else (reloadConfig around.toOutside runtime around.configPath server.name).2 := by
  unfold reloadConfigHandle
  rw [h.attached.serving]
  dsimp only
  split
  · rfl
  · generalize reloadConfig around.toOutside runtime around.configPath server.name = outcome
    obtain ⟨ok, after⟩ := outcome
    cases ok with
    | true => rfl
    | false => rfl

theorem reload_stands (h : Standing tracked policy runtime cfg server)
    (calm : CalmReload around tracked policy runtime) :
    Stands tracked policy (reloadConfigHandle around runtime).2.2 := by
  rw [reloadConfigHandle_runtime h]
  split
  · exact ⟨cfg, server, h⟩
  by_cases accepted : ∃ newCfg selected,
      Staged around.toOutside runtime around.configPath server.name newCfg selected
  · obtain ⟨newCfg, selected, staged⟩ := accepted
    rw [reload_staged staged, applyConfig_eq h.attached staged]
    cases opened : moved around.toOutside runtime selected with
    | none => exact ⟨cfg, server, h.rolledBack h.attached.entries_named h.context h.covers _⟩
    | some listener =>
      obtain ⟨takesOver, fails⟩ := calm server newCfg selected listener h.attached.serving staged
        opened
      dsimp only
      split
      · rename_i whole
        refine ⟨newCfg, selected, .switched staged ?_ (takesOver whole)⟩
        have fits := h.attached.name_fits
        rw [targetName, if_pos h.attached.named, List.length_take]
        omega
      · rename_i partly
        obtain ⟨same, covers⟩ := fails partly
        exact ⟨cfg, server, h.rolledBack (rebuilt_named _ _ _) ((rebuilt_secure _ _ _).trans same)
          covers _⟩
  · rw [reload_not_staged accepted]
    exact ⟨cfg, server, h⟩

/-- What is said of any server that stands is said of the active one. -/
theorem Stands.active (h : Stands tracked policy runtime)
    (serving : runtime.listener.server = some server) :
    runtime.codecContext.serverSecure = server.secure ∧
      Covers tracked policy runtime.listener.sock server.secure := by
  obtain ⟨cfg, active, standing⟩ := h
  obtain rfl : active = server :=
    Option.some.inj (standing.attached.serving.symm.trans serving)
  exact ⟨standing.context, standing.covers⟩

/-- The condition on a reload leaves out nothing: without it the daemon stands no more. -/
theorem reload_stands_iff (h : Standing tracked policy runtime cfg server) :
    Stands tracked policy (reloadConfigHandle around runtime).2.2 ↔
      CalmReload around tracked policy runtime := by
  refine ⟨?_, reload_stands h⟩
  intro stands active newCfg selected listener serving staged opened
  obtain rfl : server = active := Option.some.inj (h.attached.serving.symm.trans serving)
  rw [reloadConfigHandle_runtime h, if_neg staged.path, reload_staged staged,
    applyConfig_eq h.attached staged, opened] at stands
  dsimp only at stands
  constructor
  · intro whole
    rw [if_pos whole] at stands
    exact (stands.active rfl).2
  · intro partly
    rw [if_neg partly] at stands
    obtain ⟨secure, covers⟩ := stands.active h.attached.serving
    exact ⟨(rebuilt_secure _ _ _).symm.trans secure, covers⟩

theorem syncBinding_stands (h : Standing tracked policy runtime cfg server) (bindIp : CString)
    (port : ℤ) (text : CString) :
    Stands tracked policy (syncBinding runtime server.name bindIp port text).2.2 := by
  unfold syncBinding
  rw [if_neg h.attached.named]
  cases written : serverSetBinding runtime.config server.name bindIp port with
  | none => exact ⟨cfg, server, h⟩
  | some after =>
    have set := serverSetBinding_some written
    exact ⟨after, _, h.write set (fun _ => rfl) (fun _ => rfl) fun _ => rfl⟩

theorem rebindListener_server_kept {outside : Outside} {listener after : Listener}
    {target : Server} (opened : rebindListener outside listener target = some after) :
    after.server = listener.server := by
  unfold rebindListener at opened
  split at opened
  · rw [Option.some.inj opened]
  · obtain ⟨bound, -, rfl⟩ := Option.map_eq_some_iff.mp opened
    rfl

theorem rebind_stands (h : Standing tracked policy runtime cfg server)
    (calm : CalmRebind around tracked policy runtime job) :
    Stands tracked policy (rebindListenerHandle around runtime job).2.2 := by
  unfold rebindListenerHandle
  rw [h.attached.serving]
  dsimp only
  cases parses : parseBindTarget around.isIpv6 job.request.payload with
  | none => exact ⟨cfg, server, h⟩
  | some parsed =>
    dsimp only
    split
    · exact ⟨cfg, server, h⟩
    rename_i supported
    split
    · exact syncBinding_stands h _ _ _
    rename_i elsewhere
    cases opened : rebindListener around.toOutside runtime.listener (bindTarget server parsed) with
    | none => exact ⟨cfg, server, h⟩
    | some listener =>
      have covers := calm server listener parsed
        ⟨h.attached.serving, parses, supported, elsewhere, opened⟩
      have moved : Standing tracked policy { runtime with listener := listener } cfg server := by
        refine ⟨⟨h.attached.config, ?_, h.attached.selected, h.attached.named,
          h.attached.name_fits, h.attached.key_loaded, h.attached.entries_named⟩, h.context, covers⟩
        exact (rebindListener_server_kept opened).trans h.attached.serving
      exact syncBinding_stands moved _ _ _

/-- The condition on a rebind leaves out nothing either. -/
theorem rebind_stands_iff (h : Standing tracked policy runtime cfg server) :
    Stands tracked policy (rebindListenerHandle around runtime job).2.2 ↔
      CalmRebind around tracked policy runtime job := by
  refine ⟨?_, rebind_stands h⟩
  intro stands active listener parsed rebinding
  obtain rfl : server = active :=
    Option.some.inj (h.attached.serving.symm.trans rebinding.serving)
  have serving : listener.server = some server :=
    (rebindListener_server_kept rebinding.opened).trans h.attached.serving
  unfold rebindListenerHandle at stands
  rw [h.attached.serving] at stands
  dsimp only at stands
  rw [rebinding.parses] at stands
  dsimp only at stands
  rw [if_neg rebinding.supported, if_neg rebinding.elsewhere, rebinding.opened] at stands
  dsimp only at stands
  unfold syncBinding at stands
  rw [if_neg h.attached.named] at stands
  dsimp only at stands
  split at stands
  · exact (stands.active serving).2
  · rename_i after written
    obtain ⟨before, found, config, lookup, now, -⟩ :=
      serverSet_some (serverSetBinding_some written) fun _ => rfl
    obtain rfl : cfg = before := Option.some.inj (h.attached.config.symm.trans config)
    obtain rfl : server = found := Option.some.inj (h.attached.selected.symm.trans lookup)
    exact (stands.active now).2

theorem changeSetting_stands (h : Standing tracked policy runtime cfg server) (job : Job) :
    Stands tracked policy (changeSettingHandle runtime job).2.2 := by
  unfold changeSettingHandle
  split
  · exact ⟨cfg, server, h⟩
  split
  · exact ⟨cfg, server, h⟩
  rename_i key value _ enabled _
  unfold setServerWireFlag
  rw [h.attached.serving]
  dsimp only
  split
  · exact ⟨cfg, server, h⟩
  · rename_i after written
    split at written
    · exact ⟨after, _, h.write written (fun _ => rfl) (fun _ => rfl) fun _ => rfl⟩
    · exact ⟨after, _, h.write written (fun _ => rfl) (fun _ => rfl) fun _ => rfl⟩

theorem handle_stands (h : Standing tracked policy runtime cfg server) {action : Action}
    (reload : action.builtin = ascii "reload_config".toList →
      CalmReload around tracked policy runtime)
    (rebind : action.builtin = ascii "rebind_listener".toList →
      CalmRebind around tracked policy runtime job) :
    Stands tracked policy (handle around runtime job action).2.2 := by
  have same : Stands tracked policy runtime := ⟨cfg, server, h⟩
  unfold handle
  split
  · rename_i named
    exact reload_stands h (reload named)
  split
  · exact same
  split
  · rename_i named
    exact rebind_stands h (rebind named)
  split
  · exact changeSetting_stands h job
  split
  · exact same
  split
  · exact same
  split
  · exact same
  · exact same

variable {hash : Hash} {handlers : Handlers}

theorem Stands.session (h : Stands tracked policy runtime) (session : OpenSSLSession) :
    Stands tracked policy { runtime with session := session } := by
  obtain ⟨cfg, server, standing⟩ := h
  exact ⟨cfg, server, standing.session session⟩

/-- A job leaves the runtime as it is, up to the session, or hands it to the action it selects. -/
theorem consume_cases (hash : Hash) (handlers : Handlers) (runtime : Runtime) (job : Job) :
    (∃ session, (consume hash handlers runtime job).runtime = { runtime with session := session }) ∨
    ∃ user action, job.wireVersion ≠ 0 ∧
      (consume hash handlers runtime job).dispatched = some (user, action) ∧
      (consume hash handlers runtime job).runtime =
        (dispatchAction handlers (handed hash runtime job).1 (handed hash runtime job).2 user
          action).runtime := by
  unfold consume handed
  by_cases listening : runtime.listener.server = none
  · rw [if_pos listening]
    exact .inl ⟨runtime.session, rfl⟩
  rw [if_neg listening]
  by_cases raw : job.wireVersion = 0
  · rw [if_pos raw]
    exact .inl ⟨runtime.session, rfl⟩
  rw [if_neg raw]
  cases bindUserAction runtime.config runtime.listener job runtime.session with
  | mk session found =>
    cases found with
    | none => exact .inl ⟨session, rfl⟩
    | some pair =>
      dsimp only
      split
      · exact .inl ⟨_, rfl⟩
      split
      · exact .inl ⟨_, rfl⟩
      · exact .inr ⟨pair.1, pair.2, raw, rfl, rfl⟩

theorem dispatchAction_stands (h : Stands tracked policy runtime) (user : User) {action : Action}
    (builtin : action.handler = .builtin →
      Stands tracked policy (handlers.builtin runtime job user action).2.2) :
    Stands tracked policy (dispatchAction handlers runtime job user action).runtime := by
  unfold dispatchAction
  split
  · exact h
  split
  · rename_i named
    have after := builtin named.1
    unfold dispatchBuiltin
    dsimp only
    split
    · split
      · exact after
      · exact after.session _
    · exact after
  split
  · exact h
  · unfold dispatchShell
    dsimp only
    split
    · exact h
    split
    · exact h
    split
    · exact h
    split
    · exact h
    · exact h

theorem consume_stands {op : DaemonTurn} (h : Stands tracked policy runtime)
    (calm : Calm op.turn.world.hash op.around tracked policy runtime job) :
    Stands tracked policy (process op.input.world runtime job).done.runtime := by
  change Stands tracked policy
    (consume op.turn.world.hash op.input.world.handlers runtime job).runtime
  rcases consume_cases op.turn.world.hash op.input.world.handlers runtime job with
    ⟨session, same⟩ | ⟨user, action, structured, dispatched, done⟩
  · rw [same]
    exact h.session session
  · rw [done]
    have seen : Stands tracked policy (handed op.turn.world.hash runtime job).1 := h.session _
    apply dispatchAction_stands seen user
    intro builtin
    obtain ⟨server, gate⟩ := (consume_dispatched_iff op.turn.world.hash op.input.world.handlers
      runtime structured user action).mp dispatched
    obtain ⟨reload, rebind⟩ := calm server user action structured gate builtin
    obtain ⟨cfg, active, standing⟩ := seen
    exact handle_stands standing reload rebind

end Builtins

section Runs

theorem configureMuxPolicy_yes_iff {listener : Listener} {server : Server} (mux : MuxState)
    (serving : listener.server = some server) :
    (configureMuxPolicy listener mux).policy = .yes ↔ server.secure = true := by
  unfold configureMuxPolicy
  rw [serving]
  dsimp only
  split
  · rename_i secure
    exact iff_of_true rfl secure
  · rename_i plain
    exact iff_of_false (fun same => by cases same) plain

theorem reconnect_inStep {loop ready : Loop}
    (stands : Stands loop.trackedSock loop.mux.policy loop.runtime)
    (reconnected : reconnect loop = some ready) :
    InStep ready.runtime ready.mux.policy ∧
      Stands ready.trackedSock ready.mux.policy ready.runtime := by
  obtain ⟨cfg, server, standing⟩ := stands
  obtain ⟨runtime, -, sock, -, connection⟩ := @reconnect_some (fun _ => True) _ (fun _ => True) _ _
    _ reconnected
  have serving : ready.runtime.listener.server = some server := by
    rw [runtime]
    exact standing.attached.serving
  have secure : activeSecure ready.runtime = server.secure := by
    unfold activeSecure
    rw [serving]
  have policy : ready.mux.policy = .yes ↔ server.secure = true := by
    rcases connection with same | ⟨-, connected⟩
    · rw [same] at sock ⊢
      exact standing.covers sock.symm
    · unfold connect at connected
      split at connected
      · cases connected
      · rw [← Option.some.inj connected]
        exact configureMuxPolicy_yes_iff _ standing.attached.serving
  refine ⟨⟨?_, ?_⟩, cfg, server, ?_, ?_, fun _ => policy⟩
  · rw [secure]
    exact policy
  · rw [secure, runtime]
    exact standing.context
  · rw [runtime]
    exact standing.attached
  · rw [runtime]
    exact standing.context

theorem turn_inStep {loop : Loop} {op : DaemonTurn} (calm : CalmTurn loop op)
    (stands : Stands loop.trackedSock loop.mux.policy loop.runtime) :
    (∀ next, (turn loop op.input).1 = some next →
      Stands next.trackedSock next.mux.policy next.runtime) ∧
    ∀ event ∈ (turn loop op.input).2, InStepEvent event := by
  refine turn_keeps loop op.input ?_ (fun _ => trivial) ?_
  · intro ready reconnected
    obtain ⟨inStep, -⟩ := reconnect_inStep stands reconnected
    obtain ⟨-, -, policy⟩ := flushOutbox_kept op.input.early ready.mux
    change InStep ready.runtime (flushOutbox op.input.early ready.mux).policy
    rw [policy]
    exact inStep
  · intro ready reconnected
    obtain ⟨-, ready_stands⟩ := reconnect_inStep stands reconnected
    obtain ⟨ends, -⟩ := @drainLoop_logged op.input.world
      (Stands ready.trackedSock ready.mux.policy) (intake op.input ready).jobs.count 0
      ready.runtime (intake op.input ready).jobs (intake op.input ready).mux.egress ready_stands
      (by
        intro record member before
        rw [drainLog_made _ _ _ _ _ record member]
        exact consume_stands before (calm ready reconnected record member))
    refine ⟨?_, fun _ _ => trivial⟩
    intro next events finished
    obtain ⟨runtime, -, sock, -, -, policy⟩ := finished.left next rfl
    rw [runtime, sock, policy, intake_policy]
    exact ends

theorem startup_stands {outside : Outside} {config : Config} {name : ServerName} {loop : Loop}
    (started : startup outside config name = some loop) :
    Stands loop.trackedSock loop.mux.policy loop.runtime := by
  unfold startup at started
  cases found : serverByName (some config) name.text with
  | none =>
    rw [found] at started
    cases started
  | some server =>
    rw [found] at started
    have called : server.name = name.text := serverByName_name found
    have named : server.name ≠ [] := called ▸ name.nonempty
    have built := syncCodecContext_eq outside.grants config create named (fun _ member =>
      absurd member List.not_mem_nil)
    dsimp only at started
    split at started
    · cases started
    rw [built] at started
    split at started
    · cases started
    rename_i context synced
    obtain ⟨-, rfl⟩ := Prod.mk.inj synced
    split at started
    · cases started
    unfold start at started
    split at started
    · cases started
    rename_i session ready
    obtain ⟨mux, connected, rfl⟩ := Option.map_eq_some_iff.mp started
    refine ⟨config, server, ⟨rfl, rfl, called ▸ found, named, called ▸ name.fits, ?_,
      rebuilt_named _ _ _⟩, rebuilt_secure _ _ _, ?_⟩
    · intro secure missing
      unfold initSessionForServer at ready
      dsimp only at ready
      rw [missing, if_pos secure] at ready
      split at ready
      · cases ready
      · cases ready
    · intro _
      unfold connect at connected
      split at connected
      · cases connected
      · rw [← Option.some.inj connected]
        exact configureMuxPolicy_yes_iff _ rfl

/-- In a run of the daemon from its start in which no reload and no rebind goes wrong, the mux is
never pumped under a policy that the active server has outgrown. -/
theorem policy_inStep {outside : Outside} {config : Config} {name : ServerName} {loop : Loop}
    (started : startup outside config name = some loop) (ops : List DaemonTurn)
    (calm : ∀ p ∈ steps daemonStep (some loop) ops, ∀ before ∈ p.1, CalmTurn before p.2) :
    ∀ event ∈ (run daemonStep (some loop) ops).2, InStepEvent event :=
  run_events DaemonTurn.input (fun loop op => CalmTurn loop op)
    (I := fun loop => Stands loop.trackedSock loop.mux.policy loop.runtime)
    (fun _ _ calm stands => turn_inStep calm stands) loop (startup_stands started) ops calm

def reloadDoor : Action :=
  { openDoor with handler := .builtin, builtin := ascii "reload_config".toList }

def doorConfig (secure : Bool) : Config :=
  ⟨[DaemonPayload.alice], [reloadDoor],
    [{ DaemonPayload.frontServer with secure := secure, privKey := some 5 }], []⟩

def doorAround (secure : Bool) : Surroundings where
  loadDetached _ := some (doorConfig secure)
  opensslReady := true
  probe _ _ := none
  rebind _ port := some (3, port)
  grants := .all
  configPath := reloadPath
  isIpv6 _ := false

def frontName : ServerName := ⟨DaemonPayload.frontServer.name, by decide, by decide⟩

theorem door_starts :
    (startup (doorAround false).toOutside (doorConfig false) frontName).isSome = true := by
  decide +kernel

def doorLoop : Loop :=
  (startup (doorAround false).toOutside (doorConfig false) frontName).get door_starts

def reloadRun (secure : Bool) : List DaemonTurn :=
  [⟨knockTurn 1, fun _ _ => doorAround secure⟩, ⟨knockTurn 0, fun _ _ => doorAround secure⟩]

theorem sameFile_calm (tracked : ℤ) (runtime : Runtime) :
    CalmReload (doorAround false) tracked .no runtime := by
  intro server newCfg selected listener _ staged _
  obtain rfl : doorConfig false = newCfg := Option.some.inj staged.loads
  have found : (doorConfig false).servers.find?
    (fun s => s.name == targetName runtime server.name) = some selected := staged.selects
  have member : selected ∈ (doorConfig false).servers := List.mem_of_find?_eq_some found
  have plain : selected.secure = false := by
    rw [List.mem_singleton.mp member]
  have whole : Rebuilds Grants.all (doorConfig false) selected := by
    rw [List.mem_singleton.mp member]
    decide +kernel
  refine ⟨fun _ _ => ?_, fun refused => absurd whole refused⟩
  rw [plain]
  decide

/-- Alice's reload of the same file is carried out. -/
theorem sameFile_inStep :
    ((run daemonStep (some doorLoop) (reloadRun false)).2.any fun
      | .processed record => record.done.dispatched.isSome
      | _ => false) = true ∧
    ∀ event ∈ (run daemonStep (some doorLoop) (reloadRun false)).2, InStepEvent event := by
  refine ⟨by decide +kernel, ?_⟩
  have seen : ((steps daemonStep (some doorLoop) (reloadRun false)).all fun p =>
      p.1.all fun before => (reconnect before).all fun ready =>
        decide (ready.mux.policy = .no) &&
        (drainLog p.2.input.world (intake p.2.input ready).jobs.count 0 ready.runtime
          (intake p.2.input ready).jobs (intake p.2.input ready).mux.egress).all fun record =>
            record.before.config.all fun cfg => cfg.actions.all fun action =>
              decide (action.builtin ≠ ascii "rebind_listener".toList)) = true := by
    decide +kernel
  apply policy_inStep (Option.some_get door_starts).symm (reloadRun false)
  intro p taken before same ready reconnected filled record logged server user action structured
    gate _
  have turn := steps_input taken
  have checked := List.all_eq_true.mp seen p taken
  rw [Option.mem_def.mp same, Option.all_some, reconnected, Option.all_some, Bool.and_eq_true,
    decide_eq_true_eq] at checked
  obtain ⟨policy, actions⟩ := checked
  have around : p.2.around = fun _ _ => doorAround false := by
    rcases List.mem_cons.mp turn with first | last
    · rw [first]
    · rw [List.mem_singleton.mp last]
  rw [around, policy]
  refine ⟨fun _ => sameFile_calm _ _, fun named => ?_⟩
  have before_actions := List.all_eq_true.mp actions record logged
  obtain ⟨cfg, config, known⟩ : ∃ cfg, record.before.config = some cfg ∧ action ∈ cfg.actions := by
    have lookup := gate.action_known
    cases config : record.before.config with
    | none =>
      rw [config] at lookup
      cases lookup
    | some cfg =>
      rw [config] at lookup
      exact ⟨cfg, rfl, List.mem_of_find?_eq_some lookup⟩
  rw [config, Option.all_some] at before_actions
  exact absurd named (of_decide_eq_true (List.all_eq_true.mp before_actions action known))

def outgrown : Event → Bool
  | .pumped runtime mux => mux.policy == .no && activeSecure runtime
  | _ => false

/-- A reload that turns `secure` on and moves no socket leaves the policy as it was. -/
theorem flippedSecure_not_inStep :
    ¬ ∀ (outside : Outside) (config : Config) (name : ServerName) (loop : Loop)
        (ops : List DaemonTurn), startup outside config name = some loop →
      ∀ event ∈ (run daemonStep (some loop) ops).2, InStepEvent event := by
  intro always
  have stale : (run daemonStep (some doorLoop) (reloadRun true)).2.any outgrown = true := by
    decide +kernel
  obtain ⟨event, member, found⟩ := List.any_eq_true.mp stale
  have inStep := always _ _ _ doorLoop (reloadRun true) (Option.some_get door_starts).symm event
    member
  cases event with
  | pumped runtime mux =>
    simp only [outgrown, Bool.and_eq_true, beq_iff_eq] at found
    have yes := (InStep.policy inStep).mpr found.2
    rw [found.1] at yes
    cases yes
  | drained normal => cases found
  | processed record => cases found

end Runs

end Siglatch.DaemonPolicy
