import Siglatch.AppConfigForm
import Siglatch.DaemonPermission
import Siglatch.DaemonPolicy

set_option autoImplicit false

namespace Siglatch.DaemonGrants
open MuxTypes AppConfig KnockDigest DaemonTypes NetIpRange LibStr RequestPolicy DaemonAuth
open DaemonPayload AppRuntime AppBuiltin AppConfigForm DaemonLoop DaemonPolicy StepRuns
open RelatedLists

/-- A server as it was, but for where it listens and what it enforces on the wire. -/
structure SameGrants (before after : Server) : Prop where
  same : { before with
    bindIp := after.bindIp, port := after.port
    enforceWireDecode := after.enforceWireDecode
    enforceWireAuth := after.enforceWireAuth } = after
  bound : Bound before → Bound after

structure Keeps (base cfg : Config) : Prop where
  users : cfg.users = base.users
  actions : cfg.actions = base.actions
  deaddrops : cfg.deaddrops = base.deaddrops
  servers : List.Forall₂ SameGrants base.servers cfg.servers

/-- The rules of a configuration are in force, for the server that goes by the active one's name. -/
def InForce (base : Config) (runtime : Runtime) : Prop :=
  ∃ cfg, runtime.config = some cfg ∧ Keeps base cfg ∧
    ∀ server ∈ runtime.listener.server, serverByName (some cfg) server.name = some server

section Servers

variable {base cfg : Config} {first second third : Server} {name : CString}
  {change : Server → Server}

theorem SameGrants.refl (server : Server) : SameGrants server server := ⟨rfl, id⟩

theorem SameGrants.trans (before : SameGrants first second) (after : SameGrants second third) :
    SameGrants first third := by
  refine ⟨?_, fun bound => after.bound (before.bound bound)⟩
  rw [← after.same, ← before.same]

theorem Keeps.refl (cfg : Config) : Keeps cfg cfg where
  users := rfl
  actions := rfl
  deaddrops := rfl
  servers := List.forall₂_same.mpr fun server _ => SameGrants.refl server

/-- What a request may write keeps a configuration well formed. -/
theorem Keeps.wellFormed (keeps : Keeps base cfg) (form : WellFormed base) : WellFormed cfg := by
  have same_names : cfg.servers.map (·.name) = base.servers.map (·.name) := by
    rw [← List.forall₂_eq_eq_eq, List.forall₂_map_left_iff, List.forall₂_map_right_iff]
    exact keeps.servers.flip.imp fun server own grants => by rw [← grants.same]
  obtain ⟨users, actions, servers, deaddrops, user, action, server, distinct, deaddrop⟩ := form
  refine ⟨?_, ?_, ?_, ?_, ?_, ?_, ?_, ?_, ?_⟩
  · rw [keeps.users]
    exact users
  · rw [keeps.actions]
    exact actions
  · rw [← keeps.servers.length_eq]
    exact servers
  · rw [keeps.deaddrops]
    exact deaddrops
  · rw [keeps.users]
    exact user
  · rw [keeps.actions]
    exact action
  · intro now member
    obtain ⟨own, found, grants⟩ := related_right keeps.servers member
    obtain ⟨fits, specs, bound, named⟩ := server own found
    have moved := grants.bound bound
    rw [← grants.same]
    exact ⟨⟨fits.name, fits.actions, fits.deaddrops, fits.allowedIps⟩, specs,
      ⟨moved.fits, moved.address, moved.port⟩, named⟩
  · rw [same_names]
    exact distinct
  · rw [keeps.deaddrops]
    exact deaddrop

theorem writeServer_grants {before servers : List Server}
    (same : List.Forall₂ SameGrants before servers)
    (changes : ∀ found, servers.find? (fun s => s.name == name) = some found →
      SameGrants found (change found)) :
    List.Forall₂ SameGrants before (writeServer name change servers) := by
  induction same with
  | nil => exact .nil
  | @cons old server olds servers first rest ih =>
    unfold writeServer
    split
    · rename_i called
      exact .cons (first.trans (changes server (List.find?_cons_of_pos called))) rest
    · rename_i other
      refine .cons first (ih fun found lookup => changes found ?_)
      rw [List.find?_cons, Bool.eq_false_of_not_eq_true other]
      exact lookup

theorem serverSet_keeps {config : Option Config} {after : Config} (keeps : Keeps base cfg)
    (config_eq : config = some cfg) (written : serverSet config name change = some after)
    (changes : ∀ found, serverByName (some cfg) name = some found →
      SameGrants found (change found)) : Keeps base after := by
  subst config_eq
  unfold serverSet at written
  dsimp only at written
  split at written
  · cases written
  · cases written
    exact { keeps with servers := writeServer_grants keeps.servers changes }

theorem serverByName_self {config : Option Config} {server : Server}
    (found : serverByName config name = some server) :
    serverByName config server.name = some server := by
  rw [serverByName_name found]
  exact found

end Servers

section Builtins

variable {base cfg : Config} {runtime : Runtime} {outside : Outside} {around : Surroundings}
  {job : Job}

theorem attach_inForce (keeps : Keeps base cfg) (runtime : Runtime) (name : CString) :
    InForce base (attachServer runtime cfg name) :=
  ⟨cfg, rfl, keeps, fun _ found => serverByName_self found⟩

theorem rollback_inForce (keeps : Keeps base cfg) (currentName : CString) (resync : Bool)
    (runtime : Runtime) :
    InForce base (rollback outside currentName (some cfg) resync runtime) := by
  have selected : ∀ server ∈ (if currentName ≠ [] then serverByName (some cfg) currentName
      else none), serverByName (some cfg) server.name = some server := by
    intro server found
    split at found
    · exact serverByName_self found
    · cases found
  unfold rollback
  dsimp only
  split
  · exact ⟨cfg, (apply_ite Runtime.config _ _ _).trans (ite_self _), keeps, selected⟩
  · exact ⟨cfg, (apply_ite Runtime.config _ _ _).trans (ite_self _), keeps,
      fun server absent => (by cases absent)⟩

theorem rebindListener_serves {listener after : Listener} {target : Server}
    (opened : rebindListener outside listener target = some after) :
    after.server = listener.server := by
  unfold rebindListener at opened
  split at opened
  · rw [Option.some.inj opened]
  · obtain ⟨bound, -, rfl⟩ := Option.map_eq_some_iff.mp opened
    rfl

theorem applyConfig_inForce (rules : InForce base runtime) {newCfg : Config}
    {targetName currentName : CString} {bindingChanged ok : Bool} {after : Runtime}
    (outcome : applyConfig outside runtime newCfg targetName currentName bindingChanged =
      (ok, after)) : InForce base after ∨ ok = true ∧ InForce newCfg after := by
  obtain ⟨cfg, config, keeps, -⟩ := rules
  unfold applyConfig at outcome
  dsimp only at outcome
  rw [config] at outcome
  split at outcome
  · cases outcome
    exact .inl (rollback_inForce keeps _ _ _)
  split at outcome
  · cases outcome
    exact .inl (rollback_inForce keeps _ _ _)
  rename_i listener opened
  have serves : listener.server = serverByName (some newCfg) targetName := by
    split at opened
    · obtain ⟨server, -, bound⟩ := Option.bind_eq_some_iff.mp opened
      exact rebindListener_serves bound
    · rw [← Option.some.inj opened]
  split at outcome
  · cases outcome
    exact .inl (rollback_inForce keeps _ _ _)
  · cases outcome
    refine .inr ⟨rfl, newCfg, rfl, Keeps.refl newCfg, ?_⟩
    intro server active
    dsimp only at active
    rw [serves] at active
    exact serverByName_self active

theorem reload_inForce (rules : InForce base runtime) {path name : CString} {ok : Bool}
    {after : Runtime} (outcome : reloadConfig outside runtime path name = (ok, after)) :
    InForce base after ∨ ok = true ∧ ∃ new, outside.loadDetached path = some new ∧
      InForce new after := by
  have kept (same : (false, runtime) = (ok, after)) : InForce base after := by
    cases same
    exact rules
  unfold reloadConfig at outcome
  split at outcome
  · exact .inl (kept outcome)
  split at outcome
  · exact .inl (kept outcome)
  split at outcome
  · exact .inl (kept outcome)
  rename_i newCfg loaded
  split at outcome
  · exact .inl (kept outcome)
  split at outcome
  · exact .inl (kept outcome)
  split at outcome
  · exact .inl (kept outcome)
  dsimp only at outcome
  split at outcome
  · exact .inl (kept outcome)
  split at outcome
  · exact .inl (kept outcome)
  rcases applyConfig_inForce rules outcome with same | ⟨done, taken⟩
  · exact .inl same
  · exact .inr ⟨done, newCfg, loaded, taken⟩

theorem serverSetBinding_bound {config : Option Config} {after : Config} {name bindIp : CString}
    {port : ℤ} (short : bindIp.length < MAX_IP_RANGE_LEN)
    (written : serverSetBinding config name bindIp port = some after) (server : Server) :
    Bound { server with port := port, bindIp := lcpy bindIp MAX_IP_RANGE_LEN } := by
  have whole : lcpy bindIp MAX_IP_RANGE_LEN = bindIp := by
    unfold lcpy
    exact List.take_of_length_le (by omega)
  unfold serverSetBinding at written
  split at written
  · cases written
  rename_i range
  split at written
  · cases written
  · rename_i valid
    rw [whole]
    refine ⟨short, ?_, ?_⟩
    · by_contra neither
      push Not at neither
      exact valid ⟨neither.1, by simpa using neither.2⟩
    · dsimp only
      omega

theorem syncBinding_inForce (rules : InForce base runtime) {server : Server}
    (serving : runtime.listener.server = some server) {bindIp : CString}
    (short : Bound server → bindIp.length < MAX_IP_RANGE_LEN) (port : ℤ) (text : CString) :
    InForce base (syncBinding runtime server.name bindIp port text).2.2 := by
  unfold syncBinding
  split
  · exact rules
  split
  · exact rules
  · rename_i after written
    obtain ⟨cfg, config, keeps, active⟩ := rules
    have kept := serverSet_keeps keeps config (serverSetBinding_some written) (by
      intro found lookup
      cases (active server serving).symm.trans lookup
      exact ⟨rfl, fun bound => serverSetBinding_bound (short bound) written server⟩)
    exact attach_inForce kept runtime server.name

theorem parseBindTarget_short {isIpv6 : CString → Bool} {payload : Bytes} {parsed : BindTarget}
    (parses : parseBindTarget isIpv6 payload = some parsed) :
    ∀ ip ∈ parsed.bindIp, ip.length < MAX_IP_RANGE_LEN := by
  have copied (text : CString) : (lcpy text MAX_IP_RANGE_LEN).length < MAX_IP_RANGE_LEN := by
    unfold lcpy
    rw [List.length_take]
    exact lt_of_le_of_lt (Nat.min_le_left _ _) (by decide)
  unfold parseBindTarget at parses
  split at parses
  · cases parses
    exact fun ip absent => (by cases absent)
  split at parses
  · cases parses
  dsimp only at parses
  split at parses
  · cases parses
    exact fun ip absent => (by cases absent)
  split at parses
  · split at parses
    · cases parses
    split at parses
    · cases parses
    split at parses
    · cases parses
    · obtain ⟨port, -, rfl⟩ := Option.map_eq_some_iff.mp parses
      intro ip same
      cases same
      exact copied _
  split at parses
  · obtain ⟨port, -, rfl⟩ := Option.map_eq_some_iff.mp parses
    exact fun ip absent => (by cases absent)
  split at parses
  · cases parses
    intro ip same
    cases same
    exact copied _
  · cases parses

theorem bindTarget_short {server : Server} {isIpv6 : CString → Bool} {payload : Bytes}
    {parsed : BindTarget} (parses : parseBindTarget isIpv6 payload = some parsed)
    (bound : Bound server) : (bindTarget server parsed).bindIp.length < MAX_IP_RANGE_LEN := by
  unfold bindTarget
  dsimp only
  cases given : parsed.bindIp with
  | none => exact bound.fits
  | some ip => exact parseBindTarget_short parses ip given

theorem rebindListenerHandle_inForce (rules : InForce base runtime) :
    InForce base (rebindListenerHandle around runtime job).2.2 := by
  unfold rebindListenerHandle
  split
  · exact rules
  rename_i server serving
  split
  · exact rules
  rename_i parsed parses
  dsimp only
  split
  · exact rules
  split
  · exact syncBinding_inForce rules serving (bindTarget_short parses) _ _
  split
  · exact rules
  · rename_i listener opened
    have serves := (rebindListener_serves opened).trans serving
    have moved : InForce base { runtime with listener := listener } := by
      obtain ⟨cfg, config, keeps, active⟩ := rules
      refine ⟨cfg, config, keeps, ?_⟩
      intro other found
      cases serves.symm.trans found
      exact active server serving
    exact syncBinding_inForce moved serves (bindTarget_short parses) _ _

theorem changeSettingHandle_inForce (rules : InForce base runtime) :
    InForce base (changeSettingHandle runtime job).2.2 := by
  unfold changeSettingHandle
  split
  · exact rules
  split
  · exact rules
  unfold setServerWireFlag
  split
  · exact rules
  dsimp only
  split
  · exact rules
  · rename_i after written
    obtain ⟨cfg, config, keeps, -⟩ := rules
    have kept : Keeps base after := by
      split at written
      · exact serverSet_keeps keeps config written fun found _ =>
          ⟨rfl, fun bound => ⟨bound.fits, bound.address, bound.port⟩⟩
      · exact serverSet_keeps keeps config written fun found _ =>
          ⟨rfl, fun bound => ⟨bound.fits, bound.address, bound.port⟩⟩
    exact attach_inForce kept runtime _

theorem handle_inForce (rules : InForce base runtime) (action : Action) :
    InForce base (handle around runtime job action).2.2 ∨
      action.builtin = ascii "reload_config".toList ∧ ∃ new,
        around.loadDetached around.configPath = some new ∧
          InForce new (handle around runtime job action).2.2 := by
  unfold handle
  split
  · rename_i named
    unfold reloadConfigHandle
    split
    · exact .inl rules
    dsimp only
    split
    · rename_i after outcome
      rcases reload_inForce rules outcome with same | ⟨never, -⟩
      · exact .inl same
      · cases never
    · rename_i after outcome
      rcases reload_inForce rules outcome with same | ⟨-, new, loaded, taken⟩
      · exact .inl same
      · exact .inr ⟨named, new, loaded, taken⟩
  split
  · exact .inl rules
  split
  · exact .inl (rebindListenerHandle_inForce rules)
  split
  · exact .inl (changeSettingHandle_inForce rules)
  split
  · exact .inl rules
  split
  · exact .inl rules
  split
  · exact .inl rules
  · exact .inl rules

end Builtins

section Requests

variable {base : Config} {runtime : Runtime} {job : Job} {hash : Hash} {handlers : Handlers}

theorem dispatchAction_cases (handlers : Handlers) (runtime : Runtime) (job : Job) (user : User)
    (action : Action) :
    (∃ session, (dispatchAction handlers runtime job user action).runtime =
      { runtime with session := session }) ∨ action.handler = .builtin ∧
    ∃ session, (dispatchAction handlers runtime job user action).runtime =
      { (handlers.builtin runtime job user action).2.2 with session := session } := by
  unfold dispatchAction
  split
  · exact .inl ⟨_, rfl⟩
  split
  · rename_i named
    refine .inr ⟨named.1, ?_⟩
    unfold dispatchBuiltin
    dsimp only
    split
    · split
      · exact ⟨_, rfl⟩
      · exact ⟨_, rfl⟩
    · exact ⟨_, rfl⟩
  split
  · exact .inl ⟨_, rfl⟩
  · unfold dispatchShell
    dsimp only
    split
    · exact .inl ⟨_, rfl⟩
    split
    · exact .inl ⟨_, rfl⟩
    split
    · exact .inl ⟨_, rfl⟩
    split
    · exact .inl ⟨_, rfl⟩
    · exact .inl ⟨_, rfl⟩

/-- What a configuration says of a request that has come as far as an action. -/
structure Granted (base : Config) (hash : Hash) (job : Job) (user : User) (action : Action) :
    Prop where
  user_known : userById (some base) job.request.userId.toUInt32 = some user
  action_known : actionById (some base) job.request.actionId.toUInt32 = some action
  signed : SignedBy hash user.hmacKey job
  user_may : action.name ∈ user.actions
  action_enabled : action.enabled = true
  user_admits : Admits user.allowedIps job.ip
  action_admits : Admits action.allowedIps job.ip
  server : ∃ server ∈ base.servers, action.name ∈ server.actions ∧ Admits server.allowedIps job.ip

theorem gate_granted (rules : InForce base runtime) {server : Server} {user : User}
    {action : Action} (gate : Gate hash runtime.config runtime.listener job server user action) :
    Granted base hash job user action := by
  obtain ⟨cfg, config, keeps, serving⟩ := rules
  obtain ⟨own, member, ⟨same, -⟩⟩ := related_right keeps.servers
    (List.mem_of_find?_eq_some (serving server gate.listening))
  have user_known := gate.user_known
  have action_known := gate.action_known
  rw [config] at user_known action_known
  refine ⟨?_, ?_, gate.signed, gate.user_may, gate.action_enabled, gate.user_admits,
    gate.action_admits, own, member, ?_, ?_⟩
  · change base.users.find? _ = _
    rw [← keeps.users]
    exact user_known
  · change base.actions.find? _ = _
    rw [← keeps.actions]
    exact action_known
  · have offers := gate.server_offers
    rw [← same] at offers
    exact offers
  · have admits := gate.server_admits
    rw [← same] at admits
    exact admits

def Reloads (op : DaemonTurn) (record : Processed) (new : Config) : Prop :=
  ∃ user action, record.done.dispatched = some (user, action) ∧ action.handler = .builtin ∧
    action.builtin = ascii "reload_config".toList ∧
    ∃ runtime job path, (op.around runtime job).loadDetached path = some new

theorem process_inForce (rules : InForce base runtime) (op : DaemonTurn) (job : Job) :
    InForce base (process op.input.world runtime job).done.runtime ∨
      ∃ new, Reloads op (process op.input.world runtime job) new ∧
        InForce new (process op.input.world runtime job).done.runtime := by
  change InForce base (consume op.turn.world.hash op.input.world.handlers runtime job).runtime ∨
    ∃ new, Reloads op _ new ∧
      InForce new (consume op.turn.world.hash op.input.world.handlers runtime job).runtime
  rcases consume_cases op.turn.world.hash op.input.world.handlers runtime job with
    ⟨session, same⟩ | ⟨user, action, -, dispatched, done⟩
  · rw [same]
    exact .inl rules
  rw [done]
  have seen : InForce base (handed op.turn.world.hash runtime job).1 := rules
  rcases dispatchAction_cases op.input.world.handlers (handed op.turn.world.hash runtime job).1
    (handed op.turn.world.hash runtime job).2 user action with
    ⟨session, same⟩ | ⟨builtin, session, same⟩
  · rw [same]
    exact .inl seen
  rw [same]
  rcases @handle_inForce _ _ (op.around _ _) _ seen action with
    kept | ⟨named, new, loaded, taken⟩
  · exact .inl kept
  · exact .inr ⟨new, ⟨user, action, dispatched, builtin, named, _, _, _, loaded⟩, taken⟩

end Requests

section Runs

/-- Rules follow each other over a stretch of requests. Each request is judged by the rules of the
moment, and leaves them as they are unless it is one that reloads them. -/
inductive Governs : Config → List (DaemonTurn × Processed) → Config → Prop where
  | nil (base : Config) : Governs base [] base
  | cons {base next last : Config} {op : DaemonTurn} {record : Processed}
      {rest : List (DaemonTurn × Processed)} (before : InForce base record.before)
      (granted : ∀ user action, record.done.dispatched = some (user, action) →
        Granted base op.turn.world.hash record.job user action)
      (kept : next = base ∨ Reloads op record next) (after : InForce next record.done.runtime)
      (later : Governs next rest last) : Governs base ((op, record) :: rest) last

variable {base : Config} {loop : Loop} {op : DaemonTurn}

theorem Governs.append {middle last : Config} {first second : List (DaemonTurn × Processed)}
    (early : Governs base first middle) (late : Governs middle second last) :
    Governs base (first ++ second) last := by
  induction early with
  | nil => exact late
  | cons before granted kept after _ ih => exact .cons before granted kept after (ih late)

theorem process_governs (op : DaemonTurn) {runtime : Runtime} (job : Job)
    (rules : InForce base runtime) : ∃ next,
      Governs base [(op, process op.input.world runtime job)] next ∧
        InForce next (process op.input.world runtime job).done.runtime := by
  have granted : ∀ user action,
      (process op.input.world runtime job).done.dispatched = some (user, action) →
        Granted base op.turn.world.hash job user action := by
    intro user action dispatched
    obtain ⟨-, server, gate⟩ := (consume_gate_iff _ _ _ user action).mp dispatched
    exact gate_granted rules gate
  rcases process_inForce rules op job with kept | ⟨new, reloads, taken⟩
  · exact ⟨base, .cons rules granted (.inl rfl) kept (.nil base), kept⟩
  · exact ⟨new, .cons rules granted (.inr reloads) taken (.nil new), taken⟩

theorem drainLog_governs (op : DaemonTurn) (fuel k : ℕ) (runtime : Runtime) (jobs : JobState)
    (egress : MuxEgress.EgressState) (rules : InForce base runtime) : ∃ last,
      Governs base ((drainLog op.input.world fuel k runtime jobs egress).map (op, ·)) last ∧
        InForce last
          (DaemonRunner.drainLoop op.input.world fuel k runtime jobs egress).runtime := by
  induction fuel generalizing base k runtime jobs egress with
  | zero => exact ⟨base, .nil base, rules⟩
  | succ fuel ih =>
    cases drained : DaemonTypes.drain jobs with
    | none =>
      rw [drainLoop_empty fuel k runtime egress drained,
        drainLog_empty fuel k runtime egress drained]
      exact ⟨base, .nil base, rules⟩
    | some next =>
      obtain ⟨job, rest⟩ := next
      obtain ⟨middle, first, after⟩ := process_governs op job rules
      rw [drainLoop_succ fuel k runtime egress drained, drainLog_succ fuel k runtime egress drained]
      split
      · exact ⟨middle, first, after⟩
      · obtain ⟨last, later, ends⟩ := ih (k + 1) _ rest
          (stageProcessed op.input.world k egress (process op.input.world runtime job)).egress after
        exact ⟨last, first.append later, ends⟩

def processedOf : Event → Option Processed
  | .processed record => some record
  | _ => none

def requests : Option Loop → List DaemonTurn → List (DaemonTurn × Processed)
  | _, [] => []
  | state, op :: ops =>
    ((daemonStep state op).2.filterMap processedOf).map (op, ·) ++
      requests (daemonStep state op).1 ops

theorem finished_records {ready : Loop} {after : Option Loop} {events : List Event}
    (finished : Finished op.input ready after events) : events.filterMap processedOf =
      drainLog op.input.world (intake op.input ready).jobs.count 0 ready.runtime
        (intake op.input ready).jobs (intake op.input ready).mux.egress := by
  have handed (packets : List RecvPacket) :
      (packets.map Event.drained).filterMap processedOf = [] := by
    rw [List.filterMap_map]
    exact List.filterMap_eq_nil_iff.mpr fun _ _ => rfl
  have logged (records : List Processed) :
      (records.map Event.processed).filterMap processedOf = records := by
    rw [List.filterMap_map]
    exact List.filterMap_some
  rw [finished.events, List.filterMap_cons, List.filterMap_append, handed, logged]
  rfl

theorem turn_governs (op : DaemonTurn) (rules : InForce base loop.runtime) : ∃ last,
    Governs base (((turn loop op.input).2.filterMap processedOf).map (op, ·)) last ∧
      ∀ next ∈ (turn loop op.input).1, InForce last next.runtime := by
  rcases turn_cases loop op.input with ⟨-, ended⟩ | ⟨ready, reconnected, broken | finished⟩
  · rw [ended]
    exact ⟨base, .nil base, fun next continues => (by cases continues)⟩
  · rw [broken]
    exact ⟨base, .nil base, fun next continues => (by cases continues)⟩
  · obtain ⟨same, -⟩ := @reconnect_some (fun _ => True) _ (fun _ => True) _ _ _ reconnected
    rw [← same] at rules
    obtain ⟨last, governs, ends⟩ := drainLog_governs op (intake op.input ready).jobs.count 0
      ready.runtime (intake op.input ready).jobs (intake op.input ready).mux.egress rules
    rw [finished_records finished]
    refine ⟨last, governs, ?_⟩
    intro next continues
    rw [(finished.left next continues).1]
    exact ends

theorem startup_inForce {outside : Outside} {config : Config} {name : ServerName}
    (started : startup outside config name = some loop) : InForce config loop.runtime := by
  unfold startup at started
  split at started
  · cases started
  rename_i server found
  split at started
  · cases started
  split at started
  · cases started
  split at started
  · cases started
  unfold start at started
  split at started
  · cases started
  · obtain ⟨mux, -, rfl⟩ := Option.map_eq_some_iff.mp started
    refine ⟨config, rfl, Keeps.refl config, ?_⟩
    intro active serving
    cases serving
    exact serverByName_self found

theorem run_governed {outside : Outside} {config : Config} {name : ServerName}
    (started : startup outside config name = some loop) (ops : List DaemonTurn) : ∃ last,
      Governs config (requests (some loop) ops) last ∧
        ∀ now ∈ (run daemonStep (some loop) ops).1, InForce last now.runtime := by
  have governs : ∀ (state : Option Loop) (base : Config),
      (∀ now ∈ state, InForce base now.runtime) → ∃ last, Governs base (requests state ops) last ∧
        ∀ now ∈ (run daemonStep state ops).1, InForce last now.runtime := by
    induction ops with
    | nil => exact fun state base rules => ⟨base, .nil base, rules⟩
    | cons op ops ih =>
      intro state base rules
      cases state with
      | none => exact ih none base (fun now stopped => (by cases stopped))
      | some loop =>
        obtain ⟨middle, first, next⟩ := turn_governs op (rules loop rfl)
        obtain ⟨last, later, ends⟩ := ih (turn loop op.input).1 middle next
        exact ⟨last, first.append later, ends⟩
  apply governs
  intro now same
  cases same
  exact startup_inForce started

/-- In every run of the daemon, each request is judged by the rules that the daemon has started
with, or by those of the last reload that a request was permitted to ask for. Nothing else that a
request does changes them. -/
theorem rules_govern {outside : Outside} {config : Config} {name : ServerName}
    (started : startup outside config name = some loop) (ops : List DaemonTurn) : ∃ last,
      Governs config (requests (some loop) ops) last ∧
        ∀ now ∈ (run daemonStep (some loop) ops).1, InForce last now.runtime :=
  run_governed started ops

/-- Alice's reload brings in a secure server. -/
theorem door_governed : ∃ last,
    Governs (doorConfig false) (requests (some doorLoop) (reloadRun true)) last ∧
      ∀ now ∈ (run daemonStep (some doorLoop) (reloadRun true)).1, InForce last now.runtime :=
  rules_govern (Option.some_get door_starts).symm (reloadRun true)

/-- What holds of the first rules and of all that are loaded holds of the rules of every request. -/
theorem Governs.always {P : Config → Prop} {last : Config} {log : List (DaemonTurn × Processed)}
    (governs : Governs base log last) (first : P base)
    (loads : ∀ p ∈ log, ∀ new, Reloads p.1 p.2 new → P new) :
    P last ∧ ∀ p ∈ log, (∃ rules, P rules ∧ InForce rules p.2.before ∧
      ∀ user action, p.2.done.dispatched = some (user, action) →
        Granted rules p.1.turn.world.hash p.2.job user action) ∧
      ∃ rules, P rules ∧ InForce rules p.2.done.runtime := by
  induction governs with
  | nil => exact ⟨first, fun _ member => absurd member List.not_mem_nil⟩
  | @cons base next last op record rest before granted kept after later ih =>
    have holds : P next := by
      rcases kept with rfl | reloads
      · exact first
      · exact loads _ List.mem_cons_self next reloads
    obtain ⟨ends, all⟩ := ih holds fun p member => loads p (List.mem_cons_of_mem _ member)
    refine ⟨ends, ?_⟩
    intro p member
    rcases List.mem_cons.mp member with rfl | rest
    · exact ⟨⟨base, first, before, granted⟩, next, holds, after⟩
    · exact all p rest

theorem requests_turn {state : Option Loop} {ops : List DaemonTurn}
    {p : DaemonTurn × Processed} (member : p ∈ requests state ops) : p.1 ∈ ops := by
  induction ops generalizing state with
  | nil => exact absurd member List.not_mem_nil
  | cons op ops ih =>
    rcases List.mem_append.mp member with now | later
    · obtain ⟨record, -, rfl⟩ := List.mem_map.mp now
      exact List.mem_cons_self
    · exact List.mem_cons_of_mem _ (ih later)

/-- What a reload gets is what the loader makes of a file. -/
def Filed (ops : List DaemonTurn) : Prop :=
  ∀ op ∈ ops, ∀ runtime job path cfg, (op.around runtime job).loadDetached path = some cfg →
    ∃ files source, AppConfigLoad.loadDetached files source = some cfg

theorem requests_loads {state : Option Loop} {ops : List DaemonTurn} (filed : Filed ops) :
    ∀ p ∈ requests state ops, ∀ new, Reloads p.1 p.2 new → WellFormed new := by
  rintro p member new ⟨_, _, -, -, -, runtime, job, path, read⟩
  obtain ⟨files, source, accepted⟩ := filed p.1 (requests_turn member) runtime job path new read
  exact loaded_wellFormed accepted

/-- The daemon has a configuration, and it is well formed. -/
def Configured (runtime : Runtime) : Prop :=
  ∃ cfg, runtime.config = some cfg ∧ WellFormed cfg

theorem InForce.configured {runtime : Runtime} (rules : InForce base runtime)
    (form : WellFormed base) : Configured runtime := by
  obtain ⟨cfg, config, keeps, -⟩ := rules
  exact ⟨cfg, config, keeps.wellFormed form⟩

/-- A daemon that has read its configuration from a file has a well-formed one all the time: at the
head of its loop, and before and after every request, the one that ends it among them. -/
theorem served_wellFormed {outside : Outside} {config : Config} {name : ServerName}
    {files : AppConfigLoad.Files} {path : CString}
    (loaded : AppConfigLoad.loadDetached files path = some config)
    (started : startup outside config name = some loop) (ops : List DaemonTurn)
    (filed : Filed ops) :
    (∀ now ∈ (run daemonStep (some loop) ops).1, Configured now.runtime) ∧
    ∀ p ∈ requests (some loop) ops,
      Configured p.2.before ∧ Configured p.2.done.runtime := by
  obtain ⟨last, governs, ends⟩ := run_governed started ops
  obtain ⟨form, all⟩ := governs.always (loaded_wellFormed loaded) (requests_loads filed)
  constructor
  · exact fun now state => (ends now state).configured form
  · intro p member
    obtain ⟨⟨rules, rules_form, before, -⟩, next, next_form, after⟩ := all p member
    exact ⟨before.configured rules_form, after.configured next_form⟩

def porterSection : AppConfigLoad.IniSection :=
  { DaemonPermission.doorSection with
    entries := DaemonPermission.doorSection.entries ++
      [⟨ascii "run_as".toList, ascii "porter".toList⟩] }

def porterFiles : AppConfigLoad.Files :=
  { DaemonPermission.houseFiles 0 with
    readIni := fun _ =>
      some ⟨[], [DaemonPermission.aliceSection, porterSection, DaemonPermission.frontSection]⟩ }

def porterConfig : Config :=
  (AppConfigLoad.loadDetached porterFiles DaemonPermission.housePath).getD ⟨[], [], [], []⟩

def porterAround : Surroundings :=
  { doorAround false with loadDetached := fun path => AppConfigLoad.loadDetached porterFiles path }

def porterRun : List DaemonTurn := [⟨knockTurn 1, fun _ _ => porterAround⟩]

theorem porter_loads : AppConfigLoad.loadDetached porterFiles DaemonPermission.housePath =
    some porterConfig := by
  decide +kernel

theorem porter_starts : (startup porterAround.toOutside porterConfig frontName).isSome = true := by
  decide +kernel

def porterLoop : Loop := (startup porterAround.toOutside porterConfig frontName).get porter_starts

theorem porterRun_filed : Filed porterRun := by
  intro op member runtime job path cfg loads
  rw [List.mem_singleton.mp member] at loads
  exact ⟨_, path, loads⟩

theorem porter_wellFormed :
    (∀ now ∈ (run daemonStep (some porterLoop) porterRun).1, Configured now.runtime) ∧
    ∀ p ∈ requests (some porterLoop) porterRun,
      Configured p.2.before ∧ Configured p.2.done.runtime :=
  served_wellFormed porter_loads (Option.some_get porter_starts).symm porterRun porterRun_filed

end Runs

end Siglatch.DaemonGrants
