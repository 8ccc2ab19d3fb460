import Siglatch.AppRuntime
import Mathlib.Data.List.Nodup

set_option autoImplicit false

namespace Siglatch.AppRuntimeReload
open MuxTypes AppConfig KnockContext DaemonTypes AppRuntime

def enabledUsers (cfg : Config) : List User := cfg.users.filter (·.enabled)

/-- Users in front of the first one whose name is empty or taken, or whose entry the system
refuses. -/
def leadingUsers (granted : ℕ → Bool) (taken : List CString) : List User → List User
  | [] => []
  | user :: users =>
    if user.name = [] ∨ user.name ∈ taken ∨ granted taken.length = false then []
    else user :: leadingUsers granted (taken ++ [user.name]) users

def WellNamed (cfg : Config) : Prop :=
  (∀ user ∈ enabledUsers cfg, user.name ≠ []) ∧ ((enabledUsers cfg).map (·.name)).Nodup

def serverKeyOf (server : Server) : Option ServerKey :=
  if server.secure && server.privKey.isSome then some ⟨server.name, server.privKey⟩ else none

def Granted (grants : Grants) (cfg : Config) (server : Server) : Prop :=
  ((serverKeyOf server).isSome = true → grants.serverKey = true) ∧
    ∀ place < (enabledUsers cfg).length, grants.entry place = true

def Rebuilds (grants : Grants) (cfg : Config) (server : Server) : Prop :=
  WellNamed cfg ∧ Granted grants cfg server

instance (grants : Grants) (cfg : Config) (server : Server) :
    Decidable (Rebuilds grants cfg server) :=
  inferInstanceAs (Decidable (((∀ user ∈ enabledUsers cfg, user.name ≠ []) ∧
    ((enabledUsers cfg).map (·.name)).Nodup) ∧
    ((serverKeyOf server).isSome = true → grants.serverKey = true) ∧
      ∀ place < (enabledUsers cfg).length, grants.entry place = true))

def contextOf (server : Server) (users : List User) : CodecContext :=
  ⟨serverKeyOf server, server.secure, users.map keyEntry⟩

def rebuilt (grants : Grants) (cfg : Config) (server : Server) : CodecContext :=
  if (serverKeyOf server).isSome && !grants.serverKey then ⟨none, server.secure, []⟩
  else contextOf server (leadingUsers grants.entry [] (enabledUsers cfg))

theorem leadingUsers_eq_iff (granted : ℕ → Bool) (taken : List CString) (users : List User) :
    leadingUsers granted taken users = users ↔ (∀ user ∈ users, user.name ≠ []) ∧
      (∀ user ∈ users, user.name ∉ taken) ∧ (users.map (·.name)).Nodup ∧
      ∀ place < users.length, granted (taken.length + place) = true := by
  induction users generalizing taken with
  | nil => simp [leadingUsers]
  | cons user users ih =>
    rw [leadingUsers]
    by_cases refused : user.name = [] ∨ user.name ∈ taken ∨ granted taken.length = false
    · simp only [refused, if_true, List.forall_mem_cons]
      constructor
      · intro h
        simp at h
      · rintro ⟨⟨named, -⟩, ⟨fresh, -⟩, -, given⟩
        have here := given 0 (Nat.zero_lt_succ _)
        rw [Nat.add_zero] at here
        rcases refused with unnamed | known | kept
        · exact absurd unnamed named
        · exact absurd known fresh
        · rw [here] at kept
          cases kept
    · obtain ⟨named, fresh, here⟩ : user.name ≠ [] ∧ user.name ∉ taken ∧
          ¬ granted taken.length = false := by simpa only [not_or] using refused
      simp only [refused, if_false, List.cons.injEq, true_and, ih, List.map_cons,
        List.nodup_cons, List.mem_append, List.mem_singleton, List.forall_mem_cons]
      constructor
      · rintro ⟨names, later, distinct, given⟩
        refine ⟨⟨named, names⟩, ⟨fresh, fun u hu hn => later u hu (Or.inl hn)⟩,
          ⟨?_, distinct⟩, ?_⟩
        · intro again
          obtain ⟨u, hu, same⟩ := List.mem_map.mp again
          exact later u hu (Or.inr same)
        · rintro (- | place) inside
          · simpa using here
          · have next := given place (Nat.lt_of_succ_lt_succ inside)
            rwa [List.length_append, List.length_singleton, Nat.add_right_comm] at next
      · rintro ⟨⟨-, names⟩, ⟨-, later⟩, ⟨notAgain, distinct⟩, given⟩
        refine ⟨names, fun u hu hn => ?_, distinct, fun place inside => ?_⟩
        · rcases hn with hn | hn
          · exact later u hu hn
          · exact notAgain (List.mem_map.mpr ⟨u, hu, hn⟩)
        · rw [List.length_append, List.length_singleton, Nat.add_right_comm]
          exact given (place + 1) (Nat.succ_lt_succ inside)

theorem leadingUsers_named (granted : ℕ → Bool) (taken : List CString) (users : List User) :
    ∀ user ∈ leadingUsers granted taken users, user.name ≠ [] := by
  induction users generalizing taken with
  | nil => exact fun _ member => absurd member List.not_mem_nil
  | cons user users ih =>
    rw [leadingUsers]
    split
    · exact fun _ member => absurd member List.not_mem_nil
    · rename_i taken_not
      exact List.forall_mem_cons.mpr ⟨fun unnamed => taken_not (Or.inl unnamed), ih _⟩

theorem leadingUsers_whole_iff (granted : ℕ → Bool) (cfg : Config) :
    leadingUsers granted [] (enabledUsers cfg) = enabledUsers cfg ↔
      WellNamed cfg ∧ ∀ place < (enabledUsers cfg).length, granted place = true := by
  rw [leadingUsers_eq_iff]
  simp only [List.length_nil, Nat.zero_add]
  constructor
  · rintro ⟨named, -, distinct, given⟩
    exact ⟨⟨named, distinct⟩, given⟩
  · rintro ⟨⟨named, distinct⟩, given⟩
    exact ⟨named, fun _ _ => List.not_mem_nil, distinct, given⟩

theorem addUsers_eq (granted : ℕ → Bool) (users : List User) (context : CodecContext) :
    addUsers granted users context =
      (let enabled := users.filter (·.enabled)
       let leading := leadingUsers granted (context.keychain.map (·.name)) enabled
       (decide (leading = enabled),
        { context with keychain := context.keychain ++ leading.map keyEntry })) := by
  induction users generalizing context with
  | nil => simp [addUsers, leadingUsers]
  | cons user users ih =>
    rw [addUsers]
    cases on : user.enabled with
    | false => simp only [Bool.not_false, if_true, ih, List.filter_cons, on, Bool.false_eq_true,
        if_false]
    | true =>
      simp only [Bool.not_true, Bool.false_eq_true, if_false, List.filter_cons, on, if_true]
      rw [leadingUsers, List.length_map]
      by_cases unnamed : user.name = []
      · simp [addKeychain, keyEntry, unnamed]
      · by_cases known : user.name ∈ context.keychain.map (·.name)
        · have exists' := (nameExists_iff context user.name).mpr known
          simp [addKeychain, keyEntry, unnamed, exists', known]
        · have missing : nameExists context user.name = false := by
            rw [Bool.eq_false_iff]
            exact mt (nameExists_iff context user.name).mp known
          cases given : granted context.keychain.length with
          | false => simp [addKeychain, keyEntry, unnamed, missing]
          | true =>
            simp only [addKeychain, keyEntry, unnamed, missing, known, or_self, if_false,
              Bool.false_eq_true, Bool.not_true, Bool.true_eq_false]
            rw [ih]
            simp [keyEntry]

theorem clearKeychain_named (fuel : ℕ) (context : CodecContext)
    (named : ∀ entry ∈ context.keychain, entry.name ≠ [])
    (enough : context.keychain.length ≤ fuel) :
    clearKeychain fuel context = (true, { context with keychain := [] }) := by
  induction fuel generalizing context with
  | zero =>
    have empty : context.keychain = [] := List.length_eq_zero_iff.mp (by omega)
    obtain ⟨key, secure, keychain⟩ := context
    obtain rfl : keychain = [] := empty
    rfl
  | succ fuel ih =>
    obtain ⟨key, secure, keychain⟩ := context
    cases keychain with
    | nil => rfl
    | cons entry rest =>
      have first : entry.name ≠ [] := named entry List.mem_cons_self
      have removed : removeKeychain ⟨key, secure, entry :: rest⟩ entry.name =
          some ⟨key, secure, rest⟩ := by
        simp [removeKeychain, first, nameExists]
      rw [clearKeychain]
      dsimp only
      rw [removed]
      apply ih ⟨key, secure, rest⟩
      · exact fun e he => named e (List.mem_cons_of_mem entry he)
      · change rest.length ≤ fuel
        change rest.length + 1 ≤ fuel + 1 at enough
        omega

theorem serverKeyOf_isSome (server : Server) :
    (serverKeyOf server).isSome = (server.secure && server.privKey.isSome) := by
  unfold serverKeyOf
  split
  · rename_i keyed
    exact keyed.symm
  · rename_i unkeyed
    exact (Bool.eq_false_iff.mpr unkeyed).symm

theorem rebuilds_iff (grants : Grants) (cfg : Config) (server : Server) :
    Rebuilds grants cfg server ↔ ((serverKeyOf server).isSome && !grants.serverKey) = false ∧
      leadingUsers grants.entry [] (enabledUsers cfg) = enabledUsers cfg := by
  rw [Rebuilds, Granted, leadingUsers_whole_iff, and_left_comm]
  refine and_congr_left fun _ => ?_
  cases (serverKeyOf server).isSome <;> simp

/-- What a rebuild of the codec context does to any context with named entries. -/
theorem syncCodecContext_eq (grants : Grants) (cfg : Config) {server : Server}
    (context : CodecContext) (serverNamed : server.name ≠ [])
    (named : ∀ entry ∈ context.keychain, entry.name ≠ []) :
    syncCodecContext grants (some cfg) (some server) context =
      (decide (Rebuilds grants cfg server), rebuilt grants cfg server) := by
  have emptied : clearKeychain context.keychain.length ⟨none, server.secure, context.keychain⟩ =
      (true, ⟨none, server.secure, []⟩) :=
    clearKeychain_named _ ⟨none, server.secure, context.keychain⟩ named le_rfl
  have verdict := rebuilds_iff grants cfg server
  rw [serverKeyOf_isSome] at verdict
  unfold syncCodecContext clearServerKey rebuilt
  dsimp only
  rw [emptied, serverKeyOf_isSome]
  dsimp only
  cases keyed : server.secure && server.privKey.isSome with
  | false => simp [verdict, keyed, addUsers_eq, contextOf, serverKeyOf, enabledUsers]
  | true =>
    cases given : grants.serverKey with
    | false => simp [verdict, keyed, given, setServerKey, serverNamed]
    | true =>
      simp [verdict, keyed, given, setServerKey, serverNamed, addUsers_eq, contextOf, serverKeyOf,
        enabledUsers]

theorem rebuilt_named (grants : Grants) (cfg : Config) (server : Server) :
    ∀ entry ∈ (rebuilt grants cfg server).keychain, entry.name ≠ [] := by
  unfold rebuilt
  split
  · exact fun _ member => absurd member List.not_mem_nil
  · intro entry member
    obtain ⟨user, leading, rfl⟩ := List.mem_map.mp member
    exact leadingUsers_named _ _ _ user leading

theorem rebuilt_secure (grants : Grants) (cfg : Config) (server : Server) :
    (rebuilt grants cfg server).serverSecure = server.secure := by
  unfold rebuilt
  split <;> rfl

theorem rebuilt_whole {grants : Grants} {cfg : Config} {server : Server}
    (whole : Rebuilds grants cfg server) :
    rebuilt grants cfg server = contextOf server (enabledUsers cfg) := by
  obtain ⟨named, keyed, given⟩ := whole
  unfold rebuilt
  rw [(leadingUsers_whole_iff grants.entry cfg).mpr ⟨named, given⟩, if_neg]
  intro refused
  obtain ⟨has, missing⟩ := Bool.and_eq_true_iff.mp refused
  rw [keyed has] at missing
  cases missing

/-- A running daemon between two requests: the listener serves a server of the attached
configuration, and the session and the codec context were built from the two. -/
structure Synced (runtime : Runtime) (cfg : Config) (server : Server) : Prop where
  config : runtime.config = some cfg
  serving : runtime.listener.server = some server
  selected : serverByName (some cfg) server.name = some server
  named : server.name ≠ []
  name_fits : server.name.length < 64
  key_loaded : server.secure = true → server.privKey ≠ none
  sock_open : 0 ≤ runtime.listener.sock
  port_bound : 0 < runtime.listener.boundPort
  private_key : runtime.session.privateKey = if server.secure then server.privKey else none
  codec : ∃ grants,
    syncCodecContext grants (some cfg) (some server) create = (true, runtime.codecContext)

/-- A daemon between two requests after any failures: the listener still serves a server of the
attached configuration, and the entries of the codec context can be removed by their names. -/
structure Attached (runtime : Runtime) (cfg : Config) (server : Server) : Prop where
  config : runtime.config = some cfg
  serving : runtime.listener.server = some server
  selected : serverByName (some cfg) server.name = some server
  named : server.name ≠ []
  name_fits : server.name.length < 64
  key_loaded : server.secure = true → server.privKey ≠ none
  entries_named : ∀ entry ∈ runtime.codecContext.keychain, entry.name ≠ []

/-- The observable runtime is what it was before the call. -/
structure Restored (before after : Runtime) : Prop where
  config : after.config = before.config
  listener : after.listener = before.listener
  private_key : after.session.privateKey = before.session.privateKey
  codec : after.codecContext = before.codecContext

theorem Restored.refl (runtime : Runtime) : Restored runtime runtime := ⟨rfl, rfl, rfl, rfl⟩

/-- The candidate file passes every check that is made before the live runtime is touched. -/
structure Staged (outside : Outside) (runtime : Runtime) (configPath serverName : CString)
    (newCfg : Config) (selected : Server) : Prop where
  path : configPath ≠ []
  target : targetName runtime serverName ≠ []
  loads : outside.loadDetached configPath = some newCfg
  selects : serverByName (some newCfg) (targetName runtime serverName) = some selected
  enabled : selected.enabled = true
  openssl : outside.opensslReady = true
  key_loaded : selected.secure = true → selected.privKey ≠ none
  bindable : listenerBindingChanged runtime.listener selected = true →
    listenerSamePortIpChange runtime.listener selected = false ∧
    probeBind outside runtime.listener selected = true

def Rebinds (outside : Outside) (runtime : Runtime) (selected : Server) : Prop :=
  listenerBindingChanged runtime.listener selected = true →
    (openBoundSocket outside.rebind selected).isSome = true

/-- The candidate's server, if its key is copied, and the users in front of its first unusable
one give the codec context of the running configuration. -/
def SameCodec (grants : Grants) (cfg newCfg : Config) (server selected : Server) : Prop :=
  ((serverKeyOf selected).isSome = true → grants.serverKey = true) ∧
    serverKeyOf selected = serverKeyOf server ∧ selected.secure = server.secure ∧
    (leadingUsers grants.entry [] (enabledUsers newCfg)).map keyEntry =
      (enabledUsers cfg).map keyEntry

variable {outside : Outside} {runtime : Runtime} {configPath serverName : CString}
variable {cfg newCfg : Config} {server selected : Server}

theorem Synced.codec_eq (h : Synced runtime cfg server) :
    WellNamed cfg ∧ runtime.codecContext = contextOf server (enabledUsers cfg) := by
  obtain ⟨grants, built⟩ := h.codec
  rw [syncCodecContext_eq grants cfg create h.named fun _ he => absurd he List.not_mem_nil] at built
  obtain ⟨verdict, context⟩ := Prod.mk.inj built
  have whole := of_decide_eq_true verdict
  exact ⟨whole.1, context.symm.trans (rebuilt_whole whole)⟩

theorem Synced.entries_named (h : Synced runtime cfg server) :
    ∀ entry ∈ runtime.codecContext.keychain, entry.name ≠ [] := by
  obtain ⟨⟨named, -⟩, context⟩ := h.codec_eq
  rw [context]
  intro entry he
  obtain ⟨user, hu, rfl⟩ := List.mem_map.mp he
  exact named user hu

theorem Synced.attached (h : Synced runtime cfg server) : Attached runtime cfg server :=
  ⟨h.config, h.serving, h.selected, h.named, h.name_fits, h.key_loaded, h.entries_named⟩

theorem Attached.currentName_eq (h : Attached runtime cfg server) :
    currentName runtime = server.name := by
  have fits := h.name_fits
  rw [currentName, h.serving]
  exact List.take_of_length_le (by omega)

theorem Synced.sameBinding_eq (h : Synced runtime cfg server) (target : Server)
    (current : Option Server) :
    sameBinding { runtime.listener with server := current } target =
      !listenerBindingChanged runtime.listener target := by
  have sock := h.sock_open
  have port := h.port_bound
  unfold sameBinding listenerBindingChanged listenerBoundPort
  simp only [not_lt.mpr sock, port, if_true, if_false]
  cases hp : runtime.listener.boundPort == target.port <;>
    cases hi : runtime.listener.boundIp == target.bindIp <;> simp [bne, hp, hi]

theorem initSession_ready (session : OpenSSLSession)
    (loaded : selected.secure = true → selected.privKey ≠ none) :
    initSessionForServer true (some selected) session =
      (true,
        { session with privateKey := if selected.secure then selected.privKey else none }) := by
  unfold initSessionForServer
  cases secure : selected.secure with
  | false => simp [secure]
  | true =>
    cases key : selected.privKey with
    | none => exact absurd key (loaded secure)
    | some k => simp [secure, key]

def rolledBack (runtime : Runtime) (listener : Listener) (context : CodecContext) : Runtime where
  config := runtime.config
  listener := { listener with server := runtime.listener.server }
  session := ⟨none, runtime.session.privateKey, List.replicate 32 0, 0⟩
  codecContext := context

def serverSession (server : Server) : OpenSSLSession :=
  ⟨none, if server.secure then server.privKey else none, List.replicate 32 0, 0⟩

theorem rollback_eq (h : Attached runtime cfg server) (openssl : outside.opensslReady = true)
    (resync : Bool) (live : Runtime) :
    rollback outside (currentName runtime) runtime.config resync live =
      { rolledBack runtime live.listener live.codecContext with
        session := serverSession server } := by
  unfold rollback rolledBack
  simp only [h.currentName_eq, h.named, h.config, h.selected, openssl, ne_eq, not_false_eq_true,
    if_true]
  rw [initSession_ready _ h.key_loaded, h.serving]
  cases resync <;> rfl

theorem reload_staged (staged : Staged outside runtime configPath serverName newCfg selected) :
    reloadConfig outside runtime configPath serverName =
      applyConfig outside runtime newCfg (targetName runtime serverName) (currentName runtime)
        (listenerBindingChanged runtime.listener selected) := by
  unfold reloadConfig
  simp only [staged.path, staged.target, staged.loads, staged.selects, staged.enabled,
    staged.openssl, if_false, initSession_ready _ staged.key_loaded, Bool.not_true,
    Bool.false_eq_true]
  cases changed : listenerBindingChanged runtime.listener selected with
  | false => simp
  | true =>
    obtain ⟨noIpChange, probed⟩ := staged.bindable changed
    simp [noIpChange, probed]

/-- A candidate that fails an early check leaves the runtime alone. -/
theorem reload_not_staged
    (refused : ¬ ∃ newCfg selected, Staged outside runtime configPath serverName newCfg selected) :
    reloadConfig outside runtime configPath serverName = (false, runtime) := by
  unfold reloadConfig
  split
  · rfl
  · rename_i path
    split
    · rfl
    · rename_i target
      cases loads : outside.loadDetached configPath with
      | none => rfl
      | some newCfg =>
        dsimp only
        cases selects : serverByName (some newCfg) (targetName runtime serverName) with
        | none => rfl
        | some selected =>
          dsimp only
          split
          · rfl
          · rename_i enabled
            split
            · rfl
            · rename_i session
              split
              · rfl
              · rename_i ipChange
                split
                · rfl
                · rename_i probe
                  refine absurd ⟨newCfg, selected, path, target, loads, selects, ?_, ?_, ?_, ?_⟩
                    refused
                  · simpa using enabled
                  · unfold initSessionForServer at session
                    cases ready : outside.opensslReady with
                    | true => rfl
                    | false => simp [ready] at session
                  · intro secure missing
                    unfold initSessionForServer at session
                    cases ready : outside.opensslReady <;> simp [ready, secure, missing] at session
                  · intro changed
                    simp only [changed, Bool.true_and, Bool.not_eq_true] at ipChange
                    simp only [changed, Bool.true_and, Bool.not_eq_true, Bool.not_eq_false']
                      at probe
                    exact ⟨ipChange, probe⟩

def switched (newCfg : Config) (selected : Server) (listener : Listener)
    (context : CodecContext) : Runtime where
  config := some newCfg
  listener := { listener with server := some selected }
  session := ⟨none, if selected.secure then selected.privKey else none, List.replicate 32 0, 0⟩
  codecContext := context

/-- The listener that the codec stage finds, if the candidate's socket can be opened. -/
def rebound (outside : Outside) (runtime : Runtime) (selected : Server) : Option Listener :=
  if listenerBindingChanged runtime.listener selected then
    (openBoundSocket outside.rebind selected).map fun (sock, boundPort) =>
      { runtime.listener with
        sock := sock, boundPort := boundPort, boundIp := selected.bindIp.take 63 }
  else some runtime.listener

theorem rebound_isSome :
    (rebound outside runtime selected).isSome = true ↔ Rebinds outside runtime selected := by
  unfold rebound Rebinds
  cases listenerBindingChanged runtime.listener selected <;> simp

/-- The listener that the codec stage finds, whatever the listener was bound to before. -/
def moved (outside : Outside) (runtime : Runtime) (selected : Server) : Option Listener :=
  if listenerBindingChanged runtime.listener selected then
    rebindListener outside runtime.listener selected
  else some runtime.listener

theorem Synced.moved_eq (h : Synced runtime cfg server) (selected : Server) :
    moved outside runtime selected = rebound outside runtime selected := by
  unfold moved rebound rebindListener
  have bound := h.sameBinding_eq selected runtime.listener.server
  change sameBinding runtime.listener selected = _ at bound
  rw [bound]
  cases listenerBindingChanged runtime.listener selected <;> rfl

theorem rebindListener_server (outside : Outside) (listener : Listener) (current : Option Server)
    (target : Server) : rebindListener outside { listener with server := current } target =
      (rebindListener outside listener target).map fun l => { l with server := current } := by
  have same : sameBinding { listener with server := current } target =
    sameBinding listener target := rfl
  unfold rebindListener
  rw [same]
  cases sameBinding listener target with
  | true => rfl
  | false => simp [Option.map_map, Function.comp_def]

theorem moved_switched (runtime : Runtime) (selected : Server) :
    (if listenerBindingChanged runtime.listener selected then
      rebindListener outside { runtime.listener with server := some selected } selected
    else some { runtime.listener with server := some selected }) =
      (moved outside runtime selected).map fun l => { l with server := some selected } := by
  unfold moved
  rw [rebindListener_server]
  cases listenerBindingChanged runtime.listener selected <;> rfl

theorem applyConfig_eq (h : Attached runtime cfg server)
    (staged : Staged outside runtime configPath serverName newCfg selected) :
    applyConfig outside runtime newCfg (targetName runtime serverName) (currentName runtime)
        (listenerBindingChanged runtime.listener selected) =
      match moved outside runtime selected with
      | none => (false, { rolledBack runtime runtime.listener runtime.codecContext with
          session := serverSession server })
      | some listener =>
        let context := rebuilt outside.grants newCfg selected
        if Rebuilds outside.grants newCfg selected then
          (true, switched newCfg selected listener context)
        else (false, { rolledBack runtime listener context with
          session := serverSession server }) := by
  have selectedNamed : selected.name ≠ [] := by
    have := serverByName_name staged.selects
    rw [this]
    exact staged.target
  unfold applyConfig
  simp only [staged.selects, staged.openssl, initSession_ready _ staged.key_loaded,
    Option.bind_some, invalidateConfigBorrows, moved_switched, rollback_eq h staged.openssl,
    syncCodecContext_eq outside.grants newCfg runtime.codecContext selectedNamed h.entries_named]
  cases moved outside runtime selected with
  | none => rfl
  | some listener =>
    simp only [Option.map_some]
    by_cases whole : Rebuilds outside.grants newCfg selected
    · simp [whole, switched]
    · simp [whole, rolledBack]

theorem Synced.rolledBack_eq (h : Synced runtime cfg server) (listener : Listener)
    (context : CodecContext) :
    { rolledBack runtime listener context with session := serverSession server } =
      rolledBack runtime listener context := by
  unfold rolledBack serverSession
  rw [h.private_key]

theorem rolledBack_restored_iff (listener : Listener) (context : CodecContext) :
    Restored runtime (rolledBack runtime listener context) ↔
      { listener with server := runtime.listener.server } = runtime.listener ∧
        context = runtime.codecContext := by
  constructor
  · intro restored
    exact ⟨restored.listener, restored.codec⟩
  · rintro ⟨sameListener, sameContext⟩
    exact ⟨rfl, sameListener, rfl, sameContext⟩

theorem sameCodec_iff (h : Synced runtime cfg server) (grants : Grants) :
    rebuilt grants newCfg selected = runtime.codecContext ↔
      SameCodec grants cfg newCfg server selected := by
  rw [h.codec_eq.2, SameCodec]
  unfold rebuilt
  split
  · rename_i refused
    obtain ⟨has, missing⟩ := Bool.and_eq_true_iff.mp refused
    rw [Bool.not_eq_true'] at missing
    -- a server that has a key is secure, and the running one would then have its key in place
    rw [contextOf, CodecContext.mk.injEq, missing, has]
    constructor
    · rintro ⟨unkeyed, secure, -⟩
      have selectedSecure : selected.secure = true := by
        rw [serverKeyOf_isSome] at has
        exact (Bool.and_eq_true_iff.mp has).1
      have loaded := Option.isSome_iff_ne_none.mpr (h.key_loaded (secure ▸ selectedSecure))
      have there := serverKeyOf_isSome server
      rw [← unkeyed, ← secure, selectedSecure, loaded] at there
      cases there
    · rintro ⟨given, -⟩
      cases given rfl
  · rename_i given
    rw [contextOf, contextOf, CodecContext.mk.injEq]
    refine (and_iff_right fun has => ?_).symm
    rw [has] at given
    simpa using given

theorem rebound_listener_iff {listener : Listener}
    (fresh : ∀ ip port sock boundPort, outside.rebind ip port = some (sock, boundPort) →
      (sock : ℤ) ≠ runtime.listener.sock)
    (opened : rebound outside runtime selected = some listener) :
    { listener with server := runtime.listener.server } = runtime.listener ↔
      listenerBindingChanged runtime.listener selected = false := by
  unfold rebound at opened
  cases changed : listenerBindingChanged runtime.listener selected with
  | false =>
    simp only [changed, Bool.false_eq_true, if_false, Option.some.injEq] at opened
    subst opened
    exact ⟨fun _ => rfl, fun _ => rfl⟩
  | true =>
    simp only [changed, if_true, Option.map_eq_some_iff, openBoundSocket] at opened
    obtain ⟨bound, ⟨⟨sock, boundPort⟩, answered, rfl⟩, rfl⟩ := opened
    simp only [Bool.true_eq_false, iff_false]
    intro same
    exact fresh _ _ sock boundPort answered (congrArg Listener.sock same)

/-- A reload that returns 0 leaves the observable runtime as it was, unless it fails in the codec
stage: there the socket stays rebound, and the codec context is left as far as it was rebuilt. -/
theorem reload_atomic_iff (h : Synced runtime cfg server)
    (fresh : ∀ ip port sock boundPort, outside.rebind ip port = some (sock, boundPort) →
      (sock : ℤ) ≠ runtime.listener.sock) :
    ((reloadConfig outside runtime configPath serverName).1 = false →
      Restored runtime (reloadConfig outside runtime configPath serverName).2) ↔
    ∀ newCfg selected, Staged outside runtime configPath serverName newCfg selected →
      Rebinds outside runtime selected →
      Rebuilds outside.grants newCfg selected ∨
        listenerBindingChanged runtime.listener selected = false ∧
          SameCodec outside.grants cfg newCfg server selected := by
  by_cases accepted :
      ∃ newCfg selected, Staged outside runtime configPath serverName newCfg selected
  · obtain ⟨newCfg, selected, staged⟩ := accepted
    have only : (∀ other target, Staged outside runtime configPath serverName other target →
        Rebinds outside runtime target → Rebuilds outside.grants other target ∨
          listenerBindingChanged runtime.listener target = false ∧
            SameCodec outside.grants cfg other server target) ↔
        (Rebinds outside runtime selected → Rebuilds outside.grants newCfg selected ∨
          listenerBindingChanged runtime.listener selected = false ∧
            SameCodec outside.grants cfg newCfg server selected) := by
      constructor
      · exact fun all => all newCfg selected staged
      · intro one other target again
        obtain rfl := Option.some.inj (staged.loads.symm.trans again.loads)
        obtain rfl := Option.some.inj (staged.selects.symm.trans again.selects)
        exact one
    rw [only, reload_staged staged, applyConfig_eq h.attached staged, h.moved_eq, ← rebound_isSome,
      ← sameCodec_iff h outside.grants]
    simp only [h.rolledBack_eq]
    cases opened : rebound outside runtime selected with
    | none =>
      have kept := (@rolledBack_restored_iff runtime runtime.listener
        runtime.codecContext).mpr ⟨rfl, rfl⟩
      simp [kept]
    | some listener =>
      rw [← rebound_listener_iff fresh opened]
      by_cases whole : Rebuilds outside.grants newCfg selected
      · simp [whole]
      · simp [whole, rolledBack_restored_iff]
  · rw [reload_not_staged accepted]
    constructor
    · intro _ newCfg selected staged
      exact absurd ⟨newCfg, selected, staged⟩ accepted
    · exact fun _ _ => Restored.refl runtime

def reloadPath : CString := ascii ['c', 'o', 'n', 'f']

def alice (pubkey : EvpPkey) : User where
  id := 3
  name := ascii ['a', 'l', 'i', 'c', 'e']
  enabled := true
  actions := []
  allowedIps := []
  pubkey := some pubkey
  hmacKey := List.replicate 32 1

def frontServer (port : ℤ) (privKey : EvpPkey) : Server where
  name := ascii ['f', 'r', 'o', 'n', 't']
  enabled := true
  bindIp := []
  port := port
  allowedIps := []
  secure := true
  enforceWireDecode := false
  enforceWireAuth := false
  privKey := some privKey
  deaddrops := []
  actions := []

def runningConfig : Config := ⟨[alice 20], [], [frontServer 50000 10], []⟩

def running : Runtime where
  config := some runningConfig
  listener := ⟨5, 50000, [], some (frontServer 50000 10)⟩
  session := ⟨none, some 10, List.replicate 32 0, 0⟩
  codecContext := contextOf (frontServer 50000 10) [alice 20]

def movedConfig (users : List User) : Config := ⟨users, [], [frontServer 50001 11], []⟩

def movedOutside (users : List User) (rebind : Option (ℕ × UInt16)) : Outside where
  loadDetached _ := some (movedConfig users)
  opensslReady := true
  probe _ port := some (6, port)
  rebind _ _ := rebind
  grants := .all

theorem running_synced : Synced running runningConfig (frontServer 50000 10) where
  config := rfl
  serving := rfl
  selected := by decide
  named := by decide
  name_fits := by decide
  key_loaded := by decide
  sock_open := by decide
  port_bound := by decide
  private_key := rfl
  codec := ⟨.all, by decide +kernel⟩

/-- The port was free for the probe and is taken when the listener moves: all is as before. -/
theorem portTaken_restored :
    Restored running (reloadConfig (movedOutside [alice 21] none) running reloadPath []).2 := by
  have unchanged := @reload_atomic_iff (movedOutside [alice 21] none) running reloadPath []
    runningConfig (frontServer 50000 10) running_synced
    (fun _ _ _ _ answered => by simp [movedOutside] at answered)
  refine unchanged.mpr ?_ (by decide +kernel)
  intro newCfg selected staged _
  obtain rfl : movedConfig [alice 21] = newCfg := Option.some.inj staged.loads
  have chosen := Option.some.inj (staged.selects.symm.trans (by decide +kernel :
    _ = some (frontServer 50001 11)))
  rw [chosen]
  exact Or.inl (by decide +kernel)

/-- A file with two users of one name fails in the codec stage: the reload returns 0, but the
old socket is gone and the codec context is what the file's first user made of it. -/
theorem duplicateUser_not_restored :
    let outside := movedOutside [alice 21, alice 22] (some (6, 50001))
    let after := (reloadConfig outside running reloadPath []).2
    Synced running runningConfig (frontServer 50000 10) ∧
    (reloadConfig outside running reloadPath []).1 = false ∧
    after.config = running.config ∧
    after.listener.sock = 6 ∧ after.listener.boundPort = 50001 ∧
    after.codecContext = contextOf (frontServer 50001 11) [alice 21] ∧
    ¬ Restored running after := by
  refine ⟨running_synced, by decide +kernel, by decide +kernel, by decide +kernel,
    by decide +kernel, by decide +kernel, ?_⟩
  intro restored
  have sock := congrArg Listener.sock restored.listener
  revert sock
  decide +kernel

end Siglatch.AppRuntimeReload
