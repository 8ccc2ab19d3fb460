import Siglatch.DaemonPolicy

set_option autoImplicit false

namespace Siglatch.DaemonBinding
open MuxTypes AppConfig DaemonTypes AppRuntime AppRuntimeReload AppBuiltin NetIpRange LibStr
open DaemonLoop DaemonPolicy StepRuns

inductive Call where
  | rebind (around : Surroundings) (job : Job)
  | reload (outside : Outside) (configPath serverName : CString)

def Call.outside : Call → Outside
  | .rebind around _ => around.toOutside
  | .reload outside _ _ => outside

def Call.perform (runtime : Runtime) : Call → Bool × Runtime
  | .rebind around job =>
    let handled := rebindListenerHandle around runtime job
    (handled.1, handled.2.2)
  | .reload outside configPath serverName => reloadConfig outside runtime configPath serverName

abbrev Address := CString × ℤ

structure BindingOp where
  call : Call
  bound : ℤ → Option Address

structure Bound where
  runtime : Runtime
  address : Option Address

/-- The socket keeps its address while it is kept. -/
def settle (state : Bound) (bound : ℤ → Option Address) (after : Runtime) : Bound where
  runtime := after
  address := if after.listener.sock = state.runtime.listener.sock then state.address
    else bound after.listener.sock

def bindingStep (state : Bound) (op : BindingOp) : Bound × List Bool :=
  let outcome := op.call.perform state.runtime
  (settle state op.bound outcome.2, [outcome.1])

def portWord (port : ℤ) : UInt16 := UInt16.ofNat (port % 65536).toNat

/-- How the kernel binds a socket: at an address that `inet_pton` takes or at none, under the port
that it is asked for or, for 0, one of its own, and not at all if it is asked for neither. -/
structure Binds (bound : ℤ → Option Address) (ip : CString) (port : UInt16) (sock : ℕ)
    (boundPort : UInt16) : Prop where
  literal : ip = [] ∨ (parseIpv4Literal ip).isSome = true
  requested : port ≠ 0 → boundPort = port
  unnamed : ip = [] → port = 0 → boundPort = 0 ∧ bound sock = none
  named : ip ≠ [] ∨ port ≠ 0 → boundPort ≠ 0 ∧ bound sock = some (ip, (boundPort.toNat : ℤ))

def Kernel (outside : Outside) (bound : ℤ → Option Address) (target : Server) : Prop :=
  ∀ sock boundPort, outside.rebind target.bindIp (portWord target.port) = some (sock, boundPort) →
    Binds bound target.bindIp (portWord target.port) sock boundPort

/-- The socket that is open has a number that no other socket gets. -/
def Fresh (outside : Outside) (listener : Listener) (target : Server) : Prop :=
  ∀ sock boundPort, outside.rebind target.bindIp (portWord target.port) = some (sock, boundPort) →
    (sock : ℤ) ≠ listener.sock

def Asks (runtime : Runtime) : Call → Server → Prop
  | .rebind around job, target => ∃ server parsed, runtime.listener.server = some server ∧
      parseBindTarget around.isIpv6 job.request.payload = some parsed ∧
      target = bindTarget server parsed
  | .reload outside configPath serverName, target => ∃ newCfg,
      Staged outside runtime configPath serverName newCfg target

/-- After a success the listener has the binding of its server in the configuration, and the
socket has it too; a failure changes nothing of the three. -/
structure Coherent (before : Bound) (ok : Bool) (after : Bound) : Prop where
  success : ok = true → ∃ server, after.runtime.listener.server = some server ∧
    serverByName after.runtime.config server.name = some server ∧
    after.runtime.listener.boundIp = server.bindIp ∧
    after.runtime.listener.boundPort = server.port ∧
    after.address = some (server.bindIp, server.port)
  failure : ok = false → after.runtime.config = before.runtime.config ∧
    after.runtime.listener = before.runtime.listener ∧ after.address = before.address

def InRange (port : ℤ) : Prop := 0 < port ∧ port ≤ 65535

/-- A file that gets past the checks and whose socket can be opened states a port, and if the codec
context cannot be rebuilt for it, it leaves the binding alone. A request that opens a socket asks
for a port. -/
def Sober (runtime : Runtime) : Call → Prop
  | .rebind around job => ∀ server listener parsed,
      Rebinding around runtime job server listener parsed → InRange (bindTarget server parsed).port
  | .reload outside configPath serverName => ∀ newCfg selected listener,
      Staged outside runtime configPath serverName newCfg selected →
      moved outside runtime selected = some listener →
      (Rebuilds outside.grants newCfg selected → InRange selected.port) ∧
      (¬ Rebuilds outside.grants newCfg selected →
        listenerBindingChanged runtime.listener selected = false)

/-- What the listener records of its socket is true if it states a port, and otherwise what its
server says. -/
structure Anchored (state : Bound) (cfg : Config) (server : Server) : Prop where
  attached : Attached state.runtime cfg server
  recorded : InRange state.runtime.listener.boundPort → state.address =
    some (state.runtime.listener.boundIp, state.runtime.listener.boundPort)
  unrecorded : state.runtime.listener.boundPort ≤ 0 →
    server.port = state.runtime.listener.boundPort
  ports : ∀ address ∈ state.address, InRange address.2
  fits : state.runtime.listener.boundIp.length < 64

section Opened

variable {outside : Outside} {bound : ℤ → Option Address} {listener after : Listener}
  {target : Server}

theorem portWord_toNat {port : ℤ} (range : InRange port) : ((portWord port).toNat : ℤ) = port := by
  obtain ⟨positive, small⟩ := range
  unfold portWord
  rw [UInt16.toNat_ofNat', Int.emod_eq_of_lt (by omega) (by omega),
    Nat.mod_eq_of_lt (by omega)]
  omega

structure Opened (bound : ℤ → Option Address) (target : Server) (sock boundPort : ℤ) : Prop where
  address : InRange boundPort → bound sock = some (target.bindIp, boundPort)
  port : InRange target.port → boundPort = target.port
  unnamed : boundPort ≤ 0 → target.port = boundPort
  ports : ∀ address ∈ bound sock, InRange address.2
  literal : target.bindIp = [] ∨ (parseIpv4Literal target.bindIp).isSome = true

theorem openBoundSocket_opened {sock boundPort : ℤ} (kernel : Kernel outside bound target)
    (opened : openBoundSocket outside.rebind target = some (sock, boundPort)) :
    Opened bound target sock boundPort := by
  unfold openBoundSocket at opened
  obtain ⟨⟨fd, port⟩, answered, same⟩ := Option.map_eq_some_iff.mp opened
  obtain ⟨rfl, rfl⟩ := Prod.mk.inj same
  obtain ⟨literal, requested, unnamed, named⟩ := kernel fd port answered
  have word (range : InRange target.port) : 0 < port ∧ (port.toNat : ℤ) = target.port := by
    have value := portWord_toNat range
    have nonzero : portWord target.port ≠ 0 := by
      intro zero
      rw [zero] at value
      exact absurd value (ne_of_lt range.1)
    rw [requested nonzero]
    exact ⟨UInt16.pos_iff_ne_zero.mpr nonzero, value⟩
  have bare (neither : ¬ (target.bindIp ≠ [] ∨ portWord target.port ≠ 0)) :
      port = 0 ∧ bound fd = none := by
    obtain ⟨noIp, noPort⟩ := not_or.mp neither
    exact unnamed (not_not.mp noIp) (not_not.mp noPort)
  refine ⟨?_, ?_, ?_, ?_, literal⟩
  · intro range
    split at range
    · rename_i told
      rw [if_pos told]
      refine (named ?_).2
      by_contra neither
      rw [(bare neither).1] at told
      exact absurd told (lt_irrefl 0)
    · rename_i untold
      exact absurd (word range).1 untold
  · intro range
    obtain ⟨told, value⟩ := word range
    rw [if_pos told]
    exact value
  · intro low
    split at low
    · rename_i told
      rw [UInt16.lt_iff_toNat_lt] at told
      change 0 < port.toNat at told
      omega
    · rename_i untold
      rw [if_neg untold]
  · intro address known
    by_cases asked : target.bindIp ≠ [] ∨ portWord target.port ≠ 0
    · obtain ⟨nonzero, at'⟩ := named asked
      rw [at'] at known
      obtain rfl := Option.some.inj known
      have small := port.toNat_lt
      rw [ne_eq, ← UInt16.toNat_inj] at nonzero
      change ¬ port.toNat = 0 at nonzero
      unfold InRange
      dsimp only
      omega
    · rw [(bare asked).2] at known
      cases known

structure Moves (bound : ℤ → Option Address) (listener after : Listener) (target : Server) :
    Prop where
  ip : after.boundIp = target.bindIp
  port : after.boundPort = target.port
  sock : after.sock ≠ listener.sock
  address : bound after.sock = some (target.bindIp, target.port)
  short : target.bindIp.length < 64
  single : target.bindIp = [] ∨ isSingleIpv4 target.bindIp = true

theorem rebindListener_opened (kernel : Kernel outside bound target)
    (fresh : Fresh outside listener target) (elsewhere : sameBinding listener target = false)
    (opened : rebindListener outside listener target = some after) :
    Opened bound target after.sock after.boundPort ∧ after.sock ≠ listener.sock ∧
      after.boundIp = target.bindIp := by
  unfold rebindListener at opened
  rw [elsewhere, if_neg Bool.false_ne_true] at opened
  obtain ⟨⟨sock, boundPort⟩, socket, rfl⟩ := Option.map_eq_some_iff.mp opened
  have told := openBoundSocket_opened kernel socket
  refine ⟨told, ?_, ?_⟩
  · unfold openBoundSocket at socket
    obtain ⟨⟨fd, word⟩, answered, numbers⟩ := Option.map_eq_some_iff.mp socket
    dsimp only
    rw [← (Prod.mk.inj numbers).1]
    exact fresh fd word answered
  · apply List.take_of_length_le
    rcases told.literal with none | literal
    · rw [none]
      exact Nat.zero_le _
    · exact (parseIpv4Literal_single literal).1.trans (by decide)

theorem rebindListener_moves (kernel : Kernel outside bound target)
    (fresh : Fresh outside listener target) (range : InRange target.port)
    (elsewhere : sameBinding listener target = false)
    (opened : rebindListener outside listener target = some after) :
    Moves bound listener after target := by
  obtain ⟨told, other, ip⟩ := rebindListener_opened kernel fresh elsewhere opened
  have port := told.port range
  have address := told.address
  rw [port] at address
  have plain : target.bindIp.length < 64 ∧
      (target.bindIp = [] ∨ isSingleIpv4 target.bindIp = true) := by
    rcases told.literal with none | literal
    · rw [none]
      exact ⟨by decide, .inl rfl⟩
    · obtain ⟨short, single⟩ := parseIpv4Literal_single literal
      exact ⟨by omega, .inr single⟩
  exact ⟨ip, port, other, address range, plain.1, plain.2⟩

end Opened

section Settled

variable {state : Bound} {cfg : Config} {server : Server} {bound : ℤ → Option Address}

theorem settle_kept {after : Runtime} (same : after.listener.sock = state.runtime.listener.sock) :
    (settle state bound after).address = state.address := if_pos same

theorem settle_moved {after : Runtime} (other : after.listener.sock ≠ state.runtime.listener.sock) :
    (settle state bound after).address = bound after.listener.sock := if_neg other

theorem Anchored.boundPort_eq (h : Anchored state cfg server) :
    listenerBoundPort state.runtime.listener = state.runtime.listener.boundPort := by
  unfold listenerBoundPort
  split
  · rfl
  · rename_i low
    rw [h.attached.serving]
    exact h.unrecorded (Int.not_lt.mp low)

theorem Anchored.sameBinding_false (h : Anchored state cfg server) {target : Server}
    (elsewhere : ¬ (listenerBoundPort state.runtime.listener = target.port ∧
      state.runtime.listener.boundIp = target.bindIp)) :
    sameBinding state.runtime.listener target = false := by
  rw [h.boundPort_eq] at elsewhere
  unfold sameBinding
  split
  · rfl
  · rw [Bool.and_eq_false_iff]
    by_cases port : state.runtime.listener.boundPort = target.port
    · exact .inr (beq_eq_false_iff_ne.mpr fun ip => elsewhere ⟨port, ip⟩)
    · exact .inl (beq_eq_false_iff_ne.mpr port)

theorem changed_elsewhere {listener : Listener} {target : Server}
    (changed : listenerBindingChanged listener target = true) :
    ¬ (listenerBoundPort listener = target.port ∧ listener.boundIp = target.bindIp) := by
  rintro ⟨port, ip⟩
  unfold listenerBindingChanged at changed
  simp [port, ip] at changed

theorem failure_coherent (h : Anchored state cfg server) {after : Runtime}
    (config : after.config = state.runtime.config)
    (listener : after.listener = state.runtime.listener) (attached : Attached after cfg server) :
    Coherent state false (settle state bound after) ∧
      Anchored (settle state bound after) cfg server := by
  have address := @settle_kept state bound after (congrArg Listener.sock listener)
  have kept : (settle state bound after).runtime.listener = state.runtime.listener := listener
  refine ⟨⟨?_, fun _ => ⟨config, listener, address⟩⟩, attached, ?_, ?_, ?_, ?_⟩
  · intro never
    cases never
  · rw [address, kept]
    exact h.recorded
  · rw [kept]
    exact h.unrecorded
  · rw [address]
    exact h.ports
  · rw [kept]
    exact h.fits

theorem success_coherent {after : Runtime} (attached : Attached after cfg server)
    (ip : after.listener.boundIp = server.bindIp) (port : after.listener.boundPort = server.port)
    (address : (settle state bound after).address = some (server.bindIp, server.port))
    (range : InRange server.port) (short : server.bindIp.length < 64) :
    Coherent state true (settle state bound after) ∧
      Anchored (settle state bound after) cfg server := by
  refine ⟨⟨?_, ?_⟩, attached, ?_, fun _ => port.symm, ?_, ?_⟩
  · intro _
    refine ⟨server, attached.serving, ?_, ip, port, address⟩
    change serverByName after.config server.name = some server
    rw [attached.config]
    exact attached.selected
  · intro never
    cases never
  · intro _
    rw [address, ← ip, ← port]
    rfl
  · rw [address]
    intro other same
    obtain rfl := Option.some.inj same
    exact range
  · change after.listener.boundIp.length < 64
    rw [ip]
    exact short

end Settled

section Steps

variable {state : Bound} {cfg : Config} {server : Server} {bound : ℤ → Option Address}

def Sound (state : Bound) (ok : Bool) (next : Bound) : Prop :=
  Coherent state ok next ∧ ∃ cfg server, Anchored next cfg server

theorem failure_sound (h : Anchored state cfg server) {after : Runtime}
    (config : after.config = state.runtime.config)
    (listener : after.listener = state.runtime.listener) (attached : Attached after cfg server) :
    Sound state false (settle state bound after) := by
  obtain ⟨coherent, anchored⟩ := @failure_coherent state cfg server bound h after config listener
    attached
  exact ⟨coherent, cfg, server, anchored⟩

theorem targetName_fits {runtime : Runtime} (h : Attached runtime cfg server)
    (serverName : CString) :
    (targetName runtime serverName).length < 64 := by
  unfold targetName
  split
  · rw [List.length_take]
    omega
  · rw [h.currentName_eq]
    exact h.name_fits

theorem reload_sound (h : Anchored state cfg server) {outside : Outside}
    {configPath serverName : CString}
    (kernel : ∀ target, Asks state.runtime (.reload outside configPath serverName) target →
      Kernel outside bound target ∧ Fresh outside state.runtime.listener target)
    (sober : Sober state.runtime (.reload outside configPath serverName)) :
    let outcome := reloadConfig outside state.runtime configPath serverName
    Sound state outcome.1 (settle state bound outcome.2) := by
  dsimp only
  by_cases accepted : ∃ newCfg selected,
      Staged outside state.runtime configPath serverName newCfg selected
  · obtain ⟨newCfg, selected, staged⟩ := accepted
    rw [reload_staged staged, applyConfig_eq h.attached staged]
    cases opened : moved outside state.runtime selected with
    | none =>
      exact failure_sound h rfl rfl (attached_rolledBack h.attached _ h.attached.entries_named _)
    | some listener =>
      obtain ⟨takes, fails⟩ := sober newCfg selected listener staged opened
      have kept (same : listenerBindingChanged state.runtime.listener selected = false) :
          listener = state.runtime.listener := by
        unfold moved at opened
        rw [same, if_neg Bool.false_ne_true] at opened
        exact (Option.some.inj opened).symm
      dsimp only
      split
      · rename_i whole
        have range := takes whole
        have attached := attached_switched listener staged (targetName_fits h.attached serverName)
        cases changed : listenerBindingChanged state.runtime.listener selected with
        | false =>
          obtain rfl := kept changed
          unfold listenerBindingChanged at changed
          rw [h.boundPort_eq, Bool.or_eq_false_iff, bne_eq_false_iff_eq, bne_eq_false_iff_eq]
            at changed
          obtain ⟨port, ip⟩ := changed
          have recorded := h.recorded (by rw [port]; exact range)
          rw [ip, port] at recorded
          have short := h.fits
          rw [ip] at short
          obtain ⟨coherent, anchored⟩ := @success_coherent state newCfg selected bound _ attached
            ip port ((settle_kept rfl).trans recorded) range short
          exact ⟨coherent, newCfg, selected, anchored⟩
        | true =>
          unfold moved at opened
          rw [changed, if_pos rfl] at opened
          obtain ⟨binds, fresh⟩ := kernel selected ⟨newCfg, staged⟩
          have moves := rebindListener_moves binds fresh range
            (h.sameBinding_false (changed_elsewhere changed)) opened
          obtain ⟨coherent, anchored⟩ := @success_coherent state newCfg selected bound _ attached
            moves.ip moves.port ((settle_moved moves.sock).trans moves.address) range moves.short
          exact ⟨coherent, newCfg, selected, anchored⟩
      · rename_i partly
        have same := kept (fails partly)
        refine failure_sound h rfl ?_ (attached_rolledBack h.attached _ (rebuilt_named _ _ _) _)
        rw [same]
        rfl
  · rw [reload_not_staged accepted]
    exact failure_sound h rfl rfl h.attached

theorem serverSetBinding_range {config : Option Config} {after : Config} {name bindIp : CString}
    {port : ℤ} (written : serverSetBinding config name bindIp port = some after) :
    InRange port := by
  unfold serverSetBinding at written
  split at written
  · cases written
  · rename_i range
    unfold InRange
    omega

theorem serverSetBinding_isSome {runtime : Runtime} (h : Attached runtime cfg server)
    {bindIp : CString} {port : ℤ} (range : InRange port)
    (single : bindIp = [] ∨ isSingleIpv4 bindIp = true) :
    ∃ after, serverSetBinding runtime.config server.name bindIp port = some after := by
  unfold serverSetBinding serverSet
  rw [if_neg (by unfold InRange at range; omega), if_neg, h.config]
  · dsimp only
    rw [if_neg]
    · exact ⟨_, rfl⟩
    · rw [h.selected]
      exact fun unusable => unusable.elim h.named (by simp)
  · rintro ⟨stated, other⟩
    rcases single with none | single
    · exact stated none
    · rw [single] at other
      cases other

theorem synced_sound {runtime : Runtime} (h : Attached runtime cfg server) {after : Config}
    {bindIp : CString} {port : ℤ}
    (written : serverSetBinding runtime.config server.name bindIp port = some after)
    (ip : runtime.listener.boundIp = bindIp) (bounds : runtime.listener.boundPort = port)
    (short : bindIp.length < 64)
    (address : (settle state bound (attachServer runtime after server.name)).address =
      some (bindIp, port)) :
    Sound state true (settle state bound (attachServer runtime after server.name)) := by
  have cut : lcpy bindIp MAX_IP_RANGE_LEN = bindIp := by
    have size : MAX_IP_RANGE_LEN - 1 = 63 := rfl
    exact List.take_of_length_le (by rw [size]; omega)
  have set := serverSetBinding_some written
  rw [cut] at set
  have attached := attached_write h set (fun _ => rfl) (fun _ => rfl) fun _ => rfl
  obtain ⟨coherent, anchored⟩ := @success_coherent state after
    { server with port := port, bindIp := bindIp } bound _ attached ip bounds address
    (serverSetBinding_range written) short
  exact ⟨coherent, after, _, anchored⟩

theorem rebind_sound (h : Anchored state cfg server) {around : Surroundings} {job : Job}
    (kernel : ∀ target, Asks state.runtime (.rebind around job) target →
      Kernel around.toOutside bound target ∧
        Fresh around.toOutside state.runtime.listener target)
    (sober : Sober state.runtime (.rebind around job)) :
    let handled := rebindListenerHandle around state.runtime job
    Sound state handled.1 (settle state bound handled.2.2) := by
  dsimp only
  have untouched : Sound state false (settle state bound state.runtime) :=
    failure_sound h rfl rfl h.attached
  unfold rebindListenerHandle
  rw [h.attached.serving]
  dsimp only
  cases parses : parseBindTarget around.isIpv6 job.request.payload with
  | none => exact untouched
  | some parsed =>
    dsimp only
    split
    · exact untouched
    rename_i supported
    split
    · rename_i same
      obtain ⟨port, ip⟩ := same
      rw [h.boundPort_eq] at port ⊢
      unfold syncBinding
      rw [if_neg h.attached.named]
      cases written : serverSetBinding state.runtime.config server.name
          (bindTarget server parsed).bindIp state.runtime.listener.boundPort with
      | none => exact untouched
      | some after =>
        have recorded := h.recorded (serverSetBinding_range written)
        have short := h.fits
        rw [ip] at recorded short
        exact synced_sound h.attached written ip rfl short ((settle_kept rfl).trans recorded)
    rename_i elsewhere
    cases opened : rebindListener around.toOutside state.runtime.listener
        (bindTarget server parsed) with
    | none => exact untouched
    | some listener =>
      have range := sober server listener parsed
        ⟨h.attached.serving, parses, supported, elsewhere, opened⟩
      obtain ⟨binds, fresh⟩ := kernel _ ⟨server, parsed, h.attached.serving, parses, rfl⟩
      have moves := rebindListener_moves binds fresh range (h.sameBinding_false elsewhere) opened
      have attached : Attached { state.runtime with listener := listener } cfg server :=
        ⟨h.attached.config, (rebindListener_server_kept opened).trans h.attached.serving,
          h.attached.selected, h.attached.named, h.attached.name_fits, h.attached.key_loaded,
          h.attached.entries_named⟩
      obtain ⟨after, written⟩ := serverSetBinding_isSome attached range moves.single
      dsimp only
      unfold syncBinding
      rw [if_neg h.attached.named, written]
      exact synced_sound attached written moves.ip moves.port moves.short
        ((settle_moved moves.sock).trans moves.address)

theorem reload_sober (h : Anchored state cfg server) {outside : Outside}
    {configPath serverName : CString}
    (kernel : ∀ target, Asks state.runtime (.reload outside configPath serverName) target →
      Kernel outside bound target ∧ Fresh outside state.runtime.listener target)
    (coherent : let outcome := reloadConfig outside state.runtime configPath serverName
      Coherent state outcome.1 (settle state bound outcome.2)) :
    Sober state.runtime (.reload outside configPath serverName) := by
  intro newCfg selected listener staged opened
  dsimp only at coherent
  rw [reload_staged staged, applyConfig_eq h.attached staged, opened] at coherent
  dsimp only at coherent
  have moves (changed : listenerBindingChanged state.runtime.listener selected = true) :
      Opened bound selected listener.sock listener.boundPort ∧
        listener.sock ≠ state.runtime.listener.sock := by
    unfold moved at opened
    rw [changed, if_pos rfl] at opened
    obtain ⟨binds, fresh⟩ := kernel selected ⟨newCfg, staged⟩
    obtain ⟨told, other, -⟩ := rebindListener_opened binds fresh
      (h.sameBinding_false (changed_elsewhere changed)) opened
    exact ⟨told, other⟩
  constructor
  · intro whole
    rw [if_pos whole] at coherent
    obtain ⟨active, serving, -, -, -, address⟩ := coherent.success rfl
    obtain rfl : selected = active := Option.some.inj serving
    cases changed : listenerBindingChanged state.runtime.listener selected with
    | false =>
      unfold moved at opened
      rw [changed, if_neg Bool.false_ne_true] at opened
      obtain rfl := Option.some.inj opened
      exact h.ports _ ((settle_kept rfl).symm.trans address)
    | true =>
      obtain ⟨told, other⟩ := moves changed
      exact told.ports _ ((settle_moved other).symm.trans address)
  · intro partly
    rw [if_neg partly] at coherent
    obtain ⟨-, kept, -⟩ := coherent.failure rfl
    rw [Bool.eq_false_iff]
    intro changed
    have sock := congrArg Listener.sock kept
    exact (moves changed).2 sock

theorem rebind_sober (h : Anchored state cfg server) {around : Surroundings} {job : Job}
    (kernel : ∀ target, Asks state.runtime (.rebind around job) target →
      Kernel around.toOutside bound target ∧
        Fresh around.toOutside state.runtime.listener target)
    (coherent : let handled := rebindListenerHandle around state.runtime job
      Coherent state handled.1 (settle state bound handled.2.2)) :
    Sober state.runtime (.rebind around job) := by
  intro active listener parsed rebinding
  obtain rfl : server = active :=
    Option.some.inj (h.attached.serving.symm.trans rebinding.serving)
  obtain ⟨binds, fresh⟩ := kernel _ ⟨server, parsed, rebinding.serving, rebinding.parses, rfl⟩
  obtain ⟨-, other, -⟩ := rebindListener_opened binds fresh
    (h.sameBinding_false rebinding.elsewhere) rebinding.opened
  unfold rebindListenerHandle at coherent
  rw [h.attached.serving] at coherent
  dsimp only at coherent
  rw [rebinding.parses] at coherent
  dsimp only at coherent
  rw [if_neg rebinding.supported, if_neg rebinding.elsewhere, rebinding.opened] at coherent
  dsimp only at coherent
  unfold syncBinding at coherent
  rw [if_neg h.attached.named] at coherent
  cases written : serverSetBinding state.runtime.config server.name
      (bindTarget server parsed).bindIp (bindTarget server parsed).port with
  | none =>
    rw [written] at coherent
    obtain ⟨-, kept, -⟩ := coherent.failure rfl
    exact absurd (congrArg Listener.sock kept) other
  | some after => exact serverSetBinding_range written

theorem step_sound (h : Anchored state cfg server) {op : BindingOp}
    (kernel : ∀ target, Asks state.runtime op.call target →
      Kernel op.call.outside op.bound target ∧
        Fresh op.call.outside state.runtime.listener target)
    (sober : Sober state.runtime op.call) :
    Sound state (op.call.perform state.runtime).1 (bindingStep state op).1 := by
  obtain ⟨call, bound⟩ := op
  cases call with
  | rebind around job => exact rebind_sound h kernel sober
  | reload outside configPath serverName => exact reload_sound h kernel sober

theorem step_sober (h : Anchored state cfg server) {op : BindingOp}
    (kernel : ∀ target, Asks state.runtime op.call target →
      Kernel op.call.outside op.bound target ∧
        Fresh op.call.outside state.runtime.listener target)
    (coherent : Coherent state (op.call.perform state.runtime).1 (bindingStep state op).1) :
    Sober state.runtime op.call := by
  obtain ⟨call, bound⟩ := op
  cases call with
  | rebind around job => exact rebind_sober h kernel coherent
  | reload outside configPath serverName => exact reload_sober h kernel coherent

end Steps

section Runs

variable {outside : Outside} {config : Config} {name : ServerName} {loop : Loop}
  {bound : ℤ → Option Address}

def atStart (loop : Loop) (bound : ℤ → Option Address) : Bound :=
  ⟨loop.runtime, bound loop.runtime.listener.sock⟩

theorem startup_opened (started : startup outside config name = some loop) :
    ∃ server, loop.runtime.listener.server = some server ∧
      serverByName (some config) name.text = some server ∧
      openBoundSocket outside.rebind server =
        some (loop.runtime.listener.sock, loop.runtime.listener.boundPort) ∧
      loop.runtime.listener.boundIp = server.bindIp.take 63 := by
  unfold startup at started
  split at started
  · cases started
  rename_i server found
  split at started
  · cases started
  split at started
  · cases started
  split at started
  · cases started
  rename_i sock boundPort opened
  unfold start at started
  split at started
  · cases started
  · obtain ⟨mux, connected, rfl⟩ := Option.map_eq_some_iff.mp started
    exact ⟨server, rfl, found, opened, rfl⟩

theorem startup_anchored (started : startup outside config name = some loop)
    (kernel : ∀ server, serverByName (some config) name.text = some server →
      Kernel outside bound server) : ∃ cfg server, Anchored (atStart loop bound) cfg server := by
  obtain ⟨cfg, server, standing⟩ := startup_stands started
  obtain ⟨active, serving, found, opened, ip⟩ := startup_opened started
  obtain rfl : active = server :=
    Option.some.inj (serving.symm.trans standing.attached.serving)
  obtain ⟨address, -, unnamed, ports, literal⟩ :=
    openBoundSocket_opened (kernel active found) opened
  have short : active.bindIp.length ≤ 63 := by
    rcases literal with none | literal
    · rw [none]
      exact Nat.zero_le _
    · exact (parseIpv4Literal_single literal).1.trans (by decide)
  rw [List.take_of_length_le short] at ip
  refine ⟨cfg, active, standing.attached, ?_, unnamed, ports, ?_⟩
  · change InRange loop.runtime.listener.boundPort → _ = some (loop.runtime.listener.boundIp, _)
    rw [ip]
    exact address
  · change loop.runtime.listener.boundIp.length < 64
    rw [ip]
    omega

/-- In a run from a started listener the binding is coherent after each call just when every call is
sober where it is made. -/
theorem binding_coherent_iff (started : startup outside config name = some loop)
    (kernel : ∀ server, serverByName (some config) name.text = some server →
      Kernel outside bound server)
    (ops : List BindingOp)
    (kernels : ∀ p ∈ steps bindingStep (atStart loop bound) ops, ∀ target,
      Asks p.1.runtime p.2.call target → Kernel p.2.call.outside p.2.bound target ∧
        Fresh p.2.call.outside p.1.runtime.listener target) :
    (∀ p ∈ steps bindingStep (atStart loop bound) ops, ∀ ok ∈ (bindingStep p.1 p.2).2,
      Coherent p.1 ok (bindingStep p.1 p.2).1) ↔
    ∀ p ∈ steps bindingStep (atStart loop bound) ops, Sober p.1.runtime p.2.call := by
  apply @steps_iff _ _ _ bindingStep (fun state => ∃ cfg server, Anchored state cfg server)
    (fun state op => ∀ target, Asks state.runtime op.call target →
      Kernel op.call.outside op.bound target ∧ Fresh op.call.outside state.runtime.listener target)
    (fun state op => Sober state.runtime op.call)
    (fun state op => ∀ ok ∈ (bindingStep state op).2, Coherent state ok (bindingStep state op).1)
    ?_ (atStart loop bound) (startup_anchored started kernel) ops kernels
  rintro state op kernel ⟨cfg, server, h⟩
  refine ⟨⟨?_, ?_⟩, fun sober => (step_sound h kernel sober).2⟩
  · exact fun right => step_sober h kernel (right _ List.mem_cons_self)
  · intro sober ok outcome
    obtain rfl := List.mem_singleton.mp outcome
    exact (step_sound h kernel sober).1

def portConfig (port : ℤ) : Config :=
  ⟨[DaemonPayload.alice], [], [{ DaemonPayload.frontServer with port := port }], []⟩

def portOutside (sock : ℕ) (port : ℤ) : Outside where
  loadDetached _ := some (portConfig port)
  opensslReady := true
  probe _ word := some (sock, word)
  rebind _ word := some (sock, word)
  grants := .all

def portBound (port : ℤ) : ℤ → Option Address := fun _ => some ([], ((portWord port).toNat : ℤ))

theorem portConfig_server {port : ℤ} {name : CString} {server : Server}
    (found : serverByName (some (portConfig port)) name = some server) :
    server = { DaemonPayload.frontServer with port := port } := by
  have lookup : (portConfig port).servers.find? (fun s => s.name == name) = some server := found
  exact List.mem_singleton.mp (List.mem_of_find?_eq_some lookup)

theorem portOutside_kernel {sock : ℕ} {port : ℤ} (nonzero : portWord port ≠ 0) {target : Server}
    (ip : target.bindIp = []) (same : target.port = port) :
    Kernel (portOutside sock port) (portBound port) target := by
  intro fd word answered
  obtain ⟨-, rfl⟩ := Prod.mk.inj (Option.some.inj answered)
  rw [ip, same]
  exact ⟨.inl rfl, fun _ => rfl, fun _ zero => absurd zero nonzero, fun _ => ⟨nonzero, rfl⟩⟩

theorem port_starts :
    (startup (portOutside 3 50000) (portConfig 50000) frontName).isSome = true := by
  decide +kernel

def portLoop : Loop := (startup (portOutside 3 50000) (portConfig 50000) frontName).get port_starts

theorem portLoop_starts :
    startup (portOutside 3 50000) (portConfig 50000) frontName = some portLoop :=
  (Option.some_get port_starts).symm

def portReload (port : ℤ) : BindingOp :=
  ⟨.reload (portOutside 6 port) reloadPath [], portBound port⟩

theorem portLoop_kernel (server : Server)
    (found : serverByName (some (portConfig 50000)) frontName.text = some server) :
    Kernel (portOutside 3 50000) (portBound 50000) server := by
  obtain rfl := portConfig_server found
  exact portOutside_kernel (by decide +kernel) rfl rfl

theorem portReload_kernel {port : ℤ} (nonzero : portWord port ≠ 0) :
    ∀ p ∈ steps bindingStep (atStart portLoop (portBound 50000)) [portReload port], ∀ target,
      Asks p.1.runtime p.2.call target → Kernel p.2.call.outside p.2.bound target ∧
        Fresh p.2.call.outside p.1.runtime.listener target := by
  intro p taken target asks
  obtain rfl := List.mem_singleton.mp taken
  obtain ⟨newCfg, staged⟩ := asks
  obtain rfl : portConfig port = newCfg := Option.some.inj staged.loads
  obtain rfl := portConfig_server staged.selects
  refine ⟨portOutside_kernel nonzero rfl rfl, ?_⟩
  intro sock word answered
  obtain ⟨rfl, -⟩ := Prod.mk.inj (Option.some.inj answered)
  have open' : (atStart portLoop (portBound 50000)).runtime.listener.sock = 3 := by decide +kernel
  rw [open']
  decide

theorem portReload_sober :
    ∀ p ∈ steps bindingStep (atStart portLoop (portBound 50000)) [portReload 50001],
      Sober p.1.runtime p.2.call := by
  intro p taken
  obtain rfl := List.mem_singleton.mp taken
  intro newCfg selected listener staged _
  obtain rfl : portConfig 50001 = newCfg := Option.some.inj staged.loads
  obtain rfl := portConfig_server staged.selects
  exact ⟨fun _ => ⟨by decide, by decide⟩, fun partly => absurd (by decide +kernel) partly⟩

theorem movedPort_coherent :
    Coherent (atStart portLoop (portBound 50000)) true
      (bindingStep (atStart portLoop (portBound 50000)) (portReload 50001)).1 := by
  have coherent := (binding_coherent_iff portLoop_starts portLoop_kernel [portReload 50001]
    (portReload_kernel (by decide +kernel))).mpr portReload_sober
  have ok : true ∈ (bindingStep (atStart portLoop (portBound 50000)) (portReload 50001)).2 := by
    decide +kernel
  exact coherent _ List.mem_cons_self true ok

/-- A file that states the port 70000 is taken over, and the socket is bound to port 4464. -/
theorem longPort_incoherent :
    ¬ ∀ (outside : Outside) (config : Config) (name : ServerName) (loop : Loop)
        (bound : ℤ → Option Address), startup outside config name = some loop →
      (∀ server, serverByName (some config) name.text = some server →
        Kernel outside bound server) →
      ∀ ops, (∀ p ∈ steps bindingStep (atStart loop bound) ops, ∀ target,
        Asks p.1.runtime p.2.call target → Kernel p.2.call.outside p.2.bound target ∧
          Fresh p.2.call.outside p.1.runtime.listener target) →
      ∀ p ∈ steps bindingStep (atStart loop bound) ops, ∀ ok ∈ (bindingStep p.1 p.2).2,
        Coherent p.1 ok (bindingStep p.1 p.2).1 := by
  intro always
  have coherent := always (portOutside 3 50000) (portConfig 50000) frontName portLoop
    (portBound 50000) portLoop_starts portLoop_kernel [portReload 70000]
    (portReload_kernel (by decide +kernel)) _ List.mem_cons_self true (by decide +kernel)
  obtain ⟨server, serving, -, -, port, -⟩ := coherent.success rfl
  have active : (bindingStep (atStart portLoop (portBound 50000))
      (portReload 70000)).1.runtime.listener.server.map (·.port) = some 70000 := by decide +kernel
  have recorded : (bindingStep (atStart portLoop (portBound 50000))
      (portReload 70000)).1.runtime.listener.boundPort = 4464 := by decide +kernel
  rw [serving] at active
  have stated : server.port = 70000 := Option.some.inj active
  rw [recorded, stated] at port
  exact absurd port (by decide)

end Runs

end Siglatch.DaemonBinding
