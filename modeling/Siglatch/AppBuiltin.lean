import Siglatch.AppRuntime
import Siglatch.DaemonPayload
import Siglatch.LibStr

set_option autoImplicit false

namespace Siglatch.AppBuiltin
open MuxTypes AppConfig KnockContext DaemonTypes DaemonPayload AppRuntime NetIpRange LibStr

def MAX_IP_RANGE_LEN : ℕ := 64
def SERVER_VERSION : CString := ascii "2.0-dev".toList

/-- What a builtin meets outside: what a reload does, the config path of the listener, and which
texts `inet_pton` takes for an address of version 6. -/
structure Surroundings extends Outside where
  configPath : CString
  isIpv6 : CString → Bool

structure BindTarget where
  bindIp : Option CString
  port : Option ℤ
  deriving DecidableEq

def parsePortText (text : CString) : Option ℤ :=
  if text = [] then none
  else
    let (port, parseEnd) := strtoul text
    if parseEnd ≠ [] then none
    else if port = 0 ∨ 65535 < port then none
    else some port

def isAllDigits (text : CString) : Bool := text != [] && text.all isDigit

def isIpLiteral (isIpv6 : CString → Bool) (text : CString) : Bool :=
  text != [] && ((parseIpv4Literal text).isSome || isIpv6 text)

def parseBindTarget (isIpv6 : CString → Bool) (payload : Bytes) : Option BindTarget :=
  if payload.length = 0 then some ⟨none, none⟩
  else if 128 ≤ payload.length then none
  else
    let text := trim (cString payload)
    if text = [] then some ⟨none, none⟩
    else if text.head? = some 91 then
      let host := text.tail.takeWhile (· ≠ 93)
      let close := text.tail.dropWhile (· ≠ 93)
      if host = [] ∨ close.take 2 ≠ [93, 58] then none
      else if MAX_IP_RANGE_LEN ≤ host.length then none
      else if !isIpLiteral isIpv6 host then none
      else (parsePortText (close.drop 2)).map fun port =>
        ⟨some (lcpy host MAX_IP_RANGE_LEN), some port⟩
    else if isAllDigits text then (parsePortText text).map fun port => ⟨none, some port⟩
    else if isIpLiteral isIpv6 text then some ⟨some (lcpy text MAX_IP_RANGE_LEN), none⟩
    else none

def formatBinding (isIpv6 : CString → Bool) (bindIp : CString) (port : ℤ) : CString :=
  let ip := if bindIp ≠ [] then bindIp else ascii "0.0.0.0".toList
  let number := ascii (toString port).toList
  lcpy (if isIpv6 ip then [91] ++ ip ++ [93, 58] ++ number else ip ++ [58] ++ number) 128

/-- The first server of the name is written in place. -/
def writeServer (name : CString) (change : Server → Server) : List Server → List Server
  | [] => []
  | server :: servers =>
    if server.name == name then change server :: servers
    else server :: writeServer name change servers

def serverSet (config : Option Config) (name : CString) (change : Server → Server) :
    Option Config :=
  match config with
  | none => none
  | some cfg =>
    if name = [] ∨ serverByName (some cfg) name = none then none
    else some { cfg with servers := writeServer name change cfg.servers }

def serverSetBinding (config : Option Config) (name bindIp : CString) (port : ℤ) :
    Option Config :=
  if port ≤ 0 ∨ 65535 < port then none
  else if bindIp ≠ [] ∧ isSingleIpv4 bindIp = false then none
  else serverSet config name fun server =>
    { server with port := port, bindIp := lcpy bindIp MAX_IP_RANGE_LEN }

def serverSetEnforceWireDecode (config : Option Config) (name : CString) (enabled : Bool) :
    Option Config :=
  serverSet config name fun server => { server with enforceWireDecode := enabled }

def serverSetEnforceWireAuth (config : Option Config) (name : CString) (enabled : Bool) :
    Option Config :=
  serverSet config name fun server => { server with enforceWireAuth := enabled }

/-- The listener's server is a pointer into the configuration, which has been written to. -/
def attachServer (runtime : Runtime) (cfg : Config) (name : CString) : Runtime :=
  { runtime with
    config := some cfg
    listener := { runtime.listener with server := serverByName (some cfg) name } }

section Handlers

variable (around : Surroundings) (runtime : Runtime) (job : Job)

def reloadConfigHandle : Bool × ActionReply × Runtime :=
  if around.configPath = [] then (false, .set false (ascii "NO_CONFIG_PATH".toList), runtime)
  else
    let serverName := match runtime.listener.server with
      | some server => server.name
      | none => []
    match reloadConfig around.toOutside runtime around.configPath serverName with
    | (false, runtime) => (false, .set false (ascii "RELOAD_FAILED".toList), runtime)
    | (true, runtime) => (true, .set true (ascii "RELOADED".toList), runtime)

def bindTarget (server : Server) (parsed : BindTarget) : Server :=
  { server with bindIp := parsed.bindIp.getD server.bindIp, port := parsed.port.getD server.port }

def probeRebindHandle : Bool × ActionReply :=
  match runtime.listener.server with
  | none => (false, .set false (ascii "NO_ACTIVE_SERVER".toList))
  | some server =>
    match parseBindTarget around.isIpv6 job.request.payload with
    | none => (false, .set false (ascii "INVALID_BIND_TARGET".toList))
    | some parsed =>
      let target := bindTarget server parsed
      let binding := formatBinding around.isIpv6 target.bindIp target.port
      if target.bindIp ≠ [] ∧ around.isIpv6 target.bindIp = true then
        (false, .set false (ascii "IPV6_BIND_UNSUPPORTED".toList))
      else if !probeBind around.toOutside runtime.listener target then
        (false, .set false (ascii "PROBE_FAILED ".toList ++ binding))
      else if sameBinding runtime.listener target then
        (true, .set true (ascii "ALREADY_BOUND ".toList ++ binding))
      else (true, .set true (ascii "BINDABLE ".toList ++ binding))

def syncBinding (name bindIp : CString) (port : ℤ) (text : CString) :
    Bool × ActionReply × Runtime :=
  if name = [] then (true, .set true text, runtime)
  else
    match serverSetBinding runtime.config name bindIp port with
    | none => (false, .set false (ascii "CONFIG_BIND_SYNC_FAILED".toList), runtime)
    | some cfg => (true, .set true text, attachServer runtime cfg name)

def rebindListenerHandle : Bool × ActionReply × Runtime :=
  match runtime.listener.server with
  | none => (false, .set false (ascii "NO_ACTIVE_SERVER".toList), runtime)
  | some server =>
    match parseBindTarget around.isIpv6 job.request.payload with
    | none => (false, .set false (ascii "INVALID_BIND_TARGET".toList), runtime)
    | some parsed =>
      let target := bindTarget server parsed
      let currentPort := listenerBoundPort runtime.listener
      let shown := formatBinding around.isIpv6
      if target.bindIp ≠ [] ∧ around.isIpv6 target.bindIp = true then
        (false, .set false (ascii "IPV6_BIND_UNSUPPORTED".toList), runtime)
      else if currentPort = target.port ∧ runtime.listener.boundIp = target.bindIp then
        syncBinding runtime server.name target.bindIp currentPort
          (ascii "ALREADY_BOUND ".toList ++ shown runtime.listener.boundIp currentPort)
      else
        match rebindListener around.toOutside runtime.listener target with
        | none => (false, .set false (ascii "REBIND_FAILED ".toList ++
            shown target.bindIp target.port), runtime)
        | some listener =>
          syncBinding { runtime with listener := listener } server.name target.bindIp target.port
            (ascii "BOUND ".toList ++ shown listener.boundIp listener.boundPort)

/-- The key, without its scope, and the value of a payload such as `server.x = yes` or `x yes`. -/
def extractKv : Option (CString × CString) :=
  if job.request.payload.length = 0 ∨ 256 ≤ job.request.payload.length then none
  else
    let line := trim (cString job.request.payload)
    let split := match splitKv line with
      | some pair => some pair
      | none =>
        let behind := line.dropWhile (! isSpace ·)
        if behind = [] then none
        else some (trim (line.takeWhile (! isSpace ·)), trim behind.tail)
    match split with
    | none => none
    | some (key, value) =>
      if key = [] ∨ value = [] then none
      else if (ascii "action.".toList).isPrefixOf key then none
      else
        let key := if (ascii "server.".toList).isPrefixOf key then key.drop 7 else key
        if key ≠ ascii "enforce_wire_decode".toList ∧ key ≠ ascii "enforce_wire_auth".toList then
          none
        else some (lcpy key 128, lcpy value 128)

def setServerWireFlag (key : CString) (enabled : Bool) : Bool × ActionReply × Runtime :=
  match runtime.listener.server with
  | none => (false, .set false (ascii "INVALID_CONTEXT".toList), runtime)
  | some server =>
    let written := if key = ascii "enforce_wire_decode".toList then
        serverSetEnforceWireDecode runtime.config server.name enabled
      else serverSetEnforceWireAuth runtime.config server.name enabled
    match written with
    | none => (false, .set false (ascii "SET_FAILED".toList), runtime)
    | some cfg =>
      (true, .set true (key ++ [61] ++ ascii (if enabled then "yes" else "no").toList),
        attachServer runtime cfg server.name)

def changeSettingHandle : Bool × ActionReply × Runtime :=
  match extractKv job with
  | none => (false, .set false (ascii
      "Expected payload: [server.]enforce_wire_(decode|auth) = yes|no".toList), runtime)
  | some (key, value) =>
    match toBool value with
    | none => (false, .set false (ascii "Invalid boolean value: ".toList ++ value), runtime)
    | some enabled => setServerWireFlag runtime key enabled

def testBlurtHandle : ActionReply :=
  if job.request.payload.length = 0 then .set true (ascii "TEST_BLURT (empty)".toList)
  else if !isAscii job.request.payload then .set true (ascii "TEST_BLURT payload skipped".toList)
  else .set true (job.request.payload.take 256)

def unimplemented (name : CString) : ActionReply :=
  .set false (ascii "UNIMPLEMENTED ".toList ++ name)

def supports (name : CString) : Bool :=
  name == ascii "reload_config".toList || name == ascii "probe_rebind".toList ||
  name == ascii "rebind_listener".toList || name == ascii "change_setting".toList ||
  name == ascii "save_config".toList || name == ascii "load_config".toList ||
  name == ascii "list_users".toList || name == ascii "version".toList ||
  name == ascii "test_blurt".toList

theorem nothing_fits : ([] : CString).length < APP_ACTION_REPLY_MESSAGE_MAX := by decide

/-- The builtin of the action's name. One of another name says nothing. -/
def handle (action : Action) : Bool × ActionReply × Runtime :=
  if action.builtin = ascii "reload_config".toList then reloadConfigHandle around runtime
  else if action.builtin = ascii "probe_rebind".toList then
    let (ok, reply) := probeRebindHandle around runtime job
    (ok, reply, runtime)
  else if action.builtin = ascii "rebind_listener".toList then
    rebindListenerHandle around runtime job
  else if action.builtin = ascii "change_setting".toList then changeSettingHandle runtime job
  else if action.builtin = ascii "save_config".toList ∨
      action.builtin = ascii "load_config".toList ∨
      action.builtin = ascii "list_users".toList then
    (false, unimplemented action.builtin, runtime)
  else if action.builtin = ascii "version".toList then (true, .set true SERVER_VERSION, runtime)
  else if action.builtin = ascii "test_blurt".toList then (true, testBlurtHandle job, runtime)
  else (false, ⟨false, false, false, [], nothing_fits⟩, runtime)

end Handlers

section Servers

variable {cfg : Config} {name : CString} {change : Server → Server}

theorem writeServer_find (kept : ∀ server, (change server).name = server.name)
    (servers : List Server) :
    (writeServer name change servers).find? (fun s => s.name == name) =
      (servers.find? fun s => s.name == name).map change := by
  induction servers with
  | nil => rfl
  | cons server servers ih =>
    rw [writeServer, List.find?_cons]
    cases same : server.name == name with
    | true => rw [if_pos rfl, List.find?_cons, kept, same, Option.map_some]
    | false =>
      rw [if_neg Bool.false_ne_true, List.find?_cons, same]
      exact ih

theorem serverSet_some {config : Option Config} {after : Config}
    (written : serverSet config name change = some after)
    (kept : ∀ server, (change server).name = server.name) :
    ∃ cfg server, config = some cfg ∧ serverByName (some cfg) name = some server ∧
      serverByName (some after) name = some (change server) ∧ after.users = cfg.users := by
  unfold serverSet at written
  cases config with
  | none => cases written
  | some cfg =>
    dsimp only at written
    split at written
    · cases written
    · rename_i usable
      obtain rfl := Option.some.inj written
      obtain ⟨server, found⟩ := Option.ne_none_iff_exists'.mp (not_or.mp usable).2
      refine ⟨cfg, server, rfl, found, ?_, rfl⟩
      change (writeServer name change cfg.servers).find? (fun s => s.name == name) = _
      have lookup : cfg.servers.find? (fun s => s.name == name) = some server := found
      rw [writeServer_find kept, lookup, Option.map_some]

/-- A binding is written only past the checks on it. -/
theorem serverSetBinding_some {config : Option Config} {after : Config} {name bindIp : CString}
    {port : ℤ} (written : serverSetBinding config name bindIp port = some after) :
    serverSet config name (fun server =>
      { server with port := port, bindIp := lcpy bindIp MAX_IP_RANGE_LEN }) = some after := by
  unfold serverSetBinding at written
  split at written
  · cases written
  · split at written
    · cases written
    · exact written

end Servers

end Siglatch.AppBuiltin
