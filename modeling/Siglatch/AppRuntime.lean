import Siglatch.DaemonTypes

set_option autoImplicit false

namespace Siglatch.AppRuntime
open MuxTypes AppConfig KnockContext DaemonTypes

/-- What the system grants to a rebuild of the codec context: the copy of the server key, and
the room for an entry with its copy, by the entry's place in the keychain. -/
structure Grants where
  serverKey : Bool
  entry : ℕ → Bool

def Grants.all : Grants := ⟨true, fun _ => true⟩

/-- What a reload meets outside the daemon's own state: the file's content once its keys are
loaded, OpenSSL, the two attempts to open a UDP socket on an address and port, and what the
rebuild of the codec context is granted. -/
structure Outside where
  loadDetached : CString → Option Config
  opensslReady : Bool
  probe : CString → UInt16 → Option (ℕ × UInt16)
  rebind : CString → UInt16 → Option (ℕ × UInt16)
  grants : Grants

def listenerBoundPort (listener : Listener) : ℤ :=
  if 0 < listener.boundPort then listener.boundPort
  else match listener.server with
    | some server => server.port
    | none => 0

def listenerBindingChanged (listener : Listener) (server : Server) : Bool :=
  listenerBoundPort listener != server.port || listener.boundIp != server.bindIp

def listenerSamePortIpChange (listener : Listener) (server : Server) : Bool :=
  listenerBoundPort listener == server.port && listener.boundIp != server.bindIp

def sameBinding (listener : Listener) (server : Server) : Bool :=
  if listener.sock < 0 then false
  else listener.boundPort == server.port && listener.boundIp == server.bindIp

def openBoundSocket (openIpv4 : CString → UInt16 → Option (ℕ × UInt16)) (server : Server) :
    Option (ℤ × ℤ) :=
  (openIpv4 server.bindIp (UInt16.ofNat (server.port % 65536).toNat)).map fun (sock, boundPort) =>
    (sock, if 0 < boundPort then (boundPort.toNat : ℤ) else server.port)

def probeBind (outside : Outside) (listener : Listener) (server : Server) : Bool :=
  sameBinding listener server || (openBoundSocket outside.probe server).isSome

def rebindListener (outside : Outside) (listener : Listener) (server : Server) :
    Option Listener :=
  if sameBinding listener server then some listener
  else (openBoundSocket outside.rebind server).map fun (sock, boundPort) =>
    { listener with sock := sock, boundPort := boundPort, boundIp := server.bindIp.take 63 }

def initSessionForServer (opensslReady : Bool) (server : Option Server)
    (session : OpenSSLSession) : Bool × OpenSSLSession :=
  match server with
  | none => (false, session)
  | some server =>
    if !opensslReady then (false, session)
    else if server.secure then
      match server.privKey with
      | none => (false, session)
      | some key => (true, { session with privateKey := some key })
    else (true, { session with privateKey := none })

def invalidateConfigBorrows (runtime : Runtime) : Runtime :=
  { runtime with
    listener := { runtime.listener with server := none }
    session := ⟨none, none, List.replicate 32 0, 0⟩ }

def keyEntry (user : User) : KeyEntry := ⟨user.id, user.name, user.pubkey, user.hmacKey⟩

/-- The loop that empties the keychain by the name of its first entry; each turn removes an
entry, so the keychain's length is fuel enough. -/
def clearKeychain : ℕ → CodecContext → Bool × CodecContext
  | 0, context => (context.keychain.isEmpty, context)
  | fuel + 1, context =>
    match context.keychain with
    | [] => (true, context)
    | entry :: _ =>
      match removeKeychain context entry.name with
      | none => (false, context)
      | some context => clearKeychain fuel context

def addUsers (granted : ℕ → Bool) : List User → CodecContext → Bool × CodecContext
  | [], context => (true, context)
  | user :: users, context =>
    if !user.enabled then addUsers granted users context
    else
      match addKeychain (granted context.keychain.length) context (keyEntry user) with
      | none => (false, context)
      | some context => addUsers granted users context

def syncCodecContext (grants : Grants) (cfg : Option Config) (server : Option Server)
    (context : CodecContext) : Bool × CodecContext :=
  match cfg, server with
  | some cfg, some server =>
    let context := { clearServerKey context with serverSecure := server.secure }
    match clearKeychain context.keychain.length context with
    | (false, context) => (false, context)
    | (true, context) =>
      if server.secure && server.privKey.isSome then
        match setServerKey grants.serverKey context ⟨server.name, server.privKey⟩ with
        | none => (false, context)
        | some context => addUsers grants.entry cfg.users context
      else addUsers grants.entry cfg.users context
  | _, _ => (false, context)

/-- The rollback that each late failure runs. The codec stage's own one also calls for the
context to be rebuilt from the old configuration, but has by then handed that configuration
back and passes the null pointer it kept. -/
def rollback (outside : Outside) (currentName : CString) (oldCfg : Option Config)
    (resync : Bool) (runtime : Runtime) : Runtime :=
  let runtime := { invalidateConfigBorrows runtime with config := oldCfg }
  let restored := if currentName ≠ [] then serverByName runtime.config currentName else none
  let runtime := if resync && restored.isSome then
      { runtime with
        codecContext := (syncCodecContext outside.grants none restored runtime.codecContext).2 }
    else runtime
  match initSessionForServer outside.opensslReady restored runtime.session with
  | (true, session) =>
    { runtime with session := session, listener := { runtime.listener with server := restored } }
  | (false, _) => invalidateConfigBorrows runtime

/-- The part of a reload that works on the live runtime. -/
def applyConfig (outside : Outside) (runtime : Runtime) (newCfg : Config)
    (targetName currentName : CString) (bindingChanged : Bool) : Bool × Runtime :=
  let oldCfg := runtime.config
  let server := serverByName (some newCfg) targetName
  let runtime := { invalidateConfigBorrows runtime with config := some newCfg }
  let runtime := { runtime with listener := { runtime.listener with server := server } }
  match initSessionForServer outside.opensslReady server runtime.session with
  | (false, _) => (false, rollback outside currentName oldCfg false runtime)
  | (true, session) =>
    let runtime := { runtime with session := session }
    match (if bindingChanged then server.bind (rebindListener outside runtime.listener)
      else some runtime.listener) with
    | none => (false, rollback outside currentName oldCfg false runtime)
    | some listener =>
      let runtime := { runtime with listener := listener }
      match syncCodecContext outside.grants (some newCfg) server runtime.codecContext with
      | (false, context) =>
        (false, rollback outside currentName oldCfg true { runtime with codecContext := context })
      | (true, context) => (true, { runtime with codecContext := context })

def currentName (runtime : Runtime) : CString :=
  match runtime.listener.server with
  | some server => server.name.take 63
  | none => []

def targetName (runtime : Runtime) (serverName : CString) : CString :=
  if serverName ≠ [] then serverName.take 63 else currentName runtime

def reloadConfig (outside : Outside) (runtime : Runtime) (configPath serverName : CString) :
    Bool × Runtime :=
  if configPath = [] then (false, runtime)
  else if targetName runtime serverName = [] then (false, runtime)
  else
    match outside.loadDetached configPath with
    | none => (false, runtime)
    | some newCfg =>
      match serverByName (some newCfg) (targetName runtime serverName) with
      | none => (false, runtime)
      | some selected =>
        if !selected.enabled then (false, runtime)
        else if !(initSessionForServer outside.opensslReady (some selected)
            OpenSSLSession.zero).1 then (false, runtime)
        else
          let bindingChanged := listenerBindingChanged runtime.listener selected
          if bindingChanged && listenerSamePortIpChange runtime.listener selected then
            (false, runtime)
          else if bindingChanged && !probeBind outside runtime.listener selected then
            (false, runtime)
          else applyConfig outside runtime newCfg (targetName runtime serverName)
            (currentName runtime) bindingChanged

end Siglatch.AppRuntime
