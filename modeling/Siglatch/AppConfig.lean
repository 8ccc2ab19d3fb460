import Siglatch.MuxTypes
import Mathlib.Data.Int.Notation

set_option autoImplicit false

namespace Siglatch.AppConfig
open MuxTypes

/-- A loaded OpenSSL key, known by its handle only. -/
abbrev EvpPkey := ℕ

inductive ActionHandler where
  | invalid
  | shell
  | builtin
  | static
  | dynamic
  deriving DecidableEq

structure User where
  id : UInt32
  name : CString
  enabled : Bool
  actions : List CString
  allowedIps : List CString
  pubkey : Option EvpPkey
  hmacKey : Bytes
  deriving DecidableEq

structure Action where
  id : UInt32
  name : CString
  label : CString
  handler : ActionHandler
  builtin : CString
  constructor : CString
  runAs : CString
  enabled : Bool
  execSplit : Bool
  enforceWireAuth : Bool
  allowedIps : List CString
  object : CString := []
  objectPath : CString := []
  deriving DecidableEq

structure Server where
  name : CString
  enabled : Bool
  bindIp : CString
  port : ℤ
  allowedIps : List CString
  secure : Bool
  enforceWireDecode : Bool
  enforceWireAuth : Bool
  privKey : Option EvpPkey
  deaddrops : List CString
  actions : List CString
  deriving DecidableEq

structure Deaddrop where
  name : CString
  constructor : CString
  runAs : CString
  startsWith : List CString
  enabled : Bool
  requireAscii : Bool
  execSplit : Bool
  deriving DecidableEq

structure Config where
  users : List User
  actions : List Action
  servers : List Server
  deaddrops : List Deaddrop
  deriving DecidableEq

def userById (config : Option Config) (userId : UInt32) : Option User := do
  let cfg ← config
  cfg.users.find? fun u => u.enabled && u.id == userId

def actionById (config : Option Config) (actionId : UInt32) : Option Action := do
  let cfg ← config
  cfg.actions.find? fun a => a.id == actionId

def serverByName (config : Option Config) (name : CString) : Option Server := do
  let cfg ← config
  cfg.servers.find? fun s => s.name == name

def deaddropByName (config : Option Config) (name : CString) : Option Deaddrop := do
  let cfg ← config
  cfg.deaddrops.find? fun d => d.name == name

def actionAvailableByUser (config : Option Config) (userId : UInt32) (action : CString) : Bool :=
  match userById config userId with
  | none => false
  | some user => user.actions.any (· == action)

def Server.actionAvailable (server : Server) (actionName : CString) : Bool :=
  server.actions.any (· == actionName)

/-- The first dead drop of the server's list that is known, enabled and has a prefix of the
payload among its patterns, with the length of that prefix. -/
def deaddropStartsWithBuffer (config : Option Config) (server : Server) (payload : Bytes) :
    Option (Deaddrop × ℕ) :=
  if payload = [] then none
  else server.deaddrops.findSome? fun allowed =>
    match deaddropByName config allowed with
    | none => none
    | some deaddrop =>
      if deaddrop.enabled then
        (deaddrop.startsWith.find? (·.isPrefixOf payload)).map fun pattern =>
          (deaddrop, pattern.length)
      else none

theorem serverByName_name {config : Option Config} {name : CString} {server : Server}
    (h : serverByName config name = some server) : server.name = name := by
  cases config with
  | none => simp [serverByName] at h
  | some cfg =>
    have found := List.find?_some h
    exact beq_iff_eq.mp found

theorem actionAvailableByUser_iff {config : Option Config} {userId : UInt32} {user : User}
    (h : userById config userId = some user) (action : CString) :
    actionAvailableByUser config userId action = true ↔ action ∈ user.actions := by
  simp [actionAvailableByUser, h]

theorem Server.actionAvailable_iff (server : Server) (actionName : CString) :
    server.actionAvailable actionName = true ↔ actionName ∈ server.actions := by
  simp [Server.actionAvailable]

end Siglatch.AppConfig
