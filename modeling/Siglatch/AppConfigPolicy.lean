import Siglatch.AppConfig

set_option autoImplicit false

namespace Siglatch.AppConfigPolicy
open MuxTypes AppConfig

inductive PayloadOverflow where
  | reject
  | clamp
  | inherit
  deriving DecidableEq

structure PolicyAction extends Action where
  requireAscii : Bool
  payloadOverflow : PayloadOverflow

structure PolicyServer extends Server where
  payloadOverflow : PayloadOverflow

/-- The configuration with those settings. The parser leaves nothing to inherit at the top. -/
structure PolicyConfig where
  payloadOverflow : PayloadOverflow
  users : List User
  actions : List PolicyAction
  servers : List PolicyServer
  deaddrops : List Deaddrop
  rooted : payloadOverflow ≠ .inherit

def PolicyConfig.served (config : PolicyConfig) : Config :=
  ⟨config.users, config.actions.map (·.toAction), config.servers.map (·.toServer),
    config.deaddrops⟩

def PolicyConfig.actionById (config : PolicyConfig) (actionId : UInt32) : Option PolicyAction :=
  config.actions.find? fun action => action.id == actionId

def normalizePayloadOverflowEffective : PayloadOverflow → PayloadOverflow
  | .reject => .reject
  | .clamp => .clamp
  | .inherit => .reject

def resolvePayloadOverflowByAction (config : Option PolicyConfig) (server : Option PolicyServer)
    (actionId : UInt32) : PayloadOverflow :=
  match config with
  | none => .reject
  | some config =>
    let effective := normalizePayloadOverflowEffective config.payloadOverflow
    let effective := match server with
      | none => effective
      | some server =>
        if server.payloadOverflow ≠ .inherit then
          normalizePayloadOverflowEffective server.payloadOverflow
        else effective
    match config.actionById actionId with
    | none => effective
    | some action =>
      if action.payloadOverflow ≠ .inherit then
        normalizePayloadOverflowEffective action.payloadOverflow
      else effective

section Resolve

variable {config : PolicyConfig} {server : PolicyServer} {actionId : UInt32}

theorem normalizeEffective_of_set {policy : PayloadOverflow} (set : policy ≠ .inherit) :
    normalizePayloadOverflowEffective policy = policy := by
  cases policy with
  | reject => rfl
  | clamp => rfl
  | inherit => exact absurd rfl set

/-- The setting nearest to the action that is one: of the action itself, of the server, or of the
whole configuration. -/
def effective (config : PolicyConfig) (server : PolicyServer) (actionId : UInt32) :
    PayloadOverflow :=
  (((config.actionById actionId).map (·.payloadOverflow)).toList ++
    [server.payloadOverflow]).find? (· != .inherit) |>.getD config.payloadOverflow

theorem resolve_effective : resolvePayloadOverflowByAction (some config) (some server) actionId =
    effective config server actionId := by
  have root := normalizeEffective_of_set config.rooted
  unfold resolvePayloadOverflowByAction effective
  dsimp only
  rw [root]
  cases config.actionById actionId with
  | none =>
    by_cases served : server.payloadOverflow = .inherit
    · simp [served]
    · simp [served, normalizeEffective_of_set served]
  | some action =>
    by_cases acted : action.payloadOverflow = .inherit
    · by_cases served : server.payloadOverflow = .inherit
      · simp [acted, served]
      · simp [acted, served, normalizeEffective_of_set served]
    · simp [acted, normalizeEffective_of_set acted]

theorem effective_cases (config : PolicyConfig) (server : PolicyServer) (actionId : UInt32) :
    effective config server actionId = .reject ∨ effective config server actionId = .clamp := by
  have decided : effective config server actionId ≠ .inherit := by
    unfold effective
    cases found : (((config.actionById actionId).map (·.payloadOverflow)).toList ++
        [server.payloadOverflow]).find? (· != .inherit) with
    | none => exact config.rooted
    | some policy =>
      have set := List.find?_some found
      exact bne_iff_ne.mp set
  cases chosen : effective config server actionId with
  | reject => exact .inl rfl
  | clamp => exact .inr rfl
  | inherit => exact absurd chosen decided

end Resolve

end Siglatch.AppConfigPolicy
