import Siglatch.MuxAdapter

set_option autoImplicit false

namespace Siglatch.MuxNormalize
open MuxTypes KnockContext KnockCodec MuxAdapter

inductive PolicyEnforceEncryption where
  | any
  | yes
  | no
  deriving DecidableEq

def encryptionAllowed (policy : PolicyEnforceEncryption) (context : CodecContext)
    (encrypted : Bool) : Bool :=
  match policy with
  | .yes => encrypted
  | .no => !encrypted
  | .any => if context.serverSecure then encrypted else true

/-- A datagram that no codec takes goes on as the bytes it consists of. -/
def rawCopy (ingress : Ingress) : Option RecvPacket :=
  if NORMALIZED_PACKET_BUFFER_SIZE < ingress.buffer.length then none
  else some { RecvPacket.zero with
    complete := true, receivedMs := ingress.receivedMs, ip := ingress.ip
    clientPort := ingress.clientPort, encrypted := ingress.encrypted, streamId := 1
    rawBytes := ingress.buffer }

structure Raw (ingress : Ingress) (p : RecvPacket) : Prop where
  version : p.wireVersion = 0
  session : p.sessionId = 0
  undated : p.timestamp = 0
  quiet : p.shouldReply = false
  user : p.user = none
  received : p.receivedMs = ingress.receivedMs
  ip : p.ip = ingress.ip

theorem rawCopy_raw {ingress : Ingress} {p : RecvPacket} (h : rawCopy ingress = some p) :
    Raw ingress p := by
  unfold rawCopy at h
  split at h
  · contradiction
  · obtain rfl := Option.some.inj h
    exact ⟨rfl, rfl, rfl, rfl, rfl, rfl, rfl⟩

def configureIngressIdentity (ingress : Ingress) (identity : IngressIdentity) : Ingress :=
  { ingress with
    encrypted := identity.encrypted, magic := identity.magic, version := identity.version
    form := identity.form }

def normalize (policy : PolicyEnforceEncryption) (env : CodecEnv) (ingress : Ingress)
    (control : Control) : Option RecvPacket × Control :=
  match demux env ingress with
  | none => (rawCopy ingress, control)
  | some (adapter, identity) =>
    let configured := configureIngressIdentity ingress identity
    match adapter.decode env configured control with
    | (none, control) => (rawCopy ingress, control)
    | (some out, control) =>
      let out := { out with
        receivedMs := configured.receivedMs, ip := configured.ip
        clientPort := configured.clientPort, encrypted := configured.encrypted
        wireDecode := true }
      if encryptionAllowed policy env.context out.encrypted then (some out, control)
      else (none, control)

/-- A packet holds the bytes of its datagram, or what the adapter that took the datagram made of
it, if the policy lets that through. -/
theorem normalize_cases {policy : PolicyEnforceEncryption} {env : CodecEnv} {raw : Ingress}
    {control : Control} {p : RecvPacket} (made : (normalize policy env raw control).1 = some p) :
    rawCopy raw = some p ∨ ∃ adapter identity out after, demux env raw = some (adapter, identity) ∧
      adapter.decode env (configureIngressIdentity raw identity) control = (some out, after) ∧
      encryptionAllowed policy env.context identity.encrypted = true ∧
      p = { out with
        receivedMs := raw.receivedMs, ip := raw.ip, clientPort := raw.clientPort
        encrypted := identity.encrypted, wireDecode := true } := by
  unfold MuxNormalize.normalize at made
  cases found : demux env raw with
  | none =>
    rw [found] at made
    exact .inl made
  | some chosen =>
    obtain ⟨adapter, identity⟩ := chosen
    rw [found] at made
    dsimp only at made
    cases decoded : adapter.decode env (configureIngressIdentity raw identity) control with
    | mk out after =>
      rw [decoded] at made
      cases out with
      | none => exact .inl made
      | some out =>
        dsimp only at made
        split at made
        · rename_i allowed
          exact .inr ⟨adapter, identity, out, after, rfl, decoded, allowed,
            (Option.some.inj made).symm⟩
        · contradiction

end Siglatch.MuxNormalize
