import Siglatch.KnockEncode
import Siglatch.MuxInboxRuns

set_option autoImplicit false

namespace Siglatch.MuxEncryption
open MuxTypes KnockDigest KnockCodec KnockSealed MuxAdapter MuxNormalize MuxInboxRuns

/-- The demux over any registry of adapters, in the order in which they were registered. -/
def demuxOver (registry : List Adapter) (env : CodecEnv) (ingress : Ingress) :
    Option (Adapter × IngressIdentity) :=
  registry.findSome? fun adapter => (adapter.detect env ingress).map (adapter, ·)

def normalizeOver (registry : List Adapter) (policy : PolicyEnforceEncryption) (env : CodecEnv)
    (ingress : Ingress) (control : Control) : Option RecvPacket × Control :=
  match demuxOver registry env ingress with
  | none => (rawCopy ingress, control)
  | some (adapter, identity) =>
    let configured := configureIngressIdentity ingress identity
    match adapter.decode env configured control with
    | (none, control) => (rawCopy ingress, control)
    | (some out, control) =>
      let out := { out with
        receivedMs := configured.receivedMs, ip := configured.ip
        clientPort := configured.clientPort, encrypted := configured.encrypted
        wireDecode := true }
      if encryptionAllowed policy env.context out.encrypted then (some out, control)
      else (none, control)

theorem normalize_eq : normalize = normalizeOver adapters := rfl

structure Arrival where
  policy : PolicyEnforceEncryption
  env : CodecEnv
  raw : Ingress

def normalizeAll (registry : List Adapter) : Control → List Arrival → List (Arrival × RecvPacket)
  | _, [] => []
  | control, arrival :: arrivals =>
    let made := normalizeOver registry arrival.policy arrival.env arrival.raw control
    made.1.toList.map (arrival, ·) ++ normalizeAll registry made.2 arrivals

def delivered (raw : Ingress) (encrypted : Bool) (unit : NormalizedUnit) : Option RecvPacket :=
  (copyRecvPacket unit).map fun out => { out with
    receivedMs := raw.receivedMs, ip := raw.ip, clientPort := raw.clientPort
    encrypted := encrypted, wireDecode := true }

/-- The ways to get a packet out of a datagram with a key: codecs 1 and 2 decrypt the datagram
with the server's RSA key, codecs 3 and 4 unwrap a key with which AES-GCM opens the body. -/
inductive Opened (env : CodecEnv) (raw : Ingress) (p : RecvPacket) : Prop where
  | v1 (plaintext : Bytes) (unit : NormalizedUnit)
      (decrypted : privateDecrypt env raw.buffer = some plaintext)
      (parsed : KnockCodecV1.normalize env.now plaintext raw.ip raw.clientPort true = some unit)
      (handed : delivered raw true unit = some p)
  | v2 (plaintext : Bytes) (unit : NormalizedUnit)
      (decrypted : privateDecrypt env raw.buffer = some plaintext)
      (parsed : KnockCodecV2.normalize env.now plaintext raw.ip raw.clientPort true = some unit)
      (handed : delivered raw true unit = some p)
  | v3 (pkt : Form1Packet) (cek plaintext : Bytes) (unit : NormalizedUnit)
      (framed : deserializeWire KnockCodecV3.form1 raw.buffer = some pkt)
      (unwrapped : decryptPayloadKey env pkt = some cek)
      (opened : env.cipher.aesgcmDecrypt cek pkt.nonce (buildAad pkt) pkt.ciphertext pkt.tag =
        some plaintext)
      (decoded : KnockCodecV3.decode env raw = some unit)
      (handed : delivered raw true unit = some p)
  | v4 (pkt : Form1Packet) (cek plaintext : Bytes) (unit : NormalizedUnit)
      (framed : deserializeWire KnockCodecV4.form1 raw.buffer = some pkt)
      (unwrapped : decryptPayloadKey env pkt = some cek)
      (opened : env.cipher.aesgcmDecrypt cek pkt.nonce (buildAad pkt) pkt.ciphertext pkt.tag =
        some plaintext)
      (decoded : (KnockCodecV4.decode env raw ⟨true⟩).1 = some unit)
      (handed : delivered raw true unit = some p)

inductive Plain (env : CodecEnv) (raw : Ingress) (p : RecvPacket) : Prop where
  | v1 (unit : NormalizedUnit)
      (parsed : KnockCodecV1.normalize env.now raw.buffer raw.ip raw.clientPort false = some unit)
      (handed : delivered raw false unit = some p)
  | v2 (unit : NormalizedUnit)
      (parsed : KnockCodecV2.normalize env.now raw.buffer raw.ip raw.clientPort false = some unit)
      (handed : delivered raw false unit = some p)

section Codecs

variable {env : CodecEnv} {raw : Ingress} {identity : IngressIdentity} {out : RecvPacket}

theorem adapterDecode_delivered {ingress : Ingress} {decoded : Option NormalizedUnit}
    (encrypted : Bool) (h : adapterDecode ingress decoded = some out) :
    ∃ unit, decoded = some unit ∧ delivered raw encrypted unit = some { out with
      receivedMs := raw.receivedMs, ip := raw.ip, clientPort := raw.clientPort
      encrypted := encrypted, wireDecode := true } := by
  simp only [adapterDecode, Option.bind_eq_bind, Option.bind_eq_some_iff] at h
  obtain ⟨unit, made, copied, copies, h⟩ := h
  obtain rfl := Option.some.inj h
  refine ⟨unit, made, ?_⟩
  rw [delivered, copies]
  rfl

def handedOn (raw : Ingress) (identity : IngressIdentity) (out : RecvPacket) : RecvPacket :=
  { out with
    receivedMs := raw.receivedMs, ip := raw.ip, clientPort := raw.clientPort
    encrypted := identity.encrypted, wireDecode := true }

/-- How a packet came out of its datagram, by what its codec said about encryption. -/
def Origin (env : CodecEnv) (raw : Ingress) (identity : IngressIdentity) (p : RecvPacket) : Prop :=
  if identity.encrypted then Opened env raw p else Plain env raw p

theorem origin_configured (p : RecvPacket) : Origin env raw identity p =
    if (configureIngressIdentity raw identity).encrypted then Opened env raw p
    else Plain env raw p := rfl

theorem origin_v1 (h : adapterDecode (configureIngressIdentity raw identity)
      (KnockCodecV1.decode env (configureIngressIdentity raw identity)) = some out) :
    Origin env raw identity (handedOn raw identity out) := by
  obtain ⟨unit, made, handed⟩ := @adapterDecode_delivered raw out _ _ identity.encrypted h
  have cases := @packed_cases env (configureIngressIdentity raw identity) unit
    (fun buf => KnockCodecV1.normalize env.now buf raw.ip raw.clientPort) made
  rw [origin_configured]
  rcases cases with ⟨encrypted, plaintext, decrypted, parsed⟩ | ⟨plain, -, parsed⟩
  · rw [if_pos encrypted]
    exact .v1 plaintext unit decrypted parsed (encrypted ▸ handed)
  · rw [if_neg (Bool.eq_false_iff.mp plain)]
    exact .v1 unit parsed (plain ▸ handed)

theorem origin_v2 (h : adapterDecode (configureIngressIdentity raw identity)
      (KnockCodecV2.decode env (configureIngressIdentity raw identity)) = some out) :
    Origin env raw identity (handedOn raw identity out) := by
  obtain ⟨unit, made, handed⟩ := @adapterDecode_delivered raw out _ _ identity.encrypted h
  have cases := @packed_cases env (configureIngressIdentity raw identity) unit
    (fun buf => KnockCodecV2.normalize env.now buf raw.ip raw.clientPort) made
  rw [origin_configured]
  rcases cases with ⟨encrypted, plaintext, decrypted, parsed⟩ | ⟨plain, -, parsed⟩
  · rw [if_pos encrypted]
    exact .v2 plaintext unit decrypted parsed (encrypted ▸ handed)
  · rw [if_neg (Bool.eq_false_iff.mp plain)]
    exact .v2 unit parsed (plain ▸ handed)

theorem sealed_opened {layout : Layout} {unpack : Bytes → Option NormalizedUnit}
    {finish : NormalizedUnit → NormalizedUnit} {unit : NormalizedUnit}
    (taken : KnockSealed.detect layout raw = some identity)
    (h : KnockSealed.decode layout env unpack raw finish = some unit) :
    identity.encrypted = true ∧ ∃ pkt cek plaintext opened,
      deserializeWire layout raw.buffer = some pkt ∧ decryptPayloadKey env pkt = some cek ∧
      env.cipher.aesgcmDecrypt cek pkt.nonce (buildAad pkt) pkt.ciphertext pkt.tag =
        some plaintext ∧ unpack plaintext = some opened ∧ finish opened = unit := by
  obtain ⟨pkt, framed, rfl⟩ := Option.map_eq_some_iff.mp taken
  unfold KnockSealed.decode at h
  rw [framed] at h
  obtain ⟨opened, decrypted, finished⟩ := Option.map_eq_some_iff.mp h
  obtain ⟨cek, unwrapped, rest⟩ := Option.bind_eq_some_iff.mp decrypted
  obtain ⟨plaintext, body, unpacked⟩ := Option.bind_eq_some_iff.mp rest
  exact ⟨rfl, pkt, cek, plaintext, opened, framed, unwrapped, body, unpacked, finished⟩

theorem origin_v3 (taken : KnockCodecV3.detect raw = some identity)
    (h : adapterDecode (configureIngressIdentity raw identity)
      (KnockCodecV3.decode env (configureIngressIdentity raw identity)) = some out) :
    Origin env raw identity (handedOn raw identity out) := by
  obtain ⟨unit, made, handed⟩ := @adapterDecode_delivered raw out _ _ identity.encrypted h
  obtain ⟨encrypted, pkt, cek, plaintext, -, framed, unwrapped, opened, -⟩ :=
    sealed_opened taken made
  unfold Origin
  rw [if_pos encrypted]
  exact .v3 pkt cek plaintext unit framed unwrapped opened made (encrypted ▸ handed)

theorem origin_v4 {control : Control} (taken : KnockCodecV4.detect raw = some identity)
    (h : adapterDecode (configureIngressIdentity raw identity)
      (KnockCodecV4.decode env (configureIngressIdentity raw identity) control).1 = some out) :
    Origin env raw identity (handedOn raw identity out) := by
  obtain ⟨unit, made, handed⟩ := @adapterDecode_delivered raw out _ _ identity.encrypted h
  obtain ⟨encrypted, pkt, cek, plaintext, -, framed, unwrapped, opened, -⟩ :=
    sealed_opened taken made
  unfold Origin
  rw [if_pos encrypted]
  exact .v4 pkt cek plaintext unit framed unwrapped opened made (encrypted ▸ handed)

theorem origin {adapter : Adapter} (registry : adapter ∈ adapters) {control after : Control}
    (taken : adapter.detect env raw = some identity)
    (decoded : adapter.decode env (configureIngressIdentity raw identity) control =
      (some out, after)) : Origin env raw identity (handedOn raw identity out) := by
  have first := congrArg Prod.fst decoded
  rcases adapters_cases registry with rfl | rfl | rfl | rfl
  · exact origin_v1 first
  · exact origin_v2 first
  · exact origin_v3 taken first
  · exact origin_v4 taken first

end Codecs

section Registry

variable {registry : List Adapter} {policy : PolicyEnforceEncryption} {env : CodecEnv}
variable {raw : Ingress} {control : Control} {p : RecvPacket}

theorem rawCopy_version (h : rawCopy raw = some p) : p.wireVersion = 0 := (rawCopy_raw h).version

/-- A structured packet is one that the adapter which took the datagram decoded, under an identity
that the policy lets through. -/
theorem normalizeOver_structured
    (h : (normalizeOver registry policy env raw control).1 = some p)
    (structured : p.wireVersion ≠ 0) :
    ∃ adapter ∈ registry, ∃ identity out after, adapter.detect env raw = some identity ∧
      adapter.decode env (configureIngressIdentity raw identity) control = (some out, after) ∧
      encryptionAllowed policy env.context identity.encrypted = true ∧
      p = handedOn raw identity out := by
  unfold normalizeOver at h
  cases found : demuxOver registry env raw with
  | none =>
    rw [found] at h
    exact absurd (rawCopy_version h) structured
  | some chosen =>
    obtain ⟨adapter, identity⟩ := chosen
    rw [found] at h
    obtain ⟨member, registered, taken⟩ := List.exists_of_findSome?_eq_some found
    obtain ⟨detected, detects, same⟩ := Option.map_eq_some_iff.mp taken
    obtain ⟨rfl, rfl⟩ := Prod.mk.inj same
    dsimp only at h
    cases decoded : member.decode env (configureIngressIdentity raw detected) control with
    | mk out after =>
      rw [decoded] at h
      cases out with
      | none => exact absurd (rawCopy_version h) structured
      | some out =>
        dsimp only at h
        split at h
        · rename_i allowed
          exact ⟨member, registered, detected, out, after, detects, decoded, allowed,
            (Option.some.inj h).symm⟩
        · contradiction

theorem normalizeOver_enforced (drawn : ∀ adapter ∈ registry, adapter ∈ adapters)
    (h : (normalizeOver registry policy env raw control).1 = some p)
    (structured : p.wireVersion ≠ 0) :
    (policy = .yes → Opened env raw p) ∧ (policy = .no → Plain env raw p) := by
  obtain ⟨adapter, registered, identity, out, after, taken, decoded, allowed, rfl⟩ :=
    normalizeOver_structured h structured
  have came := origin (drawn adapter registered) taken decoded
  unfold Origin at came
  constructor
  · rintro rfl
    change identity.encrypted = true at allowed
    rwa [if_pos allowed] at came
  · rintro rfl
    change (!identity.encrypted) = true at allowed
    rw [Bool.not_eq_true'] at allowed
    rwa [if_neg (Bool.eq_false_iff.mp allowed)] at came

end Registry

/-- Whatever adapters are registered, in whatever order: what a sequence of datagrams leaves of
structured packets under the policy for encryption came out of its own datagram with a key, and
under the policy against it without one. -/
theorem policy_enforced (registry : List Adapter)
    (drawn : ∀ adapter ∈ registry, adapter ∈ adapters) (control : Control)
    (arrivals : List Arrival) (arrival : Arrival) (p : RecvPacket)
    (made : (arrival, p) ∈ normalizeAll registry control arrivals)
    (structured : p.wireVersion ≠ 0) :
    arrival ∈ arrivals ∧ (arrival.policy = .yes → Opened arrival.env arrival.raw p) ∧
      (arrival.policy = .no → Plain arrival.env arrival.raw p) := by
  induction arrivals generalizing control with
  | nil => exact absurd made List.not_mem_nil
  | cons first arrivals ih =>
    unfold normalizeAll at made
    dsimp only at made
    rcases List.mem_append.mp made with now | later
    · obtain ⟨q, handed, same⟩ := List.mem_map.mp now
      obtain ⟨rfl, rfl⟩ := Prod.mk.inj same
      have result := Option.mem_toList.mp handed
      exact ⟨List.mem_cons_self, normalizeOver_enforced drawn result structured⟩
    · obtain ⟨member, enforced⟩ := ih _ later
      exact ⟨List.mem_cons_of_mem first member, enforced⟩

def clearRequest : Arrival where
  policy := .no
  env := ⟨KnockEncode.boxCipher, ⟨id, fun key message => key ++ message⟩, KnockContext.create,
    none, 1000⟩
  raw := { Ingress.zero with
    buffer := (KnockCodecV1.packWire ⟨1, 1000, 3, 7, 99, [], 3, [1, 2, 3]⟩
      KnockCodecV1.PACKET_SIZE).getD []
    receivedMs := 5000, ip := ascii ['1', '0', '.', '0', '.', '0', '.', '1'], clientPort := 4000 }

def clearPacket : RecvPacket :=
  { RecvPacket.zero with
    complete := true, wireVersion := V1_VERSION, fragmentCount := 1, timestamp := 1000
    receivedMs := 5000, ip := ascii ['1', '0', '.', '0', '.', '0', '.', '1'], clientPort := 4000
    wireDecode := true, user := some ⟨3, 7, 99, List.replicate 32 0, [1, 2, 3]⟩ }

/-- With codecs 4 and 1 registered, in that order, the packet gets through in the clear. -/
theorem clearRequest_plain :
    clearRequest ∈ [clearRequest] ∧ Plain clearRequest.env clearRequest.raw clearPacket := by
  have decoded : (normalizeOver [codecV4, codecV1] clearRequest.policy clearRequest.env
      clearRequest.raw ⟨false⟩).1 = some clearPacket := by decide +kernel
  have made : (clearRequest, clearPacket) ∈
      normalizeAll [codecV4, codecV1] ⟨false⟩ [clearRequest] := by
    unfold normalizeAll
    dsimp only
    rw [decoded]
    exact List.mem_cons_self
  have drawn : ∀ adapter ∈ [codecV4, codecV1], adapter ∈ adapters := by
    intro adapter member
    simp only [List.mem_cons, List.not_mem_nil, or_false] at member
    rcases member with rfl | rfl
    · exact List.mem_cons_of_mem _ (List.mem_cons_of_mem _ (List.mem_cons_of_mem _
        List.mem_cons_self))
    · exact List.mem_cons_self
  obtain ⟨member, -, plain⟩ := policy_enforced [codecV4, codecV1] drawn ⟨false⟩ [clearRequest]
    clearRequest clearPacket made (by decide)
  exact ⟨member, plain rfl⟩

end Siglatch.MuxEncryption
