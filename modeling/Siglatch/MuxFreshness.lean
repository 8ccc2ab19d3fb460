import Siglatch.MuxClients
import Siglatch.MuxEncryption

set_option autoImplicit false

namespace Siglatch.MuxFreshness
open MuxTypes ByteOrder KnockDigest KnockCodec KnockSealed KnockRoundTrip MuxAdapter MuxNormalize
open MuxInboxRuns MuxEncryption

def TIMESTAMP_FUZZ : ℤ := 300

/-- The request was made about now, by the receiver's clock. -/
def Fresh (now : ℤ) (timestamp : UInt32) : Prop :=
  now - TIMESTAMP_FUZZ ≤ timestamp.toNat ∧ (timestamp.toNat : ℤ) ≤ now + TIMESTAMP_FUZZ

def openSealed (layout : Layout) (env : CodecEnv) (raw : Ingress) : Option Bytes := do
  let pkt ← deserializeWire layout raw.buffer
  let cek ← decryptPayloadKey env pkt
  env.cipher.aesgcmDecrypt cek pkt.nonce (buildAad pkt) pkt.ciphertext pkt.tag

def bodyPayloadLen (bodyOffset : ℕ) (plaintext : Bytes) : ℕ :=
  (readU32Be plaintext (bodyOffset + 11)).toNat

def WholeBody (layout : Layout) (bodyOffset : ℕ) (plaintext : Bytes) : Prop :=
  bodyPayloadLen bodyOffset plaintext ≤ USER_DATA_PAYLOAD_MAX ∧
    plaintext.length = layout.bodyFixedSize + bodyPayloadLen bodyOffset plaintext

/-- The sealed request in the datagram, if there is one, is dated within the window. -/
def SealedFresh (env : CodecEnv) (raw : Ingress) (layout : Layout) (bodyOffset : ℕ) : Prop :=
  ∀ plaintext, openSealed layout env raw = some plaintext → WholeBody layout bodyOffset plaintext →
    Fresh env.now (readU32Be plaintext bodyOffset)

section Codecs

variable {env : CodecEnv} {raw : Ingress} {identity : IngressIdentity} {p : RecvPacket}

theorem validateV1_fresh {pkt : KnockCodecV1.Packet}
    (valid : KnockCodecV1.validateWire env.now pkt = true) : Fresh env.now pkt.timestamp := by
  unfold KnockCodecV1.validateWire at valid
  split at valid
  · contradiction
  split at valid
  · contradiction
  split at valid
  · contradiction
  · rename_i window
    obtain ⟨high, low⟩ := not_or.mp window
    exact ⟨not_lt.mp low, not_lt.mp high⟩

theorem validateV2_fresh {pkt : KnockCodecV2.Packet}
    (valid : KnockCodecV2.validateWire env.now pkt = true) : Fresh env.now pkt.timestamp := by
  unfold KnockCodecV2.validateWire at valid
  split at valid
  · contradiction
  split at valid
  · contradiction
  split at valid
  · contradiction
  split at valid
  · contradiction
  split at valid
  · contradiction
  · rename_i window
    obtain ⟨high, low⟩ := not_or.mp window
    exact ⟨not_lt.mp low, not_lt.mp high⟩

theorem decodeV1_fresh {ingress : Ingress} {unit : NormalizedUnit}
    (h : KnockCodecV1.decode env ingress = some unit) : Fresh env.now unit.timestamp := by
  obtain ⟨plaintext, encrypted, parsed⟩ := @packed_parsed env ingress unit
    (fun buf => KnockCodecV1.normalize env.now buf ingress.ip ingress.clientPort) h
  obtain ⟨pkt, accepted, rfl⟩ := Option.map_eq_some_iff.mp parsed
  exact validateV1_fresh (Option.filter_eq_some_iff.mp accepted).2

theorem decodeV2_fresh {ingress : Ingress} {unit : NormalizedUnit}
    (h : KnockCodecV2.decode env ingress = some unit) : Fresh env.now unit.timestamp := by
  obtain ⟨plaintext, encrypted, parsed⟩ := @packed_parsed env ingress unit
    (fun buf => KnockCodecV2.normalize env.now buf ingress.ip ingress.clientPort) h
  obtain ⟨pkt, accepted, rfl⟩ := Option.map_eq_some_iff.mp parsed
  exact validateV2_fresh (Option.filter_eq_some_iff.mp accepted).2

theorem copyRecvPacket_short {unit : NormalizedUnit}
    (short : unit.payload.length ≤ USER_DATA_PAYLOAD_MAX) :
    ∃ out, copyRecvPacket unit = some out ∧ out.timestamp = unit.timestamp ∧
      out.wireVersion = unit.wireVersion :=
  ⟨_, if_neg (Nat.not_lt.mpr short), rfl, rfl⟩

theorem adapterDecode_some {ingress : Ingress} {decoded : Option NormalizedUnit} :
    adapterDecode ingress decoded = some p ↔ ∃ unit, decoded = some unit ∧
      unit.payload.length ≤ USER_DATA_PAYLOAD_MAX ∧
      ∃ out, copyRecvPacket unit = some out ∧ out.timestamp = unit.timestamp ∧
        out.wireVersion = unit.wireVersion ∧ { out with receivedMs := ingress.receivedMs } = p := by
  simp only [adapterDecode, Option.bind_eq_bind, Option.bind_eq_some_iff, Option.some.injEq]
  apply exists_congr
  intro unit
  apply and_congr_right
  intro _
  constructor
  · rintro ⟨out, copied, same⟩
    have copies := copyRecvPacket_copied copied
    exact ⟨copies.short, out, copied, copies.dated, copies.version, same⟩
  · rintro ⟨-, out, copied, -, -, same⟩
    exact ⟨out, copied, same⟩

end Codecs

section Sealed

variable {layout : Layout} {bodyOffset : ℕ} {inner : Bytes → NormalizedUnit}
variable {env : CodecEnv} {raw : Ingress} {unit : NormalizedUnit}

/-- What unpacks is a body of the size that it states. -/
theorem unpackPlaintext_some (fixed : layout.bodyFixedSize = bodyOffset + 47) {plaintext : Bytes}
    {ip : CString} {clientPort : UInt16}
    (h : unpackPlaintext layout bodyOffset inner plaintext ip clientPort = some unit) :
    plaintext.length = layout.bodyFixedSize + bodyPayloadLen bodyOffset plaintext ∧
    unit.payload.length = bodyPayloadLen bodyOffset plaintext ∧
    unit.timestamp = readU32Be plaintext bodyOffset := by
  unfold unpackPlaintext at h
  dsimp only at h
  split at h
  · contradiction
  split at h
  · contradiction
  split at h
  · contradiction
  rename_i sized
  have length := not_not.mp sized
  obtain rfl := Option.some.inj h
  refine ⟨length, ?_, rfl⟩
  change (slice (bodyOffset + 15) (bodyPayloadLen bodyOffset plaintext) plaintext).length = _
  change plaintext.length = layout.bodyFixedSize + bodyPayloadLen bodyOffset plaintext at length
  unfold slice
  rw [List.length_take, List.length_drop]
  omega

theorem unpackPlaintext_isSome {plaintext : Bytes} (ip : CString) (clientPort : UInt16)
    (whole : WholeBody layout bodyOffset plaintext) :
    (unpackPlaintext layout bodyOffset inner plaintext ip clientPort).isSome = true := by
  obtain ⟨short, length⟩ := whole
  have limits : USER_DATA_PAYLOAD_MAX ≤ FORM1_PAYLOAD_MAX := by decide
  unfold bodyPayloadLen at short length
  unfold unpackPlaintext
  dsimp only
  rw [if_neg (by omega), if_neg (by omega), if_neg (not_not.mpr length)]
  rfl

theorem sealed_decode_iff (inner : Bytes → NormalizedUnit)
    (fixed : layout.bodyFixedSize = bodyOffset + 47)
    {identity : IngressIdentity} {finish : NormalizedUnit → NormalizedUnit}
    (kept : ∀ unit, (finish unit).timestamp = unit.timestamp ∧
      (finish unit).payload = unit.payload)
    (taken : KnockSealed.detect layout raw = some identity) (timestamp : UInt32) :
    (∃ unit, KnockSealed.decode layout env (fun buf => unpackPlaintext layout bodyOffset inner buf
        raw.ip raw.clientPort) raw finish = some unit ∧
      unit.payload.length ≤ USER_DATA_PAYLOAD_MAX ∧ unit.timestamp = timestamp) ↔
    ∃ plaintext, openSealed layout env raw = some plaintext ∧
      WholeBody layout bodyOffset plaintext ∧ readU32Be plaintext bodyOffset = timestamp := by
  constructor
  · rintro ⟨unit, decoded, short, rfl⟩
    obtain ⟨-, pkt, cek, plaintext, unpacked, framed, unwrapped, opens, unpacks, rfl⟩ :=
      sealed_opened taken decoded
    obtain ⟨length, payload, dated⟩ := unpackPlaintext_some fixed unpacks
    obtain ⟨sameDate, samePayload⟩ := kept unpacked
    rw [samePayload, payload] at short
    refine ⟨plaintext, ?_, ⟨short, length⟩, dated.symm.trans sameDate.symm⟩
    unfold openSealed
    simp only [framed, unwrapped, opens, Option.bind_eq_bind, Option.bind_some]
  · rintro ⟨plaintext, opens, whole, rfl⟩
    simp only [openSealed, Option.bind_eq_bind, Option.bind_eq_some_iff] at opens
    obtain ⟨pkt, framed, cek, unwrapped, opens⟩ := opens
    obtain ⟨unpacked, unpacks⟩ := Option.isSome_iff_exists.mp
      (@unpackPlaintext_isSome layout bodyOffset inner plaintext raw.ip raw.clientPort whole)
    obtain ⟨-, payload, dated⟩ := unpackPlaintext_some fixed unpacks
    obtain ⟨sameDate, samePayload⟩ := kept unpacked
    refine ⟨finish unpacked, ?_, ?_, sameDate.trans dated⟩
    · unfold KnockSealed.decode decryptAndUnpackPacket
      rw [framed]
      simp only [unwrapped, opens, unpacks, Option.bind_eq_bind, Option.bind_some, Option.map_some]
    · rw [samePayload, payload]
      exact whole.1

end Sealed

section Normalize

variable {policy : PolicyEnforceEncryption} {env : CodecEnv} {raw : Ingress} {control : Control}
variable {adapter : Adapter} {identity : IngressIdentity} {p : RecvPacket}

/-- What the mux hands on as structured of a datagram that an adapter took. -/
theorem normalize_taken_iff (found : demux env raw = some (adapter, identity)) :
    ((normalize policy env raw control).1 = some p ∧ p.wireVersion ≠ 0) ↔
      encryptionAllowed policy env.context identity.encrypted = true ∧
      ∃ out, (adapter.decode env (configureIngressIdentity raw identity) control).1 = some out ∧
        p = handedOn raw identity out ∧ out.wireVersion ≠ 0 := by
  unfold MuxNormalize.normalize
  rw [found]
  dsimp only
  cases adapter.decode env (configureIngressIdentity raw identity) control with
  | mk decoded after =>
    cases decoded with
    | none =>
      constructor
      · rintro ⟨copied, structured⟩
        exact absurd (rawCopy_version copied) structured
      · rintro ⟨-, out, impossible, -⟩
        cases impossible
    | some out =>
      dsimp only
      change ((if encryptionAllowed policy env.context identity.encrypted = true then
        (some (handedOn raw identity out), after) else (none, after)).1 = some p ∧ _) ↔ _
      by_cases allowed : encryptionAllowed policy env.context identity.encrypted = true
      · rw [if_pos allowed]
        constructor
        · rintro ⟨handed, structured⟩
          obtain rfl := Option.some.inj handed
          exact ⟨allowed, out, rfl, rfl, structured⟩
        · rintro ⟨-, other, same, rfl, structured⟩
          obtain rfl := Option.some.inj same
          exact ⟨rfl, structured⟩
      · rw [if_neg allowed]
        constructor
        · rintro ⟨impossible, -⟩
          cases impossible
        · rintro ⟨lets, -⟩
          exact absurd lets allowed

/-- The mux lets only dated-now requests of this datagram through. -/
def OnlyFresh (policy : PolicyEnforceEncryption) (env : CodecEnv) (raw : Ingress)
    (control : Control) : Prop :=
  ∀ p, (normalize policy env raw control).1 = some p → p.wireVersion ≠ 0 →
    Fresh env.now p.timestamp

theorem onlyFresh_untaken (found : demux env raw = none) : OnlyFresh policy env raw control := by
  intro p handed structured
  rcases normalize_cases handed with copied | ⟨adapter, identity, -, -, taken, -⟩
  · exact absurd (rawCopy_version copied) structured
  · rw [found] at taken
    cases taken

theorem onlyFresh_taken (found : demux env raw = some (adapter, identity)) :
    OnlyFresh policy env raw control ↔
      (encryptionAllowed policy env.context identity.encrypted = true → ∀ out,
        (adapter.decode env (configureIngressIdentity raw identity) control).1 = some out →
        out.wireVersion ≠ 0 → Fresh env.now out.timestamp) := by
  constructor
  · intro only allowed out decoded structured
    obtain ⟨handed, version⟩ := (@normalize_taken_iff policy env raw control adapter identity
      (handedOn raw identity out) found).mpr ⟨allowed, out, decoded, rfl, structured⟩
    exact only (handedOn raw identity out) handed version
  · intro fresh p handed structured
    obtain ⟨allowed, out, decoded, rfl, version⟩ := (normalize_taken_iff found).mp
      ⟨handed, structured⟩
    exact fresh allowed out decoded version

theorem onlyFresh_v1 (found : demux env raw = some (codecV1, identity)) :
    OnlyFresh policy env raw control := by
  refine (onlyFresh_taken found).mpr fun _ out decoded _ => ?_
  obtain ⟨unit, made, -, copy, -, dated, -, rfl⟩ := adapterDecode_some.mp decoded
  change Fresh env.now copy.timestamp
  rw [dated]
  exact decodeV1_fresh made

theorem onlyFresh_v2 (found : demux env raw = some (codecV2, identity)) :
    OnlyFresh policy env raw control := by
  refine (onlyFresh_taken found).mpr fun _ out decoded _ => ?_
  obtain ⟨unit, made, -, copy, -, dated, -, rfl⟩ := adapterDecode_some.mp decoded
  change Fresh env.now copy.timestamp
  rw [dated]
  exact decodeV2_fresh made

theorem encryptionAllowed_true_iff (context : KnockContext.CodecContext) :
    encryptionAllowed policy context true = true ↔ policy ≠ .no := by
  cases policy with
  | any =>
    unfold encryptionAllowed
    simp
  | yes => exact iff_of_true rfl (by decide)
  | no => exact iff_of_false Bool.false_ne_true (not_not.mpr rfl)

theorem onlyFresh_sealed {layout : Layout} {bodyOffset : ℕ} {inner : Bytes → NormalizedUnit}
    {finish : NormalizedUnit → NormalizedUnit} (fixed : layout.bodyFixedSize = bodyOffset + 47)
    (kept : ∀ unit, (finish unit).timestamp = unit.timestamp ∧
      (finish unit).payload = unit.payload)
    (versioned : ∀ unit, (finish unit).wireVersion ≠ 0)
    (found : demux env raw = some (adapter, identity))
    (taken : KnockSealed.detect layout raw = some identity)
    (decodes : (adapter.decode env (configureIngressIdentity raw identity) control).1 =
      adapterDecode (configureIngressIdentity raw identity) (KnockSealed.decode layout env
        (fun buf => unpackPlaintext layout bodyOffset inner buf raw.ip raw.clientPort) raw
        finish)) :
    OnlyFresh policy env raw control ↔ policy = .no ∨ SealedFresh env raw layout bodyOffset := by
  have encrypted : identity.encrypted = true := by
    obtain ⟨pkt, -, rfl⟩ := Option.map_eq_some_iff.mp taken
    rfl
  rw [onlyFresh_taken found, encrypted, encryptionAllowed_true_iff, decodes, or_iff_not_imp_left]
  apply imp_congr_right
  intro _
  constructor
  · intro fresh plaintext opens whole
    obtain ⟨unit, decoded, short, dated⟩ := (sealed_decode_iff inner fixed kept taken
      (readU32Be plaintext bodyOffset)).mpr ⟨plaintext, opens, whole, rfl⟩
    obtain ⟨out, copied, sameDate, sameVersion⟩ := copyRecvPacket_short short
    obtain ⟨-, pkt, cek, body, unpacked, -, -, -, -, rfl⟩ := sealed_opened taken decoded
    have now := fresh { out with receivedMs := raw.receivedMs } (adapterDecode_some.mpr
      ⟨finish unpacked, decoded, short, out, copied, sameDate, sameVersion, rfl⟩)
      (sameVersion ▸ versioned unpacked)
    rw [← dated, ← sameDate]
    exact now
  · intro fresh out handed _
    obtain ⟨unit, decoded, short, copy, -, dated, -, rfl⟩ := adapterDecode_some.mp handed
    obtain ⟨plaintext, opens, whole, stamp⟩ := (sealed_decode_iff inner fixed kept taken
      unit.timestamp).mp ⟨unit, decoded, short, rfl⟩
    change Fresh env.now copy.timestamp
    rw [dated, ← stamp]
    exact fresh plaintext opens whole

theorem detect_none_of_version {layout other : Layout}
    (taken : KnockSealed.detect layout raw = some identity)
    (differ : layout.wireVersion ≠ other.wireVersion) :
      deserializeWire other raw.buffer = none := by
  obtain ⟨pkt, framed, -⟩ := Option.map_eq_some_iff.mp taken
  by_contra accepted
  have version := deserializeWire_version (Option.isSome_iff_ne_none.mpr accepted)
  have own := deserializeWire_version (Option.isSome_iff_exists.mpr ⟨pkt, framed⟩)
  exact differ (own.symm.trans version)

theorem sealedFresh_unframed {layout : Layout} (bodyOffset : ℕ)
    (unframed : deserializeWire layout raw.buffer = none) :
    SealedFresh env raw layout bodyOffset := by
  intro plaintext opens
  unfold openSealed at opens
  rw [unframed] at opens
  cases opens

/-- Which codec a datagram goes to: the first that takes it. -/
theorem demux_cases (env : CodecEnv) (raw : Ingress) :
    (∃ identity, KnockCodecV1.detect env raw = some identity ∧
      demux env raw = some (codecV1, identity)) ∨
    (KnockCodecV1.detect env raw = none ∧ ∃ identity, KnockCodecV2.detect env raw =
      some identity ∧ demux env raw = some (codecV2, identity)) ∨
    (KnockCodecV1.detect env raw = none ∧ KnockCodecV2.detect env raw = none ∧
      ((∃ identity, KnockCodecV3.detect raw = some identity ∧
        demux env raw = some (codecV3, identity)) ∨
      (KnockCodecV3.detect raw = none ∧ ∃ identity, KnockCodecV4.detect raw = some identity ∧
        demux env raw = some (codecV4, identity)) ∨
      (KnockCodecV3.detect raw = none ∧ KnockCodecV4.detect raw = none ∧
        demux env raw = none))) := by
  have order : demux env raw = [codecV1, codecV2, codecV3, codecV4].findSome? fun adapter =>
    (adapter.detect env raw).map (adapter, ·) := rfl
  have v1 : codecV1.detect env raw = KnockCodecV1.detect env raw := rfl
  have v2 : codecV2.detect env raw = KnockCodecV2.detect env raw := rfl
  have v3 : codecV3.detect env raw = KnockCodecV3.detect raw := rfl
  have v4 : codecV4.detect env raw = KnockCodecV4.detect raw := rfl
  simp only [List.findSome?_cons, v1, v2, v3, v4] at order
  cases first : KnockCodecV1.detect env raw with
  | some identity =>
    rw [first] at order
    exact .inl ⟨identity, rfl, order⟩
  | none =>
    rw [first] at order
    apply Or.inr
    cases second : KnockCodecV2.detect env raw with
    | some identity =>
      rw [second] at order
      exact .inl ⟨rfl, identity, rfl, order⟩
    | none =>
      rw [second] at order
      refine .inr ⟨rfl, rfl, ?_⟩
      cases third : KnockCodecV3.detect raw with
      | some identity =>
        rw [third] at order
        exact .inl ⟨identity, rfl, order⟩
      | none =>
        rw [third] at order
        apply Or.inr
        cases fourth : KnockCodecV4.detect raw with
        | some identity =>
          rw [fourth] at order
          exact .inl ⟨rfl, identity, rfl, order⟩
        | none =>
          rw [fourth] at order
          exact .inr ⟨rfl, rfl, order⟩

/-- The mux lets only requests through that are dated now, unless the datagram is a sealed one,
which no codec in front of the sealed ones takes and which the policy admits: then all depends on
the timestamp under the seal. -/
theorem onlyFresh_iff (policy : PolicyEnforceEncryption) (env : CodecEnv) (raw : Ingress)
    (control : Control) :
    OnlyFresh policy env raw control ↔ policy = .no ∨
      (KnockCodecV1.detect env raw).isSome = true ∨ (KnockCodecV2.detect env raw).isSome = true ∨
      SealedFresh env raw KnockCodecV3.form1 0 ∧
        SealedFresh env raw KnockCodecV4.form1 KnockCodecV4.INNER_ENVELOPE_WIRE_SIZE := by
  rcases demux_cases env raw with ⟨identity, taken, found⟩ | ⟨v1, identity, taken, found⟩ |
    ⟨v1, v2, ⟨identity, taken, found⟩ | ⟨v3, identity, taken, found⟩ | ⟨v3, v4, found⟩⟩
  · exact iff_of_true (onlyFresh_v1 found) (.inr (.inl (by rw [taken]; rfl)))
  · exact iff_of_true (onlyFresh_v2 found) (.inr (.inr (.inl (by rw [taken]; rfl))))
  · have other : SealedFresh env raw KnockCodecV4.form1 KnockCodecV4.INNER_ENVELOPE_WIRE_SIZE :=
      sealedFresh_unframed _ (detect_none_of_version taken (by decide))
    have version : V3_WIRE_VERSION ≠ 0 := by decide
    rw [v1, v2, onlyFresh_sealed (by rfl) (fun _ => by exact ⟨rfl, rfl⟩)
      (fun _ => by exact version) found taken rfl]
    simp [other]
  · have other : SealedFresh env raw KnockCodecV3.form1 0 :=
      sealedFresh_unframed _ (Option.map_eq_none_iff.mp v3)
    have version : V4_WIRE_VERSION ≠ 0 := by decide
    rw [v1, v2, onlyFresh_sealed (by rfl) (fun _ => by exact ⟨rfl, rfl⟩)
      (fun _ => by exact version) found taken rfl]
    simp [other]
  · have third : SealedFresh env raw KnockCodecV3.form1 0 :=
      sealedFresh_unframed _ (Option.map_eq_none_iff.mp v3)
    have fourth : SealedFresh env raw KnockCodecV4.form1 KnockCodecV4.INNER_ENVELOPE_WIRE_SIZE :=
      sealedFresh_unframed _ (Option.map_eq_none_iff.mp v4)
    exact iff_of_true (onlyFresh_untaken found) (.inr (.inr (.inr ⟨third, fourth⟩)))

end Normalize

def sealedHello : Ingress :=
  { Ingress.zero with
    buffer := ((codecV4.encode MuxClients.clientEnv KnockEncode.plainEntropy
      MuxClients.helloPacket).get MuxClients.hello_encodes).egressBuffer
    receivedMs := 5000, ip := ascii ['1', '0', '.', '0', '.', '0', '.', '1'], clientPort := 4000 }

/-- Days later the sealed request still gets through. -/
theorem sealedHello_never_stale :
    ¬ ∀ (policy : PolicyEnforceEncryption) (env : CodecEnv) (raw : Ingress) (control : Control),
      OnlyFresh policy env raw control := by
  intro always
  let later : CodecEnv := { MuxClients.serverEnv with now := 1000000 }
  have handed : ((normalize .yes later sealedHello ⟨false⟩).1.map fun p =>
      (p.wireVersion, p.timestamp)) = some (V4_WIRE_VERSION, 1000) := by decide +kernel
  obtain ⟨p, made, same⟩ := Option.map_eq_some_iff.mp handed
  obtain ⟨version, timestamp⟩ := Prod.mk.inj same
  have dated := (always .yes later sealedHello ⟨false⟩ p made (by rw [version]; decide)).1
  rw [timestamp] at dated
  exact absurd dated (by decide)

end Siglatch.MuxFreshness
