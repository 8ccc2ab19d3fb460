import Siglatch.KnockCapacity

set_option autoImplicit false

namespace Siglatch.KnockLimits
open MuxTypes ByteOrder KnockDigest DaemonTypes KnockCodec KnockSealed KnockEncode KnockRoundTrip
  KnockWire KnockCapacity MuxAdapter MuxNormalize

/-- The mux hands on a packet of the codec with the payload. -/
def Delivered (codec : SealedCodec) (payload : Bytes) (result : Option RecvPacket) : Prop :=
  ∃ p user, result = some p ∧ p.wireVersion = codec.layout.wireVersion ∧ p.user = some user ∧
    user.payload = payload

section Normalize

variable {server : CodecEnv} {ingress : Ingress} {adapter : Adapter} {identity : IngressIdentity}
  {unit : NormalizedUnit} {after : Control}

theorem normalize_decoded (policy : PolicyEnforceEncryption) (control : Control)
    (found : demux server ingress = some (adapter, identity))
    (encrypted : identity.encrypted = true)
    (decoded : adapter.decode server (configureIngressIdentity ingress identity) control =
      (adapterDecode (configureIngressIdentity ingress identity) (some unit), after)) :
    (normalize policy server ingress control).1 =
      if USER_DATA_PAYLOAD_MAX < unit.payload.length then rawCopy ingress
      else if policy = .no then none
      else some { RecvPacket.zero with
        complete := unit.complete, wireVersion := unit.wireVersion, wireForm := unit.wireForm
        receivedMs := ingress.receivedMs
        sessionId := unit.sessionId, messageId := unit.messageId, streamId := unit.streamId
        fragmentIndex := unit.fragmentIndex, fragmentCount := unit.fragmentCount
        timestamp := unit.timestamp, ip := ingress.ip, clientPort := ingress.clientPort
        encrypted := true, wireDecode := true, wireAuth := unit.wireAuth
        user := some ⟨unit.userId, unit.actionId, unit.challenge, unit.hmac, unit.payload⟩ } := by
  have allowed : encryptionAllowed policy server.context true = !decide (policy = .no) := by
    cases policy with
    | any => exact ite_self _
    | yes => rfl
    | no => rfl
  unfold MuxNormalize.normalize
  rw [found]
  dsimp only
  rw [decoded]
  unfold adapterDecode copyRecvPacket
  by_cases long : USER_DATA_PAYLOAD_MAX < unit.payload.length
  · simp only [if_pos long, Option.bind_eq_bind, Option.bind_some, Option.bind_none]
  · simp only [if_neg long, Option.bind_eq_bind, Option.bind_some, configureIngressIdentity,
      encrypted, allowed]
    by_cases refused : policy = .no
    · simp [refused]
    · simp [refused]

end Normalize

section Arrival

variable {client server : CodecEnv} {random : Entropy} {plaintext : Bytes} {pkt : Form1Packet}
  {ingress : Ingress}

theorem detectV3_own (sealed : SealedAs KnockCodecV3.form1 client random plaintext pkt)
    (received : ingress.buffer = wire pkt) :
    KnockCodecV3.detect ingress = some (SealedCodec.identity .v3) := by
  unfold KnockCodecV3.detect KnockSealed.detect
  rw [received, deserializeWire_wire sealed.sized sealed.magic sealed.version sealed.form,
    Option.map_some, sealed.magic, sealed.version, sealed.form]
  rfl

theorem demux_sealed {codec : SealedCodec} (matching : Matching client server)
    (lawful : Lawful client.cipher) (sealed : SealedAs codec.layout client random plaintext pkt)
    (received : ingress.buffer = wire pkt) :
    demux server ingress = some (codec.adapter, codec.identity) := by
  cases codec with
  | v4 => exact demux_wire matching lawful sealed received
  | v3 =>
    have v1 : codecV1.detect server ingress = none :=
      detectV1_wire matching lawful sealed received
    have v2 : codecV2.detect server ingress = none :=
      detectV2_wire matching lawful sealed received (by decide)
    have v3 : codecV3.detect server ingress = some (SealedCodec.identity .v3) :=
      detectV3_own sealed received
    unfold demux adapters
    simp only [List.findSome?_cons, v1, v2, v3, Option.map_none, Option.map_some]
    rfl

theorem decodeV3_opened {normal : NormalizedUnit} (matching : Matching client server)
    (lawful : Lawful client.cipher)
    (sealed : SealedAs KnockCodecV3.form1 client random (packBody normal) pkt)
    (fits : normal.payload.length ≤ FORM1_PAYLOAD_MAX) (received : ingress.buffer = wire pkt) :
    ∃ unit, KnockCodecV3.decode server ingress = some unit ∧
      unit.wireVersion = V3_WIRE_VERSION ∧ unit.payload = normal.payload := by
  have unpacked := @unpackPlaintext_pack KnockCodecV3.form1 [] (fun _ => NormalizedUnit.zero) rfl
    normal ingress.ip ingress.clientPort fits
  have decoded := fun finish => decode_sealed matching.cipher matching.opens lawful sealed
    (fun buf => unpackPlaintext KnockCodecV3.form1 0 (fun _ => NormalizedUnit.zero) buf ingress.ip
      ingress.clientPort) received finish
  exact ⟨_, (decoded _).trans (congrArg (Option.map _) unpacked), rfl, rfl⟩

theorem decodeV4_opened {normal : NormalizedUnit} (matching : Matching client server)
    (lawful : Lawful client.cipher)
    (sealed : SealedAs KnockCodecV4.form1 client random
      (KnockCodecV4.packInnerEnvelope normal ++ packBody normal) pkt)
    (fits : normal.payload.length ≤ FORM1_PAYLOAD_MAX) (received : ingress.buffer = wire pkt)
    (control : Control) : ∃ unit, KnockCodecV4.decode server ingress control = (some unit, ⟨true⟩) ∧
      unit.wireVersion = V4_WIRE_VERSION ∧ unit.payload = normal.payload := by
  have unpacked := unpackPlain_pack normal ingress.ip ingress.clientPort fits
  have decoded := decode_sealed matching.cipher matching.opens lawful sealed
    (KnockCodecV4.unpackPlain ingress.ip ingress.clientPort) received KnockCodecV4.finish
  rw [unpacked] at decoded
  refine ⟨KnockCodecV4.finish (opened normal ingress.ip ingress.clientPort), ?_, rfl, rfl⟩
  unfold KnockCodecV4.decode
  rw [decoded]
  rfl

theorem decode_opened {codec : SealedCodec} {normal : NormalizedUnit}
    (matching : Matching client server) (lawful : Lawful client.cipher)
    (sealed : SealedAs codec.layout client random (codec.inner normal ++ packBody normal) pkt)
    (fits : normal.payload.length ≤ FORM1_PAYLOAD_MAX) (received : ingress.buffer = wire pkt)
    (control : Control) : ∃ unit after, codec.adapter.decode server ingress control =
        (adapterDecode ingress (some unit), after) ∧
      unit.wireVersion = codec.layout.wireVersion ∧ unit.payload = normal.payload := by
  cases codec with
  | v3 =>
    obtain ⟨unit, decoded, version, payload⟩ :=
      decodeV3_opened matching lawful sealed fits received
    refine ⟨unit, control, ?_, version, payload⟩
    rw [← decoded]
    rfl
  | v4 =>
    obtain ⟨unit, decoded, version, payload⟩ :=
      decodeV4_opened matching lawful sealed fits received control
    refine ⟨unit, ⟨true⟩, ?_, version, payload⟩
    change (adapterDecode ingress (KnockCodecV4.decode server ingress control).1,
      (KnockCodecV4.decode server ingress control).2) = _
    rw [decoded]

theorem packPlain_eq (codec : SealedCodec) :
    codec.packPlain = fun normal => packPlaintext codec.layout (codec.inner normal) normal := by
  cases codec with
  | v3 => rfl
  | v4 => rfl

theorem layout_fixed (codec : SealedCodec) (normal : NormalizedUnit) :
    codec.layout.bodyFixedSize = (codec.inner normal).length + 47 := by
  cases codec with
  | v3 => rfl
  | v4 => exact (congrArg (· + 47) (length_packInnerEnvelope normal)).symm

theorem inner_hmac (codec : SealedCodec) (normal : NormalizedUnit) (hmac : Bytes) :
    codec.inner { normal with hmac := hmac } = codec.inner normal := by
  cases codec with
  | v3 => rfl
  | v4 => rfl

theorem wireSize_le {layout : Layout} (ranged : Ranged layout pkt) :
    wireSize pkt ≤ layout.packetMaxSize := by
  have wrapped := ranged.wrapped_le
  have body := ranged.body_le
  unfold wireSize Layout.packetMaxSize
  omega

theorem encodeInto_sealed {codec : SealedCodec} (lawful : Lawful client.cipher)
    {random : Option Entropy} {normal : NormalizedUnit} {buffer : Bytes} {capacity : ℕ}
    {result : Encoded} (encoded : encodeInto codec client random normal buffer capacity = result)
    (ok : result.rc = 1) (room : result.outLen ≤ capacity) :
    normal.payload.length ≤ FORM1_PAYLOAD_MAX ∧ ∃ drawn hmac pkt,
      SealedAs codec.layout client drawn
        (codec.inner normal ++ packBody { normal with hmac := hmac }) pkt ∧
      result.out.take result.outLen = wire pkt := by
  cases made : sealedPacket codec client random normal with
  | none =>
    unfold encodeInto at encoded
    rw [made] at encoded
    subst encoded
    exact absurd ok zero_ne_one
  | some pkt =>
    obtain ⟨key, able⟩ := (sealedPacket_isSome lawful random).mp
      (Option.isSome_iff_exists.mpr ⟨pkt, made⟩)
    obtain ⟨ranged, -⟩ := sealedPacket_size lawful made able
    obtain ⟨drawn, rfl⟩ := Option.isSome_iff_exists.mp able.drawn
    have fits : wireSize pkt ≤ capacity := by
      by_contra short
      rw [encodeInto_short _ made ranged (Nat.not_le.mp short)] at encoded
      subst encoded
      exact short room
    have whole : KnockSealed.encode codec.layout client (codec.generate client.hash)
        codec.packPlain drawn normal codec.layout.packetMaxSize = some (wire pkt) := by
      rw [encode_eq, made, Option.map_some, pack_ranged ranged (wireSize_le ranged)]
      rfl
    rw [packPlain_eq] at whole
    obtain ⟨short, -, hmac, other, -, sealed, wired⟩ := encodeSealed_wire lawful
      (layout_fixed codec) (inner_hmac codec) (bodyMax_small codec) whole
    refine ⟨short, drawn, hmac, other, sealed, ?_⟩
    obtain ⟨-, length⟩ := unpackWire_ranged_wire ranged (bodyMax_small codec)
    rw [encodeInto_room _ made ranged fits] at encoded
    subst encoded
    dsimp only
    rw [← length, List.take_left, wired]

end Arrival

section Limits

variable {codec : SealedCodec} {client server : CodecEnv} {random : Option Entropy}
  {normal : NormalizedUnit} {buffer : Bytes} {capacity : ℕ} {result : Encoded} {ingress : Ingress}

theorem normalize_encoded (lawful : Lawful client.cipher) (matching : Matching client server)
    (encoded : encodeInto codec client random normal buffer capacity = result)
    (ok : result.rc = 1) (room : result.outLen ≤ capacity)
    (received : ingress.buffer = result.out.take result.outLen)
    (policy : PolicyEnforceEncryption) (control : Control) :
    ∃ p, Delivered codec normal.payload (some p) ∧
      (normalize policy server ingress control).1 =
        if USER_DATA_PAYLOAD_MAX < normal.payload.length then rawCopy ingress
        else if policy = .no then none else some p := by
  obtain ⟨fits, drawn, hmac, pkt, sealed, wired⟩ := encodeInto_sealed lawful encoded ok room
  rw [← inner_hmac codec normal hmac] at sealed
  have arrived : ingress.buffer = wire pkt := received.trans wired
  have found := demux_sealed matching lawful sealed arrived
  obtain ⟨unit, after, decoded, version, payload⟩ :=
    @decode_opened _ _ _ _ (configureIngressIdentity ingress codec.identity) codec
      { normal with hmac := hmac } matching lawful sealed fits arrived control
  have outcome := normalize_decoded policy control found rfl decoded
  rw [payload] at outcome
  exact ⟨_, ⟨_, _, rfl, version, rfl, rfl⟩, outcome⟩

theorem rawCopy_undelivered (payload : Bytes) :
    ¬ Delivered codec payload (rawCopy ingress) := by
  rintro ⟨p, user, copied, -, carried, -⟩
  rw [(rawCopy_raw copied).user] at carried
  cases carried

/-- The payload arrives in a packet of its own, and not as raw bytes, exactly if the user record
holds it and the policy lets encrypted packets in. -/
theorem delivered_iff (codec : SealedCodec) (client server : CodecEnv) (random : Option Entropy)
    (normal : NormalizedUnit) (buffer : Bytes) (capacity : ℕ) (ingress : Ingress)
    (policy : PolicyEnforceEncryption) (control : Control) (lawful : Lawful client.cipher)
    (matching : Matching client server)
    (ok : (encodeInto codec client random normal buffer capacity).rc = 1)
    (room : (encodeInto codec client random normal buffer capacity).outLen ≤ capacity)
    (received : ingress.buffer = (encodeInto codec client random normal buffer capacity).out.take
      (encodeInto codec client random normal buffer capacity).outLen) :
    (Delivered codec normal.payload (normalize policy server ingress control).1 ∧
      (normalize policy server ingress control).1 ≠ rawCopy ingress) ↔
      normal.payload.length ≤ 199 ∧ policy ≠ .no := by
  obtain ⟨p, delivered, outcome⟩ :=
    normalize_encoded lawful matching rfl ok room received policy control
  have limit : USER_DATA_PAYLOAD_MAX = 199 := rfl
  rw [outcome, limit]
  constructor
  · rintro ⟨arrived, structured⟩
    split at arrived
    · exact absurd arrived (rawCopy_undelivered normal.payload)
    · rename_i short
      split at arrived
      · obtain ⟨_, _, dropped, -⟩ := arrived
        cases dropped
      · rename_i lets_in
        exact ⟨Nat.not_lt.mp short, lets_in⟩
  · rintro ⟨short, encrypted⟩
    rw [if_neg (Nat.not_lt.mpr short), if_neg encrypted]
    refine ⟨delivered, ?_⟩
    intro raw
    rw [raw] at delivered
    exact rawCopy_undelivered normal.payload delivered

end Limits

section Sample

theorem sample_matching : Matching sampleEnv sampleEnv where
  cipher := rfl
  opens padding message out wrapped := boxCipher_opens 5 5 padding message out wrapped
  sized _ _ _ _ known := by cases known

def sampleSent (payload : Bytes) : Encoded :=
  encodeInto .v4 sampleEnv (some plainEntropy) { sampleUnit with payload := payload } [] 888

def sampleIngress (payload : Bytes) : Ingress :=
  { Ingress.zero with buffer := (sampleSent payload).out.take (sampleSent payload).outLen }

theorem sampleIngress_buffer (payload : Bytes) : (sampleIngress payload).buffer =
    (sampleSent payload).out.take (sampleSent payload).outLen := rfl

theorem sample_encoded (payload : Bytes) (short : payload.length ≤ 512) :
    (sampleSent payload).rc = 1 ∧ (sampleSent payload).outLen ≤ 888 := by
  have able : Encodable .v4 sampleEnv (some plainEntropy) { sampleUnit with payload := payload }
      5 :=
    ⟨rfl, rfl, rfl, short, ⟨_, rfl, fun auth => absurd auth Bool.false_ne_true, rfl⟩, rfl,
      show 43 ≤ 256 by decide, le_refl 256⟩
  obtain ⟨pkt, made⟩ := Option.isSome_iff_exists.mp
    ((sealedPacket_isSome boxCipher_lawful (some plainEntropy)).mpr ⟨5, able⟩)
  obtain ⟨ranged, -⟩ := sealedPacket_size boxCipher_lawful made able
  have size : wireSize pkt ≤ 888 := (wireSize_le ranged).trans (by decide)
  unfold sampleSent
  rw [encodeInto_room _ made ranged size]
  exact ⟨rfl, size⟩

theorem delivered_sample :
    Delivered .v4 [7] (normalize .yes sampleEnv (sampleIngress [7]) ⟨false⟩).1 ∧
      (normalize .yes sampleEnv (sampleIngress [7]) ⟨false⟩).1 ≠ rawCopy (sampleIngress [7]) :=
  (delivered_iff .v4 sampleEnv sampleEnv (some plainEntropy) { sampleUnit with payload := [7] } []
    888 (sampleIngress [7]) .yes ⟨false⟩ boxCipher_lawful sample_matching
    (sample_encoded [7] (by decide)).1 (sample_encoded [7] (by decide)).2
    (sampleIngress_buffer [7])).mpr ⟨by decide, by decide⟩

theorem sample_raw {payload : Bytes} (short : payload.length ≤ 512)
    (long : USER_DATA_PAYLOAD_MAX < payload.length) :
    ¬ Delivered .v4 payload (normalize .yes sampleEnv (sampleIngress payload) ⟨false⟩).1 ∧
    (normalize .yes sampleEnv (sampleIngress payload) ⟨false⟩).1 =
      rawCopy (sampleIngress payload) ∧ (rawCopy (sampleIngress payload)).isSome = true := by
  obtain ⟨ok, room⟩ := sample_encoded payload short
  have length : (sampleIngress payload).buffer.length ≤ NORMALIZED_PACKET_BUFFER_SIZE :=
    (List.length_take_le _ _).trans (room.trans (by decide))
  have kept : (rawCopy (sampleIngress payload)).isSome = true := by
    unfold rawCopy
    rw [if_neg (Nat.not_lt.mpr length)]
    rfl
  obtain ⟨p, -, outcome⟩ := normalize_encoded boxCipher_lawful sample_matching rfl ok room
    (sampleIngress_buffer payload) .yes ⟨false⟩
  rw [if_pos long] at outcome
  rw [outcome]
  exact ⟨rawCopy_undelivered _, rfl, kept⟩

/-- A byte more than the user record holds, and the mux hands on the sealed bytes. -/
theorem oversized_raw : (sampleSent (List.replicate 200 7)).rc = 1 ∧
    ¬ Delivered .v4 (List.replicate 200 7)
      (normalize .yes sampleEnv (sampleIngress (List.replicate 200 7)) ⟨false⟩).1 ∧
    (normalize .yes sampleEnv (sampleIngress (List.replicate 200 7)) ⟨false⟩).1 =
      rawCopy (sampleIngress (List.replicate 200 7)) ∧
    (rawCopy (sampleIngress (List.replicate 200 7))).isSome = true :=
  have length : (List.replicate 200 (7 : UInt8)).length = 200 := List.length_replicate
  have short : (List.replicate 200 (7 : UInt8)).length ≤ 512 := length.le.trans (by decide)
  ⟨(sample_encoded _ short).1, sample_raw short (lt_of_lt_of_eq (by decide) length.symm)⟩

end Sample

end Siglatch.KnockLimits
