import Siglatch.KnockLimits
import Siglatch.KnockTransmit
import Siglatch.MuxLiveSessions
import Siglatch.MuxRoundTrip

set_option autoImplicit false

namespace Siglatch.KnockTransit
open MuxTypes ByteOrder KnockDigest DaemonTypes KnockCodec KnockSealed KnockEncode KnockRoundTrip
open MuxAdapter MuxInboxRuns MuxNormalize MuxFreshness KnockPacked MuxRoundTrip MuxLiveSessions
  KnockLimits

/-- The sealed codecs always encrypt, the other two do as they are asked. -/
def secret (adapter : Adapter) (send : SendPacket) : Bool :=
  send.encrypted ||
    decide (adapter.wireVersion = V3_WIRE_VERSION ∨ adapter.wireVersion = V4_WIRE_VERSION)

/-- What keeps the receiver from taking a packet for one of another codec: the key that it tries on
whole datagrams is no larger than the sender's, and it opens nothing in a packet in the clear that
would pass for one of codec 1. -/
structure Distinct (adapter : Adapter) (client server : CodecEnv) (send : SendPacket)
    (ingress : Ingress) : Prop where
  sized : ∀ serverKey privateKey session publicKey, server.context.serverKey = some serverKey →
    serverKey.privateKey = some privateKey → client.session = some session →
    session.publicKey = some publicKey →
    client.cipher.keySize privateKey ≤ client.cipher.keySize publicKey
  unopened : adapter.wireVersion = V2_WIRE_VERSION → send.encrypted = false →
    ∀ opened, privateDecrypt server ingress.buffer = some opened →
      KnockCodecV1.deserializeWire server.now opened = none
  readable : adapter.wireVersion = V1_VERSION ∨ adapter.wireVersion = V2_WIRE_VERSION →
    send.encrypted = false → server.context.serverSecure = false

section Detect

variable {adapter : Adapter} {client server : CodecEnv} {send : SendPacket} {user : UserSendData}
  {ingress : Ingress}

theorem matching_of (exchange : Exchange adapter client server send user ingress)
    (apart : Distinct adapter client server send ingress) : Matching client server :=
  ⟨exchange.peer.cipher, exchange.peer.opens, apart.sized⟩

theorem deserializeV1_sentV2 (now : ℤ) (normal : NormalizedUnit) (hmac : Bytes) :
    KnockCodecV1.deserializeWire now (fieldsV2 (sentV2 normal hmac)).flatten = none := by
  by_contra accepted
  obtain ⟨found, accepted⟩ := Option.ne_none_iff_exists'.mp accepted
  obtain ⟨unpacked, valid⟩ := Option.filter_eq_some_iff.mp accepted
  unfold KnockCodecV1.unpackWire at unpacked
  split at unpacked
  · contradiction
  · obtain rfl := Option.some.inj unpacked
    have magic : writeU32Be PREFIX_MAGIC = [0x53, 0x4C, 0x50, 0x4B] := by decide
    have first : byteAt (fieldsV2 (sentV2 normal hmac)).flatten 0 = 0x53 := by
      unfold fieldsV2 sentV2
      rw [magic]
      rfl
    unfold KnockCodecV1.validateWire at valid
    dsimp only at valid
    rw [first, if_pos (by decide)] at valid
    contradiction

theorem detectV1_sentV2 (exchange : Exchange codecV2 client server send user ingress)
    (apart : Distinct codecV2 client server send ingress) :
    KnockCodecV1.detect server ingress = none := by
  obtain ⟨random, egress, encoded, received⟩ := exchange.encoded
  obtain ⟨fits, hmac, -, encrypts⟩ := encodeV2_wire
    (adapterEncode_unit exchange.carried exchange.fits encoded)
  have foreign := deserializeV1_sentV2 server.now (sendUnit send user) hmac
  have whole : (fieldsV2 (sentV2 (sendUnit send user) hmac)).flatten.length =
      KnockCodecV2.FORM1_PACKET_SIZE := length_laid (fieldsV2_sized _)
  have same : KnockCodecV2.FORM1_PACKET_SIZE = KnockCodecV1.PACKET_SIZE := rfl
  unfold KnockCodecV1.detect
  rcases encryptPacked_received exchange.lawful exchange.peer encrypts with
    ⟨clear, plain⟩ | ⟨-, decrypted, longer⟩
  · have unread : ¬ (ingress.buffer.length = KnockCodecV1.PACKET_SIZE ∧
        (KnockCodecV1.deserializeWire server.now ingress.buffer).isSome = true) := by
      rw [received, plain, foreign]
      exact fun h => Bool.false_ne_true h.2
    rw [if_neg unread]
    cases opened : privateDecrypt server ingress.buffer with
    | none => rfl
    | some found =>
      have refused := apart.unopened rfl clear found opened
      dsimp only
      rw [refused]
      exact if_neg fun h => Bool.false_ne_true h.2
  · rw [if_neg (by rw [received]; omega), received, decrypted]
    dsimp only
    rw [foreign]
    exact if_neg fun h => Bool.false_ne_true h.2

theorem sealed_of_v3 (exchange : Exchange codecV3 client server send user ingress) :
    ∃ random plaintext pkt, SealedAs KnockCodecV3.form1 client random plaintext pkt ∧
      ingress.buffer = wire pkt := by
  obtain ⟨random, egress, encoded, received⟩ := exchange.encoded
  obtain ⟨-, -, hmac, pkt, -, sealedAs, wired⟩ := @encodeSealed_wire client random exchange.lawful
    KnockCodecV3.form1 _ (fun _ => []) (fun _ => rfl) (fun _ _ => rfl) (by decide) _ _
    (adapterEncode_unit exchange.carried exchange.fits encoded)
  exact ⟨random, _, pkt, sealedAs, received.trans wired⟩

theorem sealed_of_v4 (exchange : Exchange codecV4 client server send user ingress) :
    ∃ random plaintext pkt, SealedAs KnockCodecV4.form1 client random plaintext pkt ∧
      ingress.buffer = wire pkt := by
  obtain ⟨random, egress, encoded, received⟩ := exchange.encoded
  obtain ⟨-, hmac, pkt, sealedAs, wired⟩ := encodeV4_wire exchange.lawful
    (adapterEncode_unit exchange.carried exchange.fits encoded)
  exact ⟨random, _, pkt, sealedAs, received.trans wired⟩

theorem arrives_sent (member : adapter ∈ adapters)
    (exchange : Exchange adapter client server send user ingress)
    (apart : Distinct adapter client server send ingress) (control : Control) :
    Arrives adapter client server send user ingress control := by
  rcases adapters_cases member with rfl | rfl | rfl | rfl
  · exact arrives_v1 exchange (apart.readable (.inl rfl)) control
  · exact arrives_v2 exchange (apart.readable (.inr rfl)) control
  · exact arrives_v3 exchange control
  · exact arrives_v4 exchange control

theorem demux_sent (member : adapter ∈ adapters)
    (exchange : Exchange adapter client server send user ingress)
    (apart : Distinct adapter client server send ingress) :
    ∃ identity, demux server ingress = some (adapter, identity) := by
  rcases adapters_cases member with rfl | rfl | rfl | rfl
  · obtain ⟨identity, p, after, detected, -⟩ :=
      arrives_v1 exchange (apart.readable (.inl rfl)) ⟨false⟩
    rcases demux_cases server ingress with ⟨found, seen, chosen⟩ | ⟨unseen, -⟩ | ⟨unseen, -⟩
    · exact ⟨found, chosen⟩
    · exact absurd (unseen.symm.trans detected) (by simp)
    · exact absurd (unseen.symm.trans detected) (by simp)
  · obtain ⟨identity, p, after, detected, -⟩ :=
      arrives_v2 exchange (apart.readable (.inr rfl)) ⟨false⟩
    have first := detectV1_sentV2 exchange apart
    rcases demux_cases server ingress with ⟨found, seen, -⟩ | ⟨-, found, -, chosen⟩ |
      ⟨-, unseen, -⟩
    · exact absurd (first.symm.trans seen) (by simp)
    · exact ⟨found, chosen⟩
    · exact absurd (unseen.symm.trans detected) (by simp)
  · obtain ⟨random, plaintext, pkt, sealedAs, received⟩ := sealed_of_v3 exchange
    exact ⟨_, @demux_sealed client server random plaintext pkt ingress .v3
      (matching_of exchange apart) exchange.lawful sealedAs received⟩
  · obtain ⟨random, plaintext, pkt, sealedAs, received⟩ := sealed_of_v4 exchange
    exact ⟨_, demux_wire (matching_of exchange apart) exchange.lawful sealedAs received⟩

end Detect

section Decode

variable {adapter : Adapter} {env : CodecEnv} {raw ingress : Ingress} {identity : IngressIdentity}
  {control after : Control} {p : RecvPacket}

structure Plain (p : RecvPacket) : Prop where
  sessionId : p.sessionId = 0
  streamId : p.streamId = 0
  messageId : p.messageId = 0
  fragmentIndex : p.fragmentIndex = 0
  fragmentCount : p.fragmentCount = 1

theorem copied_plain {unit : NormalizedUnit}
    (decoded : adapterDecode ingress (some unit) = some p) (sessionId : unit.sessionId = 0)
    (streamId : unit.streamId = 0) (messageId : unit.messageId = 0)
    (fragmentIndex : unit.fragmentIndex = 0) (fragmentCount : unit.fragmentCount = 1) :
    Plain p ∧ p.encrypted = unit.encrypted := by
  obtain ⟨out, copied, same⟩ := Option.bind_eq_some_iff.mp decoded
  obtain rfl := Option.some.inj same
  unfold copyRecvPacket at copied
  split at copied
  · contradiction
  · obtain rfl := Option.some.inj copied
    exact ⟨⟨sessionId, streamId, messageId, fragmentIndex, fragmentCount⟩, rfl⟩

theorem decoded_plain (member : adapter ∈ adapters) (other : adapter.wireVersion ≠ V4_WIRE_VERSION)
    (detected : adapter.detect env raw = some identity) (same : ingress.buffer = raw.buffer)
    (decoded : adapter.decode env ingress control = (some p, after)) :
    Plain p ∧ after = control := by
  have first := congrArg Prod.fst decoded
  have second := congrArg Prod.snd decoded
  rcases adapters_cases member with rfl | rfl | rfl | rfl
  · obtain ⟨unit, made, -⟩ := adapterDecode_copied first
    obtain ⟨plaintext, encrypted, parsed⟩ := @packed_parsed env ingress unit
      (fun buf => KnockCodecV1.normalize env.now buf ingress.ip ingress.clientPort) made
    obtain ⟨pkt, -, rfl⟩ := Option.map_eq_some_iff.mp parsed
    change adapterDecode ingress (KnockCodecV1.decode env ingress) = some p at first
    rw [made] at first
    exact ⟨(copied_plain first rfl rfl rfl rfl rfl).1, second.symm⟩
  · obtain ⟨unit, made, -⟩ := adapterDecode_copied first
    obtain ⟨plaintext, encrypted, parsed⟩ := @packed_parsed env ingress unit
      (fun buf => KnockCodecV2.normalize env.now buf ingress.ip ingress.clientPort) made
    obtain ⟨pkt, -, rfl⟩ := Option.map_eq_some_iff.mp parsed
    change adapterDecode ingress (KnockCodecV2.decode env ingress) = some p at first
    rw [made] at first
    exact ⟨(copied_plain first rfl rfl rfl rfl rfl).1, second.symm⟩
  · obtain ⟨unit, made, -⟩ := adapterDecode_copied first
    change adapterDecode ingress (KnockCodecV3.decode env ingress) = some p at first
    rw [made] at first
    refine ⟨?_, second.symm⟩
    obtain ⟨pkt, accepted, -⟩ := Option.map_eq_some_iff.mp detected
    unfold KnockCodecV3.decode KnockSealed.decode at made
    rw [same, accepted] at made
    obtain ⟨opened, -, rfl⟩ := Option.map_eq_some_iff.mp made
    exact (copied_plain first rfl rfl rfl rfl rfl).1
  · exact absurd rfl other

end Decode

section Transit

variable {adapter : Adapter} {client server : CodecEnv} {send : SendPacket} {user : UserSendData}
  {ingress : Ingress}

theorem detectV1_encrypted (exchange : Exchange codecV1 client server send user ingress)
    {identity : IngressIdentity} (detected : codecV1.detect server ingress = some identity) :
    identity.encrypted = send.encrypted := by
  obtain ⟨random, egress, encoded, received⟩ := exchange.encoded
  obtain ⟨fits, hmac, -, encrypts⟩ := encodeV1_wire
    (adapterEncode_unit exchange.carried exchange.fits encoded)
  have whole : (fieldsV1 (sentV1 (sendUnit send user) hmac)).flatten.length =
      KnockCodecV1.PACKET_SIZE := length_laid (fieldsV1_sized _)
  rcases encryptPacked_received exchange.lawful exchange.peer encrypts with
    ⟨clear, plain⟩ | ⟨hidden, decrypted, longer⟩
  · have found := @detectV1_clear server (sendUnit send user) hmac fits
      (exchange.window (.inl rfl)) ingress (received.trans plain)
    obtain rfl := Option.some.inj (found.symm.trans detected)
    exact clear.symm
  · change KnockCodecV1.detect server ingress = some identity at detected
    unfold KnockCodecV1.detect at detected
    rw [if_neg (by rw [received]; omega), received, decrypted] at detected
    dsimp only at detected
    split at detected
    · obtain rfl := Option.some.inj detected
      exact hidden.symm
    · contradiction

theorem detectV2_encrypted (exchange : Exchange codecV2 client server send user ingress)
    {identity : IngressIdentity} (detected : codecV2.detect server ingress = some identity) :
    identity.encrypted = send.encrypted := by
  obtain ⟨random, egress, encoded, received⟩ := exchange.encoded
  obtain ⟨fits, hmac, -, encrypts⟩ := encodeV2_wire
    (adapterEncode_unit exchange.carried exchange.fits encoded)
  have whole : (fieldsV2 (sentV2 (sendUnit send user) hmac)).flatten.length =
      KnockCodecV2.FORM1_PACKET_SIZE := length_laid (fieldsV2_sized _)
  rcases encryptPacked_received exchange.lawful exchange.peer encrypts with
    ⟨clear, plain⟩ | ⟨hidden, decrypted, longer⟩
  · have found := @detectV2_clear server (sendUnit send user) hmac fits
      (exchange.window (.inr rfl)) ingress (received.trans plain)
    obtain rfl := Option.some.inj (found.symm.trans detected)
    exact clear.symm
  · change KnockCodecV2.detect server ingress = some identity at detected
    unfold KnockCodecV2.detect at detected
    rw [if_neg (by rw [received]; omega), received, decrypted] at detected
    dsimp only at detected
    split at detected
    · contradiction
    · obtain ⟨pkt, -, rfl⟩ := Option.map_eq_some_iff.mp detected
      exact hidden.symm

theorem sealedDetect_encrypted {layout : Layout} {identity : IngressIdentity}
    (detected : KnockSealed.detect layout ingress = some identity) : identity.encrypted = true := by
  obtain ⟨pkt, -, rfl⟩ := Option.map_eq_some_iff.mp detected
  rfl

theorem detect_secret (member : adapter ∈ adapters)
    (exchange : Exchange adapter client server send user ingress) {identity : IngressIdentity}
    (detected : adapter.detect server ingress = some identity) :
    identity.encrypted = secret adapter send := by
  unfold secret
  rcases adapters_cases member with rfl | rfl | rfl | rfl
  · rw [detectV1_encrypted exchange detected]
    exact (Bool.or_false _).symm
  · rw [detectV2_encrypted exchange detected]
    exact (Bool.or_false _).symm
  · rw [sealedDetect_encrypted detected]
    exact (Bool.or_true _).symm
  · rw [sealedDetect_encrypted detected]
    exact (Bool.or_true _).symm

structure Delivered (adapter : Adapter) (client : CodecEnv) (send : SendPacket)
    (user : UserSendData) (ingress : Ingress) (control after : Control) (p : RecvPacket) :
    Prop where
  carries : Carries adapter client send user p
  ip : p.ip = ingress.ip
  clientPort : p.clientPort = ingress.clientPort
  receivedMs : p.receivedMs = ingress.receivedMs
  encrypted : p.encrypted = secret adapter send
  plain : adapter.wireVersion ≠ V4_WIRE_VERSION → Plain p ∧ after = control
  named : adapter.wireVersion = V4_WIRE_VERSION → after = ⟨true⟩

/-- Whatever codec a request was sent with, and whatever keys the receiver tries on it, it comes out
of the receiver's normalizer as it was sent, if the policy lets it through. -/
theorem normalize_delivers (member : adapter ∈ adapters)
    (exchange : Exchange adapter client server send user ingress)
    (apart : Distinct adapter client server send ingress) (policy : PolicyEnforceEncryption)
    (control : Control) : ∃ p after,
      normalize policy server ingress control =
        (if encryptionAllowed policy server.context (secret adapter send) then some p else none,
          after) ∧
      Delivered adapter client send user ingress control after p := by
  obtain ⟨identity, chosen⟩ := demux_sent member exchange apart
  have detected := (demux_some chosen).2
  obtain ⟨found, out, after, seen, decoded, carries⟩ := arrives_sent member exchange apart control
  obtain rfl := Option.some.inj (seen.symm.trans detected)
  have hidden := detect_secret member exchange detected
  refine ⟨{ out with
    receivedMs := ingress.receivedMs, ip := ingress.ip, clientPort := ingress.clientPort
    encrypted := found.encrypted, wireDecode := true }, after, ?_,
    ⟨carries.version, carries.form, carries.stated, carries.timestamp, carries.user, carries.ids⟩,
    rfl, rfl, rfl, hidden, ?_, ?_⟩
  · unfold MuxNormalize.normalize
    rw [chosen]
    dsimp only
    rw [decoded]
    dsimp only
    rw [← hidden]
    split
    · rename_i allowed
      change encryptionAllowed policy server.context found.encrypted = true at allowed
      rw [if_pos allowed]
      rfl
    · rename_i refused
      change ¬ encryptionAllowed policy server.context found.encrypted = true at refused
      rw [if_neg refused]
  · intro other
    obtain ⟨plain, same⟩ := decoded_plain member other detected
      (configured_buffer ingress found) decoded
    exact ⟨⟨plain.sessionId, plain.streamId, plain.messageId, plain.fragmentIndex,
      plain.fragmentCount⟩, same⟩
  · intro version
    rcases adapters_cases member with rfl | rfl | rfl | rfl
    · exact absurd version (by decide)
    · exact absurd version (by decide)
    · exact absurd version (by decide)
    · exact (congrArg Prod.snd decoded).symm

end Transit

end Siglatch.KnockTransit
