import Siglatch.KnockPacked

set_option autoImplicit false

namespace Siglatch.MuxRoundTrip
open MuxTypes ByteOrder KnockDigest DaemonTypes KnockCodec KnockSealed KnockEncode KnockRoundTrip
open MuxAdapter MuxNormalize MuxFreshness KnockPacked

def unitDigest (hash : Hash) (wireVersion : UInt32) (normal : NormalizedUnit) : Option Bytes :=
  if wireVersion = V1_VERSION then generate hash (digestV1 normal)
  else if wireVersion = V2_WIRE_VERSION then generateV2Form1 hash (digestV2 normal)
  else generateForm1 hash wireVersion normal

/-- Codec 1 has no form on the wire, the others speak form 1. -/
def formOf (wireVersion : UInt32) : UInt8 := if wireVersion = V1_VERSION then 0 else FORM1_ID

/-- The HMAC that arrives is the sender's signature if the packet authenticates itself, else the
one that it was given. -/
def SentHmac (client : CodecEnv) (wireVersion : UInt32) (send : SendPacket) (user : UserSendData)
    (hmac : Bytes) : Prop :=
  (send.wireAuth = false → hmac = user.hmac) ∧
  (send.wireAuth = true → ∃ session digest, client.session = some session ∧
    unitDigest client.hash wireVersion (sendUnit send user) = some digest ∧
    hmac = sign client.hash session.hmacKey digest)

structure Carries (adapter : Adapter) (client : CodecEnv) (send : SendPacket) (user : UserSendData)
    (p : RecvPacket) : Prop where
  version : p.wireVersion = adapter.wireVersion
  form : p.wireForm = formOf adapter.wireVersion
  stated : adapter.wireVersion = V3_WIRE_VERSION ∨ adapter.wireVersion = V4_WIRE_VERSION →
    p.wireVersion = send.wireVersion ∧ p.wireForm = send.wireForm
  timestamp : p.timestamp = send.timestamp
  user : ∃ hmac, SentHmac client adapter.wireVersion send user hmac ∧
    p.user = some { user with hmac := hmac }
  ids : adapter.wireVersion = V4_WIRE_VERSION →
    p.sessionId = send.sessionId ∧ p.messageId = send.messageId ∧ p.streamId = send.streamId ∧
      p.fragmentIndex = send.fragmentIndex ∧ p.fragmentCount = send.fragmentCount

section Hmac

variable {client : CodecEnv} {send : SendPacket} {user : UserSendData} {wireVersion : UInt32}
  {hmac : Bytes}

theorem sentHmac_of_outgoing (outgoing : outgoingHmac client send.wireAuth
      (unitDigest client.hash wireVersion (sendUnit send user)) user.hmac = some hmac) :
    SentHmac client wireVersion send user hmac := by
  unfold outgoingHmac at outgoing
  constructor
  · intro plain
    rw [plain, if_neg Bool.false_ne_true] at outgoing
    exact (Option.some.inj outgoing).symm
  · intro authenticated
    rw [if_pos authenticated] at outgoing
    simp only [Option.bind_eq_bind, Option.bind_eq_some_iff] at outgoing
    obtain ⟨session, installed, outgoing⟩ := outgoing
    split at outgoing
    · contradiction
    · obtain ⟨digest, digested, signed⟩ := Option.bind_eq_some_iff.mp outgoing
      exact ⟨session, digest, installed, digested, (Option.some.inj signed).symm⟩

theorem sentHmac_length (sent : SentHmac client wireVersion send user hmac)
    (own : user.hmac.length = HMAC_SIZE)
    (hashes : ∀ key message, (client.hash.hmac key message).length = HMAC_SIZE) :
    hmac.length = HMAC_SIZE := by
  cases authenticated : send.wireAuth with
  | false => rw [sent.1 authenticated, own]
  | true =>
    obtain ⟨session, digest, -, -, rfl⟩ := sent.2 authenticated
    exact hashes session.hmacKey digest

end Hmac

section Encoded

variable {encode : NormalizedUnit → Option Bytes} {send : SendPacket} {user : UserSendData}
  {egress : EgressData}

/-- An adapter sends the bytes that its codec makes of the user's unit. -/
theorem adapterEncode_unit (carried : send.user = some user)
    (fits : user.payload.length ≤ USER_DATA_PAYLOAD_MAX)
    (encoded : adapterEncode encode send = some egress) :
    encode (sendUnit send user) = some egress.egressBuffer := by
  simp only [adapterEncode, Option.bind_eq_bind, Option.bind_eq_some_iff] at encoded
  obtain ⟨normal, copied, out, made, filled⟩ := encoded
  rw [copied_unit carried fits] at copied
  obtain rfl := Option.some.inj copied
  unfold fillEgress at filled
  split at filled
  · contradiction
  · obtain rfl := Option.some.inj filled
    exact made

end Encoded

section Sealed

variable {client server : CodecEnv} {random : Entropy} {layout : Layout} {normal : NormalizedUnit}
  {out : Bytes} {generate : NormalizedUnit → Option Bytes} {inner : NormalizedUnit → Bytes}
  {bodyOffset : ℕ}

theorem roundTripSealed (lawful : Lawful client.cipher) (peer : Peer client server)
    (width : ∀ normal, (inner normal).length = bodyOffset)
    (fixed : layout.bodyFixedSize = bodyOffset + 47)
    (kept : ∀ normal hmac, inner { normal with hmac := hmac } = inner normal)
    (small : layout.bodyMax < 2 ^ 32)
    (encoded : KnockSealed.encode layout client generate
      (fun normal => packPlaintext layout (inner normal) normal) random normal
      layout.packetMaxSize = some out)
    (unpackInner : Bytes → NormalizedUnit) {ingress : Ingress} (received : ingress.buffer = out) :
    (normal.wireVersion = layout.wireVersion ∧ normal.wireForm = FORM1_ID) ∧ ∃ hmac body,
      outgoingHmac client normal.wireAuth (generate normal) normal.hmac = some hmac ∧
      KnockSealed.detect layout ingress =
        some ⟨true, PREFIX_MAGIC, layout.wireVersion, FORM1_ID⟩ ∧
      ∀ finish, KnockSealed.decode layout server (fun buf => unpackPlaintext layout bodyOffset
          unpackInner buf ingress.ip ingress.clientPort) ingress finish =
        some (finish { unpackInner (inner normal ++ body) with
          timestamp := normal.timestamp, userId := normal.userId, actionId := normal.actionId
          challenge := normal.challenge, ip := ingress.ip.take 63
          clientPort := ingress.clientPort, payload := normal.payload
          hmac := pad HMAC_SIZE hmac }) := by
  obtain ⟨fits, own, hmac, pkt, signature, sealedAs, rfl⟩ := encodeSealed_wire lawful
    (fun normal => by rw [width, fixed]) kept small encoded
  have unpacked := @unpackPlaintext_pack layout (inner normal) unpackInner (by rw [width, fixed])
    { normal with hmac := hmac } ingress.ip ingress.clientPort fits
  rw [width] at unpacked
  refine ⟨own, hmac, packBody { normal with hmac := hmac }, signature, ?_, ?_⟩
  · unfold KnockSealed.detect
    rw [received, deserializeWire_wire sealedAs.sized sealedAs.magic sealedAs.version
      sealedAs.form, Option.map_some, sealedAs.magic, sealedAs.version, sealedAs.form]
  · intro finish
    rw [decode_sealed peer.cipher peer.opens lawful sealedAs (fun buf => unpackPlaintext layout
      bodyOffset unpackInner buf ingress.ip ingress.clientPort) received finish, unpacked,
      Option.map_some]

end Sealed

section Adapters

variable {client server : CodecEnv} {random : Entropy} {send : SendPacket} {user : UserSendData}
  {egress : EgressData} {ingress : Ingress}

/-- What the adapter's peer makes of the bytes is the packet that was sent. -/
def Arrives (adapter : Adapter) (client server : CodecEnv) (send : SendPacket)
    (user : UserSendData) (ingress : Ingress) (control : Control) : Prop :=
  ∃ identity p after, adapter.detect server ingress = some identity ∧
    adapter.decode server (configureIngressIdentity ingress identity) control = (some p, after) ∧
    Carries adapter client send user p

theorem arrives_of {adapter : Adapter} {identity : IngressIdentity} {unit : NormalizedUnit}
    {control after : Control} (fits : user.payload.length ≤ USER_DATA_PAYLOAD_MAX)
    (detected : adapter.detect server ingress = some identity)
    (decoded : adapter.decode server (configureIngressIdentity ingress identity) control =
      (adapterDecode (configureIngressIdentity ingress identity) (some unit), after))
    (version : unit.wireVersion = adapter.wireVersion)
    (form : unit.wireForm = formOf adapter.wireVersion)
    (stated : adapter.wireVersion = V3_WIRE_VERSION ∨ adapter.wireVersion = V4_WIRE_VERSION →
      unit.wireVersion = send.wireVersion ∧ unit.wireForm = send.wireForm)
    (timestamp : unit.timestamp = send.timestamp)
    (sent : SentHmac client adapter.wireVersion send user unit.hmac)
    (carried : (⟨unit.userId, unit.actionId, unit.challenge, unit.hmac, unit.payload⟩ : UserData) =
      { user with hmac := unit.hmac })
    (ids : adapter.wireVersion = V4_WIRE_VERSION →
      unit.sessionId = send.sessionId ∧ unit.messageId = send.messageId ∧
        unit.streamId = send.streamId ∧ unit.fragmentIndex = send.fragmentIndex ∧
        unit.fragmentCount = send.fragmentCount) :
    Arrives adapter client server send user ingress control := by
  have payload : unit.payload = user.payload := congrArg UserData.payload carried
  have handed : adapterDecode (configureIngressIdentity ingress identity) (some unit) =
      some { RecvPacket.zero with
        complete := unit.complete, wireVersion := unit.wireVersion, wireForm := unit.wireForm
        receivedMs := ingress.receivedMs, sessionId := unit.sessionId
        messageId := unit.messageId, streamId := unit.streamId
        fragmentIndex := unit.fragmentIndex, fragmentCount := unit.fragmentCount
        timestamp := unit.timestamp, ip := unit.ip, clientPort := unit.clientPort
        encrypted := unit.encrypted, wireDecode := unit.wireDecode, wireAuth := unit.wireAuth
        user := some ⟨unit.userId, unit.actionId, unit.challenge, unit.hmac, unit.payload⟩ } := by
    unfold adapterDecode copyRecvPacket
    rw [← payload] at fits
    simp only [Option.bind_eq_bind, Option.bind_some]
    rw [if_neg (Nat.not_lt.mpr fits), Option.bind_some]
    rfl
  rw [handed] at decoded
  exact ⟨identity, _, after, detected, decoded, version, form, stated, timestamp,
    ⟨unit.hmac, sent, congrArg some carried⟩, ids⟩

/-- A packet that an adapter encoded, on its way to a peer that holds the keys, within the window
of time that codecs 1 and 2 ask for. The arrays of the user data have the sizes of their types. -/
structure Exchange (adapter : Adapter) (client server : CodecEnv) (send : SendPacket)
    (user : UserSendData) (ingress : Ingress) : Prop where
  lawful : Lawful client.cipher
  peer : Peer client server
  hashes : ∀ key message, (client.hash.hmac key message).length = HMAC_SIZE
  carried : send.user = some user
  fits : user.payload.length ≤ USER_DATA_PAYLOAD_MAX
  own : user.hmac.length = HMAC_SIZE
  encoded : ∃ random egress, adapter.encode client random send = some egress ∧
    ingress.buffer = egress.egressBuffer
  window : adapter.wireVersion = V1_VERSION ∨ adapter.wireVersion = V2_WIRE_VERSION →
    Fresh server.now send.timestamp

theorem sent_pad {adapter : Adapter} (exchange : Exchange adapter client server send user ingress)
    {wireVersion : UInt32} {hmac : Bytes} (outgoing : outgoingHmac client send.wireAuth
      (unitDigest client.hash wireVersion (sendUnit send user)) user.hmac = some hmac) :
    SentHmac client wireVersion send user (pad HMAC_SIZE hmac) := by
  have sent := sentHmac_of_outgoing outgoing
  rw [pad_of_length (sentHmac_length sent exchange.own exchange.hashes)]
  exact sent

theorem arrives_v1 (exchange : Exchange codecV1 client server send user ingress)
    (readable : send.encrypted = false → server.context.serverSecure = false)
    (control : Control) : Arrives codecV1 client server send user ingress control := by
  obtain ⟨random, egress, encoded, received⟩ := exchange.encoded
  obtain ⟨hmac, identity, outgoing, detected, decoded⟩ := @roundTripV1 client server random
    (sendUnit send user) _ exchange.lawful exchange.peer
    (adapterEncode_unit exchange.carried exchange.fits encoded)
    (exchange.window (.inl rfl)) readable ingress
    received
  have sent : SentHmac client V1_VERSION send user (pad HMAC_SIZE hmac) :=
    sent_pad exchange outgoing
  apply @arrives_of client server send user ingress codecV1 identity _ control control
    exchange.fits detected
  · change (adapterDecode _ (KnockCodecV1.decode _ _), control) = _
    rw [decoded]
  · rfl
  · rfl
  · rintro (other | other) <;> exact absurd other (by decide)
  · rfl
  · exact sent
  · rfl
  · intro other
    exact absurd other (by decide)

theorem arrives_v2 (exchange : Exchange codecV2 client server send user ingress)
    (readable : send.encrypted = false → server.context.serverSecure = false)
    (control : Control) : Arrives codecV2 client server send user ingress control := by
  obtain ⟨random, egress, encoded, received⟩ := exchange.encoded
  obtain ⟨hmac, identity, outgoing, detected, decoded⟩ := @roundTripV2 client server random
    (sendUnit send user) _ exchange.lawful exchange.peer
    (adapterEncode_unit exchange.carried exchange.fits encoded)
    (exchange.window (.inr rfl)) readable ingress
    received
  have sent : SentHmac client V2_WIRE_VERSION send user (pad HMAC_SIZE hmac) :=
    sent_pad exchange outgoing
  apply @arrives_of client server send user ingress codecV2 identity _ control control
    exchange.fits detected
  · change (adapterDecode _ (KnockCodecV2.decode _ _), control) = _
    rw [decoded]
  · rfl
  · rfl
  · rintro (other | other) <;> exact absurd other (by decide)
  · rfl
  · exact sent
  · rfl
  · intro other
    exact absurd other (by decide)

theorem readable_v1 (exchange : Exchange codecV1 client server send user ingress)
    {identity : IngressIdentity} {control : Control} {p : RecvPacket}
    (detected : codecV1.detect server ingress = some identity)
    (decoded : (codecV1.decode server (configureIngressIdentity ingress identity) control).1 =
      some p)
    (clear : send.encrypted = false) : server.context.serverSecure = false := by
  obtain ⟨random, egress, encoded, received⟩ := exchange.encoded
  obtain ⟨fits, hmac, -, encrypts⟩ := encodeV1_wire
    (adapterEncode_unit exchange.carried exchange.fits encoded)
  rcases encryptPacked_received exchange.lawful exchange.peer encrypts with ⟨-, plain⟩ | ⟨secret, -⟩
  · have found := @detectV1_clear server (sendUnit send user) hmac fits
      (exchange.window (.inl rfl)) ingress
      (received.trans plain)
    obtain rfl := Option.some.inj (found.symm.trans detected)
    obtain ⟨unit, made, -⟩ := adapterDecode_some.mp decoded
    rcases @packed_cases server (configureIngressIdentity ingress _) unit (fun buf =>
      KnockCodecV1.normalize server.now buf ingress.ip ingress.clientPort) made with
      ⟨encrypted, -⟩ | ⟨-, insecure, -⟩
    · cases encrypted
    · exact insecure
  · exact absurd (clear.symm.trans secret) Bool.false_ne_true

theorem readable_v2 (exchange : Exchange codecV2 client server send user ingress)
    {identity : IngressIdentity} {control : Control} {p : RecvPacket}
    (detected : codecV2.detect server ingress = some identity)
    (decoded : (codecV2.decode server (configureIngressIdentity ingress identity) control).1 =
      some p)
    (clear : send.encrypted = false) : server.context.serverSecure = false := by
  obtain ⟨random, egress, encoded, received⟩ := exchange.encoded
  obtain ⟨fits, hmac, -, encrypts⟩ := encodeV2_wire
    (adapterEncode_unit exchange.carried exchange.fits encoded)
  rcases encryptPacked_received exchange.lawful exchange.peer encrypts with ⟨-, plain⟩ | ⟨secret, -⟩
  · have found := @detectV2_clear server (sendUnit send user) hmac fits
      (exchange.window (.inr rfl)) ingress
      (received.trans plain)
    obtain rfl := Option.some.inj (found.symm.trans detected)
    obtain ⟨unit, made, -⟩ := adapterDecode_some.mp decoded
    rcases @packed_cases server (configureIngressIdentity ingress _) unit (fun buf =>
      KnockCodecV2.normalize server.now buf ingress.ip ingress.clientPort) made with
      ⟨encrypted, -⟩ | ⟨-, insecure, -⟩
    · cases encrypted
    · exact insecure
  · exact absurd (clear.symm.trans secret) Bool.false_ne_true

theorem arrives_v3 (exchange : Exchange codecV3 client server send user ingress)
    (control : Control) : Arrives codecV3 client server send user ingress control := by
  let identity : IngressIdentity := ⟨true, PREFIX_MAGIC, V3_WIRE_VERSION, FORM1_ID⟩
  obtain ⟨random, egress, encoded, received⟩ := exchange.encoded
  obtain ⟨⟨version, form⟩, hmac, body, outgoing, detected, decoded⟩ := @roundTripSealed client
    server random KnockCodecV3.form1 (sendUnit send user) _ (generateV3Form1 client.hash)
    (fun _ => []) 0 exchange.lawful exchange.peer (fun _ => rfl) rfl (fun _ _ => rfl) (by decide)
    (adapterEncode_unit exchange.carried exchange.fits encoded) (fun _ => NormalizedUnit.zero)
    (configureIngressIdentity ingress identity) received
  have sent : SentHmac client V3_WIRE_VERSION send user (pad HMAC_SIZE hmac) :=
    sent_pad exchange outgoing
  apply @arrives_of client server send user ingress codecV3 identity _ control control
    exchange.fits detected
  · change (adapterDecode _ (KnockCodecV3.decode _ _), control) = _
    unfold KnockCodecV3.decode
    rw [decoded]
  · rfl
  · rfl
  · intro _
    exact ⟨version.symm, form.symm⟩
  · rfl
  · exact sent
  · rfl
  · intro other
    exact absurd other (by decide)

theorem arrives_v4 (exchange : Exchange codecV4 client server send user ingress)
    (control : Control) : Arrives codecV4 client server send user ingress control := by
  let identity : IngressIdentity := ⟨true, PREFIX_MAGIC, V4_WIRE_VERSION, FORM1_ID⟩
  obtain ⟨random, egress, encoded, received⟩ := exchange.encoded
  obtain ⟨⟨version, form⟩, hmac, body, outgoing, detected, decoded⟩ := @roundTripSealed client
    server random KnockCodecV4.form1 (sendUnit send user) _ (generateV4Form1 client.hash)
    KnockCodecV4.packInnerEnvelope KnockCodecV4.INNER_ENVELOPE_WIRE_SIZE exchange.lawful
    exchange.peer length_packInnerEnvelope rfl (fun _ _ => rfl) (by decide)
    (adapterEncode_unit exchange.carried exchange.fits encoded)
    KnockCodecV4.unpackInnerEnvelope (configureIngressIdentity ingress identity) received
  rw [unpackInnerEnvelope_pack] at decoded
  have sent : SentHmac client V4_WIRE_VERSION send user (pad HMAC_SIZE hmac) :=
    sent_pad exchange outgoing
  apply @arrives_of client server send user ingress codecV4 identity _ control ⟨true⟩
    exchange.fits detected
  · exact congrArg (fun unit => (adapterDecode (configureIngressIdentity ingress identity) unit,
      (⟨true⟩ : Control))) (decoded KnockCodecV4.finish)
  · rfl
  · rfl
  · intro _
    exact ⟨version.symm, form.symm⟩
  · rfl
  · exact sent
  · rfl
  · intro _
    exact ⟨rfl, rfl, rfl, rfl, rfl⟩

/-- Whatever the peer decodes carries the request that was sent. -/
theorem decoded_carries {adapter : Adapter} (member : adapter ∈ adapters)
    (exchange : Exchange adapter client server send user ingress) {identity : IngressIdentity}
    {control after : Control} {p : RecvPacket}
    (detected : adapter.detect server ingress = some identity)
    (decoded : adapter.decode server (configureIngressIdentity ingress identity) control =
      (some p, after)) : Carries adapter client send user p := by
  have arrived : Arrives adapter client server send user ingress control := by
    have made := congrArg Prod.fst decoded
    rcases adapters_cases member with rfl | rfl | rfl | rfl
    · exact arrives_v1 exchange (readable_v1 exchange detected made) control
    · exact arrives_v2 exchange (readable_v2 exchange detected made) control
    · exact arrives_v3 exchange control
    · exact arrives_v4 exchange control
  obtain ⟨found, q, later, seen, made, carries⟩ := arrived
  obtain rfl := Option.some.inj (seen.symm.trans detected)
  obtain rfl := Option.some.inj (congrArg Prod.fst (made.symm.trans decoded))
  exact carries

/-- What any codec sends, the same codec reads on the side that has the keys, within the window of
time. Codecs 1 and 2 take no notice of the version and the form that the packet to be sent states,
and a secure receiver takes nothing from them in the clear. -/
theorem round_trip {adapter : Adapter} (member : adapter ∈ adapters) {client server : CodecEnv}
    {send : SendPacket} {user : UserSendData} {ingress : Ingress}
    (exchange : Exchange adapter client server send user ingress)
    (readable : adapter.wireVersion = V1_VERSION ∨ adapter.wireVersion = V2_WIRE_VERSION →
      send.encrypted = false → server.context.serverSecure = false) (control : Control) :
    Arrives adapter client server send user ingress control := by
  rcases adapters_cases member with rfl | rfl | rfl | rfl
  · exact arrives_v1 exchange (readable (.inl rfl)) control
  · exact arrives_v2 exchange (readable (.inr rfl)) control
  · exact arrives_v3 exchange control
  · exact arrives_v4 exchange control

end Adapters

section Samples

def paddedHash : Hash := ⟨id, fun key message => pad HMAC_SIZE (key ++ message)⟩

def samplePeer (secure : Bool) : CodecEnv where
  cipher := boxCipher
  hash := paddedHash
  context := ⟨some ⟨[115], some 5⟩, secure, []⟩
  session := some ⟨none, some 5, [], 0⟩
  now := 1000

def sampleSender : CodecEnv :=
  { samplePeer true with session := some ⟨some 5, none, List.replicate HMAC_SIZE 7, HMAC_SIZE⟩ }

theorem sample_peer (secure : Bool) : Peer sampleSender (samplePeer secure) where
  cipher := rfl
  opens padding message out wrapped := boxCipher_opens 5 5 padding message out wrapped
  decrypts padding message out wrapped := boxCipher_opens 5 5 padding message out wrapped

theorem paddedHash_length (key message : Bytes) :
    (paddedHash.hmac key message).length = HMAC_SIZE := length_pad _ _

def sampleUser : UserSendData := ⟨3, 7, 99, List.replicate HMAC_SIZE 0, [104, 105]⟩

def sampleRequest (encrypted : Bool) : SendPacket where
  wireVersion := V1_VERSION
  wireForm := FORM1_ID
  receivedMs := 1
  sessionId := 0
  messageId := 0
  streamId := 0
  fragmentIndex := 0
  fragmentCount := 1
  timestamp := 1000
  ip := []
  clientPort := 0
  encrypted := encrypted
  wireAuth := true
  user := some sampleUser

theorem sample_encodes (encrypted : Bool) :
    (codecV1.encode sampleSender plainEntropy (sampleRequest encrypted)).isSome = true := by
  cases encrypted <;> decide +kernel

def sampleEgress (encrypted : Bool) : EgressData :=
  (codecV1.encode sampleSender plainEntropy (sampleRequest encrypted)).get
    (sample_encodes encrypted)

def sampleIngress (encrypted : Bool) : Ingress :=
  { Ingress.zero with buffer := (sampleEgress encrypted).egressBuffer }

theorem sample_sent (encrypted : Bool) : codecV1.encode sampleSender plainEntropy
    (sampleRequest encrypted) = some (sampleEgress encrypted) :=
  (Option.some_get (sample_encodes encrypted)).symm

theorem sample_exchange (encrypted secure : Bool) :
    Exchange codecV1 sampleSender (samplePeer secure) (sampleRequest encrypted) sampleUser
      (sampleIngress encrypted) where
  lawful := boxCipher_lawful
  peer := sample_peer secure
  hashes := paddedHash_length
  carried := rfl
  fits := by decide
  own := by decide
  encoded := ⟨plainEntropy, sampleEgress encrypted, sample_sent encrypted, rfl⟩
  window _ := by
    change (1000 - 300 : ℤ) ≤ 1000 ∧ (1000 : ℤ) ≤ 1000 + 300
    decide

theorem sample_arrives : Arrives codecV1 sampleSender (samplePeer true) (sampleRequest true)
    sampleUser (sampleIngress true) ⟨false⟩ :=
  round_trip List.mem_cons_self (sample_exchange true true) (fun _ clear => by cases clear) ⟨false⟩

/-- The version and the form of a packet need not come back, and a packet in the clear need not
come back at all. -/
theorem request_not_returned :
    (¬ ∀ (adapter : Adapter) (client server : CodecEnv) (send : SendPacket) (user : UserSendData)
        (ingress : Ingress), adapter ∈ adapters →
      Exchange adapter client server send user ingress → server.context.serverSecure = false →
      ∃ identity p after, adapter.detect server ingress = some identity ∧
        adapter.decode server (configureIngressIdentity ingress identity) ⟨false⟩ =
          (some p, after) ∧ p.wireVersion = send.wireVersion ∧ p.wireForm = send.wireForm) ∧
    ¬ ∀ (adapter : Adapter) (client server : CodecEnv) (send : SendPacket) (user : UserSendData)
        (ingress : Ingress), adapter ∈ adapters →
      Exchange adapter client server send user ingress →
      ∃ identity p after, adapter.detect server ingress = some identity ∧
        adapter.decode server (configureIngressIdentity ingress identity) ⟨false⟩ =
          (some p, after) := by
  constructor
  · intro returned
    obtain ⟨identity, p, after, detected, decoded, -, form⟩ := returned codecV1 sampleSender
      (samplePeer false) (sampleRequest true) sampleUser (sampleIngress true) List.mem_cons_self
      (sample_exchange true false) rfl
    have carries := decoded_carries List.mem_cons_self (sample_exchange true false) detected decoded
    rw [carries.form] at form
    exact absurd form (by decide)
  · intro returned
    obtain ⟨identity, p, after, detected, decoded⟩ := returned codecV1 sampleSender
      (samplePeer true) (sampleRequest false) sampleUser (sampleIngress false) List.mem_cons_self
      (sample_exchange false true)
    have open_to : (samplePeer true).context.serverSecure = false := readable_v1
      (sample_exchange false true) detected (congrArg Prod.fst decoded) rfl
    exact absurd open_to (by decide)

end Samples

end Siglatch.MuxRoundTrip
