import Siglatch.DaemonTypes
import Siglatch.KnockDigest

set_option autoImplicit false

namespace Siglatch.KnockCodec
open MuxTypes AppConfig KnockContext KnockDigest DaemonTypes

/-- OpenSSL's keys and ciphers: the kind and the size of a key, RSA with PKCS#1 padding under the
padding bytes drawn for it, and AES-256-GCM with its tag. -/
structure Cipher where
  isRsa : EvpPkey → Bool
  keySize : EvpPkey → ℕ
  encrypt : EvpPkey → Bytes → Bytes → Option Bytes
  decrypt : EvpPkey → Bytes → Option Bytes
  aesgcmEncrypt : Bytes → Bytes → Bytes → Bytes → Bytes × Bytes
  aesgcmDecrypt : Bytes → Bytes → Bytes → Bytes → Bytes → Option Bytes

def CEK_SIZE : ℕ := 32
def NONCE_SIZE : ℕ := 12
def TAG_SIZE : ℕ := 16
def CEK_MAX : ℕ := 256

/-- The random bytes that one call of an encoder draws. -/
structure Entropy where
  cek : Bytes
  nonce : Bytes
  padding : Bytes
  cek_length : cek.length = CEK_SIZE
  nonce_length : nonce.length = NONCE_SIZE

/-- What a codec works with: OpenSSL, the codec context with the session that the host has
installed in it, and the wall clock. -/
structure CodecEnv where
  cipher : Cipher
  hash : Hash
  context : CodecContext
  session : Option OpenSSLSession
  now : ℤ

structure IngressIdentity where
  encrypted : Bool
  magic : UInt32
  version : UInt32
  form : UInt8
  deriving DecidableEq

def IngressIdentity.zero : IngressIdentity := ⟨false, 0, 0, 0⟩

/-- An array of fixed size that was cleared before it was filled. -/
def pad (size : ℕ) (bytes : Bytes) : Bytes :=
  bytes.take size ++ List.replicate (size - bytes.length) 0

@[simp] theorem length_pad (size : ℕ) (bytes : Bytes) : (pad size bytes).length = size := by
  rw [pad, List.length_append, List.length_replicate, List.length_take]
  omega

theorem pad_of_length {size : ℕ} {bytes : Bytes} (h : bytes.length = size) :
    pad size bytes = bytes := by
  rw [pad, h, Nat.sub_self, List.replicate_zero, List.append_nil, List.take_of_length_le h.le]

def sessionEncrypt (env : CodecEnv) (padding message : Bytes) : Option Bytes := do
  let session ← env.session
  let key ← session.publicKey
  env.cipher.encrypt key padding message

def sessionDecrypt (env : CodecEnv) (input : Bytes) : Option Bytes := do
  let session ← env.session
  let key ← session.privateKey
  env.cipher.decrypt key input

/-- Decryption with the server key of the codec context, which codecs 1 and 2 use. -/
def privateDecrypt (env : CodecEnv) (input : Bytes) : Option Bytes := do
  let serverKey ← env.context.serverKey
  let key ← serverKey.privateKey
  if env.cipher.keySize key = 0 then none else env.cipher.decrypt key input

section Packed

variable {env : CodecEnv} {ingress : Ingress} {unit : NormalizedUnit}
  {parse : Bytes → Bool → Option NormalizedUnit}

/-- Codecs 1 and 2 parse the plaintext of a datagram that they took for encrypted, and a datagram
in the clear only on a server that is not secure. -/
theorem packed_cases (h : (if ingress.encrypted then do
        let decrypted ← privateDecrypt env ingress.buffer
        parse decrypted true
      else if env.context.serverSecure then none
      else parse ingress.buffer false) = some unit) :
    (ingress.encrypted = true ∧ ∃ plaintext, privateDecrypt env ingress.buffer = some plaintext ∧
      parse plaintext true = some unit) ∨
    (ingress.encrypted = false ∧ env.context.serverSecure = false ∧
      parse ingress.buffer false = some unit) := by
  split at h
  · rename_i encrypted
    obtain ⟨plaintext, decrypted, parsed⟩ := Option.bind_eq_some_iff.mp h
    exact Or.inl ⟨encrypted, plaintext, decrypted, parsed⟩
  · rename_i plain
    split at h
    · contradiction
    · rename_i insecure
      exact Or.inr ⟨Bool.eq_false_iff.mpr plain, Bool.eq_false_iff.mpr insecure, h⟩

/-- Either way the unit is what the codec parses of some plaintext. -/
theorem packed_parsed (h : (if ingress.encrypted then do
        let decrypted ← privateDecrypt env ingress.buffer
        parse decrypted true
      else if env.context.serverSecure then none
      else parse ingress.buffer false) = some unit) :
    ∃ plaintext encrypted, parse plaintext encrypted = some unit := by
  rcases packed_cases h with ⟨-, plaintext, -, parsed⟩ | ⟨-, -, parsed⟩
  · exact ⟨plaintext, true, parsed⟩
  · exact ⟨ingress.buffer, false, parsed⟩

end Packed

/-- The test of the last fragment; a packet without a count is complete. -/
def isLastFragment (fragmentIndex fragmentCount : UInt32) : Bool :=
  if fragmentCount = 0 then true else decide (fragmentCount ≤ fragmentIndex + 1)

def copyRecvPacket (src : NormalizedUnit) : Option RecvPacket :=
  if USER_DATA_PAYLOAD_MAX < src.payload.length then none
  else some { RecvPacket.zero with
    complete := src.complete, wireVersion := src.wireVersion, wireForm := src.wireForm
    sessionId := src.sessionId, messageId := src.messageId, streamId := src.streamId
    fragmentIndex := src.fragmentIndex, fragmentCount := src.fragmentCount
    timestamp := src.timestamp, ip := src.ip, clientPort := src.clientPort
    encrypted := src.encrypted, wireDecode := src.wireDecode, wireAuth := src.wireAuth
    user := some ⟨src.userId, src.actionId, src.challenge, src.hmac, src.payload⟩ }

/-- What a packet takes over from the unit that it is copied from. -/
structure Copied (src : NormalizedUnit) (out : RecvPacket) : Prop where
  short : src.payload.length ≤ USER_DATA_PAYLOAD_MAX
  quiet : out.shouldReply = false
  version : out.wireVersion = src.wireVersion
  session : out.sessionId = src.sessionId
  dated : out.timestamp = src.timestamp
  auth : out.wireAuth = src.wireAuth
  user : out.user = some ⟨src.userId, src.actionId, src.challenge, src.hmac, src.payload⟩

theorem copyRecvPacket_copied {src : NormalizedUnit} {out : RecvPacket}
    (h : copyRecvPacket src = some out) : Copied src out := by
  unfold copyRecvPacket at h
  split at h
  · contradiction
  · rename_i short
    obtain rfl := Option.some.inj h
    exact ⟨Nat.not_lt.mp short, rfl, rfl, rfl, rfl, rfl, rfl⟩

def sendUnit (src : SendPacket) (user : UserSendData) : NormalizedUnit :=
  { NormalizedUnit.zero with
    complete := isLastFragment src.fragmentIndex src.fragmentCount
    wireVersion := src.wireVersion, wireForm := src.wireForm
    sessionId := src.sessionId, messageId := src.messageId, streamId := src.streamId
    fragmentIndex := src.fragmentIndex, fragmentCount := src.fragmentCount
    timestamp := src.timestamp, userId := user.userId, actionId := user.actionId
    challenge := user.challenge, hmac := user.hmac, ip := src.ip, clientPort := src.clientPort
    encrypted := src.encrypted, wireAuth := src.wireAuth, payload := user.payload }

def copySendPacket (src : SendPacket) : Option NormalizedUnit := do
  let user ← src.user
  if NORMALIZED_PAYLOAD_MAX < user.payload.length then none else some (sendUnit src user)

theorem copySendPacket_some {src : SendPacket} {user : UserSendData} (h : src.user = some user)
    (fits : user.payload.length ≤ NORMALIZED_PAYLOAD_MAX) :
    copySendPacket src = some (sendUnit src user) := by
  unfold copySendPacket
  rw [h]
  exact if_neg (Nat.not_lt.mpr fits)

def fillEgress (src : SendPacket) (payload : Bytes) : Option EgressData :=
  if NORMALIZED_PACKET_BUFFER_SIZE < payload.length then none
  else some {
    wireVersion := src.wireVersion, wireForm := src.wireForm, receivedMs := src.receivedMs
    sessionId := src.sessionId, messageId := src.messageId, streamId := src.streamId
    fragmentIndex := src.fragmentIndex, fragmentCount := src.fragmentCount
    timestamp := src.timestamp, ip := src.ip, clientPort := src.clientPort
    encrypted := src.encrypted, wireAuth := src.wireAuth, egressBuffer := payload }

def countSingle (payloadMax : ℕ) (normal : NormalizedUnit) (forceFragmentCount : ℕ) : ℕ :=
  if 0 < forceFragmentCount ∧ forceFragmentCount ≠ 1 then 0
  else if normal.payload.length ≤ payloadMax then 1 else 0

/-- The HMAC that a sender puts into its packet: its own signature over the digest if it
authenticates, else what the packet came with. -/
def outgoingHmac (env : CodecEnv) (wireAuth : Bool) (digest : Option Bytes) (hmac : Bytes) :
    Option Bytes :=
  if wireAuth then do
    let session ← env.session
    if session.hmacKeyLen < HMAC_SIZE then none
    else
      let digest ← digest
      some (sign env.hash session.hmacKey digest)
  else some hmac

/-- The last step of codecs 1 and 2: the packed packet as it is, or under the session's key. -/
def encryptPacked (env : CodecEnv) (random : Entropy) (encrypted : Bool) (capacity : ℕ)
    (packed : Bytes) : Option Bytes :=
  if !encrypted then
    if capacity < packed.length then none else some packed
  else do
    let session ← env.session
    let key ← session.publicKey
    let encryptedCap := env.cipher.keySize key
    if encryptedCap ≤ 11 ∨ capacity < encryptedCap ∨ encryptedCap - 11 < packed.length then none
    else sessionEncrypt env random.padding packed

end Siglatch.KnockCodec
