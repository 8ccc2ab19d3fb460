import Siglatch.KnockCodec

set_option autoImplicit false

namespace Siglatch.KnockSealed
open MuxTypes ByteOrder KnockDigest DaemonTypes KnockCodec

/-- Codecs 3 and 4 seal a body under a fresh key that is wrapped for the receiver. They differ
in the version and in the fixed part of the body. -/
structure Layout where
  wireVersion : UInt32
  bodyFixedSize : ℕ

def FORM1_PAYLOAD_MAX : ℕ := 512
def HEADER_SIZE : ℕ := 27

def Layout.bodyMax (layout : Layout) : ℕ := layout.bodyFixedSize + FORM1_PAYLOAD_MAX

def Layout.packetMaxSize (layout : Layout) : ℕ :=
  HEADER_SIZE + CEK_MAX + layout.bodyMax + TAG_SIZE

structure Form1Packet where
  magic : UInt32
  version : UInt32
  form : UInt8
  wrappedCek : Bytes
  nonce : Bytes
  ciphertext : Bytes
  tag : Bytes
  deriving DecidableEq

/-- The authenticated header, which is also how the packet starts on the wire. -/
def buildAad (pkt : Form1Packet) : Bytes :=
  writeU32Be pkt.magic ++ (writeU32Be pkt.version ++ ([pkt.form] ++
    (writeU16Be (UInt16.ofNat pkt.wrappedCek.length) ++ (pkt.nonce ++
      writeU32Be (UInt32.ofNat pkt.ciphertext.length)))))

def unpackWire (layout : Layout) (buf : Bytes) : Option Form1Packet :=
  let wrappedCekLen := (readU16Be buf 9).toNat
  let ciphertextLen := (readU32Be buf 23).toNat
  if buf.length < HEADER_SIZE then none
  else if wrappedCekLen = 0 ∨ CEK_MAX < wrappedCekLen then none
  else if ciphertextLen < layout.bodyFixedSize ∨ layout.bodyMax < ciphertextLen then none
  else if buf.length ≠ HEADER_SIZE + wrappedCekLen + ciphertextLen + TAG_SIZE then none
  else some {
    magic := readU32Be buf 0
    version := readU32Be buf 4
    form := byteAt buf 8
    wrappedCek := slice HEADER_SIZE wrappedCekLen buf
    nonce := slice 11 NONCE_SIZE buf
    ciphertext := slice (HEADER_SIZE + wrappedCekLen) ciphertextLen buf
    tag := slice (HEADER_SIZE + wrappedCekLen + ciphertextLen) TAG_SIZE buf }

def validateWire (layout : Layout) (pkt : Form1Packet) : Bool :=
  if pkt.magic ≠ PREFIX_MAGIC then false
  else if pkt.version ≠ layout.wireVersion then false
  else if pkt.form ≠ FORM1_ID then false
  else if pkt.wrappedCek.length = 0 ∨ CEK_MAX < pkt.wrappedCek.length then false
  else if pkt.ciphertext.length < layout.bodyFixedSize ∨
      layout.bodyMax < pkt.ciphertext.length then false
  else true

def deserializeWire (layout : Layout) (buf : Bytes) : Option Form1Packet :=
  (unpackWire layout buf).filter (validateWire layout)

def pack (layout : Layout) (pkt : Form1Packet) (maxlen : ℕ) : Option Bytes :=
  if pkt.wrappedCek.length = 0 ∨ CEK_MAX < pkt.wrappedCek.length then none
  else if pkt.ciphertext.length < layout.bodyFixedSize ∨
      layout.bodyMax < pkt.ciphertext.length then none
  else if maxlen < HEADER_SIZE + pkt.wrappedCek.length + pkt.ciphertext.length + TAG_SIZE then none
  else some (buildAad pkt ++ (pkt.wrappedCek ++ (pkt.ciphertext ++ pad TAG_SIZE pkt.tag)))

def detect (layout : Layout) (ingress : Ingress) : Option IngressIdentity :=
  (deserializeWire layout ingress.buffer).map fun pkt => ⟨true, pkt.magic, pkt.version, pkt.form⟩

def packBody (normal : NormalizedUnit) : Bytes :=
  writeU32Be normal.timestamp ++ (writeU16Be normal.userId ++ ([normal.actionId] ++
    (writeU32Be normal.challenge ++ (writeU32Be (UInt32.ofNat normal.payload.length) ++
      (normal.payload ++ pad HMAC_SIZE normal.hmac)))))

def packPlaintext (layout : Layout) (inner : Bytes) (normal : NormalizedUnit) : Option Bytes :=
  if FORM1_PAYLOAD_MAX < normal.payload.length then none
  else if normal.wireVersion ≠ layout.wireVersion ∨ normal.wireForm ≠ FORM1_ID then none
  else some (inner ++ packBody normal)

def unpackPlaintext (layout : Layout) (bodyOffset : ℕ) (unpackInner : Bytes → NormalizedUnit)
    (buf : Bytes) (ip : CString) (clientPort : UInt16) : Option NormalizedUnit :=
  let payloadLen := (readU32Be buf (bodyOffset + 11)).toNat
  if buf.length < layout.bodyFixedSize then none
  else if FORM1_PAYLOAD_MAX < payloadLen then none
  else if buf.length ≠ layout.bodyFixedSize + payloadLen then none
  else some { unpackInner buf with
    timestamp := readU32Be buf bodyOffset
    userId := readU16Be buf (bodyOffset + 4)
    actionId := byteAt buf (bodyOffset + 6)
    challenge := readU32Be buf (bodyOffset + 7)
    ip := ip.take 63
    clientPort := clientPort
    payload := slice (bodyOffset + 15) payloadLen buf
    hmac := slice (bodyOffset + 15 + payloadLen) HMAC_SIZE buf }

/-- The buffer for an unwrapped key has `CEK_MAX` bytes, and OpenSSL is told that it has as many as
the session's key. -/
def overruns (env : CodecEnv) : Bool :=
  (env.session.bind (·.privateKey)).any fun key => decide (CEK_MAX < env.cipher.keySize key)

/-- Nothing is said here of a session whose key overruns the buffer. -/
def decryptPayloadKey (env : CodecEnv) (pkt : Form1Packet) : Option Bytes :=
  (sessionDecrypt env pkt.wrappedCek).filter (·.length == CEK_SIZE)

def decryptAndUnpackPacket (env : CodecEnv) (unpack : Bytes → Option NormalizedUnit)
    (pkt : Form1Packet) : Option NormalizedUnit := do
  let cek ← decryptPayloadKey env pkt
  let plaintext ← env.cipher.aesgcmDecrypt cek pkt.nonce (buildAad pkt) pkt.ciphertext pkt.tag
  unpack plaintext

/-- A packet that does not deserialize gives a negative code, which the caller takes for success:
the unit is then the zeroed one. -/
def decode (layout : Layout) (env : CodecEnv) (unpack : Bytes → Option NormalizedUnit)
    (ingress : Ingress) (finish : NormalizedUnit → NormalizedUnit) : Option NormalizedUnit :=
  match deserializeWire layout ingress.buffer with
  | none => some NormalizedUnit.zero
  | some pkt => (decryptAndUnpackPacket env unpack pkt).map finish

/-- A wrapped key of more than `CEK_MAX` bytes runs over into the ciphertext behind it before it is
refused; one that is longer than the rest of the packet, from an RSA key of more than 6888 bits,
runs out of it, and nothing is said of that. -/
def encryptPayloadKey (env : CodecEnv) (random : Entropy) : Option Bytes :=
  (sessionEncrypt env random.padding random.cek).filter fun wrapped =>
    !(wrapped.length == 0) && decide (wrapped.length ≤ CEK_MAX)

def signedBody (env : CodecEnv) (generate : NormalizedUnit → Option Bytes)
    (normal : NormalizedUnit) : Option NormalizedUnit :=
  if normal.wireAuth ∧ (env.session.bind (·.publicKey)).isNone then none
  else do
    let hmac ← outgoingHmac env normal.wireAuth (generate normal) normal.hmac
    some { normal with hmac := hmac }

/-- The header is authenticated with the length of the plaintext. A `pack` that fails returns a
negative code, which goes through as well and leaves a zeroed packet. -/
def sealPlaintext (layout : Layout) (env : CodecEnv) (random : Entropy) (plaintext : Bytes)
    (capacity : ℕ) : Option Bytes := do
  let wrapped ← encryptPayloadKey env random
  let pkt : Form1Packet := ⟨PREFIX_MAGIC, layout.wireVersion, FORM1_ID, wrapped, random.nonce,
    plaintext, []⟩
  let sealedBody := env.cipher.aesgcmEncrypt random.cek random.nonce (buildAad pkt) plaintext
  if layout.bodyMax < sealedBody.1.length then none
  else
    let full := { pkt with ciphertext := sealedBody.1, tag := sealedBody.2 }
    some ((pack layout full capacity).getD
      (List.replicate (HEADER_SIZE + wrapped.length + sealedBody.1.length + TAG_SIZE) 0))

def encode (layout : Layout) (env : CodecEnv) (generate : NormalizedUnit → Option Bytes)
    (packPlain : NormalizedUnit → Option Bytes) (random : Entropy) (normal : NormalizedUnit)
    (capacity : ℕ) : Option Bytes := do
  if normal.wireVersion ≠ layout.wireVersion ∨ normal.wireForm ≠ FORM1_ID then none
  else if FORM1_PAYLOAD_MAX < normal.payload.length then none
  else
    let body ← signedBody env generate normal
    let plaintext ← packPlain body
    sealPlaintext layout env random plaintext capacity

end Siglatch.KnockSealed
