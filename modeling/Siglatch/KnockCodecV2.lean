import Siglatch.KnockCodec

set_option autoImplicit false

namespace Siglatch.KnockCodecV2
open MuxTypes ByteOrder KnockDigest KnockCodec

def FORM1_PACKET_SIZE : ℕ := 245
def FORM1_TIMESTAMP_FUZZ : ℤ := 300

structure Packet where
  magic : UInt32
  version : UInt32
  form : UInt8
  timestamp : UInt32
  userId : UInt16
  actionId : UInt8
  challenge : UInt32
  hmac : Bytes
  payloadLen : UInt16
  payload : Bytes
  deriving DecidableEq

def unpackWire (buf : Bytes) : Option Packet :=
  if buf.length ≠ FORM1_PACKET_SIZE then none
  else some {
    magic := readU32Be buf 0
    version := readU32Be buf 4
    form := byteAt buf 8
    timestamp := readU32Be buf 9
    userId := readU16Be buf 13
    actionId := byteAt buf 15
    challenge := readU32Be buf 16
    hmac := slice 20 HMAC_SIZE buf
    payloadLen := readU16Be buf 52
    payload := slice 54 V2_FORM1_PAYLOAD_MAX buf }

def validateWire (now : ℤ) (pkt : Packet) : Bool :=
  if pkt.magic ≠ PREFIX_MAGIC then false
  else if pkt.version ≠ V2_WIRE_VERSION then false
  else if pkt.form ≠ FORM1_ID then false
  else if V2_FORM1_PAYLOAD_MAX < pkt.payloadLen.toNat then false
  else if now + FORM1_TIMESTAMP_FUZZ < pkt.timestamp.toNat ∨
      (pkt.timestamp.toNat : ℤ) < now - FORM1_TIMESTAMP_FUZZ then false
  else true

def deserializeWire (now : ℤ) (buf : Bytes) : Option Packet :=
  (unpackWire buf).filter (validateWire now)

def normalize (now : ℤ) (buf : Bytes) (ip : CString) (clientPort : UInt16) (encrypted : Bool) :
    Option NormalizedUnit :=
  (deserializeWire now buf).map fun pkt => { NormalizedUnit.zero with
    complete := true, wireVersion := V2_WIRE_VERSION, wireForm := pkt.form, fragmentCount := 1
    timestamp := pkt.timestamp, userId := pkt.userId, actionId := pkt.actionId
    challenge := pkt.challenge, hmac := pkt.hmac, ip := ip.take 63, clientPort := clientPort
    encrypted := encrypted, payload := pkt.payload.take pkt.payloadLen.toNat }

def pack (pkt : Packet) (maxlen : ℕ) : Option Bytes :=
  if maxlen < FORM1_PACKET_SIZE then none
  else if V2_FORM1_PAYLOAD_MAX < pkt.payloadLen.toNat then none
  else some (writeU32Be pkt.magic ++ writeU32Be pkt.version ++ [pkt.form] ++
    writeU32Be pkt.timestamp ++ writeU16Be pkt.userId ++ [pkt.actionId] ++
    writeU32Be pkt.challenge ++ pad HMAC_SIZE pkt.hmac ++ writeU16Be pkt.payloadLen ++
    pad V2_FORM1_PAYLOAD_MAX (pkt.payload.take pkt.payloadLen.toNat))

def detect (env : CodecEnv) (ingress : Ingress) : Option IngressIdentity :=
  match (if ingress.buffer.length = FORM1_PACKET_SIZE then deserializeWire env.now ingress.buffer
    else none) with
  | some pkt => some ⟨false, pkt.magic, pkt.version, pkt.form⟩
  | none =>
    match privateDecrypt env ingress.buffer with
    | none => none
    | some decrypted =>
      if decrypted.length ≠ FORM1_PACKET_SIZE then none
      else (deserializeWire env.now decrypted).map fun pkt =>
        ⟨true, pkt.magic, pkt.version, pkt.form⟩

def countFragments (normal : NormalizedUnit) (forceFragmentCount : ℕ) : ℕ :=
  countSingle V2_FORM1_PAYLOAD_MAX normal forceFragmentCount

def decode (env : CodecEnv) (ingress : Ingress) : Option NormalizedUnit :=
  if ingress.encrypted then do
    let decrypted ← privateDecrypt env ingress.buffer
    normalize env.now decrypted ingress.ip ingress.clientPort true
  else if env.context.serverSecure then none
  else normalize env.now ingress.buffer ingress.ip ingress.clientPort false

def encode (env : CodecEnv) (random : Entropy) (normal : NormalizedUnit) (capacity : ℕ) :
    Option Bytes := do
  if capacity < FORM1_PACKET_SIZE then none
  else if V2_FORM1_PAYLOAD_MAX < normal.payload.length then none
  else
    let digestPkt : V2Form1Packet := ⟨PREFIX_MAGIC, V2_WIRE_VERSION, FORM1_ID, normal.timestamp,
      normal.userId, normal.actionId, normal.challenge, List.replicate HMAC_SIZE 0,
      normal.payload⟩
    let hmac ← outgoingHmac env normal.wireAuth (generateV2Form1 env.hash digestPkt) normal.hmac
    let wirePkt : Packet := ⟨PREFIX_MAGIC, V2_WIRE_VERSION, FORM1_ID, normal.timestamp,
      normal.userId, normal.actionId, normal.challenge, hmac, UInt16.ofNat normal.payload.length,
      normal.payload⟩
    let packed ← pack wirePkt FORM1_PACKET_SIZE
    encryptPacked env random normal.encrypted capacity packed

end Siglatch.KnockCodecV2
