import Siglatch.KnockCodec

set_option autoImplicit false

namespace Siglatch.KnockCodecV1
open MuxTypes ByteOrder KnockDigest KnockCodec

def PACKET_SIZE : ℕ := 245
def TIMESTAMP_FUZZ : ℤ := 300

structure Packet where
  version : UInt8
  timestamp : UInt32
  userId : UInt16
  actionId : UInt8
  challenge : UInt32
  hmac : Bytes
  payloadLen : UInt16
  payload : Bytes
  deriving DecidableEq

def packWire (pkt : Packet) (maxlen : ℕ) : Option Bytes :=
  if maxlen < PACKET_SIZE then none
  else some (leBytes 1 pkt.version.toNat ++ leBytes 4 pkt.timestamp.toNat ++
    leBytes 2 pkt.userId.toNat ++ leBytes 1 pkt.actionId.toNat ++ leBytes 4 pkt.challenge.toNat ++
    pad HMAC_SIZE pkt.hmac ++ leBytes 2 pkt.payloadLen.toNat ++ pad V1_PAYLOAD_MAX pkt.payload)

def unpackWire (buf : Bytes) : Option Packet :=
  if buf.length < PACKET_SIZE then none
  else some {
    version := byteAt buf 0
    timestamp := readU32Le buf 1
    userId := readU16Le buf 5
    actionId := byteAt buf 7
    challenge := readU32Le buf 8
    hmac := slice 12 HMAC_SIZE buf
    payloadLen := readU16Le buf 44
    payload := slice 46 V1_PAYLOAD_MAX buf }

def validateWire (now : ℤ) (pkt : Packet) : Bool :=
  if pkt.version ≠ 1 then false
  else if V1_PAYLOAD_MAX < pkt.payloadLen.toNat then false
  else if now + TIMESTAMP_FUZZ < pkt.timestamp.toNat ∨
      (pkt.timestamp.toNat : ℤ) < now - TIMESTAMP_FUZZ then false
  else true

def deserializeWire (now : ℤ) (buf : Bytes) : Option Packet :=
  (unpackWire buf).filter (validateWire now)

def normalize (now : ℤ) (buf : Bytes) (ip : CString) (clientPort : UInt16) (encrypted : Bool) :
    Option NormalizedUnit :=
  (deserializeWire now buf).map fun pkt => { NormalizedUnit.zero with
    complete := true, wireVersion := V1_VERSION, fragmentCount := 1, timestamp := pkt.timestamp
    userId := pkt.userId, actionId := pkt.actionId, challenge := pkt.challenge, hmac := pkt.hmac
    ip := ip.take 63, clientPort := clientPort, encrypted := encrypted
    payload := pkt.payload.take pkt.payloadLen.toNat }

def detect (env : CodecEnv) (ingress : Ingress) : Option IngressIdentity :=
  if ingress.buffer.length = PACKET_SIZE ∧ (deserializeWire env.now ingress.buffer).isSome then
    some IngressIdentity.zero
  else
    match privateDecrypt env ingress.buffer with
    | none => none
    | some decrypted =>
      if decrypted.length = PACKET_SIZE ∧ (deserializeWire env.now decrypted).isSome then
        some { IngressIdentity.zero with encrypted := true }
      else none

def countFragments (normal : NormalizedUnit) (forceFragmentCount : ℕ) : ℕ :=
  countSingle V1_PAYLOAD_MAX normal forceFragmentCount

def decode (env : CodecEnv) (ingress : Ingress) : Option NormalizedUnit :=
  if ingress.encrypted then do
    let decrypted ← privateDecrypt env ingress.buffer
    normalize env.now decrypted ingress.ip ingress.clientPort true
  else if env.context.serverSecure then none
  else normalize env.now ingress.buffer ingress.ip ingress.clientPort false

def encode (env : CodecEnv) (random : Entropy) (normal : NormalizedUnit) (capacity : ℕ) :
    Option Bytes := do
  if capacity < PACKET_SIZE then none
  else if V1_PAYLOAD_MAX < normal.payload.length then none
  else
    let digestPkt : KnockPacket := ⟨1, normal.timestamp, normal.userId, normal.actionId,
      normal.challenge, List.replicate HMAC_SIZE 0, normal.payload⟩
    let hmac ← outgoingHmac env normal.wireAuth (generate env.hash digestPkt) normal.hmac
    let wirePkt : Packet := ⟨1, normal.timestamp, normal.userId, normal.actionId, normal.challenge,
      hmac, UInt16.ofNat normal.payload.length, normal.payload⟩
    let packed ← packWire wirePkt PACKET_SIZE
    encryptPacked env random normal.encrypted capacity packed

end Siglatch.KnockCodecV1
