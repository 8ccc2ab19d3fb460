import Siglatch.ByteOrder
import Siglatch.MuxTypes

set_option autoImplicit false

namespace Siglatch.KnockDigest
open MuxTypes ByteOrder

def V1_VERSION : UInt32 := 1
def V2_WIRE_VERSION : UInt32 := 0x00020000
def V3_WIRE_VERSION : UInt32 := 0x00030000
def V4_WIRE_VERSION : UInt32 := 0x00040000
def FORM1_ID : UInt8 := 1

def PREFIX_MAGIC : UInt32 := 0x534C504B
def V1_PAYLOAD_MAX : ℕ := 199
def V2_FORM1_PAYLOAD_MAX : ℕ := 191
def NORMALIZED_PAYLOAD_MAX : ℕ := 1024

structure Hash where
  sha256 : Bytes → Bytes
  hmac : Bytes → Bytes → Bytes

structure KnockPacket where
  version : UInt8
  timestamp : UInt32
  userId : UInt16
  actionId : UInt8
  challenge : UInt32
  hmac : Bytes
  payload : Bytes
  deriving DecidableEq

structure V2Form1Packet where
  magic : UInt32
  version : UInt32
  form : UInt8
  timestamp : UInt32
  userId : UInt16
  actionId : UInt8
  challenge : UInt32
  hmac : Bytes
  payload : Bytes
  deriving DecidableEq

structure NormalizedUnit where
  complete : Bool
  wireVersion : UInt32
  wireForm : UInt8
  sessionId : UInt64
  messageId : UInt64
  streamId : UInt32
  fragmentIndex : UInt32
  fragmentCount : UInt32
  timestamp : UInt32
  userId : UInt16
  actionId : UInt8
  challenge : UInt32
  hmac : Bytes
  ip : CString
  clientPort : UInt16
  encrypted : Bool
  wireDecode : Bool
  wireAuth : Bool
  payload : Bytes
  deriving DecidableEq

def HMAC_SIZE : ℕ := 32

def NormalizedUnit.zero : NormalizedUnit where
  complete := false
  wireVersion := 0
  wireForm := 0
  sessionId := 0
  messageId := 0
  streamId := 0
  fragmentIndex := 0
  fragmentCount := 0
  timestamp := 0
  userId := 0
  actionId := 0
  challenge := 0
  hmac := List.replicate HMAC_SIZE 0
  ip := []
  clientPort := 0
  encrypted := false
  wireDecode := false
  wireAuth := false
  payload := []

variable (hash : Hash)

/-- The fields are hashed as they lie in memory, that is in little-endian order. -/
def generate (pkt : KnockPacket) : Option Bytes :=
  if V1_PAYLOAD_MAX < pkt.payload.length then none
  else some (hash.sha256 (leBytes 1 pkt.version.toNat ++ leBytes 4 pkt.timestamp.toNat ++
    leBytes 2 pkt.userId.toNat ++ leBytes 1 pkt.actionId.toNat ++ leBytes 4 pkt.challenge.toNat ++
    leBytes 2 pkt.payload.length ++ pkt.payload))

def generateV2Form1 (pkt : V2Form1Packet) : Option Bytes :=
  if V2_FORM1_PAYLOAD_MAX < pkt.payload.length then none
  else some (hash.sha256 (leBytes 4 pkt.version.toNat ++ leBytes 4 pkt.timestamp.toNat ++
    leBytes 2 pkt.userId.toNat ++ leBytes 1 pkt.actionId.toNat ++ leBytes 4 pkt.challenge.toNat ++
    leBytes 2 pkt.payload.length ++ pkt.payload))

def generateForm1 (version : UInt32) (normal : NormalizedUnit) : Option Bytes :=
  if normal.wireVersion ≠ version then none
  else if normal.wireForm ≠ FORM1_ID then none
  else if NORMALIZED_PAYLOAD_MAX < normal.payload.length then none
  else some (hash.sha256 (leBytes 4 normal.wireVersion.toNat ++ leBytes 1 normal.wireForm.toNat ++
    leBytes 4 normal.timestamp.toNat ++ leBytes 2 normal.userId.toNat ++
    leBytes 1 normal.actionId.toNat ++ leBytes 4 normal.challenge.toNat ++
    leBytes 8 normal.payload.length ++ normal.payload))

def generateV3Form1 (normal : NormalizedUnit) : Option Bytes :=
  generateForm1 hash V3_WIRE_VERSION normal

def generateV4Form1 (normal : NormalizedUnit) : Option Bytes :=
  generateForm1 hash V4_WIRE_VERSION normal

def sign (hmacKey digest : Bytes) : Bytes := hash.hmac hmacKey digest

def validate (hmacKey digest signature : Bytes) : Bool :=
  signature == hash.hmac hmacKey digest

theorem validate_iff (hmacKey digest signature : Bytes) :
    validate hash hmacKey digest signature = true ↔ signature = sign hash hmacKey digest := by
  simp [validate, sign]

end Siglatch.KnockDigest
