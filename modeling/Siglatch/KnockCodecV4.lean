import Siglatch.KnockSealed

set_option autoImplicit false

namespace Siglatch.KnockCodecV4
open MuxTypes ByteOrder KnockDigest KnockCodec KnockSealed

def INNER_ENVELOPE_WIRE_SIZE : ℕ := 30

def form1 : Layout := ⟨V4_WIRE_VERSION, INNER_ENVELOPE_WIRE_SIZE + 47⟩

/-- The ids and the fragment, then flags and stream type, which are sent as 0. -/
def packInnerEnvelope (normal : NormalizedUnit) : Bytes :=
  writeU64Be normal.sessionId ++ (writeU64Be normal.messageId ++ (writeU32Be normal.streamId ++
    (writeU32Be normal.fragmentIndex ++ (writeU32Be normal.fragmentCount ++ [0, 0]))))

def unpackInnerEnvelope (buf : Bytes) : NormalizedUnit :=
  { NormalizedUnit.zero with
    sessionId := readU64Be buf 0
    messageId := readU64Be buf 8
    streamId := readU32Be buf 16
    fragmentIndex := readU32Be buf 20
    fragmentCount := readU32Be buf 24 }

def packPlain (normal : NormalizedUnit) : Option Bytes :=
  packPlaintext form1 (packInnerEnvelope normal) normal

def unpackPlain (ip : CString) (clientPort : UInt16) (buf : Bytes) : Option NormalizedUnit :=
  unpackPlaintext form1 INNER_ENVELOPE_WIRE_SIZE unpackInnerEnvelope buf ip clientPort

def detect (ingress : Ingress) : Option IngressIdentity := KnockSealed.detect form1 ingress

def countFragments (normal : NormalizedUnit) (forceFragmentCount : ℕ) : ℕ :=
  let payloadLen := normal.payload.length
  let whole := payloadLen / FORM1_PAYLOAD_MAX +
    (if payloadLen % FORM1_PAYLOAD_MAX ≠ 0 then 1 else 0)
  let required := if whole = 0 then 1 else whole
  if 0 < forceFragmentCount then
    if forceFragmentCount < required then 0 else forceFragmentCount
  else required

def finish (out : NormalizedUnit) : NormalizedUnit :=
  { out with
    complete := isLastFragment out.fragmentIndex out.fragmentCount
    wireVersion := V4_WIRE_VERSION, wireForm := FORM1_ID, encrypted := true, wireDecode := true
    wireAuth := false }

/-- Whatever becomes of the packet, the session is looked up by the client's id from here on. -/
def decode (env : CodecEnv) (ingress : Ingress) (control : Control) :
    Option NormalizedUnit × Control :=
  (KnockSealed.decode form1 env (unpackPlain ingress.ip ingress.clientPort) ingress finish,
    { control with sessionByClient := true })

def encode (env : CodecEnv) (random : Entropy) (normal : NormalizedUnit) (capacity : ℕ) :
    Option Bytes :=
  KnockSealed.encode form1 env (generateV4Form1 env.hash) packPlain random normal capacity

/-- How the payload is shared out: the first fragments take one byte more than the others. -/
def fragmentPayloadLen (payloadLen fragmentCount fragmentIndex : ℕ) : ℕ :=
  payloadLen / fragmentCount + (if fragmentIndex < payloadLen % fragmentCount then 1 else 0)

def fragmentOffset (payloadLen fragmentCount fragmentIndex : ℕ) : ℕ :=
  fragmentIndex * (payloadLen / fragmentCount) +
    (if fragmentIndex < payloadLen % fragmentCount then fragmentIndex
      else payloadLen % fragmentCount)

def fragment (normal : NormalizedUnit) (fragmentCount fragmentIndex : ℕ) : NormalizedUnit :=
  { normal with
    fragmentIndex := UInt32.ofNat fragmentIndex
    fragmentCount := UInt32.ofNat fragmentCount
    complete := decide (fragmentCount ≤ fragmentIndex + 1)
    payload := slice (fragmentOffset normal.payload.length fragmentCount fragmentIndex)
      (fragmentPayloadLen normal.payload.length fragmentCount fragmentIndex) normal.payload }

def encodeFragment (env : CodecEnv) (random : Entropy) (normal : NormalizedUnit)
    (fragmentIndex forceFragmentCount capacity : ℕ) : Option Bytes :=
  if normal.wireVersion ≠ V4_WIRE_VERSION ∨ normal.wireForm ≠ FORM1_ID then none
  else
    let fragmentCount := countFragments normal forceFragmentCount
    if fragmentCount = 0 ∨ fragmentCount ≤ fragmentIndex then none
    else encode env random (fragment normal fragmentCount fragmentIndex) capacity

end Siglatch.KnockCodecV4
