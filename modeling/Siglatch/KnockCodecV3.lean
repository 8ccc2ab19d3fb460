import Siglatch.KnockSealed

set_option autoImplicit false

namespace Siglatch.KnockCodecV3
open MuxTypes KnockDigest KnockCodec KnockSealed

def form1 : Layout := ⟨V3_WIRE_VERSION, 47⟩

def detect (ingress : Ingress) : Option IngressIdentity := KnockSealed.detect form1 ingress

def countFragments (normal : NormalizedUnit) (forceFragmentCount : ℕ) : ℕ :=
  countSingle FORM1_PAYLOAD_MAX normal forceFragmentCount

def decode (env : CodecEnv) (ingress : Ingress) : Option NormalizedUnit :=
  KnockSealed.decode form1 env
    (fun buf => unpackPlaintext form1 0 (fun _ => NormalizedUnit.zero) buf ingress.ip
      ingress.clientPort)
    ingress fun out => { out with
      complete := true, wireVersion := V3_WIRE_VERSION, wireForm := FORM1_ID, sessionId := 0
      messageId := 0, streamId := 0, fragmentIndex := 0, fragmentCount := 1, encrypted := true
      wireDecode := true, wireAuth := false }

def encode (env : CodecEnv) (random : Entropy) (normal : NormalizedUnit) (capacity : ℕ) :
    Option Bytes :=
  KnockSealed.encode form1 env (generateV3Form1 env.hash) (packPlaintext form1 []) random normal
    capacity

end Siglatch.KnockCodecV3
