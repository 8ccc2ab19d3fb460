import Siglatch.AppConfig

set_option autoImplicit false

namespace Siglatch.KnockContext
open MuxTypes AppConfig

structure ServerKey where
  name : CString
  privateKey : Option EvpPkey
  deriving DecidableEq

structure KeyEntry where
  userId : UInt32
  name : CString
  publicKey : Option EvpPkey
  hmacKey : Bytes
  deriving DecidableEq

structure CodecContext where
  serverKey : Option ServerKey
  serverSecure : Bool
  keychain : List KeyEntry
  deriving DecidableEq

def create : CodecContext := ⟨none, false, []⟩

def clearServerKey (context : CodecContext) : CodecContext :=
  { context with serverKey := none, serverSecure := false }

def nameExists (context : CodecContext) (name : CString) : Bool :=
  context.keychain.any (·.name == name)

theorem nameExists_iff (context : CodecContext) (name : CString) :
    nameExists context name = true ↔ name ∈ context.keychain.map (·.name) := by
  simp [nameExists]

section system

-- the result of `ensure_capacity` and `copy_entry`, or of `copy_server_key`
variable (granted : Bool) (context : CodecContext)

def setServerKey (serverKey : ServerKey) : Option CodecContext :=
  if serverKey.name = [] then none
  else if !granted then none
  else some { context with serverKey := some serverKey }

def addKeychain (entry : KeyEntry) : Option CodecContext :=
  if entry.name = [] then none
  else if nameExists context entry.name then none
  else if !granted then none
  else some { context with keychain := context.keychain ++ [entry] }

end system

def removeKeychain (context : CodecContext) (name : CString) : Option CodecContext :=
  if name = [] then none
  else if nameExists context name then
    some { context with keychain := context.keychain.eraseP (·.name == name) }
  else none

end Siglatch.KnockContext
