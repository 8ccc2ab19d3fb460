import Siglatch.AppConfig
import Siglatch.NetIpRange

set_option autoImplicit false

namespace Siglatch.RequestPolicy
open MuxTypes AppConfig NetIpRange

def ipAllowed (allowedIps : List CString) (ipAddr : CString) : Bool :=
  if ipAddr = [] then false
  else if allowedIps = [] then true
  else allowedIps.any (containsSpecIpv4 · ipAddr)

def serverIpAllowed (server : Server) (ipAddr : CString) : Bool :=
  ipAllowed server.allowedIps ipAddr

def userIpAllowed (user : User) (ipAddr : CString) : Bool :=
  ipAllowed user.allowedIps ipAddr

def actionIpAllowed (action : Action) (ipAddr : CString) : Bool :=
  ipAllowed action.allowedIps ipAddr

def requestIpAllowed (server : Server) (user : User) (action : Action) (ipAddr : CString) :
    Bool :=
  if ipAddr = [] then false
  else if !serverIpAllowed server ipAddr then false
  else if !userIpAllowed user ipAddr then false
  else if !actionIpAllowed action ipAddr then false
  else true

/-- What an allowlist is for: an empty one admits every address, any other one the addresses
that one of its specs contains. The empty text is no address. -/
def Admits (allowedIps : List CString) (ipAddr : CString) : Prop :=
  ipAddr ≠ [] ∧ (allowedIps = [] ∨ ∃ spec ∈ allowedIps, containsSpecIpv4 spec ipAddr = true)

theorem ipAllowed_iff (allowedIps : List CString) (ipAddr : CString) :
    ipAllowed allowedIps ipAddr = true ↔ Admits allowedIps ipAddr := by
  unfold ipAllowed Admits
  by_cases address : ipAddr = []
  · simp [address]
  · by_cases anyone : allowedIps = []
    · simp [address, anyone]
    · simp [address, anyone]

instance (allowedIps : List CString) (ipAddr : CString) : Decidable (Admits allowedIps ipAddr) :=
  decidable_of_iff _ (ipAllowed_iff allowedIps ipAddr)

theorem requestIpAllowed_iff (server : Server) (user : User) (action : Action)
    (ipAddr : CString) :
    requestIpAllowed server user action ipAddr = true ↔
      Admits server.allowedIps ipAddr ∧ Admits user.allowedIps ipAddr ∧
        Admits action.allowedIps ipAddr := by
  rw [← ipAllowed_iff, ← ipAllowed_iff, ← ipAllowed_iff]
  unfold requestIpAllowed serverIpAllowed userIpAllowed actionIpAllowed
  by_cases address : ipAddr = []
  · simp [address, ipAllowed]
  · simp [address]

end Siglatch.RequestPolicy
