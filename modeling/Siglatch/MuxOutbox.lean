import Siglatch.MuxAdapter
import Siglatch.MuxEgress

set_option autoImplicit false

namespace Siglatch.MuxOutbox
open MuxTypes KnockCodec MuxAdapter MuxEgress

/-- The egress queue after a call, which keeps what was staged before a failure. -/
structure Staged where
  ok : Bool
  egress : EgressState

def stageAll (egress : EgressState) : List EgressData → Staged
  | [] => ⟨true, egress⟩
  | packet :: rest =>
    match stageEgress egress packet with
    | none => ⟨false, egress⟩
    | some egress => stageAll egress rest

/-- The fragments of a packet, each under the randomness of its own encoding. -/
def encodeFragments (env : CodecEnv) (random : ℕ → Entropy) (send : SendPacket)
    (encodeFragment : CodecEnv → Entropy → SendPacket → ℕ → ℕ → Option EgressData)
    (fragmentCount forceFragmentCount : ℕ) : Option (List EgressData) :=
  (List.range fragmentCount).mapM fun i =>
    encodeFragment env (random i)
      { send with fragmentIndex := UInt32.ofNat i, fragmentCount := UInt32.ofNat fragmentCount }
      i forceFragmentCount

def stageCommon (env : CodecEnv) (random : ℕ → Entropy) (egress : EgressState) (send : SendPacket)
    (forceFragmentCount : ℕ) : Staged :=
  match lookupAdapterWireVersion send.wireVersion with
  | none => ⟨false, egress⟩
  | some adapter =>
    let forced := if 1 < forceFragmentCount then forceFragmentCount else 0
    let fragmentCount := if 1 < forceFragmentCount then forceFragmentCount
      else adapter.countFragments send
    if fragmentCount = 0 then ⟨false, egress⟩
    else if EGRESS_QUEUE_CAPACITY ≤ egress.count then ⟨false, egress⟩
    else if EGRESS_QUEUE_CAPACITY - egress.count < fragmentCount then ⟨false, egress⟩
    else if fragmentCount = 1 then
      match adapter.encode env (random 0) send with
      | none => ⟨false, egress⟩
      | some serialized => stageAll egress [serialized]
    else
      match adapter.encodeFragment with
      | none => ⟨false, egress⟩
      | some encodeFragment =>
        match encodeFragments env random send encodeFragment fragmentCount forced with
        | none => ⟨false, egress⟩
        | some fragments => stageAll egress fragments

def stage (env : CodecEnv) (random : ℕ → Entropy) (egress : EgressState) (send : SendPacket) :
    Staged :=
  stageCommon env random egress send 0

def stageFragments (env : CodecEnv) (random : ℕ → Entropy) (egress : EgressState)
    (send : SendPacket) (fragmentCount : ℕ) : Staged :=
  if fragmentCount ≤ 1 then stage env random egress send
  else stageCommon env random egress send fragmentCount

def stageBytes (egress : EgressState) (send : SendBytesPacket) : Staged :=
  if NORMALIZED_PACKET_BUFFER_SIZE < send.bytes.length then ⟨false, egress⟩
  else stageAll egress [{ EgressData.zero with
    receivedMs := send.receivedMs, ip := send.ip, clientPort := send.clientPort
    egressBuffer := send.bytes }]

def flush (send : ℕ → EgressData → Bool) (egress : EgressState) (sock : ℤ) : FlushResult :=
  flushEgress send egress sock

section Stage

variable {egress : EgressState} {packet : EgressData}

theorem stageAll_one_ok : (stageAll egress [packet]).ok = true ↔
    packet.egressBuffer.length ≤ NORMALIZED_PACKET_BUFFER_SIZE ∧
    egress.count < EGRESS_QUEUE_CAPACITY := by
  rw [← stageEgress_isSome_iff]
  cases staged : stageEgress egress packet with
  | none => simp [stageAll, staged]
  | some _ => simp [stageAll, staged]

end Stage

end Siglatch.MuxOutbox
