import Siglatch.KnockCodecV1
import Siglatch.KnockCodecV2
import Siglatch.KnockCodecV3
import Siglatch.KnockCodecV4

set_option autoImplicit false

namespace Siglatch.MuxAdapter
open MuxTypes KnockDigest KnockCodec

/-- What the mux knows of a codec. Only codec 4 can encode fragments. -/
structure Adapter where
  wireVersion : UInt32
  countFragments : SendPacket → ℕ
  detect : CodecEnv → Ingress → Option IngressIdentity
  decode : CodecEnv → Ingress → Control → Option RecvPacket × Control
  encode : CodecEnv → Entropy → SendPacket → Option EgressData
  encodeFragment : Option (CodecEnv → Entropy → SendPacket → ℕ → ℕ → Option EgressData)

def adapterCountFragments (count : NormalizedUnit → ℕ → ℕ) (send : SendPacket) : ℕ :=
  match copySendPacket send with
  | none => 0
  | some normal => count normal 0

def adapterDecode (ingress : Ingress) (decoded : Option NormalizedUnit) : Option RecvPacket := do
  let out ← copyRecvPacket (← decoded)
  some { out with receivedMs := ingress.receivedMs }

def adapterEncode (encode : NormalizedUnit → Option Bytes) (send : SendPacket) :
    Option EgressData := do
  let encoded ← encode (← copySendPacket send)
  fillEgress send encoded

def codecV1 : Adapter where
  wireVersion := V1_VERSION
  countFragments := adapterCountFragments KnockCodecV1.countFragments
  detect := KnockCodecV1.detect
  decode env ingress control := (adapterDecode ingress (KnockCodecV1.decode env ingress), control)
  encode env random := adapterEncode fun normal =>
    KnockCodecV1.encode env random normal NORMALIZED_PACKET_BUFFER_SIZE
  encodeFragment := none

def codecV2 : Adapter where
  wireVersion := V2_WIRE_VERSION
  countFragments := adapterCountFragments KnockCodecV2.countFragments
  detect := KnockCodecV2.detect
  decode env ingress control := (adapterDecode ingress (KnockCodecV2.decode env ingress), control)
  encode env random := adapterEncode fun normal =>
    KnockCodecV2.encode env random normal NORMALIZED_PACKET_BUFFER_SIZE
  encodeFragment := none

def codecV3 : Adapter where
  wireVersion := V3_WIRE_VERSION
  countFragments := adapterCountFragments KnockCodecV3.countFragments
  detect _ := KnockCodecV3.detect
  decode env ingress control := (adapterDecode ingress (KnockCodecV3.decode env ingress), control)
  encode env random := adapterEncode fun normal =>
    KnockCodecV3.encode env random normal KnockCodecV3.form1.packetMaxSize
  encodeFragment := none

def codecV4 : Adapter where
  wireVersion := V4_WIRE_VERSION
  countFragments := adapterCountFragments KnockCodecV4.countFragments
  detect _ := KnockCodecV4.detect
  decode env ingress control :=
    let decoded := KnockCodecV4.decode env ingress control
    (adapterDecode ingress decoded.1, decoded.2)
  encode env random := adapterEncode fun normal =>
    KnockCodecV4.encode env random normal KnockCodecV4.form1.packetMaxSize
  encodeFragment := some fun env random send fragmentIndex fragmentCount =>
    adapterEncode (fun normal => KnockCodecV4.encodeFragment env random normal fragmentIndex
      fragmentCount KnockCodecV4.form1.packetMaxSize) send

def adapters : List Adapter := [codecV1, codecV2, codecV3, codecV4]

def lookupAdapterWireVersion (wireVersion : UInt32) : Option Adapter :=
  adapters.find? (·.wireVersion == wireVersion)

/-- The first adapter that takes the packet for its own, with what it found out. -/
def demux (env : CodecEnv) (ingress : Ingress) : Option (Adapter × IngressIdentity) :=
  adapters.findSome? fun adapter => (adapter.detect env ingress).map (adapter, ·)

def registered : List UInt32 := adapters.map (·.wireVersion)

theorem registered_eq : registered =
    [V1_VERSION, V2_WIRE_VERSION, V3_WIRE_VERSION, V4_WIRE_VERSION] := rfl

theorem lookupAdapterWireVersion_isSome_iff (wireVersion : UInt32) :
    (lookupAdapterWireVersion wireVersion).isSome = true ↔ wireVersion ∈ registered := by
  rw [lookupAdapterWireVersion, List.find?_isSome, registered, List.mem_map]
  apply exists_congr
  intro adapter
  rw [beq_iff_eq]

theorem lookupAdapterWireVersion_some {wireVersion : UInt32} {adapter : Adapter}
    (found : lookupAdapterWireVersion wireVersion = some adapter) :
    adapter ∈ adapters ∧ adapter.wireVersion = wireVersion :=
  ⟨List.mem_of_find?_eq_some found, beq_iff_eq.mp (@List.find?_some _ _ adapter adapters found)⟩

theorem adapters_cases {adapter : Adapter} (registry : adapter ∈ adapters) :
    adapter = codecV1 ∨ adapter = codecV2 ∨ adapter = codecV3 ∨ adapter = codecV4 := by
  simpa only [adapters, List.mem_cons, List.not_mem_nil, or_false] using registry

theorem demux_some {env : CodecEnv} {ingress : Ingress} {adapter : Adapter}
    {identity : IngressIdentity} (found : demux env ingress = some (adapter, identity)) :
    adapter ∈ adapters ∧ adapter.detect env ingress = some identity := by
  obtain ⟨member, registry, taken⟩ := List.exists_of_findSome?_eq_some found
  obtain ⟨detected, detects, same⟩ := Option.map_eq_some_iff.mp taken
  obtain ⟨rfl, rfl⟩ := Prod.mk.inj same
  exact ⟨registry, detects⟩

/-- Every adapter hands on a copy of what its codec decoded. -/
theorem adapterDecode_copied {ingress : Ingress} {decoded : Option NormalizedUnit} {p : RecvPacket}
    (h : adapterDecode ingress decoded = some p) : ∃ unit, decoded = some unit ∧ Copied unit p := by
  obtain ⟨unit, made, rest⟩ := Option.bind_eq_some_iff.mp h
  obtain ⟨out, copied, same⟩ := Option.bind_eq_some_iff.mp rest
  obtain rfl := Option.some.inj same
  have copies := copyRecvPacket_copied copied
  exact ⟨unit, made, copies.short, copies.quiet, copies.version, copies.session, copies.dated,
    copies.auth, copies.user⟩

/-- Every adapter reports the packet length that it was handed. -/
theorem adapterEncode_some {encode : NormalizedUnit → Option Bytes} {send : SendPacket}
    {egress : EgressData} (h : adapterEncode encode send = some egress) :
    egress.egressBuffer.length ≤ NORMALIZED_PACKET_BUFFER_SIZE := by
  simp only [adapterEncode, Option.bind_eq_bind, Option.bind_eq_some_iff] at h
  obtain ⟨normal, -, encoded, -, filled⟩ := h
  unfold fillEgress at filled
  split at filled
  · contradiction
  · rename_i fits
    obtain rfl := Option.some.inj filled
    exact Nat.not_lt.mp fits

end Siglatch.MuxAdapter
