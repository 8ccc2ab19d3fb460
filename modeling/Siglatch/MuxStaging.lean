import Siglatch.KnockFragments

set_option autoImplicit false

namespace Siglatch.MuxStaging
open MuxTypes KnockCodec MuxAdapter MuxEgress MuxOutbox KnockFragments RelatedLists

structure Fits (adapter : Adapter) : Prop where
  encode : ∀ env random send packet, adapter.encode env random send = some packet →
    packet.egressBuffer.length ≤ NORMALIZED_PACKET_BUFFER_SIZE
  encodeFragment : ∀ encodeFragment, adapter.encodeFragment = some encodeFragment →
    ∀ env random send i count packet, encodeFragment env random send i count = some packet →
      packet.egressBuffer.length ≤ NORMALIZED_PACKET_BUFFER_SIZE

theorem adapters_fit {adapter : Adapter} (registry : adapter ∈ adapters) : Fits adapter := by
  rcases adapters_cases registry with rfl | rfl | rfl | rfl
  · exact ⟨fun _ _ _ _ made => adapterEncode_some made, fun _ known => by contradiction⟩
  · exact ⟨fun _ _ _ _ made => adapterEncode_some made, fun _ known => by contradiction⟩
  · exact ⟨fun _ _ _ _ made => adapterEncode_some made, fun _ known => by contradiction⟩
  · refine ⟨fun _ _ _ _ made => adapterEncode_some made, ?_⟩
    intro encodeFragment known env random send i count packet made
    obtain rfl := Option.some.inj known
    exact adapterEncode_some made

section Stage

variable (env : CodecEnv) (random : ℕ → Entropy) (adapter : Adapter) (send : SendPacket)
  (requested : ℕ)

/-- The forced count when it exceeds one, else the count of the codec. -/
def totalFragments : ℕ := if 1 < requested then requested else adapter.countFragments send

def forcedCount : ℕ := if 1 < requested then requested else 0

/-- `packet` is what the codec makes of fragment `i` of the message. -/
def EncodesFragment (i : ℕ) (packet : EgressData) : Prop :=
  if totalFragments adapter send requested = 1 then adapter.encode env (random i) send = some packet
  else ∃ encodeFragment, adapter.encodeFragment = some encodeFragment ∧
    encodeFragment env (random i) { send with
      fragmentIndex := UInt32.ofNat i
      fragmentCount := UInt32.ofNat (totalFragments adapter send requested) } i
      (forcedCount requested) = some packet

variable {env random adapter send requested}

theorem EncodesFragment.fits (registry : adapter ∈ adapters) {i : ℕ} {packet : EgressData}
    (h : EncodesFragment env random adapter send requested i packet) :
    packet.egressBuffer.length ≤ NORMALIZED_PACKET_BUFFER_SIZE := by
  unfold EncodesFragment at h
  split at h
  · exact (adapters_fit registry).encode _ _ _ _ h
  · obtain ⟨encodeFragment, known, made⟩ := h
    exact (adapters_fit registry).encodeFragment _ known _ _ _ _ _ _ made

theorem stageAll_ok {egress : EgressState} {packets : List EgressData}
    (fits : ∀ packet ∈ packets, packet.egressBuffer.length ≤ NORMALIZED_PACKET_BUFFER_SIZE)
    (room : egress.count + packets.length ≤ EGRESS_QUEUE_CAPACITY) :
    (stageAll egress packets).ok = true := by
  induction packets generalizing egress with
  | nil => rfl
  | cons packet packets ih =>
    rw [List.length_cons] at room
    have taken : (stageEgress egress packet).isSome = true :=
      stageEgress_isSome_iff.mpr ⟨fits packet List.mem_cons_self, by omega⟩
    obtain ⟨after, staged⟩ := Option.isSome_iff_exists.mp taken
    have count : after.count = egress.count + 1 := (stageEgress_some staged).2.2.1
    unfold stageAll
    rw [staged]
    exact ih (fun other member => fits other (List.mem_cons_of_mem packet member)) (by omega)

variable {egress : EgressState}

theorem stageCommon_cases :
    stageCommon env random egress send requested = ⟨false, egress⟩ ∨
    ∃ adapter packets, lookupAdapterWireVersion send.wireVersion = some adapter ∧
      List.Forall₂ (EncodesFragment env random adapter send requested)
        (List.range (totalFragments adapter send requested)) packets ∧
      egress.count + totalFragments adapter send requested ≤ EGRESS_QUEUE_CAPACITY ∧
      stageCommon env random egress send requested = stageAll egress packets := by
  unfold stageCommon
  cases found : lookupAdapterWireVersion send.wireVersion with
  | none => exact .inl rfl
  | some adapter =>
    dsimp only
    have total : (if 1 < requested then requested else adapter.countFragments send) =
        totalFragments adapter send requested := rfl
    have forced : (if 1 < requested then requested else 0) = forcedCount requested := rfl
    rw [total, forced]
    split
    · exact .inl rfl
    split
    · exact .inl rfl
    split
    · exact .inl rfl
    have room : egress.count + totalFragments adapter send requested ≤ EGRESS_QUEUE_CAPACITY := by
      omega
    split
    · rename_i single
      cases made : adapter.encode env (random 0) send with
      | none => exact .inl rfl
      | some packet =>
        refine .inr ⟨adapter, [packet], rfl, ?_, room, rfl⟩
        rw [single]
        exact .cons ((if_pos single).mpr made) .nil
    · rename_i several
      cases known : adapter.encodeFragment with
      | none => exact .inl rfl
      | some encodeFragment =>
        dsimp only
        cases made : encodeFragments env random send encodeFragment
            (totalFragments adapter send requested) (forcedCount requested) with
        | none => exact .inl rfl
        | some packets =>
          refine .inr ⟨adapter, packets, rfl, ?_, room, rfl⟩
          apply List.Forall₂.imp _ (mapM_forall₂ made)
          intro i packet encoded
          exact (if_neg several).mpr ⟨encodeFragment, known, encoded⟩

def AllOrNothing (env : CodecEnv) (random : ℕ → Entropy) (egress : EgressState)
    (send : SendPacket) (requested : ℕ) (out : Staged) : Prop :=
  out.ok = false ∧ out.egress = egress ∨
  out.ok = true ∧ ∃ adapter packets, lookupAdapterWireVersion send.wireVersion = some adapter ∧
    packets.length = totalFragments adapter send requested ∧
    List.Forall₂ (EncodesFragment env random adapter send requested)
      (List.range (totalFragments adapter send requested)) packets ∧
    out.egress.contents = egress.contents ++ packets

theorem stageCommon_all_or_nothing :
    AllOrNothing env random egress send requested
      (stageCommon env random egress send requested) := by
  rcases stageCommon_cases with refused | ⟨adapter, packets, found, encoded, room, staged⟩
  · rw [refused]
    exact .inl ⟨rfl, rfl⟩
  · have length : packets.length = totalFragments adapter send requested := by
      rw [← encoded.length_eq, List.length_range]
    have fits : ∀ packet ∈ packets,
        packet.egressBuffer.length ≤ NORMALIZED_PACKET_BUFFER_SIZE := by
      intro packet member
      obtain ⟨i, hi⟩ := List.getElem_of_mem member
      obtain ⟨bound, rfl⟩ := hi
      exact (encoded.get (by rw [encoded.length_eq]; exact bound) bound).fits
        (lookupAdapterWireVersion_some found).1
    have ok : (stageAll egress packets).ok = true := stageAll_ok fits (by omega)
    rw [staged]
    exact .inr ⟨ok, adapter, packets, found, length, encoded, stageAll_contents ok⟩

end Stage

theorem stage_all_or_nothing (env : CodecEnv) (random : ℕ → Entropy) (egress : EgressState)
    (send : SendPacket) (requested : ℕ) :
    AllOrNothing env random egress send 0 (stage env random egress send) ∧
    AllOrNothing env random egress send requested
      (stageFragments env random egress send requested) := by
  refine ⟨stageCommon_all_or_nothing, ?_⟩
  unfold stageFragments
  split
  · rename_i single
    have natural : ¬ 1 < requested := by omega
    have same : AllOrNothing env random egress send requested =
        AllOrNothing env random egress send 0 := by
      unfold AllOrNothing EncodesFragment totalFragments forcedCount
      simp [natural]
    rw [same]
    exact stageCommon_all_or_nothing
  · exact stageCommon_all_or_nothing

end Siglatch.MuxStaging
