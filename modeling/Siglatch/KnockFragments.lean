import Siglatch.KnockEncode
import Siglatch.MuxOutbox
import Siglatch.RelatedLists

set_option autoImplicit false

namespace Siglatch.KnockFragments
open MuxTypes ByteOrder KnockDigest KnockCodec KnockEncode KnockCodecV4 MuxAdapter MuxEgress
  MuxOutbox RelatedLists

section Partition

variable (payloadLen fragmentCount : ℕ)

theorem fragmentOffset_zero : fragmentOffset payloadLen fragmentCount 0 = 0 := by
  unfold fragmentOffset
  split
  · omega
  · omega

theorem fragmentOffset_next (i : ℕ) : fragmentOffset payloadLen fragmentCount (i + 1) =
    fragmentOffset payloadLen fragmentCount i +
      fragmentPayloadLen payloadLen fragmentCount i := by
  unfold fragmentOffset fragmentPayloadLen
  rw [Nat.succ_mul]
  split
  · split
    · omega
    · omega
  · split
    · omega
    · omega

variable {fragmentCount}

theorem fragmentOffset_last (pos : 0 < fragmentCount) :
    fragmentOffset payloadLen fragmentCount fragmentCount = payloadLen := by
  have left := Nat.mod_lt payloadLen pos
  unfold fragmentOffset
  rw [if_neg (by omega)]
  exact Nat.div_add_mod payloadLen fragmentCount

end Partition

/-- The fragments of a packet put together are its payload. -/
theorem fragments_concat (normal : NormalizedUnit) {fragmentCount : ℕ} (pos : 0 < fragmentCount) :
    (List.range fragmentCount).flatMap (fun i => (fragment normal fragmentCount i).payload) =
      normal.payload := by
  have adjacent := flatMap_slice (fragmentOffset_zero normal.payload.length fragmentCount)
    fragmentCount (fun i _ => fragmentOffset_next normal.payload.length fragmentCount i)
    normal.payload
  rw [fragmentOffset_last normal.payload.length pos, List.take_length] at adjacent
  exact adjacent

theorem fragment_payload_le (normal : NormalizedUnit) (fragmentCount i : ℕ) :
    (fragment normal fragmentCount i).payload.length ≤ normal.payload.length := by
  change (slice _ _ normal.payload).length ≤ _
  rw [slice, List.length_take, List.length_drop]
  omega

section Stage

theorem stageAll_contents {egress : EgressState} {packets : List EgressData}
    (h : (stageAll egress packets).ok = true) :
    (stageAll egress packets).egress.contents = egress.contents ++ packets := by
  induction packets generalizing egress with
  | nil => exact (List.append_nil _).symm
  | cons packet packets ih =>
    unfold stageAll at h ⊢
    cases staged : stageEgress egress packet with
    | none =>
      rw [staged] at h
      contradiction
    | some after =>
      rw [staged] at h
      dsimp only at h ⊢
      rw [ih h, (stageEgress_some staged).2.2.2, List.append_assoc]
      rfl

theorem encodesFragments_codec {wireVersion : UInt32} {adapter : Adapter}
    (found : lookupAdapterWireVersion wireVersion = some adapter)
    (fragments : adapter.encodeFragment.isSome = true) : adapter = codecV4 := by
  have member : adapter ∈ adapters := List.mem_of_find?_eq_some found
  rcases adapters_cases member with rfl | rfl | rfl | rfl
  · cases fragments
  · cases fragments
  · cases fragments
  · rfl

def fragmentUnit (send : SendPacket) (user : UserSendData) (fragmentCount i : ℕ) :
    NormalizedUnit :=
  sendUnit { send with
    fragmentIndex := UInt32.ofNat i, fragmentCount := UInt32.ofNat fragmentCount } user

def EncodedAs (env : CodecEnv) (random : ℕ → Entropy) (send : SendPacket) (user : UserSendData)
    (fragmentCount i : ℕ) (egress : EgressData) : Prop :=
  KnockCodecV4.encode env (random i)
    (fragment (fragmentUnit send user fragmentCount i) fragmentCount i)
      form1.packetMaxSize = some egress.egressBuffer ∧
    egress.egressBuffer.length ≤ NORMALIZED_PACKET_BUFFER_SIZE

variable {env : CodecEnv} {random : ℕ → Entropy} {send : SendPacket} {user : UserSendData}
  {fragmentCount : ℕ}

theorem countFragments_forced {normal : NormalizedUnit}
    (short : normal.payload.length ≤ USER_DATA_PAYLOAD_MAX) (pos : 0 < fragmentCount) :
    KnockCodecV4.countFragments normal fragmentCount = fragmentCount := by
  have limit : USER_DATA_PAYLOAD_MAX = 199 := rfl
  have whole : normal.payload.length / KnockSealed.FORM1_PAYLOAD_MAX = 0 :=
    Nat.div_eq_of_lt (by change normal.payload.length < 512; omega)
  unfold KnockCodecV4.countFragments
  dsimp only
  rw [if_pos pos, whole, if_neg]
  split
  · split
    · omega
    · omega
  · split
    · omega
    · omega

theorem encodeFragment_encoded (carried : send.user = some user)
    (short : user.payload.length ≤ USER_DATA_PAYLOAD_MAX) {i : ℕ} {egress : EgressData}
    (h : adapterEncode (fun normal => KnockCodecV4.encodeFragment env (random i) normal i
      fragmentCount form1.packetMaxSize) { send with
        fragmentIndex := UInt32.ofNat i, fragmentCount := UInt32.ofNat fragmentCount } =
      some egress) (pos : 0 < fragmentCount) :
    EncodedAs env random send user fragmentCount i egress := by
  have fits := adapterEncode_some h
  have copied : copySendPacket { send with
      fragmentIndex := UInt32.ofNat i, fragmentCount := UInt32.ofNat fragmentCount } =
      some (fragmentUnit send user fragmentCount i) := copied_unit carried short
  simp only [adapterEncode, Option.bind_eq_bind, Option.bind_eq_some_iff] at h
  obtain ⟨normal, taken, out, encodes, filled⟩ := h
  rw [copied] at taken
  obtain rfl := Option.some.inj taken
  have count : KnockCodecV4.countFragments (fragmentUnit send user fragmentCount i) fragmentCount =
      fragmentCount := countFragments_forced short pos
  unfold KnockCodecV4.encodeFragment at encodes
  rw [count] at encodes
  unfold fillEgress at filled
  split at encodes
  · contradiction
  dsimp only at encodes
  split at encodes
  · contradiction
  split at filled
  · contradiction
  obtain rfl := Option.some.inj filled
  exact ⟨encodes, fits⟩

/-- A forced count is staged as that many fragments of codec 4, in order. -/
theorem stageFragments_staged {egress : EgressState} (many : 2 ≤ fragmentCount)
    (carried : send.user = some user) (short : user.payload.length ≤ USER_DATA_PAYLOAD_MAX)
    (ok : (stageFragments env random egress send fragmentCount).ok = true) :
    ∃ fragments : List EgressData,
      (stageFragments env random egress send fragmentCount).egress.contents =
        egress.contents ++ fragments ∧
      List.Forall₂ (EncodedAs env random send user fragmentCount) (List.range fragmentCount)
        fragments := by
  have more : 1 < fragmentCount := by omega
  unfold stageFragments at ok ⊢
  rw [if_neg (by omega)] at ok ⊢
  unfold stageCommon at ok ⊢
  cases found : lookupAdapterWireVersion send.wireVersion with
  | none =>
    rw [found] at ok
    contradiction
  | some adapter =>
    rw [found] at ok
    dsimp only at ok ⊢
    rw [if_pos more, if_pos more] at ok ⊢
    rw [if_neg (by omega)] at ok ⊢
    by_cases full : EGRESS_QUEUE_CAPACITY ≤ egress.count
    · rw [if_pos full] at ok
      contradiction
    rw [if_neg full] at ok ⊢
    by_cases tight : EGRESS_QUEUE_CAPACITY - egress.count < fragmentCount
    · rw [if_pos tight] at ok
      contradiction
    rw [if_neg tight, if_neg (by omega)] at ok ⊢
    cases known : adapter.encodeFragment with
    | none =>
      rw [known] at ok
      contradiction
    | some encodeFragment =>
      rw [known] at ok
      dsimp only at ok ⊢
      cases encoded : encodeFragments env random send encodeFragment fragmentCount
        fragmentCount with
      | none =>
        rw [encoded] at ok
        contradiction
      | some fragments =>
        rw [encoded] at ok
        refine ⟨fragments, stageAll_contents ok, ?_⟩
        obtain rfl := encodesFragments_codec found (Option.isSome_iff_exists.mpr ⟨_, known⟩)
        obtain rfl := Option.some.inj known
        apply List.Forall₂.imp _ (mapM_forall₂ encoded)
        intro i packet made
        exact encodeFragment_encoded carried short made (by omega)

end Stage

end Siglatch.KnockFragments
