import Siglatch.KnockFragments

set_option autoImplicit false

namespace Siglatch.KnockPartition
open MuxTypes ByteOrder KnockDigest KnockCodec KnockCodecV4 KnockFragments

/-- As few packets as can hold a payload, and at least one. -/
def required (payloadLen : ℕ) : ℕ := max 1 ((payloadLen + 511) / 512)

/-- The count of a forced fragmentation, and what the fragments of a packet have to be. -/
structure Partitioned (normal : NormalizedUnit) (force fragmentCount : ℕ) : Prop where
  counted : fragmentCount = if force = 0 then required normal.payload.length
    else if required normal.payload.length ≤ force then force else 0
  whole : 0 < fragmentCount → (List.range fragmentCount).flatMap
    (fun i => (fragment normal fragmentCount i).payload) = normal.payload
  even : ∀ i j, i < fragmentCount → j < fragmentCount →
    (fragment normal fragmentCount i).payload.length ≤
      (fragment normal fragmentCount j).payload.length + 1
  short : ∀ i, i < fragmentCount → (fragment normal fragmentCount i).payload.length ≤ 512
  numbered : ∀ i, i < fragmentCount →
    (fragment normal fragmentCount i).fragmentIndex.toNat = i ∧
    (fragment normal fragmentCount i).fragmentCount.toNat = fragmentCount
  closed : ∀ i, i < fragmentCount →
    ((fragment normal fragmentCount i).complete = true ↔ i = fragmentCount - 1)
  sent : ∀ env random i capacity, i < fragmentCount → normal.wireVersion = V4_WIRE_VERSION →
    normal.wireForm = FORM1_ID → encodeFragment env random normal i force capacity =
      KnockCodecV4.encode env random (fragment normal fragmentCount i) capacity
  refused : ∀ env random i capacity, fragmentCount ≤ i →
    encodeFragment env random normal i force capacity = none

section Lengths

variable {payloadLen fragmentCount : ℕ}

theorem packets_eq (payloadLen : ℕ) :
    (let whole := payloadLen / KnockSealed.FORM1_PAYLOAD_MAX +
      (if payloadLen % KnockSealed.FORM1_PAYLOAD_MAX ≠ 0 then 1 else 0)
    if whole = 0 then 1 else whole) = required payloadLen := by
  have size : KnockSealed.FORM1_PAYLOAD_MAX = 512 := rfl
  unfold required
  simp only [size]
  split
  · split at *
    · omega
    · omega
  · split at *
    · omega
    · omega

theorem countFragments_eq (normal : NormalizedUnit) (force : ℕ) :
    countFragments normal force = if force = 0 then required normal.payload.length
      else if required normal.payload.length ≤ force then force else 0 := by
  have packets := packets_eq normal.payload.length
  unfold countFragments
  dsimp only at packets ⊢
  rw [packets]
  split
  · rename_i forced
    rw [if_neg (Nat.ne_of_gt forced)]
    split
    · rename_i few
      rw [if_neg (Nat.not_le.mpr few)]
    · rename_i enough
      rw [if_pos (Nat.not_lt.mp enough)]
  · rename_i free
    rw [if_pos (Nat.eq_zero_of_not_pos free)]

theorem fragmentOffset_le {i : ℕ} (pos : 0 < fragmentCount) (inside : i ≤ fragmentCount) :
    fragmentOffset payloadLen fragmentCount i ≤ payloadLen := by
  have whole := fragmentOffset_last payloadLen pos
  have base : i * (payloadLen / fragmentCount) ≤ fragmentCount * (payloadLen / fragmentCount) :=
    Nat.mul_le_mul_right _ inside
  have left := Nat.mod_lt payloadLen pos
  unfold fragmentOffset at whole ⊢
  rw [if_neg (by omega)] at whole
  split
  · omega
  · omega

theorem fragment_length (normal : NormalizedUnit) {i : ℕ} (inside : i < fragmentCount) :
    (fragment normal fragmentCount i).payload.length =
      fragmentPayloadLen normal.payload.length fragmentCount i := by
  have next := fragmentOffset_next normal.payload.length fragmentCount i
  have ends : fragmentOffset normal.payload.length fragmentCount (i + 1) ≤ normal.payload.length :=
    fragmentOffset_le (by omega) inside
  exact length_slice (by omega)

theorem fragmentPayloadLen_even (i j : ℕ) : fragmentPayloadLen payloadLen fragmentCount i ≤
    fragmentPayloadLen payloadLen fragmentCount j + 1 := by
  unfold fragmentPayloadLen
  split <;> split <;> omega

theorem fragmentPayloadLen_le {limit : ℕ}
    (enough : payloadLen ≤ limit * fragmentCount) (i : ℕ) :
    fragmentPayloadLen payloadLen fragmentCount i ≤ limit := by
  have split_len := Nat.div_add_mod payloadLen fragmentCount
  have quotient : payloadLen / fragmentCount ≤ limit :=
    Nat.div_le_of_le_mul (enough.trans_eq (Nat.mul_comm _ _))
  unfold fragmentPayloadLen
  split
  · rename_i longer
    have strict : payloadLen / fragmentCount ≠ limit := by
      intro same
      rw [same, Nat.mul_comm fragmentCount limit] at split_len
      omega
    omega
  · exact quotient

theorem required_enough {payloadLen : ℕ} (many : required payloadLen ≤ fragmentCount) :
    payloadLen ≤ 512 * fragmentCount := by
  unfold required at many
  omega

end Lengths

section Fragments

variable {normal : NormalizedUnit} {force : ℕ}

theorem required_le_count (pos : 0 < countFragments normal force) :
    required normal.payload.length ≤ countFragments normal force := by
  rw [countFragments_eq] at pos ⊢
  by_cases free : force = 0
  · rw [if_pos free]
  · rw [if_neg free] at pos ⊢
    by_cases enough : required normal.payload.length ≤ force
    · rw [if_pos enough]
      exact enough
    · rw [if_neg enough] at pos
      exact absurd pos (lt_irrefl 0)

theorem encodeFragment_sent (env : CodecEnv) (random : Entropy) {i : ℕ} (capacity : ℕ)
    (inside : i < countFragments normal force) (version : normal.wireVersion = V4_WIRE_VERSION)
    (form : normal.wireForm = FORM1_ID) : encodeFragment env random normal i force capacity =
      KnockCodecV4.encode env random (fragment normal (countFragments normal force) i)
        capacity := by
  unfold encodeFragment
  rw [if_neg (by simp [version, form])]
  exact if_neg (by omega)

theorem encodeFragment_refused (env : CodecEnv) (random : Entropy) {i : ℕ} (capacity : ℕ)
    (beyond : countFragments normal force ≤ i) :
    encodeFragment env random normal i force capacity = none := by
  unfold encodeFragment
  split
  · rfl
  · exact if_pos (Or.inr beyond)

theorem partitioned_of_small (small : countFragments normal force < 2 ^ 32) :
    Partitioned normal force (countFragments normal force) where
  counted := countFragments_eq normal force
  whole pos := fragments_concat normal pos
  even i j inside other := by
    rw [fragment_length normal inside, fragment_length normal other]
    exact fragmentPayloadLen_even i j
  short i inside := by
    rw [fragment_length normal inside]
    exact fragmentPayloadLen_le (required_enough (required_le_count (by omega))) i
  numbered i inside := by
    exact ⟨UInt32.toNat_ofNat_of_lt' (inside.trans small), UInt32.toNat_ofNat_of_lt' small⟩
  closed i inside := by
    change decide (countFragments normal force ≤ i + 1) = true ↔ _
    rw [decide_eq_true_eq]
    omega
  sent env random i capacity inside version form :=
    encodeFragment_sent env random capacity inside version form
  refused env random i capacity beyond := encodeFragment_refused env random capacity beyond

theorem required_small (fits : normal.payload.length ≤ 1024) :
    required normal.payload.length ≤ 2 := by
  unfold required
  omega

theorem not_partitioned (fits : normal.payload.length ≤ 1024) (huge : 2 ^ 32 ≤ force) :
    ¬ Partitioned normal force (countFragments normal force) := by
  intro partitioned
  have few := required_small fits
  have count : countFragments normal force = force := by
    rw [countFragments_eq, if_neg (by omega), if_pos (by omega)]
  rw [count] at partitioned
  obtain ⟨-, total⟩ := partitioned.numbered 0 (by omega)
  have wire := (fragment normal force 0).fragmentCount.toNat_lt
  omega

end Fragments

/-- The fragments of a packet partition its payload exactly if the forced count fits 32 bits. -/
theorem fragments_partition_iff (normal : NormalizedUnit) (force : ℕ)
    (fits : normal.payload.length ≤ 1024) :
    Partitioned normal force (countFragments normal force) ↔ force < 2 ^ 32 := by
  constructor
  · intro partitioned
    by_contra huge
    exact not_partitioned fits (Nat.not_lt.mp huge) partitioned
  · intro small
    have few := required_small fits
    apply partitioned_of_small
    rw [countFragments_eq]
    split
    · omega
    · split
      · exact small
      · omega

theorem fragments_partition_three :
    Partitioned NormalizedUnit.zero 3 (countFragments NormalizedUnit.zero 3) :=
  (fragments_partition_iff NormalizedUnit.zero 3 (by decide)).mpr (by decide)

/-- With a count of 2^32 every fragment says that there is none. -/
theorem fragments_uncounted :
    ¬ Partitioned NormalizedUnit.zero (2 ^ 32) (countFragments NormalizedUnit.zero (2 ^ 32)) :=
  not_partitioned (by decide) le_rfl

end Siglatch.KnockPartition
