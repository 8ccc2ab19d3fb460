import Siglatch.KnockWire

set_option autoImplicit false

namespace Siglatch.KnockInner
open MuxTypes ByteOrder KnockDigest DaemonTypes KnockCodec KnockSealed KnockCodecV4 KnockEncode
  KnockRoundTrip

variable {ip : CString} {clientPort : UInt16} {buf : Bytes} {unit : NormalizedUnit}

theorem unpackPlain_iff : unpackPlain ip clientPort buf = some unit ↔
    ((readU32Be buf 41).toNat ≤ FORM1_PAYLOAD_MAX ∧ buf.length = 77 + (readU32Be buf 41).toNat) ∧
    unit = { unpackInnerEnvelope buf with
      timestamp := readU32Be buf 30
      userId := readU16Be buf 34
      actionId := byteAt buf 36
      challenge := readU32Be buf 37
      ip := ip.take 63
      clientPort := clientPort
      payload := slice 45 (readU32Be buf 41).toNat buf
      hmac := slice (45 + (readU32Be buf 41).toNat) HMAC_SIZE buf } := by
  have fixed : form1.bodyFixedSize = 77 := rfl
  have offset : INNER_ENVELOPE_WIRE_SIZE = 30 := rfl
  unfold unpackPlain unpackPlaintext
  simp only [fixed, offset, Nat.reduceAdd]
  split
  · rename_i short
    refine ⟨fun h => (Option.some_ne_none _ h.symm).elim, ?_⟩
    rintro ⟨⟨-, size⟩, -⟩
    omega
  · split
    · rename_i long
      refine ⟨fun h => (Option.some_ne_none _ h.symm).elim, ?_⟩
      rintro ⟨⟨fits, -⟩, -⟩
      omega
    · rename_i fits
      split
      · rename_i other
        refine ⟨fun h => (Option.some_ne_none _ h.symm).elim, ?_⟩
        rintro ⟨⟨-, size⟩, -⟩
        exact absurd size other
      · rename_i size
        rw [Option.some.injEq]
        constructor
        · intro h
          exact ⟨⟨Nat.not_lt.mp fits, not_not.mp size⟩, h.symm⟩
        · rintro ⟨-, rfl⟩
          rfl

theorem packBody_unpacked (unpacked : unpackPlain ip clientPort buf = some unit) :
    packBody unit = slice 30 (47 + (readU32Be buf 41).toNat) buf := by
  obtain ⟨⟨fits, size⟩, rfl⟩ := unpackPlain_iff.mp unpacked
  have payload : (slice 45 (readU32Be buf 41).toNat buf).length = (readU32Be buf 41).toNat :=
    length_slice (by omega)
  have hmac : (slice (45 + (readU32Be buf 41).toNat) HMAC_SIZE buf).length = HMAC_SIZE :=
    length_slice (by rw [show HMAC_SIZE = 32 from rfl]; omega)
  unfold packBody
  dsimp only
  rw [payload, UInt32.ofNat_toNat, pad_of_length hmac, writeU32Be_readU32Be (by omega),
    writeU32Be_readU32Be (by omega), writeU32Be_readU32Be (by omega),
    writeU16Be_readU16Be (by omega), slice_one (by omega), slice_append, slice_append 41 4,
    slice_append 37 4, slice_append 36 1, slice_append 34 2, slice_append 30 4]
  congr 1
  rw [show HMAC_SIZE = 32 from rfl]
  omega

theorem packInnerEnvelope_unpacked (unpacked : unpackPlain ip clientPort buf = some unit) :
    packInnerEnvelope unit = slice 0 28 buf ++ [0, 0] := by
  obtain ⟨⟨-, size⟩, rfl⟩ := unpackPlain_iff.mp unpacked
  unfold packInnerEnvelope unpackInnerEnvelope
  dsimp only
  rw [writeU64Be_readU64Be (by omega), writeU64Be_readU64Be (by omega),
    writeU32Be_readU32Be (by omega), writeU32Be_readU32Be (by omega),
    writeU32Be_readU32Be (by omega), ← List.append_assoc (slice 20 4 buf),
    ← List.append_assoc (slice 16 4 buf), ← List.append_assoc (slice 8 8 buf),
    ← List.append_assoc (slice 0 8 buf), slice_append 20 4, slice_append 16 4, slice_append 8 8,
    slice_append 0 8]

theorem plaintext_parts (long : 30 ≤ buf.length) : buf =
    slice 0 28 buf ++ ([byteAt buf 28, byteAt buf 29] ++ slice 30 (buf.length - 30) buf) := by
  have two : [byteAt buf 28, byteAt buf 29] = slice 28 2 buf := by
    rw [← slice_append 28 1 1, ← slice_one (by omega), ← slice_one (by omega)]
    rfl
  rw [two, slice_append 28 2, slice_append 0 28, show 28 + (2 + (buf.length - 30)) = buf.length by
    omega, slice_all]

structure UnitV4 (unit : NormalizedUnit) : Prop where
  version : unit.wireVersion = V4_WIRE_VERSION
  form : unit.wireForm = FORM1_ID
  hmac : unit.hmac.length = HMAC_SIZE

theorem packPlain_of_v4 (version : unit.wireVersion = V4_WIRE_VERSION)
    (form : unit.wireForm = FORM1_ID) (fits : unit.payload.length ≤ FORM1_PAYLOAD_MAX) :
    packPlain unit = some (packInnerEnvelope unit ++ packBody unit) := by
  unfold packPlain packPlaintext
  rw [if_neg (Nat.not_lt.mpr fits), if_neg]
  rw [version, form]
  decide

theorem unpacked_payload (unpacked : unpackPlain ip clientPort buf = some unit) :
    unit.payload.length ≤ FORM1_PAYLOAD_MAX := by
  obtain ⟨⟨fits, size⟩, rfl⟩ := unpackPlain_iff.mp unpacked
  have payload : (slice 45 (readU32Be buf 41).toNat buf).length = (readU32Be buf 41).toNat :=
    length_slice (by omega)
  exact payload.le.trans fits

theorem packPlain_finish (unpacked : unpackPlain ip clientPort buf = some unit) :
    packPlain (finish unit) =
      some (slice 0 28 buf ++ ([0, 0] ++ slice 30 (buf.length - 30) buf)) := by
  have fits : unit.payload.length ≤ FORM1_PAYLOAD_MAX := unpacked_payload unpacked
  have packed := @packPlain_of_v4 (finish unit) rfl rfl fits
  have inner : packInnerEnvelope (finish unit) = packInnerEnvelope unit := rfl
  have body : packBody (finish unit) = packBody unit := rfl
  obtain ⟨⟨-, size⟩, -⟩ := unpackPlain_iff.mp unpacked
  rw [packed, inner, body, packInnerEnvelope_unpacked unpacked, packBody_unpacked unpacked,
    List.append_assoc, show 47 + (readU32Be buf 41).toNat = buf.length - 30 by omega]

theorem repacked_iff (unpacked : unpackPlain ip clientPort buf = some unit) :
    packPlain (finish unit) = some buf ↔ byteAt buf 28 = 0 ∧ byteAt buf 29 = 0 := by
  obtain ⟨⟨-, size⟩, -⟩ := unpackPlain_iff.mp unpacked
  have parts := @plaintext_parts buf (by omega)
  rw [packPlain_finish unpacked, Option.some.injEq]
  constructor
  · intro same
    have both := same.trans parts
    rw [List.append_cancel_left_eq, List.append_cancel_right_eq] at both
    injection both with flags rest
    injection rest with streamType
    exact ⟨flags.symm, streamType.symm⟩
  · rintro ⟨flags, streamType⟩
    rw [flags, streamType] at parts
    exact parts.symm

/-- The plaintext of codec 4 there and back. What is unpacked has no version and no form, so that
it packs only once `decode` has filled them in. -/
theorem plaintext_codec :
    (∀ unit ip clientPort, UnitV4 unit → unit.payload.length ≤ 512 →
      ∃ buf out, packPlain unit = some buf ∧ unpackPlain ip clientPort buf = some out ∧
        out.sessionId = unit.sessionId ∧ out.messageId = unit.messageId ∧
        out.streamId = unit.streamId ∧ out.fragmentIndex = unit.fragmentIndex ∧
        out.fragmentCount = unit.fragmentCount ∧ out.timestamp = unit.timestamp ∧
        out.userId = unit.userId ∧ out.actionId = unit.actionId ∧
        out.challenge = unit.challenge ∧ out.payload = unit.payload ∧ out.hmac = unit.hmac) ∧
    (∀ buf ip clientPort, (unpackPlain ip clientPort buf).isSome = true ↔
      (readU32Be buf 41).toNat ≤ 512 ∧ buf.length = 77 + (readU32Be buf 41).toNat) ∧
    (∀ buf ip clientPort unit, unpackPlain ip clientPort buf = some unit →
      (packPlain (finish unit) = some buf ↔ byteAt buf 28 = 0 ∧ byteAt buf 29 = 0)) := by
  refine ⟨?_, ?_, ?_⟩
  · intro unit ip clientPort v4 fits
    refine ⟨_, opened unit ip clientPort, packPlain_of_v4 v4.version v4.form fits,
      unpackPlain_pack unit ip clientPort fits, ?_⟩
    exact ⟨rfl, rfl, rfl, rfl, rfl, rfl, rfl, rfl, rfl, rfl, pad_of_length v4.hmac⟩
  · intro buf ip clientPort
    constructor
    · intro accepted
      obtain ⟨unit, unpacked⟩ := Option.isSome_iff_exists.mp accepted
      exact (unpackPlain_iff.mp unpacked).1
    · intro sized
      exact Option.isSome_iff_exists.mpr ⟨_, unpackPlain_iff.mpr ⟨sized, rfl⟩⟩
  · intro buf ip clientPort unit unpacked
    exact repacked_iff unpacked

/-- Straight from `unpack_plaintext`, the shortest plaintext does not pack again, though its flags
and its stream type are zero. -/
theorem unpacked_not_packed : ¬ ∀ buf unit, unpackPlain [] 0 buf = some unit →
    (packPlain unit = some buf ↔ byteAt buf 28 = 0 ∧ byteAt buf 29 = 0) := by
  intro claim
  have zero : (readU32Be (List.replicate 77 0) 41).toNat = 0 := by decide
  have accepted := (@unpackPlain_iff [] 0 (List.replicate 77 0) _).mpr ⟨⟨by rw [zero]; decide, by
    rw [zero]; rfl⟩, rfl⟩
  have packed := (claim _ _ accepted).mpr ⟨rfl, rfl⟩
  have refused : ∀ unit : NormalizedUnit, unit.wireVersion = 0 → packPlain unit = none := by
    intro unit version
    unfold packPlain packPlaintext
    rw [version, if_pos (Or.inl (by decide)), ite_self]
  rw [refused _ rfl] at packed
  cases packed

end Siglatch.KnockInner
