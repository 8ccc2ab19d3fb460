import Siglatch.KnockRoundTrip
import Siglatch.KnockAuthentic

set_option autoImplicit false

namespace Siglatch.KnockWire
open MuxTypes ByteOrder KnockDigest KnockCodec KnockSealed KnockRoundTrip KnockDetect KnockAuthentic
  MuxAdapter

inductive SealedCodec
  | v3
  | v4
  deriving DecidableEq

def SealedCodec.layout : SealedCodec → Layout
  | .v3 => KnockCodecV3.form1
  | .v4 => KnockCodecV4.form1

def SealedCodec.generate (codec : SealedCodec) (hash : Hash) : NormalizedUnit → Option Bytes :=
  match codec with
  | .v3 => generateV3Form1 hash
  | .v4 => generateV4Form1 hash

def SealedCodec.packPlain : SealedCodec → NormalizedUnit → Option Bytes
  | .v3 => packPlaintext KnockCodecV3.form1 []
  | .v4 => KnockCodecV4.packPlain

def SealedCodec.inner : SealedCodec → NormalizedUnit → Bytes
  | .v3, _ => []
  | .v4, normal => KnockCodecV4.packInnerEnvelope normal

def SealedCodec.adapter : SealedCodec → Adapter
  | .v3 => codecV3
  | .v4 => codecV4

def SealedCodec.identity (codec : SealedCodec) : IngressIdentity :=
  ⟨true, PREFIX_MAGIC, codec.layout.wireVersion, FORM1_ID⟩

/-- A packet struct whose two length fields are in range. Nonce and tag are arrays of their own
sizes. -/
structure Ranged (layout : Layout) (pkt : Form1Packet) : Prop where
  wrapped_pos : 1 ≤ pkt.wrappedCek.length
  wrapped_le : pkt.wrappedCek.length ≤ CEK_MAX
  body_ge : layout.bodyFixedSize ≤ pkt.ciphertext.length
  body_le : pkt.ciphertext.length ≤ layout.bodyMax
  nonce : pkt.nonce.length = NONCE_SIZE
  tag : pkt.tag.length = TAG_SIZE

/-- The size that `pack` asks for, and that `encode` computes once more. -/
def wireSize (pkt : Form1Packet) : ℕ :=
  HEADER_SIZE + pkt.wrappedCek.length + pkt.ciphertext.length + TAG_SIZE

theorem bodyMax_small (codec : SealedCodec) : codec.layout.bodyMax < 2 ^ 32 := by
  cases codec <;> decide

section Pack

variable {layout : Layout} {pkt : Form1Packet} {buf : Bytes}

theorem Ranged.sized (ranged : Ranged layout pkt) (small : layout.bodyMax < 2 ^ 32) :
    Sized layout pkt :=
  ⟨ranged.wrapped_pos, ranged.wrapped_le, ranged.body_ge, ranged.body_le,
    lt_of_le_of_lt ranged.body_le small, ranged.nonce, ranged.tag⟩

theorem pack_ranged (ranged : Ranged layout pkt) {maxlen : ℕ} (room : wireSize pkt ≤ maxlen) :
    pack layout pkt maxlen = some (wire pkt) := by
  have pos := ranged.wrapped_pos
  have le := ranged.wrapped_le
  have ge := ranged.body_ge
  have high := ranged.body_le
  unfold wireSize at room
  unfold pack
  rw [if_neg (by omega), if_neg (by omega), if_neg (by omega), pad_of_length ranged.tag]
  rfl

theorem unpackWire_ranged (unpacked : unpackWire layout buf = some pkt) :
    Ranged layout pkt ∧ wireSize pkt = buf.length ∧ wire pkt = buf := by
  have header : HEADER_SIZE = 27 := rfl
  have sixteen : TAG_SIZE = 16 := rfl
  have aad := buildAad_received unpacked
  obtain ⟨wrapped, body, size, rfl⟩ := unpackSealed_iff.mp unpacked
  have cek : (slice HEADER_SIZE (readU16Be buf 9).toNat buf).length =
      (readU16Be buf 9).toNat := length_slice (by omega)
  have text : (slice (HEADER_SIZE + (readU16Be buf 9).toNat) (readU32Be buf 23).toNat
      buf).length = (readU32Be buf 23).toNat := length_slice (by omega)
  have nonce : (slice 11 NONCE_SIZE buf).length = NONCE_SIZE :=
    length_slice (by rw [show NONCE_SIZE = 12 from rfl]; omega)
  have tag : (slice (HEADER_SIZE + (readU16Be buf 9).toNat + (readU32Be buf 23).toNat) TAG_SIZE
      buf).length = TAG_SIZE := length_slice (by omega)
  refine ⟨⟨?_, ?_, ?_, ?_, nonce, tag⟩, ?_, ?_⟩
  · exact (Nat.pos_of_ne_zero wrapped.1).trans_eq cek.symm
  · exact cek.le.trans wrapped.2
  · exact body.1.trans_eq text.symm
  · exact text.le.trans body.2
  · change HEADER_SIZE + _ + _ + TAG_SIZE = _
    dsimp only
    rw [cek, text, size]
  · have front := slice_append 0 HEADER_SIZE
      ((readU16Be buf 9).toNat + ((readU32Be buf 23).toNat + TAG_SIZE)) buf
    have whole : HEADER_SIZE + ((readU16Be buf 9).toNat + ((readU32Be buf 23).toNat + TAG_SIZE)) =
        buf.length := by omega
    rw [Nat.zero_add, whole, slice_all] at front
    rw [wire, aad]
    dsimp only
    rw [slice_append, slice_append]
    exact front

/-- Read back, a packet in range is the one that was packed. -/
theorem unpackWire_ranged_wire (ranged : Ranged layout pkt) (small : layout.bodyMax < 2 ^ 32) :
    unpackWire layout (wire pkt) = some pkt ∧ (wire pkt).length = wireSize pkt :=
  ⟨unpackWire_wire (ranged.sized small), length_wire (ranged.sized small)⟩

end Pack

/-- `pack` and `unpack` are inverse to each other between the packets in range and the buffers
whose length fields are in range and account for all of the buffer. -/
theorem wire_bijection (codec : SealedCodec) :
    (∀ pkt maxlen, Ranged codec.layout pkt → wireSize pkt ≤ maxlen →
      ∃ buf, pack codec.layout pkt maxlen = some buf ∧ buf.length = wireSize pkt ∧
        unpackWire codec.layout buf = some pkt) ∧
    (∀ buf pkt maxlen, unpackWire codec.layout buf = some pkt → buf.length ≤ maxlen →
      pack codec.layout pkt maxlen = some buf) ∧
    (∀ buf, (unpackWire codec.layout buf).isSome = true ↔
      (1 ≤ (readU16Be buf 9).toNat ∧ (readU16Be buf 9).toNat ≤ 256) ∧
      (codec.layout.bodyFixedSize ≤ (readU32Be buf 23).toNat ∧
        (readU32Be buf 23).toNat ≤ codec.layout.bodyMax) ∧
      buf.length = 27 + (readU16Be buf 9).toNat + (readU32Be buf 23).toNat + 16) := by
  have small := bodyMax_small codec
  refine ⟨?_, ?_, ?_⟩
  · intro pkt maxlen ranged room
    obtain ⟨back, length⟩ := unpackWire_ranged_wire ranged small
    exact ⟨wire pkt, pack_ranged ranged room, length, back⟩
  · intro buf pkt maxlen unpacked room
    obtain ⟨ranged, size, laid⟩ := unpackWire_ranged unpacked
    rw [pack_ranged ranged (size.le.trans room), laid]
  · intro buf
    constructor
    · intro accepted
      obtain ⟨pkt, unpacked⟩ := Option.isSome_iff_exists.mp accepted
      obtain ⟨wrapped, body, size, -⟩ := unpackSealed_iff.mp unpacked
      exact ⟨⟨Nat.pos_of_ne_zero wrapped.1, wrapped.2⟩, body, size⟩
    · rintro ⟨wrapped, body, size⟩
      have nonempty : (readU16Be buf 9).toNat ≠ 0 := Nat.ne_of_gt wrapped.1
      exact Option.isSome_iff_exists.mpr
        ⟨_, unpackSealed_iff.mpr ⟨⟨nonempty, wrapped.2⟩, body, size, rfl⟩⟩

end Siglatch.KnockWire
