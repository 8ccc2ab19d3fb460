import Siglatch.KnockWire

set_option autoImplicit false

namespace Siglatch.KnockCapacity
open MuxTypes ByteOrder AppConfig KnockDigest DaemonTypes KnockCodec KnockSealed KnockEncode
  KnockRoundTrip KnockWire

/-! The encoders of the sealed codecs with the caller's buffer and length, which
`KnockSealed.encode` leaves out. -/

def SL_PAYLOAD_ERR_UNPACK : ℤ := -2
def SL_PAYLOAD_ERR_OVERFLOW : ℤ := -4

/-- `pack` returns the number of bytes it wrote, or a negative code. -/
def packInto (layout : Layout) (pkt : Form1Packet) (out : Bytes) (maxlen : ℕ) : ℤ × Bytes :=
  if pkt.wrappedCek.length = 0 ∨ CEK_MAX < pkt.wrappedCek.length then
    (SL_PAYLOAD_ERR_OVERFLOW, out)
  else if pkt.ciphertext.length < layout.bodyFixedSize ∨
      layout.bodyMax < pkt.ciphertext.length then (SL_PAYLOAD_ERR_OVERFLOW, out)
  else if maxlen < wireSize pkt then (SL_PAYLOAD_ERR_UNPACK, out)
  else (wireSize pkt, buildAad pkt ++ (pkt.wrappedCek ++ (pkt.ciphertext ++
    pad TAG_SIZE pkt.tag)) ++ out.drop (wireSize pkt))

/-- The packet that `encode` makes before it writes anything down. Without `random`, `RAND_bytes`
has failed. -/
def sealedPacket (codec : SealedCodec) (env : CodecEnv) (random : Option Entropy)
    (normal : NormalizedUnit) : Option Form1Packet :=
  if normal.wireVersion ≠ codec.layout.wireVersion ∨ normal.wireForm ≠ FORM1_ID then none
  else if FORM1_PAYLOAD_MAX < normal.payload.length then none
  else do
    let body ← signedBody env (codec.generate env.hash) normal
    let plaintext ← codec.packPlain body
    let random ← random
    let wrapped ← encryptPayloadKey env random
    let pkt : Form1Packet := ⟨PREFIX_MAGIC, codec.layout.wireVersion, FORM1_ID, wrapped,
      random.nonce, plaintext, []⟩
    let sealedBody := env.cipher.aesgcmEncrypt random.cek random.nonce (buildAad pkt) plaintext
    if codec.layout.bodyMax < sealedBody.1.length then none
    else some { pkt with ciphertext := sealedBody.1, tag := sealedBody.2 }

/-- What a call of `encode` leaves behind: its result, the buffer and `*out_len`. -/
structure Encoded where
  rc : ℤ
  out : Bytes
  outLen : ℕ

def encodeInto (codec : SealedCodec) (env : CodecEnv) (random : Option Entropy)
    (normal : NormalizedUnit) (out : Bytes) (capacity : ℕ) : Encoded :=
  match sealedPacket codec env random normal with
  | none => ⟨0, out, capacity⟩
  | some pkt =>
    let packed := packInto codec.layout pkt out capacity
    if packed.1 = 0 then ⟨0, packed.2, capacity⟩ else ⟨1, packed.2, wireSize pkt⟩

/-- Success says that the packet just made is in the buffer, within the capacity; failure leaves
the length alone. -/
def Honest (codec : SealedCodec) (made : Option Form1Packet) (capacity : ℕ)
    (result : Encoded) : Prop :=
  (result.rc = 1 ∧ result.outLen ≤ capacity ∧ ∃ pkt, made = some pkt ∧
    unpackWire codec.layout (result.out.take result.outLen) = some pkt) ∨
  (result.rc = 0 ∧ result.outLen = capacity)

structure Encodable (codec : SealedCodec) (env : CodecEnv) (random : Option Entropy)
    (normal : NormalizedUnit) (key : EvpPkey) : Prop where
  drawn : random.isSome = true
  version : normal.wireVersion = codec.layout.wireVersion
  form : normal.wireForm = FORM1_ID
  fits : normal.payload.length ≤ FORM1_PAYLOAD_MAX
  session : ∃ session, env.session = some session ∧ Signs session normal.wireAuth ∧
    session.publicKey = some key
  rsa : env.cipher.isRsa key = true
  low : 43 ≤ env.cipher.keySize key
  high : env.cipher.keySize key ≤ CEK_MAX

theorem codec_body (hash : Hash) (codec : SealedCodec) :
    Body codec.layout (codec.generate hash) codec.packPlain := by
  cases codec with
  | v3 => exact bodyV3 hash
  | v4 => exact bodyV4 hash

section Encode

variable {codec : SealedCodec} {env : CodecEnv} {random : Entropy} {normal : NormalizedUnit}

/-- The encoder whose result is a packet is this one, seen from a buffer of zeros. -/
theorem encode_eq (capacity : ℕ) : KnockSealed.encode codec.layout env
      (codec.generate env.hash) codec.packPlain random normal capacity =
    (sealedPacket codec env (some random) normal).map fun pkt =>
      (pack codec.layout pkt capacity).getD (List.replicate (wireSize pkt) 0) := by
  unfold KnockSealed.encode sealedPacket
  split
  · rfl
  split
  · rfl
  cases signedBody env (codec.generate env.hash) normal with
  | none => rfl
  | some body =>
    simp only [Option.bind_eq_bind, Option.bind_some]
    cases codec.packPlain body with
    | none => rfl
    | some plaintext =>
      simp only [sealPlaintext, Option.bind_eq_bind, Option.bind_some]
      cases encryptPayloadKey env random with
      | none => rfl
      | some wrapped =>
        simp only [Option.bind_some]
        split
        · rfl
        · rfl

theorem sealedPacket_keyless (keyless : env.session = none) (random : Option Entropy) :
    sealedPacket codec env random normal = none := by
  rw [← Option.not_isSome_iff_eq_none]
  intro made
  obtain ⟨pkt, made⟩ := Option.isSome_iff_exists.mp made
  unfold sealedPacket at made
  split at made
  · cases made
  split at made
  · cases made
  simp only [Option.bind_eq_bind, Option.bind_eq_some_iff] at made
  obtain ⟨_, -, _, -, _, -, _, wraps, -⟩ := made
  simp only [encryptPayloadKey, sessionEncrypt, keyless, Option.bind_eq_bind, Option.bind_none,
    Option.filter_none] at wraps
  cases wraps

/-- A codec makes a packet exactly of what it can encode. -/
theorem sealedPacket_isSome (lawful : Lawful env.cipher) (random : Option Entropy) :
    (sealedPacket codec env random normal).isSome = true ↔
      ∃ key, Encodable codec env random normal key := by
  cases random with
  | none =>
    have none_made : sealedPacket codec env none normal = none := by
      simp [sealedPacket, Option.bind_eq_bind]
    rw [none_made]
    refine ⟨fun h => (Bool.false_ne_true h).elim, ?_⟩
    rintro ⟨key, able⟩
    exact absurd able.drawn Bool.false_ne_true
  | some random =>
    cases installed : env.session with
    | none =>
      rw [sealedPacket_keyless installed]
      refine ⟨fun h => (Bool.false_ne_true h).elim, ?_⟩
      rintro ⟨key, able⟩
      obtain ⟨session, found, -⟩ := able.session
      rw [installed] at found
      cases found
    | some session =>
      have encodes := encodeSealed_isSome installed lawful (codec_body env.hash codec) random
        normal 0
      rw [encode_eq, Option.isSome_map] at encodes
      rw [encodes]
      constructor
      · rintro ⟨version, form, fits, signs, key, keyed, rsa, low, high⟩
        exact ⟨key, rfl, version, form, fits, ⟨session, installed, signs, keyed⟩, rsa, low, high⟩
      · rintro ⟨key, able⟩
        obtain ⟨other, found, signs, keyed⟩ := able.session
        rw [installed] at found
        obtain rfl := Option.some.inj found
        exact ⟨able.version, able.form, able.fits, signs, key, keyed, able.rsa, able.low,
          able.high⟩

/-- The packet is in range, its key takes the size of the public key and its body that of the
payload. -/
theorem sealedPacket_size (lawful : Lawful env.cipher) {random : Option Entropy}
    {pkt : Form1Packet} (made : sealedPacket codec env random normal = some pkt) {key : EvpPkey}
    (able : Encodable codec env random normal key) : Ranged codec.layout pkt ∧ wireSize pkt =
      27 + env.cipher.keySize key + (codec.layout.bodyFixedSize + normal.payload.length) + 16 := by
  obtain ⟨session, installed, -, keyed⟩ := able.session
  have fits := able.fits
  unfold sealedPacket at made
  rw [if_neg (by simp [able.version, able.form]), if_neg (Nat.not_lt.mpr fits)] at made
  simp only [Option.bind_eq_bind, Option.bind_eq_some_iff] at made
  obtain ⟨body, signed, plaintext, packed, random, -, wrapped, wraps, made⟩ := made
  obtain ⟨wraps, usable⟩ := Option.filter_eq_some_iff.mp wraps
  rw [sessionEncrypt_eq installed keyed] at wraps
  have wrapped_length := lawful.encrypt_length key _ _ _ wraps
  simp only [Bool.and_eq_true, Bool.not_eq_true', beq_eq_false_iff_ne, decide_eq_true_eq] at usable
  have sameUnit : body.wireVersion = normal.wireVersion ∧ body.wireForm = normal.wireForm ∧
      body.payload = normal.payload := by
    unfold signedBody at signed
    split at signed
    · cases signed
    · obtain ⟨hmac, -, filled⟩ := Option.bind_eq_some_iff.mp signed
      obtain rfl := Option.some.inj filled
      exact ⟨rfl, rfl, rfl⟩
  obtain ⟨version, form, payload⟩ := sameUnit
  obtain ⟨other, packs, length⟩ := (codec_body env.hash codec).packs body
    (version.trans able.version) (form.trans able.form) (payload ▸ fits)
  rw [packed] at packs
  obtain rfl := Option.some.inj packs
  rw [payload] at length
  split at made
  · cases made
  · rename_i short
    obtain rfl := Option.some.inj made
    have sealed := lawful.seal_length random.cek random.nonce (buildAad ⟨PREFIX_MAGIC,
      codec.layout.wireVersion, FORM1_ID, wrapped, random.nonce, plaintext, []⟩) plaintext
    refine ⟨⟨Nat.pos_of_ne_zero usable.1, usable.2, ?_, Nat.not_lt.mp short, random.nonce_length,
      lawful.tag_length _ _ _ _⟩, ?_⟩
    · dsimp only
      omega
    · unfold wireSize
      dsimp only
      rw [sealed, wrapped_length, length]
      rfl

section Write

variable {pkt : Form1Packet} {out : Bytes} {capacity : ℕ}

theorem packInto_room (ranged : Ranged codec.layout pkt) (room : wireSize pkt ≤ capacity) :
    packInto codec.layout pkt out capacity =
      ((wireSize pkt : ℤ), wire pkt ++ out.drop (wireSize pkt)) := by
  have pos := ranged.wrapped_pos
  have le := ranged.wrapped_le
  have ge := ranged.body_ge
  have high := ranged.body_le
  unfold packInto
  rw [if_neg (by omega), if_neg (by omega), if_neg (by omega), pad_of_length ranged.tag]
  rfl

theorem packInto_short (ranged : Ranged codec.layout pkt) (short : capacity < wireSize pkt) :
    packInto codec.layout pkt out capacity = (SL_PAYLOAD_ERR_UNPACK, out) := by
  have pos := ranged.wrapped_pos
  have le := ranged.wrapped_le
  have ge := ranged.body_ge
  have high := ranged.body_le
  unfold packInto
  rw [if_neg (by omega), if_neg (by omega), if_pos short]

theorem encodeInto_short (random : Option Entropy)
    (made : sealedPacket codec env random normal = some pkt) (ranged : Ranged codec.layout pkt)
    (short : capacity < wireSize pkt) :
    encodeInto codec env random normal out capacity = ⟨1, out, wireSize pkt⟩ := by
  unfold encodeInto
  rw [made]
  dsimp only
  rw [packInto_short ranged short]
  exact if_neg (show SL_PAYLOAD_ERR_UNPACK ≠ 0 by decide)

theorem encodeInto_room (random : Option Entropy)
    (made : sealedPacket codec env random normal = some pkt) (ranged : Ranged codec.layout pkt)
    (room : wireSize pkt ≤ capacity) : encodeInto codec env random normal out capacity =
      ⟨1, wire pkt ++ out.drop (wireSize pkt), wireSize pkt⟩ := by
  unfold encodeInto
  rw [made]
  dsimp only
  rw [packInto_room ranged room, if_neg]
  unfold wireSize HEADER_SIZE
  omega

end Write

/-- A call keeps its word exactly if the packet of what it can encode fits the capacity. -/
theorem encode_honest_iff (codec : SealedCodec) (env : CodecEnv) (random : Option Entropy)
    (normal : NormalizedUnit) (out : Bytes) (capacity : ℕ) (lawful : Lawful env.cipher) :
    Honest codec (sealedPacket codec env random normal) capacity
        (encodeInto codec env random normal out capacity) ↔
      ∀ key, Encodable codec env random normal key →
        27 + env.cipher.keySize key + (codec.layout.bodyFixedSize + normal.payload.length) + 16 ≤
          capacity := by
  have small := bodyMax_small codec
  cases made : sealedPacket codec env random normal with
  | none =>
    have refused : encodeInto codec env random normal out capacity = ⟨0, out, capacity⟩ := by
      unfold encodeInto
      rw [made]
    rw [refused]
    refine ⟨fun _ key able => ?_, fun _ => Or.inr ⟨rfl, rfl⟩⟩
    have able := (sealedPacket_isSome lawful random).mpr ⟨key, able⟩
    rw [made] at able
    exact absurd able Bool.false_ne_true
  | some pkt =>
    obtain ⟨key, able⟩ := (sealedPacket_isSome lawful random).mp
      (Option.isSome_iff_exists.mpr ⟨pkt, made⟩)
    obtain ⟨ranged, size⟩ := sealedPacket_size lawful made able
    constructor
    · intro honest other able
      obtain ⟨-, size⟩ := sealedPacket_size lawful made able
      rw [← size]
      by_contra short
      rw [encodeInto_short random made ranged (Nat.not_le.mp short)] at honest
      rcases honest with ⟨-, room, -⟩ | ⟨failed, -⟩
      · exact short room
      · exact absurd failed one_ne_zero
    · intro room
      have room := room key able
      rw [← size] at room
      obtain ⟨back, length⟩ := unpackWire_ranged_wire ranged small
      rw [encodeInto_room random made ranged room]
      refine Or.inl ⟨rfl, room, pkt, rfl, ?_⟩
      dsimp only
      rw [← length, List.take_left, back]

end Encode

section Sample

def sampleEnv : CodecEnv :=
  ⟨boxCipher, ⟨id, fun key message => key ++ message⟩, KnockContext.create,
    some ⟨some 5, some 5, [], 0⟩, 1000⟩

def sampleUnit : NormalizedUnit :=
  { NormalizedUnit.zero with wireVersion := V4_WIRE_VERSION, wireForm := FORM1_ID }

theorem encode_honest_sample : Honest .v4 (sealedPacket .v4 sampleEnv (some plainEntropy)
    sampleUnit) 376 (encodeInto .v4 sampleEnv (some plainEntropy) sampleUnit [] 376) :=
  (encode_honest_iff .v4 sampleEnv (some plainEntropy) sampleUnit [] 376 boxCipher_lawful).mpr
    fun _ _ => show 27 + 256 + (77 + 0) + 16 ≤ 376 by decide

/-- In a buffer one byte short `encode` returns 1 with the full length and writes nothing. -/
theorem encode_overstates : ¬ Honest .v4 (sealedPacket .v4 sampleEnv (some plainEntropy)
    sampleUnit) 375 (encodeInto .v4 sampleEnv (some plainEntropy) sampleUnit [] 375) := by
  have returned : (encodeInto .v4 sampleEnv (some plainEntropy) sampleUnit [] 375).rc = 1 ∧
      (encodeInto .v4 sampleEnv (some plainEntropy) sampleUnit [] 375).outLen = 376 := by
    decide +kernel
  rintro (⟨-, room, -⟩ | ⟨failed, -⟩)
  · rw [returned.2] at room
    exact absurd room (by decide)
  · rw [returned.1] at failed
    exact absurd failed one_ne_zero

end Sample

end Siglatch.KnockCapacity
