import Siglatch.MuxAdapter

set_option autoImplicit false

namespace Siglatch.KnockEncode
open MuxTypes ByteOrder AppConfig KnockDigest DaemonTypes KnockCodec

/-- What OpenSSL documents of its primitives. PKCS#1 padding takes at least eleven bytes, a
ciphertext has the size of the key, decryption refuses what is longer than the key, and GCM keeps
the length and opens what it has sealed. -/
structure Lawful (cipher : Cipher) : Prop where
  encrypt_isSome : ∀ key padding message,
    (cipher.encrypt key padding message).isSome = true ↔
      cipher.isRsa key = true ∧ message.length + 11 ≤ cipher.keySize key
  encrypt_length : ∀ key padding message out, cipher.encrypt key padding message = some out →
    out.length = cipher.keySize key
  decrypt_length : ∀ key input out, cipher.decrypt key input = some out →
    input.length ≤ cipher.keySize key
  seal_length : ∀ cek nonce aad plaintext,
    (cipher.aesgcmEncrypt cek nonce aad plaintext).1.length = plaintext.length
  tag_length : ∀ cek nonce aad plaintext,
    (cipher.aesgcmEncrypt cek nonce aad plaintext).2.length = TAG_SIZE
  open_seal : ∀ cek nonce aad plaintext,
    cipher.aesgcmDecrypt cek nonce aad (cipher.aesgcmEncrypt cek nonce aad plaintext).1
      (cipher.aesgcmEncrypt cek nonce aad plaintext).2 = some plaintext

/-- The session has an RSA key whose size lies between two bounds. -/
def UsableKey (cipher : Cipher) (session : OpenSSLSession) (low high : ℕ) : Prop :=
  ∃ key, session.publicKey = some key ∧ cipher.isRsa key = true ∧ low ≤ cipher.keySize key ∧
    cipher.keySize key ≤ high

def Signs (session : OpenSSLSession) (wireAuth : Bool) : Prop :=
  wireAuth = true → HMAC_SIZE ≤ session.hmacKeyLen

section Parts

variable {env : CodecEnv} {session : OpenSSLSession} (installed : env.session = some session)

include installed

theorem outgoingHmac_isSome (wireAuth : Bool) (digest : Bytes) (hmac : Bytes) :
    (outgoingHmac env wireAuth (some digest) hmac).isSome = true ↔ Signs session wireAuth := by
  unfold outgoingHmac Signs
  rw [installed]
  cases wireAuth with
  | false => simp
  | true => simp

theorem sessionEncrypt_eq {key : EvpPkey} (keyed : session.publicKey = some key)
    (padding message : Bytes) :
    sessionEncrypt env padding message = env.cipher.encrypt key padding message := by
  simp [sessionEncrypt, installed, keyed]

theorem encryptPacked_isSome (lawful : Lawful env.cipher) (random : Entropy) (encrypted : Bool)
    {packed : Bytes} {capacity : ℕ} (filled : 0 < packed.length)
    (fits : packed.length ≤ capacity) :
    (encryptPacked env random encrypted capacity packed).isSome = true ↔
      (encrypted = true → UsableKey env.cipher session (packed.length + 11) capacity) := by
  unfold encryptPacked UsableKey
  rw [installed]
  cases encrypted with
  | false => simpa using fits
  | true =>
    cases keyed : session.publicKey with
    | none => simp [keyed]
    | some key =>
      have encrypts := lawful.encrypt_isSome key random.padding packed
      rw [← sessionEncrypt_eq installed keyed] at encrypts
      simp only [Bool.not_true, Bool.false_eq_true, if_false, Option.bind_eq_bind,
        Option.bind_some, keyed, Option.some.injEq, exists_eq_left', forall_const]
      split
      · simp only [Option.isSome_none, Bool.false_eq_true, false_iff]
        omega
      · rw [encrypts]
        constructor
        · rintro ⟨rsa, -⟩
          exact ⟨rsa, by omega, by omega⟩
        · rintro ⟨rsa, low, -⟩
          exact ⟨rsa, low⟩

end Parts

theorem encryptPacked_length {env : CodecEnv} (lawful : Lawful env.cipher) {random : Entropy}
    {encrypted : Bool} {capacity : ℕ} {packed out : Bytes}
    (h : encryptPacked env random encrypted capacity packed = some out) :
    out.length ≤ capacity := by
  unfold encryptPacked at h
  split at h
  · split at h
    · contradiction
    · obtain rfl := Option.some.inj h
      omega
  · simp only [Option.bind_eq_bind, Option.bind_eq_some_iff] at h
    obtain ⟨session, installed, key, keyed, h⟩ := h
    split at h
    · contradiction
    · rw [sessionEncrypt_eq installed keyed] at h
      rw [lawful.encrypt_length key random.padding packed out h]
      omega

section Legacy

variable {env : CodecEnv} {session : OpenSSLSession} (installed : env.session = some session)
  (lawful : Lawful env.cipher)

include installed lawful

theorem signAndEncrypt_isSome (random : Entropy) (wireAuth encrypted : Bool) (digest hmac : Bytes)
    {pack : Bytes → Bytes} (size : ∀ hmac, (pack hmac).length = 245) :
    ((outgoingHmac env wireAuth (some digest) hmac).bind fun hmac =>
      encryptPacked env random encrypted NORMALIZED_PACKET_BUFFER_SIZE (pack hmac)).isSome = true ↔
    Signs session wireAuth ∧
      (encrypted = true → UsableKey env.cipher session 256 NORMALIZED_PACKET_BUFFER_SIZE) := by
  have signs := outgoingHmac_isSome installed wireAuth digest hmac
  cases signed : outgoingHmac env wireAuth (some digest) hmac with
  | none =>
    rw [signed] at signs
    simp only [Option.isSome_none, Bool.false_eq_true, false_iff] at signs
    simp [signs]
  | some out =>
    rw [signed] at signs
    have length := size out
    have encrypts := @encryptPacked_isSome env session installed lawful random encrypted
      (pack out) NORMALIZED_PACKET_BUFFER_SIZE (by omega) (by rw [length]; decide)
    rw [length] at encrypts
    rw [Option.bind_some, encrypts]
    exact (and_iff_right (signs.mp rfl)).symm

theorem encodeV1_isSome (random : Entropy) (normal : NormalizedUnit) :
    (KnockCodecV1.encode env random normal NORMALIZED_PACKET_BUFFER_SIZE).isSome = true ↔
      normal.payload.length ≤ V1_PAYLOAD_MAX ∧ Signs session normal.wireAuth ∧
      (normal.encrypted = true →
        UsableKey env.cipher session 256 NORMALIZED_PACKET_BUFFER_SIZE) := by
  unfold KnockCodecV1.encode
  rw [if_neg (by decide)]
  by_cases long : V1_PAYLOAD_MAX < normal.payload.length
  · rw [if_pos long]
    simp only [Option.isSome_none, Bool.false_eq_true, false_iff, not_and]
    omega
  · rw [if_neg long, and_iff_right (Nat.not_lt.mp long)]
    simp only [generate, if_neg long]
    refine signAndEncrypt_isSome installed lawful random _ _ _ _ ?_
    intro hmac
    simp [V1_PAYLOAD_MAX, HMAC_SIZE]

theorem encodeV2_isSome (random : Entropy) (normal : NormalizedUnit) :
    (KnockCodecV2.encode env random normal NORMALIZED_PACKET_BUFFER_SIZE).isSome = true ↔
      normal.payload.length ≤ V2_FORM1_PAYLOAD_MAX ∧ Signs session normal.wireAuth ∧
      (normal.encrypted = true →
        UsableKey env.cipher session 256 NORMALIZED_PACKET_BUFFER_SIZE) := by
  unfold KnockCodecV2.encode
  rw [if_neg (by decide)]
  by_cases long : V2_FORM1_PAYLOAD_MAX < normal.payload.length
  · rw [if_pos long]
    simp only [Option.isSome_none, Bool.false_eq_true, false_iff, not_and]
    omega
  · rw [if_neg long, and_iff_right (Nat.not_lt.mp long)]
    have short : normal.payload.length < 2 ^ 16 := by
      have bound : V2_FORM1_PAYLOAD_MAX = 191 := rfl
      omega
    have sized : (UInt16.ofNat normal.payload.length).toNat = normal.payload.length :=
      UInt16.toNat_ofNat_of_lt' short
    simp only [generateV2Form1, KnockCodecV2.pack, sized, if_neg long, lt_irrefl, if_false]
    refine signAndEncrypt_isSome installed lawful random _ _ _ _ ?_
    intro hmac
    simp [V2_FORM1_PAYLOAD_MAX, HMAC_SIZE]

end Legacy

section Sealed

open KnockSealed

variable {env : CodecEnv} {session : OpenSSLSession} (installed : env.session = some session)
  (lawful : Lawful env.cipher)

include installed lawful

theorem encryptPayloadKey_isSome (random : Entropy) :
    (encryptPayloadKey env random).isSome = true ↔ UsableKey env.cipher session 43 CEK_MAX := by
  unfold encryptPayloadKey UsableKey
  cases keyed : session.publicKey with
  | none => simp [sessionEncrypt, installed, keyed]
  | some key =>
    rw [sessionEncrypt_eq installed keyed]
    have encrypts := lawful.encrypt_isSome key random.padding random.cek
    rw [random.cek_length] at encrypts
    simp only [Option.some.injEq, exists_eq_left']
    cases wrapped : env.cipher.encrypt key random.padding random.cek with
    | none =>
      rw [wrapped] at encrypts
      simp only [Option.isSome_none, Bool.false_eq_true, false_iff] at encrypts
      simp only [Option.filter_none, Option.isSome_none, Bool.false_eq_true, false_iff]
      rintro ⟨rsa, low, -⟩
      exact encrypts ⟨rsa, low⟩
    | some out =>
      rw [wrapped] at encrypts
      obtain ⟨rsa, low⟩ := encrypts.mp rfl
      have size : CEK_SIZE = 32 := rfl
      have nonempty : env.cipher.keySize key ≠ 0 := by omega
      rw [← lawful.encrypt_length key _ _ _ wrapped] at nonempty low ⊢
      simp only [Option.isSome_filter, Option.any_some, rsa, true_and, Bool.and_eq_true,
        Bool.not_eq_true', beq_eq_false_iff_ne, decide_eq_true_eq]
      constructor
      · rintro ⟨-, high⟩
        exact ⟨by omega, high⟩
      · rintro ⟨-, high⟩
        exact ⟨nonempty, high⟩

theorem sealPlaintext_isSome (layout : Layout) (random : Entropy) {plaintext : Bytes}
    (fits : plaintext.length ≤ layout.bodyMax) (capacity : ℕ) :
    (sealPlaintext layout env random plaintext capacity).isSome = true ↔
      UsableKey env.cipher session 43 CEK_MAX := by
  rw [← encryptPayloadKey_isSome installed lawful random]
  unfold sealPlaintext
  cases encryptPayloadKey env random with
  | none => rfl
  | some wrapped =>
    simp only [Option.bind_eq_bind, Option.bind_some, Option.isSome_some, iff_true]
    rw [if_neg (by rw [lawful.seal_length]; omega)]
    rfl

/-- What the two codecs have to provide for `encode` to depend on the packet and the key alone. -/
structure Body (layout : Layout) (generate : NormalizedUnit → Option Bytes)
    (packPlain : NormalizedUnit → Option Bytes) : Prop where
  digests : ∀ normal, normal.wireVersion = layout.wireVersion → normal.wireForm = FORM1_ID →
    normal.payload.length ≤ FORM1_PAYLOAD_MAX → ∃ digest, generate normal = some digest
  packs : ∀ normal, normal.wireVersion = layout.wireVersion → normal.wireForm = FORM1_ID →
    normal.payload.length ≤ FORM1_PAYLOAD_MAX → ∃ plaintext, packPlain normal = some plaintext ∧
      plaintext.length = layout.bodyFixedSize + normal.payload.length

theorem encodeSealed_isSome {layout : Layout} {generate : NormalizedUnit → Option Bytes}
    {packPlain : NormalizedUnit → Option Bytes} (body : Body layout generate packPlain)
    (random : Entropy) (normal : NormalizedUnit) (capacity : ℕ) :
    (KnockSealed.encode layout env generate packPlain random normal capacity).isSome = true ↔
      normal.wireVersion = layout.wireVersion ∧ normal.wireForm = FORM1_ID ∧
      normal.payload.length ≤ FORM1_PAYLOAD_MAX ∧ Signs session normal.wireAuth ∧
      UsableKey env.cipher session 43 CEK_MAX := by
  unfold KnockSealed.encode
  by_cases version : normal.wireVersion = layout.wireVersion
  swap
  · simp [version]
  by_cases form : normal.wireForm = FORM1_ID
  swap
  · simp [form]
  by_cases long : FORM1_PAYLOAD_MAX < normal.payload.length
  · simp [long, Nat.not_le.mpr long]
  rw [if_neg (by simp [version, form]), if_neg long, and_iff_right version, and_iff_right form,
    and_iff_right (Nat.not_lt.mp long)]
  obtain ⟨digest, digested⟩ := body.digests normal version form (Nat.not_lt.mp long)
  have signs := outgoingHmac_isSome installed normal.wireAuth digest normal.hmac
  unfold signedBody
  rw [digested, installed]
  by_cases keyless : normal.wireAuth = true ∧ ((some session).bind (·.publicKey)).isNone = true
  · rw [if_pos keyless]
    simp only [Option.bind_eq_bind, Option.bind_none, Option.isSome_none, Bool.false_eq_true,
      false_iff, not_and]
    rintro - ⟨key, keyed, -⟩
    simp [keyed] at keyless
  · rw [if_neg keyless]
    cases signed : outgoingHmac env normal.wireAuth (some digest) normal.hmac with
    | none =>
      rw [signed] at signs
      simp only [Option.isSome_none, Bool.false_eq_true, false_iff] at signs
      simp [signs]
    | some hmac =>
      rw [signed] at signs
      obtain ⟨plaintext, packed, length⟩ := body.packs { normal with hmac := hmac } version form
        (Nat.not_lt.mp long)
      have fits : plaintext.length ≤ layout.bodyMax := by
        rw [length, Layout.bodyMax]
        exact Nat.add_le_add_left (Nat.not_lt.mp long) _
      simp only [Option.bind_eq_bind, Option.bind_some, packed]
      rw [sealPlaintext_isSome installed lawful layout random fits capacity]
      exact (and_iff_right (signs.mp rfl)).symm

end Sealed

section Sizes

open KnockSealed

theorem length_buildAad (pkt : Form1Packet) (h : pkt.nonce.length = NONCE_SIZE) :
    (buildAad pkt).length = HEADER_SIZE := by
  simp [buildAad, h, NONCE_SIZE, HEADER_SIZE]

theorem pack_length {layout : Layout} {pkt : Form1Packet} {maxlen : ℕ} {out : Bytes}
    (nonce : pkt.nonce.length = NONCE_SIZE) (h : pack layout pkt maxlen = some out) :
    out.length = HEADER_SIZE + pkt.wrappedCek.length + pkt.ciphertext.length + TAG_SIZE := by
  unfold pack at h
  repeat' split at h
  all_goals first | contradiction | obtain rfl := Option.some.inj h
  simp only [List.length_append, length_buildAad pkt nonce, length_pad]
  omega

theorem sealPlaintext_length {layout : Layout} {env : CodecEnv} {random : Entropy}
    {plaintext out : Bytes} {capacity : ℕ}
    (h : sealPlaintext layout env random plaintext capacity = some out) :
    out.length ≤ layout.packetMaxSize := by
  simp only [sealPlaintext, Option.bind_eq_bind, Option.bind_eq_some_iff] at h
  obtain ⟨wrapped, wraps, h⟩ := h
  have short : wrapped.length ≤ CEK_MAX := by
    simp only [encryptPayloadKey, Option.filter_eq_some_iff, Bool.and_eq_true,
      decide_eq_true_eq] at wraps
    exact wraps.2.2
  split at h
  · contradiction
  · rename_i fits
    obtain rfl := Option.some.inj h
    unfold Layout.packetMaxSize
    generalize env.cipher.aesgcmEncrypt _ _ _ _ = sealedBody at fits
    cases packed : pack layout ⟨PREFIX_MAGIC, layout.wireVersion, FORM1_ID, wrapped, random.nonce,
        sealedBody.1, sealedBody.2⟩ capacity with
    | none =>
      simp only [Option.getD_none, List.length_replicate]
      omega
    | some out =>
      rw [Option.getD_some, pack_length random.nonce_length packed]
      dsimp only
      omega

theorem encodeSealed_length {layout : Layout} {env : CodecEnv}
    {generate : NormalizedUnit → Option Bytes} {packPlain : NormalizedUnit → Option Bytes}
    {random : Entropy} {normal : NormalizedUnit} {capacity : ℕ} {out : Bytes}
    (h : KnockSealed.encode layout env generate packPlain random normal capacity = some out) :
    out.length ≤ layout.packetMaxSize := by
  unfold KnockSealed.encode at h
  repeat' split at h
  all_goals first | contradiction | skip
  simp only [Option.bind_eq_bind, Option.bind_eq_some_iff] at h
  obtain ⟨_, -, _, -, h⟩ := h
  exact sealPlaintext_length h

theorem length_packBody (normal : NormalizedUnit) :
    (packBody normal).length = 47 + normal.payload.length := by
  simp only [packBody, List.length_append, length_writeU32Be, length_writeU16Be, length_pad,
    List.length_singleton, HMAC_SIZE]
  omega

theorem length_packInnerEnvelope (normal : NormalizedUnit) :
    (KnockCodecV4.packInnerEnvelope normal).length = KnockCodecV4.INNER_ENVELOPE_WIRE_SIZE := by
  simp [KnockCodecV4.packInnerEnvelope, KnockCodecV4.INNER_ENVELOPE_WIRE_SIZE]

theorem generateForm1_some (hash : Hash) {version : UInt32} {normal : NormalizedUnit}
    (same : normal.wireVersion = version) (form : normal.wireForm = FORM1_ID)
    (fits : normal.payload.length ≤ FORM1_PAYLOAD_MAX) :
    ∃ digest, generateForm1 hash version normal = some digest := by
  have bound : FORM1_PAYLOAD_MAX ≤ NORMALIZED_PAYLOAD_MAX := by decide
  unfold generateForm1
  rw [if_neg (not_not.mpr same), if_neg (not_not.mpr form), if_neg (by omega)]
  exact ⟨_, rfl⟩

theorem body_of_inner (hash : Hash) {layout : Layout} {inner : NormalizedUnit → Bytes}
    (fixed : ∀ normal, (inner normal).length + 47 = layout.bodyFixedSize) :
    Body layout (generateForm1 hash layout.wireVersion)
      fun normal => packPlaintext layout (inner normal) normal := by
  constructor
  · intro normal version form fits
    exact generateForm1_some hash version form fits
  · intro normal version form fits
    refine ⟨inner normal ++ packBody normal, ?_, ?_⟩
    · unfold packPlaintext
      rw [if_neg (Nat.not_lt.mpr fits), if_neg (by simp [version, form])]
    · rw [List.length_append, length_packBody, ← fixed normal]
      omega

theorem bodyV3 (hash : Hash) :
    Body KnockCodecV3.form1 (generateV3Form1 hash) (packPlaintext KnockCodecV3.form1 []) :=
  body_of_inner hash fun _ => rfl

theorem bodyV4 (hash : Hash) :
    Body KnockCodecV4.form1 (generateV4Form1 hash) KnockCodecV4.packPlain :=
  body_of_inner hash fun normal => by rw [length_packInnerEnvelope]; rfl

end Sizes

section Adapters

open MuxAdapter KnockSealed

theorem adapterEncode_isSome {encode : NormalizedUnit → Option Bytes} {send : SendPacket}
    {normal : NormalizedUnit} (copied : copySendPacket send = some normal)
    (short : ∀ out, encode normal = some out → out.length ≤ NORMALIZED_PACKET_BUFFER_SIZE) :
    (adapterEncode encode send).isSome = true ↔ (encode normal).isSome = true := by
  unfold adapterEncode
  rw [copied]
  simp only [Option.bind_eq_bind, Option.bind_some]
  cases encoded : encode normal with
  | none => rfl
  | some out =>
    simp only [Option.bind_some, Option.isSome_some, iff_true]
    unfold fillEgress
    rw [if_neg (Nat.not_lt.mpr (short out encoded))]
    rfl

variable {env : CodecEnv} {session : OpenSSLSession} {send : SendPacket} {user : UserSendData}
  (installed : env.session = some session) (lawful : Lawful env.cipher)
  (carried : send.user = some user) (fits : user.payload.length ≤ USER_DATA_PAYLOAD_MAX)

include carried fits

theorem copied_unit : copySendPacket send = some (sendUnit send user) := by
  have bound : USER_DATA_PAYLOAD_MAX ≤ NORMALIZED_PAYLOAD_MAX := by decide
  exact copySendPacket_some carried (fits.trans bound)

include installed lawful

theorem codecV1_encode_isSome (random : Entropy) :
    (codecV1.encode env random send).isSome = true ↔
      Signs session send.wireAuth ∧ (send.encrypted = true →
        UsableKey env.cipher session 256 NORMALIZED_PACKET_BUFFER_SIZE) := by
  unfold codecV1
  rw [adapterEncode_isSome (copied_unit carried fits), encodeV1_isSome installed lawful]
  · exact and_iff_right fits
  · intro out encoded
    simp only [KnockCodecV1.encode, Option.bind_eq_bind] at encoded
    repeat' split at encoded
    all_goals first | contradiction | skip
    simp only [Option.bind_eq_some_iff] at encoded
    obtain ⟨_, -, _, -, encoded⟩ := encoded
    exact encryptPacked_length lawful encoded

theorem codecV2_encode_isSome (random : Entropy) :
    (codecV2.encode env random send).isSome = true ↔
      user.payload.length ≤ V2_FORM1_PAYLOAD_MAX ∧ Signs session send.wireAuth ∧
      (send.encrypted = true →
        UsableKey env.cipher session 256 NORMALIZED_PACKET_BUFFER_SIZE) := by
  unfold codecV2
  rw [adapterEncode_isSome (copied_unit carried fits), encodeV2_isSome installed lawful]
  · rfl
  · intro out encoded
    simp only [KnockCodecV2.encode, Option.bind_eq_bind] at encoded
    repeat' split at encoded
    all_goals first | contradiction | skip
    simp only [Option.bind_eq_some_iff] at encoded
    obtain ⟨_, -, _, -, encoded⟩ := encoded
    exact encryptPacked_length lawful encoded

theorem codecV3_encode_isSome (version : send.wireVersion = V3_WIRE_VERSION) (random : Entropy) :
    (codecV3.encode env random send).isSome = true ↔
      send.wireForm = FORM1_ID ∧ Signs session send.wireAuth ∧
      UsableKey env.cipher session 43 CEK_MAX := by
  have bound : USER_DATA_PAYLOAD_MAX ≤ FORM1_PAYLOAD_MAX := by decide
  unfold codecV3
  rw [adapterEncode_isSome (copied_unit carried fits)]
  · unfold KnockCodecV3.encode
    rw [encodeSealed_isSome installed lawful (bodyV3 env.hash)]
    exact (and_iff_right version).trans (and_congr_right fun _ =>
      and_iff_right (fits.trans bound))
  · intro out encoded
    have length := encodeSealed_length encoded
    exact length.trans (by decide)

theorem codecV4_encode_isSome (version : send.wireVersion = V4_WIRE_VERSION) (random : Entropy) :
    (codecV4.encode env random send).isSome = true ↔
      send.wireForm = FORM1_ID ∧ Signs session send.wireAuth ∧
      UsableKey env.cipher session 43 CEK_MAX := by
  have bound : USER_DATA_PAYLOAD_MAX ≤ FORM1_PAYLOAD_MAX := by decide
  unfold codecV4
  rw [adapterEncode_isSome (copied_unit carried fits)]
  · unfold KnockCodecV4.encode
    rw [encodeSealed_isSome installed lawful (bodyV4 env.hash)]
    exact (and_iff_right version).trans (and_congr_right fun _ =>
      and_iff_right (fits.trans bound))
  · intro out encoded
    have length := encodeSealed_length encoded
    exact length.trans (by decide)

end Adapters

section Box

/-- A stand-in for OpenSSL: RSA puts the message with its length into a block of 256 bytes, GCM
adds a tag of zeros. -/
def boxCipher : Cipher where
  isRsa _ := true
  keySize _ := 256
  encrypt _ _ message :=
    if message.length + 11 ≤ 256 then
      some (UInt8.ofNat message.length :: (message ++ List.replicate (255 - message.length) 0))
    else none
  decrypt _ input :=
    if input.length ≤ 256 then input.head?.map fun size => input.tail.take size.toNat else none
  aesgcmEncrypt _ _ _ plaintext := (plaintext, List.replicate TAG_SIZE 0)
  aesgcmDecrypt _ _ _ ciphertext tag :=
    if tag = List.replicate TAG_SIZE 0 then some ciphertext else none

theorem boxCipher_lawful : Lawful boxCipher where
  encrypt_isSome key padding message := by
    change (if message.length + 11 ≤ 256 then _ else none).isSome = true ↔
      true = true ∧ message.length + 11 ≤ 256
    split <;> simp [*]
  encrypt_length key padding message out encrypted := by
    change (if message.length + 11 ≤ 256 then _ else none) = some out at encrypted
    split at encrypted
    · obtain rfl := Option.some.inj encrypted
      simp only [List.length_cons, List.length_append, List.length_replicate]
      change _ = 256
      omega
    · contradiction
  decrypt_length key input out decrypted := by
    change (if input.length ≤ 256 then _ else none) = some out at decrypted
    split at decrypted
    · assumption
    · contradiction
  seal_length _ _ _ _ := rfl
  tag_length _ _ _ _ := rfl
  open_seal cek nonce aad plaintext := by
    change (if List.replicate TAG_SIZE (0 : UInt8) = List.replicate TAG_SIZE 0 then
      some plaintext else none) = some plaintext
    rw [if_pos rfl]

theorem boxCipher_opens (sealer opener : EvpPkey) (padding message out : Bytes)
    (encrypted : boxCipher.encrypt sealer padding message = some out) :
    boxCipher.decrypt opener out = some message := by
  have length : out.length = 256 :=
    boxCipher_lawful.encrypt_length sealer padding message out encrypted
  change (if message.length + 11 ≤ 256 then _ else none) = some out at encrypted
  split at encrypted
  · have size : (UInt8.ofNat message.length).toNat = message.length :=
      UInt8.toNat_ofNat_of_lt' (lt_of_le_of_lt (by omega : _ ≤ 245) (by decide))
    obtain rfl := Option.some.inj encrypted
    change (if _ then _ else none) = some message
    rw [if_pos length.le]
    simp [size]
  · contradiction

def plainEntropy : Entropy :=
  ⟨List.replicate CEK_SIZE 0, List.replicate NONCE_SIZE 0, [], rfl, rfl⟩

end Box

end Siglatch.KnockEncode
