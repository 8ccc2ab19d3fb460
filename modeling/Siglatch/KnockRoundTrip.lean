import Siglatch.KnockEncode
import Siglatch.MuxNormalize

set_option autoImplicit false

namespace Siglatch.KnockRoundTrip
open MuxTypes ByteOrder KnockDigest DaemonTypes KnockCodec KnockSealed KnockEncode

section Wire

structure Sized (layout : Layout) (pkt : Form1Packet) : Prop where
  wrapped_pos : 0 < pkt.wrappedCek.length
  wrapped_le : pkt.wrappedCek.length ≤ CEK_MAX
  body_ge : layout.bodyFixedSize ≤ pkt.ciphertext.length
  body_le : pkt.ciphertext.length ≤ layout.bodyMax
  body_small : pkt.ciphertext.length < 2 ^ 32
  nonce : pkt.nonce.length = NONCE_SIZE
  tag : pkt.tag.length = TAG_SIZE

variable {layout : Layout} {pkt : Form1Packet}

def wire (pkt : Form1Packet) : Bytes :=
  buildAad pkt ++ (pkt.wrappedCek ++ (pkt.ciphertext ++ pkt.tag))

theorem pack_wire (sized : Sized layout pkt) {maxlen : ℕ} (room : layout.packetMaxSize ≤ maxlen) :
    pack layout pkt maxlen = some (wire pkt) := by
  have pos := sized.wrapped_pos
  have le := sized.wrapped_le
  have ge := sized.body_ge
  have high := sized.body_le
  unfold Layout.packetMaxSize at room
  unfold pack
  rw [if_neg (by omega), if_neg (by omega), if_neg (by omega), pad_of_length sized.tag]
  rfl

theorem wire_eq (pkt : Form1Packet) : wire pkt =
    writeU32Be pkt.magic ++ (writeU32Be pkt.version ++ ([pkt.form] ++
      (writeU16Be (UInt16.ofNat pkt.wrappedCek.length) ++ (pkt.nonce ++
        (writeU32Be (UInt32.ofNat pkt.ciphertext.length) ++
          (pkt.wrappedCek ++ (pkt.ciphertext ++ pkt.tag))))))) := by
  simp only [wire, buildAad, List.append_assoc]

theorem length_wire (sized : Sized layout pkt) : (wire pkt).length =
    HEADER_SIZE + pkt.wrappedCek.length + pkt.ciphertext.length + TAG_SIZE := by
  have aad := length_buildAad pkt sized.nonce
  have tag := sized.tag
  simp only [wire, List.length_append]
  omega

theorem wire_wrappedLen (sized : Sized layout pkt) :
    (readU16Be (wire pkt) 9).toNat = pkt.wrappedCek.length := by
  rw [wire_eq, readU16Be_skip _ (by simp), length_writeU32Be, readU16Be_skip _ (by simp),
    length_writeU32Be, readU16Be_skip _ (by simp), List.length_singleton, readU16Be_head]
  exact UInt16.toNat_ofNat_of_lt' (lt_of_le_of_lt sized.wrapped_le (by decide))

theorem wire_ciphertextLen (sized : Sized layout pkt) :
    (readU32Be (wire pkt) 23).toNat = pkt.ciphertext.length := by
  have nonce : pkt.nonce.length = 12 := sized.nonce
  rw [wire_eq, readU32Be_skip _ (by simp), length_writeU32Be, readU32Be_skip _ (by simp),
    length_writeU32Be, readU32Be_skip _ (by simp), List.length_singleton,
    readU32Be_skip _ (by simp), length_writeU16Be, readU32Be_skip _ (by simp [nonce]), nonce,
    readU32Be_head]
  exact UInt32.toNat_ofNat_of_lt' sized.body_small

theorem wire_slices (sized : Sized layout pkt) :
    slice 11 NONCE_SIZE (wire pkt) = pkt.nonce ∧
    slice HEADER_SIZE pkt.wrappedCek.length (wire pkt) = pkt.wrappedCek ∧
    slice (HEADER_SIZE + pkt.wrappedCek.length) pkt.ciphertext.length (wire pkt) =
      pkt.ciphertext ∧
    slice (HEADER_SIZE + pkt.wrappedCek.length + pkt.ciphertext.length) TAG_SIZE (wire pkt) =
      pkt.tag := by
  have aad := length_buildAad pkt sized.nonce
  refine ⟨?_, ?_, ?_, ?_⟩
  · rw [wire_eq, slice_skip _ _ (by simp), length_writeU32Be, slice_skip _ _ (by simp),
      length_writeU32Be, slice_skip _ _ (by simp), List.length_singleton,
      slice_skip _ _ (by simp), length_writeU16Be, ← sized.nonce]
    exact slice_head _ _
  · rw [wire, slice_skip _ _ aad.le, aad, Nat.sub_self]
    exact slice_head _ _
  · rw [wire, slice_skip _ _ (by omega), aad, Nat.add_sub_cancel_left, slice_skip _ _ le_rfl,
      Nat.sub_self]
    exact slice_head _ _
  · rw [wire, slice_skip _ _ (by omega), aad, Nat.add_assoc, Nat.add_sub_cancel_left,
      slice_skip _ _ (by omega), Nat.add_sub_cancel_left, slice_skip _ _ le_rfl, Nat.sub_self,
      ← sized.tag]
    exact slice_all _

theorem unpackWire_wire (sized : Sized layout pkt) : unpackWire layout (wire pkt) = some pkt := by
  have pos := sized.wrapped_pos
  have le := sized.wrapped_le
  have ge := sized.body_ge
  have high := sized.body_le
  obtain ⟨nonce, wrapped, ciphertext, tag⟩ := wire_slices sized
  have magic : readU32Be (wire pkt) 0 = pkt.magic := by rw [wire_eq, readU32Be_head]
  have version : readU32Be (wire pkt) 4 = pkt.version := by
    rw [wire_eq, readU32Be_skip _ (by simp), length_writeU32Be, readU32Be_head]
  have form : byteAt (wire pkt) 8 = pkt.form := by
    rw [wire_eq, byteAt_skip _ (by simp), length_writeU32Be, byteAt_skip _ (by simp),
      length_writeU32Be]
    exact byteAt_head _ _
  unfold unpackWire
  simp only [wire_wrappedLen sized, wire_ciphertextLen sized, length_wire sized]
  rw [if_neg (by omega), if_neg (by omega), if_neg (by omega), if_neg (by omega), magic, version,
    form, nonce, wrapped, ciphertext, tag]

theorem deserializeWire_wire (sized : Sized layout pkt) (magic : pkt.magic = PREFIX_MAGIC)
    (version : pkt.version = layout.wireVersion) (form : pkt.form = FORM1_ID) :
    deserializeWire layout (wire pkt) = some pkt := by
  have pos := sized.wrapped_pos
  have le := sized.wrapped_le
  have ge := sized.body_ge
  have high := sized.body_le
  have valid : validateWire layout pkt = true := by
    unfold validateWire
    rw [if_neg (not_not.mpr magic), if_neg (not_not.mpr version), if_neg (not_not.mpr form),
      if_neg (by omega), if_neg (by omega)]
  unfold deserializeWire
  rw [unpackWire_wire sized, Option.filter_some, valid, if_pos rfl]

end Wire

section Plaintext

open KnockCodecV4

/-- What comes out of a sealed packet at the other end, before the codec completes it. -/
def opened (normal : NormalizedUnit) (ip : CString) (clientPort : UInt16) : NormalizedUnit :=
  { NormalizedUnit.zero with
    sessionId := normal.sessionId, messageId := normal.messageId, streamId := normal.streamId
    fragmentIndex := normal.fragmentIndex, fragmentCount := normal.fragmentCount
    timestamp := normal.timestamp, userId := normal.userId, actionId := normal.actionId
    challenge := normal.challenge, hmac := pad HMAC_SIZE normal.hmac, ip := ip.take 63
    clientPort := clientPort, payload := normal.payload }

theorem unpackInnerEnvelope_pack (normal : NormalizedUnit) (body : Bytes) :
    unpackInnerEnvelope (packInnerEnvelope normal ++ body) = { NormalizedUnit.zero with
      sessionId := normal.sessionId, messageId := normal.messageId, streamId := normal.streamId
      fragmentIndex := normal.fragmentIndex, fragmentCount := normal.fragmentCount } := by
  have laid : packInnerEnvelope normal ++ body = writeU64Be normal.sessionId ++
      (writeU64Be normal.messageId ++ (writeU32Be normal.streamId ++
        (writeU32Be normal.fragmentIndex ++ (writeU32Be normal.fragmentCount ++
          ([0, 0] ++ body))))) := by
    simp only [packInnerEnvelope, List.append_assoc]
  unfold unpackInnerEnvelope
  rw [laid, readU64Be_head, readU64Be_skip _ (by simp), length_writeU64Be, readU64Be_head,
    readU32Be_skip _ (by simp), length_writeU64Be, readU32Be_skip _ (by simp), length_writeU64Be,
    readU32Be_head, readU32Be_skip _ (by simp), length_writeU64Be, readU32Be_skip _ (by simp),
    length_writeU64Be, readU32Be_skip _ (by simp), length_writeU32Be, readU32Be_head,
    readU32Be_skip _ (by simp), length_writeU64Be, readU32Be_skip _ (by simp), length_writeU64Be,
    readU32Be_skip _ (by simp), length_writeU32Be, readU32Be_skip _ (by simp), length_writeU32Be,
    readU32Be_head]

theorem packBody_fields (inner : Bytes) (normal : NormalizedUnit)
    (fits : normal.payload.length ≤ FORM1_PAYLOAD_MAX) :
    readU32Be (inner ++ packBody normal) inner.length = normal.timestamp ∧
    readU16Be (inner ++ packBody normal) (inner.length + 4) = normal.userId ∧
    byteAt (inner ++ packBody normal) (inner.length + 6) = normal.actionId ∧
    readU32Be (inner ++ packBody normal) (inner.length + 7) = normal.challenge ∧
    (readU32Be (inner ++ packBody normal) (inner.length + 11)).toNat = normal.payload.length ∧
    slice (inner.length + 15) normal.payload.length (inner ++ packBody normal) =
      normal.payload ∧
    slice (inner.length + 15 + normal.payload.length) HMAC_SIZE (inner ++ packBody normal) =
      pad HMAC_SIZE normal.hmac := by
  have length : (UInt32.ofNat normal.payload.length).toNat = normal.payload.length :=
    UInt32.toNat_ofNat_of_lt' (lt_of_le_of_lt fits (by decide))
  unfold packBody
  refine ⟨?_, ?_, ?_, ?_, ?_, ?_, ?_⟩
  · rw [readU32Be_skip _ le_rfl, Nat.sub_self, readU32Be_head]
  · rw [readU16Be_skip _ (by simp), Nat.add_sub_cancel_left, readU16Be_skip _ (by simp),
      length_writeU32Be, readU16Be_head]
  · rw [byteAt_skip _ (by simp), Nat.add_sub_cancel_left, byteAt_skip _ (by simp),
      length_writeU32Be, byteAt_skip _ (by simp), length_writeU16Be]
    exact byteAt_head _ _
  · rw [readU32Be_skip _ (by simp), Nat.add_sub_cancel_left, readU32Be_skip _ (by simp),
      length_writeU32Be, readU32Be_skip _ (by simp), length_writeU16Be,
      readU32Be_skip _ (by simp), List.length_singleton, readU32Be_head]
  · rw [readU32Be_skip _ (by simp), Nat.add_sub_cancel_left, readU32Be_skip _ (by simp),
      length_writeU32Be, readU32Be_skip _ (by simp), length_writeU16Be,
      readU32Be_skip _ (by simp), List.length_singleton, readU32Be_skip _ (by simp),
      length_writeU32Be, readU32Be_head, length]
  · rw [slice_skip _ _ (by simp), Nat.add_sub_cancel_left, slice_skip _ _ (by simp),
      length_writeU32Be, slice_skip _ _ (by simp), length_writeU16Be, slice_skip _ _ (by simp),
      List.length_singleton, slice_skip _ _ (by simp), length_writeU32Be,
      slice_skip _ _ (by simp), length_writeU32Be]
    exact slice_head _ _
  · rw [slice_skip _ _ (by omega), Nat.add_assoc, Nat.add_sub_cancel_left,
      slice_skip _ _ (by simp; omega), length_writeU32Be, slice_skip _ _ (by simp; omega),
      length_writeU16Be, slice_skip _ _ (by simp; omega), List.length_singleton,
      slice_skip _ _ (by simp; omega), length_writeU32Be, slice_skip _ _ (by simp; omega),
      length_writeU32Be, slice_skip _ _ (by omega)]
    have offset : 15 + normal.payload.length - 4 - 2 - 1 - 4 - 4 - normal.payload.length = 0 := by
      omega
    have whole := slice_all (pad HMAC_SIZE normal.hmac)
    rw [length_pad] at whole
    rw [offset, whole]

/-- A packed body unpacks to the fields that were packed, whatever stands in front of it. -/
theorem unpackPlaintext_pack {layout : Layout} (inner : Bytes)
    (unpackInner : Bytes → NormalizedUnit)
    (fixed : layout.bodyFixedSize = inner.length + 47) (normal : NormalizedUnit) (ip : CString)
    (clientPort : UInt16) (fits : normal.payload.length ≤ FORM1_PAYLOAD_MAX) :
    unpackPlaintext layout inner.length unpackInner (inner ++ packBody normal) ip clientPort =
      some { unpackInner (inner ++ packBody normal) with
        timestamp := normal.timestamp, userId := normal.userId, actionId := normal.actionId
        challenge := normal.challenge, ip := ip.take 63, clientPort := clientPort
        payload := normal.payload, hmac := pad HMAC_SIZE normal.hmac } := by
  obtain ⟨timestamp, userId, actionId, challenge, payloadLen, payload, hmac⟩ :=
    packBody_fields inner normal fits
  have total : (inner ++ packBody normal).length =
      layout.bodyFixedSize + normal.payload.length := by
    rw [List.length_append, length_packBody, fixed, Nat.add_assoc]
  unfold unpackPlaintext
  simp only [payloadLen, total]
  rw [if_neg (by omega), if_neg (by omega), if_neg (by omega), timestamp, userId, actionId,
    challenge, payload, hmac]

theorem unpackPlain_pack (normal : NormalizedUnit) (ip : CString) (clientPort : UInt16)
    (fits : normal.payload.length ≤ FORM1_PAYLOAD_MAX) :
    unpackPlain ip clientPort (packInnerEnvelope normal ++ packBody normal) =
      some (opened normal ip clientPort) := by
  have inner := length_packInnerEnvelope normal
  have unpacked := @unpackPlaintext_pack form1 (packInnerEnvelope normal) unpackInnerEnvelope
    (by rw [inner]; rfl) normal ip clientPort fits
  rw [inner, unpackInnerEnvelope_pack] at unpacked
  exact unpacked

end Plaintext

/-- The receiver opens what the sender wraps, and the key it tries first on a whole datagram is no
larger than the one the sender wraps with. -/
structure Matching (client server : CodecEnv) : Prop where
  cipher : server.cipher = client.cipher
  opens : ∀ padding message out, sessionEncrypt client padding message = some out →
    sessionDecrypt server out = some message
  sized : ∀ serverKey privateKey session publicKey, server.context.serverKey = some serverKey →
    serverKey.privateKey = some privateKey → client.session = some session →
    session.publicKey = some publicKey →
    client.cipher.keySize privateKey ≤ client.cipher.keySize publicKey

section Sealed

variable {layout : Layout} {client server : CodecEnv} {random : Entropy} {plaintext out : Bytes}
  {capacity : ℕ}

/-- A sealed plaintext goes out as a well-sized packet whose header is what was authenticated. -/
structure SealedAs (layout : Layout) (client : CodecEnv) (random : Entropy) (plaintext : Bytes)
    (pkt : Form1Packet) : Prop where
  wraps : sessionEncrypt client random.padding random.cek = some pkt.wrappedCek
  magic : pkt.magic = PREFIX_MAGIC
  version : pkt.version = layout.wireVersion
  form : pkt.form = FORM1_ID
  nonce : pkt.nonce = random.nonce
  body : client.cipher.aesgcmEncrypt random.cek random.nonce (buildAad pkt) plaintext =
    (pkt.ciphertext, pkt.tag)
  sized : Sized layout pkt

theorem buildAad_congr {pkt other : Form1Packet} (magic : pkt.magic = other.magic)
    (version : pkt.version = other.version) (form : pkt.form = other.form)
    (wrapped : pkt.wrappedCek = other.wrappedCek) (nonce : pkt.nonce = other.nonce)
    (length : pkt.ciphertext.length = other.ciphertext.length) : buildAad pkt = buildAad other := by
  rw [buildAad, buildAad, magic, version, form, wrapped, nonce, length]

theorem sealPlaintext_wire (lawful : Lawful client.cipher)
    (low : layout.bodyFixedSize ≤ plaintext.length) (high : plaintext.length ≤ layout.bodyMax)
    (small : plaintext.length < 2 ^ 32) (room : layout.packetMaxSize ≤ capacity)
    (h : sealPlaintext layout client random plaintext capacity = some out) :
    ∃ pkt, SealedAs layout client random plaintext pkt ∧ out = wire pkt := by
  simp only [sealPlaintext, Option.bind_eq_bind, Option.bind_eq_some_iff] at h
  obtain ⟨wrapped, wraps, h⟩ := h
  simp only [encryptPayloadKey, Option.filter_eq_some_iff, Bool.and_eq_true, Bool.not_eq_true',
    beq_eq_false_iff_ne, decide_eq_true_eq] at wraps
  obtain ⟨wraps, nonempty, short⟩ := wraps
  generalize bare : (⟨PREFIX_MAGIC, layout.wireVersion, FORM1_ID, wrapped, random.nonce, plaintext,
    []⟩ : Form1Packet) = pkt at h
  have length := lawful.seal_length random.cek random.nonce (buildAad pkt) plaintext
  have tagged := lawful.tag_length random.cek random.nonce (buildAad pkt) plaintext
  cases sealed : client.cipher.aesgcmEncrypt random.cek random.nonce (buildAad pkt) plaintext with
  | mk ciphertext tag =>
    rw [sealed] at h length tagged
    dsimp only at h length tagged
    rw [if_neg (by omega)] at h
    subst bare
    let full : Form1Packet := ⟨PREFIX_MAGIC, layout.wireVersion, FORM1_ID, wrapped, random.nonce,
      ciphertext, tag⟩
    have sized : Sized layout full := by
      refine ⟨Nat.pos_of_ne_zero nonempty, short, ?_, ?_, ?_, random.nonce_length, tagged⟩
      · exact low.trans length.ge
      · exact length.le.trans high
      · exact lt_of_le_of_lt length.le small
    have aad : buildAad full = buildAad ⟨PREFIX_MAGIC, layout.wireVersion, FORM1_ID, wrapped,
      random.nonce, plaintext, []⟩ := buildAad_congr rfl rfl rfl rfl rfl length
    refine ⟨full, ⟨wraps, rfl, rfl, rfl, rfl, by rw [aad, sealed], sized⟩, ?_⟩
    rw [pack_wire sized room, Option.getD_some] at h
    exact (Option.some.inj h).symm

/-- The receiver gets the plaintext back and hands it to its unpacker. -/
theorem decode_sealed (cipher : server.cipher = client.cipher)
    (opens : ∀ padding message out, sessionEncrypt client padding message = some out →
      sessionDecrypt server out = some message) (lawful : Lawful client.cipher)
    {pkt : Form1Packet} (sealed : SealedAs layout client random plaintext pkt)
    (unpack : Bytes → Option NormalizedUnit) {ingress : Ingress}
    (received : ingress.buffer = wire pkt) (finish : NormalizedUnit → NormalizedUnit) :
    KnockSealed.decode layout server unpack ingress finish = (unpack plaintext).map finish := by
  have key : decryptPayloadKey server pkt = some random.cek := by
    unfold decryptPayloadKey
    rw [opens _ _ _ sealed.wraps, Option.filter_some, if_pos]
    rw [random.cek_length]
    rfl
  have body := lawful.open_seal random.cek random.nonce (buildAad pkt) plaintext
  rw [sealed.body, ← sealed.nonce] at body
  unfold KnockSealed.decode
  rw [received, deserializeWire_wire sealed.sized sealed.magic sealed.version sealed.form]
  dsimp only
  unfold decryptAndUnpackPacket
  rw [key, cipher]
  simp only [Option.bind_eq_bind, Option.bind_some]
  dsimp only at body
  rw [body, Option.bind_some]

end Sealed

section Demux

open MuxAdapter MuxNormalize

variable {client server : CodecEnv} {random : Entropy} {plaintext : Bytes} {pkt : Form1Packet}
  {ingress : Ingress}

theorem deserializeWire_version {layout : Layout} {buf : Bytes}
    (h : (deserializeWire layout buf).isSome = true) : readU32Be buf 4 = layout.wireVersion := by
  obtain ⟨found, accepted⟩ := Option.isSome_iff_exists.mp h
  obtain ⟨unpacked, valid⟩ := Option.filter_eq_some_iff.mp accepted
  have version : found.version = readU32Be buf 4 := by
    unfold unpackWire at unpacked
    dsimp only at unpacked
    repeat' split at unpacked
    all_goals first | contradiction | obtain rfl := Option.some.inj unpacked
    rfl
  unfold validateWire at valid
  rw [← version]
  by_contra other
  simp [other] at valid

theorem wire_version (pkt : Form1Packet) : readU32Be (wire pkt) 4 = pkt.version := by
  rw [wire_eq, readU32Be_skip _ (by simp), length_writeU32Be, readU32Be_head]

theorem wire_first (magic : pkt.magic = PREFIX_MAGIC) : byteAt (wire pkt) 0 = 0x53 := by
  have first : writeU32Be PREFIX_MAGIC = [0x53, 0x4C, 0x50, 0x4B] := by decide
  rw [wire_eq, magic, first]
  rfl

theorem privateDecrypt_wire {layout : Layout} (matching : Matching client server)
    (lawful : Lawful client.cipher) (sealed : SealedAs layout client random plaintext pkt) :
    privateDecrypt server (wire pkt) = none := by
  by_contra tried
  obtain ⟨out, decrypted⟩ := Option.ne_none_iff_exists'.mp tried
  simp only [privateDecrypt, Option.bind_eq_bind, Option.bind_eq_some_iff] at decrypted
  obtain ⟨serverKey, known, privateKey, held, decrypted⟩ := decrypted
  split at decrypted
  · contradiction
  · have wraps := sealed.wraps
    simp only [sessionEncrypt, Option.bind_eq_bind, Option.bind_eq_some_iff] at wraps
    obtain ⟨session, installed, publicKey, keyed, wraps⟩ := wraps
    rw [matching.cipher] at decrypted
    have short := lawful.decrypt_length _ _ _ decrypted
    have size := lawful.encrypt_length _ _ _ _ wraps
    have order := matching.sized _ _ _ _ known held installed keyed
    have length := length_wire sealed.sized
    have header : HEADER_SIZE = 27 := rfl
    omega

theorem detectV1_wire {layout : Layout} (matching : Matching client server)
    (lawful : Lawful client.cipher) (sealed : SealedAs layout client random plaintext pkt)
    (received : ingress.buffer = wire pkt) : KnockCodecV1.detect server ingress = none := by
  have plain : ¬ (ingress.buffer.length = KnockCodecV1.PACKET_SIZE ∧
      (KnockCodecV1.deserializeWire server.now ingress.buffer).isSome = true) := by
    rintro ⟨-, accepted⟩
    obtain ⟨found, accepted⟩ := Option.isSome_iff_exists.mp accepted
    obtain ⟨unpacked, valid⟩ := Option.filter_eq_some_iff.mp accepted
    unfold KnockCodecV1.unpackWire at unpacked
    split at unpacked
    · contradiction
    · obtain rfl := Option.some.inj unpacked
      unfold KnockCodecV1.validateWire at valid
      dsimp only at valid
      rw [received, wire_first sealed.magic, if_pos (by decide)] at valid
      contradiction
  unfold KnockCodecV1.detect
  rw [if_neg plain, received, privateDecrypt_wire matching lawful sealed]

theorem detectV2_wire {layout : Layout} (matching : Matching client server)
    (lawful : Lawful client.cipher) (sealed : SealedAs layout client random plaintext pkt)
    (received : ingress.buffer = wire pkt) (version : layout.wireVersion ≠ V2_WIRE_VERSION) :
    KnockCodecV2.detect server ingress = none := by
  have plain : (if ingress.buffer.length = KnockCodecV2.FORM1_PACKET_SIZE then
      KnockCodecV2.deserializeWire server.now ingress.buffer else none) = none := by
    split
    · by_contra accepted
      obtain ⟨found, accepted⟩ := Option.ne_none_iff_exists'.mp accepted
      obtain ⟨unpacked, valid⟩ := Option.filter_eq_some_iff.mp accepted
      unfold KnockCodecV2.unpackWire at unpacked
      split at unpacked
      · contradiction
      · obtain rfl := Option.some.inj unpacked
        unfold KnockCodecV2.validateWire at valid
        dsimp only at valid
        rw [received, wire_version, sealed.version] at valid
        split at valid <;> contradiction
    · rfl
  unfold KnockCodecV2.detect
  rw [plain, received, privateDecrypt_wire matching lawful sealed]

theorem detectV3_wire (sealed : SealedAs KnockCodecV4.form1 client random plaintext pkt)
    (received : ingress.buffer = wire pkt) : KnockCodecV3.detect ingress = none := by
  have other : deserializeWire KnockCodecV3.form1 ingress.buffer = none := by
    by_contra accepted
    have version := deserializeWire_version (Option.isSome_iff_ne_none.mpr accepted)
    rw [received, wire_version, sealed.version] at version
    revert version
    decide
  unfold KnockCodecV3.detect KnockSealed.detect
  rw [other]
  rfl

theorem detectV4_wire (sealed : SealedAs KnockCodecV4.form1 client random plaintext pkt)
    (received : ingress.buffer = wire pkt) :
    KnockCodecV4.detect ingress = some ⟨true, PREFIX_MAGIC, V4_WIRE_VERSION, FORM1_ID⟩ := by
  unfold KnockCodecV4.detect KnockSealed.detect
  rw [received, deserializeWire_wire sealed.sized sealed.magic sealed.version sealed.form,
    Option.map_some, sealed.magic, sealed.version, sealed.form]
  rfl

/-- Only the codec that sealed a packet takes it for its own. -/
theorem demux_wire (matching : Matching client server) (lawful : Lawful client.cipher)
    (sealed : SealedAs KnockCodecV4.form1 client random plaintext pkt)
    (received : ingress.buffer = wire pkt) :
    demux server ingress =
      some (codecV4, ⟨true, PREFIX_MAGIC, V4_WIRE_VERSION, FORM1_ID⟩) := by
  have v1 : codecV1.detect server ingress = none :=
    detectV1_wire matching lawful sealed received
  have v2 : codecV2.detect server ingress = none :=
    detectV2_wire matching lawful sealed received (by decide)
  have v3 : codecV3.detect server ingress = none := detectV3_wire sealed received
  have v4 : codecV4.detect server ingress =
    some ⟨true, PREFIX_MAGIC, V4_WIRE_VERSION, FORM1_ID⟩ := detectV4_wire sealed received
  unfold demux adapters
  simp only [List.findSome?_cons, v1, v2, v3, v4, Option.map_none, Option.map_some]

/-- Every packet that a sealed codec encodes is a sealed one, with the HMAC it goes out under. -/
theorem encodeSealed_wire (lawful : Lawful client.cipher) {layout : Layout}
    {generate : NormalizedUnit → Option Bytes} {inner : NormalizedUnit → Bytes}
    (fixed : ∀ normal, layout.bodyFixedSize = (inner normal).length + 47)
    (kept : ∀ normal hmac, inner { normal with hmac := hmac } = inner normal)
    (small : layout.bodyMax < 2 ^ 32) {normal : NormalizedUnit} {out : Bytes}
    (encoded : KnockSealed.encode layout client generate
      (fun normal => packPlaintext layout (inner normal) normal) random normal
      layout.packetMaxSize = some out) :
    normal.payload.length ≤ FORM1_PAYLOAD_MAX ∧
    (normal.wireVersion = layout.wireVersion ∧ normal.wireForm = FORM1_ID) ∧ ∃ hmac pkt,
      outgoingHmac client normal.wireAuth (generate normal) normal.hmac = some hmac ∧
      SealedAs layout client random (inner normal ++ packBody { normal with hmac := hmac }) pkt ∧
      out = wire pkt := by
  unfold KnockSealed.encode at encoded
  split at encoded
  · contradiction
  rename_i own
  split at encoded
  · contradiction
  rename_i fits
  have short : normal.payload.length ≤ FORM1_PAYLOAD_MAX := Nat.not_lt.mp fits
  refine ⟨short, by simpa only [not_or, not_not] using own, ?_⟩
  simp only [Option.bind_eq_bind, Option.bind_eq_some_iff] at encoded
  obtain ⟨body, signed, plaintext, packed, sealedOut⟩ := encoded
  unfold signedBody at signed
  split at signed
  · contradiction
  simp only [Option.bind_eq_bind, Option.bind_eq_some_iff] at signed
  obtain ⟨hmac, signature, found⟩ := signed
  obtain rfl := Option.some.inj found
  unfold packPlaintext at packed
  rw [if_neg fits] at packed
  split at packed
  · contradiction
  obtain rfl := Option.some.inj packed
  rw [kept normal hmac] at sealedOut
  have length : (inner normal ++ packBody { normal with hmac := hmac }).length =
      layout.bodyFixedSize + normal.payload.length := by
    rw [List.length_append, length_packBody, fixed normal, Nat.add_assoc]
  have limit : layout.bodyMax = layout.bodyFixedSize + FORM1_PAYLOAD_MAX := rfl
  obtain ⟨pkt, sealedAs, wired⟩ := sealPlaintext_wire lawful (by omega) (by omega) (by omega) le_rfl
    sealedOut
  exact ⟨hmac, pkt, signature, sealedAs, wired⟩

theorem encodeV4_wire (lawful : Lawful client.cipher) {normal : NormalizedUnit} {out : Bytes}
    (encoded : KnockCodecV4.encode client random normal KnockCodecV4.form1.packetMaxSize =
      some out) :
    normal.payload.length ≤ FORM1_PAYLOAD_MAX ∧ ∃ hmac pkt,
      SealedAs KnockCodecV4.form1 client random (KnockCodecV4.packInnerEnvelope normal ++
        packBody { normal with hmac := hmac }) pkt ∧ out = wire pkt := by
  obtain ⟨short, -, hmac, pkt, -, sealed, wired⟩ := encodeSealed_wire lawful
    (fun normal => by rw [length_packInnerEnvelope]; rfl) (fun _ _ => rfl) (by decide) encoded
  exact ⟨short, hmac, pkt, sealed, wired⟩

def arrival (normal : NormalizedUnit) (ingress : Ingress) : RecvPacket :=
  { RecvPacket.zero with
    complete := isLastFragment normal.fragmentIndex normal.fragmentCount
    wireVersion := V4_WIRE_VERSION, wireForm := FORM1_ID, receivedMs := ingress.receivedMs
    sessionId := normal.sessionId, messageId := normal.messageId, streamId := normal.streamId
    fragmentIndex := normal.fragmentIndex, fragmentCount := normal.fragmentCount
    timestamp := normal.timestamp, ip := ingress.ip, clientPort := ingress.clientPort
    encrypted := true, wireDecode := true
    user := some ⟨normal.userId, normal.actionId, normal.challenge, pad HMAC_SIZE normal.hmac,
      normal.payload⟩ }

/-- Unless the policy is against encryption, what was sent arrives, and from then on the sessions
of the batch are the clients' own. -/
theorem normalize_sent (lawful : Lawful client.cipher) {normal : NormalizedUnit} {out : Bytes}
    (encoded : KnockCodecV4.encode client random normal KnockCodecV4.form1.packetMaxSize =
      some out)
    (short : normal.payload.length ≤ USER_DATA_PAYLOAD_MAX) :
    ∃ hmac, ∀ server ingress policy control, Matching client server → ingress.buffer = out →
      normalize policy server ingress control =
        (if policy = .no then none else some (arrival { normal with hmac := hmac } ingress),
          ⟨true⟩) := by
  obtain ⟨fits, hmac, pkt, sealed, rfl⟩ := encodeV4_wire lawful encoded
  refine ⟨hmac, ?_⟩
  intro server ingress policy control matching received
  let configured := configureIngressIdentity ingress
    ⟨true, PREFIX_MAGIC, V4_WIRE_VERSION, FORM1_ID⟩
  have buffer : configured.buffer = wire pkt := received
  have decoded : KnockSealed.decode KnockCodecV4.form1 server
      (KnockCodecV4.unpackPlain ingress.ip ingress.clientPort) configured KnockCodecV4.finish =
      some (KnockCodecV4.finish (opened { normal with hmac := hmac } ingress.ip
        ingress.clientPort)) := by
    rw [decode_sealed matching.cipher matching.opens lawful sealed _ buffer]
    have unpacked :=
      unpackPlain_pack { normal with hmac := hmac } ingress.ip ingress.clientPort fits
    exact (congrArg (Option.map KnockCodecV4.finish) unpacked).trans rfl
  have copied : copyRecvPacket (KnockCodecV4.finish (opened { normal with hmac := hmac } ingress.ip
      ingress.clientPort)) = some { arrival { normal with hmac := hmac } ingress with
        receivedMs := 0, ip := ingress.ip.take 63 } :=
    if_neg (Nat.not_lt.mpr short)
  have adapter : codecV4.decode server configured control =
      (some { arrival { normal with hmac := hmac } ingress with ip := ingress.ip.take 63 },
        ⟨true⟩) := by
    unfold codecV4 KnockCodecV4.decode adapterDecode
    dsimp only
    rw [show configured.ip = ingress.ip from rfl,
      show configured.clientPort = ingress.clientPort from rfl, decoded]
    simp only [Option.bind_eq_bind, Option.bind_some, copied]
    rfl
  unfold MuxNormalize.normalize
  rw [demux_wire matching lawful sealed received]
  dsimp only
  rw [adapter]
  cases policy with
  | any =>
    have allowed : encryptionAllowed .any server.context true = true := by
      unfold encryptionAllowed
      exact ite_self _
    exact if_pos allowed
  | yes => rfl
  | no => rfl

end Demux

end Siglatch.KnockRoundTrip
