import Siglatch.KnockDetect

set_option autoImplicit false

namespace Siglatch.KnockAuthentic
open MuxTypes ByteOrder KnockDigest KnockCodec KnockSealed MuxAdapter KnockDetect

/-! What a sealed datagram must be for its codec to deliver a packet. -/

section Parts

variable (buf : Bytes)

def wrappedKey : Bytes := slice HEADER_SIZE (readU16Be buf 9).toNat buf

def sealedBody : Bytes :=
  slice (HEADER_SIZE + (readU16Be buf 9).toNat) (readU32Be buf 23).toNat buf

def receivedTag : Bytes :=
  slice (HEADER_SIZE + (readU16Be buf 9).toNat + (readU32Be buf 23).toNat) TAG_SIZE buf

end Parts

/-- The packet was made of a plaintext that AES-GCM opened under the key in the datagram, with the
datagram's own first bytes as associated data and its own tag. -/
structure Authentic (layout : Layout) (env : CodecEnv) (buf : Bytes)
    (made : Bytes → RecvPacket) (p : RecvPacket) : Prop where
  form : FormSealed buf layout
  opened : ∃ cek plaintext, sessionDecrypt env (wrappedKey buf) = some cek ∧
    cek.length = CEK_SIZE ∧
    env.cipher.aesgcmDecrypt cek (slice 11 NONCE_SIZE buf) (buf.take HEADER_SIZE)
      (sealedBody buf) (receivedTag buf) = some plaintext ∧
    p = made plaintext

def userData (bodyOffset : ℕ) (plaintext : Bytes) : UserRecvData where
  userId := readU16Be plaintext (bodyOffset + 4)
  actionId := byteAt plaintext (bodyOffset + 6)
  challenge := readU32Be plaintext (bodyOffset + 7)
  hmac :=
    slice (bodyOffset + 15 + (readU32Be plaintext (bodyOffset + 11)).toNat) HMAC_SIZE plaintext
  payload := slice (bodyOffset + 15) (readU32Be plaintext (bodyOffset + 11)).toNat plaintext

/-- What codec 3 makes of a plaintext that came from a host. -/
def packetV3 (ingress : Ingress) (plaintext : Bytes) : RecvPacket :=
  { RecvPacket.zero with
    complete := true, wireVersion := V3_WIRE_VERSION, wireForm := FORM1_ID
    receivedMs := ingress.receivedMs, fragmentCount := 1, timestamp := readU32Be plaintext 0
    ip := ingress.ip.take 63, clientPort := ingress.clientPort, encrypted := true
    wireDecode := true, user := some (userData 0 plaintext) }

def packetV4 (ingress : Ingress) (plaintext : Bytes) : RecvPacket :=
  { RecvPacket.zero with
    complete := isLastFragment (readU32Be plaintext 20) (readU32Be plaintext 24)
    wireVersion := V4_WIRE_VERSION, wireForm := FORM1_ID, receivedMs := ingress.receivedMs
    sessionId := readU64Be plaintext 0, messageId := readU64Be plaintext 8
    streamId := readU32Be plaintext 16, fragmentIndex := readU32Be plaintext 20
    fragmentCount := readU32Be plaintext 24, timestamp := readU32Be plaintext 30
    ip := ingress.ip.take 63, clientPort := ingress.clientPort, encrypted := true
    wireDecode := true, user := some (userData 30 plaintext) }

section Header

variable {layout : Layout} {buf : Bytes} {pkt : Form1Packet}

/-- The associated data that is put together from the parsed fields is the header that came. -/
theorem buildAad_received (unpacked : unpackWire layout buf = some pkt) :
    buildAad pkt = buf.take HEADER_SIZE := by
  obtain ⟨-, -, size, rfl⟩ := unpackSealed_iff.mp unpacked
  have long : HEADER_SIZE ≤ buf.length := by omega
  have header : HEADER_SIZE = 27 := rfl
  have wrapped : (slice HEADER_SIZE (readU16Be buf 9).toNat buf).length =
      (readU16Be buf 9).toNat := length_slice (by omega)
  have body : (slice (HEADER_SIZE + (readU16Be buf 9).toNat) (readU32Be buf 23).toNat buf).length =
      (readU32Be buf 23).toNat := length_slice (by omega)
  unfold buildAad
  dsimp only
  rw [wrapped, body, UInt16.ofNat_toNat, UInt32.ofNat_toNat, writeU32Be_readU32Be (by omega),
    writeU32Be_readU32Be (by omega), writeU32Be_readU32Be (by omega),
    writeU16Be_readU16Be (by omega), slice_one (by omega)]
  have nonce : NONCE_SIZE = 12 := rfl
  rw [nonce, slice_append 11 12 4, slice_append 9 2 16, slice_append 8 1 18, slice_append 4 4 19,
    slice_append 0 4 23]
  rfl

end Header

section Decode

variable {layout : Layout} {env : CodecEnv} {ingress : Ingress} {p : RecvPacket}
  {unpack : Bytes → Option NormalizedUnit} {finish : NormalizedUnit → NormalizedUnit}
  {made : Bytes → RecvPacket}

theorem decode_authentic (form : FormSealed ingress.buffer layout)
    (reads : ∀ plaintext unit, unpack plaintext = some unit →
      adapterDecode ingress (some (finish unit)) = some p → p = made plaintext)
    (decoded : adapterDecode ingress (KnockSealed.decode layout env unpack ingress finish) =
      some p) : Authentic layout env ingress.buffer made p := by
  obtain ⟨pkt, framed⟩ := Option.isSome_iff_exists.mp (deserializeSealed_iff.mpr form)
  unfold KnockSealed.decode at decoded
  rw [framed] at decoded
  dsimp only at decoded
  obtain ⟨unit, found, -⟩ := Option.bind_eq_some_iff.mp decoded
  rw [found] at decoded
  obtain ⟨opened, decrypted, rfl⟩ := Option.map_eq_some_iff.mp found
  obtain ⟨cek, unwrapped, rest⟩ := Option.bind_eq_some_iff.mp decrypted
  obtain ⟨plaintext, body, unpacked⟩ := Option.bind_eq_some_iff.mp rest
  obtain ⟨key, size⟩ := Option.filter_eq_some_iff.mp unwrapped
  obtain ⟨parsed, -⟩ := Option.filter_eq_some_iff.mp framed
  have aad := buildAad_received parsed
  obtain ⟨-, -, -, rfl⟩ := unpackSealed_iff.mp parsed
  rw [aad] at body
  exact ⟨form, cek, plaintext, key, beq_iff_eq.mp size, body,
    reads plaintext opened unpacked decoded⟩

theorem decode_unformed (other : ¬ FormSealed ingress.buffer layout) :
    ∃ p, adapterDecode ingress (KnockSealed.decode layout env unpack ingress finish) = some p := by
  have refused : deserializeWire layout ingress.buffer = none := by
    rw [← Option.not_isSome_iff_eq_none, deserializeSealed_iff]
    exact other
  unfold KnockSealed.decode
  rw [refused]
  exact ⟨_, rfl⟩

theorem unpackPlaintext_some {bodyOffset : ℕ} {unpackInner : Bytes → NormalizedUnit}
    {plaintext : Bytes} {unit : NormalizedUnit} (ip : CString) (clientPort : UInt16)
    (unpacked : unpackPlaintext layout bodyOffset unpackInner plaintext ip clientPort = some unit) :
    unit = { unpackInner plaintext with
      timestamp := readU32Be plaintext bodyOffset
      userId := (userData bodyOffset plaintext).userId
      actionId := (userData bodyOffset plaintext).actionId
      challenge := (userData bodyOffset plaintext).challenge
      ip := ip.take 63
      clientPort := clientPort
      payload := (userData bodyOffset plaintext).payload
      hmac := (userData bodyOffset plaintext).hmac } := by
  unfold unpackPlaintext at unpacked
  dsimp only at unpacked
  split at unpacked
  · cases unpacked
  split at unpacked
  · cases unpacked
  split at unpacked
  · cases unpacked
  exact (Option.some.inj unpacked).symm

theorem adapterDecode_some {unit : NormalizedUnit}
    (handed : adapterDecode ingress (some unit) = some p) : p = { RecvPacket.zero with
      complete := unit.complete, wireVersion := unit.wireVersion, wireForm := unit.wireForm
      receivedMs := ingress.receivedMs
      sessionId := unit.sessionId, messageId := unit.messageId, streamId := unit.streamId
      fragmentIndex := unit.fragmentIndex, fragmentCount := unit.fragmentCount
      timestamp := unit.timestamp, ip := unit.ip, clientPort := unit.clientPort
      encrypted := unit.encrypted, wireDecode := unit.wireDecode, wireAuth := unit.wireAuth
      user := some ⟨unit.userId, unit.actionId, unit.challenge, unit.hmac, unit.payload⟩ } := by
  obtain ⟨out, copied, same⟩ := Option.bind_eq_some_iff.mp handed
  unfold copyRecvPacket at copied
  split at copied
  · cases copied
  · obtain rfl := Option.some.inj copied
    exact (Option.some.inj same).symm

theorem decodeV3_authentic (form : FormSealed ingress.buffer KnockCodecV3.form1)
    {control : Control} (decoded : (codecV3.decode env ingress control).1 = some p) :
    Authentic KnockCodecV3.form1 env ingress.buffer (packetV3 ingress) p := by
  refine decode_authentic form ?_ decoded
  intro plaintext unit unpacked handed
  have fields := unpackPlaintext_some ingress.ip ingress.clientPort unpacked
  rw [adapterDecode_some handed, fields]
  rfl

theorem decodeV4_authentic (form : FormSealed ingress.buffer KnockCodecV4.form1)
    {control : Control} (decoded : (codecV4.decode env ingress control).1 = some p) :
    Authentic KnockCodecV4.form1 env ingress.buffer (packetV4 ingress) p := by
  refine decode_authentic form ?_ decoded
  intro plaintext unit unpacked handed
  have fields := unpackPlaintext_some ingress.ip ingress.clientPort unpacked
  rw [adapterDecode_some handed, fields]
  rfl

end Decode

section Outcomes

variable (layout : Layout) (env : CodecEnv) (ingress : Ingress)

/-- What an adapter can hand over, for the result that its code returns: once a datagram in form
has its key unwrapped into a buffer that is too small, anything. -/
def Hands (result outcome : Option RecvPacket) : Prop :=
  (deserializeWire layout ingress.buffer).isSome = true ∧ overruns env = true ∨ outcome = result

variable {layout env ingress} {result : Option RecvPacket} {made : Bytes → RecvPacket}

theorem guarded_iff (zero : ∀ plaintext, made plaintext ≠ RecvPacket.zero)
    (formed : FormSealed ingress.buffer layout → ∀ p, result = some p →
      Authentic layout env ingress.buffer made p)
    (unformed : ¬ FormSealed ingress.buffer layout → ∃ p, result = some p) :
    (∀ p, Hands layout env ingress result (some p) →
        Authentic layout env ingress.buffer made p) ↔
      FormSealed ingress.buffer layout ∧ overruns env = false := by
  constructor
  · intro guarded
    have form : FormSealed ingress.buffer layout := by
      by_contra other
      obtain ⟨p, handed⟩ := unformed other
      exact other (guarded p (.inr handed.symm)).form
    refine ⟨form, Bool.eq_false_iff.mpr fun long => ?_⟩
    have reached := deserializeSealed_iff.mpr form
    obtain ⟨-, -, plaintext, -, -, -, made_of⟩ := guarded RecvPacket.zero (.inl ⟨reached, long⟩)
    exact zero plaintext made_of.symm
  · rintro ⟨form, fits⟩ p (⟨-, long⟩ | handed)
    · rw [fits] at long
      cases long
    · exact formed form p handed.symm

end Outcomes

/-- Codecs 3 and 4 deliver authenticated content only, exactly if the datagram is in form and the
session's key does not overrun the buffer that it is unwrapped into. -/
theorem delivery_authentic_iff (env : CodecEnv) (ingress : Ingress) (control : Control) :
    ((∀ p, Hands KnockCodecV3.form1 env ingress (codecV3.decode env ingress control).1 (some p) →
      Authentic KnockCodecV3.form1 env ingress.buffer (packetV3 ingress) p) ↔
        FormSealed ingress.buffer KnockCodecV3.form1 ∧ overruns env = false) ∧
    ((∀ p, Hands KnockCodecV4.form1 env ingress (codecV4.decode env ingress control).1 (some p) →
      Authentic KnockCodecV4.form1 env ingress.buffer (packetV4 ingress) p) ↔
        FormSealed ingress.buffer KnockCodecV4.form1 ∧ overruns env = false) := by
  constructor
  · apply guarded_iff
    · intro plaintext same
      have plain : true = false := congrArg RecvPacket.encrypted same
      cases plain
    · exact fun form p => decodeV3_authentic form
    · exact decode_unformed
  · apply guarded_iff
    · intro plaintext same
      have plain : true = false := congrArg RecvPacket.encrypted same
      cases plain
    · exact fun form p => decodeV4_authentic form
    · exact decode_unformed

theorem empty_unformed (layout : Layout) : ¬ FormSealed [] layout := by
  intro form
  have size := form.size
  change 0 = 27 + _ + _ + 16 at size
  omega

theorem unformed_delivered (env : CodecEnv) (ingress : Ingress) (control : Control)
    (empty : ingress.buffer = []) :
    (∃ p, (codecV3.decode env ingress control).1 = some p ∧
      ¬ Authentic KnockCodecV3.form1 env ingress.buffer (packetV3 ingress) p) ∧
    ∃ p, (codecV4.decode env ingress control).1 = some p ∧
      ¬ Authentic KnockCodecV4.form1 env ingress.buffer (packetV4 ingress) p := by
  have v3 : ¬ FormSealed ingress.buffer KnockCodecV3.form1 := empty ▸ empty_unformed _
  have v4 : ¬ FormSealed ingress.buffer KnockCodecV4.form1 := empty ▸ empty_unformed _
  refine ⟨?_, ?_⟩
  · obtain ⟨p, handed⟩ := decode_unformed v3
    exact ⟨p, handed, fun authentic => v3 authentic.form⟩
  · obtain ⟨p, handed⟩ := decode_unformed v4
    exact ⟨p, handed, fun authentic => v4 authentic.form⟩

/-- A server without any key delivers a packet for the empty datagram. -/
theorem empty_delivered : ∃ (env : CodecEnv) (ingress : Ingress) (control : Control),
    env.session = none ∧ ingress.buffer = [] ∧
    (∃ p, (codecV3.decode env ingress control).1 = some p ∧
      ¬ Authentic KnockCodecV3.form1 env ingress.buffer (packetV3 ingress) p) ∧
    ∃ p, (codecV4.decode env ingress control).1 = some p ∧
      ¬ Authentic KnockCodecV4.form1 env ingress.buffer (packetV4 ingress) p :=
  ⟨MuxEncryption.clearRequest.env, Ingress.zero, ⟨false⟩, rfl, rfl,
    unformed_delivered _ _ _ rfl⟩

end Siglatch.KnockAuthentic
