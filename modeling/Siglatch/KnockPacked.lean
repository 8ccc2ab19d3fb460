import Siglatch.KnockRoundTrip
import Siglatch.MuxFreshness

set_option autoImplicit false

namespace Siglatch.KnockPacked
open MuxTypes ByteOrder KnockDigest DaemonTypes KnockCodec KnockEncode MuxNormalize MuxFreshness

section Layout

theorem slice_laid {fields : List Bytes} {sizes : List ℕ}
    (sized : fields.map List.length = sizes) (k : ℕ) (field : Bytes) (offset length : ℕ)
    (at_k : fields[k]? = some field) (place : (sizes.take k).sum = offset)
    (size : sizes[k]? = some length) : slice offset length fields.flatten = field := by
  have own : field.length = length := by
    rw [← sized, List.getElem?_map, at_k] at size
    exact Option.some.inj size
  rw [← place, ← own, ← sized, ← List.map_take]
  exact slice_flatten fields k field at_k

theorem length_laid {fields : List Bytes} {sizes : List ℕ}
    (sized : fields.map List.length = sizes) : fields.flatten.length = sizes.sum := by
  rw [List.length_flatten, sized]

theorem leBytes_one (c : UInt8) : leBytes 1 c.toNat = [c] := by
  simp [leBytes]

theorem take_pad {size : ℕ} {bytes : Bytes} (fits : bytes.length ≤ size) :
    (pad size bytes).take bytes.length = bytes := by
  rw [pad, List.take_of_length_le fits, List.take_left]

theorem payloadLen_toNat {payload : Bytes} {max : ℕ} (fits : payload.length ≤ max)
    (small : max < 2 ^ 16) : (UInt16.ofNat payload.length).toNat = payload.length :=
  UInt16.toNat_ofNat_of_lt' (lt_of_le_of_lt fits small)

end Layout

structure Peer (client server : CodecEnv) : Prop where
  cipher : server.cipher = client.cipher
  opens : ∀ padding message out, sessionEncrypt client padding message = some out →
    sessionDecrypt server out = some message
  decrypts : ∀ padding message out, sessionEncrypt client padding message = some out →
    privateDecrypt server out = some message

/-- What the receiver's codec makes of a request that was sent to it in one packed struct. -/
def packedUnit (version : UInt32) (form : UInt8) (normal : NormalizedUnit) (hmac : Bytes)
    (ingress : Ingress) : NormalizedUnit :=
  { NormalizedUnit.zero with
    complete := true, wireVersion := version, wireForm := form, fragmentCount := 1
    timestamp := normal.timestamp, userId := normal.userId, actionId := normal.actionId
    challenge := normal.challenge, hmac := pad HMAC_SIZE hmac, ip := ingress.ip.take 63
    clientPort := ingress.clientPort, encrypted := normal.encrypted, payload := normal.payload }

section Packed

variable {client server : CodecEnv} {random : Entropy} {capacity : ℕ} {packed out : Bytes}

/-- A packed struct arrives as it is, or under a key that the receiver has, and then it is longer
than it was. -/
theorem encryptPacked_received (lawful : Lawful client.cipher) (peer : Peer client server)
    {encrypted : Bool} (h : encryptPacked client random encrypted capacity packed = some out) :
    (encrypted = false ∧ out = packed) ∨
    (encrypted = true ∧ privateDecrypt server out = some packed ∧ packed.length < out.length) := by
  unfold encryptPacked at h
  cases encrypted with
  | false =>
    rw [Bool.not_false, if_pos rfl] at h
    split at h
    · contradiction
    · exact .inl ⟨rfl, (Option.some.inj h).symm⟩
  | true =>
    rw [if_neg (by decide)] at h
    simp only [Option.bind_eq_bind, Option.bind_eq_some_iff] at h
    obtain ⟨session, installed, key, keyed, h⟩ := h
    split at h
    · contradiction
    · rename_i room
      have wrapped := h
      rw [sessionEncrypt_eq installed keyed] at wrapped
      have length := lawful.encrypt_length key random.padding packed out wrapped
      exact .inr ⟨rfl, peer.decrypts _ _ _ h, by omega⟩

end Packed

section V1

open KnockCodecV1

def sizesV1 : List ℕ := [1, 4, 2, 1, 4, HMAC_SIZE, 2, V1_PAYLOAD_MAX]

def fieldsV1 (pkt : KnockCodecV1.Packet) : List Bytes :=
  [leBytes 1 pkt.version.toNat, leBytes 4 pkt.timestamp.toNat, leBytes 2 pkt.userId.toNat,
    leBytes 1 pkt.actionId.toNat, leBytes 4 pkt.challenge.toNat, pad HMAC_SIZE pkt.hmac,
    leBytes 2 pkt.payloadLen.toNat, pad V1_PAYLOAD_MAX pkt.payload]

theorem fieldsV1_sized (pkt : KnockCodecV1.Packet) :
    (fieldsV1 pkt).map List.length = sizesV1 := by
  simp only [fieldsV1, sizesV1, List.map_cons, List.map_nil, length_leBytes, length_pad]

theorem packWire_fieldsV1 (pkt : KnockCodecV1.Packet) :
    KnockCodecV1.packWire pkt PACKET_SIZE = some (fieldsV1 pkt).flatten := by
  unfold KnockCodecV1.packWire fieldsV1
  rw [if_neg (lt_irrefl _)]
  simp [List.append_assoc]

theorem unpackWire_fieldsV1 (pkt : KnockCodecV1.Packet) :
    KnockCodecV1.unpackWire (fieldsV1 pkt).flatten =
      some { pkt with
        hmac := pad HMAC_SIZE pkt.hmac, payload := pad V1_PAYLOAD_MAX pkt.payload } := by
  have field := @slice_laid _ _ (fieldsV1_sized pkt)
  have version := field 0 _ 0 1 rfl rfl rfl
  have timestamp := field 1 _ 1 4 rfl rfl rfl
  have userId := field 2 _ 5 2 rfl rfl rfl
  have actionId := field 3 _ 7 1 rfl rfl rfl
  have challenge := field 4 _ 8 4 rfl rfl rfl
  have hmac := field 5 _ 12 HMAC_SIZE rfl rfl rfl
  have payloadLen := field 6 _ 44 2 rfl rfl rfl
  have payload := field 7 _ 46 V1_PAYLOAD_MAX rfl rfl rfl
  rw [leBytes_one] at version actionId
  have whole : ¬ (fieldsV1 pkt).flatten.length < PACKET_SIZE := by
    rw [length_laid (fieldsV1_sized pkt)]
    decide
  unfold KnockCodecV1.unpackWire
  rw [if_neg whole, byteAt_of_slice version, readU32Le_of_slice timestamp,
    readU16Le_of_slice userId, byteAt_of_slice actionId, readU32Le_of_slice challenge, hmac,
    readU16Le_of_slice payloadLen, payload]

def sentV1 (normal : NormalizedUnit) (hmac : Bytes) : KnockCodecV1.Packet :=
  ⟨1, normal.timestamp, normal.userId, normal.actionId, normal.challenge, hmac,
    UInt16.ofNat normal.payload.length, normal.payload⟩

def digestV1 (normal : NormalizedUnit) : KnockPacket :=
  ⟨1, normal.timestamp, normal.userId, normal.actionId, normal.challenge,
    List.replicate HMAC_SIZE 0, normal.payload⟩

theorem deserializeWire_sentV1 {now : ℤ} {normal : NormalizedUnit} (hmac : Bytes)
    (fits : normal.payload.length ≤ V1_PAYLOAD_MAX) (window : Fresh now normal.timestamp) :
    KnockCodecV1.deserializeWire now (fieldsV1 (sentV1 normal hmac)).flatten =
      some { sentV1 normal hmac with
        hmac := pad HMAC_SIZE hmac, payload := pad V1_PAYLOAD_MAX normal.payload } := by
  have length := payloadLen_toNat fits (by decide)
  have dated : ¬ (now + KnockCodecV1.TIMESTAMP_FUZZ < normal.timestamp.toNat ∨
      (normal.timestamp.toNat : ℤ) < now - KnockCodecV1.TIMESTAMP_FUZZ) :=
    not_or.mpr ⟨not_lt.mpr window.2, not_lt.mpr window.1⟩
  have valid : KnockCodecV1.validateWire now { sentV1 normal hmac with
      hmac := pad HMAC_SIZE hmac, payload := pad V1_PAYLOAD_MAX normal.payload } = true := by
    unfold KnockCodecV1.validateWire sentV1
    dsimp only
    rw [length, if_neg (not_not.mpr rfl), if_neg (Nat.not_lt.mpr fits), if_neg dated]
  unfold KnockCodecV1.deserializeWire
  rw [unpackWire_fieldsV1, Option.filter_some]
  exact if_pos valid

theorem normalize_sentV1 {now : ℤ} {normal : NormalizedUnit} (hmac : Bytes)
    (fits : normal.payload.length ≤ V1_PAYLOAD_MAX) (window : Fresh now normal.timestamp)
    (ingress : Ingress) :
    KnockCodecV1.normalize now (fieldsV1 (sentV1 normal hmac)).flatten ingress.ip
      ingress.clientPort normal.encrypted = some (packedUnit V1_VERSION 0 normal hmac ingress) := by
  have length := payloadLen_toNat fits (by decide)
  unfold KnockCodecV1.normalize
  rw [deserializeWire_sentV1 hmac fits window, Option.map_some]
  unfold sentV1 packedUnit
  dsimp only
  rw [length, take_pad fits]
  rfl

variable {client server : CodecEnv} {random : Entropy} {normal : NormalizedUnit} {out : Bytes}

theorem encodeV1_wire (encoded : KnockCodecV1.encode client random normal
      NORMALIZED_PACKET_BUFFER_SIZE = some out) :
    normal.payload.length ≤ V1_PAYLOAD_MAX ∧ ∃ hmac,
      outgoingHmac client normal.wireAuth (generate client.hash (digestV1 normal)) normal.hmac =
        some hmac ∧
      encryptPacked client random normal.encrypted NORMALIZED_PACKET_BUFFER_SIZE
        (fieldsV1 (sentV1 normal hmac)).flatten = some out := by
  unfold KnockCodecV1.encode at encoded
  split at encoded
  · contradiction
  split at encoded
  · contradiction
  rename_i fits
  simp only [Option.bind_eq_bind, Option.bind_eq_some_iff] at encoded
  obtain ⟨hmac, signature, packed, packs, encrypts⟩ := encoded
  rw [← sentV1, packWire_fieldsV1] at packs
  obtain rfl := Option.some.inj packs
  exact ⟨Nat.not_lt.mp fits, hmac, signature, encrypts⟩

theorem detectV1_clear {hmac : Bytes} (fits : normal.payload.length ≤ V1_PAYLOAD_MAX)
    (window : Fresh server.now normal.timestamp) {ingress : Ingress}
    (received : ingress.buffer = (fieldsV1 (sentV1 normal hmac)).flatten) :
    KnockCodecV1.detect server ingress = some IngressIdentity.zero := by
  have whole : (fieldsV1 (sentV1 normal hmac)).flatten.length = PACKET_SIZE :=
    length_laid (fieldsV1_sized _)
  unfold KnockCodecV1.detect
  rw [received, if_pos ⟨whole, by rw [deserializeWire_sentV1 hmac fits window]; rfl⟩]

/-- What codec 1 sends, codec 1 reads, unless a secure receiver gets it in the clear. -/
theorem roundTripV1 (lawful : Lawful client.cipher) (peer : Peer client server)
    (encoded : KnockCodecV1.encode client random normal NORMALIZED_PACKET_BUFFER_SIZE = some out)
    (window : Fresh server.now normal.timestamp)
    (readable : normal.encrypted = false → server.context.serverSecure = false)
    {ingress : Ingress} (received : ingress.buffer = out) :
    ∃ hmac identity,
      outgoingHmac client normal.wireAuth (generate client.hash (digestV1 normal)) normal.hmac =
        some hmac ∧
      KnockCodecV1.detect server ingress = some identity ∧
      KnockCodecV1.decode server (configureIngressIdentity ingress identity) =
        some (packedUnit V1_VERSION 0 normal hmac ingress) := by
  obtain ⟨fits, hmac, signature, encrypts⟩ := encodeV1_wire encoded
  have parsed := deserializeWire_sentV1 hmac fits window
  have unit := normalize_sentV1 hmac fits window ingress
  have whole : (fieldsV1 (sentV1 normal hmac)).flatten.length = PACKET_SIZE :=
    length_laid (fieldsV1_sized _)
  rcases encryptPacked_received lawful peer encrypts with ⟨clear, rfl⟩ | ⟨secret, decrypted, longer⟩
  · refine ⟨hmac, IngressIdentity.zero, signature, detectV1_clear fits window received, ?_⟩
    rw [clear] at unit
    unfold KnockCodecV1.decode configureIngressIdentity IngressIdentity.zero
    dsimp only
    rw [if_neg Bool.false_ne_true, readable clear, if_neg Bool.false_ne_true, received]
    exact unit
  · have detected : KnockCodecV1.detect server ingress =
        some { IngressIdentity.zero with encrypted := true } := by
      unfold KnockCodecV1.detect
      rw [received, if_neg (fun plain => by omega), decrypted]
      exact if_pos ⟨whole, by rw [parsed]; rfl⟩
    refine ⟨hmac, _, signature, detected, ?_⟩
    rw [secret] at unit
    unfold KnockCodecV1.decode configureIngressIdentity IngressIdentity.zero
    dsimp only
    rw [if_pos rfl, received, decrypted]
    exact unit

end V1

section V2

open KnockCodecV2

def sizesV2 : List ℕ := [4, 4, 1, 4, 2, 1, 4, HMAC_SIZE, 2, V2_FORM1_PAYLOAD_MAX]

def fieldsV2 (pkt : KnockCodecV2.Packet) : List Bytes :=
  [writeU32Be pkt.magic, writeU32Be pkt.version, [pkt.form], writeU32Be pkt.timestamp,
    writeU16Be pkt.userId, [pkt.actionId], writeU32Be pkt.challenge, pad HMAC_SIZE pkt.hmac,
    writeU16Be pkt.payloadLen, pad V2_FORM1_PAYLOAD_MAX (pkt.payload.take pkt.payloadLen.toNat)]

theorem fieldsV2_sized (pkt : KnockCodecV2.Packet) :
    (fieldsV2 pkt).map List.length = sizesV2 := by
  simp only [fieldsV2, sizesV2, List.map_cons, List.map_nil, length_writeU32Be, length_writeU16Be,
    length_pad, List.length_singleton]

theorem pack_fieldsV2 {pkt : KnockCodecV2.Packet}
    (fits : pkt.payloadLen.toNat ≤ V2_FORM1_PAYLOAD_MAX) :
    KnockCodecV2.pack pkt FORM1_PACKET_SIZE = some (fieldsV2 pkt).flatten := by
  unfold KnockCodecV2.pack fieldsV2
  rw [if_neg (lt_irrefl _), if_neg (Nat.not_lt.mpr fits)]
  simp [List.append_assoc]

theorem unpackWire_fieldsV2 (pkt : KnockCodecV2.Packet) :
    KnockCodecV2.unpackWire (fieldsV2 pkt).flatten =
      some { pkt with
        hmac := pad HMAC_SIZE pkt.hmac
        payload := pad V2_FORM1_PAYLOAD_MAX (pkt.payload.take pkt.payloadLen.toNat) } := by
  have field := @slice_laid _ _ (fieldsV2_sized pkt)
  have magic := field 0 _ 0 4 rfl rfl rfl
  have version := field 1 _ 4 4 rfl rfl rfl
  have form := field 2 _ 8 1 rfl rfl rfl
  have timestamp := field 3 _ 9 4 rfl rfl rfl
  have userId := field 4 _ 13 2 rfl rfl rfl
  have actionId := field 5 _ 15 1 rfl rfl rfl
  have challenge := field 6 _ 16 4 rfl rfl rfl
  have hmac := field 7 _ 20 HMAC_SIZE rfl rfl rfl
  have payloadLen := field 8 _ 52 2 rfl rfl rfl
  have payload := field 9 _ 54 V2_FORM1_PAYLOAD_MAX rfl rfl rfl
  have whole : ¬ (fieldsV2 pkt).flatten.length ≠ FORM1_PACKET_SIZE := by
    rw [length_laid (fieldsV2_sized pkt)]
    decide
  unfold KnockCodecV2.unpackWire
  rw [if_neg whole, readU32Be_of_slice magic, readU32Be_of_slice version, byteAt_of_slice form,
    readU32Be_of_slice timestamp, readU16Be_of_slice userId, byteAt_of_slice actionId,
    readU32Be_of_slice challenge, hmac, readU16Be_of_slice payloadLen, payload]

def sentV2 (normal : NormalizedUnit) (hmac : Bytes) : KnockCodecV2.Packet :=
  ⟨PREFIX_MAGIC, V2_WIRE_VERSION, FORM1_ID, normal.timestamp, normal.userId, normal.actionId,
    normal.challenge, hmac, UInt16.ofNat normal.payload.length, normal.payload⟩

def digestV2 (normal : NormalizedUnit) : V2Form1Packet :=
  ⟨PREFIX_MAGIC, V2_WIRE_VERSION, FORM1_ID, normal.timestamp, normal.userId, normal.actionId,
    normal.challenge, List.replicate HMAC_SIZE 0, normal.payload⟩

theorem deserializeWire_sentV2 {now : ℤ} {normal : NormalizedUnit} (hmac : Bytes)
    (fits : normal.payload.length ≤ V2_FORM1_PAYLOAD_MAX) (window : Fresh now normal.timestamp) :
    KnockCodecV2.deserializeWire now (fieldsV2 (sentV2 normal hmac)).flatten =
      some { sentV2 normal hmac with
        hmac := pad HMAC_SIZE hmac, payload := pad V2_FORM1_PAYLOAD_MAX normal.payload } := by
  have length := payloadLen_toNat fits (by decide)
  have dated : ¬ (now + KnockCodecV2.FORM1_TIMESTAMP_FUZZ < normal.timestamp.toNat ∨
      (normal.timestamp.toNat : ℤ) < now - KnockCodecV2.FORM1_TIMESTAMP_FUZZ) :=
    not_or.mpr ⟨not_lt.mpr window.2, not_lt.mpr window.1⟩
  have valid : KnockCodecV2.validateWire now { sentV2 normal hmac with
      hmac := pad HMAC_SIZE hmac, payload := pad V2_FORM1_PAYLOAD_MAX normal.payload } = true := by
    unfold KnockCodecV2.validateWire sentV2
    dsimp only
    rw [length, if_neg (not_not.mpr rfl), if_neg (not_not.mpr rfl), if_neg (not_not.mpr rfl),
      if_neg (Nat.not_lt.mpr fits), if_neg dated]
  unfold KnockCodecV2.deserializeWire
  rw [unpackWire_fieldsV2, Option.filter_some]
  unfold sentV2 at valid ⊢
  dsimp only at valid ⊢
  rw [length, List.take_length]
  exact if_pos valid

theorem normalize_sentV2 {now : ℤ} {normal : NormalizedUnit} (hmac : Bytes)
    (fits : normal.payload.length ≤ V2_FORM1_PAYLOAD_MAX) (window : Fresh now normal.timestamp)
    (ingress : Ingress) :
    KnockCodecV2.normalize now (fieldsV2 (sentV2 normal hmac)).flatten ingress.ip
      ingress.clientPort normal.encrypted =
      some (packedUnit V2_WIRE_VERSION FORM1_ID normal hmac ingress) := by
  have length := payloadLen_toNat fits (by decide)
  unfold KnockCodecV2.normalize
  rw [deserializeWire_sentV2 hmac fits window, Option.map_some]
  unfold sentV2 packedUnit
  dsimp only
  rw [length, take_pad fits]

variable {client server : CodecEnv} {random : Entropy} {normal : NormalizedUnit} {out : Bytes}

theorem encodeV2_wire (encoded : KnockCodecV2.encode client random normal
      NORMALIZED_PACKET_BUFFER_SIZE = some out) :
    normal.payload.length ≤ V2_FORM1_PAYLOAD_MAX ∧ ∃ hmac,
      outgoingHmac client normal.wireAuth (generateV2Form1 client.hash (digestV2 normal))
        normal.hmac = some hmac ∧
      encryptPacked client random normal.encrypted NORMALIZED_PACKET_BUFFER_SIZE
        (fieldsV2 (sentV2 normal hmac)).flatten = some out := by
  unfold KnockCodecV2.encode at encoded
  split at encoded
  · contradiction
  split at encoded
  · contradiction
  rename_i fits
  have short : normal.payload.length ≤ V2_FORM1_PAYLOAD_MAX := Nat.not_lt.mp fits
  simp only [Option.bind_eq_bind, Option.bind_eq_some_iff] at encoded
  obtain ⟨hmac, signature, packed, packs, encrypts⟩ := encoded
  have length : (sentV2 normal hmac).payloadLen.toNat ≤ V2_FORM1_PAYLOAD_MAX :=
    (payloadLen_toNat short (by decide)).le.trans short
  rw [← sentV2, pack_fieldsV2 length] at packs
  obtain rfl := Option.some.inj packs
  exact ⟨short, hmac, signature, encrypts⟩

theorem detectV2_clear {hmac : Bytes} (fits : normal.payload.length ≤ V2_FORM1_PAYLOAD_MAX)
    (window : Fresh server.now normal.timestamp) {ingress : Ingress}
    (received : ingress.buffer = (fieldsV2 (sentV2 normal hmac)).flatten) :
    KnockCodecV2.detect server ingress = some ⟨false, PREFIX_MAGIC, V2_WIRE_VERSION, FORM1_ID⟩ := by
  have whole : (fieldsV2 (sentV2 normal hmac)).flatten.length = FORM1_PACKET_SIZE :=
    length_laid (fieldsV2_sized _)
  unfold KnockCodecV2.detect
  rw [received, if_pos whole, deserializeWire_sentV2 hmac fits window]
  rfl

/-- What codec 2 sends, codec 2 reads, unless a secure receiver gets it in the clear. -/
theorem roundTripV2 (lawful : Lawful client.cipher) (peer : Peer client server)
    (encoded : KnockCodecV2.encode client random normal NORMALIZED_PACKET_BUFFER_SIZE = some out)
    (window : Fresh server.now normal.timestamp)
    (readable : normal.encrypted = false → server.context.serverSecure = false)
    {ingress : Ingress} (received : ingress.buffer = out) :
    ∃ hmac identity,
      outgoingHmac client normal.wireAuth (generateV2Form1 client.hash (digestV2 normal))
        normal.hmac = some hmac ∧
      KnockCodecV2.detect server ingress = some identity ∧
      KnockCodecV2.decode server (configureIngressIdentity ingress identity) =
        some (packedUnit V2_WIRE_VERSION FORM1_ID normal hmac ingress) := by
  obtain ⟨fits, hmac, signature, encrypts⟩ := encodeV2_wire encoded
  have parsed := deserializeWire_sentV2 hmac fits window
  have unit := normalize_sentV2 hmac fits window ingress
  have whole : (fieldsV2 (sentV2 normal hmac)).flatten.length = FORM1_PACKET_SIZE :=
    length_laid (fieldsV2_sized _)
  rcases encryptPacked_received lawful peer encrypts with ⟨clear, rfl⟩ | ⟨secret, decrypted, longer⟩
  · refine ⟨hmac, _, signature, detectV2_clear fits window received, ?_⟩
    rw [clear] at unit
    unfold KnockCodecV2.decode configureIngressIdentity
    dsimp only
    rw [if_neg Bool.false_ne_true, readable clear, if_neg Bool.false_ne_true, received]
    exact unit
  · have detected : KnockCodecV2.detect server ingress =
        some ⟨true, PREFIX_MAGIC, V2_WIRE_VERSION, FORM1_ID⟩ := by
      unfold KnockCodecV2.detect
      rw [received, if_neg (by omega), decrypted]
      dsimp only
      rw [if_neg (not_not.mpr whole), parsed]
      rfl
    refine ⟨hmac, _, signature, detected, ?_⟩
    rw [secret] at unit
    unfold KnockCodecV2.decode configureIngressIdentity
    dsimp only
    rw [if_pos rfl, received, decrypted]
    exact unit

end V2

end Siglatch.KnockPacked
