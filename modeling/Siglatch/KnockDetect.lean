import Siglatch.MuxEncryption

set_option autoImplicit false

namespace Siglatch.KnockDetect
open MuxTypes ByteOrder KnockDigest KnockCodec KnockSealed MuxAdapter MuxEncryption

def PREFIX_SIZE : ℕ := 9
def V1_TIMESTAMP_FUZZ : ℤ := 300

inductive RouteKind where
  | unknown
  | v1Legacy
  | v2Form1
  | v3Form1
  | v4Form1
  deriving DecidableEq

structure RoutingInfo where
  kind : RouteKind
  version : UInt32
  form : UInt8
  expectedPacketSize : ℕ
  exactSizeRequired : Bool
  identifiedByPrefix : Bool
  deriving DecidableEq

def v1Unpack (buf : Bytes) : Option KnockCodecV1.Packet :=
  if buf.length < KnockCodecV1.PACKET_SIZE then none
  else some {
    version := byteAt buf 0
    timestamp := readU32Le buf 1
    userId := readU16Le buf 5
    actionId := byteAt buf 7
    challenge := readU32Le buf 8
    hmac := slice 12 HMAC_SIZE buf
    payloadLen := readU16Le buf 44
    payload := slice 46 V1_PAYLOAD_MAX buf }

def v1Validate (now : ℤ) (pkt : KnockCodecV1.Packet) : Bool :=
  if pkt.version.toNat ≠ V1_VERSION.toNat then false
  else if V1_PAYLOAD_MAX < pkt.payloadLen.toNat then false
  else if now + V1_TIMESTAMP_FUZZ < pkt.timestamp.toNat ∨
      (pkt.timestamp.toNat : ℤ) < now - V1_TIMESTAMP_FUZZ then false
  else true

def v1Deserialize (now : ℤ) (buf : Bytes) : Option KnockCodecV1.Packet :=
  (v1Unpack buf).filter (v1Validate now)

def prefixed (wireVersion : UInt32) (buf : Bytes) : Bool :=
  decide (readU32Be buf 0 = PREFIX_MAGIC ∧ readU32Be buf 4 = wireVersion ∧
    byteAt buf 8 = FORM1_ID)

/-- The branch of a sealed form, which ends the detection whatever it finds. -/
def detectSealed (layout : Layout) (kind : RouteKind) (buf : Bytes) : Option RoutingInfo :=
  let wrappedCekLen := (readU16Be buf 9).toNat
  let ciphertextLen := (readU32Be buf 23).toNat
  let expectedSize := HEADER_SIZE + wrappedCekLen + ciphertextLen + TAG_SIZE
  if CEK_MAX < wrappedCekLen ∨ wrappedCekLen = 0 ∨ layout.bodyMax < ciphertextLen ∨
      ciphertextLen < layout.bodyFixedSize then none
  else if buf.length ≠ expectedSize then none
  else some ⟨kind, readU32Be buf 4, byteAt buf 8, expectedSize, true, true⟩

def detect (now : ℤ) (buf : Bytes) : Option RoutingInfo :=
  if HEADER_SIZE ≤ buf.length ∧ prefixed V4_WIRE_VERSION buf then
    detectSealed KnockCodecV4.form1 .v4Form1 buf
  else if HEADER_SIZE ≤ buf.length ∧ prefixed V3_WIRE_VERSION buf then
    detectSealed KnockCodecV3.form1 .v3Form1 buf
  else if PREFIX_SIZE ≤ buf.length ∧ prefixed V2_WIRE_VERSION buf then
    some ⟨.v2Form1, readU32Be buf 4, byteAt buf 8, KnockCodecV2.FORM1_PACKET_SIZE, true, true⟩
  else if buf.length = KnockCodecV1.PACKET_SIZE then
    (v1Deserialize now buf).map fun pkt =>
      ⟨.v1Legacy, pkt.version.toUInt32, 0, KnockCodecV1.PACKET_SIZE, true, false⟩
  else none

def detectKind (now : ℤ) (buf : Bytes) : RouteKind :=
  match detect now buf with
  | none => .unknown
  | some info => info.kind

section Forms

variable (now : ℤ) (buf : Bytes)

def Timely (timestamp : UInt32) : Prop :=
  ¬ (now + 300 < timestamp.toNat ∨ (timestamp.toNat : ℤ) < now - 300)

/-- A legacy packet: no prefix, only its size, first byte, length field and date. -/
structure FormV1 : Prop where
  size : buf.length = 245
  version : byteAt buf 0 = 1
  payload : (readU16Le buf 44).toNat ≤ V1_PAYLOAD_MAX
  timely : Timely now (readU32Le buf 1)

structure FormV2 : Prop where
  size : buf.length = 245
  headed : prefixed V2_WIRE_VERSION buf = true
  payload : (readU16Be buf 52).toNat ≤ V2_FORM1_PAYLOAD_MAX
  timely : Timely now (readU32Be buf 9)

structure FormSealed (layout : Layout) : Prop where
  headed : prefixed layout.wireVersion buf = true
  wrapped : (readU16Be buf 9).toNat ≠ 0 ∧ (readU16Be buf 9).toNat ≤ CEK_MAX
  body : layout.bodyFixedSize ≤ (readU32Be buf 23).toNat ∧
    (readU32Be buf 23).toNat ≤ layout.bodyMax
  size : buf.length =
    HEADER_SIZE + (readU16Be buf 9).toNat + (readU32Be buf 23).toNat + TAG_SIZE

end Forms

section Readers

variable {now : ℤ} {buf : Bytes}

theorem prefixed_iff {wireVersion : UInt32} : prefixed wireVersion buf = true ↔
    readU32Be buf 0 = PREFIX_MAGIC ∧ readU32Be buf 4 = wireVersion ∧ byteAt buf 8 = FORM1_ID :=
  decide_eq_true_iff

theorem prefixed_version {version other : UInt32} (headed : prefixed version buf = true)
    (also : prefixed other buf = true) : version = other :=
  (prefixed_iff.mp headed).2.1.symm.trans (prefixed_iff.mp also).2.1

/-- The first byte of the magic is the letter S. -/
theorem prefixed_first {wireVersion : UInt32} (headed : prefixed wireVersion buf = true)
    (long : 4 ≤ buf.length) : byteAt buf 0 = 0x53 := by
  obtain ⟨a, b, c, d, rest, rfl⟩ : ∃ a b c d rest, buf = a :: b :: c :: d :: rest := by
    rcases buf with _ | ⟨a, _ | ⟨b, _ | ⟨c, _ | ⟨d, rest⟩⟩⟩⟩
    · simp at long
    · simp at long
    · simp at long
    · simp at long
    · exact ⟨a, b, c, d, rest, rfl⟩
  have magic := congrArg UInt32.toNat (prefixed_iff.mp headed).1
  have value : beValue (slice 0 4 (a :: b :: c :: d :: rest)) =
      d.toNat + 256 * (c.toNat + 256 * (b.toNat + 256 * (a.toNat + 256 * 0))) := rfl
  have letters : PREFIX_MAGIC.toNat = 0x534C504B := by decide
  rw [readU32Be, value, letters, UInt32.toNat_ofNat'] at magic
  have ha := a.toNat_lt
  have hb := b.toNat_lt
  have hc := c.toNat_lt
  have hd := d.toNat_lt
  apply UInt8.toNat_inj.mp
  change a.toNat = 83
  omega

theorem validateSealed_iff {layout : Layout} {pkt : Form1Packet} :
    validateWire layout pkt = true ↔
      (pkt.magic = PREFIX_MAGIC ∧ pkt.version = layout.wireVersion ∧ pkt.form = FORM1_ID) ∧
      (pkt.wrappedCek.length ≠ 0 ∧ pkt.wrappedCek.length ≤ CEK_MAX) ∧
      layout.bodyFixedSize ≤ pkt.ciphertext.length ∧ pkt.ciphertext.length ≤ layout.bodyMax := by
  unfold validateWire
  constructor
  · intro valid
    split at valid
    · contradiction
    split at valid
    · contradiction
    split at valid
    · contradiction
    split at valid
    · contradiction
    split at valid
    · contradiction
    rename_i magic version form wrapped body
    exact ⟨⟨not_not.mp magic, not_not.mp version, not_not.mp form⟩, by omega, by omega⟩
  · rintro ⟨⟨magic, version, form⟩, wrapped, body⟩
    rw [if_neg (not_not.mpr magic), if_neg (not_not.mpr version), if_neg (not_not.mpr form),
      if_neg (by omega), if_neg (by omega)]

/-- What the fields of a sealed packet are once the lengths in its header are in order. -/
theorem unpackSealed_iff {layout : Layout} {pkt : Form1Packet} :
    unpackWire layout buf = some pkt ↔
      ((readU16Be buf 9).toNat ≠ 0 ∧ (readU16Be buf 9).toNat ≤ CEK_MAX) ∧
      (layout.bodyFixedSize ≤ (readU32Be buf 23).toNat ∧
        (readU32Be buf 23).toNat ≤ layout.bodyMax) ∧
      buf.length =
        HEADER_SIZE + (readU16Be buf 9).toNat + (readU32Be buf 23).toNat + TAG_SIZE ∧
      pkt = {
        magic := readU32Be buf 0
        version := readU32Be buf 4
        form := byteAt buf 8
        wrappedCek := slice HEADER_SIZE (readU16Be buf 9).toNat buf
        nonce := slice 11 NONCE_SIZE buf
        ciphertext := slice (HEADER_SIZE + (readU16Be buf 9).toNat) (readU32Be buf 23).toNat buf
        tag := slice (HEADER_SIZE + (readU16Be buf 9).toNat + (readU32Be buf 23).toNat)
          TAG_SIZE buf } := by
  unfold unpackWire
  dsimp only
  constructor
  · intro unpacked
    split at unpacked
    · contradiction
    split at unpacked
    · contradiction
    split at unpacked
    · contradiction
    split at unpacked
    · contradiction
    exact ⟨by omega, by omega, by omega, (Option.some.inj unpacked).symm⟩
  · rintro ⟨wrapped, body, size, rfl⟩
    rw [if_neg (by omega), if_neg (by omega), if_neg (by omega), if_neg (by omega)]

theorem deserializeSealed_iff {layout : Layout} :
    (deserializeWire layout buf).isSome = true ↔ FormSealed buf layout := by
  constructor
  · intro accepted
    obtain ⟨pkt, accepted⟩ := Option.isSome_iff_exists.mp accepted
    obtain ⟨unpacked, valid⟩ := Option.filter_eq_some_iff.mp accepted
    obtain ⟨wrapped, body, size, rfl⟩ := unpackSealed_iff.mp unpacked
    exact ⟨prefixed_iff.mpr (validateSealed_iff.mp valid).1, wrapped, body, size⟩
  · intro form
    have size := form.size
    have cek : (slice HEADER_SIZE (readU16Be buf 9).toNat buf).length =
        (readU16Be buf 9).toNat := by
      rw [slice, List.length_take, List.length_drop]
      omega
    have text : (slice (HEADER_SIZE + (readU16Be buf 9).toNat) (readU32Be buf 23).toNat
        buf).length = (readU32Be buf 23).toNat := by
      rw [slice, List.length_take, List.length_drop]
      omega
    refine Option.isSome_iff_exists.mpr ⟨_, Option.filter_eq_some_iff.mpr
      ⟨unpackSealed_iff.mpr ⟨form.wrapped, form.body, size, rfl⟩, ?_⟩⟩
    apply validateSealed_iff.mpr
    dsimp only
    rw [cek, text]
    exact ⟨prefixed_iff.mp form.headed, form.wrapped, form.body⟩

theorem deserializeV2_iff :
    (KnockCodecV2.deserializeWire now buf).isSome = true ↔ FormV2 now buf := by
  unfold KnockCodecV2.deserializeWire KnockCodecV2.unpackWire
  by_cases size : buf.length = KnockCodecV2.FORM1_PACKET_SIZE
  · rw [if_neg (not_not.mpr size), Option.isSome_filter, Option.any_some]
    unfold KnockCodecV2.validateWire
    dsimp only
    constructor
    · intro valid
      split at valid
      · contradiction
      split at valid
      · contradiction
      split at valid
      · contradiction
      split at valid
      · contradiction
      split at valid
      · contradiction
      rename_i magic version form payload timely
      exact ⟨size, prefixed_iff.mpr ⟨not_not.mp magic, not_not.mp version, not_not.mp form⟩,
        not_lt.mp payload, timely⟩
    · intro form
      obtain ⟨magic, version, named⟩ := prefixed_iff.mp form.headed
      rw [if_neg (not_not.mpr magic), if_neg (not_not.mpr version), if_neg (not_not.mpr named),
        if_neg (not_lt.mpr form.payload)]
      exact if_neg form.timely
  · rw [if_pos size]
    exact iff_of_false (by simp) fun form => size form.size

theorem deserializeV1_iff (size : buf.length = KnockCodecV1.PACKET_SIZE) :
    (KnockCodecV1.deserializeWire now buf).isSome = true ↔ FormV1 now buf := by
  unfold KnockCodecV1.deserializeWire KnockCodecV1.unpackWire
  rw [if_neg (by omega), Option.isSome_filter, Option.any_some]
  unfold KnockCodecV1.validateWire
  dsimp only
  constructor
  · intro valid
    split at valid
    · contradiction
    split at valid
    · contradiction
    split at valid
    · contradiction
    rename_i version payload timely
    exact ⟨size, not_not.mp version, not_lt.mp payload, timely⟩
  · intro form
    rw [if_neg (not_not.mpr form.version), if_neg (not_lt.mpr form.payload)]
    exact if_neg form.timely

theorem v1Deserialize_eq : v1Deserialize now buf = KnockCodecV1.deserializeWire now buf := by
  have same : v1Validate now = KnockCodecV1.validateWire now := by
    funext pkt
    have one : V1_VERSION.toNat = (1 : UInt8).toNat := by decide
    have version : pkt.version.toNat ≠ V1_VERSION.toNat ↔ pkt.version ≠ 1 := by
      rw [one]
      exact not_congr UInt8.toNat_inj
    unfold v1Validate KnockCodecV1.validateWire
    simp only [version]
    rfl
  unfold v1Deserialize KnockCodecV1.deserializeWire
  rw [same]
  rfl

end Readers

section Detector

variable {now : ℤ} {buf : Bytes}

theorem formSealed_long {layout : Layout} (form : FormSealed buf layout) :
    HEADER_SIZE ≤ buf.length := by
  have size := form.size
  omega

theorem detectSealed_some {layout : Layout} {kind : RouteKind}
    (headed : prefixed layout.wireVersion buf = true) :
    (FormSealed buf layout ∧ ∃ info, detectSealed layout kind buf = some info ∧
      info.kind = kind) ∨
    (¬ FormSealed buf layout ∧ detectSealed layout kind buf = none) := by
  unfold detectSealed
  dsimp only
  split
  · rename_i lengths
    refine .inr ⟨fun form => ?_, rfl⟩
    have wrapped := form.wrapped
    have body := form.body
    omega
  · rename_i lengths
    split
    · rename_i size
      exact .inr ⟨fun form => size form.size, rfl⟩
    · rename_i size
      exact .inl ⟨⟨headed, by omega, by omega, not_not.mp size⟩, _, rfl, rfl⟩

theorem prefixed_not_v1 {wireVersion : UInt32} (headed : prefixed wireVersion buf = true) :
    ¬ FormV1 now buf := by
  intro form
  have first := prefixed_first headed (by rw [form.size]; decide)
  rw [form.version] at first
  contradiction

theorem prefixed_not_sealed {wireVersion : UInt32} {layout : Layout}
    (headed : prefixed wireVersion buf = true) (differ : layout.wireVersion ≠ wireVersion) :
    ¬ FormSealed buf layout :=
  fun form => differ (prefixed_version form.headed headed)

def BeginsV2 (buf : Bytes) : Prop :=
  PREFIX_SIZE ≤ buf.length ∧ prefixed V2_WIRE_VERSION buf = true

theorem prefixed_not_v2 {wireVersion : UInt32} (headed : prefixed wireVersion buf = true)
    (differ : V2_WIRE_VERSION ≠ wireVersion) : ¬ BeginsV2 buf :=
  fun begins => differ (prefixed_version begins.2 headed)

def Routed (now : ℤ) (buf : Bytes) : RouteKind → Prop
  | .v1Legacy => FormV1 now buf
  | .v2Form1 => BeginsV2 buf
  | .v3Form1 => FormSealed buf KnockCodecV3.form1
  | .v4Form1 => FormSealed buf KnockCodecV4.form1
  | .unknown => ¬ FormV1 now buf ∧ ¬ BeginsV2 buf ∧ ¬ FormSealed buf KnockCodecV3.form1 ∧
      ¬ FormSealed buf KnockCodecV4.form1

theorem detectKind_of_some {info : RoutingInfo} (found : detect now buf = some info) :
    detectKind now buf = info.kind := by
  unfold detectKind
  rw [found]

theorem detectKind_of_none (found : detect now buf = none) :
    detectKind now buf = .unknown := by
  unfold detectKind
  rw [found]

/-- The detector reports a kind only for a buffer of that kind. -/
theorem detectKind_routed (now : ℤ) (buf : Bytes) : Routed now buf (detectKind now buf) := by
  by_cases v4 : HEADER_SIZE ≤ buf.length ∧ prefixed V4_WIRE_VERSION buf = true
  · have branch : detect now buf = detectSealed KnockCodecV4.form1 .v4Form1 buf := if_pos v4
    rcases @detectSealed_some buf KnockCodecV4.form1 .v4Form1 v4.2 with
      ⟨form, info, found, kind⟩ | ⟨other, found⟩
    · rw [detectKind_of_some (branch.trans found), kind]
      exact form
    · rw [detectKind_of_none (branch.trans found)]
      exact ⟨prefixed_not_v1 v4.2, prefixed_not_v2 v4.2 (by decide),
        prefixed_not_sealed v4.2 (by decide), other⟩
  by_cases v3 : HEADER_SIZE ≤ buf.length ∧ prefixed V3_WIRE_VERSION buf = true
  · have branch : detect now buf = detectSealed KnockCodecV3.form1 .v3Form1 buf :=
      (if_neg v4).trans (if_pos v3)
    rcases @detectSealed_some buf KnockCodecV3.form1 .v3Form1 v3.2 with
      ⟨form, info, found, kind⟩ | ⟨other, found⟩
    · rw [detectKind_of_some (branch.trans found), kind]
      exact form
    · rw [detectKind_of_none (branch.trans found)]
      exact ⟨prefixed_not_v1 v3.2, prefixed_not_v2 v3.2 (by decide), other,
        prefixed_not_sealed v3.2 (by decide)⟩
  by_cases v2 : PREFIX_SIZE ≤ buf.length ∧ prefixed V2_WIRE_VERSION buf = true
  · rw [detectKind_of_some ((if_neg v4).trans ((if_neg v3).trans (if_pos v2)))]
    exact v2
  have not_v4 : ¬ FormSealed buf KnockCodecV4.form1 :=
    fun form => v4 ⟨formSealed_long form, form.headed⟩
  have not_v3 : ¬ FormSealed buf KnockCodecV3.form1 :=
    fun form => v3 ⟨formSealed_long form, form.headed⟩
  by_cases size : buf.length = KnockCodecV1.PACKET_SIZE
  · have branch : detect now buf = (v1Deserialize now buf).map fun pkt =>
        ⟨.v1Legacy, pkt.version.toUInt32, 0, KnockCodecV1.PACKET_SIZE, true, false⟩ :=
      (if_neg v4).trans ((if_neg v3).trans ((if_neg v2).trans (if_pos size)))
    cases legacy : v1Deserialize now buf with
    | some pkt =>
      rw [legacy] at branch
      rw [detectKind_of_some branch]
      rw [v1Deserialize_eq] at legacy
      exact (deserializeV1_iff size).mp (by rw [legacy]; rfl)
    | none =>
      rw [legacy] at branch
      rw [detectKind_of_none branch]
      rw [v1Deserialize_eq] at legacy
      refine ⟨fun form => ?_, v2, not_v3, not_v4⟩
      have taken := (deserializeV1_iff size).mpr form
      rw [legacy] at taken
      contradiction
  · rw [detectKind_of_none
      ((if_neg v4).trans ((if_neg v3).trans ((if_neg v2).trans (if_neg size))))]
    exact ⟨fun form => size form.size, v2, not_v3, not_v4⟩

/-- A buffer is of one kind at most. -/
theorem routed_unique {kind other : RouteKind} (h : Routed now buf kind)
    (also : Routed now buf other) : kind = other := by
  have v3v2 (form : FormSealed buf KnockCodecV3.form1) : ¬ BeginsV2 buf :=
    prefixed_not_v2 form.headed (by decide)
  have v4v2 (form : FormSealed buf KnockCodecV4.form1) : ¬ BeginsV2 buf :=
    prefixed_not_v2 form.headed (by decide)
  have v4v3 (form : FormSealed buf KnockCodecV4.form1) : ¬ FormSealed buf KnockCodecV3.form1 :=
    prefixed_not_sealed form.headed (by decide)
  have v2v1 (begins : BeginsV2 buf) : ¬ FormV1 now buf := prefixed_not_v1 begins.2
  have v3v1 (form : FormSealed buf KnockCodecV3.form1) : ¬ FormV1 now buf :=
    prefixed_not_v1 form.headed
  have v4v1 (form : FormSealed buf KnockCodecV4.form1) : ¬ FormV1 now buf :=
    prefixed_not_v1 form.headed
  cases kind with
  | unknown =>
    cases other with
    | unknown => rfl
    | v1Legacy => exact absurd also h.1
    | v2Form1 => exact absurd also h.2.1
    | v3Form1 => exact absurd also h.2.2.1
    | v4Form1 => exact absurd also h.2.2.2
  | v1Legacy =>
    cases other with
    | unknown => exact absurd h also.1
    | v1Legacy => rfl
    | v2Form1 => exact absurd h (v2v1 also)
    | v3Form1 => exact absurd h (v3v1 also)
    | v4Form1 => exact absurd h (v4v1 also)
  | v2Form1 =>
    cases other with
    | unknown => exact absurd h also.2.1
    | v1Legacy => exact absurd also (v2v1 h)
    | v2Form1 => rfl
    | v3Form1 => exact absurd h (v3v2 also)
    | v4Form1 => exact absurd h (v4v2 also)
  | v3Form1 =>
    cases other with
    | unknown => exact absurd h also.2.2.1
    | v1Legacy => exact absurd also (v3v1 h)
    | v2Form1 => exact absurd also (v3v2 h)
    | v3Form1 => rfl
    | v4Form1 => exact absurd h (v4v3 also)
  | v4Form1 =>
    cases other with
    | unknown => exact absurd h also.2.2.2
    | v1Legacy => exact absurd also (v4v1 h)
    | v2Form1 => exact absurd also (v4v2 h)
    | v3Form1 => exact absurd also (v4v3 h)
    | v4Form1 => rfl

theorem detectKind_iff {kind : RouteKind} : detectKind now buf = kind ↔ Routed now buf kind := by
  constructor
  · intro found
    rw [← found]
    exact detectKind_routed now buf
  · exact routed_unique (detectKind_routed now buf)

end Detector

section Codecs

variable {env : CodecEnv} {ingress : Ingress}

def NoPrivateKey (env : CodecEnv) : Prop :=
  ∀ serverKey, env.context.serverKey = some serverKey → serverKey.privateKey = none

theorem privateDecrypt_none (keyless : NoPrivateKey env) (input : Bytes) :
    privateDecrypt env input = none := by
  unfold privateDecrypt
  cases known : env.context.serverKey with
  | none => rfl
  | some serverKey =>
    change (serverKey.privateKey.bind fun key =>
      if env.cipher.keySize key = 0 then none else env.cipher.decrypt key input) = none
    rw [keyless serverKey known]
    rfl

theorem codecV1_detect_iff (keyless : NoPrivateKey env) :
    (codecV1.detect env ingress).isSome = true ↔ FormV1 env.now ingress.buffer := by
  change (KnockCodecV1.detect env ingress).isSome = true ↔ _
  unfold KnockCodecV1.detect
  rw [privateDecrypt_none keyless]
  split
  · rename_i taken
    exact iff_of_true rfl ((deserializeV1_iff taken.1).mp taken.2)
  · rename_i refused
    refine iff_of_false (by simp) fun form => refused ⟨form.size, ?_⟩
    exact (deserializeV1_iff form.size).mpr form

theorem codecV2_detect_iff (keyless : NoPrivateKey env) :
    (codecV2.detect env ingress).isSome = true ↔ FormV2 env.now ingress.buffer := by
  change (KnockCodecV2.detect env ingress).isSome = true ↔ _
  unfold KnockCodecV2.detect
  rw [privateDecrypt_none keyless]
  by_cases size : ingress.buffer.length = KnockCodecV2.FORM1_PACKET_SIZE
  · rw [if_pos size, ← deserializeV2_iff]
    cases KnockCodecV2.deserializeWire env.now ingress.buffer with
    | none => exact Iff.rfl
    | some pkt => exact Iff.rfl
  · rw [if_neg size]
    exact iff_of_false (by simp) fun form => size form.size

theorem codecV3_detect_iff :
    (codecV3.detect env ingress).isSome = true ↔ FormSealed ingress.buffer KnockCodecV3.form1 := by
  rw [← deserializeSealed_iff]
  change ((deserializeWire KnockCodecV3.form1 ingress.buffer).map _).isSome = true ↔ _
  rw [Option.isSome_map]

theorem codecV4_detect_iff :
    (codecV4.detect env ingress).isSome = true ↔ FormSealed ingress.buffer KnockCodecV4.form1 := by
  rw [← deserializeSealed_iff]
  change ((deserializeWire KnockCodecV4.form1 ingress.buffer).map _).isSome = true ↔ _
  rw [Option.isSome_map]

theorem formV2_begins (form : FormV2 env.now ingress.buffer) : BeginsV2 ingress.buffer :=
  ⟨by rw [form.size]; decide, form.headed⟩

def routes : List (RouteKind × Adapter) :=
  [(.v1Legacy, codecV1), (.v2Form1, codecV2), (.v3Form1, codecV3), (.v4Form1, codecV4)]

theorem routes_adapter {adapter : Adapter} (registry : adapter ∈ adapters) :
    ∃ kind, (kind, adapter) ∈ routes := by
  rcases adapters_cases registry with rfl | rfl | rfl | rfl
  · exact ⟨.v1Legacy, .head _⟩
  · exact ⟨.v2Form1, .tail _ (.head _)⟩
  · exact ⟨.v3Form1, .tail _ (.tail _ (.head _))⟩
  · exact ⟨.v4Form1, .tail _ (.tail _ (.tail _ (.head _)))⟩

theorem routes_unique {kind : RouteKind} {adapter other : Adapter}
    (h : (kind, adapter) ∈ routes) (also : (kind, other) ∈ routes) : adapter = other := by
  simp only [routes, List.mem_cons, List.not_mem_nil, or_false, Prod.mk.injEq] at h also
  rcases h with ⟨rfl, rfl⟩ | ⟨rfl, rfl⟩ | ⟨rfl, rfl⟩ | ⟨rfl, rfl⟩ <;>
    simp at also <;> exact also.symm

theorem claimed_routed (keyless : NoPrivateKey env) {kind : RouteKind} {adapter : Adapter}
    (route : (kind, adapter) ∈ routes) (taken : (adapter.detect env ingress).isSome = true) :
    Routed env.now ingress.buffer kind := by
  simp only [routes, List.mem_cons, List.not_mem_nil, or_false, Prod.mk.injEq] at route
  rcases route with ⟨rfl, rfl⟩ | ⟨rfl, rfl⟩ | ⟨rfl, rfl⟩ | ⟨rfl, rfl⟩
  · exact (codecV1_detect_iff keyless).mp taken
  · exact formV2_begins ((codecV2_detect_iff keyless).mp taken)
  · exact codecV3_detect_iff.mp taken
  · exact codecV4_detect_iff.mp taken

theorem claimed_unique (keyless : NoPrivateKey env) {adapter other : Adapter}
    (registry : adapter ∈ adapters) (among : other ∈ adapters)
    (taken : (adapter.detect env ingress).isSome = true)
    (also : (other.detect env ingress).isSome = true) : adapter = other := by
  obtain ⟨kind, route⟩ := routes_adapter registry
  obtain ⟨second, further⟩ := routes_adapter among
  obtain rfl := routed_unique (claimed_routed keyless route taken)
    (claimed_routed keyless further also)
  exact routes_unique route further

theorem findSome?_unique {α β : Type*} {f : α → Option β} {l : List α}
    (unique : ∀ a ∈ l, ∀ b ∈ l, (f a).isSome = true → (f b).isSome = true → f a = f b) (b : β) :
    l.findSome? f = some b ↔ ∃ a ∈ l, f a = some b := by
  constructor
  · exact List.exists_of_findSome?_eq_some
  · rintro ⟨a, member, found⟩
    cases first : l.findSome? f with
    | none =>
      have missed := List.findSome?_eq_none_iff.mp first a member
      rw [found] at missed
      contradiction
    | some c =>
      obtain ⟨a', member', found'⟩ := List.exists_of_findSome?_eq_some first
      have same := unique a member a' member' (by rw [found]; rfl) (by rw [found']; rfl)
      rw [found, found'] at same
      exact same.symm

/-- Without a private key the order of registration does not matter. -/
theorem one_codec_claims (env : CodecEnv) (keyless : NoPrivateKey env) (ingress : Ingress) :
    (∀ adapter ∈ adapters, ∀ other ∈ adapters, (adapter.detect env ingress).isSome = true →
      (other.detect env ingress).isSome = true → adapter = other) ∧
    ∀ registry : List Adapter, registry.Perm adapters →
      demuxOver registry env ingress = demux env ingress ∧
      ∀ adapter identity, demuxOver registry env ingress = some (adapter, identity) ↔
        adapter ∈ adapters ∧ adapter.detect env ingress = some identity := by
  have unique : ∀ adapter ∈ adapters, ∀ other ∈ adapters,
      (adapter.detect env ingress).isSome = true → (other.detect env ingress).isSome = true →
      adapter = other :=
    fun _ registry _ among taken also => claimed_unique keyless registry among taken also
  have chosen (registry : List Adapter) (order : registry.Perm adapters) (adapter : Adapter)
      (identity : IngressIdentity) :
      demuxOver registry env ingress = some (adapter, identity) ↔
        adapter ∈ adapters ∧ adapter.detect env ingress = some identity := by
    unfold demuxOver
    rw [findSome?_unique]
    · constructor
      · rintro ⟨member, registered, found⟩
        obtain ⟨detected, taken, same⟩ := Option.map_eq_some_iff.mp found
        obtain ⟨rfl, rfl⟩ := Prod.mk.inj same
        exact ⟨order.mem_iff.mp registered, taken⟩
      · rintro ⟨registered, taken⟩
        exact ⟨adapter, order.mem_iff.mpr registered, by rw [taken]; rfl⟩
    · intro a ha b hb taken also
      rw [Option.isSome_map] at taken also
      rw [unique a (order.mem_iff.mp ha) b (order.mem_iff.mp hb) taken also]
  refine ⟨unique, fun registry order => ⟨?_, chosen registry order⟩⟩
  apply Option.ext
  rintro ⟨adapter, identity⟩
  exact (chosen registry order adapter identity).trans
    (chosen adapters (List.Perm.refl adapters) adapter identity).symm

theorem clearRequest_keyless : NoPrivateKey clearRequest.env := fun _ known => nomatch known

/-- Registered in the reverse order, the codecs still give the legacy request to codec 1. -/
theorem one_codec_claims_reversed :
    demuxOver adapters.reverse clearRequest.env clearRequest.raw =
      some (codecV1, IngressIdentity.zero) :=
  (((one_codec_claims clearRequest.env clearRequest_keyless clearRequest.raw).2 adapters.reverse
    (List.reverse_perm adapters)).2 codecV1 IngressIdentity.zero).mpr
    ⟨List.mem_cons_self, by decide +kernel⟩

/-- The detector routes to a codec exactly what the codec takes for its own. -/
def RecognisersAgree (env : CodecEnv) (ingress : Ingress) : Prop :=
  (∀ kind adapter, (kind, adapter) ∈ routes →
    (detectKind env.now ingress.buffer = kind ↔ (adapter.detect env ingress).isSome = true)) ∧
  (detectKind env.now ingress.buffer = .unknown ↔
    ∀ adapter ∈ adapters, adapter.detect env ingress = none)

/-- A buffer of the one size of version 2, with a length field in range and a current date. -/
def WholeV2 (now : ℤ) (buf : Bytes) : Prop :=
  buf.length = KnockCodecV2.FORM1_PACKET_SIZE ∧
  (readU16Be buf 52).toNat ≤ V2_FORM1_PAYLOAD_MAX ∧
  now - 300 ≤ (readU32Be buf 9).toNat ∧ ((readU32Be buf 9).toNat : ℤ) ≤ now + 300

theorem formV2_iff {now : ℤ} {buf : Bytes} : FormV2 now buf ↔ BeginsV2 buf ∧ WholeV2 now buf := by
  constructor
  · intro form
    have timely := form.timely
    unfold Timely at timely
    exact ⟨⟨by rw [form.size]; decide, form.headed⟩, form.size, form.payload, by omega, by omega⟩
  · rintro ⟨⟨-, headed⟩, size, payload, low, high⟩
    exact ⟨size, headed, payload, by unfold Timely; omega⟩

theorem recognisers_agree_iff (env : CodecEnv) (keyless : NoPrivateKey env) (ingress : Ingress) :
    RecognisersAgree env ingress ↔
      (BeginsV2 ingress.buffer → WholeV2 env.now ingress.buffer) := by
  have v1 := @codecV1_detect_iff env ingress keyless
  have v2 := @codecV2_detect_iff env ingress keyless
  have v3 := @codecV3_detect_iff env ingress
  have v4 := @codecV4_detect_iff env ingress
  constructor
  · rintro ⟨agree, -⟩ begins
    have routed : detectKind env.now ingress.buffer = .v2Form1 := detectKind_iff.mpr begins
    have taken := (agree .v2Form1 codecV2 (.tail _ (.head _))).mp routed
    exact (formV2_iff.mp (v2.mp taken)).2
  · intro whole
    have second : BeginsV2 ingress.buffer ↔ FormV2 env.now ingress.buffer :=
      ⟨fun begins => formV2_iff.mpr ⟨begins, whole begins⟩, formV2_begins⟩
    refine ⟨?_, ?_⟩
    · intro kind adapter route
      rw [detectKind_iff]
      simp only [routes, List.mem_cons, List.not_mem_nil, or_false, Prod.mk.injEq] at route
      rcases route with ⟨rfl, rfl⟩ | ⟨rfl, rfl⟩ | ⟨rfl, rfl⟩ | ⟨rfl, rfl⟩
      · exact v1.symm
      · exact second.trans v2.symm
      · exact v3.symm
      · exact v4.symm
    · rw [detectKind_iff]
      have none_iff (adapter : Adapter) : adapter.detect env ingress = none ↔
          ¬ (adapter.detect env ingress).isSome = true := by
        rw [Option.isSome_iff_ne_none, not_not]
      simp only [adapters, List.forall_mem_cons, List.not_mem_nil, false_imp_iff, implies_true,
        and_true, none_iff]
      rw [v1, v2, v3, v4, ← second]
      exact Iff.rfl

theorem recognisers_agree_clear : RecognisersAgree clearRequest.env clearRequest.raw :=
  (recognisers_agree_iff clearRequest.env clearRequest_keyless clearRequest.raw).mpr
    fun begins => absurd begins.2 (by decide +kernel)

def bareV2 : Ingress :=
  { Ingress.zero with buffer := [0x53, 0x4C, 0x50, 0x4B, 0, 2, 0, 0, 1] }

theorem recognisers_disagree :
    ¬ ∀ env, NoPrivateKey env → ∀ ingress, RecognisersAgree env ingress := by
  intro agree
  have routed : detectKind clearRequest.env.now bareV2.buffer = .v2Form1 := by decide +kernel
  have taken := ((agree clearRequest.env clearRequest_keyless bareV2).1 .v2Form1 codecV2
    (.tail _ (.head _))).mp routed
  exact absurd taken (by decide +kernel)

end Codecs

end Siglatch.KnockDetect
