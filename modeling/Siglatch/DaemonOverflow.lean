import Siglatch.DaemonAscii
import Siglatch.KnockDetect

set_option autoImplicit false

namespace Siglatch.DaemonOverflow
open MuxTypes ByteOrder AppConfig AppConfigPolicy KnockDigest DaemonTypes KnockCodec KnockSealed
  KnockDetect MuxAdapter MuxNormalize DaemonPayload DaemonAllowlist DaemonAscii

inductive LegacyForm where
  | v1
  | v2
  deriving DecidableEq

/-- A structured packet that is as it should be up to its payload length. -/
def Overflowing : LegacyForm → Bytes → Prop
  | .v1, bytes => bytes.length = 245 ∧ byteAt bytes 0 = 1 ∧
      V1_PAYLOAD_MAX < (readU16Le bytes 44).toNat
  | .v2, bytes => bytes.length = 245 ∧ prefixed V2_WIRE_VERSION bytes = true ∧
      V2_FORM1_PAYLOAD_MAX < (readU16Be bytes 52).toNat

def requestedAction : LegacyForm → Bytes → UInt8
  | .v1, bytes => byteAt bytes 7
  | .v2, bytes => byteAt bytes 15

def clamped : LegacyForm → Bytes → Bytes
  | .v1, bytes => slice 0 44 bytes ++ (leBytes 2 V1_PAYLOAD_MAX ++ slice 46 V1_PAYLOAD_MAX bytes)
  | .v2, bytes => slice 0 52 bytes ++ (writeU16Be (UInt16.ofNat V2_FORM1_PAYLOAD_MAX) ++
      slice 54 V2_FORM1_PAYLOAD_MAX bytes)

structure Formless (now : ℤ) (buf : Bytes) : Prop where
  v1 : ¬ FormV1 now buf
  v2 : ¬ FormV2 now buf
  v3 : ¬ FormSealed buf KnockCodecV3.form1
  v4 : ¬ FormSealed buf KnockCodecV4.form1

/-- A plaintext comes in the clear, in a datagram that does not decrypt, or under the server's key,
in one that is no packet itself. -/
def Carries (env : CodecEnv) (encrypted : Bool) (buffer plaintext : Bytes) : Prop :=
  if encrypted then privateDecrypt env buffer = some plaintext ∧ Formless env.now buffer
  else buffer = plaintext ∧ privateDecrypt env buffer = none

section Formless

variable {form : LegacyForm} {bytes : Bytes}

theorem overflowing_formless (now : ℤ) (overflowing : Overflowing form bytes) :
    Formless now bytes := by
  cases form with
  | v1 =>
    obtain ⟨size, version, long⟩ := overflowing
    have unheaded (wireVersion : UInt32) : prefixed wireVersion bytes ≠ true := by
      intro headed
      have first := prefixed_first headed (by omega)
      rw [version] at first
      exact absurd first (by decide)
    exact ⟨fun is => absurd is.payload (by omega), fun is => unheaded _ is.headed,
      fun is => unheaded _ is.headed, fun is => unheaded _ is.headed⟩
  | v2 =>
    obtain ⟨size, headed, long⟩ := overflowing
    refine ⟨fun is => ?_, fun is => absurd is.payload (by omega), fun is => ?_, fun is => ?_⟩
    · have first := prefixed_first headed (by omega)
      rw [is.version] at first
      exact absurd first (by decide)
    · exact absurd (prefixed_version headed is.headed) (by decide)
    · exact absurd (prefixed_version headed is.headed) (by decide)

theorem clamped_ne (overflowing : Overflowing form bytes) : clamped form bytes ≠ bytes := by
  intro same
  cases form with
  | v1 =>
    obtain ⟨size, -, long⟩ := overflowing
    have front : (slice 0 44 bytes).length = 44 := length_slice (by omega)
    have field : slice 44 2 bytes = leBytes 2 (UInt16.ofNat V1_PAYLOAD_MAX).toNat := by
      rw [← same, clamped, slice_skip _ _ front.le, front]
      exact slice_head (leBytes 2 V1_PAYLOAD_MAX) _
    rw [readU16Le_of_slice field] at long
    exact absurd long (by decide)
  | v2 =>
    obtain ⟨size, -, long⟩ := overflowing
    have front : (slice 0 52 bytes).length = 52 := length_slice (by omega)
    have field : slice 52 2 bytes = writeU16Be (UInt16.ofNat V2_FORM1_PAYLOAD_MAX) := by
      rw [← same, clamped, slice_skip _ _ front.le, front]
      exact slice_head (writeU16Be (UInt16.ofNat V2_FORM1_PAYLOAD_MAX)) _
    rw [readU16Be_of_slice field] at long
    exact absurd long (by decide)

end Formless

section Lane

variable {env : CodecEnv} {ingress : Ingress}

theorem demux_formless (outside : Formless env.now ingress.buffer)
    (inside : ∀ plaintext, privateDecrypt env ingress.buffer = some plaintext →
      Formless env.now plaintext) : demux env ingress = none := by
  have v1 : codecV1.detect env ingress = none := by
    change KnockCodecV1.detect env ingress = none
    unfold KnockCodecV1.detect
    rw [if_neg fun taken => outside.v1 ((deserializeV1_iff taken.1).mp taken.2)]
    cases decrypted : privateDecrypt env ingress.buffer with
    | none => rfl
    | some plaintext =>
      exact if_neg fun taken =>
        (inside plaintext decrypted).v1 ((deserializeV1_iff taken.1).mp taken.2)
  have v2 : codecV2.detect env ingress = none := by
    have refuses {buf : Bytes} (formless : Formless env.now buf) :
        KnockCodecV2.deserializeWire env.now buf = none := by
      rw [← Option.not_isSome_iff_eq_none, deserializeV2_iff]
      exact formless.v2
    change KnockCodecV2.detect env ingress = none
    unfold KnockCodecV2.detect
    rw [refuses outside, ite_self]
    dsimp only
    cases decrypted : privateDecrypt env ingress.buffer with
    | none => rfl
    | some plaintext =>
      dsimp only
      rw [refuses (inside plaintext decrypted), Option.map_none, ite_self]
  have sealed {layout : Layout} (formless : ¬ FormSealed ingress.buffer layout) :
      KnockSealed.detect layout ingress = none := by
    unfold KnockSealed.detect
    rw [Option.map_eq_none_iff, ← Option.not_isSome_iff_eq_none, deserializeSealed_iff]
    exact formless
  have v3 : codecV3.detect env ingress = none := sealed outside.v3
  have v4 : codecV4.detect env ingress = none := sealed outside.v4
  unfold demux adapters
  simp only [List.findSome?_cons, v1, v2, v3, v4, Option.map_none, List.findSome?_nil]

theorem decode_user {adapter : Adapter} (registry : adapter ∈ adapters) {control after : Control}
    {p : RecvPacket} (decoded : adapter.decode env ingress control = (some p, after)) :
    p.user.isSome = true := by
  have handed : ∃ unit, adapterDecode ingress unit = some p := by
    rcases adapters_cases registry with rfl | rfl | rfl | rfl
    · exact ⟨_, (Prod.mk.inj decoded).1⟩
    · exact ⟨_, (Prod.mk.inj decoded).1⟩
    · exact ⟨_, (Prod.mk.inj decoded).1⟩
    · exact ⟨_, (Prod.mk.inj decoded).1⟩
  obtain ⟨unit, handed⟩ := handed
  obtain ⟨source, -, copied⟩ := adapterDecode_copied handed
  rw [copied.user]
  rfl

theorem normalize_userless {policy : PolicyEnforceEncryption} {control : Control} {p : RecvPacket}
    (made : (normalize policy env ingress control).1 = some p) (userless : p.user = none) :
    p.rawBytes = ingress.buffer := by
  rcases normalize_cases made with raw | ⟨adapter, identity, out, after, found, decoded, -, rfl⟩
  · unfold rawCopy at raw
    split at raw
    · cases raw
    · obtain rfl := Option.some.inj raw
      rfl
  · have user := decode_user (demux_some found).1 decoded
    rw [userless] at user
    cases user

variable {form : LegacyForm} {encrypted : Bool} {plaintext : Bytes}

theorem normalize_overflowing (policy : PolicyEnforceEncryption) (control : Control)
    (overflowing : Overflowing form plaintext)
    (carried : Carries env encrypted ingress.buffer plaintext) :
    normalize policy env ingress control = (rawCopy ingress, control) := by
  have formless := overflowing_formless env.now overflowing
  have untaken : demux env ingress = none := by
    unfold Carries at carried
    cases encrypted with
    | true =>
      rw [if_pos rfl] at carried
      apply demux_formless carried.2
      intro other decrypted
      rw [carried.1] at decrypted
      obtain rfl := Option.some.inj decrypted
      exact formless
    | false =>
      rw [if_neg Bool.false_ne_true] at carried
      obtain ⟨clear, unreadable⟩ := carried
      rw [← clear] at formless
      apply demux_formless formless
      intro other decrypted
      rw [unreadable] at decrypted
      cases decrypted
  unfold MuxNormalize.normalize
  rw [untaken]

theorem carries_inj {buffer other : Bytes} (carried : Carries env encrypted buffer plaintext)
    (same : Carries env encrypted buffer other) : plaintext = other := by
  unfold Carries at carried same
  cases encrypted with
  | true =>
    rw [if_pos rfl] at carried same
    exact Option.some.inj (carried.1.symm.trans same.1)
  | false =>
    rw [if_neg Bool.false_ne_true] at carried same
    exact carried.1.symm.trans same.1

end Lane

section Policy

variable (hash : Hash) (env : CodecEnv) (policy : PolicyEnforceEncryption) (control : Control)
  (config : PolicyConfig) (server : PolicyServer) (runtime : Runtime)

/-- What `payload_overflow` promises of a datagram that asks for an action, given the same datagram
with its payload length clamped. -/
structure Handled (actionId : UInt32) (ingress : Ingress) (clampedBuffer : Bytes) : Prop where
  resolved : resolvePayloadOverflowByAction (some config) (some server) actionId =
    effective config server actionId
  rejected : effective config server actionId = .reject → ∀ p job,
    (normalize policy env ingress control).1 = some p → loadFromNormal p = some job →
      RunsNothing hash (serving config runtime) job
  clamped : effective config server actionId = .clamp → normalize policy env ingress control =
    normalize policy env { ingress with buffer := clampedBuffer } control

variable {ingress : Ingress}

theorem rawCopy_runs_nothing_iff (fits : ingress.buffer.length ≤ NORMALIZED_PACKET_BUFFER_SIZE)
    (listening : runtime.listener.server = some server.toServer) :
    (∀ p job, rawCopy ingress = some p → loadFromNormal p = some job →
      RunsNothing hash (serving config runtime) job) ↔
    deaddropTaking (some config.served) server.toServer ingress.buffer = none := by
  obtain ⟨p, copied⟩ : ∃ p, rawCopy ingress = some p := by
    unfold rawCopy
    rw [if_neg (Nat.not_lt.mpr fits)]
    exact ⟨_, rfl⟩
  have bytes : p.wireVersion = 0 ∧ p.rawBytes = ingress.buffer := by
    unfold rawCopy at copied
    rw [if_neg (Nat.not_lt.mpr fits)] at copied
    obtain rfl := Option.some.inj copied
    exact ⟨rfl, rfl⟩
  obtain ⟨job, loaded, raw, payload⟩ : ∃ job, loadFromNormal p = some job ∧ job.wireVersion = 0 ∧
      job.request.payload = ingress.buffer := by
    unfold loadFromNormal
    rw [if_pos bytes.1]
    exact ⟨_, rfl, bytes.1, bytes.2⟩
  have served := @raw_runs_nothing_iff hash (serving config runtime) job server.toServer listening
    raw
  rw [payload] at served
  constructor
  · intro nothing
    exact served.mp (nothing p job copied loaded)
  · intro untaken other otherJob same load
    rw [copied] at same
    obtain rfl := Option.some.inj same
    rw [loaded] at load
    obtain rfl := Option.some.inj load
    exact served.mpr untaken

variable {form : LegacyForm} {encrypted : Bool} {plaintext : Bytes}

theorem normalize_clamped_ne {clampedBuffer : Bytes} (overflowing : Overflowing form plaintext)
    (carried : Carries env encrypted ingress.buffer plaintext)
    (resent : Carries env encrypted clampedBuffer (clamped form plaintext))
    (fits : ingress.buffer.length ≤ NORMALIZED_PACKET_BUFFER_SIZE) :
    normalize policy env ingress control ≠
      normalize policy env { ingress with buffer := clampedBuffer } control := by
  intro same
  rw [normalize_overflowing policy control overflowing carried] at same
  have copied : ∃ p, rawCopy ingress = some p ∧ p.user = none ∧ p.rawBytes = ingress.buffer := by
    unfold rawCopy
    rw [if_neg (Nat.not_lt.mpr fits)]
    exact ⟨_, rfl, rfl, rfl⟩
  obtain ⟨p, copied, userless, bytes⟩ := copied
  have made := congrArg Prod.fst same
  rw [copied] at made
  have buffer := normalize_userless made.symm userless
  rw [bytes] at buffer
  rw [buffer] at carried
  exact clamped_ne overflowing (carries_inj carried resent).symm

theorem rejected_untaken {actionId : UInt32} {clampedBuffer : Bytes}
    (overflowing : Overflowing form plaintext)
    (carried : Carries env encrypted ingress.buffer plaintext)
    (fits : ingress.buffer.length ≤ NORMALIZED_PACKET_BUFFER_SIZE)
    (listening : runtime.listener.server = some server.toServer)
    (handled : Handled hash env policy control config server runtime actionId ingress clampedBuffer)
    (reject : effective config server actionId = .reject) :
    deaddropTaking (some config.served) server.toServer ingress.buffer = none := by
  have rejected := handled.rejected reject
  rw [normalize_overflowing policy control overflowing carried] at rejected
  exact (rawCopy_runs_nothing_iff hash config server runtime fits listening).mp rejected

/-- No code asks for the policy. An overflowing packet is raw bytes to the daemon, which comes to
the same as a rejection exactly where no dead drop takes them, and never to a clamped packet. -/
theorem overflow_handled_iff {clampedBuffer : Bytes}
    (listening : runtime.listener.server = some server.toServer)
    (overflowing : Overflowing form plaintext)
    (carried : Carries env encrypted ingress.buffer plaintext)
    (resent : Carries env encrypted clampedBuffer (clamped form plaintext))
    (fits : ingress.buffer.length ≤ NORMALIZED_PACKET_BUFFER_SIZE) :
    Handled hash env policy control config server runtime
        (requestedAction form plaintext).toUInt32 ingress clampedBuffer ↔
      effective config server (requestedAction form plaintext).toUInt32 = .reject ∧
      deaddropTaking (some config.served) server.toServer ingress.buffer = none := by
  have outcome := normalize_overflowing policy control overflowing carried
  have nothing := rawCopy_runs_nothing_iff hash config server runtime fits listening
  have differs := normalize_clamped_ne env policy control overflowing carried resent fits
  constructor
  · intro handled
    rcases effective_cases config server (requestedAction form plaintext).toUInt32 with
      reject | clamp
    · exact ⟨reject, rejected_untaken hash env policy control config server runtime overflowing
        carried fits listening handled reject⟩
    · exact absurd (handled.clamped clamp) differs
  · rintro ⟨reject, untaken⟩
    refine ⟨resolve_effective, fun _ => ?_, fun clamp => ?_⟩
    · rw [outcome]
      exact nothing.mpr untaken
    · rw [reject] at clamp
      cases clamp

end Policy

section Sample

def keyHash : Hash := ⟨id, fun key _ => key⟩

def plainEnv : CodecEnv := ⟨KnockEncode.boxCipher, keyHash, KnockContext.create, none, 1000⟩

def overlong : Bytes :=
  writeU32Be PREFIX_MAGIC ++ writeU32Be V2_WIRE_VERSION ++ [FORM1_ID] ++ writeU32Be 1000 ++
    writeU16Be 3 ++ [7] ++ writeU32Be 99 ++ alice.hmacKey ++ writeU16Be 192 ++
    List.replicate V2_FORM1_PAYLOAD_MAX 0

def overlongIngress : Ingress := { Ingress.zero with buffer := overlong }

def catchAll : Deaddrop :=
  { mailbox with startsWith := [ascii ['S', 'L', 'P', 'K']], requireAscii := false }

def openServer : PolicyServer := ⟨{ frontServer with deaddrops := [mailbox.name] }, .inherit⟩

def openConfig (policy : PayloadOverflow) (rooted : policy ≠ .inherit)
    (deaddrops : List Deaddrop) : PolicyConfig :=
  ⟨policy, [alice], [⟨openDoor, false, .inherit⟩], [openServer], deaddrops, rooted⟩

def openRuntime : Runtime :=
  { frontRuntime with listener := ⟨3, 50000, [], some openServer.toServer⟩ }

theorem overlong_overflowing : Overflowing .v2 overlong := by
  refine ⟨?_, ?_, ?_⟩
  · decide +kernel
  · decide +kernel
  · decide +kernel

theorem overlong_carried : Carries plainEnv false overlongIngress.buffer overlong :=
  ⟨rfl, rfl⟩

theorem clamped_carried : Carries plainEnv false (clamped .v2 overlong) (clamped .v2 overlong) :=
  ⟨rfl, rfl⟩

/-- The clamped request is in order, and signed by alice. -/
example :
    (((normalize .any plainEnv { overlongIngress with buffer := clamped .v2 overlong }
        ⟨false⟩).1.bind loadFromNormal).map fun job =>
      DaemonAuth.validateSignature keyHash ⟨none, none, alice.hmacKey, HMAC_SIZE⟩ job) =
    some true := by
  decide +kernel

theorem overlong_fits : overlongIngress.buffer.length ≤ NORMALIZED_PACKET_BUFFER_SIZE := by
  decide +kernel

theorem overlong_rejected :
    Handled keyHash plainEnv .any ⟨false⟩ (openConfig .reject (by decide) [])
    openServer openRuntime (requestedAction .v2 overlong).toUInt32 overlongIngress
    (clamped .v2 overlong) :=
  (overflow_handled_iff keyHash plainEnv .any ⟨false⟩ (openConfig .reject (by decide) []) openServer
    openRuntime rfl overlong_overflowing overlong_carried clamped_carried overlong_fits).mpr
    ⟨by decide +kernel, by decide +kernel⟩

/-- Under `reject` the dead drop runs its script on the request; under `clamp` the request does not
get as far as its clamped twin. -/
theorem overlong_mishandled :
    ¬ Handled keyHash plainEnv .any ⟨false⟩ (openConfig .reject (by decide) [catchAll]) openServer
      openRuntime (requestedAction .v2 overlong).toUInt32 overlongIngress (clamped .v2 overlong) ∧
    ¬ Handled keyHash plainEnv .any ⟨false⟩ (openConfig .clamp (by decide) []) openServer
      openRuntime (requestedAction .v2 overlong).toUInt32 overlongIngress
        (clamped .v2 overlong) := by
  constructor
  · intro handled
    have untaken := rejected_untaken keyHash plainEnv .any ⟨false⟩ _ openServer openRuntime
      overlong_overflowing overlong_carried overlong_fits rfl handled (by decide +kernel)
    have taken : (deaddropTaking (some (openConfig .reject (by decide) [catchAll]).served)
      openServer.toServer overlongIngress.buffer).isSome = true := by decide +kernel
    rw [untaken] at taken
    cases taken
  · intro handled
    exact normalize_clamped_ne plainEnv .any ⟨false⟩ overlong_overflowing overlong_carried
      clamped_carried overlong_fits (handled.clamped (by decide +kernel))

end Sample

end Siglatch.DaemonOverflow
