import Siglatch.DaemonTypes
import Siglatch.KnockDigest
import Siglatch.RequestPolicy

set_option autoImplicit false

namespace Siglatch.DaemonAuth
open MuxTypes AppConfig ByteOrder KnockDigest DaemonTypes RequestPolicy

/-- The user's keys replace those of whatever request used the session before. -/
def assignSessionToUser (session : OpenSSLSession) (user : User) : OpenSSLSession :=
  { session with hmacKey := user.hmacKey, hmacKeyLen := 32, publicKey := user.pubkey }

variable (hash : Hash)

def validateSignatureV1 (session : OpenSSLSession) (job : Job) : Bool :=
  if V1_PAYLOAD_MAX < job.request.payload.length then false
  else
    let pkt : KnockPacket := ⟨UInt8.ofNat job.wireVersion.toNat, job.timestamp, job.request.userId,
      job.request.actionId, job.request.challenge, List.replicate HMAC_SIZE 0,
      job.request.payload⟩
    match generate hash pkt with
    | none => false
    | some digest => validate hash session.hmacKey digest job.request.hmac

def validateSignatureV2 (session : OpenSSLSession) (job : Job) : Bool :=
  if V2_FORM1_PAYLOAD_MAX < job.request.payload.length then false
  else
    let pkt : V2Form1Packet := ⟨PREFIX_MAGIC, job.wireVersion, job.wireForm, job.timestamp,
      job.request.userId, job.request.actionId, job.request.challenge, job.request.hmac,
      job.request.payload⟩
    match generateV2Form1 hash pkt with
    | none => false
    | some digest => validate hash session.hmacKey digest job.request.hmac

def normalOfJob (job : Job) : NormalizedUnit :=
  { NormalizedUnit.zero with
    wireVersion := job.wireVersion, wireForm := job.wireForm, timestamp := job.timestamp
    userId := job.request.userId, actionId := job.request.actionId
    challenge := job.request.challenge, payload := job.request.payload, hmac := job.request.hmac }

def validateSignatureNormalized (generateForm1 : NormalizedUnit → Option Bytes)
    (session : OpenSSLSession) (job : Job) : Bool :=
  if NORMALIZED_PAYLOAD_MAX < job.request.payload.length then false
  else
    match generateForm1 (normalOfJob job) with
    | none => false
    | some digest => validate hash session.hmacKey digest job.request.hmac

def validateSignatureV3 (session : OpenSSLSession) (job : Job) : Bool :=
  validateSignatureNormalized hash (generateV3Form1 hash) session job

def validateSignatureV4 (session : OpenSSLSession) (job : Job) : Bool :=
  validateSignatureNormalized hash (generateV4Form1 hash) session job

def validateSignature (session : OpenSSLSession) (job : Job) : Bool :=
  if job.wireVersion = V1_VERSION ∨ job.wireVersion = 0 then validateSignatureV1 hash session job
  else if job.wireVersion = V2_WIRE_VERSION then validateSignatureV2 hash session job
  else if job.wireVersion = V3_WIRE_VERSION then validateSignatureV3 hash session job
  else if job.wireVersion = V4_WIRE_VERSION then validateSignatureV4 hash session job
  else false

def bindUserAction (config : Option Config) (listener : Listener) (job : Job)
    (session : OpenSSLSession) : OpenSSLSession × Option (User × Action) :=
  if listener.server = none then (session, none)
  else
    match userById config job.request.userId.toUInt32 with
    | none => (session, none)
    | some user =>
      let session := assignSessionToUser session user
      match actionById config job.request.actionId.toUInt32 with
      | none => (session, none)
      | some action => (session, some (user, action))

structure Authorized where
  ok : Bool
  session : OpenSSLSession
  job : Job

def authorize (config : Option Config) (session : OpenSSLSession) (job : Job) : Authorized :=
  let job := { job with wireAuth := false }
  if job.wireVersion = 0 then ⟨true, session, { job with wireAuth := true }⟩
  else
    match userById config job.request.userId.toUInt32 with
    | none => ⟨false, session, job⟩
    | some user =>
      let session := assignSessionToUser session user
      if !validateSignature hash session job then ⟨false, session, job⟩
      else ⟨true, session, { job with wireAuth := true }⟩

def enforce (config : Option Config) (listener : Listener) (job : Job) (user : User)
    (action : Action) : Bool :=
  match listener.server with
  | none => false
  | some server =>
    if !server.actionAvailable action.name then false
    else if !actionAvailableByUser config job.request.userId.toUInt32 action.name then false
    else if !action.enabled then false
    else if !job.wireAuth && action.enforceWireAuth then false
    else if !requestIpAllowed server user action job.ip then false
    else true

/-- The bytes that the signature of a request covers, which depend on its wire version. -/
def signedMessage (job : Job) : Option Bytes :=
  let request := job.request
  let fields := leBytes 4 job.timestamp.toNat ++ leBytes 2 request.userId.toNat ++
    leBytes 1 request.actionId.toNat ++ leBytes 4 request.challenge.toNat
  let length := request.payload.length
  if job.wireVersion = V1_VERSION then
    if length ≤ V1_PAYLOAD_MAX then
      some (leBytes 1 1 ++ fields ++ leBytes 2 length ++ request.payload)
    else none
  else if job.wireVersion = V2_WIRE_VERSION then
    if length ≤ V2_FORM1_PAYLOAD_MAX then
      some (leBytes 4 job.wireVersion.toNat ++ fields ++ leBytes 2 length ++ request.payload)
    else none
  else if job.wireVersion = V3_WIRE_VERSION ∨ job.wireVersion = V4_WIRE_VERSION then
    if job.wireForm = FORM1_ID ∧ length ≤ NORMALIZED_PAYLOAD_MAX then
      some (leBytes 4 job.wireVersion.toNat ++ leBytes 1 job.wireForm.toNat ++ fields ++
        leBytes 8 length ++ request.payload)
    else none
  else none

def SignedBy (hmacKey : Bytes) (job : Job) : Prop :=
  ∃ message, signedMessage job = some message ∧
    job.request.hmac = sign hash hmacKey (hash.sha256 message)

theorem signedBy_any_iff (hmacKey : Bytes) (job : Job) :
    ((signedMessage job).any fun message =>
      job.request.hmac == sign hash hmacKey (hash.sha256 message)) = true ↔
      SignedBy hash hmacKey job := by
  rw [Option.any_eq_true]
  simp only [beq_iff_eq]
  exact Iff.rfl

instance (hmacKey : Bytes) (job : Job) : Decidable (SignedBy hash hmacKey job) :=
  decidable_of_iff _ (signedBy_any_iff hash hmacKey job)

theorem validateSignatureV1_iff (session : OpenSSLSession) {job : Job}
    (version : job.wireVersion = V1_VERSION) :
    validateSignatureV1 hash session job = true ↔ SignedBy hash session.hmacKey job := by
  unfold validateSignatureV1 SignedBy signedMessage generate
  by_cases fits : job.request.payload.length ≤ V1_PAYLOAD_MAX
  · have short : ¬ V1_PAYLOAD_MAX < job.request.payload.length := Nat.not_lt.mpr fits
    simp only [short, version, fits, if_true, if_false, validate_iff, Option.some.injEq,
      exists_eq_left', List.append_assoc]
    rfl
  · have long : V1_PAYLOAD_MAX < job.request.payload.length := Nat.lt_of_not_le fits
    simp [long, version, fits]

theorem validateSignatureV2_iff (session : OpenSSLSession) {job : Job}
    (version : job.wireVersion = V2_WIRE_VERSION) :
    validateSignatureV2 hash session job = true ↔ SignedBy hash session.hmacKey job := by
  have other : ¬ V2_WIRE_VERSION = V1_VERSION := by decide
  unfold validateSignatureV2 SignedBy signedMessage generateV2Form1
  by_cases fits : job.request.payload.length ≤ V2_FORM1_PAYLOAD_MAX
  · have short : ¬ V2_FORM1_PAYLOAD_MAX < job.request.payload.length := Nat.not_lt.mpr fits
    simp only [short, version, other, fits, if_true, if_false, validate_iff, Option.some.injEq,
      exists_eq_left', List.append_assoc]
  · have long : V2_FORM1_PAYLOAD_MAX < job.request.payload.length := Nat.lt_of_not_le fits
    simp [long, version, other, fits]

theorem validateSignatureNormalized_iff (session : OpenSSLSession) {job : Job} {version : UInt32}
    (current : job.wireVersion = version)
    (form1 : version = V3_WIRE_VERSION ∨ version = V4_WIRE_VERSION) :
    validateSignatureNormalized hash (generateForm1 hash version) session job = true ↔
      SignedBy hash session.hmacKey job := by
  have notV1 : ¬ version = V1_VERSION := by rcases form1 with rfl | rfl <;> decide
  have notV2 : ¬ version = V2_WIRE_VERSION := by rcases form1 with rfl | rfl <;> decide
  unfold validateSignatureNormalized SignedBy signedMessage generateForm1 normalOfJob
  by_cases fits : job.request.payload.length ≤ NORMALIZED_PAYLOAD_MAX
  · have short : ¬ NORMALIZED_PAYLOAD_MAX < job.request.payload.length := Nat.not_lt.mpr fits
    by_cases form : job.wireForm = FORM1_ID
    · simp only [short, current, notV1, notV2, form1, form, fits, ne_eq, not_true_eq_false,
        and_self, if_true, if_false, validate_iff, Option.some.injEq, exists_eq_left',
        List.append_assoc]
    · simp [short, current, notV1, notV2, form1, form]
  · have long : NORMALIZED_PAYLOAD_MAX < job.request.payload.length := Nat.lt_of_not_le fits
    simp [long, current, notV1, notV2, form1, fits]

/-- Only the key in the session takes part in the decision on a structured request. -/
theorem validateSignature_iff (session : OpenSSLSession) {job : Job}
    (structured : job.wireVersion ≠ 0) :
    validateSignature hash session job = true ↔ SignedBy hash session.hmacKey job := by
  unfold validateSignature
  split
  · rename_i version
    exact validateSignatureV1_iff hash session (version.resolve_right structured)
  · rename_i notV1
    split
    · exact validateSignatureV2_iff hash session ‹_›
    · split
      · exact validateSignatureNormalized_iff hash session ‹_› (Or.inl rfl)
      · split
        · exact validateSignatureNormalized_iff hash session ‹_› (Or.inr rfl)
        · rename_i notV2 notV3 notV4
          have unsupported : signedMessage job = none := by
            unfold signedMessage
            simp [not_or.mp notV1, notV2, notV3, notV4]
          simp [SignedBy, unsupported]

theorem bindUserAction_some (config : Option Config) (listener : Listener) (job : Job)
    (session : OpenSSLSession) (user : User) (action : Action) :
    (bindUserAction config listener job session).2 = some (user, action) ↔
      listener.server ≠ none ∧ userById config job.request.userId.toUInt32 = some user ∧
        actionById config job.request.actionId.toUInt32 = some action := by
  unfold bindUserAction
  by_cases listening : listener.server = none
  · simp [listening]
  · cases userById config job.request.userId.toUInt32 with
    | none => simp [listening]
    | some u =>
      cases actionById config job.request.actionId.toUInt32 with
      | none => simp [listening]
      | some a => simp [listening]

theorem authorize_structured (config : Option Config) (session : OpenSSLSession) {job : Job}
    (structured : job.wireVersion ≠ 0) {user : User}
    (known : userById config job.request.userId.toUInt32 = some user) :
    ((authorize hash config session job).ok = true ↔ SignedBy hash user.hmacKey job) ∧
    ((authorize hash config session job).ok = true →
      (authorize hash config session job).job = { job with wireAuth := true }) := by
  have decision := @validateSignature_iff hash (assignSessionToUser session user)
    { job with wireAuth := false } structured
  have unread : SignedBy hash (assignSessionToUser session user).hmacKey
      { job with wireAuth := false } ↔ SignedBy hash user.hmacKey job := Iff.rfl
  rw [unread] at decision
  unfold authorize
  simp only [structured, if_false, known]
  by_cases valid : validateSignature hash (assignSessionToUser session user)
      { job with wireAuth := false } = true
  · simp [valid, decision.mp valid]
  · simp [valid, mt decision.mpr valid]

theorem enforce_iff (config : Option Config) (listener : Listener) {job : Job} {user : User}
    (action : Action) (known : userById config job.request.userId.toUInt32 = some user)
    (authorized : job.wireAuth = true) :
    enforce config listener job user action = true ↔ ∃ server, listener.server = some server ∧
      action.name ∈ server.actions ∧ action.name ∈ user.actions ∧ action.enabled = true ∧
      Admits server.allowedIps job.ip ∧ Admits user.allowedIps job.ip ∧
      Admits action.allowedIps job.ip := by
  unfold enforce
  cases listener.server with
  | none => simp
  | some server =>
    simp only [Option.some.injEq, exists_eq_left', ← requestIpAllowed_iff,
      ← Server.actionAvailable_iff, ← actionAvailableByUser_iff known, authorized]
    by_cases offered : server.actionAvailable action.name = true
    · by_cases granted :
          actionAvailableByUser config job.request.userId.toUInt32 action.name = true
      · simp [offered, granted]
      · simp [offered, granted]
    · simp [offered]

end Siglatch.DaemonAuth
