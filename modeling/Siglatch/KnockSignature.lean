import Siglatch.DaemonAuth
import Siglatch.MuxRoundTrip

set_option autoImplicit false

namespace Siglatch.KnockSignature
open MuxTypes ByteOrder KnockDigest DaemonTypes DaemonAuth KnockCodec MuxAdapter MuxNormalize
open MuxEncryption KnockPacked MuxRoundTrip

section Host

/-- How a host lays out integers: its byte order, and the width of its `size_t`. -/
structure Host where
  bigEndian : Bool
  sizeWidth : ℕ
  wide : 2 ≤ sizeWidth

def Host.bytes (host : Host) (width value : ℕ) : Bytes :=
  if host.bigEndian then beBytes width value else leBytes width value

def modelHost : Host := ⟨false, 8, by decide⟩

theorem Host.bytes_length (host : Host) (width value : ℕ) :
    (host.bytes width value).length = width := by
  unfold Host.bytes
  split
  · exact length_beBytes width value
  · exact length_leBytes width value

theorem Host.bytes_inj (host : Host) {width first second : ℕ} (low : first < 256 ^ width)
    (high : second < 256 ^ width) (h : host.bytes width first = host.bytes width second) :
    first = second := by
  unfold Host.bytes at h
  split at h
  · rw [← beValue_beBytes_of_lt low, h, beValue_beBytes_of_lt high]
  · rw [← leValue_leBytes_of_lt low, h, leValue_leBytes_of_lt high]

end Host

section Message

def body (host : Host) (lengthWidth : ℕ) (job : Job) : Bytes :=
  host.bytes 4 job.timestamp.toNat ++ (host.bytes 2 job.request.userId.toNat ++
    (host.bytes 1 job.request.actionId.toNat ++ (host.bytes 4 job.request.challenge.toNat ++
      (host.bytes lengthWidth job.request.payload.length ++ job.request.payload))))

/-- The bytes that are hashed for a job on a host. An unstructured job is treated as one of version
1, with 0 in the byte of the version. -/
def digestMessage (host : Host) (job : Job) : Option Bytes :=
  let length := job.request.payload.length
  if job.wireVersion = V1_VERSION ∨ job.wireVersion = 0 then
    if length ≤ V1_PAYLOAD_MAX then some ([UInt8.ofNat job.wireVersion.toNat] ++ body host 2 job)
    else none
  else if job.wireVersion = V2_WIRE_VERSION then
    if length ≤ V2_FORM1_PAYLOAD_MAX then
      some (host.bytes 4 job.wireVersion.toNat ++ body host 2 job)
    else none
  else if job.wireVersion = V3_WIRE_VERSION ∨ job.wireVersion = V4_WIRE_VERSION then
    if job.wireForm = FORM1_ID ∧ length ≤ NORMALIZED_PAYLOAD_MAX then
      some (host.bytes 4 job.wireVersion.toNat ++ ([job.wireForm] ++ body host host.sizeWidth job))
    else none
  else none

theorem digestMessage_modelHost {job : Job} (structured : job.wireVersion ≠ 0) :
    digestMessage modelHost job = signedMessage job := by
  have little (width value : ℕ) : modelHost.bytes width value = leBytes width value := rfl
  have size : modelHost.sizeWidth = 8 := rfl
  have one : (1 : UInt8) = UInt8.ofNat V1_VERSION.toNat := rfl
  unfold digestMessage signedMessage body
  simp only [little, size, structured, or_false, List.append_assoc]
  split
  · rename_i version
    rw [version]
    rfl
  · simp only [leBytes_one]

theorem validateSignature_digest (hash : Hash) (session : OpenSSLSession) (job : Job) :
    validateSignature hash session job = true ↔ ∃ message,
      digestMessage modelHost job = some message ∧
      job.request.hmac = sign hash session.hmacKey (hash.sha256 message) := by
  by_cases structured : job.wireVersion = 0
  · have one (c : UInt8) : leBytes 1 c.toNat = [c] := leBytes_one c
    have little (width value : ℕ) : modelHost.bytes width value = leBytes width value := rfl
    unfold validateSignature validateSignatureV1 digestMessage generate body
    rw [if_pos (Or.inr structured), if_pos (Or.inr structured), structured]
    by_cases fits : job.request.payload.length ≤ V1_PAYLOAD_MAX
    · have short : ¬ V1_PAYLOAD_MAX < job.request.payload.length := Nat.not_lt.mpr fits
      simp only [short, fits, little, one, if_true, if_false, validate_iff, Option.some.injEq,
        exists_eq_left', List.append_assoc]
    · have long : V1_PAYLOAD_MAX < job.request.payload.length := Nat.lt_of_not_le fits
      simp [long, fits]
  · rw [digestMessage_modelHost structured]
    exact validateSignature_iff hash session structured

structure SameRequest (job other : Job) : Prop where
  wireVersion : job.wireVersion = other.wireVersion
  timestamp : job.timestamp = other.timestamp
  userId : job.request.userId = other.request.userId
  actionId : job.request.actionId = other.request.actionId
  challenge : job.request.challenge = other.request.challenge
  payload : job.request.payload = other.request.payload

/-- What the mux makes of an unstructured datagram has no timestamp. -/
def Dated (job : Job) : Prop := job.wireVersion = 0 → job.timestamp = 0

theorem raw_dated {raw : Ingress} {normal : RecvPacket} {job : Job}
    (copied : rawCopy raw = some normal)
    (queued : loadFromNormal normal = some job) : Dated job := by
  have raw := rawCopy_raw copied
  unfold loadFromNormal at queued
  dsimp only at queued
  rw [if_pos raw.version] at queued
  obtain rfl := Option.some.inj queued
  intro _
  exact raw.undated

theorem body_inj (host : Host) {lengthWidth : ℕ} {job other : Job}
    (version : job.wireVersion = other.wireVersion)
    (h : body host lengthWidth job = body host lengthWidth other) : SameRequest job other := by
  have width := host.bytes_length
  unfold body at h
  obtain ⟨timestamp, h⟩ := List.append_inj h (by rw [width, width])
  obtain ⟨userId, h⟩ := List.append_inj h (by rw [width, width])
  obtain ⟨actionId, h⟩ := List.append_inj h (by rw [width, width])
  obtain ⟨challenge, h⟩ := List.append_inj h (by rw [width, width])
  obtain ⟨-, payload⟩ := List.append_inj h (by rw [width, width])
  exact ⟨version,
    UInt32.toNat_inj.mp (host.bytes_inj job.timestamp.toNat_lt other.timestamp.toNat_lt timestamp),
    UInt16.toNat_inj.mp (host.bytes_inj job.request.userId.toNat_lt
      other.request.userId.toNat_lt userId),
    UInt8.toNat_inj.mp (host.bytes_inj job.request.actionId.toNat_lt
      other.request.actionId.toNat_lt actionId),
    UInt32.toNat_inj.mp (host.bytes_inj job.request.challenge.toNat_lt
      other.request.challenge.toNat_lt challenge), payload⟩

/-- Versions 2 to 4 put the whole number of the version in front. -/
def Long (version : UInt32) : Prop :=
  version = V2_WIRE_VERSION ∨ version = V3_WIRE_VERSION ∨ version = V4_WIRE_VERSION

theorem digestMessage_cases {host : Host} {job : Job} {message : Bytes}
    (h : digestMessage host job = some message) :
    ((job.wireVersion = V1_VERSION ∨ job.wireVersion = 0) ∧
      message = [UInt8.ofNat job.wireVersion.toNat] ++ body host 2 job) ∨
    (Long job.wireVersion ∧ ∃ form lengthWidth,
      form = (if job.wireVersion = V2_WIRE_VERSION then [] else [FORM1_ID]) ∧
      lengthWidth = (if job.wireVersion = V2_WIRE_VERSION then 2 else host.sizeWidth) ∧
      message = host.bytes 4 job.wireVersion.toNat ++ (form ++ body host lengthWidth job)) := by
  unfold digestMessage at h
  dsimp only at h
  split at h
  · rename_i short
    split at h
    · exact .inl ⟨short, (Option.some.inj h).symm⟩
    · contradiction
  split at h
  · rename_i version
    split at h
    · refine .inr ⟨.inl version, [], 2, (if_pos version).symm, (if_pos version).symm, ?_⟩
      exact (Option.some.inj h).symm
    · contradiction
  split at h
  · rename_i other version
    split at h
    · rename_i form
      refine .inr ⟨.inr version, [FORM1_ID], host.sizeWidth, (if_neg other).symm,
        (if_neg other).symm, ?_⟩
      rw [← form.1]
      exact (Option.some.inj h).symm
    · contradiction
  · contradiction

theorem long_bytes (host : Host) {version : UInt32} (long : Long version) :
    ∃ a b, (a ≠ 0 ∨ b ≠ 0) ∧ host.bytes 4 version.toNat = [0, a, b, 0] := by
  unfold Host.bytes
  rcases long with rfl | rfl | rfl
  all_goals
    split
    · exact ⟨_, 0, .inl (by decide), rfl⟩
    · exact ⟨0, _, .inr (by decide), rfl⟩

theorem short_differs {host : Host} {job other : Job} (dated : Dated job)
    (short : job.wireVersion = V1_VERSION ∨ job.wireVersion = 0) (long : Long other.wireVersion)
    (rest : Bytes) : [UInt8.ofNat job.wireVersion.toNat] ++ body host 2 job ≠
      host.bytes 4 other.wireVersion.toNat ++ rest := by
  obtain ⟨a, b, nonzero, laid⟩ := long_bytes host long
  intro same
  rw [laid] at same
  obtain ⟨first, same⟩ := List.cons.inj same
  rcases short with version | version
  · rw [version] at first
    exact absurd first (by decide)
  · have zeros : host.bytes 4 (0 : UInt32).toNat = [0, 0, 0, 0] := by
      unfold Host.bytes
      split <;> rfl
    unfold body at same
    rw [dated version, zeros] at same
    obtain ⟨second, same⟩ := List.cons.inj same
    obtain ⟨third, -⟩ := List.cons.inj same
    exact nonzero.elim (fun ne => ne second.symm) (fun ne => ne third.symm)

theorem digestMessage_inj {host : Host} {job other : Job} {message : Bytes} (dated : Dated job)
    (dated' : Dated other) (first : digestMessage host job = some message)
    (second : digestMessage host other = some message) : SameRequest job other := by
  rcases digestMessage_cases first with ⟨short, made⟩ |
      ⟨long, form, lengthWidth, formed, sized, made⟩ <;>
    rcases digestMessage_cases second with
      ⟨short', made'⟩ | ⟨long', form', lengthWidth', formed', sized', made'⟩
  · obtain ⟨version, bodies⟩ := List.append_inj (made.symm.trans made') rfl
    refine body_inj host ?_ bodies
    rcases short with version₁ | version₁ <;> rcases short' with version₂ | version₂ <;>
      rw [version₁, version₂] at version ⊢
    all_goals exact absurd version (by decide)
  · exact absurd (made.symm.trans made') (short_differs dated short long' _)
  · exact absurd (made'.symm.trans made) (short_differs dated' short' long _)
  · obtain ⟨version, rest⟩ := List.append_inj (made.symm.trans made')
      (by rw [host.bytes_length, host.bytes_length])
    have same : job.wireVersion = other.wireVersion := UInt32.toNat_inj.mp
      (host.bytes_inj job.wireVersion.toNat_lt other.wireVersion.toNat_lt version)
    rw [same, ← formed'] at formed
    rw [same, ← sized'] at sized
    rw [formed, sized] at rest
    exact body_inj host same (List.append_cancel_left rest)

end Message

section Accepted

variable {hash : Hash} {normal : NormalizedUnit} {job : Job} {digest : Bytes}

/-- The job asks for what the unit asks for, in the version and form that it arrives in. -/
structure Enqueued (wireVersion : UInt32) (normal : NormalizedUnit) (job : Job) : Prop where
  version : job.wireVersion = wireVersion
  form : job.wireForm = formOf wireVersion
  timestamp : job.timestamp = normal.timestamp
  userId : job.request.userId = normal.userId
  actionId : job.request.actionId = normal.actionId
  challenge : job.request.challenge = normal.challenge
  payload : job.request.payload = normal.payload

/-- Signer and verifier hash the same bytes. -/
theorem unitDigest_signed {adapter : Adapter} (member : adapter ∈ adapters)
    (same : Enqueued adapter.wireVersion normal job)
    (digested : unitDigest hash adapter.wireVersion normal = some digest) :
    ∃ message, signedMessage job = some message ∧ digest = hash.sha256 message := by
  obtain ⟨version, form, timestamp, userId, actionId, challenge, payload⟩ := same
  unfold signedMessage
  dsimp only
  rw [version, form, timestamp, userId, actionId, challenge, payload]
  rcases adapters_cases member with rfl | rfl | rfl | rfl
  · change generate hash (digestV1 normal) = some digest at digested
    unfold generate at digested
    split at digested
    · contradiction
    · rename_i fits
      exact ⟨_, if_pos (Nat.not_lt.mp fits), by
        rw [← Option.some.inj digested]
        simp only [digestV1, List.append_assoc]
        rfl⟩
  · change generateV2Form1 hash (digestV2 normal) = some digest at digested
    unfold generateV2Form1 at digested
    split at digested
    · contradiction
    · rename_i fits
      exact ⟨_, if_pos (Nat.not_lt.mp fits), by
        rw [← Option.some.inj digested]
        simp only [digestV2, List.append_assoc]
        rfl⟩
  all_goals
    change generateForm1 hash _ normal = some digest at digested
    unfold generateForm1 at digested
    split at digested
    · contradiction
    rename_i own
    split at digested
    · contradiction
    rename_i form1
    split at digested
    · contradiction
    rename_i fits
    rw [not_not.mp own, not_not.mp form1] at digested
    refine ⟨_, (if_neg (by decide)).trans ((if_neg (by decide)).trans ((if_pos (by decide)).trans
      (if_pos (And.intro rfl (Nat.not_lt.mp fits))))), ?_⟩
    rw [← Option.some.inj digested]
    simp only [List.append_assoc]
    rfl

variable {adapter : Adapter} {client server : CodecEnv} {send : SendPacket} {user : UserSendData}
  {ingress : Ingress} {p : RecvPacket}

theorem adapters_structured : ∀ adapter ∈ adapters, adapter.wireVersion ≠ 0 := by decide

theorem carried_job (member : adapter ∈ adapters) (carries : Carries adapter client send user p)
    {identity : IngressIdentity}
    (queued : loadFromNormal (handedOn ingress identity p) = some job) :
    Enqueued adapter.wireVersion (sendUnit send user) job ∧
      SentHmac client adapter.wireVersion send user job.request.hmac := by
  obtain ⟨hmac, sent, carried⟩ := carries.user
  unfold loadFromNormal handedOn at queued
  dsimp only at queued
  rw [carries.version, if_neg (adapters_structured adapter member), carried, Option.map_some]
    at queued
  obtain rfl := Option.some.inj queued
  exact ⟨⟨rfl, carries.form, carries.timestamp, rfl, rfl, rfl, rfl⟩, sent⟩

/-- What was signed when it was sent is accepted when it arrives. -/
theorem signature_accepted (member : adapter ∈ adapters)
    (exchange : Exchange adapter client server send user ingress)
    (authenticated : send.wireAuth = true) {identity : IngressIdentity} {control after : Control}
    (detected : adapter.detect server ingress = some identity)
    (decoded : adapter.decode server (configureIngressIdentity ingress identity) control =
      (some p, after))
    (queued : loadFromNormal (handedOn ingress identity p) = some job)
    {signer session : OpenSSLSession} (installed : client.session = some signer)
    (keyed : session.hmacKey = signer.hmacKey) :
    validateSignature client.hash session job = true := by
  have carries := decoded_carries member exchange detected decoded
  obtain ⟨same, sent⟩ := carried_job member carries queued
  obtain ⟨owner, digest, own, digested, signed⟩ := sent.2 authenticated
  obtain rfl := Option.some.inj (own.symm.trans installed)
  obtain ⟨message, made, rfl⟩ := unitDigest_signed member same digested
  refine (validateSignature_iff client.hash session ?_).mpr ⟨message, made, ?_⟩
  · rw [same.version]
    exact adapters_structured adapter member
  · rw [keyed]
    exact signed

end Accepted

section Transfer

/-- The HMAC under the hash tells what is signed apart, for a set of keys and messages. -/
def CollisionFree (hash : Hash) (signings : Set (Bytes × Bytes)) : Prop :=
  Set.InjOn (fun signing => sign hash signing.1 (hash.sha256 signing.2)) signings

def SignatureOf (hash : Hash) (key : Bytes) (job : Job) (signature : Bytes) : Prop :=
  ∃ message, digestMessage modelHost job = some message ∧
    signature = sign hash key (hash.sha256 message)

theorem signature_stays {hash : Hash} {signings : Set (Bytes × Bytes)}
    (free : CollisionFree hash signings) {key signature : Bytes} {job other : Job}
    {session : OpenSSLSession} (dated : Dated job) (dated' : Dated other)
    (covered : ∀ message, digestMessage modelHost job = some message → (key, message) ∈ signings)
    (covered' : ∀ message, digestMessage modelHost other = some message →
      (session.hmacKey, message) ∈ signings)
    (obtained : SignatureOf hash key job signature) (presented : other.request.hmac = signature)
    (valid : validateSignature hash session other = true) : SameRequest job other := by
  obtain ⟨message, made, rfl⟩ := obtained
  obtain ⟨message', made', signed⟩ := (validateSignature_digest hash session other).mp valid
  have same := free (covered message made) (covered' message' made') (presented.symm.trans signed)
  obtain ⟨-, rfl⟩ := Prod.mk.inj same
  exact digestMessage_inj dated dated' made made'

end Transfer

/-- Signer and verifier agree for every codec and every request. On any host the bytes that are
hashed determine the version and the request, so that no signature validates another request. -/
theorem signatures_agree :
    (∀ (adapter : Adapter) (client server : CodecEnv) (send : SendPacket) (user : UserSendData)
        (ingress : Ingress) (identity : IngressIdentity) (control after : Control) (p : RecvPacket)
        (job : Job) (signer session : OpenSSLSession), adapter ∈ adapters →
      Exchange adapter client server send user ingress → send.wireAuth = true →
      adapter.detect server ingress = some identity →
      adapter.decode server (configureIngressIdentity ingress identity) control =
        (some p, after) →
      loadFromNormal (handedOn ingress identity p) = some job → client.session = some signer →
      session.hmacKey = signer.hmacKey → validateSignature client.hash session job = true) ∧
    (∀ (host : Host) (job other : Job) (message : Bytes), Dated job → Dated other →
      digestMessage host job = some message → digestMessage host other = some message →
      SameRequest job other) ∧
    ∀ (hash : Hash) (signings : Set (Bytes × Bytes)) (key signature : Bytes) (job other : Job)
        (session : OpenSSLSession), CollisionFree hash signings → Dated job → Dated other →
      (∀ message, digestMessage modelHost job = some message → (key, message) ∈ signings) →
      (∀ message, digestMessage modelHost other = some message →
        (session.hmacKey, message) ∈ signings) →
      SignatureOf hash key job signature → other.request.hmac = signature →
      validateSignature hash session other = true → SameRequest job other := by
  refine ⟨?_, ?_, ?_⟩
  · intro adapter client server send user ingress identity control after p job signer session member
      exchange authenticated detected decoded queued installed keyed
    exact signature_accepted member exchange authenticated detected decoded queued installed keyed
  · intro host job other message dated dated' first second
    exact digestMessage_inj dated dated' first second
  · intro hash signings key signature job other session free dated dated' covered covered' obtained
      presented valid
    exact signature_stays free dated dated' covered covered' obtained presented valid

/-- The signed sample request of version 1 is accepted under the key that its sender has. -/
theorem sample_accepted : ∃ job, job.request.challenge = 99 ∧ validateSignature paddedHash
    ⟨none, none, List.replicate HMAC_SIZE 7, HMAC_SIZE⟩ job = true := by
  obtain ⟨identity, p, after, detected, decoded, carries⟩ := arrives_v1 (sample_exchange true true)
    (fun clear => by cases clear) ⟨false⟩
  obtain ⟨hmac, -, carried⟩ := carries.user
  have queued : ∃ job, loadFromNormal (handedOn (sampleIngress true) identity p) = some job ∧
      job.request.challenge = 99 := by
    unfold loadFromNormal handedOn
    dsimp only
    rw [carries.version, if_neg (adapters_structured codecV1 List.mem_cons_self), carried]
    exact ⟨_, rfl, rfl⟩
  obtain ⟨job, enqueued, challenge⟩ := queued
  exact ⟨job, challenge, signatures_agree.1 codecV1 sampleSender (samplePeer true)
    (sampleRequest true) sampleUser (sampleIngress true) identity ⟨false⟩ after p job _ _
    List.mem_cons_self (sample_exchange true true) rfl detected decoded enqueued rfl rfl⟩

end Siglatch.KnockSignature
