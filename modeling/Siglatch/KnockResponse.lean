import Siglatch.DaemonRunner
import Siglatch.KnockTransmit
import Siglatch.MuxInbox

set_option autoImplicit false

namespace Siglatch.KnockResponse
open MuxTypes ByteOrder KnockDigest KnockCodec KnockTransmit MuxInbox MuxIntake
open DaemonPayload DaemonRunner

structure Client where
  opts : Opts
  deadDrop : Bool
  protocol : KnockProtocol
  hmacKey : Bytes
  sendUser : UserSendData

section Rehydrate

variable (reply : RecvPacket) (user : UserRecvData)

def rehydrateV1 : KnockPacket where
  version := reply.wireVersion.toUInt8
  timestamp := reply.timestamp
  userId := user.userId
  actionId := user.actionId
  challenge := user.challenge
  hmac := user.hmac
  payload := user.payload

/-- The payload of another version can be longer than the packet's array; the digest refuses it. -/
def rehydrateV2 : V2Form1Packet where
  magic := PREFIX_MAGIC
  version := reply.wireVersion
  form := reply.wireForm
  timestamp := reply.timestamp
  userId := user.userId
  actionId := user.actionId
  challenge := user.challenge
  hmac := user.hmac
  payload := user.payload

def rehydrateV3 : NormalizedUnit where
  complete := reply.complete
  wireVersion := reply.wireVersion
  wireForm := reply.wireForm
  sessionId := reply.sessionId
  messageId := reply.messageId
  streamId := reply.streamId
  fragmentIndex := reply.fragmentIndex
  fragmentCount := reply.fragmentCount
  timestamp := reply.timestamp
  userId := user.userId
  actionId := user.actionId
  challenge := user.challenge
  hmac := user.hmac
  ip := reply.ip
  clientPort := reply.clientPort
  encrypted := reply.encrypted
  wireDecode := reply.wireDecode
  wireAuth := reply.wireAuth
  payload := user.payload

end Rehydrate

section Process

variable (hash : Hash) (client : Client)

/-- The check of a response's HMAC, which differs between the protocols in the digest only. -/
def validateDigest (digest : Option Bytes) (hmac : Bytes) : Bool :=
  match client.opts.hmacMode with
  | .normal =>
    match digest with
    | none => false
    | some digest => validate hash client.hmacKey digest hmac
  | .dummy => hmac == List.replicate HMAC_SIZE 0x42
  | .none => true

def responseValidateSignature (pkt : KnockPacket) : Bool :=
  validateDigest hash client (generate hash pkt) pkt.hmac

def v2ResponseValidateSignature (pkt : V2Form1Packet) : Bool :=
  validateDigest hash client (generateV2Form1 hash pkt) pkt.hmac

def v3ResponseValidateSignature (normal : NormalizedUnit) : Bool :=
  validateDigest hash client (generateV3Form1 hash normal) normal.hmac

def v4ResponseValidateSignature (normal : NormalizedUnit) : Bool :=
  validateDigest hash client (generateV4Form1 hash normal) normal.hmac

/-- The exit status that a response asks for. -/
def responsePrintPayload (payload : Bytes) : Option ℤ :=
  if payload.length < RESPONSE_PAYLOAD_HEADER_SIZE then none
  else if payload[0]? = some STATUS_OK then some 0
  else if payload[0]? = some STATUS_ERROR then some 2
  else none

/-- The checks that all protocols make before the HMAC. -/
def answersRequest (userId : UInt16) (actionId : UInt8) (challenge : UInt32) (payload : Bytes) :
    Bool :=
  if actionId ≠ KNOCK_RESPONSE_ACTION_ID then false
  else if userId ≠ client.sendUser.userId then false
  else if challenge ≠ client.sendUser.challenge then false
  else if payload.length < RESPONSE_PAYLOAD_HEADER_SIZE then false
  else if payload[1]? ≠ some client.sendUser.actionId then false
  else true

/-- The exit status, if the packet is taken for a response to the request. -/
def processMuxResponse (reply : RecvPacket) (replyUser : Option UserRecvData) : Option ℤ :=
  if client.deadDrop then
    if reply.wireVersion ≠ 0 then none else some 0
  else do
    let user ← replyUser
    match client.protocol with
    | .v1 =>
      let pkt := rehydrateV1 reply user
      if !answersRequest client pkt.userId pkt.actionId pkt.challenge pkt.payload then none
      else if !responseValidateSignature hash client pkt then none
      else responsePrintPayload pkt.payload
    | .v2 =>
      let pkt := rehydrateV2 reply user
      if !answersRequest client pkt.userId pkt.actionId pkt.challenge pkt.payload then none
      else if !v2ResponseValidateSignature hash client pkt then none
      else responsePrintPayload pkt.payload
    | .v3 =>
      let normal := rehydrateV3 reply user
      if !answersRequest client normal.userId normal.actionId normal.challenge normal.payload then
        none
      else if !v3ResponseValidateSignature hash client normal then none
      else responsePrintPayload normal.payload
    | .v4 =>
      let normal := rehydrateV3 reply user
      if !answersRequest client normal.userId normal.actionId normal.challenge normal.payload then
        none
      else if !v4ResponseValidateSignature hash client normal then none
      else responsePrintPayload normal.payload

end Process

section Await

/-- The client while it waits: its connection, the exit status so far and how many packets it has
looked at, and for the statements below these packets and what was made of the accepted ones. -/
structure Waiting where
  mux : MuxState
  status : ℤ
  responseCount : ℕ
  drained : List RecvPacket
  answers : List (RecvPacket × ℤ)

variable (hash : Hash) (client : Client)

def noUser : UserRecvData := ⟨0, 0, 0, List.replicate HMAC_SIZE 0, []⟩

/-- The buffer for user data keeps its zeros when the packet has none. -/
def replyUser (reply : RecvPacket) : Option UserRecvData :=
  if client.deadDrop then none else some (reply.user.getD noUser)

def takeReply (waiting : Waiting) : Waiting × Bool :=
  let drained := MuxStream.drain waiting.mux.intake.stream (!client.deadDrop)
  let mux := { waiting.mux with intake := { waiting.mux.intake with stream := drained.2 } }
  match drained.1 with
  | none => ({ waiting with mux := mux }, false)
  | some reply =>
    let seen := { waiting with
      mux := mux, responseCount := waiting.responseCount + 1
      drained := waiting.drained ++ [reply] }
    match processMuxResponse hash client reply (replyUser client reply) with
    | none => (seen, false)
    | some status =>
      ({ seen with status := status, answers := waiting.answers ++ [(reply, status)] }, true)

/-- The inner loop, which a packet that is not accepted ends. Each turn takes a packet off the ready
queue, so its length is fuel enough. -/
def drainReplies : ℕ → Waiting → Waiting
  | 0, waiting => waiting
  | fuel + 1, waiting =>
    if MuxStream.hasPending waiting.mux.intake.stream then
      let next := takeReply hash client waiting
      if next.2 then drainReplies fuel next.1 else next.1
    else waiting

structure Round where
  env : CodecEnv
  clock : PumpClock
  datagrams : List Datagram

def awaitRound (waiting : Waiting) (round : Round) : Waiting :=
  let mux := (pump round.env round.clock round.datagrams waiting.mux).1
  drainReplies hash client mux.intake.stream.readyCount { waiting with mux := mux }

def awaitResponse (mux : MuxState) (rounds : List Round) : Waiting :=
  rounds.foldl (awaitRound hash client) ⟨mux, 1, 0, [], []⟩

def Waiting.exitStatus (waiting : Waiting) : ℤ :=
  if waiting.responseCount = 0 then 0 else waiting.status

end Await

section Genuine

def versionFields (protocol : KnockProtocol) (reply : RecvPacket) : Bytes :=
  match protocol with
  | .v1 => leBytes 1 reply.wireVersion.toNat
  | .v2 => leBytes 4 reply.wireVersion.toNat
  | .v3 => leBytes 4 reply.wireVersion.toNat ++ leBytes 1 reply.wireForm.toNat
  | .v4 => leBytes 4 reply.wireVersion.toNat ++ leBytes 1 reply.wireForm.toNat

def lengthWidth : KnockProtocol → ℕ
  | .v1 => 2
  | .v2 => 2
  | .v3 => 8
  | .v4 => 8

def covered (protocol : KnockProtocol) (reply : RecvPacket) (user : UserRecvData) : Bytes :=
  versionFields protocol reply ++ leBytes 4 reply.timestamp.toNat ++ leBytes 2 user.userId.toNat ++
    leBytes 1 user.actionId.toNat ++ leBytes 4 user.challenge.toNat ++
    leBytes (lengthWidth protocol) user.payload.length ++ user.payload

/-- A response of the request's own version, signed under the client's key over its fields, to the
user, the challenge and the action of the request, with the exit status that it asks for. -/
structure Genuine (hash : Hash) (client : Client) (reply : RecvPacket) (status : ℤ) : Prop where
  version : reply.wireVersion = protocolWireVersion client.protocol
  answer : ∃ user, reply.user = some user ∧
    user.hmac = sign hash client.hmacKey (hash.sha256 (covered client.protocol reply user)) ∧
    user.userId = client.sendUser.userId ∧ user.challenge = client.sendUser.challenge ∧
    user.actionId = KNOCK_RESPONSE_ACTION_ID ∧
    user.payload[1]? = some client.sendUser.actionId ∧
    (status = 0 ∧ user.payload[0]? = some STATUS_OK ∨
      status = 2 ∧ user.payload[0]? = some STATUS_ERROR)

/-- The packets for which the client's own checks are enough. -/
def Suits (client : Client) (reply : RecvPacket) : Prop :=
  client.protocol = .v3 ∨ client.protocol = .v4 ∨
    reply.wireVersion = protocolWireVersion client.protocol

variable {hash : Hash} {client : Client} {reply : RecvPacket} {user : UserRecvData} {status : ℤ}

def digestOf (hash : Hash) (protocol : KnockProtocol) (reply : RecvPacket) (user : UserRecvData) :
    Option Bytes :=
  match protocol with
  | .v1 => generate hash (rehydrateV1 reply user)
  | .v2 => generateV2Form1 hash (rehydrateV2 reply user)
  | .v3 => generateV3Form1 hash (rehydrateV3 reply user)
  | .v4 => generateV4Form1 hash (rehydrateV3 reply user)

theorem processMuxResponse_eq (structured : client.deadDrop = false) :
    processMuxResponse hash client reply (some user) =
      if !answersRequest client user.userId user.actionId user.challenge user.payload then none
      else if !validateDigest hash client (digestOf hash client.protocol reply user) user.hmac then
        none
      else responsePrintPayload user.payload := by
  unfold processMuxResponse digestOf
  rw [structured, if_neg Bool.false_ne_true]
  cases client.protocol with
  | v1 => rfl
  | v2 => rfl
  | v3 => rfl
  | v4 => rfl

theorem generateForm1_some {version : UInt32} {digest : Bytes} {normal : NormalizedUnit}
    (made : generateForm1 hash version normal = some digest) : normal.wireVersion = version ∧
      digest = hash.sha256 (leBytes 4 normal.wireVersion.toNat ++ leBytes 1 normal.wireForm.toNat ++
        leBytes 4 normal.timestamp.toNat ++ leBytes 2 normal.userId.toNat ++
        leBytes 1 normal.actionId.toNat ++ leBytes 4 normal.challenge.toNat ++
        leBytes 8 normal.payload.length ++ normal.payload) := by
  unfold generateForm1 at made
  split at made
  · cases made
  rename_i same
  split at made
  · cases made
  split at made
  · cases made
  exact ⟨not_not.mp same, (Option.some.inj made).symm⟩

theorem digestOf_some {protocol : KnockProtocol} {digest : Bytes}
    (made : digestOf hash protocol reply user = some digest) :
    digest = hash.sha256 (covered protocol reply user) ∧
      (protocol = .v3 ∨ protocol = .v4 → reply.wireVersion = protocolWireVersion protocol) := by
  cases protocol with
  | v1 =>
    change generate hash (rehydrateV1 reply user) = some digest at made
    unfold generate at made
    split at made
    · cases made
    have version : leBytes 1 reply.wireVersion.toUInt8.toNat =
        leBytes 1 reply.wireVersion.toNat := by
      change [UInt8.ofNat reply.wireVersion.toUInt8.toNat] = _
      rw [UInt8.ofNat_toNat]
      rfl
    refine ⟨?_, by rintro (other | other) <;> cases other⟩
    rw [← Option.some.inj made]
    unfold covered versionFields rehydrateV1
    dsimp only
    rw [version]
    rfl
  | v2 =>
    change generateV2Form1 hash (rehydrateV2 reply user) = some digest at made
    unfold generateV2Form1 at made
    split at made
    · cases made
    refine ⟨(Option.some.inj made).symm, by rintro (other | other) <;> cases other⟩
  | v3 =>
    obtain ⟨version, whole⟩ := @generateForm1_some hash _ digest (rehydrateV3 reply user) made
    exact ⟨whole, fun _ => version⟩
  | v4 =>
    obtain ⟨version, whole⟩ := @generateForm1_some hash _ digest (rehydrateV3 reply user) made
    exact ⟨whole, fun _ => version⟩

theorem answersRequest_iff {userId : UInt16} {actionId : UInt8} {challenge : UInt32}
    {payload : Bytes} : answersRequest client userId actionId challenge payload = true ↔
      userId = client.sendUser.userId ∧ challenge = client.sendUser.challenge ∧
        actionId = KNOCK_RESPONSE_ACTION_ID ∧ RESPONSE_PAYLOAD_HEADER_SIZE ≤ payload.length ∧
        payload[1]? = some client.sendUser.actionId := by
  unfold answersRequest
  simp only [ne_eq, Bool.if_false_left, Bool.and_true, Bool.and_eq_true, Bool.not_eq_true',
    decide_eq_false_iff_not, not_not, not_lt]
  tauto

theorem responsePrintPayload_some {payload : Bytes} (shown : responsePrintPayload payload =
    some status) : status = 0 ∧ payload[0]? = some STATUS_OK ∨
      status = 2 ∧ payload[0]? = some STATUS_ERROR := by
  unfold responsePrintPayload at shown
  split at shown
  · cases shown
  split at shown
  · rename_i ok
    exact .inl ⟨(Option.some.inj shown).symm, ok⟩
  split at shown
  · rename_i error
    exact .inr ⟨(Option.some.inj shown).symm, error⟩
  · cases shown

/-- What is accepted is genuine exactly if it suits. -/
theorem genuine_iff (structured : client.deadDrop = false)
    (normal : client.opts.hmacMode = .normal)
    (accepted : processMuxResponse hash client reply (replyUser client reply) = some status) :
    Genuine hash client reply status ↔ Suits client reply := by
  constructor
  · exact fun genuine => .inr (.inr genuine.version)
  intro suits
  unfold replyUser at accepted
  rw [structured, if_neg Bool.false_ne_true, processMuxResponse_eq structured] at accepted
  split at accepted
  · cases accepted
  rename_i answers
  rw [Bool.not_eq_true', Bool.not_eq_false, answersRequest_iff] at answers
  obtain ⟨userId, challenge, actionId, long, request⟩ := answers
  split at accepted
  · cases accepted
  rename_i signed
  rw [Bool.not_eq_true', Bool.not_eq_false] at signed
  unfold validateDigest at signed
  rw [normal] at signed
  cases carried : reply.user with
  | none =>
    rw [carried] at long
    exact absurd long (by decide)
  | some user =>
    rw [carried] at accepted signed userId challenge actionId request
    dsimp only [Option.getD_some] at accepted signed userId challenge actionId request
    cases made : digestOf hash client.protocol reply user with
    | none =>
      rw [made] at signed
      cases signed
    | some digest =>
      rw [made] at signed
      obtain ⟨whole, modern⟩ := digestOf_some made
      have hmac := (validate_iff hash client.hmacKey digest user.hmac).mp signed
      rw [whole] at hmac
      refine ⟨?_, user, carried, hmac, userId, challenge, actionId, request,
        responsePrintPayload_some accepted⟩
      rcases suits with v3 | v4 | version
      · exact modern (.inl v3)
      · exact modern (.inr v4)
      · exact version

end Genuine

section Runs

variable {hash : Hash} {client : Client}

/-- What a waiting client holds: its answers are packets it has looked at and accepted, and its
status is that of an answer once there is one. -/
structure Settled (hash : Hash) (client : Client) (waiting : Waiting) : Prop where
  counted : waiting.responseCount = waiting.drained.length
  accepted : ∀ answer ∈ waiting.answers, answer.1 ∈ waiting.drained ∧
    processMuxResponse hash client answer.1 (replyUser client answer.1) = some answer.2
  status : waiting.status = 1 ∨ ∃ answer ∈ waiting.answers, waiting.status = answer.2

theorem takeReply_settled {waiting : Waiting} (settled : Settled hash client waiting) :
    Settled hash client (takeReply hash client waiting).1 := by
  unfold takeReply
  dsimp only
  generalize MuxStream.drain waiting.mux.intake.stream (!client.deadDrop) = drained
  obtain ⟨packet, after⟩ := drained
  cases packet with
  | none => exact ⟨settled.counted, settled.accepted, settled.status⟩
  | some reply =>
    have counted : waiting.responseCount + 1 = (waiting.drained ++ [reply]).length := by
      rw [List.length_append, List.length_singleton, settled.counted]
    have earlier (answer : RecvPacket × ℤ) (member : answer ∈ waiting.answers) :
        answer.1 ∈ waiting.drained ++ [reply] ∧
          processMuxResponse hash client answer.1 (replyUser client answer.1) = some answer.2 :=
      ⟨List.mem_append_left _ (settled.accepted answer member).1,
        (settled.accepted answer member).2⟩
    dsimp only
    cases accepted : processMuxResponse hash client reply (replyUser client reply) with
    | none => exact ⟨counted, earlier, settled.status⟩
    | some status =>
      refine ⟨counted, ?_, ?_⟩
      · intro answer member
        rcases List.mem_append.mp member with before | last
        · exact earlier answer before
        · obtain rfl := List.mem_singleton.mp last
          exact ⟨List.mem_append_right _ (List.mem_singleton_self _), accepted⟩
      · exact .inr ⟨(reply, status), List.mem_append_right _ (List.mem_singleton_self _), rfl⟩

theorem drainReplies_settled (fuel : ℕ) {waiting : Waiting}
    (settled : Settled hash client waiting) :
    Settled hash client (drainReplies hash client fuel waiting) := by
  induction fuel generalizing waiting with
  | zero => exact settled
  | succ fuel ih =>
    have next := takeReply_settled settled
    unfold drainReplies
    dsimp only
    split
    · split
      · exact ih next
      · exact next
    · exact settled

theorem awaitRound_settled {waiting : Waiting} (settled : Settled hash client waiting)
    (round : Round) : Settled hash client (awaitRound hash client waiting round) := by
  unfold awaitRound
  dsimp only
  exact drainReplies_settled _ ⟨settled.counted, settled.accepted, settled.status⟩

theorem awaitResponse_settled (mux : MuxState) (rounds : List Round) :
    Settled hash client (awaitResponse hash client mux rounds) := by
  have start : Settled hash client ⟨mux, 1, 0, [], []⟩ :=
    ⟨rfl, fun answer member => absurd member List.not_mem_nil, .inl rfl⟩
  unfold awaitResponse
  generalize (⟨mux, 1, 0, [], []⟩ : Waiting) = waiting at start
  induction rounds generalizing waiting with
  | nil => exact start
  | cons round rounds ih => exact ih _ (awaitRound_settled start round)

/-- In every wait for a structured response under HMACs, what is accepted is genuine exactly if
it suits, and the exit status is 1, that of an accepted packet, or 0 if no packet came. -/
theorem responses_genuine_iff (hash : Hash) (client : Client)
    (structured : client.deadDrop = false) (normal : client.opts.hmacMode = .normal)
    (mux : MuxState) (rounds : List Round) :
    let waiting := awaitResponse hash client mux rounds
    (∀ answer ∈ waiting.answers, answer.1 ∈ waiting.drained ∧
      (Genuine hash client answer.1 answer.2 ↔ Suits client answer.1)) ∧
    (waiting.exitStatus = 1 ∨ (∃ answer ∈ waiting.answers, waiting.exitStatus = answer.2) ∨
      waiting.drained = [] ∧ waiting.exitStatus = 0) := by
  have settled := @awaitResponse_settled hash client mux rounds
  refine ⟨?_, ?_⟩
  · intro answer member
    obtain ⟨drained, accepted⟩ := settled.accepted answer member
    exact ⟨drained, genuine_iff structured normal accepted⟩
  · unfold Waiting.exitStatus
    split
    · rename_i none
      rw [settled.counted] at none
      exact .inr (.inr ⟨List.eq_nil_of_length_eq_zero none, rfl⟩)
    · exact settled.status.imp_right .inl

end Runs

section OldVersion

def plainHash : Hash := ⟨pad 32, fun hmacKey digest => pad 32 (hmacKey ++ digest)⟩

def v2Client : Client where
  opts := ⟨.normal, false, 3, 7, 1, []⟩
  deadDrop := false
  protocol := .v2
  hmacKey := [5]
  sendUser := ⟨3, 7, 99, List.replicate HMAC_SIZE 0, []⟩

def v1Signed : V2Form1Packet where
  magic := PREFIX_MAGIC
  version := V1_VERSION
  form := 0
  timestamp := 1000
  userId := 3
  actionId := KNOCK_RESPONSE_ACTION_ID
  challenge := 99
  hmac := []
  payload := [STATUS_OK, 7, 0]

def v1Response : Bytes :=
  let hmac := sign plainHash v2Client.hmacKey ((generateV2Form1 plainHash v1Signed).getD [])
  (KnockCodecV1.packWire ⟨1, 1000, 3, KNOCK_RESPONSE_ACTION_ID, 99, hmac, 3, [STATUS_OK, 7, 0]⟩
    KnockCodecV1.PACKET_SIZE).getD []

def v1Round : Round where
  env := ⟨KnockEncode.boxCipher, plainHash, KnockContext.create, none, 1000⟩
  clock := ⟨5000, fun _ => 5000, 5000⟩
  datagrams := [⟨v1Response, 5000, ascii ['1', '0', '.', '0', '.', '0', '.', '1'], 4000⟩]

def v2Wait : Waiting := awaitResponse plainHash v2Client (connectSocket 3 .any) [v1Round]

/-- A client of protocol 2 takes its exit status from a packet of protocol 1. -/
theorem old_version_answers : ∃ answer ∈ v2Wait.answers, v2Wait.exitStatus = answer.2 ∧
    answer.1.wireVersion = V1_VERSION ∧ ¬ Genuine plainHash v2Client answer.1 answer.2 := by
  have taken : ∃ answer ∈ v2Wait.answers,
      v2Wait.exitStatus = answer.2 ∧ answer.1.wireVersion = V1_VERSION := by decide +kernel
  obtain ⟨answer, member, status, version⟩ := taken
  refine ⟨answer, member, status, version, ?_⟩
  intro genuine
  have own := genuine.version
  rw [version] at own
  exact absurd own (by decide)

theorem v2Wait_genuine_iff :
    (∀ answer ∈ v2Wait.answers, answer.1 ∈ v2Wait.drained ∧
      (Genuine plainHash v2Client answer.1 answer.2 ↔ Suits v2Client answer.1)) ∧
    (v2Wait.exitStatus = 1 ∨ (∃ answer ∈ v2Wait.answers, v2Wait.exitStatus = answer.2) ∨
      v2Wait.drained = [] ∧ v2Wait.exitStatus = 0) :=
  responses_genuine_iff plainHash v2Client rfl rfl (connectSocket 3 .any) [v1Round]

end OldVersion

end Siglatch.KnockResponse
