import Siglatch.DaemonReflection
import Siglatch.DaemonTraffic
import Siglatch.KnockJourney
import Siglatch.KnockResponse

set_option autoImplicit false

namespace Siglatch.KnockReturn
open MuxTypes AppConfig KnockDigest DaemonTypes DaemonAuth DaemonPayload DaemonRunner
open DaemonReplies DaemonLoop DaemonTraffic KnockCodec KnockEncode MuxAdapter MuxNormalize
open MuxEgress MuxOutbox MuxInbox MuxSession MuxStreamView MuxIntake MuxFragments MuxRoundTrip
  KnockSignature KnockTransmit
open KnockTransit KnockResponse KnockPacked KnockRoundTrip MuxVisit KnockJourney

section Await

variable {hash : Hash} {client : Client} {mux : MuxState} {p : RecvPacket} {handed : List UInt64}
  {status : ℤ}

theorem awaitRound_single {waiting : Waiting} {round : Round} (structured : client.deadDrop = false)
    (offers : Offers (pump round.env round.clock round.datagrams waiting.mux).1 p handed)
    (accepted : processMuxResponse hash client p (replyUser client p) = some status) :
    (awaitRound hash client waiting round).exitStatus = status := by
  obtain ⟨stream, drained, empty⟩ := offers.drained
  unfold awaitRound
  dsimp only
  rw [offers.count]
  have pending : MuxStream.hasPending
      (pump round.env round.clock round.datagrams waiting.mux).1.intake.stream = true := by
    unfold MuxStream.hasPending
    rw [offers.count]
    rfl
  unfold drainReplies
  dsimp only
  rw [if_pos pending]
  have caller : (!client.deadDrop) = true := by
    rw [structured]
    rfl
  have taken : takeReply hash client { waiting with
      mux := (pump round.env round.clock round.datagrams waiting.mux).1 } =
      (⟨{ (pump round.env round.clock round.datagrams waiting.mux).1 with
          intake := { (pump round.env round.clock round.datagrams waiting.mux).1.intake with
            stream := stream } },
        status, waiting.responseCount + 1, waiting.drained ++ [p],
        waiting.answers ++ [(p, status)]⟩, true) := by
    unfold takeReply
    dsimp only
    rw [caller, drained]
    dsimp only
    rw [accepted]
  rw [taken]
  dsimp only
  rw [if_pos rfl]
  unfold drainReplies Waiting.exitStatus
  rw [if_neg (Nat.succ_ne_zero _)]

end Await

section Answer

variable {hash : Hash} {handlers : Handlers} {runtime : Runtime} {user : User} {action : Action}

/-- The job is answered with what a handler has to say, or not at all. -/
def Semantic (job after : Job) : Prop :=
  Silent after ∨ ∃ config reply, after.response = buildSemanticReply config job reply

theorem buildSemanticReply_congr (config : Option Config) {job other : Job} (reply : ActionReply)
    (same : job.request = other.request) :
    buildSemanticReply config job reply = buildSemanticReply config other reply := by
  unfold buildSemanticReply renderedMessage
  rw [same]

theorem Semantic.congr {job other after : Job} (same : job.request = other.request)
    (semantic : Semantic job after) : Semantic other after := by
  rcases semantic with silent | ⟨config, reply, response⟩
  · exact .inl silent
  · exact .inr ⟨config, reply, response.trans (buildSemanticReply_congr config reply same)⟩

theorem stageReply_semantic (config : Option Config) (job : Job) (reply : ActionReply) :
    Semantic job (stageReply config job reply) := by
  unfold stageReply
  split
  · exact .inl ⟨rfl, rfl⟩
  · exact .inr ⟨config, reply, rfl⟩

theorem dispatchBuiltin_semantic {job : Job} (silent : Silent job) :
    Semantic job (dispatchBuiltin handlers runtime job user action).job := by
  unfold dispatchBuiltin
  dsimp only
  split
  · split
    · exact .inl silent
    · exact stageReply_semantic _ _ _
  · exact stageReply_semantic _ _ _

theorem dispatchShell_semantic {job : Job} (silent : Silent job) :
    Semantic job (dispatchShell handlers runtime job user action).job := by
  have answer (ok answered : Bool) (text : CString) : Semantic job (⟨ok, runtime,
      stageReply runtime.config job (.set answered text)⟩ : Dispatched).job :=
    stageReply_semantic runtime.config job (.set answered text)
  unfold dispatchShell
  dsimp only
  split
  · exact .inl silent
  split
  · exact answer _ _ _
  split
  · exact answer _ _ _
  split
  · exact answer _ _ _
  · exact answer _ _ _

theorem dispatchAction_semantic {job : Job} (silent : Silent job) :
    Semantic job (dispatchAction handlers runtime job user action).job := by
  unfold dispatchAction
  dsimp only
  split
  · exact .inl silent
  split
  · exact dispatchBuiltin_semantic silent
  split
  · exact stageReply_semantic _ _ _
  · exact dispatchShell_semantic silent

theorem consume_semantic {job : Job} (structured : job.wireVersion ≠ 0) (silent : Silent job) :
    Semantic job (consume hash handlers runtime job).job := by
  unfold consume
  dsimp only
  split
  · exact .inl silent
  cases bindUserAction runtime.config runtime.listener job runtime.session with
  | mk session found =>
    cases found with
    | none => exact .inl silent
    | some pair =>
      obtain ⟨quiet, request⟩ := @authorize_job hash job runtime.config session silent
      dsimp only
      split
      · exact .inl quiet
      split
      · exact .inl quiet
      · exact Semantic.congr request (dispatchAction_semantic quiet)

end Answer

section Accept

variable {hash : Hash} {client : Client} {server : CodecEnv} {adapter : Adapter}
  {packet : SendPacket} {user : UserSendData} {p : RecvPacket}

theorem protocol_of {protocol : KnockProtocol} {adapter : Adapter} (member : adapter ∈ adapters)
    (same : protocolWireVersion protocol = adapter.wireVersion) :
    (protocol = .v1 ∧ adapter = codecV1) ∨ (protocol = .v2 ∧ adapter = codecV2) ∨
      (protocol = .v3 ∧ adapter = codecV3) ∨ (protocol = .v4 ∧ adapter = codecV4) := by
  rcases adapters_cases member with rfl | rfl | rfl | rfl
  · cases protocol with
    | v1 => exact .inl ⟨rfl, rfl⟩
    | v2 => exact absurd same (by decide)
    | v3 => exact absurd same (by decide)
    | v4 => exact absurd same (by decide)
  · cases protocol with
    | v1 => exact absurd same (by decide)
    | v2 => exact .inr (.inl ⟨rfl, rfl⟩)
    | v3 => exact absurd same (by decide)
    | v4 => exact absurd same (by decide)
  · cases protocol with
    | v1 => exact absurd same (by decide)
    | v2 => exact absurd same (by decide)
    | v3 => exact .inr (.inr (.inl ⟨rfl, rfl⟩))
    | v4 => exact absurd same (by decide)
  · cases protocol with
    | v1 => exact absurd same (by decide)
    | v2 => exact absurd same (by decide)
    | v3 => exact absurd same (by decide)
    | v4 => exact .inr (.inr (.inr ⟨rfl, rfl⟩))

theorem digestOf_sent (member : adapter ∈ adapters)
    (protocol : protocolWireVersion client.protocol = adapter.wireVersion) {hmac : Bytes}
    {q : RecvPacket} (version : q.wireVersion = adapter.wireVersion)
    (form : q.wireForm = formOf adapter.wireVersion) (timestamp : q.timestamp = packet.timestamp)
    (stated : packet.wireVersion = adapter.wireVersion)
    (shaped : adapter.wireVersion = V3_WIRE_VERSION ∨ adapter.wireVersion = V4_WIRE_VERSION →
      packet.wireForm = FORM1_ID) :
    digestOf hash client.protocol q { user with hmac := hmac } =
      unitDigest hash adapter.wireVersion (sendUnit packet user) := by
  rcases protocol_of member protocol with ⟨same, rfl⟩ | ⟨same, rfl⟩ | ⟨same, rfl⟩ | ⟨same, rfl⟩
  · rw [same]
    change generate hash (rehydrateV1 q { user with hmac := hmac }) =
      generate hash (digestV1 (sendUnit packet user))
    unfold generate rehydrateV1 digestV1 sendUnit
    dsimp only
    rw [version, timestamp]
    rfl
  · rw [same]
    change generateV2Form1 hash (rehydrateV2 q { user with hmac := hmac }) =
      generateV2Form1 hash (digestV2 (sendUnit packet user))
    unfold generateV2Form1 rehydrateV2 digestV2 sendUnit
    dsimp only
    rw [version, timestamp]
    rfl
  · rw [same]
    change generateForm1 hash V3_WIRE_VERSION (rehydrateV3 q { user with hmac := hmac }) =
      generateForm1 hash V3_WIRE_VERSION (sendUnit packet user)
    unfold generateForm1 rehydrateV3 sendUnit
    dsimp only
    rw [version, form, timestamp, stated, shaped (.inl rfl)]
    rfl
  · rw [same]
    change generateForm1 hash V4_WIRE_VERSION (rehydrateV3 q { user with hmac := hmac }) =
      generateForm1 hash V4_WIRE_VERSION (sendUnit packet user)
    unfold generateForm1 rehydrateV3 sendUnit
    dsimp only
    rw [version, form, timestamp, stated, shaped (.inr rfl)]
    rfl

def exitStatusOf (reply : ActionReply) : ℤ := if reply.ok then 0 else 2

theorem responsePrintPayload_semantic (config : Option Config) (job : Job) (reply : ActionReply) :
    responsePrintPayload (buildSemanticReply config job reply) = some (exitStatusOf reply) := by
  have long : ¬ (buildSemanticReply config job reply).length < RESPONSE_PAYLOAD_HEADER_SIZE :=
    Nat.not_lt.mpr (Nat.le_add_left 3 _)
  have first : (buildSemanticReply config job reply)[0]? =
      some (if reply.ok then STATUS_OK else STATUS_ERROR) := rfl
  unfold responsePrintPayload exitStatusOf
  rw [if_neg long, first]
  cases reply.ok with
  | true => rfl
  | false => rfl

structure Awaiting (client : Client) (adapter : Adapter) (job : Job) : Prop where
  structured : client.deadDrop = false
  normal : client.opts.hmacMode = .normal
  protocol : protocolWireVersion client.protocol = adapter.wireVersion
  userId : client.sendUser.userId = job.request.userId
  actionId : client.sendUser.actionId = job.request.actionId
  challenge : client.sendUser.challenge = job.request.challenge

def replyData (job : Job) : UserSendData :=
  ⟨job.request.userId, KNOCK_RESPONSE_ACTION_ID, job.request.challenge, job.request.hmac,
    job.response⟩

structure Replies (job : Job) (packet : SendPacket) : Prop where
  user : packet.user = some (replyData job)
  fits : (replyData job).payload.length ≤ USER_DATA_PAYLOAD_MAX
  version : packet.wireVersion = job.wireVersion
  form : packet.wireForm = job.wireForm
  timestamp : packet.timestamp = job.timestamp
  encrypted : packet.encrypted = job.encrypted
  wireAuth : packet.wireAuth = job.wireAuth
  fragment : packet.fragmentIndex = 0 ∧ packet.fragmentCount = 1

theorem copied_replies {job : Job} (copied : copyJobReplyToSend job = some packet) :
    Replies job packet := by
  unfold copyJobReplyToSend at copied
  split at copied
  · contradiction
  · rename_i short
    obtain rfl := Option.some.inj copied
    exact ⟨rfl, Nat.not_lt.mp short, rfl, rfl, rfl, rfl, rfl, rfl, rfl⟩

/-- A signed answer of the request's own version is accepted with the status that the handler gave
it. -/
theorem reply_accepted (member : adapter ∈ adapters) {job done : Job}
    (awaiting : Awaiting client adapter job) (replies : Replies done packet)
    (request : done.request = job.request) (version : done.wireVersion = adapter.wireVersion)
    (form : done.wireForm = formOf adapter.wireVersion) {config : Option Config}
    {reply : ActionReply} (response : done.response = buildSemanticReply config job reply)
    (signs : done.wireAuth = true) (hashes : server.hash = hash)
    (keyed : ∀ session, server.session = some session → session.hmacKey = client.hmacKey)
    {ingress : Ingress} {after : Control}
    (delivered : Delivered adapter server packet (replyData done) ingress ⟨false⟩ after p)
    (sessionId messageId : UInt64) (streamId : UInt32) :
    let q := deliveredAs (MuxSession.handedOn p sessionId) streamId messageId
    processMuxResponse hash client q (replyUser client q) = some (exitStatusOf reply) := by
  intro q
  obtain ⟨hmac, sent, found⟩ := delivered.carries.user
  have held : replyUser client q = some { replyData done with hmac := hmac } := by
    unfold replyUser
    rw [awaiting.structured, if_neg Bool.false_ne_true]
    change some (p.user.getD noUser) = _
    rw [found]
    rfl
  have asked : answersRequest client done.request.userId KNOCK_RESPONSE_ACTION_ID
      done.request.challenge done.response = true := by
    rw [answersRequest_iff, request, response]
    exact ⟨awaiting.userId.symm, awaiting.challenge.symm, rfl, Nat.le_add_left 3 _,
      congrArg some awaiting.actionId.symm⟩
  have shaped : adapter.wireVersion = V3_WIRE_VERSION ∨ adapter.wireVersion = V4_WIRE_VERSION →
      packet.wireForm = FORM1_ID := by
    intro modern
    rw [replies.form, form]
    rcases modern with modern | modern
    · rw [modern]
      rfl
    · rw [modern]
      rfl
  obtain ⟨session, digest, own, digested, signed⟩ := sent.2 (replies.wireAuth.trans signs)
  have same := @digestOf_sent hash client adapter packet (replyData done) member awaiting.protocol
    hmac q delivered.carries.version delivered.carries.form delivered.carries.timestamp
    (replies.version.trans version) shaped
  have valid : validateDigest hash client
      (digestOf hash client.protocol q { replyData done with hmac := hmac }) hmac = true := by
    rw [same, ← hashes, digested]
    unfold validateDigest
    rw [awaiting.normal]
    dsimp only
    rw [validate_iff, signed, keyed session own]
  rw [held, processMuxResponse_eq awaiting.structured, valid]
  unfold replyData
  dsimp only
  rw [asked, response]
  exact responsePrintPayload_semantic config job reply

end Accept

section Staged

variable {env : CodecEnv} {session : OpenSSLSession} {job : Job}

/-- A reply that can be staged into an empty queue is all that the queue then holds. -/
theorem stageOutboxReply_alone (structured : job.wireVersion ≠ 0)
    (installed : env.session = some session) (lawful : Lawful env.cipher)
    (sendable : Sendable env.cipher session job) (random : Bool → ℕ → Entropy)
    (send : ℕ → EgressData → Bool) (sock : ℤ) {egress : EgressState}
    (empty : egress.contents = []) : ∃ packet adapter data,
      copyJobReplyToSend job = some packet ∧
      lookupAdapterWireVersion packet.wireVersion = some adapter ∧
      adapter.encode env (random false 0) packet = some data ∧
      (stageOutboxReply env random send sock egress job).rc = 1 ∧
      (stageOutboxReply env random send sock egress job).egress.contents = [data] ∧
      stageOutboxReplySent env random send sock egress job = [] := by
  unfold Sendable at sendable
  rw [if_neg structured] at sendable
  obtain ⟨short, encodable⟩ := sendable
  obtain ⟨packet, copied⟩ : ∃ packet, copyJobReplyToSend job = some packet := by
    unfold copyJobReplyToSend
    rw [if_neg (Nat.not_lt.mpr short)]
    exact ⟨_, rfl⟩
  have vacant : egress.count = 0 := (RingQueue.Ring.contents_eq_nil egress).mp empty
  have ok : (stage env (random false) egress packet).ok = true :=
    (stage_reply_ok installed lawful copied (random false) egress).mpr
      ⟨encodable, by rw [vacant]; exact Nat.zero_lt_succ 63⟩
  have few := countFragments_le_one copied
  have outcome : stageOutboxReply env random send sock egress job =
      ⟨1, (stage env (random false) egress packet).egress⟩ := by
    unfold stageOutboxReply stageTwice
    rw [if_neg structured, copied]
    dsimp only
    rw [if_pos ok]
  have unsent : stageOutboxReplySent env random send sock egress job = [] := by
    unfold stageOutboxReplySent stageTwiceSent
    rw [if_neg structured, copied]
    exact if_pos ok
  cases found : lookupAdapterWireVersion packet.wireVersion with
  | none =>
    rw [stage_unknown (random false) egress found] at ok
    cases ok
  | some adapter =>
    have le := few adapter found
    have held : ∃ data, adapter.encode env (random false 0) packet = some data ∧
        (stage env (random false) egress packet).egress.contents = [data] := by
      revert ok
      unfold stage stageCommon
      rw [found]
      simp only [Nat.not_lt_zero, if_false]
      split
      · intro refused
        cases refused
      split
      · intro refused
        cases refused
      split
      · intro refused
        cases refused
      rw [if_pos (by omega)]
      split
      · intro refused
        cases refused
      · rename_i data encoded
        intro ok
        refine ⟨data, encoded, ?_⟩
        unfold stageAll at ok ⊢
        split at ok
        · cases ok
        · rename_i after staged
          change after.contents = [data]
          rw [(stageEgress_some staged).2.2.2, empty]
          rfl
    obtain ⟨data, encoded, contents⟩ := held
    exact ⟨packet, adapter, data, copied, found, encoded, by rw [outcome],
      by rw [outcome]; exact contents, unsent⟩

theorem encryptPacked_longer (lawful : Lawful env.cipher) {random : Entropy} {encrypted : Bool}
    {capacity : ℕ} {packed out : Bytes}
    (h : encryptPacked env random encrypted capacity packed = some out) :
    packed.length ≤ out.length := by
  unfold encryptPacked at h
  cases encrypted with
  | false =>
    rw [Bool.not_false, if_pos rfl] at h
    split at h
    · contradiction
    · obtain rfl := Option.some.inj h
      exact le_rfl
  | true =>
    rw [if_neg (by decide)] at h
    simp only [Option.bind_eq_bind, Option.bind_eq_some_iff] at h
    obtain ⟨session, installed, key, keyed, h⟩ := h
    split at h
    · contradiction
    · rename_i room
      have wrapped := h
      rw [sessionEncrypt_eq installed keyed] at wrapped
      have length := lawful.encrypt_length key random.padding packed out wrapped
      omega

theorem encode_nonempty {adapter : Adapter} (member : adapter ∈ adapters)
    (lawful : Lawful env.cipher) {random : Entropy} {packet : SendPacket} {user : UserSendData}
    {data : EgressData} (carried : packet.user = some user)
    (fits : user.payload.length ≤ USER_DATA_PAYLOAD_MAX)
    (encoded : adapter.encode env random packet = some data) : nonempty data = true := by
  have long (enough : 0 < data.egressBuffer.length) : nonempty data = true :=
    decide_eq_true (Nat.pos_iff_ne_zero.mp enough)
  apply long
  rcases adapters_cases member with rfl | rfl | rfl | rfl
  · obtain ⟨-, hmac, -, encrypts⟩ := encodeV1_wire (adapterEncode_unit carried fits encoded)
    have whole : (fieldsV1 (sentV1 (sendUnit packet user) hmac)).flatten.length =
        KnockCodecV1.PACKET_SIZE := length_laid (fieldsV1_sized _)
    have longer := encryptPacked_longer lawful encrypts
    exact lt_of_lt_of_le (by rw [whole]; decide) longer
  · obtain ⟨-, hmac, -, encrypts⟩ := encodeV2_wire (adapterEncode_unit carried fits encoded)
    have whole : (fieldsV2 (sentV2 (sendUnit packet user) hmac)).flatten.length =
        KnockCodecV2.FORM1_PACKET_SIZE := length_laid (fieldsV2_sized _)
    have longer := encryptPacked_longer lawful encrypts
    exact lt_of_lt_of_le (by rw [whole]; decide) longer
  · obtain ⟨-, -, hmac, pkt, -, sealedAs, wired⟩ := @encodeSealed_wire env random lawful
      KnockCodecV3.form1 _ (fun _ => []) (fun _ => rfl) (fun _ _ => rfl) (by decide) _ _
      (adapterEncode_unit carried fits encoded)
    rw [wired, length_wire sealedAs.sized]
    exact Nat.add_pos_right _ (by decide)
  · obtain ⟨-, hmac, pkt, sealedAs, wired⟩ := encodeV4_wire lawful
      (adapterEncode_unit carried fits encoded)
    rw [wired, length_wire sealedAs.sized]
    exact Nat.add_pos_right _ (by decide)

theorem flush_alone {send : ℕ → EgressData → Bool} (sends : ∀ k packet, send k packet = true)
    {egress : EgressState} {data : EgressData} (contents : egress.contents = [data])
    (filled : nonempty data = true) {sock : ℤ} (open_ : 0 ≤ sock) :
    (flush send egress sock).sent = [data] := by
  have everywhere : send = endpointSend fun _ _ => true :=
    funext fun k => funext fun packet => sends k packet
  have count : egress.count = 1 := by
    rw [← RingQueue.Ring.contents_length, contents]
    rfl
  obtain ⟨-, sent⟩ := flushLoop_endpoint (fun _ _ => true) egress.count 0 egress le_rfl
  have passes : blocked (fun _ _ => true) data = false := by
    unfold blocked
    rw [Bool.not_true, Bool.and_false]
  unfold flush flushEgress
  rw [if_neg (not_lt.mpr open_), everywhere, sent, contents]
  simp [passes, filled]

end Staged

section Turn

variable {loop : Loop} {input : Turn} {p : RecvPacket} {job : Job} {after : List UInt64}
  {data : EgressData}

theorem flushed_none {mux : MuxState} (empty : mux.egress.contents = [])
    (send : ℕ → EgressData → Bool) :
    flushOutbox send mux = mux ∧ flushOutboxSent send mux = [] := by
  have count : mux.egress.count = 0 := (RingQueue.Ring.contents_eq_nil mux.egress).mp empty
  have idle : ¬ MuxEgress.hasPending mux.egress = true := by
    unfold MuxEgress.hasPending
    rw [count]
    decide
  exact ⟨if_neg idle, if_neg idle⟩

/-- A turn with one job, whose reply is staged without a flush, sends that reply alone. -/
theorem turn_sends (vacant : Vacant loop input) (unsent : loop.mux.egress.contents = [])
    (offers : Offers (DaemonDelivery.pumped input loop) p after)
    (loaded : loadFromNormal p = some job)
    (staged : ∀ egress : EgressState, egress.contents = [] →
      let record := process input.world loop.runtime job
      (stageProcessed input.world 0 egress record).rc = 1 ∧
      (stageProcessed input.world 0 egress record).egress.contents = [data] ∧
      stageProcessedSent input.world 0 egress record = [])
    (filled : nonempty data = true) (sends : ∀ k packet, input.last k packet = true)
    (open_ : 0 ≤ (process input.world loop.runtime job).done.runtime.listener.sock) :
    turnSent loop input = [data] := by
  have ready : reconnect loop = some loop := if_neg fun moved => moved vacant.connected
  obtain ⟨mux, jobs, filled_, contents, egress, -⟩ := intake_offers vacant.idle offers loaded
  obtain ⟨early, none_early⟩ := flushed_none unsent input.early
  have pumped : DaemonDelivery.pumped input loop = (pump (input.world.codecEnv loop.runtime)
      input.clock input.waiting loop.mux).1 := by
    unfold DaemonDelivery.pumped
    rw [early]
    exact (@flushed_none (pump (input.world.codecEnv loop.runtime) input.clock input.waiting
      loop.mux).1 unsent input.late).1
  have none_late : flushOutboxSent input.late (pump (input.world.codecEnv loop.runtime)
      input.clock input.waiting loop.mux).1 = [] :=
    (@flushed_none (pump (input.world.codecEnv loop.runtime) input.clock input.waiting
      loop.mux).1 unsent input.late).2
  have bare : mux.egress.contents = [] := by
    rw [egress, pumped]
    exact unsent
  obtain ⟨rc, left, quiet⟩ := staged mux.egress bare
  obtain ⟨logged, rest, drained⟩ := drain_single input.world loop.runtime contents mux.egress
  rw [if_neg (by rw [rc]; decide)] at drained
  have pending : MuxEgress.hasPending (stageProcessed input.world 0 mux.egress
      (process input.world loop.runtime job)).egress = true := by
    unfold MuxEgress.hasPending
    rw [← RingQueue.Ring.contents_length, left]
    rfl
  unfold turnSent
  rw [ready]
  dsimp only
  rw [if_neg (by rw [vacant.working]; exact Bool.false_ne_true), none_early, early, none_late,
    filled_]
  unfold drainJobsAndFlushSent
  dsimp only
  rw [logged, drained]
  unfold replaySent replaySent
  rw [quiet, if_neg (lt_irrefl (0 : ℤ)), if_pos pending]
  exact flush_alone sends left filled open_

end Turn

section Journey

variable {adapter : Adapter} {client : CodecEnv} {send : SendPacket} {user : UserSendData}
  {loop : Loop} {input : Turn} {datagram : Datagram} {window : Window} {handed : List UInt64}

/-- The answer is the only datagram that reaches a client in one round of its waiting, and the
client holds the key for it. -/
structure Returning (adapter : Adapter) (server : CodecEnv) (packet : SendPacket)
    (policy : PolicyEnforceEncryption) (round : Round) (back : Datagram) (window : Window) :
    Prop where
  peer : Peer server round.env
  apart : Distinct adapter server round.env packet back.ingress
  fresh : adapter.wireVersion = V1_VERSION ∨ adapter.wireVersion = V2_WIRE_VERSION →
    MuxFreshness.Fresh round.env.now packet.timestamp
  allowed : encryptionAllowed policy round.env.context (secret adapter packet) = true
  alone : round.datagrams = [back]
  timely : Timely window round.clock
  received : window.Holds back.receivedMs

/-- A client that has just connected takes the answer for its own. -/
theorem answer_accepted (member : adapter ∈ adapters) {server : CodecEnv} {hash : Hash}
    {asking : Client} {job done : Job} {packet : SendPacket} {data : EgressData} {random : Entropy}
    (lawful : Lawful server.cipher) (hashes : server.hash = hash)
    (sized : ∀ key message, (hash.hmac key message).length = HMAC_SIZE)
    (awaiting : Awaiting asking adapter job) (replies : Replies done packet)
    (request : done.request = job.request) (version : done.wireVersion = adapter.wireVersion)
    (form : done.wireForm = formOf adapter.wireVersion) {config : Option Config}
    {reply : ActionReply} (response : done.response = buildSemanticReply config job reply)
    (own : done.request.hmac.length = HMAC_SIZE) (signs : done.wireAuth = true)
    (keyed : ∀ session, server.session = some session → session.hmacKey = asking.hmacKey)
    (encoded : adapter.encode server random packet = some data)
    {policy : PolicyEnforceEncryption} {round : Round} {back : Datagram} {window : Window}
    (returning : Returning adapter server packet policy round back window)
    (bytes : back.bytes = data.egressBuffer) (socketFd : ℤ) :
    (awaitResponse hash asking (connectSocket socketFd policy) [round]).exitStatus =
      exitStatusOf reply := by
  have short := adapter_encode_length member random data encoded
  have exchange : Exchange adapter server round.env packet (replyData done) back.ingress := by
    refine ⟨lawful, returning.peer, ?_, replies.user, replies.fits, own,
      ⟨random, data, encoded, ?_⟩, returning.fresh⟩
    · rw [hashes]
      exact sized
    · change back.bytes.take NORMALIZED_PACKET_BUFFER_SIZE = data.egressBuffer
      rw [bytes]
      exact List.take_of_length_le short
  obtain ⟨p, after, made, delivered⟩ := normalize_delivers member exchange returning.apart policy
    ⟨false⟩
  rw [if_pos returning.allowed] at made
  have quiet := quiet_connect socketFd policy
  have version' := delivered.carries.version
  have structured : p.wireVersion ≠ 0 := by
    rw [version']
    exact adapters_structured adapter member
  have vacant (i : Fin SESSION_CAPACITY) : ((MuxSession.expire
      (connectSocket socketFd policy).intake.session round.clock.start).2.sessions i).active =
        false := by
    change (if MuxSession.isExpired Session.zero round.clock.start then Session.zero
      else Session.zero).active = false
    split
    · rfl
    · rfl
  have unknown : findByClientSession (MuxSession.expire
      (connectSocket socketFd policy).intake.session round.clock.start).2 p.sessionId
      p.wireVersion p.wireForm = none := by
    unfold findByClientSession
    split
    · rfl
    · apply SlotTable.find?_none_iff.mpr
      intro i
      rw [vacant i]
      rfl
  have nobody : find (MuxSession.expire (connectSocket socketFd policy).intake.session
      round.clock.start).2 p.sessionId = none := by
    unfold MuxSession.find
    split
    · rfl
    · apply SlotTable.find?_none_iff.mpr
      intro i
      rw [vacant i]
      rfl
  have welcome : Welcome (MuxSession.expire (connectSocket socketFd policy).intake.session
      round.clock.start).2 after p :=
    ⟨⟨fun _ => unknown, fun _ _ => nobody, fun raw => absurd raw structured⟩,
      ⟨⟨0, Nat.zero_lt_succ _⟩, vacant _⟩⟩
  have whole : Singular p ∧ p.fragmentIndex = 0 := by
    by_cases modern : adapter.wireVersion = V4_WIRE_VERSION
    · obtain ⟨-, -, -, index, count⟩ := delivered.carries.ids modern
      exact ⟨.inr (count.trans replies.fragment.2), index.trans replies.fragment.1⟩
    · obtain ⟨plain, -⟩ := delivered.plain modern
      exact ⟨.inr plain.fragmentCount, plain.fragmentIndex⟩
  obtain ⟨streamId, messageId, offers⟩ := pump_visit quiet (by decide) returning.timely
    returning.received made welcome whole.1 whole.2
  rw [← returning.alone] at offers
  exact @awaitRound_single hash asking _ _ _ ⟨connectSocket socketFd policy, 1, 0, [], []⟩ round
    awaiting.structured offers (reply_accepted member awaiting replies request version form
      response signs hashes keyed delivered _ messageId streamId)

theorem lookup_member (member : adapter ∈ adapters) :
    lookupAdapterWireVersion adapter.wireVersion = some adapter := by
  rcases adapters_cases member with rfl | rfl | rfl | rfl
  · rfl
  · rfl
  · rfl
  · rfl

/-- The client that has sent the request: it waits for a signed answer of its own protocol and
holds the key that the daemon then keeps for its user. -/
structure Awaits (asking : Client) (adapter : Adapter) (user : UserSendData)
    (config : Option Config) : Prop where
  structured : asking.deadDrop = false
  normal : asking.opts.hmacMode = .normal
  protocol : protocolWireVersion asking.protocol = adapter.wireVersion
  sent : asking.sendUser = user
  key : ∀ owner, userById config user.userId.toUInt32 = some owner →
    owner.hmacKey = asking.hmacKey

structure Answers (job : Job) (done : Consumed) (config : Option Config) (reply : ActionReply) :
    Prop where
  same : Answered job done.job
  signed : done.job.wireAuth = true
  response : done.job.response = buildSemanticReply config job reply
  keyed : DaemonReplies.Keyed done.runtime.config done.runtime.session done.job

theorem consume_answers {hash : Hash} {handlers : Handlers} {runtime : Runtime} {job : Job}
    (structured : job.wireVersion ≠ 0) (silent : Silent job)
    (asks : asksReply (consume hash handlers runtime job).job = true) : ∃ config reply,
      Answers job (consume hash handlers runtime job) config reply := by
  have keyed := @consume_keyed hash handlers runtime job structured silent asks
  have signed := DaemonReflection.consume_wireAuth structured silent asks
  rcases @consume_semantic hash handlers runtime job structured silent with
    quiet | ⟨config, reply, response⟩
  · rw [asksReply_silent quiet] at asks
    cases asks
  · exact ⟨config, reply, consume_answered job, signed, response, keyed⟩

theorem process_staged {world : World} {runtime : Runtime} {job : Job} (member : adapter ∈ adapters)
    (lawful : Lawful world.cipher)
    (version : (process world runtime job).done.job.wireVersion = adapter.wireVersion)
    (asks : asksReply (process world runtime job).done.job = true)
    (sendable : Sendable world.cipher (process world runtime job).done.runtime.session
      (process world runtime job).done.job) : ∃ packet data,
    copyJobReplyToSend (process world runtime job).done.job = some packet ∧
    adapter.encode (world.codecEnv (process world runtime job).done.runtime)
      (world.random 0 false 0) packet = some data ∧
    ∀ egress : EgressState, egress.contents = [] →
      (stageProcessed world 0 egress (process world runtime job)).rc = 1 ∧
      (stageProcessed world 0 egress (process world runtime job)).egress.contents = [data] ∧
      stageProcessedSent world 0 egress (process world runtime job) = [] := by
  have logged : (process world runtime job).reply = some (world.codecEnv
      (process world runtime job).done.runtime, (process world runtime job).done.job) := if_pos asks
  generalize process world runtime job = record at *
  have raw : record.done.job.wireVersion ≠ 0 := by
    rw [version]
    exact adapters_structured adapter member
  have alone (egress : EgressState) (empty : egress.contents = []) :=
    @stageOutboxReply_alone (world.codecEnv record.done.runtime) record.done.runtime.session
      record.done.job raw rfl lawful sendable (world.random 0) (world.send 0)
      record.done.runtime.listener.sock egress empty
  obtain ⟨packet, found, data, copied, looked, encoded, -⟩ := alone MuxEgress.stateInit rfl
  have same : found = adapter := by
    rw [(copied_replies copied).version, version, lookup_member member] at looked
    exact (Option.some.inj looked).symm
  subst same
  refine ⟨packet, data, copied, encoded, ?_⟩
  intro egress empty
  obtain ⟨packet', adapter', data', copied', looked', encoded', rc, contents, unsent⟩ :=
    alone egress empty
  obtain rfl := Option.some.inj (copied'.symm.trans copied)
  obtain rfl := Option.some.inj (looked'.symm.trans looked)
  obtain rfl := Option.some.inj (encoded'.symm.trans encoded)
  unfold stageProcessed stageProcessedSent
  rw [logged]
  exact ⟨rc, contents, unsent⟩

theorem becomes_awaiting {asking : Client} {job : Job} {config : Option Config}
    (awaits : Awaits asking adapter user config)
    (becomes : Becomes adapter client send user datagram job) : Awaiting asking adapter job := by
  refine ⟨awaits.structured, awaits.normal, awaits.protocol, ?_, ?_, ?_⟩
  · rw [awaits.sent]
    exact becomes.enqueued.userId.symm
  · rw [awaits.sent]
    exact becomes.enqueued.actionId.symm
  · rw [awaits.sent]
    exact becomes.enqueued.challenge.symm

/-- The turn sends one datagram, to the request's sender, and the client that gets it exits with
the status of a reply. -/
def Settles (adapter : Adapter) (user : UserSendData) (datagram : Datagram) (loop : Loop)
    (input : Turn) (record : Processed) (reply : ActionReply) : Prop :=
  ∃ packet data, copyJobReplyToSend record.done.job = some packet ∧
    turnSent loop input = [data] ∧ target data = ⟨datagram.ip, datagram.clientPort⟩ ∧
    ∀ (asking : Client) (policy : PolicyEnforceEncryption) (round : Round) (back : Datagram)
      (window : Window) (socketFd : ℤ),
      Awaits asking adapter user record.done.runtime.config →
      Returning adapter (input.world.codecEnv record.done.runtime) packet policy round back
        window → back.bytes = data.egressBuffer →
      (awaitResponse input.world.hash asking (connectSocket socketFd policy)
        [round]).exitStatus = exitStatusOf reply

theorem brings_settles (member : adapter ∈ adapters)
    (exchange : Exchange adapter client (input.world.codecEnv loop.runtime) send user
      datagram.ingress) (addressed : datagram.ip.length ≤ 63) (vacant : Vacant loop input)
    (brings : Brings adapter client send user loop input datagram)
    (hashes : input.world.hash = client.hash) (unsent : loop.mux.egress.contents = [])
    (sends : ∀ k packet, input.last k packet = true) {record : Processed}
    (processed : .processed record ∈ (turn loop input).2)
    (asks : asksReply record.done.job = true)
    (sendable : Sendable input.world.cipher record.done.runtime.session record.done.job)
    (open_ : 0 ≤ record.done.runtime.listener.sock) :
    ∃ config reply, record.done.job.response = buildSemanticReply config record.job reply ∧
      Settles adapter user datagram loop input record reply := by
  obtain ⟨p, job, after, offers, loaded, becomes⟩ := brings
  have events := turn_offers vacant offers loaded
  obtain rfl : record = process input.world loop.runtime job := by
    rw [events] at processed
    simpa using processed
  have structured : job.wireVersion ≠ 0 := by
    rw [becomes.enqueued.version]
    exact adapters_structured adapter member
  have lawful : Lawful input.world.cipher := by
    have same : input.world.cipher = client.cipher := exchange.peer.cipher
    rw [same]
    exact exchange.lawful
  obtain ⟨config, reply, answers⟩ := consume_answers structured becomes.silent asks
  change Answers job (process input.world loop.runtime job).done config reply at answers
  obtain ⟨owner, known, -, hmacKey, -⟩ := answers.keyed
  have version : (process input.world loop.runtime job).done.job.wireVersion =
      adapter.wireVersion := by
    rw [answers.same]
    exact becomes.enqueued.version
  have form : (process input.world loop.runtime job).done.job.wireForm =
      formOf adapter.wireVersion := by
    rw [answers.same]
    exact becomes.enqueued.form
  have request : (process input.world loop.runtime job).done.job.request = job.request := by
    rw [answers.same]
  obtain ⟨packet, data, copied, encoded, staged⟩ :=
    process_staged member lawful version asks sendable
  have replies := copied_replies copied
  have filled := encode_nonempty member lawful replies.user replies.fits encoded
  refine ⟨config, reply, answers.response, packet, data, copied, ?_, ?_, ?_⟩
  · exact turn_sends vacant unsent offers loaded staged filled sends open_
  · rw [encode_target member encoded, copyJobReplyToSend_target copied,
      Answered.asker answers.same]
    unfold asker
    rw [becomes.ip, becomes.clientPort, List.take_of_length_le addressed]
  · intro asking policy round back window socketFd awaits returning bytes
    have own : (process input.world loop.runtime job).done.job.request.hmac.length =
        HMAC_SIZE := by
      rw [request]
      exact sentHmac_length becomes.signed exchange.own exchange.hashes
    have sized (key message : Bytes) :
        (input.world.hash.hmac key message).length = HMAC_SIZE := by
      rw [hashes]
      exact exchange.hashes key message
    have installed (session : OpenSSLSession) (mine : (input.world.codecEnv
        (process input.world loop.runtime job).done.runtime).session = some session) :
        session.hmacKey = asking.hmacKey := by
      obtain rfl := Option.some.inj mine
      have userId : job.request.userId = user.userId := becomes.enqueued.userId
      rw [request, userId] at known
      exact hmacKey.trans (awaits.key owner known)
    exact answer_accepted member lawful rfl sized (becomes_awaiting awaits becomes) replies
      request version form answers.response own answers.signed installed encoded returning bytes
      socketFd

theorem processed_settles
    (meeting : Meeting adapter client send user loop input datagram window handed)
    (hashes : input.world.hash = client.hash) (unsent : loop.mux.egress.contents = [])
    (sends : ∀ k packet, input.last k packet = true) {record : Processed}
    (processed : .processed record ∈ (turn loop input).2)
    (asks : asksReply record.done.job = true)
    (sendable : Sendable input.world.cipher record.done.runtime.session record.done.job)
    (open_ : 0 ≤ record.done.runtime.listener.sock) :
    ∃ config reply, record.done.job.response = buildSemanticReply config record.job reply ∧
      Settles adapter user datagram loop input record reply := by
  have allowed : LetThrough adapter send loop := by
    by_contra refused
    rw [turn_refuses meeting refused] at processed
    simp at processed
  exact brings_settles meeting.member meeting.exchange meeting.addressed meeting.vacant
    (meeting_brings meeting allowed) hashes unsent sends processed asks sendable open_

end Journey

section Vault

def answersAlice (config : Config) (record : Processed) : Bool :=
  asksReply record.done.job && record.done.job.wireVersion == V4_WIRE_VERSION &&
  record.done.job.wireForm == FORM1_ID &&
  decide (record.done.job.response.length ≤ USER_DATA_PAYLOAD_MAX) &&
  decide (record.done.runtime.session.hmacKeyLen = 32) &&
  decide (record.done.runtime.session.publicKey = some 6) &&
  decide (record.done.runtime.listener.sock = 3) &&
  decide (record.done.runtime.config = some config) &&
  decide (record.done.job.response[0]? = some STATUS_OK)

theorem answersAlice_true {config : Config} {record : Processed}
    (answers : answersAlice config record = true) : asksReply record.done.job = true ∧
      Sendable boxCipher record.done.runtime.session record.done.job ∧
      0 ≤ record.done.runtime.listener.sock ∧ record.done.runtime.config = some config ∧
      record.done.job.response[0]? = some STATUS_OK := by
  unfold answersAlice at answers
  simp only [Bool.and_eq_true, beq_iff_eq, decide_eq_true_eq] at answers
  obtain ⟨⟨⟨⟨⟨⟨⟨⟨asks, version⟩, form⟩, short⟩, hmacKeyLen⟩, publicKey⟩, sock⟩, current⟩, ok⟩ :=
    answers
  refine ⟨asks, ?_, by rw [sock]; decide, current, ok⟩
  unfold Sendable
  rw [if_neg (by rw [version]; decide)]
  refine ⟨short, fun _ => hmacKeyLen.ge, .inr ⟨.inr version, form, 6, publicKey, rfl, ?_⟩⟩
  decide

theorem vault_answers : (turn vaultLoop vaultTurn).2.any (fun
    | .processed record => answersAlice vaultConfig record
    | _ => false) = true := by decide +kernel

def vaultOpts : Opts := ⟨.normal, true, 3, 7, 1, [104, 105]⟩

def vaultClient : Client := ⟨vaultOpts, false, .v4, DaemonPayload.alice.hmacKey, sampleUser⟩

def vaultRound (back : Datagram) : Round where
  env := { aliceClient with
    context := ⟨some ⟨ascii "client".toList, some 6⟩, true, []⟩
    session := some ⟨some 5, some 6, DaemonPayload.alice.hmacKey, HMAC_SIZE⟩ }
  clock := ⟨5000, fun _ => 5000, 5000⟩
  datagrams := [back]

theorem vault_returning (runtime : Runtime) (packet : SendPacket) (back : Datagram)
    (received : back.receivedMs = 5000) :
    Returning codecV4 (vaultTurn.world.codecEnv runtime) packet .any (vaultRound back) back
      steadyWindow := by
  have opens (padding message out : Bytes)
      (wrapped : sessionEncrypt (vaultTurn.world.codecEnv runtime) padding message = some out) :
      boxCipher.decrypt 6 out = some message := by
    simp only [sessionEncrypt, Option.bind_eq_bind, Option.bind_eq_some_iff] at wrapped
    obtain ⟨session, -, key, -, encrypted⟩ := wrapped
    exact boxCipher_opens key 6 padding message out encrypted
  have modern : ¬ (codecV4.wireVersion = V1_VERSION ∨ codecV4.wireVersion = V2_WIRE_VERSION) := by
    decide
  refine ⟨⟨rfl, opens, opens⟩, ⟨fun _ _ _ _ _ _ _ _ => le_rfl, fun old => absurd old (by decide),
    fun old => absurd old modern⟩, fun old => absurd old modern, ?_, rfl,
    ⟨steady_holds, fun _ => steady_holds, steady_holds⟩, ?_⟩
  · unfold secret
    rw [Bool.or_comm]
    rfl
  · rw [received]
    exact steady_holds

/-- An answer that is settled with a success has alice's client exit with 0. -/
theorem vault_settles {loop : Loop} {input : Turn} {record : Processed} {reply : ActionReply}
    (hash : input.world.hash = vaultTurn.world.hash) (codec : input.world.codecEnv
      record.done.runtime = vaultTurn.world.codecEnv record.done.runtime)
    (known : userById record.done.runtime.config sampleUser.userId.toUInt32 = some sealedAlice)
    (settles : Settles codecV4 sampleUser vaultKnock loop input record reply)
    (fine : reply.ok = true) : ∃ data, turnSent loop input = [data] ∧
      target data = ⟨vaultKnock.ip, vaultKnock.clientPort⟩ ∧
      (awaitResponse vaultTurn.world.hash vaultClient (connectSocket 4 .any)
        [vaultRound ⟨data.egressBuffer, 5000, [], 50000⟩]).exitStatus = 0 := by
  obtain ⟨packet, data, copied, sent, goes, accepted⟩ := settles
  have awaits : Awaits vaultClient codecV4 sampleUser record.done.runtime.config := by
    refine ⟨rfl, rfl, rfl, rfl, ?_⟩
    intro owner same
    obtain rfl := Option.some.inj (known.symm.trans same)
    rfl
  have status := accepted vaultClient .any (vaultRound ⟨data.egressBuffer, 5000, [], 50000⟩)
    ⟨data.egressBuffer, 5000, [], 50000⟩ steadyWindow 4 awaits
    (by rw [codec]; exact vault_returning _ packet _ rfl) rfl
  refine ⟨data, sent, goes, ?_⟩
  rw [← hash, status]
  exact if_pos fine

end Vault

end Siglatch.KnockReturn
