import Siglatch.DaemonReplies
import Siglatch.KnockSignature
import Siglatch.KnockTransit
import Siglatch.MuxVisit

set_option autoImplicit false

namespace Siglatch.KnockJourney
open MuxTypes AppConfig KnockDigest RequestPolicy DaemonTypes DaemonAuth DaemonPayload DaemonLoop
open KnockCodec MuxAdapter MuxNormalize MuxInbox MuxSession MuxStreamView MuxIntake MuxFragments
  MuxRoundTrip
open KnockSignature KnockTransit MuxVisit MuxEgress

/-! A client's request on its way into a daemon that has nothing else to do, and the answer on its
way back. -/

section Request

/-- The request is all that waits for a daemon that has caught up with its work, and it comes from
nobody whose session the daemon still keeps. -/
structure Meeting (adapter : Adapter) (client : CodecEnv) (send : SendPacket)
    (user : UserSendData) (loop : Loop) (input : Turn) (datagram : Datagram) (window : Window)
    (handed : List UInt64) : Prop where
  member : adapter ∈ adapters
  exchange : Exchange adapter client (input.world.codecEnv loop.runtime) send user datagram.ingress
  apart : Distinct adapter client (input.world.codecEnv loop.runtime) send datagram.ingress
  whole : adapter.wireVersion = V4_WIRE_VERSION →
    send.fragmentIndex = 0 ∧ (send.fragmentCount = 0 ∨ send.fragmentCount = 1)
  addressed : datagram.ip.length ≤ 63
  connected : loop.trackedSock = loop.runtime.listener.sock
  quiet : Quiet loop.mux handed
  idle : loop.jobs.contents = []
  few : distinct handed < 64
  working : input.broken = false
  waiting : input.waiting = [datagram]
  timely : Timely window input.clock
  received : window.Holds datagram.receivedMs
  slot : ∃ i, ((MuxSession.expire loop.mux.intake.session input.clock.start).2.sessions i).active =
    false
  unknown : adapter.wireVersion = V4_WIRE_VERSION →
    findByClientSession (MuxSession.expire loop.mux.intake.session input.clock.start).2
      send.sessionId V4_WIRE_VERSION FORM1_ID = none

variable {adapter : Adapter} {client : CodecEnv} {send : SendPacket} {user : UserSendData}
  {loop : Loop} {input : Turn} {datagram : Datagram} {window : Window} {handed : List UInt64}

/-- The daemon's socket is the one that it listens on, and it has no job left over. -/
structure Vacant (loop : Loop) (input : Turn) : Prop where
  connected : loop.trackedSock = loop.runtime.listener.sock
  working : input.broken = false
  idle : loop.jobs.contents = []

theorem Meeting.vacant
    (meeting : Meeting adapter client send user loop input datagram window handed) :
    Vacant loop input := ⟨meeting.connected, meeting.working, meeting.idle⟩

/-- What an idle connection offers after the pump becomes the only job. -/
theorem intake_offers {p : RecvPacket} {job : Job} {after : List UInt64}
    (idle : loop.jobs.contents = [])
    (offers : Offers (DaemonDelivery.pumped input loop) p after)
    (loaded : loadFromNormal p = some job) : ∃ mux jobs, intake input loop = ⟨mux, jobs, [p]⟩ ∧
      jobs.contents = [job] ∧ mux.egress = (DaemonDelivery.pumped input loop).egress ∧
      handOut (DaemonDelivery.pumped input loop) = some (p, mux) := by
  obtain ⟨mux, handedOut, -, -, egress, -⟩ := offers_handed offers
  have empty : loop.jobs.count = 0 := (RingQueue.Ring.contents_eq_nil loop.jobs).mp idle
  obtain ⟨jobs, accepted⟩ : ∃ jobs, enqueue loop.jobs p = some jobs := by
    unfold enqueue
    rw [dif_pos (by rw [empty]; exact Nat.zero_lt_succ 63), loaded]
    exact ⟨_, rfl⟩
  obtain ⟨found, same, contents⟩ := enqueue_some accepted
  obtain rfl := Option.some.inj (same.symm.trans loaded)
  rw [idle, List.nil_append] at contents
  refine ⟨mux, jobs, ?_, contents, egress, handedOut⟩
  rw [DaemonDelivery.intake_pumped, offers.count]
  unfold fill
  rw [handedOut]
  dsimp only
  rw [accepted]
  rfl

/-- The runner's loop over a single job. -/
theorem drain_single (world : DaemonRunner.World) (runtime : Runtime) {jobs : JobState} {job : Job}
    (contents : jobs.contents = [job]) (egress : EgressState) :
    let record := process world runtime job
    let reply := stageProcessed world 0 egress record
    drainLog world jobs.count 0 runtime jobs egress = [record] ∧ ∃ rest,
      DaemonRunner.drainLoop world jobs.count 0 runtime jobs egress = if reply.rc ≤ 0 then
        ⟨if reply.rc < 0 then reply.rc else -1, record.done.runtime, rest, reply.egress⟩
      else ⟨0, record.done.runtime, rest, reply.egress⟩ := by
  have count : jobs.count = 1 := by
    rw [← RingQueue.Ring.contents_length, contents]
    rfl
  cases taken : DaemonTypes.drain jobs with
  | none =>
    rw [(drain_none_iff jobs).mp taken] at contents
    cases contents
  | some next =>
    obtain ⟨first, rest⟩ := next
    have order := drain_some taken
    rw [contents] at order
    obtain ⟨rfl, -⟩ := List.cons.inj order
    refine ⟨?_, rest, ?_⟩
    · rw [count, drainLog_succ 0 0 runtime egress taken]
      split
      · rfl
      · rfl
    · rw [count, drainLoop_succ 0 0 runtime egress taken]
      rfl

theorem turn_offers {p : RecvPacket} {job : Job} {after : List UInt64} (vacant : Vacant loop input)
    (offers : Offers (DaemonDelivery.pumped input loop) p after)
    (loaded : loadFromNormal p = some job) :
    (turn loop input).2 = [.pumped loop.runtime (flushOutbox input.early loop.mux), .drained p,
      .processed (process input.world loop.runtime job)] := by
  have ready : reconnect loop = some loop := if_neg fun moved => moved vacant.connected
  obtain ⟨mux, jobs, filled, contents, -⟩ := intake_offers vacant.idle offers loaded
  obtain ⟨logged, -⟩ := drain_single input.world loop.runtime contents mux.egress
  unfold turn
  rw [ready]
  dsimp only
  rw [if_neg (by rw [vacant.working]; exact Bool.false_ne_true), filled]
  dsimp only
  rw [logged]
  rfl

theorem intake_unready
    (unready : (DaemonDelivery.pumped input loop).intake.stream.readyCount = 0) :
    intake input loop = ⟨DaemonDelivery.pumped input loop, loop.jobs, []⟩ := by
  rw [DaemonDelivery.intake_pumped, unready]
  rfl

theorem turn_unready (vacant : Vacant loop input)
    (unready : (DaemonDelivery.pumped input loop).intake.stream.readyCount = 0) :
    (turn loop input).2 = [.pumped loop.runtime (flushOutbox input.early loop.mux)] := by
  have ready : reconnect loop = some loop := if_neg fun moved => moved vacant.connected
  have empty : loop.jobs.count = 0 :=
    (RingQueue.Ring.contents_eq_nil loop.jobs).mp vacant.idle
  unfold turn
  rw [ready]
  dsimp only
  rw [if_neg (by rw [vacant.working]; exact Bool.false_ne_true), intake_unready unready]
  dsimp only
  rw [empty]
  rfl

theorem flushed_quiet {mux : MuxState} (quiet : Quiet mux handed)
    (send : ℕ → EgressData → Bool) : Quiet (flushOutbox send mux) handed := by
  obtain ⟨intake, ingress, -⟩ := flushOutbox_kept send mux
  exact ⟨ingress ▸ quiet.looked, intake ▸ quiet.queue, intake ▸ quiet.consistent,
    intake ▸ quiet.adapters, intake ▸ quiet.ledger⟩

theorem flushed_offers {mux : MuxState} {p : RecvPacket} (offers : Offers mux p handed)
    (send : ℕ → EgressData → Bool) : Offers (flushOutbox send mux) p handed := by
  obtain ⟨intake, ingress, -⟩ := flushOutbox_kept send mux
  exact ⟨ingress ▸ offers.looked, intake ▸ offers.count, intake ▸ offers.drained,
    intake ▸ offers.consistent, intake ▸ offers.adapters, intake ▸ offers.ledger⟩

variable (meeting : Meeting adapter client send user loop input datagram window handed)

include meeting

theorem delivered_welcome {p : RecvPacket} {after : Control}
    (delivered : Delivered adapter client send user datagram.ingress ⟨false⟩ after p) :
    Welcome (MuxSession.expire loop.mux.intake.session input.clock.start).2 after p ∧
      Singular p ∧ p.fragmentIndex = 0 := by
  have version := delivered.carries.version
  have structured : p.wireVersion ≠ 0 := by
    rw [version]
    exact adapters_structured adapter meeting.member
  by_cases modern : adapter.wireVersion = V4_WIRE_VERSION
  · have named := delivered.named modern
    obtain ⟨session, -, -, index, count⟩ := delivered.carries.ids modern
    obtain ⟨first, single⟩ := meeting.whole modern
    refine ⟨⟨⟨?_, ?_, fun raw => absurd raw structured⟩, meeting.slot⟩, ?_, index.trans first⟩
    · intro _
      rw [session, version, delivered.carries.form, modern]
      exact meeting.unknown modern
    · intro other
      rw [named] at other
      cases other
    · unfold Singular
      rw [count]
      exact single
  · obtain ⟨plain, same⟩ := delivered.plain modern
    refine ⟨⟨⟨?_, ?_, fun raw => absurd raw structured⟩, meeting.slot⟩, .inr plain.fragmentCount,
      plain.fragmentIndex⟩
    · intro other
      rw [same] at other
      cases other
    · intro _ session
      exact absurd plain.sessionId session

structure Becomes (adapter : Adapter) (client : CodecEnv) (send : SendPacket) (user : UserSendData)
    (datagram : Datagram) (job : Job) : Prop where
  enqueued : Enqueued adapter.wireVersion (sendUnit send user) job
  signed : SentHmac client adapter.wireVersion send user job.request.hmac
  ip : job.ip = datagram.ip
  clientPort : job.clientPort = datagram.clientPort
  encrypted : job.encrypted = secret adapter send
  silent : job.shouldReply = false ∧ job.response = []
  fragment : job.fragmentIndex = 0

omit meeting in
theorem delivered_becomes (member : adapter ∈ adapters) (addressed : datagram.ip.length ≤ 63)
    {p : RecvPacket} {after : Control} {sessionId messageId : UInt64} {streamId : UInt32}
    (delivered : Delivered adapter client send user datagram.ingress ⟨false⟩ after p)
    (first : p.fragmentIndex = 0) (quiet : p.shouldReply = false) : ∃ job,
      loadFromNormal (deliveredAs (MuxSession.handedOn p sessionId) streamId messageId) = some job ∧
      Becomes adapter client send user datagram job := by
  obtain ⟨hmac, sent, carried⟩ := delivered.carries.user
  have structured : p.wireVersion ≠ 0 := by
    rw [delivered.carries.version]
    exact adapters_structured adapter member
  have address : p.ip.take 63 = datagram.ip := by
    rw [delivered.ip]
    exact List.take_of_length_le addressed
  unfold loadFromNormal deliveredAs MuxSession.handedOn
  dsimp only
  rw [if_neg (by exact structured)]
  change ∃ job, p.user.map _ = some job ∧ _
  rw [carried, Option.map_some]
  exact ⟨_, rfl, ⟨delivered.carries.version, delivered.carries.form, delivered.carries.timestamp,
    rfl, rfl, rfl, rfl⟩, sent, address, delivered.clientPort, delivered.encrypted, ⟨quiet, rfl⟩,
    first⟩

/-- The pump of the turn leaves behind what becomes the job of the request. -/
def Brings (adapter : Adapter) (client : CodecEnv) (send : SendPacket) (user : UserSendData)
    (loop : Loop) (input : Turn) (datagram : Datagram) : Prop :=
  ∃ p job after, Offers (DaemonDelivery.pumped input loop) p after ∧ loadFromNormal p = some job ∧
    Becomes adapter client send user datagram job

/-- The encryption policies of the connection and of the codec context let the request through. -/
def LetThrough (adapter : Adapter) (send : SendPacket) (loop : Loop) : Prop :=
  encryptionAllowed loop.mux.policy loop.runtime.codecContext (secret adapter send) = true

theorem meeting_brings (allowed : LetThrough adapter send loop) :
    Brings adapter client send user loop input datagram := by
  obtain ⟨p, after, made, delivered⟩ := normalize_delivers meeting.member meeting.exchange
    meeting.apart loop.mux.policy ⟨false⟩
  change encryptionAllowed loop.mux.policy (input.world.codecEnv loop.runtime).context
    (secret adapter send) = true at allowed
  rw [if_pos allowed] at made
  obtain ⟨welcome, single, first⟩ := delivered_welcome meeting delivered
  obtain ⟨intake, -, policy⟩ := flushOutbox_kept input.early loop.mux
  have quiet := flushed_quiet meeting.quiet input.early
  have silent := DaemonReplies.normalize_quiet (congrArg Prod.fst made)
  rw [← policy] at made
  rw [← intake] at welcome
  obtain ⟨streamId, messageId, offers⟩ := pump_visit quiet meeting.few meeting.timely
    meeting.received made welcome single first
  obtain ⟨job, loaded, becomes⟩ := @delivered_becomes adapter client send user datagram
    meeting.member meeting.addressed p after
    (flushOutbox input.early loop.mux).intake.session.nextSessionId messageId streamId delivered
    first silent
  refine ⟨_, job, handed ++ [(flushOutbox input.early loop.mux).intake.session.nextSessionId], ?_,
    loaded, becomes⟩
  unfold DaemonDelivery.pumped
  rw [meeting.waiting]
  exact flushed_offers offers input.late

theorem turn_refuses (refused : ¬ LetThrough adapter send loop) :
    (turn loop input).2 = [.pumped loop.runtime (flushOutbox input.early loop.mux)] := by
  obtain ⟨p, after, made, -⟩ := normalize_delivers meeting.member meeting.exchange
    meeting.apart loop.mux.policy ⟨false⟩
  change ¬ encryptionAllowed loop.mux.policy (input.world.codecEnv loop.runtime).context
    (secret adapter send) = true at refused
  rw [if_neg refused] at made
  obtain ⟨-, -, policy⟩ := flushOutbox_kept input.early loop.mux
  have quiet := flushed_quiet meeting.quiet input.early
  rw [← policy] at made
  obtain ⟨rest, -⟩ := pump_skipped quiet input.clock made
  apply turn_unready meeting.vacant
  unfold DaemonDelivery.pumped
  rw [meeting.waiting, (flushOutbox_kept input.late _).1]
  exact quiet_unready rest

omit meeting

/-- What the daemon's configuration says of a request from an address, leaving aside its
signature. -/
structure Permits (config : Option Config) (listener : Listener) (user : UserSendData)
    (ip : CString) (server : Server) (owner : User) (action : Action) : Prop where
  listening : listener.server = some server
  user_known : userById config user.userId.toUInt32 = some owner
  action_known : actionById config user.actionId.toUInt32 = some action
  server_offers : action.name ∈ server.actions
  user_may : action.name ∈ owner.actions
  action_enabled : action.enabled = true
  server_admits : Admits server.allowedIps ip
  user_admits : Admits owner.allowedIps ip
  action_admits : Admits action.allowedIps ip

structure Keyed (client : CodecEnv) (send : SendPacket) (user : UserSendData) (loop : Loop)
    (input : Turn) : Prop where
  signs : send.wireAuth = true
  hash : input.world.hash = client.hash
  key : ∀ owner, userById loop.runtime.config user.userId.toUInt32 = some owner →
    ∃ signer, client.session = some signer ∧ owner.hmacKey = signer.hmacKey

theorem becomes_signed {job : Job} (member : adapter ∈ adapters)
    (becomes : Becomes adapter client send user datagram job)
    (keyed : Keyed client send user loop input) {owner : User}
    (known : userById loop.runtime.config user.userId.toUInt32 = some owner) :
    SignedBy input.world.hash owner.hmacKey job := by
  obtain ⟨signer, installed, same⟩ := keyed.key owner known
  obtain ⟨session, digest, own, digested, signed⟩ := becomes.signed.2 keyed.signs
  obtain rfl := Option.some.inj (own.symm.trans installed)
  obtain ⟨message, made, rfl⟩ := unitDigest_signed member becomes.enqueued digested
  refine ⟨message, made, ?_⟩
  rw [keyed.hash, same]
  exact signed

theorem gate_iff {job : Job} (member : adapter ∈ adapters)
    (becomes : Becomes adapter client send user datagram job)
    (keyed : Keyed client send user loop input) (server : Server) (owner : User)
    (action : Action) :
    Gate input.world.hash loop.runtime.config loop.runtime.listener job server owner action ↔
      Permits loop.runtime.config loop.runtime.listener user datagram.ip server owner action := by
  have userId : job.request.userId = user.userId := becomes.enqueued.userId
  have actionId : job.request.actionId = user.actionId := becomes.enqueued.actionId
  constructor
  · intro gate
    exact ⟨gate.listening, userId ▸ gate.user_known, actionId ▸ gate.action_known,
      gate.server_offers, gate.user_may, gate.action_enabled, becomes.ip ▸ gate.server_admits,
      becomes.ip ▸ gate.user_admits, becomes.ip ▸ gate.action_admits⟩
  · intro permits
    have ip := becomes.ip.symm
    exact ⟨permits.listening, userId.symm ▸ permits.user_known,
      actionId.symm ▸ permits.action_known, becomes_signed member becomes keyed permits.user_known,
      permits.server_offers, permits.user_may, permits.action_enabled, ip ▸ permits.server_admits,
      ip ▸ permits.user_admits, ip ▸ permits.action_admits⟩

def Dispatches (loop : Loop) (input : Turn) (owner : User) (action : Action) : Prop :=
  ∃ record, .processed record ∈ (turn loop input).2 ∧
    record.done.dispatched = some (owner, action)

theorem brings_events (vacant : Vacant loop input)
    (brings : Brings adapter client send user loop input datagram) : ∃ p job,
      (turn loop input).2 = [.pumped loop.runtime (flushOutbox input.early loop.mux), .drained p,
        .processed (process input.world loop.runtime job)] ∧
      Becomes adapter client send user datagram job := by
  obtain ⟨p, job, after, offers, loaded, becomes⟩ := brings
  exact ⟨p, job, turn_offers vacant offers loaded, becomes⟩

theorem brings_asked (vacant : Vacant loop input)
    (brings : Brings adapter client send user loop input datagram) {record : Processed}
    (processed : .processed record ∈ (turn loop input).2) :
    Becomes adapter client send user datagram record.job := by
  obtain ⟨p, job, events, becomes⟩ := brings_events vacant brings
  rw [events] at processed
  obtain rfl : record = process input.world loop.runtime job := by simpa using processed
  exact becomes

theorem brings_dispatched_iff (member : adapter ∈ adapters) (vacant : Vacant loop input)
    (brings : Brings adapter client send user loop input datagram)
    (keyed : Keyed client send user loop input) (owner : User) (action : Action) :
    Dispatches loop input owner action ↔ ∃ server,
      Permits loop.runtime.config loop.runtime.listener user datagram.ip server owner action := by
  obtain ⟨p, job, events, becomes⟩ := brings_events vacant brings
  have structured : job.wireVersion ≠ 0 := by
    rw [becomes.enqueued.version]
    exact adapters_structured adapter member
  have served : Dispatches loop input owner action ↔
      (consume input.world.hash input.world.handlers loop.runtime job).dispatched =
        some (owner, action) := by
    unfold Dispatches
    rw [events]
    simp [process]
  rw [served, consume_dispatched_iff input.world.hash input.world.handlers loop.runtime
    structured owner action]
  exact exists_congr fun server => gate_iff member becomes keyed server owner action

theorem unready_processes (vacant : Vacant loop input)
    (unready : (DaemonDelivery.pumped input loop).intake.stream.readyCount = 0)
    (record : Processed) : .processed record ∉ (turn loop input).2 := by
  rw [turn_unready vacant unready]
  simp

/-- A signed request in any protocol reaches a caught-up daemon's action exactly if the encryption
policy lets it through and the configuration permits it, and what is processed is what was sent. -/
theorem request_dispatched_iff
    (meeting : Meeting adapter client send user loop input datagram window handed)
    (keyed : Keyed client send user loop input) (owner : User) (action : Action) :
    (Dispatches loop input owner action ↔ LetThrough adapter send loop ∧ ∃ server,
      Permits loop.runtime.config loop.runtime.listener user datagram.ip server owner action) ∧
    ∀ record, .processed record ∈ (turn loop input).2 →
      Becomes adapter client send user datagram record.job := by
  by_cases allowed : LetThrough adapter send loop
  · have brings := meeting_brings meeting allowed
    rw [and_iff_right allowed]
    exact ⟨brings_dispatched_iff meeting.member meeting.vacant brings keyed owner action,
      fun record processed => brings_asked meeting.vacant brings processed⟩
  · have events := turn_refuses meeting allowed
    have none_processed (record : Processed) : .processed record ∉ (turn loop input).2 := by
      rw [events]
      simp
    refine ⟨?_, fun record processed => absurd processed (none_processed record)⟩
    constructor
    · rintro ⟨record, processed, -⟩
      exact absurd processed (none_processed record)
    · rintro ⟨through, -⟩
      exact absurd through allowed

end Request

section Vault

def vaultServer : Server := { frontServer with secure := true, privKey := some 5 }

def sealedAlice : User := { alice with pubkey := some 6 }

def vaultConfig : Config := ⟨[sealedAlice], [DaemonRunner.doorbell], [vaultServer], []⟩

def vaultListener : Listener := ⟨3, 50000, [], some vaultServer⟩

def vaultLoop : Loop where
  runtime := ⟨some vaultConfig, vaultListener,
    (AppRuntime.initSessionForServer true (some vaultServer) OpenSSLSession.zero).2,
    ⟨some ⟨vaultServer.name, some 5⟩, true, [AppRuntime.keyEntry sealedAlice]⟩⟩
  mux := configureMuxPolicy vaultListener (connectSocket 3 .any)
  trackedSock := 3
  jobs := stateInit

def vaultSend : SendPacket :=
  KnockTransmit.buildM7muxSendPacket ⟨.normal, true, 3, 7, 1, [104, 105]⟩ .v4
    (ascii ['1', '0', '.', '0', '.', '0', '.', '9']) 50000 ⟨1, 1000, 99⟩

theorem vault_encodes :
    (codecV4.encode aliceClient KnockEncode.plainEntropy vaultSend).isSome = true := by
  decide +kernel

def vaultEgress : EgressData :=
  (codecV4.encode aliceClient KnockEncode.plainEntropy vaultSend).get vault_encodes

theorem vault_sent : codecV4.encode aliceClient KnockEncode.plainEntropy vaultSend =
    some vaultEgress := (Option.some_get vault_encodes).symm

def vaultKnock : Datagram := { aliceKnock with bytes := vaultEgress.egressBuffer }

def vaultTurn : Turn := { knockTurn 1 with waiting := [vaultKnock] }

theorem vault_exchange : Exchange codecV4 aliceClient
    (vaultTurn.world.codecEnv vaultLoop.runtime) vaultSend sampleUser vaultKnock.ingress where
  lawful := KnockEncode.boxCipher_lawful
  peer := by
    refine ⟨rfl, ?_, ?_⟩
    · intro padding message out wrapped
      exact KnockEncode.boxCipher_opens 5 5 padding message out wrapped
    · intro padding message out wrapped
      exact KnockEncode.boxCipher_opens 5 5 padding message out wrapped
  hashes := paddedHash_length
  carried := by decide +kernel
  fits := by decide
  own := by decide
  encoded := by
    refine ⟨KnockEncode.plainEntropy, vaultEgress, vault_sent, ?_⟩
    unfold Datagram.ingress vaultKnock
    dsimp only
    exact List.take_of_length_le (adapterEncode_some vault_sent)
  window old := by
    rcases old with old | old
    · exact absurd old (by decide)
    · exact absurd old (by decide)

theorem vault_meeting : Meeting codecV4 aliceClient vaultSend sampleUser vaultLoop vaultTurn
    vaultKnock steadyWindow [] where
  member := @List.mem_of_getElem? _ _ 3 _ rfl
  exchange := vault_exchange
  apart := by
    refine ⟨fun _ _ _ _ _ _ _ _ => le_rfl, fun old => absurd old (by decide), fun old => ?_⟩
    rcases old with old | old
    · exact absurd old (by decide)
    · exact absurd old (by decide)
  whole _ := ⟨rfl, .inr rfl⟩
  addressed := by decide
  connected := rfl
  quiet := quiet_connect 3 .yes
  idle := rfl
  few := by decide
  working := rfl
  waiting := rfl
  timely := ⟨steady_holds, fun _ => steady_holds, steady_holds⟩
  received := steady_holds
  slot := ⟨⟨0, Nat.zero_lt_succ _⟩, rfl⟩
  unknown _ := by decide +kernel

theorem vault_known : userById (some vaultConfig) sampleUser.userId.toUInt32 =
    some sealedAlice := by decide +kernel

theorem vault_keyed : Keyed aliceClient vaultSend sampleUser vaultLoop vaultTurn := by
  refine ⟨rfl, rfl, ?_⟩
  intro owner known
  obtain rfl := Option.some.inj (vault_known.symm.trans known)
  exact ⟨_, rfl, rfl⟩

theorem vault_permits {listener : Listener} (server : listener.server = some vaultServer) :
    Permits (some vaultConfig) listener sampleUser vaultKnock.ip vaultServer sealedAlice
      DaemonRunner.doorbell := by
  have everyone {ip : CString} (address : ip ≠ []) : Admits [] ip := ⟨address, .inl rfl⟩
  have address : vaultKnock.ip ≠ [] := by decide
  refine ⟨server, vault_known, ?_, ?_, ?_, rfl, everyone address, ?_, everyone address⟩
  · decide +kernel
  · decide +kernel
  · decide +kernel
  · refine ⟨address, .inr ⟨ascii ['1', '0', '.', '0', '.', '0', '.', '0', '/', '8'],
      List.mem_singleton_self _, ?_⟩⟩
    decide +kernel

/-- Alice's sealed request rings the bell. -/
theorem vault_dispatched : Dispatches vaultLoop vaultTurn sealedAlice DaemonRunner.doorbell :=
  (request_dispatched_iff vault_meeting vault_keyed sealedAlice DaemonRunner.doorbell).1.mpr
    ⟨rfl, vaultServer, vault_permits rfl⟩

end Vault

end Siglatch.KnockJourney
