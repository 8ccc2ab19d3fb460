import Siglatch.KnockReturn
import Siglatch.MuxKnocks

set_option autoImplicit false

namespace Siglatch.KnockService
open MuxTypes AppConfig KnockContext KnockDigest DaemonTypes DaemonAuth DaemonPayload DaemonRunner
open DaemonReplies DaemonLoop KnockCodec KnockEncode MuxAdapter MuxNormalize MuxEgress MuxOutbox
open MuxInbox MuxSession MuxStreamView MuxIntake MuxFragments MuxRoundTrip KnockTransmit
open KnockTransit KnockSignature KnockReturn MuxVisit MuxKnocks KnockJourney StepRuns

/-! A daemon that knock clients call on, one after another. -/

/-- What a client is asked to send, and its datagram as the daemon's socket has it. -/
structure Request where
  client : CodecEnv
  protocol : KnockProtocol
  opts : Opts
  targetIp : CString
  targetPort : UInt16
  moment : Moment
  datagram : Datagram

def codecOf : KnockProtocol → Adapter
  | .v1 => codecV1
  | .v2 => codecV2
  | .v3 => codecV3
  | .v4 => codecV4

theorem codecOf_member (protocol : KnockProtocol) : codecOf protocol ∈ adapters := by
  cases protocol <;> simp [codecOf, adapters]

theorem codecOf_modern (protocol : KnockProtocol) :
    (codecOf protocol).wireVersion = V4_WIRE_VERSION ↔ protocol = .v4 := by
  cases protocol <;> decide

namespace Request

variable (r : Request)

def adapter : Adapter := codecOf r.protocol

def send : SendPacket :=
  buildM7muxSendPacket r.opts r.protocol r.targetIp r.targetPort r.moment

def user : UserSendData where
  userId := r.opts.userId.toUInt16
  actionId := r.opts.actionId.toUInt8
  challenge := r.moment.challenge
  hmac := List.replicate HMAC_SIZE (if r.opts.hmacMode = .dummy then 0x42 else 0)
  payload := r.opts.payload.take USER_DATA_PAYLOAD_MAX

/-- The session that the daemon's table has for the request. Clients of protocol 4 all name the
same one. -/
def session (state : SessionState) : UInt64 :=
  match (if r.protocol = .v4 then
      findByClientSession state 1 V4_WIRE_VERSION FORM1_ID else none) with
  | some i => (state.sessions i).sessionId
  | none => state.nextSessionId

end Request

structure Visit where
  input : Turn
  request : Option Request

def visitStep (loop : Option Loop) (visit : Visit) : Option Loop × List Event :=
  DaemonLoop.step loop visit.input

def requests (visits : List Visit) : List Request := visits.filterMap Visit.request

/-- The request is made for the daemon's keys and comes in whole and in time. -/
structure Knocks (window : Window) (r : Request) (loop : Loop) (input : Turn) : Prop where
  exchange : Exchange r.adapter r.client (input.world.codecEnv loop.runtime) r.send r.user
    r.datagram.ingress
  apart : Distinct r.adapter r.client (input.world.codecEnv loop.runtime) r.send r.datagram.ingress
  whole : r.protocol = .v4 → r.opts.fragmentCount = 0 ∨ r.opts.fragmentCount = 1
  addressed : r.datagram.ip.length ≤ 63
  timely : Timely window input.clock
  received : window.Holds r.datagram.receivedMs

/-- The sockets work, and nothing but the request comes in. -/
structure Calm (loop : Loop) (visit : Visit) : Prop where
  working : visit.input.broken = false
  sends : ∀ k packet, visit.input.last k packet = true
  waiting : visit.input.waiting = visit.request.toList.map Request.datagram
  knocks : ∀ r ∈ visit.request, ∃ window, Knocks window r loop visit.input

structure Steady (loop : Loop) (handed : List UInt64) : Prop where
  rests : Rests loop.mux handed
  idle : loop.jobs.contents = []
  unsent : loop.mux.egress.contents = []
  connected : loop.trackedSock = loop.runtime.listener.sock
  listening : 0 ≤ loop.trackedSock

section Knock

variable {r : Request} {window : Window} {loop : Loop} {input : Turn} {p : RecvPacket}
  {after : Control}

theorem delivered_knock (knocks : Knocks window r loop input)
    {policy : PolicyEnforceEncryption}
    (made : normalize policy (input.world.codecEnv loop.runtime) r.datagram.ingress ⟨false⟩ =
      (some p, after))
    (delivered : Delivered r.adapter r.client r.send r.user r.datagram.ingress ⟨false⟩ after p) :
    Knock after p := by
  refine ⟨MuxLiveSessions.normalize_normalised made, ?_, ?_, ?_,
    MuxInboxRuns.normalize_registered (congrArg Prod.fst made), ?_⟩
  · rw [delivered.carries.version]
    exact adapters_structured r.adapter (codecOf_member r.protocol)
  · by_cases modern : r.adapter.wireVersion = V4_WIRE_VERSION
    · obtain ⟨-, -, -, -, count⟩ := delivered.carries.ids modern
      unfold Singular
      rw [count]
      exact knocks.whole ((codecOf_modern r.protocol).mp modern)
    · exact .inr (delivered.plain modern).1.fragmentCount
  · by_cases modern : r.adapter.wireVersion = V4_WIRE_VERSION
    · obtain ⟨-, -, -, index, -⟩ := delivered.carries.ids modern
      exact index
    · exact (delivered.plain modern).1.fragmentIndex
  · intro owned
    by_cases modern : r.adapter.wireVersion = V4_WIRE_VERSION
    · obtain ⟨session, message, stream, -, -⟩ := delivered.carries.ids modern
      have same := (codecOf_modern r.protocol).mp modern
      have one : r.send.sessionId = 1 ∧ r.send.streamId = 1 ∧ r.send.messageId = 1 :=
        ⟨if_pos same, if_pos same, if_pos same⟩
      rw [session, message, stream, one.1, one.2.1, one.2.2]
      decide
    · rw [(delivered.plain modern).2] at owned
      cases owned

theorem delivered_session
    (delivered : Delivered r.adapter r.client r.send r.user r.datagram.ingress ⟨false⟩ after p)
    (state : SessionState) : sessionOf state after p = r.session state := by
  unfold sessionOf Request.session
  by_cases modern : r.adapter.wireVersion = V4_WIRE_VERSION
  · obtain ⟨session, -, -, -, -⟩ := delivered.carries.ids modern
    have same := (codecOf_modern r.protocol).mp modern
    have one : r.send.sessionId = 1 := if_pos same
    rw [delivered.named modern, if_pos rfl, if_pos same, session, one,
      delivered.carries.version, delivered.carries.form, modern]
    rfl
  · have other : ¬ r.protocol = .v4 := fun same => modern ((codecOf_modern r.protocol).mpr same)
    rw [(delivered.plain modern).2, if_neg Bool.false_ne_true, if_neg other]

end Knock

section Turn

variable {r : Request} {visit : Visit} {loop : Loop} {handed : List UInt64}

theorem flushed_rests {mux : MuxState} (rests : Rests mux handed)
    (send : ℕ → EgressData → Bool) : Rests (flushOutbox send mux) handed := by
  obtain ⟨intake, ingress, -⟩ := flushOutbox_kept send mux
  exact ⟨ingress ▸ rests.looked, intake ▸ rests.resting⟩

theorem rests_unready {mux : MuxState} (rests : Rests mux handed) :
    mux.intake.stream.readyCount = 0 := quiet_unready rests.quiet

def table (loop : Loop) (input : Turn) : SessionState :=
  (MuxSession.expire loop.mux.intake.session input.clock.start).2

/-- The policies let the request through, and its session is one of the first 64. -/
def Admitted (r : Request) (loop : Loop) (input : Turn) : Prop :=
  (r.session (table loop input)).toNat ≤ 64 ∧ LetThrough r.adapter r.send loop

def Pumped (visit : Visit) (loop : Loop) (recorded : List UInt64) : Prop :=
  (Rests (DaemonDelivery.pumped visit.input loop) recorded ∧
    ∀ r ∈ visit.request, ¬ Admitted r loop visit.input) ∨
  ∃ p job, Offers (DaemonDelivery.pumped visit.input loop) p recorded ∧
    Tended (DaemonDelivery.pumped visit.input loop).intake recorded ∧
    loadFromNormal p = some job ∧ ∀ r ∈ visit.request, Admitted r loop visit.input ∧
      Becomes r.adapter r.client r.send r.user r.datagram job

theorem knock_pumped (steady : Steady loop handed) (few : distinct handed < 2 ^ 64 - 1)
    (asks : visit.request = some r) (waiting : visit.input.waiting = [r.datagram])
    {window : Window} (knocks : Knocks window r loop visit.input) : ∃ recorded,
      distinct recorded ≤ distinct handed + 1 ∧ Pumped visit loop recorded := by
  have only {P : Request → Prop} (this : P r) : ∀ q ∈ visit.request, P q := by
    intro q member
    rw [asks] at member
    exact Option.some.inj member ▸ this
  obtain ⟨p, after, made, delivered⟩ := normalize_delivers (codecOf_member r.protocol)
    knocks.exchange knocks.apart loop.mux.policy ⟨false⟩
  change MuxNormalize.normalize loop.mux.policy _ _ _ = (if encryptionAllowed loop.mux.policy
    loop.runtime.codecContext (secret r.adapter r.send) = true then some p else none, after) at made
  obtain ⟨intake, -, policy⟩ := flushOutbox_kept visit.input.early loop.mux
  have rests := flushed_rests steady.rests visit.input.early
  by_cases through : LetThrough r.adapter r.send loop
  · unfold LetThrough at through
    rw [if_pos through] at made
    have knock := delivered_knock knocks made delivered
    have silent := DaemonReplies.normalize_quiet (congrArg Prod.fst made)
    rw [← policy] at made
    obtain ⟨recorded, grows, tended, offered⟩ :=
      pump_knock rests few knocks.timely knocks.received made knock
    dsimp only at offered
    rw [delivered_session delivered, intake] at offered
    refine ⟨recorded, grows, ?_⟩
    unfold Pumped DaemonDelivery.pumped
    rw [waiting]
    by_cases small : (r.session (table loop visit.input)).toNat ≤ 64
    · refine .inr ?_
      unfold table at small
      rw [if_pos small] at offered
      obtain ⟨streamId, messageId, offers⟩ := offered
      obtain ⟨job, loaded, becomes⟩ := @delivered_becomes r.adapter r.client r.send r.user
        r.datagram (codecOf_member r.protocol) knocks.addressed p after _ messageId streamId
        delivered knock.first silent
      refine ⟨_, job, flushed_offers offers visit.input.late, ?_, loaded,
        only ⟨⟨small, through⟩, becomes⟩⟩
      rw [(flushOutbox_kept visit.input.late _).1]
      exact tended
    · refine .inl ?_
      unfold table at small
      rw [if_neg small] at offered
      exact ⟨flushed_rests offered visit.input.late, only fun admitted => small admitted.1⟩
  · rw [if_neg (by exact through), ← policy] at made
    refine ⟨handed, Nat.le_succ _, .inl ⟨?_, only fun admitted => through admitted.2⟩⟩
    unfold DaemonDelivery.pumped
    rw [waiting]
    exact flushed_rests (pump_unread rests visit.input.clock made) visit.input.late

theorem visit_pumped (steady : Steady loop handed) (few : distinct handed < 2 ^ 64 - 1)
    (calm : Calm loop visit) : ∃ recorded,
      distinct recorded ≤ distinct handed + visit.request.toList.length ∧
      Pumped visit loop recorded := by
  have waiting := calm.waiting
  have knocks := calm.knocks
  cases asks : visit.request with
  | some r =>
    rw [asks] at waiting knocks
    obtain ⟨window, knocks⟩ := knocks r rfl
    exact knock_pumped steady few asks waiting knocks
  | none =>
    rw [asks] at waiting
    refine ⟨handed, le_rfl, .inl ⟨?_, ?_⟩⟩
    · unfold DaemonDelivery.pumped
      rw [waiting]
      exact flushed_rests (pump_nothing (flushed_rests steady.rests visit.input.early) _ _)
        visit.input.late
    · rw [asks]
      exact fun r member => absurd member (Option.not_mem_none r)

theorem Steady.vacant (steady : Steady loop handed) (calm : Calm loop visit) :
    Vacant loop visit.input := ⟨steady.connected, calm.working, steady.idle⟩

theorem filled_rests {recorded : List UInt64} (steady : Steady loop handed)
    (pumped : Pumped visit loop recorded) :
    Rests (intake visit.input loop).mux recorded := by
  rcases pumped with ⟨rests, -⟩ | ⟨p, job, offers, tended, loaded, -⟩
  · rw [intake_unready (rests_unready rests)]
    exact rests
  · obtain ⟨mux, jobs, filled, -, -, handedOut⟩ := intake_offers steady.idle offers loaded
    rw [filled]
    exact handed_rests offers tended handedOut

theorem flush_empties {send : ℕ → EgressData → Bool} (sends : ∀ k packet, send k packet = true)
    (egress : EgressState) {sock : ℤ} (listening : 0 ≤ sock) :
    (flush send egress sock).state.contents = [] := by
  have everywhere : send = endpointSend fun _ _ => true :=
    funext fun k => funext fun packet => sends k packet
  obtain ⟨left, -⟩ := flushLoop_endpoint (fun _ _ => true) egress.count 0 egress le_rfl
  unfold flush flushEgress
  rw [if_neg (not_lt.mpr listening), everywhere, left]
  simp [blocked]

theorem drained_unsent (world : World) {flushed : ℕ → EgressData → Bool}
    (sends : ∀ k packet, flushed k packet = true) (runtime : Runtime) (jobs : JobState)
    (egress : EgressState) (going : ¬ (drainJobsAndFlush world flushed runtime jobs egress).rc < 0)
    (listening : 0 ≤ (drainJobsAndFlush world flushed runtime jobs egress).runtime.listener.sock) :
    (drainJobsAndFlush world flushed runtime jobs egress).egress.contents = [] := by
  rw [DaemonDelivery.drainJobsAndFlush_rc] at going
  rw [(drainJobsAndFlush_kept flushed runtime jobs egress).1] at listening
  unfold drainJobsAndFlush
  dsimp only
  rw [if_neg going]
  split
  · exact flush_empties sends _ listening
  · rename_i idle
    apply (RingQueue.Ring.contents_eq_nil _).mpr
    unfold MuxEgress.hasPending at idle
    simpa using idle

def Settled (loop : Loop) (bound : ℕ) : Prop :=
  ∀ ready, reconnect loop = some ready → ∃ handed, Steady ready handed ∧ distinct handed ≤ bound

theorem connect_rests {listener : Listener} {mux : MuxState}
    (connected : connect listener = some mux) :
    Rests mux [] ∧ mux.egress.contents = [] ∧ 0 ≤ listener.sock := by
  unfold connect at connected
  split at connected
  · cases connected
  · rename_i open_
    obtain rfl := Option.some.inj connected
    have rests := rests_connect listener.sock .any
    unfold configureMuxPolicy
    split
    · exact ⟨⟨rests.looked, rests.resting⟩, rfl, not_lt.mp open_⟩
    · exact ⟨⟨rests.looked, rests.resting⟩, rfl, not_lt.mp open_⟩

theorem settled_reconnects {bound : ℕ} (idle : loop.jobs.contents = [])
    (kept : loop.trackedSock = loop.runtime.listener.sock →
      ∃ handed, Steady loop handed ∧ distinct handed ≤ bound) : Settled loop bound := by
  intro ready reconnected
  unfold reconnect at reconnected
  split at reconnected
  · obtain ⟨mux, connected, rfl⟩ := Option.map_eq_some_iff.mp reconnected
    obtain ⟨rests, unsent, listening⟩ := connect_rests connected
    exact ⟨[], ⟨rests, idle, unsent, rfl, listening⟩, Nat.zero_le bound⟩
  · rename_i same
    obtain rfl := Option.some.inj reconnected
    exact kept (not_not.mp same)

theorem visit_settles {next : Loop} (steady : Steady loop handed)
    (few : distinct handed < 2 ^ 64 - 1) (calm : Calm loop visit)
    (continues : (turn loop visit.input).1 = some next) :
    Settled next (distinct handed + visit.request.toList.length) := by
  obtain ⟨recorded, grows, pumped⟩ := visit_pumped steady few calm
  have rests := filled_rests steady pumped
  have ready : reconnect loop = some loop := if_neg fun moved => moved steady.connected
  unfold turn at continues
  rw [ready] at continues
  dsimp only at continues
  rw [if_neg (by rw [calm.working]; exact Bool.false_ne_true)] at continues
  split at continues
  · cases continues
  · rename_i going
    obtain rfl := Option.some.inj continues
    have through := going
    rw [DaemonDelivery.drainJobsAndFlush_rc] at through
    have idle : (drainJobsAndFlush visit.input.world visit.input.last loop.runtime (intake
        visit.input loop).jobs (intake visit.input loop).mux.egress).jobs.contents = [] := by
      rw [(drainJobsAndFlush_kept _ _ _ _).2]
      exact DaemonDelivery.drainLoop_through _ 0 _ _ _ (RingQueue.Ring.contents_length _).le
        (by omega)
    apply settled_reconnects idle
    intro connected
    refine ⟨recorded, ⟨⟨rests.looked, rests.resting⟩, idle, ?_, connected, steady.listening⟩, grows⟩
    refine drained_unsent visit.input.world calm.sends loop.runtime (intake visit.input loop).jobs
      (intake visit.input loop).mux.egress going ?_
    rw [← show loop.trackedSock = _ from connected]
    exact steady.listening

end Turn

section Run

variable {r : Request} {visit : Visit} {loop ready first : Loop} {handed : List UInt64}
  {opensslReady : Bool} {config : Option Config} {listener : Listener} {context : CodecContext}

/-- What becomes of a request that `before` others have come before. -/
structure Served (r : Request) (loop ready : Loop) (input : Turn) (before : ℕ) : Prop where
  early : before < 64 → (r.session (table ready input)).toNat ≤ 64
  dispatched : Keyed r.client r.send r.user ready input → ∀ owner action,
    Dispatches loop input owner action ↔ Admitted r ready input ∧ ∃ server,
      Permits ready.runtime.config ready.runtime.listener r.user r.datagram.ip server owner action
  asked : ∀ record, .processed record ∈ (turn loop input).2 →
    Becomes r.adapter r.client r.send r.user r.datagram record.job
  answered : input.world.hash = r.client.hash → ∀ record,
    .processed record ∈ (turn loop input).2 → asksReply record.done.job = true →
    Sendable input.world.cipher record.done.runtime.session record.done.job →
    0 ≤ record.done.runtime.listener.sock → ∃ config reply,
      record.done.job.response = buildSemanticReply config record.job reply ∧
      Settles r.adapter r.user r.datagram loop input record reply

theorem ready_turn (reconnected : reconnect loop = some ready)
    (connected : ready.trackedSock = ready.runtime.listener.sock) (input : Turn) :
    turn loop input = turn ready input ∧
    DaemonTraffic.turnSent loop input = DaemonTraffic.turnSent ready input := by
  have again : reconnect ready = some ready := if_neg fun moved => moved connected
  unfold turn DaemonTraffic.turnSent
  rw [reconnected, again]
  exact ⟨rfl, rfl⟩

theorem ready_served (steady : Steady ready handed) (few : distinct handed < 2 ^ 64 - 1)
    (calm : Calm ready visit) (asks : visit.request = some r) {before : ℕ}
    (bound : distinct handed ≤ before) : Served r ready ready visit.input before := by
  obtain ⟨window, knocks⟩ := calm.knocks r asks
  have vacant := steady.vacant calm
  obtain ⟨recorded, -, pumped⟩ := visit_pumped steady few calm
  have least := @sessionOf_le _ handed ⟨true⟩
    { RecvPacket.zero with sessionId := 1, wireVersion := V4_WIRE_VERSION, wireForm := FORM1_ID }
    (rests_swept steady.rests visit.input.clock.start) few
  have early : (r.session (table ready visit.input)).toNat ≤ distinct handed + 1 := by
    by_cases modern : r.protocol = .v4
    · unfold Request.session
      rw [if_pos modern]
      exact least
    · unfold Request.session
      rw [if_neg modern]
      exact ((rests_swept steady.rests visit.input.clock.start).ledger.counter few).le
  rcases pumped with ⟨rests, refused⟩ | ⟨p, job, offers, -, loaded, served⟩
  · have unready := rests_unready rests
    have nothing := unready_processes vacant unready
    have no := refused r asks
    refine ⟨fun short => by omega, ?_, fun record processed => absurd processed (nothing record),
      fun _ record processed => absurd processed (nothing record)⟩
    intro _ owner action
    constructor
    · rintro ⟨record, processed, -⟩
      exact absurd processed (nothing record)
    · rintro ⟨admitted, -⟩
      exact absurd admitted no
  · obtain ⟨admitted, becomes⟩ := served r asks
    have brings : Brings r.adapter r.client r.send r.user ready visit.input r.datagram :=
      ⟨p, job, recorded, offers, loaded, becomes⟩
    have member := codecOf_member r.protocol
    refine ⟨fun short => by omega, ?_, fun record processed => brings_asked vacant brings processed,
      ?_⟩
    · intro keyed owner action
      rw [and_iff_right admitted]
      exact brings_dispatched_iff member vacant brings keyed owner action
    · intro hashes record processed asks sendable open_
      exact brings_settles member knocks.exchange knocks.addressed vacant brings hashes
        steady.unsent calm.sends processed asks sendable open_

theorem start_settles
    (started : DaemonLoop.start opensslReady config listener context = some first) :
    Settled first 0 := by
  unfold DaemonLoop.start at started
  split at started
  · cases started
  · obtain ⟨mux, connected, rfl⟩ := Option.map_eq_some_iff.mp started
    obtain ⟨rests, unsent, listening⟩ := connect_rests connected
    exact settled_reconnects rfl fun _ => ⟨[], ⟨rests, rfl, unsent, rfl, listening⟩, le_rfl⟩

/-- Wherever a run of visits leaves the daemon, it has caught up with its work. -/
theorem run_settles (settled : Settled first 0) (visits : List Visit)
    (few : visits.length < 2 ^ 64 - 1)
    (calm : ∀ p ∈ steps visitStep (some first) visits, ∀ loop ∈ p.1, ∀ ready,
      reconnect loop = some ready → Calm ready p.2) :
    ∀ loop ∈ (run visitStep (some first) visits).1, Settled loop (requests visits).length := by
  induction visits using List.reverseRecOn with
  | nil =>
    intro loop member
    obtain rfl := Option.some.inj member
    exact settled
  | append_singleton visits visit ih =>
    rw [List.length_append, List.length_singleton] at few
    have before := ih (by omega) fun p taken => calm p (by
      rw [steps_append]
      exact List.mem_append_left _ taken)
    have now := calm _ (steps_last visitStep (some first) visits visit)
    intro next member
    rw [run_append] at member
    cases here : (run visitStep (some first) visits).1 with
    | none =>
      rw [here] at member
      cases member
    | some loop =>
      rw [here] at member before now
      change (turn loop visit.input).1 = some next at member
      have bound : (requests visits).length ≤ visits.length := List.length_filterMap_le _ _
      cases reconnected : reconnect loop with
      | none =>
        unfold turn at member
        rw [reconnected] at member
        cases member
      | some ready =>
        obtain ⟨handed, steady, less⟩ := before loop rfl ready reconnected
        rw [(ready_turn reconnected steady.connected visit.input).1] at member
        have settles : Settled next (distinct handed + visit.request.toList.length) :=
          visit_settles steady (by omega) (now loop rfl ready reconnected) member
        have counted : (requests (visits ++ [visit])).length =
            (requests visits).length + visit.request.toList.length := by
          unfold requests
          rw [List.filterMap_append, List.length_append]
          cases asks : visit.request with
          | none => simp [asks]
          | some r => simp [asks]
        intro later reconnects
        obtain ⟨recorded, caught, within⟩ := settles later reconnects
        exact ⟨recorded, caught, by omega⟩

/-- However many clients have called on the daemon before, one after another, the next request is
dispatched exactly if its session is one of the first 64 of the connection, the policies let it
through and the configuration permits it. What is processed is what was sent, and an answer goes
back to the client that waits for it. -/
theorem requests_served
    (started : DaemonLoop.start opensslReady config listener context = some first)
    (earlier : List Visit) (visit : Visit) (few : earlier.length < 2 ^ 64 - 1)
    (calm : ∀ p ∈ steps visitStep (some first) (earlier ++ [visit]), ∀ loop ∈ p.1, ∀ ready,
      reconnect loop = some ready → Calm ready p.2)
    (here : (run visitStep (some first) earlier).1 = some loop)
    (reconnected : reconnect loop = some ready) (asks : visit.request = some r) :
    Served r loop ready visit.input (requests earlier).length := by
  have before := run_settles (start_settles started) earlier few fun p taken => calm p (by
    rw [steps_append]
    exact List.mem_append_left _ taken)
  have now := calm _ (steps_last visitStep (some first) earlier visit) loop here ready reconnected
  have bound : (requests earlier).length ≤ earlier.length := List.length_filterMap_le _ _
  obtain ⟨handed, steady, less⟩ := before loop here ready reconnected
  obtain ⟨early, dispatched, asked, answered⟩ := ready_served steady (by omega) now asks less
  obtain ⟨same, sends⟩ := ready_turn reconnected steady.connected visit.input
  refine ⟨early, ?_, ?_, ?_⟩
  · unfold Dispatches at dispatched ⊢
    rw [same]
    exact dispatched
  · rw [same]
    exact asked
  · unfold Settles at answered ⊢
    rw [same, sends]
    exact answered

end Run

section Vault

def vaultRequest : Request where
  client := aliceClient
  protocol := .v4
  opts := vaultOpts
  targetIp := ascii ['1', '0', '.', '0', '.', '0', '.', '9']
  targetPort := 50000
  moment := ⟨1, 1000, 99⟩
  datagram := vaultKnock

def vaultVisit : Visit := ⟨vaultTurn, some vaultRequest⟩

theorem vault_starts : DaemonLoop.start true (some vaultConfig) vaultListener
    vaultLoop.runtime.codecContext = some vaultLoop := rfl

def guarded (loop : Loop) : Bool :=
  decide (loop.trackedSock = loop.runtime.listener.sock) &&
  decide (loop.runtime.codecContext = vaultLoop.runtime.codecContext) &&
  decide (loop.runtime.session.privateKey = some 5) &&
  decide (loop.runtime.config = some vaultConfig) &&
  decide (loop.runtime.listener.server = some vaultServer) && decide (loop.mux.policy = .yes)

structure Guarded (loop : Loop) : Prop where
  connected : loop.trackedSock = loop.runtime.listener.sock
  context : loop.runtime.codecContext = vaultLoop.runtime.codecContext
  key : loop.runtime.session.privateKey = some 5
  config : loop.runtime.config = some vaultConfig
  server : loop.runtime.listener.server = some vaultServer
  policy : loop.mux.policy = .yes

theorem guarded_true {loop : Loop} (so : guarded loop = true) : Guarded loop := by
  unfold guarded at so
  simp only [Bool.and_eq_true, decide_eq_true_eq] at so
  obtain ⟨⟨⟨⟨⟨connected, context⟩, key⟩, config⟩, server⟩, policy⟩ := so
  exact ⟨connected, context, key, config, server, policy⟩

theorem guarded_codec {loop : Loop} (guard : Guarded loop) :
    vaultTurn.world.codecEnv loop.runtime = { vaultTurn.world.codecEnv vaultLoop.runtime with
      session := some loop.runtime.session } := by
  unfold World.codecEnv
  rw [guard.context]

theorem guarded_knocks {loop : Loop} (guard : Guarded loop) :
    Knocks steadyWindow vaultRequest loop vaultTurn := by
  obtain ⟨-, opens, decrypts⟩ := vault_exchange.peer
  refine ⟨⟨boxCipher_lawful, ⟨rfl, ?_, ?_⟩, paddedHash_length, vault_exchange.carried,
    vault_exchange.fits, vault_exchange.own, vault_exchange.encoded, vault_exchange.window⟩,
    ?_, fun _ => .inr rfl, by decide, vault_meeting.timely, vault_meeting.received⟩
  · intro padding message out wrapped
    rw [guarded_codec guard]
    have opened := opens padding message out wrapped
    unfold sessionDecrypt at opened ⊢
    simp only [Option.bind_eq_bind, Option.bind_some, guard.key]
    exact opened
  · intro padding message out wrapped
    rw [guarded_codec guard]
    exact decrypts padding message out wrapped
  · rw [guarded_codec guard]
    obtain ⟨sized, unopened, readable⟩ := vault_meeting.apart
    exact ⟨sized, unopened, readable⟩

theorem guarded_calm {loop : Loop} (guard : Guarded loop) : Calm loop vaultVisit := by
  refine ⟨rfl, fun _ _ => rfl, rfl, ?_⟩
  intro r member
  obtain rfl := Option.some.inj member
  exact ⟨steadyWindow, guarded_knocks guard⟩

theorem guarded_ready {loop ready : Loop} (guard : Guarded loop)
    (reconnected : reconnect loop = some ready) : ready = loop := by
  unfold reconnect at reconnected
  rw [if_neg (not_not.mpr guard.connected)] at reconnected
  exact (Option.some.inj reconnected).symm

theorem guarded_key {loop : Loop} (guard : Guarded loop) (owner : User)
    (known : userById loop.runtime.config vaultRequest.user.userId.toUInt32 = some owner) :
    ∃ signer, aliceClient.session = some signer ∧ owner.hmacKey = signer.hmacKey := by
  rw [guard.config] at known
  obtain rfl := Option.some.inj (vault_known.symm.trans known)
  exact ⟨_, rfl, rfl⟩

theorem vault_again : (turn vaultLoop vaultTurn).1.any guarded = true := by decide +kernel

theorem visited_once (loop : Loop) (visit : Visit) :
    (run visitStep (some loop) [visit]).1 = (turn loop visit.input).1 := rfl

theorem visited_twice (loop : Loop) (visit later : Visit) :
    steps visitStep (some loop) ([visit] ++ [later]) =
      [(some loop, visit), ((turn loop visit.input).1, later)] := rfl

/-- Alice's second request, in the session of her first. -/
theorem vault_served : ∃ loop, (turn vaultLoop vaultTurn).1 = some loop ∧
    Dispatches loop vaultTurn sealedAlice DaemonRunner.doorbell := by
  obtain ⟨loop, next, again⟩ := (Option.any_eq_true _ _).mp vault_again
  have guard := guarded_true again
  have first : Guarded vaultLoop := guarded_true (by decide +kernel)
  have reconnected : reconnect loop = some loop := if_neg fun moved => moved guard.connected
  have calm : ∀ p ∈ steps visitStep (some vaultLoop) ([vaultVisit] ++ [vaultVisit]),
      ∀ now ∈ p.1, ∀ ready, reconnect now = some ready → Calm ready p.2 := by
    intro p taken now here ready same
    rw [visited_twice, show (turn vaultLoop vaultVisit.input).1 = some loop from next] at taken
    simp only [List.mem_cons, List.not_mem_nil, or_false] at taken
    rcases taken with rfl | rfl
    · obtain rfl := Option.some.inj here
      rw [guarded_ready first same]
      exact guarded_calm first
    · obtain rfl := Option.some.inj here
      rw [guarded_ready guard same]
      exact guarded_calm guard
  have served := requests_served vault_starts [vaultVisit] vaultVisit (by decide) calm
    ((visited_once vaultLoop vaultVisit).trans next) reconnected rfl
  refine ⟨loop, next, (served.dispatched ?_ sealedAlice DaemonRunner.doorbell).mpr
    ⟨⟨served.early (by decide), ?_⟩, vaultServer, ?_⟩⟩
  · exact ⟨rfl, rfl, guarded_key guard⟩
  · unfold LetThrough
    rw [guard.policy, guard.context]
    rfl
  · rw [guard.config]
    exact vault_permits guard.server

end Vault

end Siglatch.KnockService
