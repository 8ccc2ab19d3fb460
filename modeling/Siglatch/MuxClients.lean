import Siglatch.KnockRoundTrip
import Siglatch.KnockTransmit
import Siglatch.MuxInbox
import Siglatch.MuxReassembly

set_option autoImplicit false

namespace Siglatch.MuxClients
open MuxTypes KnockDigest KnockCodec KnockEncode KnockRoundTrip KnockTransmit MuxAdapter
open MuxNormalize MuxInbox MuxSession MuxStreamView MuxStreamOps MuxReassembly

section Session

variable {state : SessionState} {clientId : UInt64} {wireVersion : UInt32} {wireForm : UInt8}

/-- The lookup by the client's id finds slot `i`, in which the session of id `sessionId` is. -/
def Reached (state : SessionState) (clientId : UInt64) (wireVersion : UInt32) (wireForm : UInt8)
    (i : Fin SESSION_CAPACITY) (sessionId : UInt64) : Prop :=
  findByClientSession state clientId wireVersion wireForm = some i ∧
    (state.sessions i).sessionId = sessionId

theorem ingest_reached {control : Control} {normal p : RecvPacket} {nowMs : UInt64}
    {state' : SessionState} (owned : control.sessionByClient = true) (named : normal.sessionId ≠ 0)
    (structured : normal.wireVersion ≠ 0)
    (h : MuxSession.ingest state control normal nowMs = some (state', p)) :
    ∃ i sessionId, Reached state' normal.sessionId normal.wireVersion normal.wireForm i sessionId ∧
      (state'.sessions i).expiresAtMs = nowMs + SESSION_TIMEOUT_MS ∧
      p = handedOn normal sessionId := by
  rcases ingest_cases state nowMs (.inl owned) with
    ⟨i, after, q, ingested, joins, -, byClient⟩ | ⟨i, after, q, ingested, starts, opens⟩ |
    ⟨refused, -, -⟩
  · rw [h] at ingested
    obtain ⟨rfl, rfl⟩ := Prod.mk.inj (Option.some.inj ingested)
    have found := byClient owned structured
    refine ⟨i, _, ⟨?_, joins.session⟩, joins.touched, joins.packet⟩
    rw [← found]
    obtain ⟨active, client, version, form⟩ := findByClientSession_some found
    unfold findByClientSession
    rw [if_neg named, if_neg named]
    apply SlotTable.find?_congr
    intro j
    by_cases same : j = i
    · subst j
      simp [joins.active, joins.client, joins.wire, active, client, version, form]
    · rw [joins.others j same]
  · rw [h] at ingested
    obtain ⟨rfl, rfl⟩ := Prod.mk.inj (Option.some.inj ingested)
    have none_found := opens.1 owned
    refine ⟨i, _, ⟨?_, starts.session⟩, starts.touched, starts.packet⟩
    unfold findByClientSession at none_found ⊢
    rw [if_neg named] at none_found ⊢
    apply SlotTable.find?_unique
    · simp [starts.active, starts.client named, starts.wire]
    · intro j matching
      by_contra other
      rw [starts.others j other] at matching
      have missing := SlotTable.find?_none_iff.mp none_found j
      rw [matching] at missing
      contradiction
  · rw [h] at refused
    contradiction

theorem ingest_same_session {control : Control} {normal p : RecvPacket} {nowMs : UInt64}
    {i : Fin SESSION_CAPACITY} {sessionId : UInt64} (owned : control.sessionByClient = true)
    (structured : normal.wireVersion ≠ 0)
    (reached : Reached state normal.sessionId normal.wireVersion normal.wireForm i sessionId)
    {state' : SessionState} (h : MuxSession.ingest state control normal nowMs = some (state', p)) :
    p = handedOn normal sessionId := by
  obtain ⟨found, slot⟩ := reached
  rcases ingest_cases state nowMs (.inl owned) with
    ⟨j, after, q, ingested, joins, -, byClient⟩ | ⟨j, after, q, -, -, opens⟩ | ⟨-, opens, -⟩
  · rw [h] at ingested
    obtain ⟨rfl, rfl⟩ := Prod.mk.inj (Option.some.inj ingested)
    have again := byClient owned structured
    rw [found] at again
    obtain rfl := Option.some.inj again
    rw [joins.packet, slot]
  · rw [opens.1 owned] at found
    contradiction
  · rw [opens.1 owned] at found
    contradiction

end Session

section Stream

variable {stream stream' : MuxStream.StreamState} {p q : RecvPacket}

/-- An accepted packet that names its stream and message is queued under its own key. -/
theorem ingest_queued (named : p.streamId ≠ 0 ∧ p.messageId ≠ 0)
    (h : MuxStream.ingest stream p = (true, stream')) : stored p ∈ queued stream' := by
  rcases ingest_cases stream p with ⟨after, -, ingested⟩ | ⟨a, after, -, -, -, ingested⟩ |
    ⟨a, before, t, after, -, assigned, -, -, -, ingested⟩
  · rw [h] at ingested
    cases ingested
  · rw [h] at ingested
    cases ingested
  · have explicit := assigned_explicit assigned named.1 named.2
    have session : a.packet.sessionId ≠ 0 := by
      rw [assigned.session]
      exact assigned.session_ne
    rw [h, explicit] at ingested
    rw [explicit] at session
    rcases queuePacket_cases after session with ⟨-, -, -, queue, -⟩ | ⟨refused, -⟩
    · rw [← ingested] at queue
      rw [queue]
      exact Multiset.mem_cons_self _ _
    · rw [refused] at ingested
      cases ingested

theorem ingest_repeat_refused (named : q.streamId ≠ 0 ∧ q.messageId ≠ 0)
    (waiting : p ∈ queued stream) (same : fragmentKey p = fragmentKey q) :
    (MuxStream.ingest stream q).1 = false := by
  rcases ingest_cases stream q with ⟨after, -, ingested⟩ | ⟨a, after, -, -, -, ingested⟩ |
    ⟨a, before, t, after, -, assigned, -, claimed, -, ingested⟩
  · rw [ingested]
  · rw [ingested]
  · have explicit := assigned_explicit assigned named.1 named.2
    have session : a.packet.sessionId ≠ 0 := by
      rw [assigned.session]
      exact assigned.session_ne
    rw [← queued_of_readyQueue claimed.queue] at waiting
    rw [ingested]
    rw [explicit] at session ⊢
    rcases queuePacket_cases after session with ⟨-, distinct, -⟩ | ⟨refused, -⟩
    · exact absurd same (distinct p waiting)
    · rw [refused]

end Stream

section Requests

/-- The ids that every client of protocol 4 sends in a packet of one piece. -/
structure ClientIds (p : RecvPacket) : Prop where
  session : p.sessionId = 1
  stream : p.streamId = 1
  message : p.messageId = 1
  index : p.fragmentIndex = 0
  wire : p.wireVersion = V4_WIRE_VERSION ∧ p.wireForm = FORM1_ID

theorem intake_second_refused {intake intake' : MuxIntake.Intake} {p q : RecvPacket}
    {firstMs secondMs : UInt64} (first : ClientIds p) (second : ClientIds q)
    (accepted : MuxIntake.intake intake ⟨true⟩ p firstMs = (true, intake')) :
    (MuxIntake.intake intake' ⟨true⟩ q secondMs).1 = false := by
  unfold MuxIntake.intake at accepted
  cases taken : MuxSession.ingest intake.session ⟨true⟩ p firstMs with
  | none =>
    rw [taken] at accepted
    cases accepted
  | some handed =>
    obtain ⟨session, handedP⟩ := handed
    rw [taken] at accepted
    obtain ⟨queued_, rfl⟩ := Prod.mk.inj accepted
    have structured : p.wireVersion ≠ 0 := by rw [first.wire.1]; decide
    have named : p.sessionId ≠ 0 := by rw [first.session]; decide
    obtain ⟨i, sessionId, reached, -, rfl⟩ := ingest_reached rfl named structured taken
    rw [first.session, first.wire.1, first.wire.2] at reached
    have waiting := ingest_queued (p := handedOn p sessionId)
      ⟨by change p.streamId ≠ 0; rw [first.stream]; decide,
        by change p.messageId ≠ 0; rw [first.message]; decide⟩ (Prod.ext queued_ rfl)
    unfold MuxIntake.intake
    cases again : MuxSession.ingest session ⟨true⟩ q secondMs with
    | none => rfl
    | some handed =>
      obtain ⟨session', handedQ⟩ := handed
      have structuredQ : q.wireVersion ≠ 0 := by rw [second.wire.1]; decide
      rw [← second.session, ← second.wire.1, ← second.wire.2] at reached
      obtain rfl := ingest_same_session rfl structuredQ reached again
      apply ingest_repeat_refused _ waiting
      · change (sessionId, p.streamId, p.messageId, p.fragmentIndex) =
          (sessionId, q.streamId, q.messageId, q.fragmentIndex)
        rw [first.stream, first.message, first.index, second.stream, second.message, second.index]
      · exact ⟨by change q.streamId ≠ 0; rw [second.stream]; decide,
          by change q.messageId ≠ 0; rw [second.message]; decide⟩

/-- A request of one packet that a client of protocol 4 has built and encoded for the server, and
where it comes from. -/
structure Request (server : CodecEnv) where
  client : CodecEnv
  opts : Opts
  targetIp : CString
  targetPort : UInt16
  moment : Moment
  random : Entropy
  ip : CString
  clientPort : UInt16
  receivedMs : UInt64
  egress : EgressData
  matching : Matching client server
  lawful : Lawful client.cipher
  single : opts.fragmentCount ≤ 1
  encoded : codecV4.encode client random
    (buildM7muxSendPacket opts .v4 targetIp targetPort moment) = some egress

variable {server : CodecEnv}

def Request.datagram (request : Request server) : Datagram :=
  ⟨request.egress.egressBuffer, request.receivedMs, request.ip, request.clientPort⟩

def Request.endpoint (request : Request server) : CString × UInt16 :=
  (request.ip, request.clientPort)

/-- Whatever the client asks for, the server sees the same ids. -/
theorem Request.normalized (request : Request server) : ∃ p, ClientIds p ∧
    p.ip = request.ip ∧ p.clientPort = request.clientPort ∧
    ∀ policy control, normalize policy server request.datagram.ingress control =
      (if policy = .no then none else some p, ⟨true⟩) := by
  have fits : (request.opts.payload.take USER_DATA_PAYLOAD_MAX).length ≤ USER_DATA_PAYLOAD_MAX :=
    List.length_take_le _ _
  have encoded := request.encoded
  simp only [codecV4, adapterEncode, Option.bind_eq_bind, Option.bind_eq_some_iff] at encoded
  obtain ⟨normal, copied, out, encodes, filled⟩ := encoded
  rw [copied_unit rfl fits] at copied
  obtain rfl := Option.some.inj copied
  unfold fillEgress at filled
  split at filled
  · contradiction
  · rename_i small
    have buffer : request.egress.egressBuffer = out := by rw [← Option.some.inj filled]
    have received : request.datagram.ingress.buffer = out := by
      change request.egress.egressBuffer.take NORMALIZED_PACKET_BUFFER_SIZE = out
      rw [buffer, List.take_of_length_le (Nat.not_lt.mp small)]
    obtain ⟨hmac, arrives⟩ := normalize_sent request.lawful encodes fits
    have seen policy control := arrives server request.datagram.ingress policy control
      request.matching received
    exact ⟨_, ⟨rfl, rfl, rfl, rfl, rfl, rfl⟩, rfl, rfl, seen⟩

def Kept (queued : List RecvPacket) (waiting : List Ingress) (request : Request server) : Prop :=
  (∃ p ∈ queued, p.ip = request.ip ∧ p.clientPort = request.clientPort) ∨
  ∃ raw ∈ waiting, raw.ip = request.ip ∧ raw.clientPort = request.clientPort

theorem pumpList_rejected {requests : List (Request server)} (clock : ℕ → UInt64) (k : ℕ)
    (control : Control) (intake : MuxIntake.Intake) :
    (pumpList .no server clock k control intake
      (requests.map fun r => r.datagram.ingress)).2 = ([], []) := by
  induction requests generalizing k control with
  | nil => rfl
  | cons request requests ih =>
    obtain ⟨p, -, -, -, arrives⟩ := request.normalized
    have skipped : take .no server (clock k) control intake request.datagram.ingress =
        ⟨.skipped, ⟨true⟩, intake⟩ := by
      unfold take
      rw [arrives, if_pos rfl]
    rw [List.map_cons]
    unfold pumpList
    rw [skipped]
    exact ih (k + 1) ⟨true⟩

theorem endpoint_differs {first second : Request server} {requests : List (Request server)}
    (distinct : ((first :: second :: requests).map Request.endpoint).Nodup) :
    (∀ other ∈ second :: requests,
      ¬ (other.ip = first.ip ∧ other.clientPort = first.clientPort)) ∧
    ∀ other ∈ requests, ¬ (other.ip = second.ip ∧ other.clientPort = second.clientPort) := by
  rw [List.map_cons, List.nodup_cons, List.map_cons, List.nodup_cons] at distinct
  obtain ⟨firstNew, secondNew, -⟩ := distinct
  constructor
  · rintro other member ⟨ip, port⟩
    apply firstNew
    rw [← List.map_cons]
    exact List.mem_map.mpr ⟨other, member, Prod.ext ip port⟩
  · rintro other member ⟨ip, port⟩
    exact secondNew (List.mem_map.mpr ⟨other, member, Prod.ext ip port⟩)

theorem take_arrived {policy : PolicyEnforceEncryption} (allowed : policy ≠ .no)
    {request : Request server} {p : RecvPacket} (arrives : ∀ policy control,
      normalize policy server request.datagram.ingress control =
        (if policy = .no then none else some p, ⟨true⟩))
    (nowMs : UInt64) (control : Control) (intake : MuxIntake.Intake) :
    take policy server nowMs control intake request.datagram.ingress =
      ⟨if (MuxIntake.intake intake ⟨true⟩ p nowMs).1 then .queued p else .refused, ⟨true⟩,
        (MuxIntake.intake intake ⟨true⟩ p nowMs).2⟩ := by
  unfold take
  rw [arrives, if_neg allowed]
  dsimp only
  cases MuxIntake.intake intake ⟨true⟩ p nowMs with
  | mk ok after =>
    cases ok with
    | false => rfl
    | true => rfl

theorem not_waiting {others : List (Request server)} {request : Request server}
    (apart : ∀ other ∈ others,
      ¬ (other.ip = request.ip ∧ other.clientPort = request.clientPort)) :
    ¬ ∃ raw ∈ others.map (fun r => r.datagram.ingress),
      raw.ip = request.ip ∧ raw.clientPort = request.clientPort := by
  rintro ⟨raw, member, same⟩
  obtain ⟨other, among, rfl⟩ := List.mem_map.mp member
  exact apart other among same

/-- Of two requests in one batch, the first that is not refused takes the ids of both. -/
theorem pumpList_loses {first second : Request server} {requests : List (Request server)}
    (distinct : ((first :: second :: requests).map Request.endpoint).Nodup)
    (policy : PolicyEnforceEncryption) (clock : ℕ → UInt64) (intake : MuxIntake.Intake) :
    let pumped := pumpList policy server clock 0 ⟨false⟩ intake
      ((first :: second :: requests).map fun r => r.datagram.ingress)
    ¬ ∀ request ∈ first :: second :: requests, Kept pumped.2.1 pumped.2.2 request := by
  intro pumped all
  obtain ⟨apartFirst, apartSecond⟩ := endpoint_differs distinct
  have keptFirst := all first (List.mem_cons_self)
  have keptSecond := all second (List.mem_cons_of_mem _ List.mem_cons_self)
  by_cases against : policy = .no
  · subst against
    have nothing : pumped.2 = ([], []) := pumpList_rejected clock 0 ⟨false⟩ intake
    rw [nothing] at keptFirst
    rcases keptFirst with ⟨p, member, -⟩ | ⟨raw, member, -⟩
    · exact absurd member List.not_mem_nil
    · exact absurd member List.not_mem_nil
  obtain ⟨p, idsP, ipP, portP, arrivesP⟩ := first.normalized
  obtain ⟨q, idsQ, -, -, arrivesQ⟩ := second.normalized
  have takesFirst := take_arrived against arrivesP (clock 0) ⟨false⟩ intake
  cases accepted : MuxIntake.intake intake ⟨true⟩ p (clock 0) with
  | mk ok intake' =>
    rw [accepted] at takesFirst
    cases ok with
    | false =>
      have stopped : pumped.2 = ([], (second :: requests).map fun r => r.datagram.ingress) := by
        change (pumpList policy server clock 0 ⟨false⟩ intake (first.datagram.ingress ::
          (second :: requests).map fun r => r.datagram.ingress)).2 = _
        unfold pumpList
        rw [takesFirst]
        rfl
      rw [stopped] at keptFirst
      rcases keptFirst with ⟨p, member, -⟩ | waiting
      · exact absurd member List.not_mem_nil
      · exact not_waiting apartFirst waiting
    | true =>
      have takesSecond := take_arrived against arrivesQ (clock 1) ⟨true⟩ intake'
      rw [@intake_second_refused _ _ _ _ _ (clock 1) idsP idsQ accepted] at takesSecond
      have stopped : pumped.2 = ([p], requests.map fun r => r.datagram.ingress) := by
        change (pumpList policy server clock 0 ⟨false⟩ intake (first.datagram.ingress ::
          second.datagram.ingress :: requests.map fun r => r.datagram.ingress)).2 = _
        unfold pumpList
        rw [takesFirst]
        dsimp only
        rw [if_pos rfl]
        unfold pumpList
        rw [takesSecond]
        rfl
      rw [stopped] at keptSecond
      rcases keptSecond with ⟨found, member, ip, port⟩ | waiting
      · obtain rfl := List.mem_singleton.mp member
        rw [ipP] at ip
        rw [portP] at port
        exact apartFirst second List.mem_cons_self ⟨ip.symm, port.symm⟩
      · exact not_waiting apartSecond waiting

/-- Requests of different clients that arrive together are never all served. -/
theorem requests_not_all_kept (clock : PumpClock) (state : MuxState)
    (idle : state.ingress.contents = []) (requests : List (Request server))
    (two : 2 ≤ requests.length) (room : requests.length ≤ INGRESS_QUEUE_CAPACITY)
    (distinct : (requests.map Request.endpoint).Nodup) :
    let pumped := pump server clock (requests.map Request.datagram) state
    ¬ ∀ request ∈ requests, Kept pumped.2 pumped.1.ingress.contents request := by
  match requests, two with
  | first :: second :: requests, _ =>
    have contents := ingressPump_contents idle
      ((first :: second :: requests).map Request.datagram) (by rwa [List.length_map])
    have listed := pumpIngress_list state.policy server clock.taken
      (ingressPump state.ingress ((first :: second :: requests).map Request.datagram))
      (expireBoth state.intake clock.start)
    rw [contents, List.map_map] at listed
    have loses := pumpList_loses distinct state.policy clock.taken
      (expireBoth state.intake clock.start)
    dsimp only at loses listed
    change (_, _, _) = pumpList state.policy server clock.taken 0 ⟨false⟩
      (expireBoth state.intake clock.start)
      ((first :: second :: requests).map fun r => r.datagram.ingress) at listed
    rw [← listed] at loses
    exact loses

end Requests

section TwoClients

def serverEnv : CodecEnv where
  cipher := boxCipher
  hash := ⟨id, fun key message => key ++ message⟩
  context := KnockContext.create
  session := some ⟨none, some 5, [], 0⟩
  now := 1000

def clientEnv : CodecEnv := { serverEnv with session := some ⟨some 5, none, [], 0⟩ }

theorem client_matching : Matching clientEnv serverEnv where
  cipher := rfl
  opens padding message out wrapped := boxCipher_opens 5 5 padding message out wrapped
  sized _ _ _ _ known := by cases known

def hello : Opts := ⟨.none, true, 3, 7, 1, [104, 105]⟩

def helloPacket : SendPacket :=
  buildM7muxSendPacket hello .v4 (ascii ['1', '0', '.', '0', '.', '0', '.', '9']) 50000
    ⟨1, 1000, 99⟩

theorem hello_encodes : (codecV4.encode clientEnv plainEntropy helloPacket).isSome = true := by
  decide +kernel

def helloFrom (ip : CString) (clientPort : UInt16) : Request serverEnv where
  client := clientEnv
  opts := hello
  targetIp := ascii ['1', '0', '.', '0', '.', '0', '.', '9']
  targetPort := 50000
  moment := ⟨1, 1000, 99⟩
  random := plainEntropy
  ip := ip
  clientPort := clientPort
  receivedMs := 5000
  egress := (codecV4.encode clientEnv plainEntropy helloPacket).get hello_encodes
  matching := client_matching
  lawful := boxCipher_lawful
  single := by decide
  encoded := (Option.some_get hello_encodes).symm

def twoHellos : List (Request serverEnv) :=
  [helloFrom (ascii ['1', '0', '.', '0', '.', '0', '.', '1']) 4000,
    helloFrom (ascii ['1', '0', '.', '0', '.', '0', '.', '2']) 4000]

def steady : PumpClock := ⟨5000, fun _ => 5000, 5000⟩

theorem twoHellos_not_all_kept :
    let pumped := pump serverEnv steady (twoHellos.map Request.datagram) (connectSocket 3 .yes)
    ¬ ∀ request ∈ twoHellos, Kept pumped.2 pumped.1.ingress.contents request :=
  requests_not_all_kept steady (connectSocket 3 .yes) rfl twoHellos (by decide) (by decide)
    (by decide)

/-- On a fresh connection, where every table is empty, the second of two clients is lost. -/
theorem second_client_lost :
    ¬ ∀ (server : CodecEnv) (clock : PumpClock) (state : MuxState)
        (requests : List (Request server)), state.ingress.contents = [] →
      2 ≤ requests.length → requests.length ≤ INGRESS_QUEUE_CAPACITY →
      (requests.map Request.endpoint).Nodup →
      ∀ request ∈ requests,
        Kept (pump server clock (requests.map Request.datagram) state).2
          (pump server clock (requests.map Request.datagram) state).1.ingress.contents request := by
  intro served
  have second := served serverEnv steady (connectSocket 3 .yes) twoHellos rfl (by decide)
    (by decide) (by decide) (helloFrom (ascii ['1', '0', '.', '0', '.', '0', '.', '2']) 4000)
    (List.mem_cons_of_mem _ List.mem_cons_self)
  have queued : (pump serverEnv steady (twoHellos.map Request.datagram)
      (connectSocket 3 .yes)).2.map (fun p => p.ip) =
      [ascii ['1', '0', '.', '0', '.', '0', '.', '1']] := by decide +kernel
  have waiting : (pump serverEnv steady (twoHellos.map Request.datagram)
      (connectSocket 3 .yes)).1.ingress.contents = [] := by decide +kernel
  rw [waiting] at second
  rcases second with ⟨p, member, ip, -⟩ | ⟨raw, member, -⟩
  · have listed := List.mem_map.mpr ⟨p, member, ip⟩
    rw [queued] at listed
    revert listed
    decide
  · exact absurd member List.not_mem_nil

end TwoClients

end Siglatch.MuxClients
