import Siglatch.KnockFragments
import Siglatch.MuxClients
import Siglatch.MuxInboxRuns
import Siglatch.MuxReassemblyRuns

set_option autoImplicit false

namespace Siglatch.MuxFragments
open MuxTypes KnockDigest KnockCodec KnockEncode KnockRoundTrip KnockFragments MuxAdapter MuxEgress
open MuxNormalize MuxOutbox MuxInbox MuxInboxRuns MuxSession MuxStreamView MuxStreamOps
open MuxReassembly MuxReassemblyRuns MuxClients StepRuns

section Window

structure Window where
  start : ℕ
  started : 0 < start
  fits : start + 60000 ≤ 2 ^ 64

def Window.Holds (window : Window) (ms : UInt64) : Prop :=
  window.start ≤ ms.toNat ∧ ms.toNat < window.start + 30000

variable {window : Window} {receivedMs nowMs : UInt64}

theorem packet_fresh {p : RecvPacket} (received : window.Holds p.receivedMs)
    (now : window.Holds nowMs) : MuxStream.isExpired p nowMs = false := by
  have pos := window.started
  have early := received.1
  have late := now.2
  unfold MuxStream.isExpired
  split
  · rfl
  · rw [if_neg]
    · split
      · rfl
      · rename_i order
        apply decide_eq_false
        rw [UInt64.le_iff_toNat_le, UInt64.toNat_sub_of_le _ _ (UInt64.not_lt.mp order)]
        change ¬ 30000 ≤ _
        omega
    · intro zero
      rw [zero] at early
      change window.start ≤ 0 at early
      omega

theorem session_fresh {session : Session} (touched : window.Holds receivedMs)
    (expiry : session.expiresAtMs = receivedMs + SESSION_TIMEOUT_MS) (now : window.Holds nowMs) :
    MuxSession.isExpired session nowMs = false := by
  have fits := window.fits
  have early := touched.1
  have bound := touched.2
  have late := now.2
  have expires : session.expiresAtMs.toNat = receivedMs.toNat + 30000 := by
    rw [expiry, UInt64.toNat_add]
    exact Nat.mod_eq_of_lt (by change receivedMs.toNat + 30000 < 2 ^ 64; omega)
  have later : ¬ session.expiresAtMs ≤ nowMs := by
    rw [UInt64.le_iff_toNat_le]
    omega
  unfold MuxSession.isExpired
  rw [decide_eq_false later, Bool.and_false]

end Window

section Session

variable {window : Window} {state : SessionState} {clientId sessionId : UInt64}

/-- A packet of the client is given the session `sessionId`: it is the client's, or the client has
none and the next one to be opened is it. -/
def Enters (state : SessionState) (clientId sessionId : UInt64) : Prop :=
  (∃ i, Reached state clientId V4_WIRE_VERSION FORM1_ID i sessionId) ∨
  findByClientSession state clientId V4_WIRE_VERSION FORM1_ID = none ∧
    (∃ i, (state.sessions i).active = false) ∧ state.nextSessionId = sessionId

/-- The client's packets are given that session whenever in the window the first of them comes. -/
def Admits (window : Window) (state : SessionState) (clientId sessionId : UInt64) : Prop :=
  ∀ nowMs, window.Holds nowMs → Enters (MuxSession.expire state nowMs).2 clientId sessionId

theorem enters_congr {state' : SessionState} (sessions : state'.sessions = state.sessions)
    (counter : state'.nextSessionId = state.nextSessionId)
    (h : Enters state clientId sessionId) : Enters state' clientId sessionId := by
  unfold Enters Reached findByClientSession at h ⊢
  rw [sessions, counter]
  exact h

theorem isExpired_mono {session : Session} {earlier later : UInt64} (order : earlier ≤ later)
    (h : MuxSession.isExpired session earlier = true) :
    MuxSession.isExpired session later = true := by
  unfold MuxSession.isExpired at h ⊢
  simp only [Bool.and_eq_true, decide_eq_true_eq] at h ⊢
  exact ⟨h.1, UInt64.le_trans h.2 order⟩

theorem expire_expire (state : SessionState) (firstMs secondMs : UInt64) :
    ∃ nowMs, (nowMs = firstMs ∨ nowMs = secondMs) ∧
      (MuxSession.expire (MuxSession.expire state firstMs).2 secondMs).2.sessions =
        (MuxSession.expire state nowMs).2.sessions := by
  have settled (earlier later : UInt64) (order : earlier ≤ later) (i : Fin SESSION_CAPACITY) :
      MuxSession.isExpired (state.sessions i) later = false →
        MuxSession.isExpired (state.sessions i) earlier = false := by
    intro keeps
    by_contra expires
    rw [isExpired_mono order (by simpa using expires)] at keeps
    contradiction
  rcases UInt64.le_total firstMs secondMs with order | order
  · refine ⟨secondMs, .inr rfl, ?_⟩
    funext i
    change (if MuxSession.isExpired (if MuxSession.isExpired (state.sessions i) firstMs then
      Session.zero else state.sessions i) secondMs then Session.zero
        else if MuxSession.isExpired (state.sessions i) firstMs then Session.zero
          else state.sessions i) = if MuxSession.isExpired (state.sessions i) secondMs then
        Session.zero else state.sessions i
    cases late : MuxSession.isExpired (state.sessions i) secondMs with
    | true => split <;> simp_all
    | false =>
      have early := settled firstMs secondMs order i late
      simp [early, late]
  · refine ⟨firstMs, .inl rfl, ?_⟩
    funext i
    change (if MuxSession.isExpired (if MuxSession.isExpired (state.sessions i) firstMs then
      Session.zero else state.sessions i) secondMs then Session.zero
        else if MuxSession.isExpired (state.sessions i) firstMs then Session.zero
          else state.sessions i) = if MuxSession.isExpired (state.sessions i) firstMs then
        Session.zero else state.sessions i
    cases early : MuxSession.isExpired (state.sessions i) firstMs with
    | true => simp
    | false =>
      have late := settled secondMs firstMs order i early
      simp [late]

theorem admits_expire (h : Admits window state clientId sessionId) {nowMs : UInt64}
    (now : window.Holds nowMs) :
    Admits window (MuxSession.expire state nowMs).2 clientId sessionId := by
  intro laterMs later
  obtain ⟨decidingMs, chosen, sessions⟩ := expire_expire state nowMs laterMs
  have holds : window.Holds decidingMs := by
    rcases chosen with rfl | rfl
    · exact now
    · exact later
  exact enters_congr sessions rfl (h decidingMs holds)

theorem admits_reached {i : Fin SESSION_CAPACITY} {receivedMs : UInt64}
    (reached : Reached state clientId V4_WIRE_VERSION FORM1_ID i sessionId)
    (expiry : (state.sessions i).expiresAtMs = receivedMs + SESSION_TIMEOUT_MS)
    (received : window.Holds receivedMs) : Admits window state clientId sessionId := by
  intro nowMs now
  have kept : (MuxSession.expire state nowMs).2.sessions i = state.sessions i :=
    if_neg (by rw [session_fresh received expiry now]; exact Bool.false_ne_true)
  obtain ⟨found, slot⟩ := reached
  refine .inl ⟨i, ?_, by rw [kept]; exact slot⟩
  unfold findByClientSession at found ⊢
  split at found
  · contradiction
  · rename_i named
    rw [if_neg named]
    apply SlotTable.find?_kept found
    · rw [kept]
      exact SlotTable.find?_holds found
    · intro j matching
      change (let s := if MuxSession.isExpired (state.sessions j) nowMs then Session.zero
        else state.sessions j
        s.active && s.clientSessionId == clientId && s.wireVersion == V4_WIRE_VERSION &&
          s.wireForm == FORM1_ID) = true at matching
      split at matching
      · contradiction
      · exact matching

theorem enters_ingest {normal : RecvPacket} {nowMs : UInt64} (named : clientId ≠ 0)
    (owned : normal.sessionId = clientId)
    (wire : normal.wireVersion = V4_WIRE_VERSION ∧ normal.wireForm = FORM1_ID)
    (now : window.Holds nowMs) (h : Enters state clientId sessionId) :
    ∃ state', MuxSession.ingest state ⟨true⟩ normal nowMs =
        some (state', handedOn normal sessionId) ∧
      Enters state' clientId sessionId ∧ Admits window state' clientId sessionId := by
  have structured : normal.wireVersion ≠ 0 := by
    rw [wire.1]
    decide
  have accepted : ∃ state' p, MuxSession.ingest state ⟨true⟩ normal nowMs = some (state', p) ∧
      p = handedOn normal sessionId := by
    rcases ingest_cases state nowMs (.inl rfl) with
      ⟨i, after, p, ingested, joins, -, byClient⟩ | ⟨i, after, p, ingested, starts, opens⟩ |
      ⟨-, opens, full⟩
    · refine ⟨after, p, ingested, ?_⟩
      have found := byClient rfl structured
      rw [owned, wire.1, wire.2] at found
      rcases h with ⟨j, reached, slot⟩ | ⟨missing, -, -⟩
      · rw [found] at reached
        obtain rfl := Option.some.inj reached
        rw [joins.packet, slot]
      · rw [found] at missing
        contradiction
    · refine ⟨after, p, ingested, ?_⟩
      have missing := opens.1 rfl
      rw [owned, wire.1, wire.2] at missing
      rcases h with ⟨j, reached, -⟩ | ⟨-, -, next⟩
      · rw [missing] at reached
        contradiction
      · rw [starts.packet, next]
    · have missing := opens.1 rfl
      rw [owned, wire.1, wire.2] at missing
      rcases h with ⟨j, reached, -⟩ | ⟨-, ⟨i, free⟩, -⟩
      · rw [missing] at reached
        contradiction
      · rw [full i] at free
        contradiction
  obtain ⟨state', p, ingested, rfl⟩ := accepted
  obtain ⟨i, found, reached, expiry, same⟩ := ingest_reached rfl (by rw [owned]; exact named)
    structured ingested
  obtain rfl : sessionId = found := congrArg RecvPacket.sessionId same
  rw [owned, wire.1, wire.2] at reached
  exact ⟨state', ingested, .inl ⟨i, reached⟩, admits_reached reached expiry now⟩

end Session

section Receive

/-- The fragments of a message as datagrams, and what the receiver makes of each. -/
structure Delivery (client : CodecEnv) (window : Window) where
  msg : Message
  clientId : UInt64
  normal : Fin msg.count → RecvPacket
  datagram : Fin msg.count → Datagram
  client_ne : clientId ≠ 0
  handed : ∀ i, msg.fragment i = handedOn (normal i) msg.sessionId
  owned : ∀ i, (normal i).sessionId = clientId
  wire : ∀ i, (normal i).wireVersion = V4_WIRE_VERSION ∧ (normal i).wireForm = FORM1_ID
  within : ∀ i, window.Holds (normal i).receivedMs
  arrives : ∀ i env policy control, Matching client env →
    normalize policy env (datagram i).ingress control =
      (if policy = .no then none else some (normal i), ⟨true⟩)

variable {client : CodecEnv} {window : Window} (delivery : Delivery client window)

structure Amid (intake : MuxIntake.Intake) (arrived : Finset (Fin delivery.msg.count))
    (next : ℕ) : Prop where
  adapters : intake.stream.adapterLib = some registered
  admits : Admits window intake.session delivery.clientId delivery.msg.sessionId
  incoming : Incoming delivery.msg intake.stream arrived next

variable {delivery} {intake : MuxIntake.Intake} {arrived : Finset (Fin delivery.msg.count)}
  {next : ℕ}

theorem held_fresh {nowMs : UInt64} (now : window.Holds nowMs) (i : Fin delivery.msg.count) :
    MuxStream.isExpired (delivery.msg.held i) nowMs = false := by
  apply packet_fresh _ now
  change window.Holds (delivery.msg.fragment i).receivedMs
  rw [delivery.handed]
  exact delivery.within i

theorem amid_expire (amid : Amid delivery intake arrived next) {nowMs : UInt64}
    (now : window.Holds nowMs) :
    Amid delivery (expireBoth intake nowMs) arrived next ∧
    Enters (expireBoth intake nowMs).session delivery.clientId delivery.msg.sessionId :=
  ⟨⟨amid.adapters, admits_expire amid.admits now, incoming_expire amid.incoming (held_fresh now)⟩,
    amid.admits nowMs now⟩

theorem take_fragment {env : CodecEnv} {policy : PolicyEnforceEncryption} (lets : policy ≠ .no)
    (matching : Matching client env) {nowMs : UInt64} (now : window.Holds nowMs)
    (control : Control) (amid : Amid delivery intake arrived next)
    (enters : Enters intake.session delivery.clientId delivery.msg.sessionId)
    {i : Fin delivery.msg.count} (new : i ∉ arrived) :
    ∃ intake', MuxInbox.take policy env nowMs control intake (delivery.datagram i).ingress =
        ⟨.queued (delivery.normal i), ⟨true⟩, intake'⟩ ∧
      Amid delivery intake' (insert i arrived) next ∧
      Enters intake'.session delivery.clientId delivery.msg.sessionId := by
  obtain ⟨session, handed, entered, admits⟩ := enters_ingest delivery.client_ne (delivery.owned i)
    (delivery.wire i) now enters
  have copied : Readable intake.stream true (delivery.msg.held i) := by
    intro _
    refine ⟨rfl, ?_⟩
    unfold MuxStream.copyUser
    rw [amid.adapters]
    change registered.contains (delivery.msg.fragment i).wireVersion = true
    rw [delivery.handed]
    change registered.contains (delivery.normal i).wireVersion = true
    rw [(delivery.wire i).1]
    rfl
  obtain ⟨stream, accepted, adapters, incoming⟩ := incoming_ingest amid.incoming new copied
  rw [delivery.handed] at accepted
  have taken : MuxIntake.intake intake ⟨true⟩ (delivery.normal i) nowMs =
      (true, ⟨session, stream⟩) := by
    unfold MuxIntake.intake
    rw [handed]
    dsimp only
    rw [accepted]
  refine ⟨⟨session, stream⟩, ?_, ⟨adapters.trans amid.adapters, admits, incoming⟩, entered⟩
  unfold MuxInbox.take
  rw [delivery.arrives i env policy control matching, if_neg lets]
  dsimp only
  rw [taken]

theorem pumpList_fragments {env : CodecEnv} {policy : PolicyEnforceEncryption}
    (lets : policy ≠ .no) (matching : Matching client env) {clock : ℕ → UInt64}
    (now : ∀ k, window.Holds (clock k)) (k : ℕ) (control : Control)
    (amid : Amid delivery intake arrived next)
    (enters : Enters intake.session delivery.clientId delivery.msg.sessionId)
    (indices : List (Fin delivery.msg.count)) (nodup : indices.Nodup)
    (new : ∀ i ∈ indices, i ∉ arrived) :
    let pumped := pumpList policy env clock k control intake
      (indices.map fun i => (delivery.datagram i).ingress)
    Amid delivery pumped.1 (arrived ∪ indices.toFinset) next ∧ pumped.2.2 = [] := by
  induction indices generalizing k control intake arrived with
  | nil =>
    refine ⟨?_, rfl⟩
    rw [List.toFinset_nil, Finset.union_empty]
    exact amid
  | cons i indices ih =>
    obtain ⟨fresh, rest⟩ := List.nodup_cons.mp nodup
    obtain ⟨intake', taken, amid', enters'⟩ := take_fragment lets matching (now k) control amid
      enters (new i List.mem_cons_self)
    have others : ∀ j ∈ indices, j ∉ insert i arrived := by
      intro j member
      rw [Finset.mem_insert, not_or]
      refine ⟨?_, new j (List.mem_cons_of_mem _ member)⟩
      rintro rfl
      exact fresh member
    have finished := ih (k + 1) ⟨true⟩ amid' enters' rest others
    have grown : arrived ∪ (i :: indices).toFinset = insert i arrived ∪ indices.toFinset := by
      rw [List.toFinset_cons, Finset.union_insert, Finset.insert_union]
    dsimp only at finished ⊢
    rw [List.map_cons]
    unfold pumpList
    rw [taken, grown]
    exact finished

/-- A receiver that is in the middle of the message and has looked at every datagram. -/
structure Receiving (delivery : Delivery client window) (state : MuxState)
    (arrived : Finset (Fin delivery.msg.count)) (next : ℕ) : Prop where
  lets : state.policy ≠ .no
  looked : state.ingress.contents = []
  amid : Amid delivery state.intake arrived next

variable {state : MuxState}

structure Timely (window : Window) (clock : PumpClock) : Prop where
  start : window.Holds clock.start
  taken : ∀ k, window.Holds (clock.taken k)
  finish : window.Holds clock.finish

theorem pump_fragments (receiving : Receiving delivery state arrived next) {env : CodecEnv}
    (matching : Matching client env) {clock : PumpClock} (timely : Timely window clock)
    (indices : List (Fin delivery.msg.count)) (nodup : indices.Nodup)
    (new : ∀ i ∈ indices, i ∉ arrived) :
    Receiving delivery (pump env clock (indices.map delivery.datagram) state).1
      (arrived ∪ indices.toFinset) next := by
  obtain ⟨amid, enters⟩ := amid_expire receiving.amid timely.start
  have few : (indices.map delivery.datagram).length ≤ INGRESS_QUEUE_CAPACITY := by
    have distinct := nodup.length_le_card
    rw [Fintype.card_fin] at distinct
    rw [List.length_map]
    exact distinct.trans delivery.msg.small
  have contents := ingressPump_contents receiving.looked _ few
  have listed := pumpIngress_list state.policy env clock.taken
    (ingressPump state.ingress (indices.map delivery.datagram))
    (expireBoth state.intake clock.start)
  have pumped := pumpList_fragments receiving.lets matching timely.taken 0 ⟨false⟩ amid enters
    indices nodup new
  rw [contents, List.map_map] at listed
  change (_, _, _) = pumpList state.policy env clock.taken 0 ⟨false⟩
    (expireBoth state.intake clock.start)
    (indices.map fun i => (delivery.datagram i).ingress) at listed
  dsimp only at pumped
  rw [← listed] at pumped
  obtain ⟨after, empty⟩ := pumped
  refine ⟨receiving.lets, empty, ?_⟩
  unfold pump
  dsimp only
  split
  · exact ⟨after.adapters, after.admits, incoming_expire after.incoming (held_fresh timely.finish)⟩
  · exact after

theorem drain_fragments (receiving : Receiving delivery state arrived next) :
    ∃ next', Receiving delivery (MuxInbox.drain state).2 arrived next' ∧
      (MuxInbox.drain state).1.toList.filter delivery.msg.Owns ++ rest delivery.msg next' =
        rest delivery.msg next := by
  obtain ⟨next', incoming, drained⟩ := incoming_drain receiving.amid.incoming
  refine ⟨next', ⟨receiving.lets, receiving.looked, ⟨?_, receiving.amid.admits, incoming⟩⟩, drained⟩
  change (MuxStream.drain state.intake.stream true).2.adapterLib = _
  rcases drain_cases state.intake.stream true with ⟨p, stream, taken, spec⟩ | ⟨taken, -⟩
  · rw [taken]
    exact spec.adapters.trans receiving.amid.adapters
  · rw [taken]
    exact receiving.amid.adapters

def Op.waiting : Op → List Datagram
  | .pump _ _ waiting => waiting
  | .drain => []

def During (client : CodecEnv) (window : Window) : Op → Prop
  | .pump env clock waiting =>
    Matching client env ∧ Timely window clock ∧ ∀ d ∈ waiting, window.Holds d.receivedMs
  | .drain => True

theorem run_fragments (ops : List Op) (during : ∀ op ∈ ops, During client window op)
    (receiving : Receiving delivery state arrived next) (indices : List (Fin delivery.msg.count))
    (comes : ops.flatMap Op.waiting = indices.map delivery.datagram) (nodup : indices.Nodup)
    (new : ∀ i ∈ indices, i ∉ arrived) :
    ∃ next', Receiving delivery (run step state ops).1 (arrived ∪ indices.toFinset) next' ∧
      (run step state ops).2.filter delivery.msg.Owns ++ rest delivery.msg next' =
        rest delivery.msg next := by
  induction ops generalizing state arrived next indices with
  | nil =>
    obtain rfl : indices = [] := List.map_eq_nil_iff.mp comes.symm
    refine ⟨next, ?_, rfl⟩
    rw [List.toFinset_nil, Finset.union_empty]
    exact receiving
  | cons op ops ih =>
    have later : ∀ op ∈ ops, During client window op := fun op member =>
      during op (List.mem_cons_of_mem _ member)
    rw [List.flatMap_cons] at comes
    cases op with
    | pump env clock waiting =>
      obtain ⟨matching, timely, -⟩ := during _ List.mem_cons_self
      obtain ⟨now, after, rfl, first, others⟩ := List.map_eq_append_iff.mp comes.symm
      obtain ⟨nodupNow, nodupAfter, apart⟩ := List.nodup_append.mp nodup
      have pumped := pump_fragments receiving matching timely now nodupNow fun i member =>
        new i (List.mem_append_left _ member)
      rw [first] at pumped
      have unseen : ∀ i ∈ after, i ∉ arrived ∪ now.toFinset := by
        intro i member
        rw [Finset.mem_union, not_or, List.mem_toFinset]
        exact ⟨new i (List.mem_append_right _ member), fun earlier => apart i earlier i member rfl⟩
      obtain ⟨next', reached, drained⟩ := ih later pumped after others.symm nodupAfter unseen
      refine ⟨next', ?_, drained⟩
      rw [List.toFinset_append, ← Finset.union_assoc]
      exact reached
    | drain =>
      obtain ⟨between, stepped, taken⟩ := drain_fragments receiving
      obtain ⟨next', reached, drained⟩ := ih later stepped indices comes nodup new
      refine ⟨next', reached, ?_⟩
      change ((MuxInbox.drain state).1.toList ++ (run step (MuxInbox.drain state).2 ops).2).filter
        delivery.msg.Owns ++ rest delivery.msg next' = rest delivery.msg next
      rw [List.filter_append, List.append_assoc, drained, taken]

theorem drains_nothing (n : ℕ)
    (none_left : MuxStream.drain state.intake.stream true = (none, state.intake.stream)) :
    (run step state (List.replicate n .drain)).2 = [] := by
  have same : step state .drain = (state, []) := by
    unfold step MuxInbox.drain
    rw [none_left]
    rfl
  induction n with
  | zero => rfl
  | succ n ih =>
    rw [List.replicate_succ]
    unfold run
    rw [same]
    exact ih

theorem drains_fragments (n : ℕ)
    (receiving : Receiving delivery state Finset.univ next)
    (enough : (queued state.intake.stream).card ≤ n) :
    (run step state (List.replicate n .drain)).2.filter delivery.msg.Owns =
      rest delivery.msg next := by
  induction n generalizing state next with
  | zero =>
    have empty : queued state.intake.stream = 0 := Multiset.card_eq_zero.mp (Nat.le_zero.mp enough)
    rcases drain_cases state.intake.stream true with ⟨p, stream, -, spec⟩ | ⟨none_left, -⟩
    · have queue := spec.queue
      rw [empty] at queue
      exact absurd queue Multiset.zero_ne_cons
    · rw [incoming_done receiving.amid.incoming none_left, rest_done]
      rfl
  | succ n ih =>
    rcases drain_cases state.intake.stream true with ⟨p, stream, drained, spec⟩ | ⟨none_left, -⟩
    · obtain ⟨between, stepped, taken⟩ := drain_fragments receiving
      have fewer : (queued (MuxInbox.drain state).2.intake.stream).card ≤ n := by
        change (queued (MuxStream.drain state.intake.stream true).2).card ≤ n
        rw [drained]
        rw [spec.queue, Multiset.card_cons] at enough
        exact Nat.le_of_succ_le_succ enough
      rw [List.replicate_succ, ← taken, ← ih stepped fewer, ← List.filter_append]
      rfl
    · rw [drains_nothing _ none_left, incoming_done receiving.amid.incoming none_left, rest_done]
      rfl

end Receive

section Transfer

/-- A packet that a sender of protocol 4 has staged in a forced number of fragments. -/
structure Transfer where
  client : CodecEnv
  random : ℕ → Entropy
  egress : EgressState
  send : SendPacket
  user : UserSendData
  count : ℕ
  lawful : Lawful client.cipher
  carried : send.user = some user
  short : user.payload.length ≤ USER_DATA_PAYLOAD_MAX
  many : 2 ≤ count
  small : count ≤ MuxStream.READY_QUEUE_CAPACITY
  staged : (stageFragments client random egress send count).ok = true

variable (transfer : Transfer)

def Transfer.fragments : List EgressData :=
  (stageFragments transfer.client transfer.random transfer.egress transfer.send
    transfer.count).egress.contents.drop transfer.egress.contents.length

def Transfer.Carries (sessionId : UInt64) (p : RecvPacket) : Prop :=
  p.sessionId = sessionId ∧ p.streamId = transfer.send.streamId ∧
    p.messageId = transfer.send.messageId

instance (sessionId : UInt64) (p : RecvPacket) : Decidable (transfer.Carries sessionId p) :=
  inferInstanceAs (Decidable (_ ∧ _))

def payloadOf (p : RecvPacket) : Bytes := (p.user.map fun user => user.payload).getD []

/-- The packets of the message in the order of their indices, which carry its payload. -/
structure Transfer.DeliveredBy (packets : List RecvPacket) : Prop where
  order : packets.map (fun p => p.fragmentIndex.toNat) = List.range transfer.count
  total : ∀ p ∈ packets, p.fragmentCount.toNat = transfer.count
  payload : packets.flatMap payloadOf = transfer.user.payload

/-- The client's session is `sessionId` for the whole window, the message's stream has no message
in flight, the ready queue has room for the fragments and nothing under the message's ids. -/
structure Transfer.Expected (window : Window) (sessionId : UInt64) (state : MuxState) : Prop where
  looked : state.ingress.contents = []
  admits : Admits window state.intake.session transfer.send.sessionId sessionId
  trackable : Trackable state.intake.stream sessionId transfer.send.streamId
  idle : ∀ t, tracker state.intake.stream sessionId transfer.send.streamId = some t →
    t.messageId = 0
  absent : ∀ p ∈ queued state.intake.stream, ¬ transfer.Carries sessionId p
  room : (queued state.intake.stream).card + transfer.count ≤ MuxStream.READY_QUEUE_CAPACITY

/-- The ids that a receiver takes over, where a zero stands for one that it assigns itself. -/
structure Transfer.Named : Prop where
  session : transfer.send.sessionId ≠ 0
  stream : transfer.send.streamId ≠ 0
  message : transfer.send.messageId ≠ 0

theorem perm_map_lift {α β : Type} {f : α → β} {ys : List β} {xs : List α}
    (h : ys.Perm (xs.map f)) : ∃ zs : List α, ys = zs.map f ∧ zs.Perm xs := by
  have both : Relation.Comp (· = List.map f ·) List.Perm ys xs := by
    rw [List.eq_map_comp_perm]
    exact h
  exact both

variable {transfer} {window : Window} {sessionId : UInt64}

theorem datagrams_indexed {datagrams : List Datagram}
    (comes : (datagrams.map fun d => d.bytes).Perm
      (transfer.fragments.map fun e => e.egressBuffer)) :
    ∃ (datagram : Fin transfer.count → Datagram) (indices : List (Fin transfer.count)),
      datagrams = indices.map datagram ∧ indices.Perm (List.finRange transfer.count) ∧
      ∀ i : Fin transfer.count, ∃ egress, EncodedAs transfer.client transfer.random transfer.send
        transfer.user transfer.count i.val egress ∧ (datagram i).bytes = egress.egressBuffer := by
  obtain ⟨fragments, contents, encoded⟩ := stageFragments_staged transfer.many transfer.carried
    transfer.short transfer.staged
  have fragmentsEq : transfer.fragments = fragments := by
    unfold Transfer.fragments
    rw [contents, List.drop_left]
  rw [fragmentsEq] at comes
  obtain ⟨sorted, bytes, perm⟩ := perm_map_lift comes.symm
  have length : fragments.length = transfer.count := by
    rw [← encoded.length_eq, List.length_range]
  have sortedLength : sorted.length = transfer.count := by
    have lengths := congrArg List.length bytes
    rw [List.length_map, List.length_map, length] at lengths
    exact lengths.symm
  have listed : sorted = (List.finRange transfer.count).map
      fun i => sorted.get ⟨i.val, by rw [sortedLength]; exact i.isLt⟩ := by
    apply List.ext_getElem
    · rw [List.length_map, List.length_finRange, sortedLength]
    · intro k _ _
      simp
  rw [listed] at perm
  obtain ⟨indices, same, shuffled⟩ := perm_map_lift perm.symm
  refine ⟨_, indices, same, shuffled, ?_⟩
  intro i
  have inFragments : i.val < fragments.length := by
    rw [length]
    exact i.isLt
  refine ⟨fragments[i.val], ?_, ?_⟩
  · have made := encoded.get (by rw [List.length_range]; exact i.isLt) inFragments
    simpa using made
  · have both := congrArg (fun bytes : List Bytes => bytes[i.val]?) bytes
    have inSorted : i.val < sorted.length := by
      rw [sortedLength]
      exact i.isLt
    simp only [List.getElem?_map, List.getElem?_eq_getElem inFragments,
      List.getElem?_eq_getElem inSorted, Option.map_some] at both
    exact (Option.some.inj both).symm

def Transfer.unit (transfer : Transfer) (hmac : Fin transfer.count → Bytes)
    (i : Fin transfer.count) : NormalizedUnit :=
  { KnockCodecV4.fragment (fragmentUnit transfer.send transfer.user transfer.count i)
      transfer.count i with hmac := hmac i }

def Transfer.message (transfer : Transfer) (named : transfer.Named) (sessionId : UInt64)
    (given : sessionId ≠ 0) (hmac : Fin transfer.count → Bytes)
    (datagram : Fin transfer.count → Datagram) : Message where
  count := transfer.count
  sessionId := sessionId
  streamId := transfer.send.streamId
  messageId := transfer.send.messageId
  fragment i := handedOn (arrival (transfer.unit hmac i) (datagram i).ingress) sessionId
  many := transfer.many
  small := transfer.small
  session_ne := given
  stream_ne := named.stream
  message_ne := named.message
  session _ := rfl
  stream _ := rfl
  message _ := rfl
  index i := UInt32.toNat_ofNat_of_lt'
    (lt_of_lt_of_le i.isLt (transfer.small.trans (by decide)))
  total _ := UInt32.toNat_ofNat_of_lt' (lt_of_le_of_lt transfer.small (by decide))

theorem message_delivered (named : transfer.Named) (given : sessionId ≠ 0)
    (hmac : Fin transfer.count → Bytes) (datagram : Fin transfer.count → Datagram) :
    transfer.DeliveredBy (rest (transfer.message named sessionId given hmac datagram) 0) := by
  have pos : 0 < transfer.count := lt_of_lt_of_le Nat.two_pos transfer.many
  refine ⟨?_, ?_, ?_⟩
  · unfold rest
    rw [List.drop_zero, List.map_map]
    have indices : ((fun p : RecvPacket => p.fragmentIndex.toNat) ∘
        (transfer.message named sessionId given hmac datagram).held) = Fin.val := by
      funext i
      exact (transfer.message named sessionId given hmac datagram).held_index i
    rw [indices]
    exact List.map_coe_finRange_eq_range
  · intro p member
    obtain ⟨i, -, rfl⟩ := List.mem_map.mp member
    exact (transfer.message named sessionId given hmac datagram).total i
  · have whole := fragments_concat (fragmentUnit transfer.send transfer.user transfer.count 0) pos
    change _ = transfer.user.payload at whole
    rw [← whole]
    unfold rest
    rw [List.drop_zero, ← List.map_coe_finRange_eq_range, List.flatMap_map, List.flatMap_map]
    rfl

/-- A receiver with the client's keys reads every one of the datagrams. -/
def Transfer.Arrives (transfer : Transfer) (hmac : Fin transfer.count → Bytes)
    (datagram : Fin transfer.count → Datagram) : Prop :=
  ∀ i env policy control, Matching transfer.client env →
    normalize policy env (datagram i).ingress control =
      (if policy = .no then none
        else some (arrival (transfer.unit hmac i) (datagram i).ingress), ⟨true⟩)

def Transfer.delivery (transfer : Transfer) (named : transfer.Named) (given : sessionId ≠ 0)
    (hmac : Fin transfer.count → Bytes) (datagram : Fin transfer.count → Datagram)
    (within : ∀ i, window.Holds (datagram i).receivedMs)
    (arrives : transfer.Arrives hmac datagram) : Delivery transfer.client window where
  msg := transfer.message named sessionId given hmac datagram
  clientId := transfer.send.sessionId
  normal i := arrival (transfer.unit hmac i) (datagram i).ingress
  datagram := datagram
  client_ne := named.session
  handed _ := rfl
  owned _ := rfl
  wire _ := ⟨rfl, rfl⟩
  within := within
  arrives := arrives

theorem encoded_arrives {datagram : Fin transfer.count → Datagram}
    (encoded : ∀ i : Fin transfer.count, ∃ egress, EncodedAs transfer.client transfer.random
      transfer.send transfer.user transfer.count i.val egress ∧
      (datagram i).bytes = egress.egressBuffer) :
    ∃ hmac, transfer.Arrives hmac datagram := by
  choose egress encodes bytes using encoded
  have sent (i : Fin transfer.count) := normalize_sent transfer.lawful (encodes i).1
    ((fragment_payload_le _ _ _).trans transfer.short)
  choose hmac arrives using sent
  refine ⟨hmac, fun i env policy control matching => ?_⟩
  apply arrives i env (datagram i).ingress policy control matching
  change (datagram i).bytes.take NORMALIZED_PACKET_BUFFER_SIZE = _
  rw [bytes i]
  exact List.take_of_length_le (encodes i).2

theorem waiting_within {ops : List Op} (during : ∀ op ∈ ops, During transfer.client window op)
    {d : Datagram} (member : d ∈ ops.flatMap Op.waiting) : window.Holds d.receivedMs := by
  obtain ⟨op, among, waits⟩ := List.mem_flatMap.mp member
  cases op with
  | pump env clock waiting => exact (during _ among).2.2 d waits
  | drain => exact absurd waits List.not_mem_nil

theorem expected_receiving {state : MuxState} (serves : Serviceable state)
    (lets : state.policy ≠ .no) (expected : transfer.Expected window sessionId state)
    (named : transfer.Named) (given : sessionId ≠ 0) {hmac : Fin transfer.count → Bytes}
    {datagram : Fin transfer.count → Datagram}
    (within : ∀ i, window.Holds (datagram i).receivedMs)
    (arrives : transfer.Arrives hmac datagram) :
    Receiving (transfer.delivery named given hmac datagram within arrives) state ∅ 0 := by
  refine ⟨lets, expected.looked, serves.adapters, expected.admits, ?_⟩
  refine ⟨.inl ⟨rfl, rfl, expected.trackable, expected.idle, expected.absent, expected.room⟩, ?_⟩
  intro p member user
  refine ⟨rfl, ?_⟩
  unfold MuxStream.copyUser
  rw [serves.adapters]
  exact List.contains_iff_mem.mpr (serves.readable p member user)

/-- Whatever order the staged fragments of a message come in, in whatever batches and with drains
anywhere in between, the receiver hands out its packets in order, and together they carry the
payload. -/
theorem fragments_delivered (transfer : Transfer) (named : transfer.Named) (socketFd : ℤ)
    (policy : PolicyEnforceEncryption) (lets : policy ≠ .no) (before ops : List Op)
    (window : Window) (sessionId : UInt64) (given : sessionId ≠ 0)
    (expected : transfer.Expected window sessionId
      (run step (connectSocket socketFd policy) before).1)
    (during : ∀ op ∈ ops, During transfer.client window op)
    (comes : ((ops.flatMap Op.waiting).map fun d => d.bytes).Perm
      (transfer.fragments.map fun e => e.egressBuffer))
    (drains : ℕ) (enough : MuxStream.READY_QUEUE_CAPACITY ≤ drains) :
    transfer.DeliveredBy ((run step (run step (connectSocket socketFd policy) before).1
      (ops ++ List.replicate drains .drain)).2.filter (transfer.Carries sessionId)) := by
  obtain ⟨serves, same⟩ := serviceable_run socketFd policy before
  generalize (run step (connectSocket socketFd policy) before).1 = state at expected serves same
  obtain ⟨datagram, indices, listed, shuffled, encoded⟩ := datagrams_indexed comes
  obtain ⟨hmac, arrives⟩ := encoded_arrives encoded
  have within (i : Fin transfer.count) : window.Holds (datagram i).receivedMs := by
    apply waiting_within during
    rw [listed]
    exact List.mem_map_of_mem (shuffled.mem_iff.mpr (List.mem_finRange i))
  have nodup : indices.Nodup := shuffled.nodup_iff.mpr (List.nodup_finRange _)
  let delivery := transfer.delivery named given hmac datagram within arrives
  have receiving : Receiving delivery state ∅ 0 :=
    expected_receiving serves (same ▸ lets) expected named given within arrives
  obtain ⟨next, reached, drained⟩ := run_fragments ops during receiving indices listed nodup
    fun i _ => Finset.notMem_empty i
  have all : ∅ ∪ @List.toFinset (Fin delivery.msg.count) _ indices = Finset.univ := by
    apply Finset.eq_univ_iff_forall.mpr
    intro i
    exact Finset.mem_union_right _ (List.mem_toFinset.mpr
      (shuffled.mem_iff.mpr (List.mem_finRange i)))
  rw [all] at reached
  have left := drains_fragments drains reached ((queued_card_le _).trans enough)
  rw [run_append, List.filter_append]
  rw [← left] at drained
  change transfer.DeliveredBy ((run step state ops).2.filter delivery.msg.Owns ++
    (run step (run step state ops).1 (List.replicate drains .drain)).2.filter delivery.msg.Owns)
  rw [drained]
  exact message_delivered named given hmac datagram

theorem expected_fresh (transfer : Transfer) (window : Window) (socketFd : ℤ)
    (policy : PolicyEnforceEncryption) :
    transfer.Expected window 1 (connectSocket socketFd policy) := by
  have untracked : trackedSessions (connectSocket socketFd policy).intake.stream = 0 :=
    SlotTable.contents_empty fun _ => rfl
  have empty : queued (connectSocket socketFd policy).intake.stream = 0 :=
    SlotTable.contents_empty fun _ => rfl
  have unknown : sessionAt (connectSocket socketFd policy).intake.stream 1 = none := by
    rw [sessionAt_none_iff, untracked]
    exact Multiset.notMem_zero _
  refine ⟨rfl, ?_, ⟨?_, ?_⟩, ?_, ?_, ?_⟩
  · intro nowMs _
    have cleared (i : Fin SESSION_CAPACITY) : (MuxSession.expire
        (connectSocket socketFd policy).intake.session nowMs).2.sessions i = Session.zero := by
      change (if MuxSession.isExpired Session.zero nowMs then Session.zero else Session.zero) = _
      exact ite_self _
    refine .inr ⟨?_, ⟨⟨0, by decide⟩, by rw [cleared]; rfl⟩, rfl⟩
    unfold findByClientSession
    split
    · rfl
    · apply SlotTable.find?_none_iff.mpr
      intro i
      rw [cleared]
      rfl
  · intro _
    rw [untracked]
    decide
  · intro streams tracked
    rw [trackedStreams, unknown, Option.map_none] at tracked
    exact absurd tracked.symm (Option.some_ne_none streams)
  · intro t tracked
    rw [tracker_none_of_untracked unknown] at tracked
    exact absurd tracked.symm (Option.some_ne_none t)
  · rw [empty]
    exact fun p member => absurd member (Multiset.notMem_zero p)
  · rw [empty]
    simpa using transfer.small

end Transfer

section Example

def helloUser : UserSendData := ⟨1, 3, 99, List.replicate 32 0, [104, 105, 33]⟩

def helloSend (messageId : UInt64) : SendPacket :=
  { helloPacket with messageId := messageId, user := some helloUser }

theorem hello_many : 2 ≤ 2 := le_rfl

theorem hello_small : 2 ≤ MuxStream.READY_QUEUE_CAPACITY := by decide

def helloTransfer (messageId : UInt64) (staged : (stageFragments clientEnv (fun _ => plainEntropy)
    MuxEgress.stateInit (helloSend messageId) 2).ok = true) : Transfer where
  client := clientEnv
  random := fun _ => plainEntropy
  egress := MuxEgress.stateInit
  send := helloSend messageId
  user := helloUser
  count := 2
  lawful := boxCipher_lawful
  carried := rfl
  short := by decide
  many := hello_many
  small := hello_small
  staged := staged

def namedTransfer : Transfer := helloTransfer 7 (by decide +kernel)

def unnamedTransfer : Transfer := helloTransfer 0 (by decide +kernel)

def backwards (transfer : Transfer) : List Op :=
  [.pump serverEnv steady (transfer.fragments.map fun e =>
    Datagram.mk e.egressBuffer 5000 (ascii ['1', '0', '.', '0', '.', '0', '.', '1']) 4000).reverse]

def steadyWindow : Window := ⟨5000, by decide, by decide⟩

theorem steady_holds : steadyWindow.Holds 5000 := by
  unfold Window.Holds
  decide

theorem backwards_during (transfer : Transfer) (sender : transfer.client = clientEnv) :
    ∀ op ∈ backwards transfer, During transfer.client steadyWindow op := by
  intro op member
  obtain rfl := List.mem_singleton.mp member
  refine ⟨by rw [sender]; exact client_matching,
    ⟨steady_holds, fun _ => steady_holds, steady_holds⟩,
    ?_⟩
  intro d arrives
  obtain ⟨e, -, rfl⟩ := List.mem_map.mp (List.mem_reverse.mp arrives)
  exact steady_holds

theorem backwards_comes (transfer : Transfer) :
    (((backwards transfer).flatMap Op.waiting).map fun d => d.bytes).Perm
      (transfer.fragments.map fun e => e.egressBuffer) := by
  unfold backwards
  rw [List.flatMap_singleton]
  unfold Op.waiting
  rw [List.map_reverse, List.map_map]
  exact List.reverse_perm _

theorem named_delivered :
    namedTransfer.DeliveredBy ((run step (run step (connectSocket 3 .yes) []).1
      (backwards namedTransfer ++ List.replicate 64 .drain)).2.filter
        (namedTransfer.Carries 1)) :=
  fragments_delivered namedTransfer ⟨by decide, by decide, by decide⟩ 3 .yes (by decide) []
    (backwards namedTransfer) steadyWindow 1 (by decide) (expected_fresh _ _ _ _)
    (backwards_during _ rfl) (backwards_comes _) 64 le_rfl

/-- Each fragment of a message without an id is given one of its own, and the stream takes only
the first. -/
theorem unnamed_not_delivered :
    ¬ ∀ (transfer : Transfer) (socketFd : ℤ) (policy : PolicyEnforceEncryption), policy ≠ .no →
      ∀ (before ops : List Op) (window : Window) (sessionId : UInt64), sessionId ≠ 0 →
      transfer.Expected window sessionId (run step (connectSocket socketFd policy) before).1 →
      (∀ op ∈ ops, During transfer.client window op) →
      ((ops.flatMap Op.waiting).map fun d => d.bytes).Perm
        (transfer.fragments.map fun e => e.egressBuffer) →
      ∀ drains : ℕ, MuxStream.READY_QUEUE_CAPACITY ≤ drains →
      transfer.DeliveredBy ((run step (run step (connectSocket socketFd policy) before).1
        (ops ++ List.replicate drains .drain)).2.filter (transfer.Carries sessionId)) := by
  intro delivered
  have order := (delivered unnamedTransfer 3 .yes (by decide) [] (backwards unnamedTransfer)
    steadyWindow 1 (by decide) (expected_fresh _ _ _ _) (backwards_during _ rfl)
    (backwards_comes _) 64 le_rfl).order
  have nothing : (run step (run step (connectSocket 3 .yes) []).1
      (backwards unnamedTransfer ++ List.replicate 64 .drain)).2.length = 0 := by decide +kernel
  rw [List.length_eq_zero_iff.mp nothing] at order
  exact absurd order (by decide)

end Example

end Siglatch.MuxFragments
