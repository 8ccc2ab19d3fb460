import Siglatch.KnockEncode
import Siglatch.MuxInboxRuns

set_option autoImplicit false

namespace Siglatch.MuxLiveSessions
open MuxTypes RingQueue KnockCodec MuxAdapter MuxNormalize MuxInbox MuxInboxRuns MuxIntake
open MuxSession MuxStreamView MuxStreamOps StepRuns

/-- The wait on the socket failed: the pump returns right after its sweeps. -/
def pumpFailed (nowMs : UInt64) (state : MuxState) : MuxState :=
  { state with intake := expireBoth state.intake nowMs }

inductive PumpOp where
  | pump (env : CodecEnv) (clock : PumpClock) (waiting : List Datagram)
  | failed (nowMs : UInt64)
  | drain

def pumpStep (state : MuxState) : PumpOp → MuxState × List RecvPacket
  | .pump env clock waiting => ((pump env clock waiting state).1, [])
  | .failed nowMs => (pumpFailed nowMs state, [])
  | .drain => ((drain state).2, (drain state).1.toList)

structure Ticks (last : UInt64) (clock : PumpClock) (waiting : List Datagram) : Prop where
  start : last ≤ clock.start
  nonzero : clock.start ≠ 0
  read : ∀ d ∈ waiting, clock.start ≤ d.receivedMs ∧ d.receivedMs ≤ clock.taken 0
  started : clock.start ≤ clock.taken 0
  taken : ∀ k, clock.taken k ≤ clock.taken (k + 1)
  finish : ∀ k, clock.taken k ≤ clock.finish

/-- A clock that never goes back and never shows zero, over a run that starts at `last`. -/
def Monotonic : UInt64 → List PumpOp → Prop
  | _, [] => True
  | last, .pump _ clock waiting :: ops => Ticks last clock waiting ∧ Monotonic clock.finish ops
  | last, .failed nowMs :: ops => last ≤ nowMs ∧ nowMs ≠ 0 ∧ Monotonic nowMs ops
  | last, .drain :: ops => Monotonic last ops

def Roomy (nowMs : UInt64) : Prop := nowMs.toNat + 30000 < 2 ^ 64

def Unwrapped : PumpOp → Prop
  | .pump _ clock _ => Roomy clock.finish
  | .failed nowMs => Roomy nowMs
  | .drain => True

/-- Every queued packet has a session that outlives it. -/
def Covered (session : SessionState) (p : RecvPacket) : Prop :=
  ∃ i, (session.sessions i).active = true ∧ (session.sessions i).sessionId = p.sessionId ∧
    p.receivedMs.toNat + 30000 ≤ (session.sessions i).expiresAtMs.toNat

structure Living (nowMs : UInt64) (intake : Intake) : Prop where
  covered : ∀ p ∈ queued intake.stream, Covered intake.session p
  bounded : ∀ i, (intake.session.sessions i).active = true →
    (intake.session.sessions i).expiresAtMs.toNat ≤ nowMs.toNat + 30000

section Sweeps

variable {lastMs nowMs : UInt64} {intake : Intake} {p : RecvPacket}

theorem Living.later (h : Living lastMs intake) (order : lastMs ≤ nowMs) :
    Living nowMs intake := by
  refine ⟨h.covered, fun i active => ?_⟩
  have bound := h.bounded i active
  rw [UInt64.le_iff_toNat_le] at order
  omega

theorem stays_young (session : p.sessionId ≠ 0) (stays : MuxStream.isExpired p nowMs = false) :
    nowMs.toNat < p.receivedMs.toNat + 30000 := by
  unfold MuxStream.isExpired at stays
  rw [if_neg session] at stays
  split at stays
  · contradiction
  split at stays
  · rename_i early
    rw [UInt64.lt_iff_toNat_lt] at early
    omega
  · rename_i order
    have young := of_decide_eq_false stays
    rw [UInt64.le_iff_toNat_le, UInt64.toNat_sub_of_le _ _ (UInt64.not_lt.mp order)] at young
    change ¬ 30000 ≤ _ at young
    omega

theorem expireStream_living (h : Living lastMs intake) :
    Living lastMs { intake with stream := (MuxStream.expire intake.stream nowMs).2 } :=
  ⟨fun p member => h.covered p (Multiset.mem_of_le (expire_queued_le _ _) member), h.bounded⟩

theorem expireBoth_living (h : Living lastMs intake) (order : lastMs ≤ nowMs) :
    Living nowMs (expireBoth intake nowMs) := by
  have slot (i : Fin SESSION_CAPACITY) : (expireBoth intake nowMs).session.sessions i =
      if isExpired (intake.session.sessions i) nowMs then .zero
      else intake.session.sessions i := rfl
  refine ⟨?_, ?_⟩
  · intro p member
    change p ∈ queued (MuxStream.expire intake.stream nowMs).2 at member
    rw [expire_queued] at member
    obtain ⟨before, stays⟩ := Multiset.mem_filter.mp member
    obtain ⟨i, active, session, outlives⟩ := h.covered p before
    have young := stays_young (queued_mem.mp before).1 stays
    have kept : ¬ isExpired (intake.session.sessions i) nowMs = true := by
      unfold isExpired
      simp only [Bool.and_eq_true, decide_eq_true_eq, UInt64.le_iff_toNat_le]
      omega
    refine ⟨i, ?_⟩
    rw [slot, if_neg kept]
    exact ⟨active, session, outlives⟩
  · intro i active
    rw [slot] at active ⊢
    split at active
    · contradiction
    · rename_i kept
      rw [if_neg kept]
      exact (h.later order).bounded i active

end Sweeps

section Normalised

variable {policy : PolicyEnforceEncryption} {env : CodecEnv} {raw : Ingress}
  {control after : Control} {p : RecvPacket}

theorem normalize_received (made : (normalize policy env raw control).1 = some p) :
    p.receivedMs = raw.receivedMs := by
  rcases normalize_cases made with copied | ⟨adapter, identity, out, after, -, -, -, rfl⟩
  · exact (rawCopy_raw copied).received
  · rfl

theorem adapterDecode_session {unit : Option KnockDigest.NormalizedUnit}
    (anonymous : ∀ out, unit = some out → out.sessionId = 0)
    (h : adapterDecode raw unit = some p) : p.sessionId = 0 := by
  obtain ⟨out, made, copies⟩ := adapterDecode_copied h
  exact copies.session.trans (anonymous out made)

theorem decodeV1_session {out : KnockDigest.NormalizedUnit}
    (h : KnockCodecV1.decode env raw = some out) : out.sessionId = 0 := by
  obtain ⟨plaintext, encrypted, parsed⟩ := @packed_parsed env raw out
    (fun buf => KnockCodecV1.normalize env.now buf raw.ip raw.clientPort) h
  obtain ⟨pkt, -, rfl⟩ := Option.map_eq_some_iff.mp parsed
  rfl

theorem decodeV2_session {out : KnockDigest.NormalizedUnit}
    (h : KnockCodecV2.decode env raw = some out) : out.sessionId = 0 := by
  obtain ⟨plaintext, encrypted, parsed⟩ := @packed_parsed env raw out
    (fun buf => KnockCodecV2.normalize env.now buf raw.ip raw.clientPort) h
  obtain ⟨pkt, -, rfl⟩ := Option.map_eq_some_iff.mp parsed
  rfl

theorem decodeV3_session {out : KnockDigest.NormalizedUnit}
    (h : KnockCodecV3.decode env raw = some out) : out.sessionId = 0 := by
  unfold KnockCodecV3.decode KnockSealed.decode at h
  split at h
  · obtain rfl := Option.some.inj h
    rfl
  · obtain ⟨unit, -, rfl⟩ := Option.map_eq_some_iff.mp h
    rfl

theorem decode_normalised {adapter : Adapter} (registry : adapter ∈ adapters)
    (decoded : adapter.decode env raw control = (some p, after)) : Normalised after p := by
  have first := congrArg Prod.fst decoded
  rcases adapters_cases registry with rfl | rfl | rfl | rfl
  · exact .inr (adapterDecode_session (fun _ => decodeV1_session) first)
  · exact .inr (adapterDecode_session (fun _ => decodeV2_session) first)
  · exact .inr (adapterDecode_session (fun _ => decodeV3_session) first)
  · obtain rfl := congrArg Prod.snd decoded
    exact .inl rfl

theorem normalize_normalised (made : normalize policy env raw control = (some p, after)) :
    Normalised after p := by
  unfold MuxNormalize.normalize at made
  cases found : demux env raw with
  | none =>
    rw [found] at made
    exact .inr (rawCopy_raw (congrArg Prod.fst made)).session
  | some chosen =>
    obtain ⟨adapter, identity⟩ := chosen
    rw [found] at made
    dsimp only at made
    cases decoded : adapter.decode env (configureIngressIdentity raw identity) control with
    | mk out later =>
      rw [decoded] at made
      cases out with
      | none => exact .inr (rawCopy_raw (congrArg Prod.fst made)).session
      | some out =>
        have carried := decode_normalised (demux_some found).1 decoded
        dsimp only at made
        split at made
        · obtain ⟨same, rfl⟩ := Prod.mk.inj made
          obtain rfl := Option.some.inj same
          exact carried
        · cases (Prod.mk.inj made).1

end Normalised

section Intake

variable {lastMs nowMs : UInt64} {intake : Intake} {control : Control} {normal p : RecvPacket}

/-- What a packet adds to the queue, if anything, is the packet under its session. -/
theorem ingest_queued (stream : MuxStream.StreamState) {q : RecvPacket}
    (member : q ∈ queued (MuxStream.ingest stream p).2) :
    q ∈ queued stream ∨ q.sessionId = p.sessionId ∧ q.receivedMs = p.receivedMs := by
  rcases ingest_cases stream p with ⟨after, assigned, ingested⟩ |
    ⟨a, after, -, assigned, -, ingested⟩ |
    ⟨a, before, t, after, -, assigned, -, claimed, -, ingested⟩
  · rw [ingested, queued_of_readyQueue (assignIds_none assigned).1] at member
    exact .inl member
  · rw [ingested, queued_of_readyQueue assigned.queue] at member
    exact .inl member
  · have session : a.packet.sessionId ≠ 0 := by
      rw [assigned.session]
      exact assigned.session_ne
    have same := queued_of_readyQueue claimed.queue
    rw [ingested] at member
    rcases queuePacket_cases after session with ⟨-, -, -, queue, -⟩ | ⟨refused, -⟩
    · rw [queue, same] at member
      rcases Multiset.mem_cons.mp member with rfl | old
      · refine .inr ⟨?_, ?_⟩
        · rw [← assigned.session]
          rfl
        · rw [assigned.packet]
          rfl
      · exact .inl old
    · rw [refused, same] at member
      exact .inl member

theorem touched_toNat (roomy : Roomy nowMs) :
    (nowMs + SESSION_TIMEOUT_MS).toNat = nowMs.toNat + 30000 := by
  rw [UInt64.toNat_add]
  exact Nat.mod_eq_of_lt roomy

theorem covered_touched {session session' : SessionState} {i : Fin SESSION_CAPACITY}
    (h : Living lastMs ⟨session, intake.stream⟩) (order : lastMs ≤ nowMs) (roomy : Roomy nowMs)
    (active : (session'.sessions i).active = true)
    (id : (session.sessions i).active = true →
      (session'.sessions i).sessionId = (session.sessions i).sessionId)
    (touched : (session'.sessions i).expiresAtMs = nowMs + SESSION_TIMEOUT_MS)
    (others : ∀ j, j ≠ i → session'.sessions j = session.sessions j) :
    (∀ q ∈ queued intake.stream, Covered session' q) ∧
    ∀ j, (session'.sessions j).active = true →
      (session'.sessions j).expiresAtMs.toNat ≤ nowMs.toNat + 30000 := by
  have expires := congrArg UInt64.toNat touched
  rw [touched_toNat roomy] at expires
  rw [UInt64.le_iff_toNat_le] at order
  refine ⟨?_, ?_⟩
  · intro q member
    obtain ⟨j, was, server, outlives⟩ := h.covered q member
    by_cases same : j = i
    · subst same
      have bound := h.bounded j was
      dsimp only at was server outlives bound
      exact ⟨j, active, (id was).trans server, by omega⟩
    · refine ⟨j, ?_⟩
      rw [others j same]
      exact ⟨was, server, outlives⟩
  · intro j was
    by_cases same : j = i
    · rw [same, expires]
    · rw [others j same] at was ⊢
      have bound := h.bounded j was
      dsimp only at bound
      omega

theorem intake_living (h : Living lastMs intake) (order : lastMs ≤ nowMs) (roomy : Roomy nowMs)
    (carried : Normalised control normal) (received : normal.receivedMs ≤ nowMs) :
    Living nowMs (MuxIntake.intake intake control normal nowMs).2 := by
  have taken {session' : SessionState} {p : RecvPacket} {i : Fin SESSION_CAPACITY}
      (ingests : ingest intake.session control normal nowMs = some (session', p))
      (active : (session'.sessions i).active = true)
      (id : (intake.session.sessions i).active = true →
        (session'.sessions i).sessionId = (intake.session.sessions i).sessionId)
      (named : p = handedOn normal (session'.sessions i).sessionId)
      (touched : (session'.sessions i).expiresAtMs = nowMs + SESSION_TIMEOUT_MS)
      (others : ∀ j, j ≠ i → session'.sessions j = intake.session.sessions j) :
      Living nowMs (MuxIntake.intake intake control normal nowMs).2 := by
    obtain ⟨covered, bounded⟩ := covered_touched h order roomy active id touched others
    have result : (MuxIntake.intake intake control normal nowMs).2 =
        ⟨session', (MuxStream.ingest intake.stream p).2⟩ := by
      unfold MuxIntake.intake
      rw [ingests]
    rw [result]
    refine ⟨?_, bounded⟩
    intro q member
    rcases ingest_queued intake.stream member with old | ⟨session, stamp⟩
    · exact covered q old
    · refine ⟨i, active, ?_, ?_⟩
      · rw [session, named]
        rfl
      · rw [stamp, named, touched, touched_toNat roomy]
        rw [UInt64.le_iff_toNat_le] at received
        exact Nat.add_le_add_right received 30000
  rcases ingest_cases intake.session nowMs carried with ⟨i, session', p, ingests, joins, -⟩ |
    ⟨i, session', p, ingests, starts, -⟩ | ⟨refused, -⟩
  · refine taken ingests joins.active (fun _ => joins.session) ?_ joins.touched joins.others
    rw [joins.session]
    exact joins.packet
  · refine taken ingests starts.active ?_ ?_ starts.touched starts.others
    · intro was
      rw [starts.was_free] at was
      contradiction
    · rw [starts.session]
      exact starts.packet
  · have result : (MuxIntake.intake intake control normal nowMs).2 = intake := by
      unfold MuxIntake.intake
      rw [refused]
    rw [result]
    exact h.later order

end Intake

section Pump

variable {policy : PolicyEnforceEncryption} {env : CodecEnv} {lastMs nowMs : UInt64}

theorem take_living {control : Control} {intake : Intake} {raw : Ingress}
    (h : Living lastMs intake) (order : lastMs ≤ nowMs) (roomy : Roomy nowMs)
    (received : raw.receivedMs ≤ nowMs) :
    Living nowMs (take policy env nowMs control intake raw).intake := by
  unfold take
  cases made : normalize policy env raw control with
  | mk normal after =>
    cases normal with
    | none => exact h.later order
    | some normal =>
      have stamp := normalize_received (congrArg Prod.fst made)
      have living := intake_living h order roomy (normalize_normalised made)
        (by rw [stamp]; exact received)
      dsimp only
      split
      · rename_i handled
        rw [handled] at living
        exact living
      · rename_i handled
        rw [handled] at living
        exact living

theorem pumpList_living {taken : ℕ → UInt64} {finish : UInt64} (raws : List Ingress)
    (k : ℕ) (control : Control) (intake : Intake) (h : Living lastMs intake)
    (order : lastMs ≤ taken k) (steady : ∀ k, taken k ≤ taken (k + 1))
    (ends : ∀ k, taken k ≤ finish) (roomy : Roomy finish)
    (received : ∀ raw ∈ raws, raw.receivedMs ≤ taken k) :
    Living finish (pumpList policy env taken k control intake raws).1 ∧
    ∀ raw ∈ (pumpList policy env taken k control intake raws).2.2, raw.receivedMs ≤ finish := by
  induction raws generalizing k control intake lastMs with
  | nil =>
    have later := h.later (UInt64.le_trans order (ends k))
    exact ⟨later, fun raw member => absurd member List.not_mem_nil⟩
  | cons raw raws ih =>
    have room : Roomy (taken k) := by
      have bound := ends k
      rw [UInt64.le_iff_toNat_le] at bound
      unfold Roomy at roomy ⊢
      omega
    have living := @take_living policy env _ _ control intake raw h order room
      (received raw List.mem_cons_self)
    have later : ∀ other ∈ raws, other.receivedMs ≤ taken (k + 1) := fun other member =>
      UInt64.le_trans (received other (List.mem_cons_of_mem raw member)) (steady k)
    have rest := ih (k + 1) (take policy env (taken k) control intake raw).control _ living
      (steady k) later
    unfold pumpList
    dsimp only
    split
    · refine ⟨living.later (ends k), ?_⟩
      intro other member
      exact UInt64.le_trans (received other (List.mem_cons_of_mem raw member)) (ends k)
    · exact rest
    · exact rest

structure Queued (lastMs : UInt64) (state : MuxState) : Prop where
  living : Living lastMs state.intake
  received : ∀ raw ∈ state.ingress.contents, raw.receivedMs ≤ lastMs

theorem receive_received (state : IngressState) (waiting : List Datagram)
    (old : ∀ raw ∈ state.contents, raw.receivedMs ≤ nowMs)
    (read : ∀ d ∈ waiting, d.receivedMs ≤ nowMs) :
    ∀ raw ∈ (receive state waiting).contents, raw.receivedMs ≤ nowMs := by
  induction waiting generalizing state with
  | nil => exact old
  | cons d waiting ih =>
    unfold receive
    split
    · refine ih _ ?_ fun other member => read other (List.mem_cons_of_mem d member)
      intro raw member
      rw [Ring.contents_push] at member
      rcases List.mem_append.mp member with before | new
      · exact old raw before
      · obtain rfl := List.mem_singleton.mp new
        exact read d List.mem_cons_self
    · exact old

theorem ingressPump_received (state : IngressState) (waiting : List Datagram)
    (old : ∀ raw ∈ state.contents, raw.receivedMs ≤ nowMs)
    (read : ∀ d ∈ waiting, d.receivedMs ≤ nowMs) :
    ∀ raw ∈ (ingressPump state waiting).contents, raw.receivedMs ≤ nowMs := by
  unfold ingressPump
  split
  · exact old
  · exact receive_received state waiting old read

theorem pump_queued {state : MuxState} (h : Queued lastMs state) {clock : PumpClock}
    {waiting : List Datagram} (ticks : Ticks lastMs clock waiting) (roomy : Roomy clock.finish) :
    Queued clock.finish (pump env clock waiting state).1 := by
  have swept := expireBoth_living h.living ticks.start
  have reads := ingressPump_received state.ingress waiting
    (fun raw member => UInt64.le_trans (UInt64.le_trans (h.received raw member) ticks.start)
      ticks.started)
    (fun d member => (ticks.read d member).2)
  have pumped := @pumpList_living state.policy env _ clock.taken clock.finish
    (ingressPump state.ingress waiting).contents 0 ⟨false⟩ _ swept ticks.started ticks.taken
    ticks.finish roomy reads
  have list := pumpIngress_list state.policy env clock.taken
    (ingressPump state.ingress waiting) (expireBoth state.intake clock.start)
  dsimp only at list
  rw [← list] at pumped
  refine ⟨?_, pumped.2⟩
  unfold pump
  dsimp only
  split
  · exact expireStream_living pumped.1
  · exact pumped.1

theorem drain_queued {state : MuxState} (h : Queued lastMs state) :
    Queued lastMs (MuxInbox.drain state).2 := by
  refine ⟨⟨?_, h.living.bounded⟩, h.received⟩
  intro p member
  change p ∈ queued (MuxStream.drain state.intake.stream true).2 at member
  rcases drain_cases state.intake.stream true with ⟨q, after, drained, spec⟩ | ⟨drained, -⟩
  · rw [drained] at member
    exact h.living.covered p (by rw [spec.queue]; exact Multiset.mem_cons_of_mem member)
  · rw [drained] at member
    exact h.living.covered p member

end Pump

section Runs

theorem connect_queued (socketFd : ℤ) (policy : PolicyEnforceEncryption) :
    Queued 0 (connectSocket socketFd policy) := by
  refine ⟨⟨?_, ?_⟩, ?_⟩
  · have empty : queued (connectSocket socketFd policy).intake.stream = 0 :=
      SlotTable.contents_empty fun _ => rfl
    rw [empty]
    exact fun p member => absurd member (Multiset.notMem_zero p)
  · intro i active
    exact absurd active Bool.false_ne_true
  · exact fun raw member => absurd member List.not_mem_nil

theorem run_queued {lastMs : UInt64} {state : MuxState} (h : Queued lastMs state)
    (ops : List PumpOp) (clocked : Monotonic lastMs ops) (unwrapped : ∀ op ∈ ops, Unwrapped op) :
    ∀ s ∈ reached pumpStep state ops, ∃ nowMs, Queued nowMs s := by
  induction ops generalizing lastMs state with
  | nil =>
    intro s member
    obtain rfl := List.mem_singleton.mp member
    exact ⟨lastMs, h⟩
  | cons op ops ih =>
    have later : ∀ op ∈ ops, Unwrapped op := fun op member =>
      unwrapped op (List.mem_cons_of_mem _ member)
    intro s member
    rcases List.mem_cons.mp member with rfl | after
    · exact ⟨lastMs, h⟩
    cases op with
    | pump env clock waiting =>
      exact ih (pump_queued h clocked.1 (unwrapped _ List.mem_cons_self)) clocked.2 later s after
    | failed nowMs =>
      have swept : Queued nowMs (pumpFailed nowMs state) :=
        ⟨expireBoth_living h.living clocked.1,
          fun raw waits => UInt64.le_trans (h.received raw waits) clocked.1⟩
      exact ih swept clocked.2.2 later s after
    | drain => exact ih (drain_queued h) clocked later s after

/-- No session is swept while one of its packets waits to be drained. -/
theorem queued_sessions_live (socketFd : ℤ) (policy : PolicyEnforceEncryption)
    (ops : List PumpOp) (clocked : Monotonic 0 ops) (unwrapped : ∀ op ∈ ops, Unwrapped op) :
    ∀ state ∈ reached pumpStep (connectSocket socketFd policy) ops,
      ∀ p ∈ queued state.intake.stream, Open state.intake.session p.sessionId := by
  intro state member p waits
  obtain ⟨nowMs, h⟩ :=
    run_queued (connect_queued socketFd policy) ops clocked unwrapped state member
  obtain ⟨i, active, session, -⟩ := h.living.covered p waits
  exact ⟨i, active, session⟩

def bareEnv : CodecEnv where
  cipher := KnockEncode.boxCipher
  hash := ⟨id, fun key message => key ++ message⟩
  context := KnockContext.create
  session := none
  now := 1000

def stillClock (nowMs : UInt64) : PumpClock := ⟨nowMs, fun _ => nowMs, nowMs⟩

def strayDatagram (receivedMs : UInt64) : Datagram := ⟨[1], receivedMs, [49], 50000⟩

theorem stillClock_ticks {lastMs nowMs : UInt64} (order : lastMs ≤ nowMs) (nonzero : nowMs ≠ 0)
    {waiting : List Datagram} (read : ∀ d ∈ waiting, d.receivedMs = nowMs) :
    Ticks lastMs (stillClock nowMs) waiting where
  start := order
  nonzero := nonzero
  read d member := by
    rw [read d member]
    exact ⟨UInt64.le_refl _, UInt64.le_refl _⟩
  started := UInt64.le_refl _
  taken _ := UInt64.le_refl _
  finish _ := UInt64.le_refl _

def twoPumps (nowMs : UInt64) : List PumpOp :=
  [.pump bareEnv (stillClock nowMs) [strayDatagram nowMs], .pump bareEnv (stillClock nowMs) []]

theorem twoPumps_monotonic {nowMs : UInt64} (nonzero : nowMs ≠ 0) :
    Monotonic 0 (twoPumps nowMs) := by
  refine ⟨stillClock_ticks UInt64.zero_le nonzero ?_,
    stillClock_ticks (UInt64.le_refl _) nonzero ?_, trivial⟩
  · intro d member
    rw [List.mem_singleton.mp member]
    rfl
  · exact fun d member => absurd member List.not_mem_nil

theorem open_of_slot {state : MuxState} {i : Fin MuxStream.READY_QUEUE_CAPACITY}
    (session : (state.intake.stream.readyQueue i).sessionId ≠ 0)
    (live : ∀ p ∈ queued state.intake.stream, Open state.intake.session p.sessionId) :
    Open state.intake.session (state.intake.stream.readyQueue i).sessionId :=
  live _ (queued_mem.mpr ⟨session, i, rfl⟩)

def served : MuxState := (run pumpStep (connectSocket 3 .any) (twoPumps 5)).1

def servedPacket : RecvPacket := served.intake.stream.readyQueue ⟨0, by decide⟩

theorem queued_sessions_live_two : servedPacket.rawBytes = [1] ∧
    Open served.intake.session servedPacket.sessionId := by
  have unwrapped : ∀ op ∈ twoPumps 5, Unwrapped op := by
    intro op member
    simp only [twoPumps, List.mem_cons, List.not_mem_nil, or_false] at member
    unfold Unwrapped Roomy
    rcases member with rfl | rfl
    · decide
    · decide
  have session : servedPacket.sessionId ≠ 0 := by decide +kernel
  refine ⟨by decide +kernel, ?_⟩
  exact @open_of_slot served _ session
    (queued_sessions_live 3 .any (twoPumps 5) (twoPumps_monotonic (by decide)) unwrapped served
      (List.mem_cons_of_mem _ (List.mem_cons_of_mem _ List.mem_cons_self)))

def LAST_MS : UInt64 := 18446744073709551615

theorem not_open {session : SessionState} (swept : ∀ j, (session.sessions j).active = false)
    {sessionId : UInt64} : ¬ Open session sessionId := by
  rintro ⟨j, active, -⟩
  rw [swept j] at active
  contradiction

/-- A session that is opened in the last millisecond of the clock ends before it begins. -/
theorem queued_session_swept :
    ¬ ∀ (socketFd : ℤ) (policy : PolicyEnforceEncryption) (ops : List PumpOp), Monotonic 0 ops →
      ∀ state ∈ reached pumpStep (connectSocket socketFd policy) ops,
        ∀ p ∈ queued state.intake.stream, Open state.intake.session p.sessionId := by
  intro live
  let first := (pumpStep (connectSocket 3 .any)
    (.pump bareEnv (stillClock LAST_MS) [strayDatagram LAST_MS])).1
  let second := (pumpStep first (.pump bareEnv (stillClock LAST_MS) [])).1
  have member : second ∈ reached pumpStep (connectSocket 3 .any) (twoPumps LAST_MS) :=
    List.mem_cons_of_mem _ (List.mem_cons_of_mem _ List.mem_cons_self)
  have session : (second.intake.stream.readyQueue ⟨0, by decide⟩).sessionId ≠ 0 := by
    decide +kernel
  have swept : ∀ j, (second.intake.session.sessions j).active = false := by decide +kernel
  exact not_open swept (@open_of_slot second _ session
    (live 3 .any (twoPumps LAST_MS) (twoPumps_monotonic (by decide)) second member))

end Runs

end Siglatch.MuxLiveSessions
