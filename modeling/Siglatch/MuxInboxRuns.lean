import Siglatch.MuxInbox
import Siglatch.MuxStreamRuns

set_option autoImplicit false

namespace Siglatch.MuxInboxRuns
open MuxTypes KnockDigest MuxStreamView MuxStreamOps KnockCodec MuxAdapter MuxNormalize MuxInbox
  StepRuns

/-- What the tables leave of a packet: all but the ids and marks that they write into it. -/
def content (p : RecvPacket) : RecvPacket :=
  { p with
    sessionId := 0, streamId := 0, messageId := 0, complete := false, syntheticSession := false }

/-- A property that no table changes. -/
def Lasting (P : RecvPacket → Prop) : Prop := ∀ p q, content p = content q → (P p ↔ P q)

theorem lasting_of_content {P : RecvPacket → Prop} (kept : ∀ p, P (content p) ↔ P p) :
    Lasting P := by
  intro p q same
  rw [← kept p, same, kept q]

section Tables

theorem register_content {state : MuxSession.SessionState} {control : Control}
    {normal : RecvPacket} {r : MuxSession.Registered}
    (h : MuxSession.register state control normal = some r) :
      content r.normal = content normal := by
  unfold MuxSession.register at h
  dsimp only at h
  split at h
  · obtain rfl := Option.some.inj h
    rfl
  split at h
  · obtain rfl := Option.some.inj h
    rfl
  split at h
  · obtain rfl := Option.some.inj h
    rfl
  split at h
  · contradiction
  · obtain rfl := Option.some.inj h
    unfold MuxSession.openSession
    dsimp only
    split
    · rfl
    · rfl

theorem session_ingest_content {state state' : MuxSession.SessionState} {control : Control}
    {normal p : RecvPacket} {nowMs : UInt64}
    (h : MuxSession.ingest state control normal nowMs = some (state', p)) :
    content p = content normal := by
  unfold MuxSession.ingest at h
  dsimp only at h
  split at h
  · contradiction
  · rename_i r registered
    obtain ⟨-, rfl⟩ := Prod.mk.inj (Option.some.inj h)
    have kept := register_content registered
    split
    · exact kept
    · exact kept

variable {P : RecvPacket → Prop} [DecidablePred P]

theorem stream_ingest_count (lasting : Lasting P) (stream : MuxStream.StreamState)
    (p : RecvPacket) : (queued (MuxStream.ingest stream p).2).countP P ≤
      (queued stream).countP P + if P p then 1 else 0 := by
  rcases ingest_cases stream p with ⟨after, assigned, ingested⟩ |
    ⟨a, after, -, assigned, -, ingested⟩ |
    ⟨a, before, t, after, -, assigned, -, claimed, -, ingested⟩
  · rw [ingested, queued_of_readyQueue (assignIds_none assigned).1]
    exact Nat.le_add_right _ _
  · rw [ingested, queued_of_readyQueue assigned.queue]
    exact Nat.le_add_right _ _
  · have session : a.packet.sessionId ≠ 0 := by
      rw [assigned.session]
      exact assigned.session_ne
    have same := queued_of_readyQueue claimed.queue
    rw [ingested]
    rcases queuePacket_cases after session with ⟨-, -, -, queue, -⟩ | ⟨refused, -⟩
    · have kept : P (stored a.packet) ↔ P p := by
        apply lasting
        rw [assigned.packet]
        rfl
      rw [queue, same, Multiset.countP_cons]
      simp only [kept]
      exact le_rfl
    · rw [refused, same]
      exact Nat.le_add_right _ _

theorem stream_expire_count (stream : MuxStream.StreamState) (nowMs : UInt64) :
    (queued (MuxStream.expire stream nowMs).2).countP P ≤ (queued stream).countP P :=
  Multiset.countP_le_of_le P (expire_queued_le stream nowMs)

theorem stream_drain_count (stream : MuxStream.StreamState) :
    (queued (MuxStream.drain stream true).2).countP P +
        (MuxStream.drain stream true).1.toList.countP P = (queued stream).countP P := by
  rcases drain_cases stream true with ⟨p, after, drained, spec⟩ | ⟨drained, -⟩
  · rw [drained, spec.queue, Multiset.countP_cons]
    simp [List.countP_singleton]
  · rw [drained]
    exact Nat.add_zero _

end Tables

section Pump

variable {P : RecvPacket → Prop} [DecidablePred P] {Good : Ingress → Prop} [DecidablePred Good]

/-- How much of a kind a connection holds: the packets in its ready queue and the datagrams that
wait to be looked at. -/
def held (P : RecvPacket → Prop) [DecidablePred P] (Good : Ingress → Prop) [DecidablePred Good]
    (intake : MuxIntake.Intake) (waiting : List Ingress) : ℕ :=
  (queued intake.stream).countP P + waiting.countP Good

theorem intake_count (lasting : Lasting P) (intake : MuxIntake.Intake) (control : Control)
    (normal : RecvPacket) (nowMs : UInt64) :
    (queued (MuxIntake.intake intake control normal nowMs).2.stream).countP P ≤
      (queued intake.stream).countP P + if P normal then 1 else 0 := by
  unfold MuxIntake.intake
  cases ingested : MuxSession.ingest intake.session control normal nowMs with
  | none => exact Nat.le_add_right _ _
  | some handed =>
    have kept := lasting handed.2 normal (session_ingest_content ingested)
    have counted := stream_ingest_count lasting intake.stream handed.2
    simp only [kept] at counted
    exact counted

def Comes (P : RecvPacket → Prop) (Good : Ingress → Prop) (policy : PolicyEnforceEncryption)
    (env : CodecEnv) : Prop :=
  ∀ raw control p, (normalize policy env raw control).1 = some p → P p → Good raw

variable {policy : PolicyEnforceEncryption} {env : CodecEnv}

theorem take_count (lasting : Lasting P) (comes : Comes P Good policy env) (nowMs : UInt64)
    (control : Control) (intake : MuxIntake.Intake) (raw : Ingress) :
    (queued (take policy env nowMs control intake raw).intake.stream).countP P ≤
      (queued intake.stream).countP P + if Good raw then 1 else 0 := by
  unfold take
  have decoded := comes raw control
  cases made : normalize policy env raw control with
  | mk normal after =>
    rw [made] at decoded
    cases normal with
    | none => exact Nat.le_add_right _ _
    | some normal =>
      have good : (if P normal then 1 else 0) ≤ if Good raw then 1 else 0 := by
        split
        · rename_i holds
          rw [if_pos (decoded normal rfl holds)]
        · exact Nat.zero_le _
      have counted := intake_count lasting intake after normal nowMs
      dsimp only
      split
      · rename_i taken
        rw [taken] at counted
        exact counted.trans (Nat.add_le_add_left good _)
      · rename_i taken
        rw [taken] at counted
        exact counted.trans (Nat.add_le_add_left good _)

theorem pumpList_count (lasting : Lasting P) (comes : Comes P Good policy env)
    (clock : ℕ → UInt64) (k : ℕ) (control : Control) (intake : MuxIntake.Intake)
    (waiting : List Ingress) :
    let pumped := pumpList policy env clock k control intake waiting
    held P Good pumped.1 pumped.2.2 ≤ held P Good intake waiting := by
  induction waiting generalizing k control intake with
  | nil => exact le_rfl
  | cons raw waiting ih =>
    have counted := take_count lasting comes (clock k) control intake raw
    unfold pumpList
    generalize take policy env (clock k) control intake raw = taken at counted
    have first : held P Good taken.intake waiting ≤ held P Good intake (raw :: waiting) := by
      unfold held
      rw [List.countP_cons]
      simp only [decide_eq_true_eq]
      omega
    dsimp only
    cases taken.outcome with
    | refused => exact first
    | skipped => exact (ih (k + 1) taken.control taken.intake).trans first
    | queued normal => exact (ih (k + 1) taken.control taken.intake).trans first

def readNow (state : IngressState) (waiting : List Datagram) : List Datagram :=
  if 0 < state.count then [] else waiting.take (INGRESS_QUEUE_CAPACITY - state.count)

theorem receive_take (state : IngressState) (waiting : List Datagram) :
    (receive state waiting).contents = state.contents ++
      (waiting.take (INGRESS_QUEUE_CAPACITY - state.count)).map Datagram.ingress := by
  induction waiting generalizing state with
  | nil => simp [receive]
  | cons datagram waiting ih =>
    unfold receive
    split
    · rename_i free
      rw [ih, RingQueue.Ring.contents_push]
      have left : INGRESS_QUEUE_CAPACITY - state.count =
          (INGRESS_QUEUE_CAPACITY - (state.push datagram.ingress free).count) + 1 := by
        change _ = INGRESS_QUEUE_CAPACITY - (state.count + 1) + 1
        omega
      rw [left, List.take_succ_cons, List.map_cons, List.append_assoc]
      rfl
    · rename_i full
      rw [Nat.sub_eq_zero_of_le (Nat.not_lt.mp full)]
      simp

theorem ingressPump_reads (state : IngressState) (waiting : List Datagram) :
    (ingressPump state waiting).contents =
      state.contents ++ (readNow state waiting).map Datagram.ingress := by
  unfold ingressPump readNow
  split
  · exact (List.append_nil _).symm
  · exact receive_take state waiting

/-- A pump adds to what a connection holds at most what it reads. -/
theorem pump_count (lasting : Lasting P) (state : MuxState)
    (comes : Comes P Good state.policy env) (clock : PumpClock) (waiting : List Datagram) :
    let after := (pump env clock waiting state).1
    held P Good after.intake after.ingress.contents ≤
      held P Good state.intake state.ingress.contents +
        ((readNow state.ingress waiting).map Datagram.ingress).countP Good := by
  have listed := pumpIngress_list state.policy env clock.taken
    (ingressPump state.ingress waiting) (expireBoth state.intake clock.start)
  have counted := pumpList_count lasting comes clock.taken 0 ⟨false⟩
    (expireBoth state.intake clock.start) (ingressPump state.ingress waiting).contents
  dsimp only at listed counted
  rw [← listed, ingressPump_reads] at counted
  have started := @stream_expire_count P _ state.intake.stream clock.start
  have first : held P Good (expireBoth state.intake clock.start)
      (state.ingress.contents ++ (readNow state.ingress waiting).map Datagram.ingress) ≤
      held P Good state.intake state.ingress.contents +
        ((readNow state.ingress waiting).map Datagram.ingress).countP Good := by
    unfold held expireBoth
    rw [List.countP_append]
    dsimp only
    omega
  apply le_trans _ (counted.trans first)
  unfold pump held
  dsimp only
  apply Nat.add_le_add_right
  split
  · exact stream_expire_count _ _
  · exact le_rfl

theorem drain_count (state : MuxState) :
    let after := (drain state).2
    held P Good after.intake after.ingress.contents + (drain state).1.toList.countP P =
      held P Good state.intake state.ingress.contents := by
  have counted := @stream_drain_count P _ state.intake.stream
  unfold drain held
  dsimp only
  omega

end Pump

section Registered

theorem decodeV1_version {env : CodecEnv} {ingress : Ingress} {out : NormalizedUnit}
    (h : KnockCodecV1.decode env ingress = some out) : out.wireVersion = V1_VERSION := by
  obtain ⟨plaintext, encrypted, parsed⟩ := @packed_parsed env ingress out
    (fun buf => KnockCodecV1.normalize env.now buf ingress.ip ingress.clientPort) h
  obtain ⟨pkt, -, rfl⟩ := Option.map_eq_some_iff.mp parsed
  rfl

theorem decodeV2_version {env : CodecEnv} {ingress : Ingress} {out : NormalizedUnit}
    (h : KnockCodecV2.decode env ingress = some out) : out.wireVersion = V2_WIRE_VERSION := by
  obtain ⟨plaintext, encrypted, parsed⟩ := @packed_parsed env ingress out
    (fun buf => KnockCodecV2.normalize env.now buf ingress.ip ingress.clientPort) h
  obtain ⟨pkt, -, rfl⟩ := Option.map_eq_some_iff.mp parsed
  rfl

theorem sealed_version {layout : KnockSealed.Layout} {env : CodecEnv}
    {unpack : Bytes → Option NormalizedUnit} {raw configured : Ingress} {identity : IngressIdentity}
    {finish : NormalizedUnit → NormalizedUnit} {out : NormalizedUnit} {version : UInt32}
    (finished : ∀ unit, (finish unit).wireVersion = version)
    (taken : KnockSealed.detect layout raw = some identity)
    (same : configured.buffer = raw.buffer)
    (h : KnockSealed.decode layout env unpack configured finish = some out) :
    out.wireVersion = version := by
  obtain ⟨pkt, accepted, -⟩ := Option.map_eq_some_iff.mp taken
  unfold KnockSealed.decode at h
  rw [same, accepted] at h
  obtain ⟨unit, -, rfl⟩ := Option.map_eq_some_iff.mp h
  exact finished unit

theorem adapterDecode_version {ingress : Ingress} {unit : Option NormalizedUnit} {p : RecvPacket}
    {version : UInt32} (versioned : ∀ out, unit = some out → out.wireVersion = version)
    (h : adapterDecode ingress unit = some p) : p.wireVersion = version := by
  obtain ⟨out, made, copies⟩ := adapterDecode_copied h
  exact copies.version.trans (versioned out made)

theorem decoded_version {adapter : Adapter} (registry : adapter ∈ adapters) {env : CodecEnv}
    {raw configured : Ingress} {identity : IngressIdentity} {control after : Control}
    {p : RecvPacket} (taken : adapter.detect env raw = some identity)
    (same : configured.buffer = raw.buffer)
    (decoded : adapter.decode env configured control = (some p, after)) :
    p.wireVersion = adapter.wireVersion := by
  have first := congrArg Prod.fst decoded
  rcases adapters_cases registry with rfl | rfl | rfl | rfl
  · exact adapterDecode_version (fun out => decodeV1_version) first
  · exact adapterDecode_version (fun out => decodeV2_version) first
  · exact adapterDecode_version (fun out => sealed_version (fun _ => rfl) taken same) first
  · exact adapterDecode_version (fun out => sealed_version (fun _ => rfl) taken same) first

theorem configured_buffer (raw : Ingress) (identity : IngressIdentity) :
    (configureIngressIdentity raw identity).buffer = raw.buffer := rfl

/-- User data reaches the stream only under a version whose adapter can copy it. -/
theorem normalize_registered {policy : PolicyEnforceEncryption} {env : CodecEnv} {raw : Ingress}
    {control : Control} {p : RecvPacket}
    (h : (normalize policy env raw control).1 = some p) (user : p.user.isSome = true) :
    p.wireVersion ∈ registered := by
  rcases normalize_cases h with copied | ⟨adapter, identity, out, after, found, decoded, -, rfl⟩
  · rw [(rawCopy_raw copied).user] at user
    contradiction
  · obtain ⟨registry, detects⟩ := demux_some found
    change out.wireVersion ∈ registered
    rw [decoded_version registry detects (configured_buffer raw identity) decoded]
    exact List.mem_map_of_mem registry

end Registered

section Runs

inductive Op where
  | pump (env : CodecEnv) (clock : PumpClock) (waiting : List Datagram)
  | drain

def step (state : MuxState) : Op → MuxState × List RecvPacket
  | .pump env clock waiting => ((pump env clock waiting state).1, [])
  | .drain => ((drain state).2, (drain state).1.toList)

theorem intake_adapters (intake : MuxIntake.Intake) (control : Control) (normal : RecvPacket)
    (nowMs : UInt64) : (MuxIntake.intake intake control normal nowMs).2.stream.adapterLib =
      intake.stream.adapterLib := by
  unfold MuxIntake.intake
  split
  · rfl
  · rename_i session p ingested
    rcases ingest_cases intake.stream p with ⟨after, assigned, accepted⟩ |
      ⟨a, after, -, assigned, -, accepted⟩ |
      ⟨a, before, t, after, -, assigned, -, claimed, -, accepted⟩
    · rw [accepted]
      exact (assignIds_none assigned).2.1
    · rw [accepted]
      exact assigned.adapters
    · have named : a.packet.sessionId ≠ 0 := by
        rw [assigned.session]
        exact assigned.session_ne
      rw [accepted]
      rcases queuePacket_cases after named with ⟨-, -, -, -, frame⟩ | ⟨refused, -⟩
      · exact frame.2.trans claimed.adapters
      · rw [refused]
        exact claimed.adapters

theorem take_adapters (policy : PolicyEnforceEncryption) (env : CodecEnv) (nowMs : UInt64)
    (control : Control) (intake : MuxIntake.Intake) (raw : Ingress) :
    (take policy env nowMs control intake raw).intake.stream.adapterLib =
      intake.stream.adapterLib := by
  unfold take
  split
  · rfl
  · rename_i normal after decoded
    have kept := intake_adapters intake after normal nowMs
    split
    · rename_i taken
      rw [taken] at kept
      exact kept
    · rename_i taken
      rw [taken] at kept
      exact kept

theorem pumpList_adapters (policy : PolicyEnforceEncryption) (env : CodecEnv)
    (clock : ℕ → UInt64) (k : ℕ) (control : Control) (intake : MuxIntake.Intake)
    (waiting : List Ingress) :
    (pumpList policy env clock k control intake waiting).1.stream.adapterLib =
      intake.stream.adapterLib := by
  induction waiting generalizing k control intake with
  | nil => rfl
  | cons raw waiting ih =>
    have kept := take_adapters policy env (clock k) control intake raw
    unfold pumpList
    generalize take policy env (clock k) control intake raw = taken at kept
    dsimp only
    cases taken.outcome with
    | refused => exact kept
    | skipped => exact (ih (k + 1) taken.control taken.intake).trans kept
    | queued normal => exact (ih (k + 1) taken.control taken.intake).trans kept

/-- The registry is in place, and the queue holds nothing that a drain could not hand out. -/
structure Serviceable (state : MuxState) : Prop where
  adapters : state.intake.stream.adapterLib = some registered
  readable : ∀ p ∈ queued state.intake.stream, p.user.isSome = true → p.wireVersion ∈ registered

theorem serviceable_connect (socketFd : ℤ) (policy : PolicyEnforceEncryption) :
    Serviceable (connectSocket socketFd policy) := by
  refine ⟨rfl, ?_⟩
  have empty : queued (connectSocket socketFd policy).intake.stream = 0 :=
    SlotTable.contents_empty fun _ => rfl
  rw [empty]
  exact fun p member => absurd member (Multiset.notMem_zero p)

theorem serviceable_step (state : MuxState) (op : Op) (h : Serviceable state) :
    Serviceable (step state op).1 ∧ (step state op).1.policy = state.policy := by
  let P : RecvPacket → Prop := fun p => ¬ (p.user.isSome = true → p.wireVersion ∈ registered)
  have lasting : Lasting P := lasting_of_content fun _ => Iff.rfl
  have comes (env : CodecEnv) : Comes P (fun _ => False) state.policy env := by
    intro raw control p decoded unreadable
    exact unreadable (normalize_registered decoded)
  have before : (queued state.intake.stream).countP P = 0 := by
    rw [Multiset.countP_eq_zero]
    exact fun p member => not_not.mpr (h.readable p member)
  have after {intake : MuxIntake.Intake} (counted : (queued intake.stream).countP P = 0) :
      ∀ p ∈ queued intake.stream, p.user.isSome = true → p.wireVersion ∈ registered := by
    rw [Multiset.countP_eq_zero] at counted
    exact fun p member => not_not.mp (counted p member)
  cases op with
  | pump env clock waiting =>
    have counted := pump_count lasting state (comes env) clock waiting
    unfold held at counted
    simp only [decide_false, List.countP_false, Function.const_apply] at counted
    refine ⟨⟨?_, after ?_⟩, rfl⟩
    · have listed := pumpIngress_list state.policy env clock.taken
        (ingressPump state.ingress waiting) (expireBoth state.intake clock.start)
      have kept := pumpList_adapters state.policy env clock.taken 0 ⟨false⟩
        (expireBoth state.intake clock.start) (ingressPump state.ingress waiting).contents
      dsimp only at listed
      rw [← listed] at kept
      have reached := kept.trans h.adapters
      change (pump env clock waiting state).1.intake.stream.adapterLib = _
      unfold pump
      dsimp only
      split
      · exact reached
      · exact reached
    · change (queued (pump env clock waiting state).1.intake.stream).countP P = 0
      omega
  | drain =>
    have counted := @drain_count P _ (fun _ => False) _ state
    unfold held at counted
    simp only [decide_false, List.countP_false, Function.const_apply] at counted
    refine ⟨⟨?_, after ?_⟩, rfl⟩
    · change (MuxStream.drain state.intake.stream true).2.adapterLib = _
      rcases drain_cases state.intake.stream true with ⟨p, stream, drained, spec⟩ | ⟨drained, -⟩
      · rw [drained]
        exact spec.adapters.trans h.adapters
      · rw [drained]
        exact h.adapters
    · change (queued (drain state).2.intake.stream).countP P = 0
      omega

theorem serviceable_run (socketFd : ℤ) (policy : PolicyEnforceEncryption) (ops : List Op) :
    Serviceable (run step (connectSocket socketFd policy) ops).1 ∧
    (run step (connectSocket socketFd policy) ops).1.policy = policy := by
  have kept : ∀ state (events : List RecvPacket) op, True →
      Serviceable state ∧ state.policy = policy →
      Serviceable (step state op).1 ∧ (step state op).1.policy = policy := by
    intro state events op _ h
    obtain ⟨serves, same⟩ := serviceable_step state op h.1
    exact ⟨serves, same.trans h.2⟩
  exact @run_history _ _ _ step (fun state _ => Serviceable state ∧ state.policy = policy)
    (fun _ => True) kept _ ⟨serviceable_connect socketFd policy, rfl⟩ ops fun _ _ => trivial

end Runs

end Siglatch.MuxInboxRuns
