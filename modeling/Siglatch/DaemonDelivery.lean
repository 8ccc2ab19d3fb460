import Siglatch.DaemonLoop

set_option autoImplicit false

namespace Siglatch.DaemonDelivery
open MuxTypes AppConfig KnockContext KnockCodec MuxAdapter MuxNormalize MuxInbox MuxInboxRuns
open MuxEgress MuxStreamView MuxStreamOps DaemonTypes DaemonRunner DaemonLoop StepRuns

structure Carries (normal : RecvPacket) (job : Job) : Prop where
  shouldReply : job.shouldReply = normal.shouldReply
  available : job.available = true
  syntheticSession : job.syntheticSession = normal.syntheticSession
  wireVersion : job.wireVersion = normal.wireVersion
  wireForm : job.wireForm = normal.wireForm
  sessionId : job.sessionId = normal.sessionId
  messageId : job.messageId = normal.messageId
  streamId : job.streamId = normal.streamId
  fragmentIndex : job.fragmentIndex = normal.fragmentIndex
  fragmentCount : job.fragmentCount = normal.fragmentCount
  timestamp : job.timestamp = normal.timestamp
  ip : job.ip = normal.ip
  clientPort : job.clientPort = normal.clientPort
  encrypted : job.encrypted = normal.encrypted
  wireAuth : job.wireAuth = normal.wireAuth
  raw : normal.wireVersion = 0 →
    job.request = { RequestPacket.zero with payload := normal.rawBytes }
  structured : normal.wireVersion ≠ 0 → normal.user = some job.request
  response : job.response = []

/-- A packet out of which a job can be made: a structured one has its user data, and the address
leaves room for the end of the string in a field of 64 bytes. -/
def Whole (p : RecvPacket) : Prop :=
  (p.wireVersion ≠ 0 → p.user.isSome = true) ∧ p.ip.length ≤ 63

instance : DecidablePred Whole := fun _ => inferInstanceAs (Decidable (_ ∧ _))

section Jobs

variable {normal : RecvPacket} {state : JobState}

theorem loadFromNormal_whole (whole : Whole normal) :
    ∃ job, loadFromNormal normal = some job ∧ Carries normal job := by
  have ip : normal.ip.take 63 = normal.ip := List.take_of_length_le whole.2
  unfold loadFromNormal
  dsimp only
  rw [ip]
  by_cases raw : normal.wireVersion = 0
  · rw [if_pos raw]
    exact ⟨_, rfl, rfl, rfl, rfl, rfl, rfl, rfl, rfl, rfl, rfl, rfl, rfl, rfl, rfl, rfl, rfl,
      fun _ => rfl, fun structured => absurd raw structured, rfl⟩
  · obtain ⟨user, carried⟩ := Option.isSome_iff_exists.mp (whole.1 raw)
    rw [if_neg raw, carried]
    exact ⟨_, rfl, rfl, rfl, rfl, rfl, rfl, rfl, rfl, rfl, rfl, rfl, rfl, rfl, rfl, rfl, rfl,
      fun version => absurd version raw, fun _ => carried, rfl⟩

theorem enqueue_whole (whole : Whole normal) (room : state.count < APP_JOB_READY_QUEUE_CAPACITY) :
    ∃ state' job, enqueue state normal = some state' ∧ Carries normal job ∧
      state'.contents = state.contents ++ [job] ∧ state'.count = state.count + 1 := by
  obtain ⟨job, loaded, carries⟩ := loadFromNormal_whole whole
  refine ⟨state.push job room, job, ?_, carries, RingQueue.Ring.contents_push state job room, rfl⟩
  unfold enqueue
  rw [dif_pos room, loaded]
  rfl

end Jobs

section Fill

theorem handOut_queued {mux after : MuxState} {normal : RecvPacket}
    (handed : handOut mux = some (normal, after)) :
    queued mux.intake.stream = normal ::ₘ queued after.intake.stream := by
  have drained := handOut_some handed
  unfold MuxInbox.drain at drained
  obtain ⟨first, rfl⟩ := Prod.mk.inj drained
  rcases drain_cases mux.intake.stream true with ⟨p, stream, found, spec⟩ | ⟨found, -⟩
  · rw [found] at first ⊢
    obtain rfl := Option.some.inj first
    exact spec.queue
  · rw [found] at first
    contradiction

theorem fill_delivers (fuel : ℕ) (mux : MuxState) (jobs : JobState)
    (room : jobs.count + (queued mux.intake.stream).card ≤ APP_JOB_READY_QUEUE_CAPACITY)
    (whole : ∀ p ∈ queued mux.intake.stream, Whole p) :
    let filled := fill fuel mux jobs
    filled.handed.foldlM enqueue jobs = some filled.jobs ∧ ∃ added,
      filled.jobs.contents = jobs.contents ++ added ∧ List.Forall₂ Carries filled.handed added := by
  induction fuel generalizing mux jobs with
  | zero => exact ⟨rfl, [], (List.append_nil _).symm, .nil⟩
  | succ fuel ih =>
    unfold fill
    cases handed : handOut mux with
    | none => exact ⟨rfl, [], (List.append_nil _).symm, .nil⟩
    | some next =>
      obtain ⟨normal, after⟩ := next
      have queue := handOut_queued handed
      rw [queue, Multiset.card_cons] at room
      rw [queue] at whole
      obtain ⟨jobs', job, accepted, carries, contents, count⟩ :=
        @enqueue_whole normal jobs (whole normal (Multiset.mem_cons_self _ _)) (by omega)
      have rest := ih after jobs' (by omega) fun p member =>
        whole p (Multiset.mem_cons_of_mem member)
      dsimp only at rest ⊢
      rw [accepted, Option.getD_some]
      obtain ⟨folded, added, appended, all⟩ := rest
      refine ⟨?_, job :: added, ?_, .cons carries all⟩
      · rw [List.foldlM_cons, accepted]
        exact folded
      · rw [appended, contents, List.append_assoc]
        rfl

end Fill

section Sound

variable {policy : PolicyEnforceEncryption} {env : CodecEnv}

structure Sound (mux : MuxState) : Prop where
  whole : ∀ p ∈ queued mux.intake.stream, Whole p
  fits : ∀ raw ∈ mux.ingress.contents, raw.ip.length ≤ 63

theorem sound_iff (mux : MuxState) : Sound mux ↔
    held (fun p => ¬ Whole p) (fun raw => ¬ raw.ip.length ≤ 63) mux.intake
      mux.ingress.contents = 0 := by
  have packets : (queued mux.intake.stream).countP (fun p => ¬ Whole p) = 0 ↔
      ∀ p ∈ queued mux.intake.stream, Whole p := by
    simp only [Multiset.countP_eq_zero, not_not]
  have datagrams : mux.ingress.contents.countP (fun raw => ¬ raw.ip.length ≤ 63) = 0 ↔
      ∀ raw ∈ mux.ingress.contents, raw.ip.length ≤ 63 := by
    simp only [List.countP_eq_zero, decide_eq_true_eq, not_not]
  unfold held
  rw [Nat.add_eq_zero_iff, packets, datagrams]
  exact ⟨fun h => ⟨h.whole, h.fits⟩, fun h => ⟨h.1, h.2⟩⟩

theorem adapterDecode_user {ingress : Ingress} {unit : Option KnockDigest.NormalizedUnit}
    {p : RecvPacket} (h : adapterDecode ingress unit = some p) : p.user.isSome = true := by
  obtain ⟨out, -, copies⟩ := adapterDecode_copied h
  rw [copies.user]
  rfl

theorem decode_user {adapter : Adapter} (registry : adapter ∈ adapters) {ingress : Ingress}
    {control after : Control} {p : RecvPacket}
    (decoded : adapter.decode env ingress control = (some p, after)) : p.user.isSome = true := by
  have first := congrArg Prod.fst decoded
  rcases adapters_cases registry with rfl | rfl | rfl | rfl
  · exact adapterDecode_user first
  · exact adapterDecode_user first
  · exact adapterDecode_user first
  · exact adapterDecode_user first

theorem normalize_whole :
    Comes (fun p => ¬ Whole p) (fun raw => ¬ raw.ip.length ≤ 63) policy env := by
  intro raw control p made broken fits
  apply broken
  rcases normalize_cases made with copied | ⟨adapter, identity, out, after, found, decoded, -, rfl⟩
  · have raw := rawCopy_raw copied
    exact ⟨fun structured => absurd raw.version structured, raw.ip ▸ fits⟩
  · have user := decode_user (demux_some found).1 decoded
    exact ⟨fun _ => user, fits⟩

theorem whole_lasting : Lasting fun p => ¬ Whole p := lasting_of_content fun _ => Iff.rfl

def pumped (input : Turn) (loop : Loop) : MuxState :=
  flushOutbox input.late (pump (input.world.codecEnv loop.runtime) input.clock input.waiting
    (flushOutbox input.early loop.mux)).1

theorem intake_pumped (input : Turn) (loop : Loop) : intake input loop =
    fill (pumped input loop).intake.stream.readyCount (pumped input loop) loop.jobs := rfl

theorem readNow_mem {state : IngressState} {waiting : List Datagram} {d : Datagram}
    (member : d ∈ readNow state waiting) : d ∈ waiting := by
  unfold readNow at member
  split at member
  · cases member
  · exact List.mem_of_mem_take member

theorem pumped_sound {input : Turn} {loop : Loop} (sound : Sound loop.mux)
    (fits : ∀ d ∈ input.waiting, d.ip.length ≤ 63) : Sound (pumped input loop) := by
  obtain ⟨intake₁, ingress₁, policy₁⟩ := flushOutbox_kept input.early loop.mux
  have counted := @pump_count _ _ _ _ (input.world.codecEnv loop.runtime) whole_lasting
    (flushOutbox input.early loop.mux) normalize_whole input.clock input.waiting
  dsimp only at counted
  rw [intake₁, ingress₁, (sound_iff loop.mux).mp sound] at counted
  have reads : ((readNow loop.mux.ingress input.waiting).map Datagram.ingress).countP
      (fun raw => ¬ raw.ip.length ≤ 63) = 0 := by
    simp only [List.countP_eq_zero, decide_eq_true_eq, not_not, List.mem_map]
    rintro raw ⟨d, member, rfl⟩
    exact fits d (readNow_mem member)
  rw [reads] at counted
  obtain ⟨intake₂, ingress₂, -⟩ := flushOutbox_kept input.late
    (pump (input.world.codecEnv loop.runtime) input.clock input.waiting
      (flushOutbox input.early loop.mux)).1
  rw [sound_iff]
  unfold pumped
  rw [intake₂, ingress₂]
  exact Nat.le_zero.mp counted

theorem fill_sound {fuel : ℕ} {mux : MuxState} {jobs : JobState} (sound : Sound mux) :
    Sound (fill fuel mux jobs).mux := by
  have counted := @fill_count (fun p => ¬ Whole p) _ (fun raw => ¬ raw.ip.length ≤ 63) _ fuel mux
    jobs
  rw [(sound_iff mux).mp sound] at counted
  rw [sound_iff]
  omega

theorem reconnect_sound {loop ready : Loop} (reconnected : reconnect loop = some ready)
    (sound : Sound loop.mux) : Sound ready.mux := by
  obtain ⟨-, -, -, fewer, -⟩ := @reconnect_some (fun p => ¬ Whole p) _
    (fun raw => ¬ raw.ip.length ≤ 63) _ _ _ reconnected
  rw [(sound_iff loop.mux).mp sound] at fewer
  exact (sound_iff ready.mux).mpr (Nat.le_zero.mp fewer)

end Sound

section Jobs

/-- A runner that is not stopped by a job leaves no job behind. -/
theorem drainLoop_through {world : World} (fuel k : ℕ) (runtime : Runtime) (jobs : JobState)
    (egress : EgressState) (enough : jobs.contents.length ≤ fuel)
    (through : 0 ≤ (drainLoop world fuel k runtime jobs egress).rc) :
    (drainLoop world fuel k runtime jobs egress).jobs.contents = [] := by
  induction fuel generalizing k runtime jobs egress with
  | zero => exact List.length_eq_zero_iff.mp (Nat.le_zero.mp enough)
  | succ fuel ih =>
    cases drained : DaemonTypes.drain jobs with
    | none =>
      rw [drainLoop_empty fuel k runtime egress drained]
      exact (drain_none_iff jobs).mp drained
    | some next =>
      obtain ⟨job, rest⟩ := next
      rw [drain_some drained] at enough
      have fewer : rest.contents.length ≤ fuel := Nat.le_of_succ_le_succ enough
      rw [drainLoop_succ fuel k runtime egress drained] at through ⊢
      split
      · rename_i stopped
        rw [if_pos stopped] at through
        dsimp only at through
        split at through <;> omega
      · rename_i staged
        rw [if_neg staged] at through
        exact ih (k + 1) _ rest _ fewer through

theorem drainJobsAndFlush_rc (world : World) (flushed : ℕ → EgressData → Bool) (runtime : Runtime)
    (jobs : JobState) (egress : EgressState) :
    (drainJobsAndFlush world flushed runtime jobs egress).rc =
      (drainLoop world jobs.count 0 runtime jobs egress).rc := by
  unfold drainJobsAndFlush
  dsimp only
  split
  · rfl
  · split
    · rfl
    · rfl

end Jobs

section Turns

variable {input : Turn} {loop ready next : Loop}

def jobsRun (input : Turn) (loop : Loop) : List Job :=
  (drainLog input.world (intake input loop).jobs.count 0 loop.runtime (intake input loop).jobs
    (intake input loop).mux.egress).map (·.job)

def ran (input : Turn) (loop : Loop) : Drained :=
  drainJobsAndFlush input.world input.last loop.runtime (intake input loop).jobs
    (intake input loop).mux.egress

/-- The packets that a turn takes out of the inbox become its jobs: none is turned away, and the
runner gets to them in the same order, and to all of them unless one of them stops it. -/
structure Delivered (input : Turn) (loop : Loop) : Prop where
  accepted : (intake input loop).handed.foldlM enqueue loop.jobs = some (intake input loop).jobs
  carried : List.Forall₂ Carries (intake input loop).handed (intake input loop).jobs.contents
  ordered : jobsRun input loop <+: (intake input loop).jobs.contents
  through : 0 ≤ (ran input loop).rc → jobsRun input loop = (intake input loop).jobs.contents

theorem turn_delivers (idle : loop.jobs.contents = []) (sound : Sound loop.mux)
    (fits : ∀ d ∈ input.waiting, d.ip.length ≤ 63) : Delivered input loop := by
  have empty : loop.jobs.count = 0 := (RingQueue.Ring.contents_eq_nil loop.jobs).mp idle
  have few : (queued (pumped input loop).intake.stream).card ≤ APP_JOB_READY_QUEUE_CAPACITY :=
    queued_card_le _
  obtain ⟨accepted, added, contents, carried⟩ := fill_delivers
    (pumped input loop).intake.stream.readyCount (pumped input loop) loop.jobs (by omega)
    (pumped_sound sound fits).whole
  rw [← intake_pumped] at accepted contents carried
  rw [idle, List.nil_append] at contents
  have log := @drainLog_jobs input.world (intake input loop).jobs.count 0 loop.runtime
    (intake input loop).jobs (intake input loop).mux.egress
  refine ⟨accepted, ?_, ⟨_, log⟩, ?_⟩
  · rw [contents]
    exact carried
  · intro through
    unfold ran at through
    rw [drainJobsAndFlush_rc] at through
    have left := drainLoop_through _ 0 loop.runtime (intake input loop).jobs
      (intake input loop).mux.egress (RingQueue.Ring.contents_length _).le through
    rw [left, List.append_nil] at log
    exact log

structure Idle (loop : Loop) : Prop where
  jobs : loop.jobs.contents = []
  sound : Sound loop.mux

theorem reconnect_idle (reconnected : reconnect loop = some ready) (idle : Idle loop) :
    Idle ready := by
  obtain ⟨-, jobs, -⟩ := @reconnect_some (fun p => ¬ Whole p) _
    (fun raw => ¬ raw.ip.length ≤ 63) _ _ _ reconnected
  refine ⟨?_, reconnect_sound reconnected idle.sound⟩
  rw [jobs]
  exact idle.jobs

/-- A daemon that goes on after a turn has got through all jobs. -/
theorem turn_jobs (continues : (turn loop input).1 = some next) : next.jobs.contents = [] := by
  unfold turn at continues
  cases reconnected : reconnect loop with
  | none =>
    rw [reconnected] at continues
    cases continues
  | some ready =>
    rw [reconnected] at continues
    dsimp only at continues
    split at continues
    · cases continues
    split at continues
    · cases continues
    · rename_i going
      obtain rfl := Option.some.inj continues
      obtain ⟨-, jobs⟩ := @drainJobsAndFlush_kept input.world input.last ready.runtime
        (intake input ready).jobs (intake input ready).mux.egress
      rw [drainJobsAndFlush_rc] at going
      change (drainJobsAndFlush _ _ _ _ _).jobs.contents = []
      rw [jobs]
      exact drainLoop_through _ 0 _ _ _ (RingQueue.Ring.contents_length _).le (by omega)

theorem turn_idle (idle : Idle loop) (fits : ∀ d ∈ input.waiting, d.ip.length ≤ 63)
    (continues : (turn loop input).1 = some next) : Idle next := by
  refine ⟨turn_jobs continues, ?_⟩
  rcases turn_cases loop input with ⟨-, ended⟩ | ⟨ready, reconnected, broken | finished⟩
  · rw [ended] at continues
    cases continues
  · rw [broken] at continues
    cases continues
  · obtain ⟨-, -, -, packets, datagrams, -⟩ := finished.left next continues
    have sound := @fill_sound (pumped input ready).intake.stream.readyCount _ ready.jobs
      (pumped_sound (reconnect_idle reconnected idle).sound fits)
    rw [← intake_pumped, sound_iff] at sound
    rw [sound_iff, packets, datagrams]
    exact sound

end Turns

section Runs

variable {opensslReady : Bool} {config : Option Config} {listener : Listener}
  {context : CodecContext} {loop : Loop}

theorem start_idle (started : start opensslReady config listener context = some loop) :
    Idle loop := by
  have nothing := @start_workHeld (fun p => ¬ Whole p) _ (fun raw => ¬ raw.ip.length ≤ 63) _
    (fun _ => True) _ _ _ _ _ _ started
  unfold workHeld at nothing
  simp only [decide_true, List.countP_true] at nothing
  refine ⟨List.length_eq_zero_iff.mp (by omega), ?_⟩
  rw [sound_iff]
  omega

/-- In every turn of a daemon the packets that the inbox hands out become its jobs, whatever sound
packets the inbox holds, and it never holds others. The address of a datagram is a text in a field
of 64 bytes. -/
theorem packets_delivered (started : start opensslReady config listener context = some loop)
    (inputs : List Turn) (fits : ∀ input ∈ inputs, ∀ d ∈ input.waiting, d.ip.length ≤ 63) :
    ∀ p ∈ steps DaemonLoop.step (some loop) inputs, ∀ before ∈ p.1,
      ∀ ready, reconnect before = some ready →
      Sound ready.mux ∧ ∀ mux, Sound mux → Delivered p.2 { ready with mux := mux } := by
  have idle : ∀ state ∈ reached DaemonLoop.step (some loop) inputs, ∀ now ∈ state, Idle now := by
    apply @run_reached _ _ _ DaemonLoop.step (fun state => ∀ now ∈ state, Idle now)
      (fun _ input => ∀ d ∈ input.waiting, d.ip.length ≤ 63)
    · intro state input short before next continues
      cases state with
      | none => cases continues
      | some now => exact turn_idle (before now rfl) short continues
    · intro now same
      exact Option.some.inj same ▸ start_idle started
    · exact fun p taken => fits p.2 (steps_input taken)
  intro p taken before here ready reconnected
  have ready_idle := reconnect_idle reconnected (idle p.1 (steps_reached taken) before here)
  refine ⟨ready_idle.sound, ?_⟩
  intro mux sound
  exact turn_delivers ready_idle.jobs sound (fits p.2 (steps_input taken))

/-- Alice knocks twice. -/
theorem packets_delivered_doorbell : (intake (knockTurn 2) doorbellLoop).handed.length = 2 ∧
    Delivered (knockTurn 2) doorbellLoop := by
  have fits : ∀ input ∈ [knockTurn 2], ∀ d ∈ input.waiting, d.ip.length ≤ 63 := by
    intro input same d member
    rw [List.mem_singleton.mp same] at member
    rw [List.eq_of_mem_replicate member]
    decide
  obtain ⟨sound, delivered⟩ := packets_delivered doorbell_starts [knockTurn 2] fits
    (some doorbellLoop, knockTurn 2) List.mem_cons_self doorbellLoop rfl doorbellLoop rfl
  exact ⟨by decide +kernel, delivered doorbellLoop.mux sound⟩

end Runs

end Siglatch.DaemonDelivery
