import Siglatch.DaemonReplay
import Siglatch.DaemonReplies
import Siglatch.MuxEgressRuns
import Siglatch.MuxStaging

set_option autoImplicit false

namespace Siglatch.DaemonTraffic
open MuxTypes AppConfig KnockContext KnockDigest KnockCodec DaemonTypes DaemonAuth DaemonPayload
open DaemonRunner DaemonReplies MuxAdapter MuxNormalize MuxEgress MuxEgressRuns MuxOutbox MuxStaging
open MuxInbox MuxInboxRuns DaemonLoop DaemonReplay StepRuns

structure Endpoint where
  ip : CString
  clientPort : UInt16
  deriving DecidableEq

def target (packet : EgressData) : Endpoint := ⟨packet.ip, packet.clientPort⟩

def source (raw : Ingress) : Endpoint := ⟨raw.ip.take 63, raw.clientPort⟩

def sender (normal : RecvPacket) : Endpoint := ⟨normal.ip.take 63, normal.clientPort⟩

def asker (job : Job) : Endpoint := ⟨job.ip.take 63, job.clientPort⟩

section Sent

/-! What the socket takes in the flushes of a turn, each next to the definition that flushes. -/

def flushOutboxSent (send : ℕ → EgressData → Bool) (mux : MuxState) : List EgressData :=
  if MuxEgress.hasPending mux.egress then (flush send mux.egress mux.socketFd).sent else []

def stageTwiceSent (stage : Bool → EgressState → Staged) (send : ℕ → EgressData → Bool) (sock : ℤ)
    (egress : EgressState) : List EgressData :=
  let first := stage false egress
  if first.ok then [] else (flush send first.egress sock).sent

def stageRawOutboxReplySent (send : ℕ → EgressData → Bool) (sock : ℤ) (egress : EgressState)
    (job : Job) : List EgressData :=
  if job.response = [] then []
  else
    let rawSend : SendBytesPacket := ⟨job.timestamp.toUInt64, job.ip.take 63, job.clientPort,
      job.response.take NORMALIZED_PACKET_BUFFER_SIZE⟩
    stageTwiceSent (fun _ egress => stageBytes egress rawSend) send sock egress

def stageOutboxReplySent (env : CodecEnv) (random : Bool → ℕ → Entropy)
    (send : ℕ → EgressData → Bool) (sock : ℤ) (egress : EgressState) (job : Job) :
    List EgressData :=
  if job.wireVersion = 0 then stageRawOutboxReplySent send sock egress job
  else
    match copyJobReplyToSend job with
    | none => []
    | some packet =>
      stageTwiceSent (fun again egress => stage env (random again) egress packet) send sock egress

def stageProcessedSent (world : World) (k : ℕ) (egress : EgressState) (record : Processed) :
    List EgressData :=
  match record.reply with
  | none => []
  | some (env, job) => stageOutboxReplySent env (world.random k) (world.send k)
      record.done.runtime.listener.sock egress job

def replaySent (world : World) : ℕ → EgressState → List Processed → List EgressData
  | _, _, [] => []
  | k, egress, record :: log => stageProcessedSent world k egress record ++
      replaySent world (k + 1) (stageProcessed world k egress record).egress log

def drainJobsAndFlushSent (world : World) (flushed : ℕ → EgressData → Bool) (runtime : Runtime)
    (jobs : JobState) (egress : EgressState) : List EgressData :=
  let drained := drainLoop world jobs.count 0 runtime jobs egress
  replaySent world 0 egress (drainLog world jobs.count 0 runtime jobs egress) ++
    if drained.rc < 0 then []
    else if MuxEgress.hasPending drained.egress then
      (flush flushed drained.egress drained.runtime.listener.sock).sent
    else []

def turnSent (loop : Loop) (input : Turn) : List EgressData :=
  match reconnect loop with
  | none => []
  | some loop =>
    let early := flushOutboxSent input.early loop.mux
    if input.broken then early
    else
      let pumped := (pump (input.world.codecEnv loop.runtime) input.clock input.waiting
        (flushOutbox input.early loop.mux)).1
      let filled := intake input loop
      early ++ flushOutboxSent input.late pumped ++
        drainJobsAndFlushSent input.world input.last loop.runtime filled.jobs filled.mux.egress

def stepSent (loop : Option Loop) (input : Turn) : List EgressData :=
  match loop with
  | none => []
  | some loop => turnSent loop input

def sent (loop : Loop) (inputs : List Turn) : List EgressData :=
  (steps DaemonLoop.step (some loop) inputs).flatMap fun now => stepSent now.1 now.2

end Sent

section Consumed

variable {hash : Hash} {handlers : Handlers} {runtime : Runtime} {user : User} {action : Action}

/-- A job that has been worked on is the same but for its answer and the mark of its signature. -/
def Answered (before after : Job) : Prop :=
  after = { before with
    shouldReply := after.shouldReply, response := after.response, wireAuth := after.wireAuth }

theorem answered_refl (job : Job) : Answered job job := rfl

theorem Answered.trans {before between after : Job} (first : Answered before between)
    (second : Answered between after) : Answered before after := by
  unfold Answered at first second ⊢
  rw [second, first]

theorem stageReply_answered (config : Option Config) (job : Job) (reply : ActionReply) :
    Answered job (stageReply config job reply) := by
  unfold stageReply
  split
  · rfl
  · rfl

theorem dispatchBuiltin_answered (job : Job) :
    Answered job (dispatchBuiltin handlers runtime job user action).job := by
  unfold dispatchBuiltin
  dsimp only
  split
  · split
    · exact answered_refl job
    · exact stageReply_answered _ _ _
  · exact stageReply_answered _ _ _

theorem dispatchShell_answered (job : Job) :
    Answered job (dispatchShell handlers runtime job user action).job := by
  have answer (ok answered : Bool) (text : CString) : Answered job (⟨ok, runtime,
      stageReply runtime.config job (.set answered text)⟩ : Dispatched).job :=
    stageReply_answered runtime.config job (.set answered text)
  unfold dispatchShell
  dsimp only
  split
  · exact answered_refl job
  split
  · exact answer _ _ _
  split
  · exact answer _ _ _
  split
  · exact answer _ _ _
  · exact answer _ _ _

theorem dispatchAction_answered (job : Job) :
    Answered job (dispatchAction handlers runtime job user action).job := by
  unfold dispatchAction
  dsimp only
  split
  · exact answered_refl job
  split
  · exact dispatchBuiltin_answered job
  split
  · exact stageReply_answered _ _ _
  · exact dispatchShell_answered job

theorem authorize_answered (config : Option Config) (session : OpenSSLSession) (job : Job) :
    Answered job (authorize hash config session job).job := by
  unfold authorize
  dsimp only
  split
  · rfl
  split
  · rfl
  · split
    · rfl
    · rfl

theorem unstructuredHandle_answered (job : Job) :
    Answered job (unstructuredHandle handlers runtime job) := by
  unfold unstructuredHandle
  split
  · rfl
  split
  · rfl
  split
  · rfl
  · split
    · rfl
    · rfl

theorem consume_answered (job : Job) : Answered job (consume hash handlers runtime job).job := by
  unfold consume
  dsimp only
  split
  · exact answered_refl job
  split
  · exact unstructuredHandle_answered job
  cases bindUserAction runtime.config runtime.listener job runtime.session with
  | mk session found =>
    cases found with
    | none => exact answered_refl job
    | some pair =>
      have signed := @authorize_answered hash runtime.config session job
      dsimp only
      split
      · exact signed
      split
      · exact signed
      · exact signed.trans (dispatchAction_answered _)

theorem Answered.asker {before after : Job} (answered : Answered before after) :
    asker after = asker before := by
  unfold DaemonTraffic.asker
  rw [answered]

end Consumed

section Owed

def outgoing (kind : EgressData → Bool) (egress : EgressState) : ℕ :=
  (waiting egress).countP kind

variable {kind : EgressData → Bool} {among : Endpoint → Bool}

/-- Datagrams of the kind go to these endpoints only, as far as the queue would hold and send
them. -/
def Concerns (kind : EgressData → Bool) (among : Endpoint → Bool) : Prop :=
  ∀ packet, nonempty packet = true → packet.egressBuffer.length ≤ NORMALIZED_PACKET_BUFFER_SIZE →
    kind packet = true → among (target packet) = true

theorem flush_owed (send : ℕ → EgressData → Bool) (egress : EgressState) (sock : ℤ) :
    (flush send egress sock).sent.countP kind + outgoing kind (flush send egress sock).state =
      outgoing kind egress := by
  unfold outgoing waiting
  rw [← List.countP_append]
  exact congrArg (List.countP kind) (flushEgress_fifo send egress sock)

theorem flushOutbox_owed (send : ℕ → EgressData → Bool) (mux : MuxState) :
    (flushOutboxSent send mux).countP kind + outgoing kind (flushOutbox send mux).egress =
      outgoing kind mux.egress := by
  unfold flushOutboxSent flushOutbox
  split
  · exact flush_owed send mux.egress mux.socketFd
  · exact Nat.zero_add _

/-- A call that stages one datagram for an endpoint, or leaves the queue as it is. -/
def StagesFor (peer : Endpoint) (egress : EgressState) (out : Staged) : Prop :=
  out.egress.contents = egress.contents ∨ out.ok = true ∧ ∃ packet,
    packet.egressBuffer.length ≤ NORMALIZED_PACKET_BUFFER_SIZE ∧ target packet = peer ∧
      out.egress.contents = egress.contents ++ [packet]

theorem stagesFor_owed (concerns : Concerns kind among) {peer : Endpoint} {egress : EgressState}
    {out : Staged} (staged : StagesFor peer egress out) :
    outgoing kind out.egress ≤ outgoing kind egress + if among peer then 1 else 0 := by
  unfold outgoing waiting
  rcases staged with same | ⟨-, packet, fits, goes, appended⟩
  · rw [same]
    exact Nat.le_add_right _ _
  · rw [appended, List.filter_append, List.countP_append]
    apply Nat.add_le_add_left
    by_cases used : nonempty packet = true
    · rw [List.filter_cons_of_pos used, List.filter_nil, List.countP_singleton]
      split
      · rename_i like
        rw [← goes, concerns packet used fits like, if_pos rfl]
      · exact Nat.zero_le _
    · rw [List.filter_cons_of_neg used]
      exact Nat.zero_le _

theorem stageTwice_owed (concerns : Concerns kind among) {peer : Endpoint}
    {stage : Bool → EgressState → Staged}
    (staged : ∀ again egress, StagesFor peer egress (stage again egress))
    (send : ℕ → EgressData → Bool) (sock : ℤ) (egress : EgressState) :
    (stageTwiceSent stage send sock egress).countP kind +
        outgoing kind (stageTwice stage send sock egress).egress ≤
      outgoing kind egress + if among peer then 1 else 0 := by
  have first := stagesFor_owed concerns (staged false egress)
  unfold stageTwiceSent stageTwice
  dsimp only
  split
  · rw [List.countP_nil, Nat.zero_add]
    exact first
  · rename_i refused
    have same : outgoing kind (stage false egress).egress = outgoing kind egress := by
      rcases staged false egress with same | ⟨ok, -⟩
      · unfold outgoing waiting
        rw [same]
      · exact absurd ok refused
    have flushed := @flush_owed kind send (stage false egress).egress sock
    have second := stagesFor_owed concerns
      (staged true (flush send (stage false egress).egress sock).state)
    have kept (reply : Reply) (left : reply.egress =
        (stage true (flush send (stage false egress).egress sock).state).egress) :
        (flush send (stage false egress).egress sock).sent.countP kind +
          outgoing kind reply.egress ≤ outgoing kind egress + if among peer then 1 else 0 := by
      rw [left]
      omega
    split
    · exact kept _ rfl
    · exact kept _ rfl

theorem fillEgress_target {send : SendPacket} {payload : Bytes} {packet : EgressData}
    (filled : fillEgress send payload = some packet) :
    target packet = ⟨send.ip, send.clientPort⟩ := by
  unfold fillEgress at filled
  split at filled
  · contradiction
  · obtain rfl := Option.some.inj filled
    rfl

theorem encode_target {adapter : Adapter} (registry : adapter ∈ adapters) {env : CodecEnv}
    {random : Entropy} {send : SendPacket} {packet : EgressData}
    (encoded : adapter.encode env random send = some packet) :
    target packet = ⟨send.ip, send.clientPort⟩ := by
  have filled {encode : NormalizedUnit → Option Bytes}
      (made : adapterEncode encode send = some packet) :
      target packet = ⟨send.ip, send.clientPort⟩ := by
    simp only [adapterEncode, Option.bind_eq_bind, Option.bind_eq_some_iff] at made
    obtain ⟨normal, -, bytes, -, filled⟩ := made
    exact fillEgress_target filled
  rcases adapters_cases registry with rfl | rfl | rfl | rfl
  · exact filled encoded
  · exact filled encoded
  · exact filled encoded
  · exact filled encoded

theorem copyJobReplyToSend_target {job : Job} {packet : SendPacket}
    (copied : copyJobReplyToSend job = some packet) :
    (⟨packet.ip, packet.clientPort⟩ : Endpoint) = asker job := by
  unfold copyJobReplyToSend at copied
  split at copied
  · contradiction
  · obtain rfl := Option.some.inj copied
    rfl

theorem stage_stagesFor {job : Job} {packet : SendPacket}
    (copied : copyJobReplyToSend job = some packet) (env : CodecEnv) (random : ℕ → Entropy)
    (egress : EgressState) : StagesFor (asker job) egress (stage env random egress packet) := by
  rcases (stage_all_or_nothing env random egress packet 0).1 with
    ⟨-, same⟩ | ⟨ok, adapter, packets, found, length, encoded, appended⟩
  · exact .inl (congrArg RingQueue.Ring.contents same)
  · have few := countFragments_le_one copied adapter found
    change packets.length = adapter.countFragments packet at length
    cases packets with
    | nil =>
      rw [List.append_nil] at appended
      exact .inl appended
    | cons first rest =>
      have none_else : rest = [] := by
        rw [List.length_cons] at length
        exact List.length_eq_zero_iff.mp (by omega)
      subst none_else
      have single : totalFragments adapter packet 0 = 1 := length.symm
      rw [single] at encoded
      cases encoded with
      | cons made _ =>
        have registry := (lookupAdapterWireVersion_some found).1
        have fits := made.fits registry
        unfold EncodesFragment at made
        rw [if_pos single] at made
        refine .inr ⟨ok, first, fits, ?_, appended⟩
        rw [encode_target registry made]
        exact copyJobReplyToSend_target copied

theorem stageBytes_stagesFor (egress : EgressState) (raw : SendBytesPacket) :
    StagesFor ⟨raw.ip, raw.clientPort⟩ egress (stageBytes egress raw) := by
  unfold stageBytes
  split
  · exact .inl rfl
  · rename_i short
    unfold stageAll
    split
    · exact .inl rfl
    · rename_i after staged
      obtain ⟨fits, -, -, appended⟩ := stageEgress_some staged
      exact .inr ⟨rfl, _, fits, rfl, appended⟩

theorem stageOutboxReply_owed (concerns : Concerns kind among) (env : CodecEnv)
    (random : Bool → ℕ → Entropy) (send : ℕ → EgressData → Bool) (sock : ℤ) (egress : EgressState)
    (job : Job) :
    (stageOutboxReplySent env random send sock egress job).countP kind +
        outgoing kind (stageOutboxReply env random send sock egress job).egress ≤
      outgoing kind egress + if among (asker job) then 1 else 0 := by
  have nothing : ([] : List EgressData).countP kind + outgoing kind egress ≤
      outgoing kind egress + if among (asker job) then 1 else 0 := by
    rw [List.countP_nil, Nat.zero_add]
    exact Nat.le_add_right _ _
  unfold stageOutboxReplySent stageOutboxReply
  split
  · unfold stageRawOutboxReplySent stageRawOutboxReply
    split
    · exact nothing
    · exact stageTwice_owed concerns (fun _ egress => stageBytes_stagesFor egress _)
        send sock egress
  · cases copied : copyJobReplyToSend job with
    | none => exact nothing
    | some packet =>
      exact stageTwice_owed concerns
        (fun again egress => stage_stagesFor copied env (random again) egress) send sock egress

theorem stageProcessed_owed (concerns : Concerns kind among) {world : World} {k : ℕ}
    {egress : EgressState} {record : Processed}
    (made : record = process world record.before record.job) :
    (stageProcessedSent world k egress record).countP kind +
        outgoing kind (stageProcessed world k egress record).egress ≤
      outgoing kind egress + if among (asker record.job) then 1 else 0 := by
  have nothing : ([] : List EgressData).countP kind + outgoing kind egress ≤
      outgoing kind egress + if among (asker record.job) then 1 else 0 := by
    rw [List.countP_nil, Nat.zero_add]
    exact Nat.le_add_right _ _
  have answered : asker record.done.job = asker record.job := by
    rw [made]
    exact (consume_answered record.job).asker
  unfold stageProcessedSent stageProcessed
  cases reply : record.reply with
  | none => exact nothing
  | some staged =>
    obtain ⟨env, job⟩ := staged
    have same : job = record.done.job := by
      rw [made] at reply ⊢
      unfold process at reply ⊢
      dsimp only at reply ⊢
      split at reply
      · exact (Prod.mk.inj (Option.some.inj reply)).2.symm
      · contradiction
    dsimp only
    rw [← answered, ← same]
    exact stageOutboxReply_owed concerns env _ _ _ egress job

theorem replay_owed (concerns : Concerns kind among) (world : World) (k : ℕ)
    (egress : EgressState) (log : List Processed)
    (made : ∀ record ∈ log, record = process world record.before record.job) :
    (replaySent world k egress log).countP kind + outgoing kind (replay world k egress log) ≤
      outgoing kind egress + log.countP fun record => among (asker record.job) := by
  induction log generalizing k egress with
  | nil => exact (Nat.zero_add _).le
  | cons record log ih =>
    have now := @stageProcessed_owed kind among concerns world k egress record
      (made record List.mem_cons_self)
    have later := ih (k + 1) (stageProcessed world k egress record).egress
      fun other member => made other (List.mem_cons_of_mem record member)
    unfold replaySent replay
    rw [List.countP_append, List.countP_cons]
    omega

end Owed

section Turns

variable {kind : EgressData → Bool} {among : Endpoint → Bool} {loop ready : Loop} {input : Turn}

theorem fill_egress (fuel : ℕ) (mux : MuxState) (jobs : JobState) :
    (fill fuel mux jobs).mux.egress = mux.egress := by
  induction fuel generalizing mux jobs with
  | zero => rfl
  | succ fuel ih =>
    unfold fill
    cases handed : handOut mux with
    | none => rfl
    | some next =>
      obtain ⟨normal, after⟩ := next
      have rest := ih after ((enqueue jobs normal).getD jobs)
      have kept : (MuxInbox.drain mux).2.egress = mux.egress := rfl
      rw [handOut_some handed] at kept
      exact rest.trans kept

theorem connect_outgoing {listener : Listener} {mux : MuxState}
    (connected : connect listener = some mux) : outgoing kind mux.egress = 0 := by
  unfold connect at connected
  split at connected
  · cases connected
  · obtain rfl := Option.some.inj connected
    unfold configureMuxPolicy
    split
    · rfl
    · rfl

theorem reconnect_outgoing (reconnected : reconnect loop = some ready) :
    outgoing kind ready.mux.egress ≤ outgoing kind loop.mux.egress := by
  unfold reconnect at reconnected
  split at reconnected
  · obtain ⟨mux, connected, rfl⟩ := Option.map_eq_some_iff.mp reconnected
    rw [connect_outgoing connected]
    exact Nat.zero_le _
  · obtain rfl := Option.some.inj reconnected
    exact le_rfl

theorem intake_owed (input : Turn) (ready : Loop) :
    let pumped := (pump (input.world.codecEnv ready.runtime) input.clock input.waiting
      (flushOutbox input.early ready.mux)).1
    (flushOutboxSent input.early ready.mux).countP kind +
        (flushOutboxSent input.late pumped).countP kind +
        outgoing kind (intake input ready).mux.egress = outgoing kind ready.mux.egress := by
  intro pumped
  have early := @flushOutbox_owed kind input.early ready.mux
  have late := @flushOutbox_owed kind input.late pumped
  have kept : pumped.egress = (flushOutbox input.early ready.mux).egress := rfl
  have filled : (intake input ready).mux.egress = (flushOutbox input.late pumped).egress :=
    fill_egress _ _ _
  rw [filled]
  rw [kept] at late
  omega

theorem drainJobsAndFlush_owed (concerns : Concerns kind among) (world : World)
    (flushed : ℕ → EgressData → Bool) (runtime : Runtime) (jobs : JobState)
    (egress : EgressState) :
    (drainJobsAndFlushSent world flushed runtime jobs egress).countP kind +
        outgoing kind (drainJobsAndFlush world flushed runtime jobs egress).egress ≤
      outgoing kind egress + (drainLog world jobs.count 0 runtime jobs egress).countP
        fun record => among (asker record.job) := by
  have replies := replay_owed concerns world 0 egress
    (drainLog world jobs.count 0 runtime jobs egress) (drainLog_made _ _ _ _ _)
  rw [← drainLoop_replay] at replies
  unfold drainJobsAndFlushSent drainJobsAndFlush
  dsimp only
  rw [List.countP_append]
  split
  · rw [List.countP_nil]
    omega
  split
  · have last := @flush_owed kind flushed
      (drainLoop world jobs.count 0 runtime jobs egress).egress
      (drainLoop world jobs.count 0 runtime jobs egress).runtime.listener.sock
    dsimp only
    omega
  · rw [List.countP_nil]
    omega

def loopOutgoing (kind : EgressData → Bool) : Option Loop → ℕ
  | none => 0
  | some loop => outgoing kind loop.mux.egress

def Asked (among : Endpoint → Bool) (job : Job) : Prop := among (asker job) = true

instance : DecidablePred (Asked among) := fun job => by
  unfold Asked
  infer_instance

def Brought (among : Endpoint → Bool) (normal : RecvPacket) : Prop := among (sender normal) = true

instance : DecidablePred (Brought among) := fun normal => by
  unfold Brought
  infer_instance

def Came (among : Endpoint → Bool) (raw : Ingress) : Prop := among (source raw) = true

instance : DecidablePred (Came among) := fun raw => by
  unfold Came
  infer_instance

theorem processes_asked (filled : Filled) (log : List Processed) (first : Event)
    (pumped : processes (Asked among) first = false) :
    (first :: (filled.handed.map Event.drained ++ log.map Event.processed)).countP
        (processes (Asked among)) = log.countP fun record => among (asker record.job) := by
  have handed : (filled.handed.map Event.drained).countP (processes (Asked among)) = 0 := by
    apply List.countP_eq_zero.mpr
    intro event member
    obtain ⟨normal, -, rfl⟩ := List.mem_map.mp member
    exact Bool.false_ne_true
  have jobs : (log.map Event.processed).countP (processes (Asked among)) =
      log.countP fun record => among (asker record.job) := by
    rw [List.countP_map]
    apply List.countP_congr
    intro record _
    exact decide_eq_true_iff
  rw [List.countP_cons_of_neg (by rw [pumped]; exact Bool.false_ne_true), List.countP_append,
    handed, jobs, Nat.zero_add]

theorem turn_outgoing (reconnected : reconnect loop = some ready) :
    loopOutgoing kind (turn loop input).1 ≤ outgoing kind (drainJobsAndFlush input.world input.last
      ready.runtime (intake input ready).jobs (intake input ready).mux.egress).egress := by
  unfold turn
  rw [reconnected]
  dsimp only
  split
  · exact Nat.zero_le _
  dsimp only
  split
  · exact Nat.zero_le _
  · exact le_rfl

theorem turn_replies (concerns : Concerns kind among) (loop : Loop) (input : Turn) :
    loopOutgoing kind (turn loop input).1 + (turnSent loop input).countP kind ≤
      outgoing kind loop.mux.egress + (turn loop input).2.countP (processes (Asked among)) := by
  have left (ready : Loop) (reconnected : reconnect loop = some ready) :=
    @turn_outgoing kind _ _ input reconnected
  unfold turnSent
  revert left
  unfold turn
  cases reconnected : reconnect loop with
  | none => exact fun _ => Nat.zero_le _
  | some ready =>
    intro left
    have before := @reconnect_outgoing kind _ _ reconnected
    have early := @flushOutbox_owed kind input.early ready.mux
    have after := left ready rfl
    dsimp only at after ⊢
    split
    · change 0 + _ ≤ _
      omega
    · rename_i whole
      rw [if_neg whole] at after
      have taken := @intake_owed kind input ready
      have drained := drainJobsAndFlush_owed concerns input.world input.last ready.runtime
        (intake input ready).jobs (intake input ready).mux.egress
      rw [processes_asked _ _ _ rfl, List.countP_append, List.countP_append]
      dsimp only at taken after ⊢
      omega

theorem normalize_sender {policy : PolicyEnforceEncryption} {env : CodecEnv} {raw : Ingress}
    {control : Control} {normal : RecvPacket}
    (made : (normalize policy env raw control).1 = some normal) : sender normal = source raw := by
  rcases normalize_cases made with copied | ⟨adapter, identity, out, after, -, -, -, rfl⟩
  · unfold rawCopy at copied
    split at copied
    · contradiction
    · obtain rfl := Option.some.inj copied
      rfl
  · rfl

theorem loads_asker {normal : RecvPacket} {job : Job} (loaded : loadFromNormal normal = some job) :
    asker job = sender normal := by
  have cut : (normal.ip.take 63).take 63 = normal.ip.take 63 := by
    rw [List.take_take, Nat.min_self]
  unfold loadFromNormal at loaded
  dsimp only at loaded
  unfold asker sender
  split at loaded
  · obtain rfl := Option.some.inj loaded
    dsimp only
    rw [cut]
  · obtain ⟨user, -, rfl⟩ := Option.map_eq_some_iff.mp loaded
    dsimp only
    rw [cut]

/-- What the daemon still owes to some endpoints: datagrams of theirs that it has not worked on, and
answers that it has not sent. -/
def owed (kind : EgressData → Bool) (among : Endpoint → Bool) (state : Option Loop) : ℕ :=
  workHeld (Brought among) (Came among) (Asked among) state + loopOutgoing kind state

theorem step_owed (concerns : Concerns kind among) (state : Option Loop) (input : Turn) :
    owed kind among (DaemonLoop.step state input).1 + (stepSent state input).countP kind ≤
      owed kind among state + (arrivals state input).countP (Came among) := by
  cases state with
  | none => exact Nat.zero_le _
  | some loop =>
    have replies := turn_replies concerns loop input
    have processed := @turn_processed (Brought among) _ (Came among) _ (Asked among) _
      (lasting_of_content fun _ => Iff.rfl)
      (fun normal job loaded asked => by
        unfold Brought
        rw [← loads_asker loaded]
        exact asked)
      loop input (fun ready _ raw control normal made brought => by
        unfold Came
        rw [← normalize_sender made]
        exact brought)
    change workHeld _ _ _ (turn loop input).1 + loopOutgoing kind (turn loop input).1 +
      (turnSent loop input).countP kind ≤
      workHeld _ _ _ (some loop) + outgoing kind loop.mux.egress + _
    omega

end Turns

section Runs

variable {opensslReady : Bool} {config : Option Config} {listener : Listener}
  {context : CodecContext} {loop : Loop}

theorem start_outgoing {kind : EgressData → Bool}
    (started : start opensslReady config listener context = some loop) :
    outgoing kind loop.mux.egress = 0 := by
  unfold start at started
  split at started
  · cases started
  · obtain ⟨mux, connected, rfl⟩ := Option.map_eq_some_iff.mp started
    exact connect_outgoing connected

theorem sent_le {kind : EgressData → Bool} {among : Endpoint → Bool}
    (concerns : Concerns kind among)
    (started : start opensslReady config listener context = some loop) (inputs : List Turn) :
    (sent loop inputs).countP kind ≤ (received loop inputs).countP (Came among) := by
  have paid := @run_paid _ _ _ DaemonLoop.step (owed kind among)
    (fun state input => (stepSent state input).countP kind)
    (fun state input => (arrivals state input).countP (Came among))
    (step_owed concerns) (some loop) inputs
  have nothing : owed kind among (some loop) = 0 := by
    change workHeld _ _ _ (some loop) + outgoing kind loop.mux.egress = 0
    rw [start_workHeld started, start_outgoing started]
  have out : (sent loop inputs).countP kind = ((steps DaemonLoop.step (some loop) inputs).map
      fun now => (stepSent now.1 now.2).countP kind).sum := List.countP_flatMap
  have read : (received loop inputs).countP (Came among) =
      ((steps DaemonLoop.step (some loop) inputs).map fun now =>
        (arrivals now.1 now.2).countP (Came among)).sum := List.countP_flatMap
  omega

/-- A daemon only answers: whatever comes in, and whatever the sockets and the handlers do, it
sends no more datagrams to some endpoints than it has read from them, and none that is empty or
longer than a packet buffer. -/
theorem only_answers (started : start opensslReady config listener context = some loop)
    (inputs : List Turn) :
    (∀ among : Endpoint → Bool, (sent loop inputs).countP (fun packet => among (target packet)) ≤
      (received loop inputs).countP fun raw => among (source raw)) ∧
    ∀ packet ∈ sent loop inputs, packet.egressBuffer ≠ [] ∧
      packet.egressBuffer.length ≤ NORMALIZED_PACKET_BUFFER_SIZE := by
  refine ⟨?_, ?_⟩
  · intro among
    have counted := @sent_le _ _ _ _ _ (fun packet => among (target packet)) among
      (fun _ _ _ like => like) started inputs
    have same : (received loop inputs).countP (Came among) =
        (received loop inputs).countP fun raw => among (source raw) := by
      apply List.countP_congr
      intro raw _
      exact decide_eq_true_iff
    rw [← same]
    exact counted
  · intro packet member
    by_contra odd
    let kind : EgressData → Bool := fun other => decide ¬ (other.egressBuffer ≠ [] ∧
      other.egressBuffer.length ≤ NORMALIZED_PACKET_BUFFER_SIZE)
    have concerns : Concerns kind fun _ => false := by
      intro other used fits like
      have filled : other.egressBuffer ≠ [] := by
        intro empty
        simp [nonempty, empty] at used
      exact absurd ⟨filled, fits⟩ (of_decide_eq_true like)
    have counted := sent_le concerns started inputs
    have none_came : (received loop inputs).countP (Came fun _ => false) = 0 :=
      List.countP_eq_zero.mpr fun raw _ => by simp [Came]
    have some_sent : 0 < (sent loop inputs).countP kind :=
      List.countP_pos_iff.mpr ⟨packet, member, decide_eq_true odd⟩
    omega

/-- Both rings of the door in a turn are answered, and nothing else is sent. -/
theorem doorbell_only_answers :
    (sent doorbellLoop [knockTurn 2]).countP (fun packet => decide (target packet =
        ⟨aliceKnock.ip, aliceKnock.clientPort⟩)) ≤
      (received doorbellLoop [knockTurn 2]).countP (fun raw => decide (source raw =
        ⟨aliceKnock.ip, aliceKnock.clientPort⟩)) ∧
    (sent doorbellLoop [knockTurn 2]).length = 2 :=
  ⟨(only_answers doorbell_starts [knockTurn 2]).1 fun peer => decide (peer =
    ⟨aliceKnock.ip, aliceKnock.clientPort⟩), by decide +kernel⟩

end Runs

end Siglatch.DaemonTraffic
