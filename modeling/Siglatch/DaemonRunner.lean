import Siglatch.DaemonPayload
import Siglatch.KnockEncode
import Siglatch.MuxOutbox

set_option autoImplicit false

namespace Siglatch.DaemonRunner
open MuxTypes AppConfig KnockDigest DaemonTypes DaemonPayload KnockCodec KnockEncode
open MuxAdapter MuxEgress MuxOutbox

def KNOCK_RESPONSE_ACTION_ID : UInt8 := 0

/-- What the runner finds outside: OpenSSL, the handlers, the clock, the randomness of the
encoders and whether the socket takes a datagram, for each job in turn. -/
structure World where
  cipher : Cipher
  hash : Hash
  handlers : Handlers
  now : ℤ
  random : ℕ → Bool → ℕ → Entropy
  send : ℕ → ℕ → EgressData → Bool

/-- The runner has installed its own session in the codec context. -/
def World.codecEnv (world : World) (runtime : Runtime) : CodecEnv :=
  ⟨world.cipher, world.hash, runtime.codecContext, some runtime.session, world.now⟩

def copyJobReplyToSend (job : Job) : Option SendPacket :=
  if USER_DATA_PAYLOAD_MAX < job.response.length then none
  else some {
    wireVersion := job.wireVersion, wireForm := job.wireForm
    receivedMs := job.timestamp.toUInt64, sessionId := job.sessionId
    messageId := job.messageId + job.fragmentIndex.toUInt64, streamId := job.streamId
    fragmentIndex := 0, fragmentCount := 1, timestamp := job.timestamp, ip := job.ip.take 63
    clientPort := job.clientPort, encrypted := job.encrypted, wireAuth := job.wireAuth
    user := some ⟨job.request.userId, KNOCK_RESPONSE_ACTION_ID, job.request.challenge,
      job.request.hmac, job.response⟩ }

structure Reply where
  rc : ℤ
  egress : EgressState

/-- A reply that is not taken gets a second chance after a flush. The flush counts what it has
sent and so reports no error. -/
def stageTwice (stage : Bool → EgressState → Staged) (send : ℕ → EgressData → Bool) (sock : ℤ)
    (egress : EgressState) : Reply :=
  let first := stage false egress
  if first.ok then ⟨1, first.egress⟩
  else
    let second := stage true (flush send first.egress sock).state
    if second.ok then ⟨1, second.egress⟩ else ⟨0, second.egress⟩

def stageRawOutboxReply (send : ℕ → EgressData → Bool) (sock : ℤ) (egress : EgressState)
    (job : Job) : Reply :=
  if job.response = [] then ⟨0, egress⟩
  else
    let rawSend : SendBytesPacket := ⟨job.timestamp.toUInt64, job.ip.take 63, job.clientPort,
      job.response.take NORMALIZED_PACKET_BUFFER_SIZE⟩
    stageTwice (fun _ egress => stageBytes egress rawSend) send sock egress

def stageOutboxReply (env : CodecEnv) (random : Bool → ℕ → Entropy)
    (send : ℕ → EgressData → Bool) (sock : ℤ) (egress : EgressState) (job : Job) : Reply :=
  if job.wireVersion = 0 then stageRawOutboxReply send sock egress job
  else
    match copyJobReplyToSend job with
    | none => ⟨0, egress⟩
    | some packet =>
      stageTwice (fun again egress => stage env (random again) egress packet) send sock egress

def asksReply (job : Job) : Bool := job.shouldReply || decide (0 < job.response.length)

structure Drained where
  rc : ℤ
  runtime : Runtime
  jobs : JobState
  egress : EgressState

/-- The loop over the job queue, of which this is the `k`-th job. -/
def drainLoop (world : World) : ℕ → ℕ → Runtime → JobState → EgressState → Drained
  | 0, _, runtime, jobs, egress => ⟨0, runtime, jobs, egress⟩
  | fuel + 1, k, runtime, jobs, egress =>
    match DaemonTypes.drain jobs with
    | none => ⟨0, runtime, jobs, egress⟩
    | some (job, jobs) =>
      let done := consume world.hash world.handlers runtime job
      if asksReply done.job then
        let reply := stageOutboxReply (world.codecEnv done.runtime) (world.random k)
          (world.send k) done.runtime.listener.sock egress done.job
        if reply.rc ≤ 0 then
          ⟨if reply.rc < 0 then reply.rc else -1, done.runtime, jobs, reply.egress⟩
        else drainLoop world fuel (k + 1) done.runtime jobs reply.egress
      else drainLoop world fuel (k + 1) done.runtime jobs egress

/-- `flushed` says what the socket takes in the flush at the end. -/
def drainJobsAndFlush (world : World) (flushed : ℕ → EgressData → Bool) (runtime : Runtime)
    (jobs : JobState) (egress : EgressState) : Drained :=
  let drained := drainLoop world jobs.count 0 runtime jobs egress
  if drained.rc < 0 then drained
  else if MuxEgress.hasPending drained.egress then
    { drained with
      egress := (flush flushed drained.egress drained.runtime.listener.sock).state }
  else drained

section Room

variable (send : ℕ → EgressData → Bool)

theorem flushLoop_count_le (fuel k : ℕ) (egress : EgressState) :
    (flushLoop send fuel k egress).state.count ≤ egress.count := by
  induction fuel generalizing k egress with
  | zero => exact le_rfl
  | succ fuel ih =>
    unfold flushLoop
    split
    · rename_i h
      have popped : (egress.pop EgressData.zero h).count = egress.count - 1 := rfl
      split
      · have rest := ih k (egress.pop EgressData.zero h)
        omega
      · split
        · have rest := ih (k + 1) (egress.pop EgressData.zero h)
          dsimp only
          omega
        · exact le_rfl
    · exact le_rfl

/-- The queue has a free slot, or a flush makes one: the socket is open and the head of the queue
is empty or can be sent. -/
def Room (sock : ℤ) (egress : EgressState) : Prop :=
  egress.count < EGRESS_QUEUE_CAPACITY ∨
    0 ≤ sock ∧ (egress.front.egressBuffer.length = 0 ∨ send 0 egress.front = true)

theorem flush_makes_room_iff (sock : ℤ) {egress : EgressState}
    (full : ¬ egress.count < EGRESS_QUEUE_CAPACITY) :
    (flush send egress sock).state.count < EGRESS_QUEUE_CAPACITY ↔
      0 ≤ sock ∧ (egress.front.egressBuffer.length = 0 ∨ send 0 egress.front = true) := by
  have count : egress.count = 63 + 1 := by
    have le := egress.count_le
    have capacity : EGRESS_QUEUE_CAPACITY = 64 := rfl
    omega
  have nonempty : 0 < egress.count := by omega
  have popped : (egress.pop EgressData.zero nonempty).count < EGRESS_QUEUE_CAPACITY := by
    change egress.count - 1 < EGRESS_QUEUE_CAPACITY
    have capacity : EGRESS_QUEUE_CAPACITY = 64 := rfl
    omega
  unfold flush flushEgress
  split
  · simp only [full, false_iff]
    omega
  · rename_i open_
    rw [count]
    unfold flushLoop
    rw [dif_pos nonempty, and_iff_right (by omega : 0 ≤ sock)]
    split
    · rename_i empty
      simp only [empty, true_or, iff_true]
      exact lt_of_le_of_lt (flushLoop_count_le send _ _ _) popped
    · rename_i filled
      split
      · rename_i sent
        simp only [sent, or_true, iff_true]
        exact lt_of_le_of_lt (flushLoop_count_le send _ _ _) popped
      · rename_i unsent
        simp only [full, filled, unsent, false_or, false_iff]
        exact Bool.false_ne_true

theorem stageTwice_iff {stage : Bool → EgressState → Staged} {possible : Prop}
    (staged : ∀ again egress, (stage again egress).ok = true ↔
      possible ∧ egress.count < EGRESS_QUEUE_CAPACITY)
    (kept : ∀ again egress, (stage again egress).ok = false → (stage again egress).egress = egress)
    (sock : ℤ) (egress : EgressState) :
    0 < (stageTwice stage send sock egress).rc ↔ possible ∧ Room send sock egress := by
  unfold stageTwice Room
  dsimp only
  have first := staged false egress
  cases ok : (stage false egress).ok with
  | true =>
    obtain ⟨can, room⟩ := first.mp ok
    simp [can, room]
  | false =>
    simp only [ok, Bool.false_eq_true, false_iff, not_and] at first
    rw [kept false egress ok]
    have second := staged true (flush send egress sock).state
    cases again : (stage true (flush send egress sock).state).ok with
    | true =>
      obtain ⟨can, room⟩ := second.mp again
      simp only [if_true, Bool.false_eq_true, if_false, can, true_and]
      exact iff_of_true Int.one_pos (.inr ((flush_makes_room_iff send sock (first can)).mp room))
    | false =>
      simp only [again, Bool.false_eq_true, false_iff, not_and] at second
      simp only [Bool.false_eq_true, if_false, lt_irrefl, false_iff, not_and]
      rintro can (room | room)
      · exact first can room
      · exact second can ((flush_makes_room_iff send sock (first can)).mpr room)

end Room

section Stage

variable {env : CodecEnv} {send : SendPacket} {user : UserSendData}

theorem stage_single (random : ℕ → Entropy) (egress : EgressState) {adapter : Adapter}
    (found : lookupAdapterWireVersion send.wireVersion = some adapter)
    (single : adapter.countFragments send = 1)
    (short : ∀ out, adapter.encode env (random 0) send = some out →
      out.egressBuffer.length ≤ NORMALIZED_PACKET_BUFFER_SIZE) :
    (stage env random egress send).ok = true ↔
      (adapter.encode env (random 0) send).isSome = true ∧
      egress.count < EGRESS_QUEUE_CAPACITY := by
  unfold stage stageCommon
  simp only [found, single, Nat.not_lt_zero, if_false, one_ne_zero, if_true]
  by_cases full : EGRESS_QUEUE_CAPACITY ≤ egress.count
  · simp [full, Nat.not_lt.mpr full]
  · have room : egress.count < EGRESS_QUEUE_CAPACITY := Nat.not_le.mp full
    rw [if_neg full, if_neg (by omega)]
    cases encoded : adapter.encode env (random 0) send with
    | none => simp
    | some out =>
      rw [stageAll_one_ok]
      exact and_congr_left fun _ => iff_of_true (short out encoded) rfl

theorem stage_refused (random : ℕ → Entropy) (egress : EgressState) {adapter : Adapter}
    (found : lookupAdapterWireVersion send.wireVersion = some adapter)
    (none_fits : adapter.countFragments send = 0) :
    (stage env random egress send).ok = false := by
  unfold stage stageCommon
  simp [found, none_fits]

theorem stage_kept (random : ℕ → Entropy) (egress : EgressState)
    (few : ∀ adapter, lookupAdapterWireVersion send.wireVersion = some adapter →
      adapter.countFragments send ≤ 1)
    (failed : (stage env random egress send).ok = false) :
    (stage env random egress send).egress = egress := by
  revert failed
  unfold stage stageCommon
  cases found : lookupAdapterWireVersion send.wireVersion with
  | none => exact fun _ => rfl
  | some adapter =>
    have le := few adapter found
    simp only [Nat.not_lt_zero, if_false]
    split
    · exact fun _ => rfl
    split
    · exact fun _ => rfl
    split
    · exact fun _ => rfl
    rw [if_pos (by omega)]
    split
    · exact fun _ => rfl
    · unfold stageAll
      split
      · exact fun _ => rfl
      · simp [stageAll]

end Stage

section Reply

/-- The codec of the reply's version takes its length, its form and the session's keys. -/
def Encodable (cipher : Cipher) (session : OpenSSLSession) (job : Job) : Prop :=
  Signs session job.wireAuth ∧
  ((job.wireVersion = V1_VERSION ∨
      job.wireVersion = V2_WIRE_VERSION ∧ job.response.length ≤ V2_FORM1_PAYLOAD_MAX) ∧
    (job.encrypted = true → UsableKey cipher session 256 NORMALIZED_PACKET_BUFFER_SIZE) ∨
  (job.wireVersion = V3_WIRE_VERSION ∨ job.wireVersion = V4_WIRE_VERSION) ∧
    job.wireForm = FORM1_ID ∧ UsableKey cipher session 43 CEK_MAX)

/-- A reply that can be staged as soon as there is room for it. -/
def Sendable (cipher : Cipher) (session : OpenSSLSession) (job : Job) : Prop :=
  if job.wireVersion = 0 then job.response ≠ []
  else job.response.length ≤ USER_DATA_PAYLOAD_MAX ∧ Encodable cipher session job

variable {env : CodecEnv} {session : OpenSSLSession} {job : Job} {packet : SendPacket}

theorem copyJobReplyToSend_some (copied : copyJobReplyToSend job = some packet) :
    packet.wireVersion = job.wireVersion ∧ packet.wireForm = job.wireForm ∧
    packet.encrypted = job.encrypted ∧ packet.wireAuth = job.wireAuth ∧
    ∃ user, packet.user = some user ∧ user.payload = job.response ∧
      user.payload.length ≤ USER_DATA_PAYLOAD_MAX := by
  unfold copyJobReplyToSend at copied
  split at copied
  · contradiction
  · rename_i short
    obtain rfl := Option.some.inj copied
    exact ⟨rfl, rfl, rfl, rfl, _, rfl, rfl, Nat.not_lt.mp short⟩

theorem adapterCountFragments_single {user : UserSendData} {payloadMax : ℕ}
    (carried : packet.user = some user) (fits : user.payload.length ≤ USER_DATA_PAYLOAD_MAX) :
    adapterCountFragments (countSingle payloadMax) packet =
      if user.payload.length ≤ payloadMax then 1 else 0 := by
  unfold adapterCountFragments
  rw [copied_unit carried fits]
  unfold countSingle
  exact if_neg (fun h => absurd h.1 (lt_irrefl 0))

theorem codecV4_countFragments {user : UserSendData} (carried : packet.user = some user)
    (fits : user.payload.length ≤ USER_DATA_PAYLOAD_MAX) :
    codecV4.countFragments packet = 1 := by
  have bound : user.payload.length < KnockSealed.FORM1_PAYLOAD_MAX :=
    lt_of_le_of_lt fits (by decide)
  change adapterCountFragments KnockCodecV4.countFragments packet = 1
  unfold adapterCountFragments
  rw [copied_unit carried fits]
  unfold KnockCodecV4.countFragments sendUnit
  dsimp only
  rw [Nat.div_eq_of_lt bound, Nat.mod_eq_of_lt bound, if_neg (lt_irrefl 0)]
  split <;> rfl

/-- No adapter asks for more than one fragment of a payload that fits a user buffer. -/
theorem countFragments_le_one (copied : copyJobReplyToSend job = some packet) (adapter : Adapter)
    (found : lookupAdapterWireVersion packet.wireVersion = some adapter) :
    adapter.countFragments packet ≤ 1 := by
  obtain ⟨-, -, -, -, user, carried, -, fits⟩ := copyJobReplyToSend_some copied
  have registry : adapter ∈ adapters := List.mem_of_find?_eq_some found
  have single (payloadMax : ℕ) : adapterCountFragments (countSingle payloadMax) packet ≤ 1 := by
    rw [adapterCountFragments_single carried fits]
    split <;> omega
  rcases adapters_cases registry with rfl | rfl | rfl | rfl
  · exact single _
  · exact single _
  · exact single _
  · exact (codecV4_countFragments carried fits).le

theorem adapter_encode_length {adapter : Adapter} (registry : adapter ∈ adapters)
    (random : Entropy) (out : EgressData) (encoded : adapter.encode env random packet = some out) :
    out.egressBuffer.length ≤ NORMALIZED_PACKET_BUFFER_SIZE := by
  rcases adapters_cases registry with rfl | rfl | rfl | rfl <;> exact adapterEncode_some encoded

theorem stage_unknown {send : SendPacket} (random : ℕ → Entropy) (egress : EgressState)
    (unknown : lookupAdapterWireVersion send.wireVersion = none) :
    (stage env random egress send).ok = false := by
  unfold stage stageCommon
  rw [unknown]

theorem stage_reply_ok (installed : env.session = some session) (lawful : Lawful env.cipher)
    (copied : copyJobReplyToSend job = some packet) (random : ℕ → Entropy)
    (egress : EgressState) :
    (stage env random egress packet).ok = true ↔
      Encodable env.cipher session job ∧ egress.count < EGRESS_QUEUE_CAPACITY := by
  obtain ⟨version, form, encrypted, auth, user, carried, payload, fits⟩ :=
    copyJobReplyToSend_some copied
  have byAdapter {adapter : Adapter} (found : lookupAdapterWireVersion packet.wireVersion =
      some adapter) (single : adapter.countFragments packet = 1) :=
    @stage_single env packet random egress adapter found single
      (adapter_encode_length (List.mem_of_find?_eq_some found) (random 0))
  unfold Encodable
  rw [← version, ← form, ← encrypted, ← auth, ← payload]
  by_cases v1 : packet.wireVersion = V1_VERSION
  · have found : lookupAdapterWireVersion packet.wireVersion = some codecV1 := by rw [v1]; rfl
    rw [byAdapter found (by
      change adapterCountFragments (countSingle V1_PAYLOAD_MAX) packet = 1
      rw [adapterCountFragments_single carried fits]
      exact if_pos fits),
      codecV1_encode_isSome installed lawful carried fits]
    have others : V1_VERSION ≠ V3_WIRE_VERSION ∧ V1_VERSION ≠ V4_WIRE_VERSION := by decide
    simp [v1, others]
  by_cases v2 : packet.wireVersion = V2_WIRE_VERSION
  · have found : lookupAdapterWireVersion packet.wireVersion = some codecV2 := by rw [v2]; rfl
    have count := @adapterCountFragments_single packet user V2_FORM1_PAYLOAD_MAX carried fits
    have others : V2_WIRE_VERSION ≠ V1_VERSION ∧ V2_WIRE_VERSION ≠ V3_WIRE_VERSION ∧
      V2_WIRE_VERSION ≠ V4_WIRE_VERSION := by decide
    by_cases short : user.payload.length ≤ V2_FORM1_PAYLOAD_MAX
    · rw [if_pos short] at count
      rw [byAdapter found count, codecV2_encode_isSome installed lawful carried fits]
      simp [v2, others, short]
    · rw [if_neg short] at count
      rw [stage_refused random egress found count]
      simp [v2, others, short]
  by_cases v3 : packet.wireVersion = V3_WIRE_VERSION
  · have found : lookupAdapterWireVersion packet.wireVersion = some codecV3 := by rw [v3]; rfl
    rw [byAdapter found (by
      change adapterCountFragments (countSingle KnockSealed.FORM1_PAYLOAD_MAX) packet = 1
      rw [adapterCountFragments_single carried fits, if_pos (fits.trans (by decide))]),
      codecV3_encode_isSome installed lawful carried fits v3]
    have others : V3_WIRE_VERSION ≠ V1_VERSION ∧ V3_WIRE_VERSION ≠ V2_WIRE_VERSION := by decide
    simp only [v3, others, false_and, or_self, true_or, true_and, false_or]
    exact and_congr_left fun _ => and_left_comm
  by_cases v4 : packet.wireVersion = V4_WIRE_VERSION
  · have found : lookupAdapterWireVersion packet.wireVersion = some codecV4 := by rw [v4]; rfl
    rw [byAdapter found (codecV4_countFragments carried fits),
      codecV4_encode_isSome installed lawful carried fits v4]
    have others : V4_WIRE_VERSION ≠ V1_VERSION ∧ V4_WIRE_VERSION ≠ V2_WIRE_VERSION := by decide
    simp only [v4, others, false_and, or_self, or_true, true_and, false_or]
    exact and_congr_left fun _ => and_left_comm
  · have unknown : lookupAdapterWireVersion packet.wireVersion = none := by
      rw [← Option.not_isSome_iff_eq_none, lookupAdapterWireVersion_isSome_iff, registered_eq]
      simp [v1, v2, v3, v4]
    rw [stage_unknown random egress unknown]
    simp [v1, v2, v3, v4]

/-- The reply of a structured job goes out if its codec takes it and there is room. -/
theorem stageOutboxReply_iff (installed : env.session = some session)
    (lawful : Lawful env.cipher) (random : Bool → ℕ → Entropy) (send : ℕ → EgressData → Bool)
    (sock : ℤ) (egress : EgressState) (job : Job) :
    0 < (stageOutboxReply env random send sock egress job).rc ↔
      Sendable env.cipher session job ∧ Room send sock egress := by
  unfold stageOutboxReply Sendable
  by_cases raw : job.wireVersion = 0
  · rw [if_pos raw, if_pos raw]
    unfold stageRawOutboxReply
    by_cases silent : job.response = []
    · simp [silent]
    · rw [if_neg silent]
      refine stageTwice_iff send ?_ ?_ sock egress
      · intro again egress
        have cut : (job.response.take NORMALIZED_PACKET_BUFFER_SIZE).length ≤
            NORMALIZED_PACKET_BUFFER_SIZE := List.length_take_le _ _
        unfold stageBytes
        rw [if_neg (Nat.not_lt.mpr cut), stageAll_one_ok, and_iff_right cut, and_iff_right silent]
      · intro again egress
        unfold stageBytes
        split
        · exact fun _ => rfl
        · unfold stageAll
          split
          · exact fun _ => rfl
          · simp [stageAll]
  · rw [if_neg raw, if_neg raw]
    cases copied : copyJobReplyToSend job with
    | none =>
      have long : ¬ job.response.length ≤ USER_DATA_PAYLOAD_MAX := by
        intro short
        unfold copyJobReplyToSend at copied
        rw [if_neg (Nat.not_lt.mpr short)] at copied
        contradiction
      simp [long]
    | some packet =>
      obtain ⟨-, -, -, -, user, -, payload, fits⟩ := copyJobReplyToSend_some copied
      rw [payload] at fits
      rw [and_iff_right fits]
      exact stageTwice_iff send
        (fun again egress => stage_reply_ok installed lawful copied (random again) egress)
        (fun again egress => stage_kept (random again) egress (countFragments_le_one copied))
        sock egress

end Reply

section Drain

variable (world : World)

/-- The jobs of a queue can be answered one after the other: each leaves no reply behind, or one
that can be sent under the keys of the session at that point, with room for it. -/
def Serves : ℕ → Runtime → EgressState → List Job → Prop
  | _, _, _, [] => True
  | k, runtime, egress, job :: jobs =>
    let done := consume world.hash world.handlers runtime job
    let sock := done.runtime.listener.sock
    if asksReply done.job then
      Sendable world.cipher done.runtime.session done.job ∧ Room (world.send k) sock egress ∧
      Serves (k + 1) done.runtime
        (stageOutboxReply (world.codecEnv done.runtime) (world.random k) (world.send k) sock egress
          done.job).egress jobs
    else Serves (k + 1) done.runtime egress jobs

theorem drainLoop_serves_iff (lawful : Lawful world.cipher) (fuel k : ℕ) (runtime : Runtime)
    (jobs : JobState) (egress : EgressState) (enough : jobs.contents.length ≤ fuel) :
    (0 ≤ (drainLoop world fuel k runtime jobs egress).rc ∧
      (drainLoop world fuel k runtime jobs egress).jobs.contents = []) ↔
    Serves world k runtime egress jobs.contents := by
  induction fuel generalizing k runtime jobs egress with
  | zero =>
    have empty : jobs.contents = [] := List.length_eq_zero_iff.mp (Nat.le_zero.mp enough)
    rw [empty]
    exact iff_of_true ⟨le_rfl, empty⟩ trivial
  | succ fuel ih =>
    unfold drainLoop
    cases drained : DaemonTypes.drain jobs with
    | none =>
      have empty : jobs.contents = [] := (drain_none_iff jobs).mp drained
      rw [empty]
      exact iff_of_true ⟨le_rfl, rfl⟩ trivial
    | some next =>
      obtain ⟨job, rest⟩ := next
      have split_ : jobs.contents = job :: rest.contents := drain_some drained
      rw [split_] at enough ⊢
      have fewer : rest.contents.length ≤ fuel := Nat.le_of_succ_le_succ enough
      unfold Serves
      dsimp only
      generalize consume world.hash world.handlers runtime job = done
      by_cases asks : asksReply done.job = true
      · rw [if_pos asks, if_pos asks]
        have staged : 0 < (stageOutboxReply (world.codecEnv done.runtime) (world.random k)
            (world.send k) done.runtime.listener.sock egress done.job).rc ↔
            Sendable world.cipher done.runtime.session done.job ∧
            Room (world.send k) done.runtime.listener.sock egress :=
          stageOutboxReply_iff rfl lawful _ _ _ egress done.job
        by_cases sent : 0 < (stageOutboxReply (world.codecEnv done.runtime) (world.random k)
            (world.send k) done.runtime.listener.sock egress done.job).rc
        · obtain ⟨sendable, room⟩ := staged.mp sent
          rw [if_neg (not_le.mpr sent), ih (k + 1) _ rest _ fewer, and_iff_right sendable,
            and_iff_right room]
        · rw [if_pos (not_lt.mp sent)]
          have failed : ¬ (Sendable world.cipher done.runtime.session done.job ∧
              Room (world.send k) done.runtime.listener.sock egress) := fun h => sent (staged.mpr h)
          constructor
          · rintro ⟨nonneg, -⟩
            dsimp only at nonneg
            split at nonneg <;> omega
          · rintro ⟨sendable, room, -⟩
            exact absurd ⟨sendable, room⟩ failed
      · rw [if_neg asks, if_neg asks]
        exact ih (k + 1) _ rest _ fewer

/-- The runner gets through its queue exactly if every reply on the way can be sent. -/
theorem drainJobsAndFlush_serves_iff (lawful : Lawful world.cipher)
    (flushed : ℕ → EgressData → Bool) (runtime : Runtime) (jobs : JobState)
    (egress : EgressState) :
    (0 ≤ (drainJobsAndFlush world flushed runtime jobs egress).rc ∧
      (drainJobsAndFlush world flushed runtime jobs egress).jobs.contents = []) ↔
    Serves world 0 runtime egress jobs.contents := by
  rw [← drainLoop_serves_iff world lawful jobs.count 0 runtime jobs egress
    (RingQueue.Ring.contents_length jobs).le]
  unfold drainJobsAndFlush
  dsimp only
  split
  · rfl
  · split <;> rfl

end Drain

def doorbell : Action := { openDoor with handler := .static }

def doorbellRuntime : Runtime :=
  { frontRuntime with config := some ⟨[alice], [doorbell], [frontServer], []⟩ }

def answering (text : CString) : World where
  cipher := boxCipher
  hash := plainHash
  handlers := { silentHandlers with runStatic := fun _ _ _ _ => (true, .set true text) }
  now := 1000
  random _ _ _ := plainEntropy
  send _ _ _ := true

def twoRings : JobState :=
  (DaemonTypes.stateInit.push doorRequest (by decide)).push doorRequest (by decide)

/-- Two answers of a few bytes are staged one after the other. -/
theorem shortAnswers_serve :
    Serves (answering (ascii ['d', 'i', 'n', 'g'])) 0 doorbellRuntime MuxEgress.stateInit
      twoRings.contents := by
  rw [← drainJobsAndFlush_serves_iff (answering (ascii ['d', 'i', 'n', 'g'])) boxCipher_lawful
    (fun _ _ => true) doorbellRuntime twoRings MuxEgress.stateInit]
  decide +kernel

/-- A handler that answers 300 bytes ends the daemon, with the second request still queued. -/
theorem longAnswer_ends_runner :
    ¬ ∀ (world : World) (flushed : ℕ → EgressData → Bool) (runtime : Runtime) (jobs : JobState)
        (egress : EgressState), Lawful world.cipher →
      (∀ job ∈ jobs.contents, job.wireVersion = 0 ∨ job.wireVersion ∈ registered) →
      0 ≤ (drainJobsAndFlush world flushed runtime jobs egress).rc ∧
        (drainJobsAndFlush world flushed runtime jobs egress).jobs.contents = [] := by
  intro served
  have ended := (served (answering (List.replicate 300 120)) (fun _ _ => true) doorbellRuntime
    twoRings MuxEgress.stateInit boxCipher_lawful (by decide +kernel)).1
  have rc : (drainJobsAndFlush (answering (List.replicate 300 120)) (fun _ _ => true)
    doorbellRuntime twoRings MuxEgress.stateInit).rc = -1 := by decide +kernel
  omega

end Siglatch.DaemonRunner
