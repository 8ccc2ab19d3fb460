import Siglatch.DaemonAuth

set_option autoImplicit false

namespace Siglatch.DaemonPayload
open MuxTypes AppConfig KnockDigest DaemonTypes RequestPolicy DaemonAuth

def APP_ACTION_REPLY_MESSAGE_MAX : ℕ := 512
def MAX_ACTION_NAME : ℕ := 32

def STATUS_OK : UInt8 := 1
def STATUS_ERROR : UInt8 := 2
def FLAG_TRUNCATED : UInt8 := 1
def RESPONSE_PAYLOAD_HEADER_SIZE : ℕ := 3

/-- What a handler answers. The message fits its buffer together with the terminator. -/
structure ActionReply where
  shouldReply : Bool
  ok : Bool
  truncated : Bool
  message : CString
  fits : message.length < APP_ACTION_REPLY_MESSAGE_MAX

def ActionReply.set (ok : Bool) (text : CString) : ActionReply where
  shouldReply := true
  ok := ok
  truncated := decide (APP_ACTION_REPLY_MESSAGE_MAX ≤ text.length)
  message := text.take (APP_ACTION_REPLY_MESSAGE_MAX - 1)
  fits := by
    rw [List.length_take]
    exact lt_of_le_of_lt (Nat.min_le_left _ _) (by decide)

structure Captured where
  output : Bytes
  fits : output.length ≤ APP_JOB_RESPONSE_BLOCK_SIZE

/-- The code behind the actions. A builtin works on the daemon's own state; objects run in a
forked child and shell actions in a process of their own, so all they give back is an answer. -/
structure Handlers where
  builtin : Runtime → Job → User → Action → Bool × ActionReply × Runtime
  runStatic : Runtime → Job → User → Action → Bool × ActionReply
  runDynamic : Runtime → Job → User → Action → Bool × ActionReply
  runShellWait : Runtime → Job → User → Action → Option ℤ
  runShellCapture : Runtime → Job → Deaddrop → ℕ → Option Captured

def replyActionPrefix (config : Option Config) (actionId : UInt8) : Option CString :=
  if actionId = 0 then none
  else
    let number := ascii (toString actionId.toNat).toList
    match actionById config actionId.toUInt32 with
    | some action => if action.label ≠ [] then some (action.label.take 63) else some number
    | none => some number

def renderedMessage (config : Option Config) (job : Job) (reply : ActionReply) : CString :=
  let text := match replyActionPrefix config job.request.actionId with
    | some actionPrefix =>
      if reply.message ≠ [] then actionPrefix ++ ascii [':', ' '] ++ reply.message
      else actionPrefix
    | none => reply.message
  text.take (APP_ACTION_REPLY_MESSAGE_MAX + MAX_ACTION_NAME + 8 - 1)

/-- The response layout: status, the request's action id, flags, and the text that fits. -/
def buildSemanticReply (config : Option Config) (job : Job) (reply : ActionReply) : Bytes :=
  let rendered := renderedMessage config job reply
  let status := if reply.ok then STATUS_OK else STATUS_ERROR
  let cut := decide (APP_ACTION_REPLY_MESSAGE_MAX < rendered.length)
  let flags := if cut || reply.truncated then FLAG_TRUNCATED else 0
  status :: job.request.actionId :: flags :: rendered.take APP_ACTION_REPLY_MESSAGE_MAX

def stageReply (config : Option Config) (job : Job) (reply : ActionReply) : Job :=
  if !reply.shouldReply then { job with response := [], shouldReply := false }
  else { job with response := buildSemanticReply config job reply, shouldReply := true }

structure Dispatched where
  ok : Bool
  runtime : Runtime
  job : Job

/-- A builtin may have replaced the configuration or used the session, so the user is looked up
again before a reply is staged. -/
def dispatchBuiltin (handlers : Handlers) (runtime : Runtime) (job : Job) (user : User)
    (action : Action) : Dispatched :=
  let (ok, reply, runtime) := handlers.builtin runtime job user action
  if reply.shouldReply then
    match userById runtime.config job.request.userId.toUInt32 with
    | none => ⟨false, runtime, job⟩
    | some replyUser =>
      let session := assignSessionToUser runtime.session replyUser
      ⟨ok, { runtime with session := session }, stageReply runtime.config job reply⟩
  else ⟨ok, runtime, stageReply runtime.config job reply⟩

def dispatchShell (handlers : Handlers) (runtime : Runtime) (job : Job) (user : User)
    (action : Action) : Dispatched :=
  let answer (ok : Bool) (head tail : List Char) : Dispatched :=
    ⟨ok, runtime,
      stageReply runtime.config job (.set ok (ascii head ++ action.name ++ ascii tail))⟩
  if action.constructor = [] then ⟨false, runtime, job⟩
  else
    match handlers.runShellWait runtime job user action with
    | none => answer false "ERROR ".toList " exec_failed".toList
    | some exitCode =>
      if exitCode = 0 then answer true "OK ".toList []
      else if exitCode = 126 ∧ action.runAs ≠ [] then
        answer false "ERROR ".toList " run_as_failed".toList
      else answer false "ERROR ".toList (" rc=" ++ toString exitCode).toList

def dispatchAction (handlers : Handlers) (runtime : Runtime) (job : Job) (user : User)
    (action : Action) : Dispatched :=
  if runtime.listener.server = none then ⟨false, runtime, job⟩
  else if action.handler = .builtin ∧ action.builtin ≠ [] then
    dispatchBuiltin handlers runtime job user action
  else if action.handler = .static ∨ action.handler = .dynamic then
    let (ok, reply) := if action.handler = .static then handlers.runStatic runtime job user action
      else handlers.runDynamic runtime job user action
    ⟨ok, runtime, stageReply runtime.config job reply⟩
  else dispatchShell handlers runtime job user action

def isAscii (buf : Bytes) : Bool :=
  buf.all fun c => c = 10 || c = 13 || c = 9 || (32 ≤ c && c ≤ 126)

def unstructuredHandle (handlers : Handlers) (runtime : Runtime) (job : Job) : Job :=
  match runtime.listener.server with
  | none => job
  | some server =>
    match deaddropStartsWithBuffer runtime.config server job.request.payload with
    | none => job
    | some (deaddrop, matchLen) =>
      if deaddrop.requireAscii && !isAscii job.request.payload then job
      else
        match handlers.runShellCapture runtime job deaddrop matchLen with
        | none => { job with response := [], shouldReply := false }
        | some captured =>
          { job with response := captured.output, shouldReply := captured.output != [] }

/-- What `consume` leaves behind, and the call of `dispatch_action` it made, if any. -/
structure Consumed where
  ok : Bool
  runtime : Runtime
  job : Job
  dispatched : Option (User × Action)

def consume (hash : Hash) (handlers : Handlers) (runtime : Runtime) (job : Job) : Consumed :=
  if runtime.listener.server = none then ⟨false, runtime, job, none⟩
  else if job.wireVersion = 0 then
    ⟨true, runtime, unstructuredHandle handlers runtime job, none⟩
  else
    match bindUserAction runtime.config runtime.listener job runtime.session with
    | (session, none) => ⟨false, { runtime with session := session }, job, none⟩
    | (session, some (user, action)) =>
      let authorized := authorize hash runtime.config session job
      let runtime := { runtime with session := authorized.session }
      if !authorized.ok then ⟨false, runtime, authorized.job, none⟩
      else if !enforce runtime.config runtime.listener authorized.job user action then
        ⟨false, runtime, authorized.job, none⟩
      else
        let done := dispatchAction handlers runtime authorized.job user action
        ⟨done.ok, done.runtime, done.job, some (user, action)⟩

/-- What has to hold before a request may start an action. The session does not occur in it. -/
structure Gate (hash : Hash) (config : Option Config) (listener : Listener) (job : Job)
    (server : Server) (user : User) (action : Action) : Prop where
  listening : listener.server = some server
  user_known : userById config job.request.userId.toUInt32 = some user
  action_known : actionById config job.request.actionId.toUInt32 = some action
  signed : SignedBy hash user.hmacKey job
  server_offers : action.name ∈ server.actions
  user_may : action.name ∈ user.actions
  action_enabled : action.enabled = true
  server_admits : Admits server.allowedIps job.ip
  user_admits : Admits user.allowedIps job.ip
  action_admits : Admits action.allowedIps job.ip

theorem Gate.parts_iff {hash : Hash} {config : Option Config} {listener : Listener} {job : Job}
    {server : Server} {user : User} {action : Action} :
    (listener.server = some server ∧
      userById config job.request.userId.toUInt32 = some user ∧
      actionById config job.request.actionId.toUInt32 = some action ∧
      SignedBy hash user.hmacKey job ∧ server.actionAvailable action.name = true ∧
      actionAvailableByUser config job.request.userId.toUInt32 action.name = true ∧
      action.enabled = true ∧ Admits server.allowedIps job.ip ∧ Admits user.allowedIps job.ip ∧
      Admits action.allowedIps job.ip) ↔ Gate hash config listener job server user action := by
  rw [Server.actionAvailable_iff]
  constructor
  · rintro ⟨listening, known, found, signed, offers, may, enabled, byServer, byUser, byAction⟩
    exact ⟨listening, known, found, signed, offers,
      (actionAvailableByUser_iff known action.name).mp may, enabled, byServer, byUser, byAction⟩
  · intro gate
    exact ⟨gate.listening, gate.user_known, gate.action_known, gate.signed, gate.server_offers,
      (actionAvailableByUser_iff gate.user_known action.name).mpr gate.user_may,
        gate.action_enabled,
      gate.server_admits, gate.user_admits, gate.action_admits⟩

instance (hash : Hash) (config : Option Config) (listener : Listener) (job : Job)
    (server : Server) (user : User) (action : Action) :
    Decidable (Gate hash config listener job server user action) :=
  decidable_of_iff _ Gate.parts_iff

variable (hash : Hash) (handlers : Handlers) (runtime : Runtime) {job : Job}

theorem consume_dispatched_iff (structured : job.wireVersion ≠ 0) (user : User) (action : Action) :
    (consume hash handlers runtime job).dispatched = some (user, action) ↔
      ∃ server, Gate hash runtime.config runtime.listener job server user action := by
  have binds := bindUserAction_some runtime.config runtime.listener job runtime.session
  unfold consume
  by_cases listening : runtime.listener.server = none
  · simp only [listening, if_true, reduceCtorEq, false_iff, not_exists]
    intro server gate
    rw [gate.listening] at listening
    contradiction
  · simp only [listening, structured, if_false]
    generalize bindUserAction runtime.config runtime.listener job runtime.session = bound at binds
    obtain ⟨session, found⟩ := bound
    cases found with
    | none =>
      simp only [reduceCtorEq, false_iff, not_exists]
      intro server gate
      have := (binds user action).mpr ⟨listening, gate.user_known, gate.action_known⟩
      contradiction
    | some pair =>
      obtain ⟨boundUser, boundAction⟩ := pair
      obtain ⟨-, known, actionKnown⟩ := (binds boundUser boundAction).mp rfl
      obtain ⟨signature, jobAfter⟩ := authorize_structured hash runtime.config session
        structured known
      dsimp only
      generalize authorize hash runtime.config session job = authorized at signature jobAfter
      cases passed : authorized.ok with
      | false =>
        simp only [Bool.not_false, if_true, reduceCtorEq, false_iff, not_exists]
        intro server gate
        obtain rfl : user = boundUser := Option.some.inj (gate.user_known.symm.trans known)
        rw [signature.mpr gate.signed] at passed
        contradiction
      | true =>
        have signed := signature.mp passed
        have wireAuth : authorized.job.wireAuth = true := by rw [jobAfter passed]
        have sameUser : userById runtime.config authorized.job.request.userId.toUInt32 =
          some boundUser := by rw [jobAfter passed]; exact known
        have policy := enforce_iff runtime.config runtime.listener boundAction sameUser wireAuth
        have sameIp : authorized.job.ip = job.ip := by rw [jobAfter passed]
        rw [sameIp] at policy
        simp only [Bool.not_true, Bool.false_eq_true, if_false]
        by_cases allowed : enforce runtime.config runtime.listener authorized.job boundUser
            boundAction = true
        · obtain ⟨server, serving, offers, may, enabled, byServer, byUser, byAction⟩ :=
            policy.mp allowed
          simp only [allowed, Bool.not_true, Bool.false_eq_true, if_false, Option.some.injEq,
            Prod.mk.injEq]
          constructor
          · rintro ⟨rfl, rfl⟩
            exact ⟨server, serving, known, actionKnown, signed, offers, may, enabled, byServer,
              byUser, byAction⟩
          · rintro ⟨_, gate⟩
            exact ⟨Option.some.inj (known.symm.trans gate.user_known),
              Option.some.inj (actionKnown.symm.trans gate.action_known)⟩
        · simp only [allowed, Bool.not_false, if_true, reduceCtorEq, false_iff, not_exists]
          intro server gate
          obtain rfl : user = boundUser := Option.some.inj (gate.user_known.symm.trans known)
          obtain rfl : action = boundAction :=
            Option.some.inj (gate.action_known.symm.trans actionKnown)
          exact allowed (policy.mpr ⟨server, gate.listening, gate.server_offers, gate.user_may,
            gate.action_enabled, gate.server_admits, gate.user_admits, gate.action_admits⟩)

/-- Only a structured request is handed to an action, and only through the gate. -/
theorem consume_gate_iff (user : User) (action : Action) :
    (consume hash handlers runtime job).dispatched = some (user, action) ↔
      job.wireVersion ≠ 0 ∧
        ∃ server, Gate hash runtime.config runtime.listener job server user action := by
  by_cases raw : job.wireVersion = 0
  · refine iff_of_false (fun dispatched => ?_) fun gate => gate.1 raw
    unfold consume at dispatched
    split at dispatched
    · cases dispatched
    · cases dispatched
  · rw [and_iff_right raw]
    exact consume_dispatched_iff hash handlers runtime raw user action

theorem session_not_consulted (session : OpenSSLSession) (structured : job.wireVersion ≠ 0) :
    (consume hash handlers { runtime with session := session } job).dispatched =
      (consume hash handlers runtime job).dispatched := by
  apply Option.ext
  rintro ⟨user, action⟩
  rw [consume_dispatched_iff hash handlers _ structured,
    consume_dispatched_iff hash handlers _ structured]

/-- A structured request reaches its action exactly through the gate, whatever keys the requests
before it have left in the session. -/
theorem consume_reaches_dispatch_iff (structured : job.wireVersion ≠ 0) :
    ((consume hash handlers runtime job).dispatched.isSome = true ↔
      ∃ server user action, Gate hash runtime.config runtime.listener job server user action) ∧
    ∀ session, (consume hash handlers { runtime with session := session } job).dispatched =
      (consume hash handlers runtime job).dispatched := by
  refine ⟨?_, fun session => session_not_consulted hash handlers runtime session structured⟩
  rw [Option.isSome_iff_exists]
  constructor
  · rintro ⟨⟨user, action⟩, reached⟩
    obtain ⟨server, gate⟩ := (consume_dispatched_iff hash handlers runtime structured user
      action).mp reached
    exact ⟨server, user, action, gate⟩
  · rintro ⟨server, user, action, gate⟩
    exact ⟨(user, action), (consume_dispatched_iff hash handlers runtime structured user
      action).mpr ⟨server, gate⟩⟩

def plainHash : Hash := ⟨id, fun key message => key ++ message⟩

def silentHandlers : Handlers where
  builtin runtime _ _ _ := (true, ⟨false, true, false, [], by decide⟩, runtime)
  runStatic _ _ _ _ := (true, ⟨false, true, false, [], by decide⟩)
  runDynamic _ _ _ _ := (true, ⟨false, true, false, [], by decide⟩)
  runShellWait _ _ _ _ := some 0
  runShellCapture _ _ _ _ := none

def openDoor : Action where
  id := 7
  name := ascii ['o', 'p', 'e', 'n']
  label := []
  handler := .shell
  builtin := []
  constructor := ascii ['/', 'o', 'p', 'e', 'n']
  runAs := []
  enabled := true
  execSplit := true
  enforceWireAuth := true
  allowedIps := []

def alice : User where
  id := 3
  name := ascii ['a', 'l', 'i', 'c', 'e']
  enabled := true
  actions := [openDoor.name]
  allowedIps := [ascii ['1', '0', '.', '0', '.', '0', '.', '0', '/', '8']]
  pubkey := none
  hmacKey := List.replicate 32 1

def frontServer : Server where
  name := ascii ['f', 'r', 'o', 'n', 't']
  enabled := true
  bindIp := []
  port := 50000
  allowedIps := []
  secure := false
  enforceWireDecode := false
  enforceWireAuth := false
  privKey := none
  deaddrops := []
  actions := [openDoor.name]

def frontRuntime : Runtime where
  config := some ⟨[alice], [openDoor], [frontServer], []⟩
  listener := ⟨3, 50000, [], some frontServer⟩
  session := OpenSSLSession.zero
  codecContext := KnockContext.create

def doorRequest : Job :=
  let job : Job := { Job.zero with
    available := true, wireVersion := V1_VERSION, timestamp := 1000
    ip := ascii ['1', '0', '.', '1', '.', '2', '.', '3'], clientPort := 4242
    request := ⟨3, 7, 99, [], [1, 2, 3]⟩ }
  { job with request := { job.request with
      hmac := sign plainHash alice.hmacKey ((signedMessage job).getD []) } }

theorem doorRequest_reaches_dispatch :
    (consume plainHash silentHandlers frontRuntime doorRequest).dispatched.isSome = true ∧
    ∃ server user action,
      Gate plainHash frontRuntime.config frontRuntime.listener doorRequest server user action := by
  have reached : (consume plainHash silentHandlers frontRuntime doorRequest).dispatched.isSome =
    true := by decide +kernel
  exact ⟨reached, (consume_reaches_dispatch_iff plainHash silentHandlers frontRuntime
    (by decide)).1.mp reached⟩

end Siglatch.DaemonPayload
