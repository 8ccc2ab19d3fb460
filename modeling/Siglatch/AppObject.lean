import Siglatch.AppConfigLoad
import Siglatch.PipeChannel
import Siglatch.ProcessUser

set_option autoImplicit false

namespace Siglatch.AppObject
open MuxTypes AppConfig DaemonTypes DaemonPayload LibStr AppConfigLoad PipeChannel ProcessUser

structure ObjectContext where
  listener : Listener
  job : Job
  session : OpenSSLSession
  user : User
  action : Action

def buildContext (runtime : Runtime) (job : Job) (user : User) (action : Action) : ObjectContext :=
  ⟨runtime.listener, job, runtime.session, user, action⟩

def ActionReply.reset : ActionReply := ⟨false, false, false, [], AppBuiltin.nothing_fits⟩

/-- A handler is code of its own. It may fail to come back. -/
abbrev AppObjectHandlerFn := ObjectContext → Option (Bool × ActionReply)

section Static

/-- The objects that are linked in repeat the payload, under a name of their own. -/
def blurt (name : List Char) : AppObjectHandlerFn := fun ctx =>
  let payload := ctx.job.request.payload
  if payload.length = 0 then some (true, .set true (ascii (name ++ " (empty)".toList)))
  else if !isAscii payload then
    some (true, .set true (ascii (name ++ " payload skipped".toList)))
  else some (true, .set true (payload.take (APP_ACTION_REPLY_MESSAGE_MAX - 1)))

def testStaticHandle : AppObjectHandlerFn := blurt "TEST_STATIC".toList
def sampleBlurtStaticHandle : AppObjectHandlerFn := blurt "SAMPLE_STATIC_BLURT".toList

def lookupStatic (name : CString) : Option AppObjectHandlerFn :=
  if name = ascii "test_static".toList then some testStaticHandle
  else if name = ascii "sample_blurt_static".toList then some sampleBlurtStaticHandle
  else none

/-- The objects that a configuration may name are the ones that are found. -/
theorem supportsStatic_iff (name : CString) :
    supportsStatic name = true ↔ (lookupStatic name).isSome = true := by
  unfold supportsStatic lookupStatic
  simp only [Bool.or_eq_true, beq_iff_eq]
  by_cases test : name = ascii "test_static".toList
  · rw [if_pos test]
    exact iff_of_true (.inl test) rfl
  · rw [if_neg test]
    by_cases sample : name = ascii "sample_blurt_static".toList
    · rw [if_pos sample]
      exact iff_of_true (.inr sample) rfl
    · rw [if_neg sample]
      exact iff_of_false (fun either => either.elim test sample) (by decide)

end Static

section Child

def wording (head : List Char) (action : Action) (tail : List Char) : CString :=
  ascii head ++ action.name ++ ascii tail

def failed (action : Action) (why : List Char) : ActionReply :=
  .set false (wording "ERROR ".toList action (' ' :: why))

/-- The machine an object runs on: the accounts, the shared objects that can be loaded with the
symbols in them, and whether a pipe and a child can be had. -/
structure Machine extends Host where
  credentials : Credentials
  dlopen : CString → Option (CString → Option AppObjectHandlerFn)
  pipe : Bool
  fork : Bool

structure AppObjectChildResult where
  handlerOk : Bool
  reply : ActionReply

structure Ran where
  handler : Option AppObjectHandlerFn
  result : Option (Bool × ActionReply)

def runStaticChild (ctx : ObjectContext) : Ran :=
  match lookupStatic ctx.action.object with
  | none => ⟨none, some (false, failed ctx.action "object_not_found".toList)⟩
  | some handle => ⟨some handle, handle ctx⟩

def runDynamicChild (machine : Machine) (ctx : ObjectContext) : Ran :=
  match machine.dlopen ctx.action.objectPath with
  | none => ⟨none, some (false, failed ctx.action "object_load_failed".toList)⟩
  | some symbols =>
    match symbols ctx.action.object with
    | none => ⟨none, some (false, failed ctx.action "symbol_not_found".toList)⟩
    | some handler => ⟨some handler, handler ctx⟩

def answered (action : Action) (ok : Bool) (reply : ActionReply) : ActionReply :=
  if reply.shouldReply then reply
  else if ok then .set true (wording "OK ".toList action [])
  else failed action "object_failed".toList

/-- What a child has come to: who it became, the handler it called, and the record it has for its
parent. -/
structure Child where
  credentials : Credentials
  handler : Option AppObjectHandlerFn
  record : Option AppObjectChildResult

def child (machine : Machine) (ctx : ObjectContext) (isDynamic : Bool) : Child :=
  let (granted, credentials) := enter machine.toHost machine.credentials ctx.action.runAs
  if granted = false then
    ⟨credentials, none, some ⟨false, failed ctx.action "run_as_failed".toList⟩⟩
  else
    let ran := if isDynamic then runDynamicChild machine ctx else runStaticChild ctx
    ⟨credentials, ran.handler, ran.result.map fun (ok, reply) =>
      ⟨ok, answered ctx.action ok reply⟩⟩

end Child

section Record

def packInt (value : Bool) : Bytes := [value.toUInt8, 0, 0, 0]
def unpackInt (bytes : Bytes) : Bool := bytes.any (· ≠ 0)

def RECORD_SIZE : ℕ := 16 + APP_ACTION_REPLY_MESSAGE_MAX

def pack (result : AppObjectChildResult) : Bytes :=
  packInt result.handlerOk ++ (packInt result.reply.shouldReply ++ (packInt result.reply.ok ++
    (packInt result.reply.truncated ++ (result.reply.message ++
      List.replicate (APP_ACTION_REPLY_MESSAGE_MAX - result.reply.message.length) 0))))

/-- A message is what comes before the first NUL of its buffer. The last byte is one. -/
def seen (bytes : Bytes) : { message : CString // message.length < APP_ACTION_REPLY_MESSAGE_MAX } :=
  ⟨cString (bytes.take (APP_ACTION_REPLY_MESSAGE_MAX - 1)), by
    have short := (List.takeWhile_sublist (· ≠ 0)
      (l := bytes.take (APP_ACTION_REPLY_MESSAGE_MAX - 1))).length_le
    rw [List.length_take] at short
    unfold cString
    unfold APP_ACTION_REPLY_MESSAGE_MAX at short ⊢
    omega⟩

def unpack (bytes : Bytes) : AppObjectChildResult where
  handlerOk := unpackInt (bytes.take 4)
  reply :=
    { shouldReply := unpackInt ((bytes.drop 4).take 4)
      ok := unpackInt ((bytes.drop 8).take 4)
      truncated := unpackInt ((bytes.drop 12).take 4)
      message := (seen (bytes.drop 16)).1
      fits := (seen (bytes.drop 16)).2 }

theorem unpackInt_packInt (value : Bool) : unpackInt (packInt value) = value := by
  cases value with
  | false => decide
  | true => decide

theorem pack_length (result : AppObjectChildResult) : (pack result).length = RECORD_SIZE := by
  have fits := result.reply.fits
  simp only [pack, packInt, List.length_append, List.length_cons, List.length_nil,
    List.length_replicate, RECORD_SIZE]
  omega

/-- What is left of a reply on the other side: all of it, up to the end of its text. -/
def received (reply : ActionReply) : ActionReply where
  shouldReply := reply.shouldReply
  ok := reply.ok
  truncated := reply.truncated
  message := cString reply.message
  fits := lt_of_le_of_lt (List.takeWhile_sublist _).length_le reply.fits

theorem seen_padded {message : CString} (fits : message.length < APP_ACTION_REPLY_MESSAGE_MAX) :
    (seen (message ++ List.replicate (APP_ACTION_REPLY_MESSAGE_MAX - message.length) 0)).1 =
      cString message := by
  unfold seen cString
  dsimp only
  rw [List.take_append, List.take_of_length_le (by omega), List.take_replicate]
  rw [List.takeWhile_append]
  split
  · rename_i whole
    have none_ : ∀ n, (List.replicate n (0 : UInt8)).takeWhile (· ≠ 0) = [] := by
      intro n
      rw [List.takeWhile_replicate_eq_filter]
      exact List.filter_eq_nil_iff.mpr fun c member => by simp [List.eq_of_mem_replicate member]
    rw [none_, List.append_nil]
    exact ((List.takeWhile_sublist _).eq_of_length whole).symm
  · rfl

theorem unpack_pack (result : AppObjectChildResult) :
    unpack (pack result) = ⟨result.handlerOk, received result.reply⟩ := by
  have text := seen_padded result.reply.fits
  unfold unpack pack received
  simp only [packInt, List.cons_append, List.nil_append, List.take_succ_cons, List.take_zero,
    List.drop_succ_cons, List.drop_zero]
  have ints := unpackInt_packInt
  unfold packInt at ints
  simp only [ints, text]

end Record

section Forked

def PIPE_SIZE : ℕ := 65536

/-- The pipe of a fork after some calls of parent and child. A child that has not come back has
nothing to write, and its end of the pipe is closed for it. -/
def channel (machine : Machine) (ctx : ObjectContext) (isDynamic : Bool)
    (ops : List PipeChannel.Call) : Channel UInt8 :=
  calls PIPE_SIZE (some RECORD_SIZE)
    (start (some RECORD_SIZE) ((child machine ctx isDynamic).record.elim [] pack)) ops

/-- What the parent returns, once the calls have got it that far. -/
def runForked (machine : Machine) (ctx : ObjectContext) (isDynamic : Bool)
    (ops : List PipeChannel.Call) : Option (Bool × ActionReply) :=
  if machine.pipe = false then some (false, failed ctx.action "object_ipc_failed".toList)
  else if machine.fork = false then some (false, failed ctx.action "object_exec_failed".toList)
  else
    let c := channel machine ctx isDynamic ops
    c.outcome.map fun complete =>
      if complete then ((unpack c.got).handlerOk, (unpack c.got).reply)
      else (false, failed ctx.action "object_ipc_failed".toList)

def runStatic (machine : Machine) (ctx : ObjectContext) (ops : List PipeChannel.Call) :
    Option (Bool × ActionReply) :=
  runForked machine ctx false ops

def runDynamic (machine : Machine) (ctx : ObjectContext) (ops : List PipeChannel.Call) :
    Option (Bool × ActionReply) :=
  runForked machine ctx true ops

variable {machine : Machine} {ctx : ObjectContext} {isDynamic : Bool} {ops : List PipeChannel.Call}

def childAnswer (machine : Machine) (ctx : ObjectContext) (isDynamic : Bool) :
    Option (Bool × ActionReply) :=
  (child machine ctx isDynamic).record.map fun result =>
    (result.handlerOk, received result.reply)

theorem channel_sound : Sound ((child machine ctx isDynamic).record.elim [] pack)
    (some RECORD_SIZE) (channel machine ctx isDynamic ops) := sound_calls ops

def unpacked (got : Bytes) : Bool × ActionReply := ((unpack got).handlerOk, (unpack got).reply)

theorem channel_whole (done : (channel machine ctx isDynamic ops).outcome = some true) :
    childAnswer machine ctx isDynamic =
      some (unpacked (channel machine ctx isDynamic ops).got) := by
  have length := (channel_sound.full RECORD_SIZE rfl).mp done
  have taken := channel_sound.read_take done
  unfold childAnswer
  cases record : (child machine ctx isDynamic).record with
  | none =>
    rw [record, Option.elim_none, List.take_nil] at taken
    rw [taken] at length
    cases length
  | some result =>
    rw [record, Option.elim_some, List.take_of_length_le (pack_length result).le] at taken
    rw [taken]
    unfold unpacked
    rw [unpack_pack]
    rfl

theorem answered_replies (action : Action) (ok : Bool) (reply : ActionReply) :
    (answered action ok reply).shouldReply = true := by
  unfold answered
  split
  · assumption
  · split
    · rfl
    · rfl

theorem childAnswer_replies {ok : Bool} {reply : ActionReply}
    (answer : childAnswer machine ctx isDynamic = some (ok, reply)) : reply.shouldReply = true := by
  obtain ⟨result, record, same⟩ := Option.map_eq_some_iff.mp answer
  obtain ⟨-, rfl⟩ := Prod.mk.inj same
  unfold child at record
  dsimp only at record
  split at record
  · cases record
    rfl
  · obtain ⟨⟨handled, given⟩, -, rfl⟩ := Option.map_eq_some_iff.mp record
    exact answered_replies ctx.action handled given

/-- The ways in which an object gives no answer of its own. -/
def Unserved (action : Action) (result : Bool × ActionReply) : Prop :=
  result = (false, failed action "object_ipc_failed".toList) ∨
    result = (false, failed action "object_exec_failed".toList)

theorem runForked_told {result : Bool × ActionReply}
    (returned : runForked machine ctx isDynamic ops = some result) :
    childAnswer machine ctx isDynamic = some result ∨ Unserved ctx.action result := by
  unfold runForked at returned
  split at returned
  · exact .inr (.inl (Option.some.inj returned).symm)
  split at returned
  · exact .inr (.inr (Option.some.inj returned).symm)
  obtain ⟨complete, outcome, same⟩ := Option.map_eq_some_iff.mp returned
  split at same
  · rename_i whole
    rw [whole] at outcome
    rw [← same]
    exact .inl (channel_whole outcome)
  · exact .inr (.inl same.symm)

theorem runForked_replies {ok : Bool} {reply : ActionReply}
    (returned : runForked machine ctx isDynamic ops = some (ok, reply)) :
    reply.shouldReply = true := by
  rcases runForked_told returned with answer | unserved | unserved
  · exact childAnswer_replies answer
  · rw [(Prod.mk.inj unserved).2]
    rfl
  · rw [(Prod.mk.inj unserved).2]
    rfl

theorem channel_append (more : List PipeChannel.Call) :
    channel machine ctx isDynamic (ops ++ more) =
      calls PIPE_SIZE (some RECORD_SIZE) (channel machine ctx isDynamic ops) more :=
  calls_append ops more

theorem runForked_stays {result : Bool × ActionReply} (more : List PipeChannel.Call)
    (returned : runForked machine ctx isDynamic ops = some result) :
    runForked machine ctx isDynamic (ops ++ more) = some result := by
  unfold runForked at returned ⊢
  split at returned
  · rename_i broken
    rw [if_pos broken]
    exact returned
  rename_i piped
  rw [if_neg piped]
  split at returned
  · rename_i broken
    rw [if_pos broken]
    exact returned
  rename_i forked
  rw [if_neg forked]
  obtain ⟨complete, outcome, -⟩ := Option.map_eq_some_iff.mp returned
  have stays := @calls_through UInt8 PIPE_SIZE (some RECORD_SIZE)
    (channel machine ctx isDynamic ops) (by rw [outcome]; rfl) more
  dsimp only
  rw [channel_append, stays.1, stays.2]
  exact returned

theorem runForked_returns (ops : List PipeChannel.Call) : ∃ more, (∀ op ∈ more, Calm op) ∧
    (runForked machine ctx isDynamic (ops ++ more)).isSome = true := by
  obtain ⟨more, calm, through⟩ := @finishes UInt8 PIPE_SIZE _ _ _ (by decide)
    (@channel_sound machine ctx isDynamic ops)
  refine ⟨more, calm, ?_⟩
  unfold runForked
  split
  · rfl
  split
  · rfl
  dsimp only
  rw [channel_append, Option.isSome_map]
  exact through

def Moving (machine : Machine) (ctx : ObjectContext) (isDynamic : Bool)
    (ops : List PipeChannel.Call) : Prop :=
  ∀ before op after, ops = before ++ op :: after →
    call PIPE_SIZE (some RECORD_SIZE) (channel machine ctx isDynamic before) op ≠
      channel machine ctx isDynamic before

theorem moving_brief (moving : Moving machine ctx isDynamic ops) :
    ops.length ≤ 2 * RECORD_SIZE + 3 := by
  have bound := @left_calls UInt8 PIPE_SIZE (some RECORD_SIZE) _ ops moving
  have size : ((child machine ctx isDynamic).record.elim [] pack).length ≤ RECORD_SIZE := by
    cases (child machine ctx isDynamic).record with
    | none => exact Nat.zero_le _
    | some result => exact (pack_length result).le
  have other : ¬ some RECORD_SIZE = some 0 := by decide
  unfold start left at bound
  rw [if_neg other] at bound
  simp only [List.length_nil, Bool.toNat_true, if_true] at bound
  omega

/-- Where nobody is stopped, the parent has the child's answer. -/
theorem runForked_calm {result answer : Bool × ActionReply} (piped : machine.pipe = true)
    (forked : machine.fork = true) (answers : childAnswer machine ctx isDynamic = some answer)
    (calm : ∀ op ∈ ops, Calm op) (returned : runForked machine ctx isDynamic ops = some result) :
    result = answer := by
  obtain ⟨record, some_, -⟩ := Option.map_eq_some_iff.mp answers
  have whole : ∀ total, some RECORD_SIZE = some total →
      total ≤ ((child machine ctx isDynamic).record.elim [] pack).length := by
    rintro total same
    cases same
    rw [some_, Option.elim_some, pack_length]
  have fine := (@unharmed_calls UInt8 PIPE_SIZE (some RECORD_SIZE) _ whole ops calm).fine
  unfold runForked at returned
  rw [if_neg (by rw [piped]; decide), if_neg (by rw [forked]; decide)] at returned
  obtain ⟨complete, outcome, same⟩ := Option.map_eq_some_iff.mp returned
  cases complete with
  | false => exact absurd outcome fine
  | true =>
    have told := channel_whole outcome
    rw [answers] at told
    rw [if_pos rfl] at same
    rw [← same]
    exact (Option.some.inj told).symm

def found (machine : Machine) (ctx : ObjectContext) (isDynamic : Bool) :
    Option AppObjectHandlerFn :=
  if isDynamic then (machine.dlopen ctx.action.objectPath).bind fun symbols =>
    symbols ctx.action.object
  else lookupStatic ctx.action.object

theorem child_refused
    (refused : (enter machine.toHost machine.credentials ctx.action.runAs).1 = false) :
    (child machine ctx isDynamic).handler = none ∧
      childAnswer machine ctx isDynamic =
        some (false, received (failed ctx.action "run_as_failed".toList)) := by
  unfold childAnswer child
  dsimp only
  rw [if_pos refused]
  exact ⟨rfl, rfl⟩

theorem child_granted
    (granted : (enter machine.toHost machine.credentials ctx.action.runAs).1 = true) :
    (child machine ctx isDynamic).handler = found machine ctx isDynamic ∧
      ∀ handle, found machine ctx isDynamic = some handle → childAnswer machine ctx isDynamic =
        (handle ctx).map fun (ok, reply) => (ok, received (answered ctx.action ok reply)) := by
  have open_ : ¬ (enter machine.toHost machine.credentials ctx.action.runAs).1 = false := by
    rw [granted]
    decide
  unfold childAnswer child
  dsimp only
  rw [if_neg open_]
  dsimp only
  rw [Option.map_map]
  cases isDynamic with
  | true =>
    rw [if_pos rfl]
    unfold found runDynamicChild
    rw [if_pos rfl]
    cases machine.dlopen ctx.action.objectPath with
    | none => exact ⟨rfl, fun handle never => (by cases never)⟩
    | some symbols =>
      dsimp only [Option.bind_some]
      cases symbols ctx.action.object with
      | none => exact ⟨rfl, fun handle never => (by cases never)⟩
      | some handler =>
        refine ⟨rfl, fun handle same => ?_⟩
        cases same
        rfl
  | false =>
    rw [if_neg (by decide)]
    unfold found runStaticChild
    rw [if_neg (by decide)]
    cases lookupStatic ctx.action.object with
    | none => exact ⟨rfl, fun handle never => (by cases never)⟩
    | some handler =>
      refine ⟨rfl, fun handle same => ?_⟩
      cases same
      rfl

/-- What a daemon can rely on that hands a request to an object, in whatever order the calls of
parent and child come, however much each of them moves, and wherever one of the two is stopped. -/
structure Served (machine : Machine) (ctx : ObjectContext) (isDynamic : Bool) : Prop where
  refused : (enter machine.toHost machine.credentials ctx.action.runAs).1 = false →
    (child machine ctx isDynamic).handler = none ∧
      childAnswer machine ctx isDynamic =
        some (false, received (failed ctx.action "run_as_failed".toList))
  granted : (enter machine.toHost machine.credentials ctx.action.runAs).1 = true →
    (child machine ctx isDynamic).handler = found machine ctx isDynamic ∧
      ∀ handle, found machine ctx isDynamic = some handle → childAnswer machine ctx isDynamic =
        (handle ctx).map fun (ok, reply) => (ok, received (answered ctx.action ok reply))
  told : ∀ ops result, runForked machine ctx isDynamic ops = some result →
    childAnswer machine ctx isDynamic = some result ∨ Unserved ctx.action result
  replies : ∀ ops result, runForked machine ctx isDynamic ops = some result →
    result.2.shouldReply = true
  stays : ∀ ops more result, runForked machine ctx isDynamic ops = some result →
    runForked machine ctx isDynamic (ops ++ more) = some result
  returns : ∀ ops, ∃ more, (∀ op ∈ more, Calm op) ∧
    (runForked machine ctx isDynamic (ops ++ more)).isSome = true
  brief : ∀ ops, Moving machine ctx isDynamic ops → ops.length ≤ 2 * RECORD_SIZE + 3
  calm : machine.pipe = true → machine.fork = true →
    ∀ answer, childAnswer machine ctx isDynamic = some answer → ∀ ops, (∀ op ∈ ops, Calm op) →
    ∀ result, runForked machine ctx isDynamic ops = some result → result = answer

/-- An object's answer comes back whole or not at all, and the daemon always has one to send. -/
theorem object_served (machine : Machine) (ctx : ObjectContext) (isDynamic : Bool) :
    Served machine ctx isDynamic where
  refused := child_refused
  granted := child_granted
  told _ _ returned := runForked_told returned
  replies _ _ returned := runForked_replies returned
  stays _ more _ returned := runForked_stays more returned
  returns := runForked_returns
  brief _ moving := moving_brief moving
  calm piped forked _ answers _ calm _ returned :=
    runForked_calm piped forked answers calm returned

end Forked

end Siglatch.AppObject
