import Siglatch.AppConfigLoad
import Siglatch.DaemonReplies
import Siglatch.KnockSignature

set_option autoImplicit false

namespace Siglatch.DaemonReflection
open MuxTypes AppConfig KnockContext KnockDigest DaemonTypes RequestPolicy DaemonAuth DaemonPayload
open DaemonRunner KnockCodec KnockEncode MuxAdapter MuxNormalize MuxEncryption MuxFreshness
  KnockPacked
open MuxRoundTrip KnockSignature DaemonLoop DaemonReplies AppConfigLoad StepRuns

structure Accepted where
  files : Files
  path : CString
  config : Config
  loads : loadDetached files path = some config

/-- The way of a reply back into a job: the daemon encodes it, a peer decodes it, and the packet
is loaded as if the mux had handed it on. -/
def reflect (peer : CodecEnv) (random : Entropy) (received : Ingress) (control : Control)
    (env : CodecEnv) (answered : Job) : Option Job := do
  let packet ← copyJobReplyToSend answered
  let adapter ← lookupAdapterWireVersion packet.wireVersion
  let egress ← adapter.encode env random packet
  let raw := { received with buffer := egress.egressBuffer }
  let identity ← adapter.detect peer raw
  let decoded ← (adapter.decode peer (configureIngressIdentity raw identity) control).1
  loadFromNormal (handedOn raw identity decoded)

/-- A reply comes back as a job by way of a peer that holds the keys. Codecs 1 and 2 read nothing
that is out of the window of time. -/
structure Reflected (env : CodecEnv) (answered : Job) (peer : CodecEnv) (back : Job) : Prop where
  lawful : Lawful env.cipher
  keys : Peer env peer
  hashes : ∀ key message, (env.hash.hmac key message).length = HMAC_SIZE
  own : answered.request.hmac.length = HMAC_SIZE
  window : answered.wireVersion = V1_VERSION ∨ answered.wireVersion = V2_WIRE_VERSION →
    Fresh peer.now answered.timestamp
  returns : ∃ random received control, reflect peer random received control env answered = some back

/-- The gate is open to a user and an address for the action that has the id of replies. -/
structure OpenToReplies (config : Option Config) (listener : Listener) (userId : UInt32)
    (ip : CString) (server : Server) (user : User) (action : Action) : Prop where
  listening : listener.server = some server
  user_known : userById config userId = some user
  action_known : actionById config KNOCK_RESPONSE_ACTION_ID.toUInt32 = some action
  server_offers : action.name ∈ server.actions
  user_may : action.name ∈ user.actions
  action_enabled : action.enabled = true
  server_admits : Admits server.allowedIps ip
  user_admits : Admits user.allowedIps ip
  action_admits : Admits action.allowedIps ip

section Answered

variable {hash : Hash} {handlers : Handlers} {runtime : Runtime} {job : Job} {user : User}
  {action : Action}

theorem stageReply_wireAuth (config : Option Config) (job : Job) (reply : ActionReply) :
    (stageReply config job reply).wireAuth = job.wireAuth := by
  unfold stageReply
  split
  · rfl
  · rfl

theorem dispatchBuiltin_wireAuth :
    (dispatchBuiltin handlers runtime job user action).job.wireAuth = job.wireAuth := by
  unfold dispatchBuiltin
  dsimp only
  split
  · split
    · rfl
    · exact stageReply_wireAuth _ _ _
  · exact stageReply_wireAuth _ _ _

theorem dispatchShell_wireAuth :
    (dispatchShell handlers runtime job user action).job.wireAuth = job.wireAuth := by
  unfold dispatchShell
  dsimp only
  split
  · rfl
  split
  · exact stageReply_wireAuth _ _ _
  split
  · exact stageReply_wireAuth _ _ _
  split
  · exact stageReply_wireAuth _ _ _
  · exact stageReply_wireAuth _ _ _

theorem dispatchAction_wireAuth :
    (dispatchAction handlers runtime job user action).job.wireAuth = job.wireAuth := by
  unfold dispatchAction
  dsimp only
  split
  · rfl
  split
  · exact dispatchBuiltin_wireAuth
  split
  · exact stageReply_wireAuth _ _ _
  · exact dispatchShell_wireAuth

theorem authorize_wireAuth {config : Option Config} {session : OpenSSLSession}
    (ok : (authorize hash config session job).ok = true) :
    (authorize hash config session job).job.wireAuth = true := by
  revert ok
  unfold authorize
  dsimp only
  split
  · exact fun _ => rfl
  split
  · intro refused
    cases refused
  · split
    · intro refused
      cases refused
    · exact fun _ => rfl

/-- A structured job that is answered has been authorized. -/
theorem consume_wireAuth (structured : job.wireVersion ≠ 0) (silent : Silent job) :
    asksReply (consume hash handlers runtime job).job = true →
      (consume hash handlers runtime job).job.wireAuth = true := by
  have quiet {other : Job} (same : Silent other) (asks : asksReply other = true) :
      other.wireAuth = true := by
    rw [asksReply_silent same] at asks
    cases asks
  unfold consume
  dsimp only
  split
  · exact quiet silent
  cases bindUserAction runtime.config runtime.listener job runtime.session with
  | mk session found =>
    cases found with
    | none => exact quiet silent
    | some pair =>
      have still := (@authorize_job hash job runtime.config session silent).1
      dsimp only
      split
      · exact quiet still
      rename_i passed
      split
      · exact quiet still
      · intro _
        dsimp only
        rw [dispatchAction_wireAuth]
        apply authorize_wireAuth
        simpa only [Bool.not_eq_true', Bool.not_eq_false] using passed

end Answered

section Reflected

variable {env peer : CodecEnv} {answered back : Job}

theorem reflected_signed (reflected : Reflected env answered peer back)
    (authenticated : answered.wireAuth = true) {session : OpenSSLSession}
    (installed : env.session = some session) :
    back.wireVersion ≠ 0 ∧ back.request.userId = answered.request.userId ∧
      back.request.actionId = KNOCK_RESPONSE_ACTION_ID ∧
        SignedBy env.hash session.hmacKey back := by
  obtain ⟨random, received, control, returns⟩ := reflected.returns
  simp only [reflect, Option.bind_eq_bind, Option.bind_eq_some_iff] at returns
  obtain ⟨packet, copied, adapter, found, egress, encoded, identity, detected, p, decoded,
    queued⟩ := returns
  obtain ⟨member, version⟩ := lookupAdapterWireVersion_some found
  unfold copyJobReplyToSend at copied
  split at copied
  · cases copied
  rename_i short
  obtain rfl := Option.some.inj copied
  change adapter.wireVersion = answered.wireVersion at version
  have exchange : Exchange adapter env peer _ ⟨answered.request.userId, KNOCK_RESPONSE_ACTION_ID,
      answered.request.challenge, answered.request.hmac, answered.response⟩
      { received with buffer := egress.egressBuffer } :=
    ⟨reflected.lawful, reflected.keys, reflected.hashes, rfl, Nat.not_lt.mp short, reflected.own,
      ⟨random, egress, encoded, rfl⟩, fun packed => reflected.window (version ▸ packed)⟩
  have pair := @Prod.ext _ _ (adapter.decode _ _ control) (some p, _) decoded rfl
  have carries := decoded_carries member exchange detected pair
  obtain ⟨same, -⟩ := carried_job member carries queued
  have structured : back.wireVersion ≠ 0 := by
    rw [same.version]
    exact adapters_structured adapter member
  have accepted := @signature_accepted _ _ _ _ _ _ _ _ member exchange authenticated _ _ _ detected
    pair queued session session installed rfl
  exact ⟨structured, same.userId, same.actionId,
    (validateSignature_iff env.hash session structured).mp accepted⟩

/-- A signed request for the action of replies meets the gate without its signature. -/
theorem gate_iff {hash : Hash} {config : Option Config} {listener : Listener} {userId : UInt16}
    {owner user : User} (same : back.request.userId = userId)
    (asks : back.request.actionId = KNOCK_RESPONSE_ACTION_ID)
    (known : userById config userId.toUInt32 = some owner)
    (signed : SignedBy hash owner.hmacKey back) (server : Server) (action : Action) :
    Gate hash config listener back server user action ↔
      OpenToReplies config listener userId.toUInt32 back.ip server user action := by
  constructor
  · intro gate
    exact ⟨gate.listening, same ▸ gate.user_known, asks ▸ gate.action_known, gate.server_offers,
      gate.user_may, gate.action_enabled, gate.server_admits, gate.user_admits, gate.action_admits⟩
  · intro open_
    obtain rfl := Option.some.inj (known.symm.trans open_.user_known)
    exact ⟨open_.listening, same ▸ open_.user_known, asks ▸ open_.action_known, signed,
      open_.server_offers, open_.user_may, open_.action_enabled, open_.server_admits,
      open_.user_admits, open_.action_admits⟩

end Reflected

section Runs

variable {opensslReady : Bool} {config : Option Config} {listener : Listener}
  {context : CodecContext} {loop : Loop} {record : Processed} {env : CodecEnv} {answered : Job}

theorem reply_authenticated (started : start opensslReady config listener context = some loop)
    (inputs : List Turn)
    (member : .processed record ∈ (run DaemonLoop.step (some loop) inputs).2)
    (reply : record.reply = some (env, answered)) (structured : answered.wireVersion ≠ 0) :
    answered.wireAuth = true ∧
      ∃ session, env.session = some session ∧
        Keyed record.done.runtime.config session answered := by
  obtain ⟨silent, world, same⟩ := run_unanswered started inputs _ member
  refine ⟨?_, replies_keyed started inputs _ member env answered reply structured⟩
  rw [same] at reply
  unfold process at reply
  dsimp only at reply
  split at reply
  · rename_i asks
    obtain ⟨-, rfl⟩ := Prod.mk.inj (Option.some.inj reply)
    exact consume_wireAuth (fun raw => structured (consume_raw raw)) silent asks
  · cases reply

/-- With a configuration of the loader in force, the reply to a request does not start an action
when it comes back exactly if its user may not start one with the id of replies. -/
theorem reply_refused_iff (accepted : Accepted)
    (started : start opensslReady config listener context = some loop) (inputs : List Turn)
    (member : .processed record ∈ (run DaemonLoop.step (some loop) inputs).2)
    (reply : record.reply = some (env, answered)) (structured : answered.wireVersion ≠ 0)
    (current : record.done.runtime.config = some accepted.config) {peer : CodecEnv} {back : Job}
    (reflected : Reflected env answered peer back) (handlers : Handlers) (runtime : Runtime)
    (inForce : runtime.config = some accepted.config) :
    (consume env.hash handlers runtime back).dispatched = none ↔
      ¬ ∃ server user action, OpenToReplies (some accepted.config) runtime.listener
        answered.request.userId.toUInt32 back.ip server user action := by
  obtain ⟨authenticated, session, installed, user, known, -, keyed, -⟩ :=
    reply_authenticated started inputs member reply structured
  obtain ⟨formed, same, asks, signed⟩ := reflected_signed reflected authenticated installed
  rw [current] at known
  rw [keyed] at signed
  rw [← Option.not_isSome_iff_eq_none,
    (consume_reaches_dispatch_iff env.hash handlers runtime formed).1, inForce]
  simp only [gate_iff same asks known signed]

/-- A file in which every action section states a number other than 0 is safe. -/
theorem stated_closed (accepted : Accepted) : ∃ document,
    accepted.files.readIni accepted.path = some document ∧
    ((∀ found ∈ (document.sections.filter isAction).take MAX_ACTIONS, statedId found ≠ 0) →
      ∀ listener userId ip server user action,
        ¬ OpenToReplies (some accepted.config) listener userId ip server user action) := by
  obtain ⟨document, parsed, stated⟩ := loaded_actionById accepted.loads
    KNOCK_RESPONSE_ACTION_ID.toUInt32
  refine ⟨document, parsed, ?_⟩
  intro numbered listener userId ip server user action open_
  have found := open_.action_known
  obtain ⟨section_, member, zero⟩ := stated.mp (Option.isSome_iff_exists.mpr ⟨action, found⟩)
  exact numbered section_ member zero

end Runs

section Samples

def entry (key value : String) : IniEntry := ⟨ascii key.toList, ascii value.toList⟩

def spareDocument : IniDocument where
  globals := []
  sections :=
    [⟨ascii "user:alice".toList, [entry "enabled" "yes", entry "id" "3", entry "key_file" "/pem",
        entry "hmac_file" "/hmac", entry "actions" "bell, spare"]⟩,
      ⟨ascii "action:bell".toList, [entry "id" "7", entry "handler" "static",
        entry "object" "test_static"]⟩,
      ⟨ascii "action:spare".toList, [entry "constructor" "/bin/spare"]⟩,
      ⟨ascii "server:front".toList, [entry "enabled" "yes", entry "actions" "bell, spare"]⟩]

def spareFiles : Files where
  readIni _ := some spareDocument
  privateKey _ := some 1
  rsaPublicKey _ := some 5
  hmacFile _ := some (List.replicate 32 1)
  supportsDynamic _ _ := false

theorem spare_loads : (loadDetached spareFiles (ascii "conf".toList)).isSome = true := by
  decide +kernel

def spareAccepted : Accepted where
  files := spareFiles
  path := ascii "conf".toList
  config := (loadDetached spareFiles (ascii "conf".toList)).get spare_loads
  loads := (Option.some_get spare_loads).symm

def spareListener : Listener :=
  ⟨3, 50000, [], serverByName (some spareAccepted.config) (ascii "front".toList)⟩

theorem spare_starts : (start true (some spareAccepted.config) spareListener
    KnockContext.create).isSome = true := by decide +kernel

def spareLoop : Loop :=
  (start true (some spareAccepted.config) spareListener KnockContext.create).get spare_starts

theorem spare_config : spareLoop.runtime.config = some spareAccepted.config := by decide +kernel

def bystander : Ingress := { Ingress.zero with ip := aliceKnock.ip, clientPort := 9 }

def startsSpare (record : Processed) : Bool :=
  match record.reply with
  | none => false
  | some (env, answered) =>
    answered.wireVersion != 0 && answered.timestamp == 1000 &&
    answered.request.hmac.length == HMAC_SIZE &&
    decide (record.done.runtime.config = some spareAccepted.config) &&
    (reflect (samplePeer false) plainEntropy bystander ⟨false⟩ env answered).any fun back =>
      (consume paddedHash silentHandlers spareLoop.runtime back).dispatched.isSome

theorem spare_started : (run DaemonLoop.step (some spareLoop) [knockTurn 1]).2.any (fun
    | .processed record => startsSpare record
    | _ => false) = true := by decide +kernel

theorem box_peer {env : CodecEnv} (boxed : env.cipher = boxCipher) :
    Peer env (samplePeer false) := by
  have opens (padding message out : Bytes)
      (wrapped : sessionEncrypt env padding message = some out) :
      boxCipher.decrypt 5 out = some message := by
    simp only [sessionEncrypt, Option.bind_eq_bind, Option.bind_eq_some_iff] at wrapped
    obtain ⟨session, -, key, -, encrypted⟩ := wrapped
    rw [boxed] at encrypted
    exact boxCipher_opens key 5 padding message out encrypted
  exact ⟨boxed.symm, opens, opens⟩

theorem spare_reflected : ∃ record env answered back,
    .processed record ∈ (run DaemonLoop.step (some spareLoop) [knockTurn 1]).2 ∧
    record.reply = some (env, answered) ∧ answered.wireVersion ≠ 0 ∧
    record.done.runtime.config = some spareAccepted.config ∧
    Reflected env answered (samplePeer false) back ∧ env.hash = paddedHash ∧
    (consume paddedHash silentHandlers spareLoop.runtime back).dispatched.isSome = true := by
  obtain ⟨event, member, starts⟩ := List.any_eq_true.mp spare_started
  cases event with
  | pumped runtime mux => cases starts
  | drained normal => cases starts
  | processed record =>
    have there : .processed record ∈ (turn spareLoop (knockTurn 1)).2 := by
      have only : (run DaemonLoop.step (some spareLoop) [knockTurn 1]).2 =
        (turn spareLoop (knockTurn 1)).2 ++ [] := rfl
      rw [← List.append_nil (turn spareLoop (knockTurn 1)).2, ← only]
      exact member
    have made := turn_records there
    change startsSpare record = true at starts
    unfold startsSpare at starts
    cases reply : record.reply with
    | none =>
      rw [reply] at starts
      cases starts
    | some pair =>
      obtain ⟨env, answered⟩ := pair
      rw [reply] at starts
      simp only [Bool.and_eq_true, bne_iff_ne, beq_iff_eq, decide_eq_true_eq, Option.any_eq_true]
        at starts
      obtain ⟨⟨⟨⟨structured, dated⟩, own⟩, current⟩, back, returns, dispatched⟩ := starts
      have around : env = doorWorld.codecEnv record.done.runtime := by
        rw [made] at reply ⊢
        unfold process at reply ⊢
        dsimp only at reply ⊢
        split at reply
        · exact (Prod.mk.inj (Option.some.inj reply)).1.symm
        · cases reply
      refine ⟨record, env, answered, back, member, reply, structured, current, ?_, ?_, dispatched⟩
      · subst around
        refine ⟨boxCipher_lawful, box_peer rfl, paddedHash_length, own, fun _ => ?_,
          plainEntropy, bystander, ⟨false⟩, returns⟩
        rw [dated]
        change (1000 - 300 : ℤ) ≤ 1000 ∧ (1000 : ℤ) ≤ 1000 + 300
        decide
      · rw [around]
        rfl

/-- The spare action is open to the answer that alice is given. -/
theorem spare_open : ∃ userId ip server user action, OpenToReplies (some spareAccepted.config)
    spareLoop.runtime.listener userId ip server user action := by
  obtain ⟨record, env, answered, back, member, reply, structured, current, reflected, hashed,
    dispatched⟩ := spare_reflected
  have refused := reply_refused_iff spareAccepted (Option.some_get spare_starts).symm [knockTurn 1]
    member reply structured current reflected silentHandlers spareLoop.runtime spare_config
  rw [hashed] at refused
  have started : (consume paddedHash silentHandlers spareLoop.runtime back).dispatched ≠ none :=
    Option.ne_none_iff_isSome.mpr dispatched
  obtain ⟨server, user, action, open_⟩ := not_not.mp fun closed => started (refused.mpr closed)
  exact ⟨_, _, server, user, action, open_⟩

/-- A configuration that the loader accepts lets an answer start an action. -/
theorem reply_not_refused :
    ¬ ∀ (accepted : Accepted) (opensslReady : Bool) (config : Option Config) (listener : Listener)
        (context : CodecContext) (loop : Loop) (inputs : List Turn) (record : Processed)
        (env : CodecEnv) (answered : Job) (peer : CodecEnv) (back : Job) (handlers : Handlers)
        (runtime : Runtime), start opensslReady config listener context = some loop →
      .processed record ∈ (run DaemonLoop.step (some loop) inputs).2 →
      record.reply = some (env, answered) → answered.wireVersion ≠ 0 →
      record.done.runtime.config = some accepted.config → Reflected env answered peer back →
      runtime.config = some accepted.config →
      (consume env.hash handlers runtime back).dispatched = none := by
  intro refused
  obtain ⟨record, env, answered, back, member, reply, structured, current, reflected, hashed,
    dispatched⟩ := spare_reflected
  have nothing := refused spareAccepted true _ spareListener _ spareLoop [knockTurn 1] record env
    answered _ back silentHandlers spareLoop.runtime
      (Option.some_get spare_starts).symm member reply
    structured current reflected spare_config
  rw [hashed] at nothing
  rw [nothing] at dispatched
  cases dispatched

end Samples

end Siglatch.DaemonReflection
