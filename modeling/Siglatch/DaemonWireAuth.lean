import Siglatch.DaemonPolicy
import Siglatch.MuxFreshness

set_option autoImplicit false

namespace Siglatch.DaemonWireAuth
open MuxTypes AppConfig KnockContext KnockDigest KnockCodec KnockSealed DaemonTypes DaemonPayload
open AppRuntime MuxAdapter MuxNormalize MuxEncryption MuxFreshness MuxInbox MuxInboxRuns
  MuxStreamView
open DaemonRunner DaemonLoop DaemonPolicy StepRuns

/-- The active server asks for wire auth. Startup, a reload and `change_setting` hand the setting
on to the mux. -/
def enforcesWireAuth (runtime : Runtime) : Bool :=
  match runtime.listener.server with
  | some server => server.enforceWireAuth
  | none => false

def Unauthenticated (p : RecvPacket) : Prop := p.wireVersion ≠ 0 ∧ p.wireAuth = false

instance : DecidablePred Unauthenticated := fun p => by
  unfold Unauthenticated
  infer_instance

theorem lasting_unauthenticated : Lasting Unauthenticated := lasting_of_content fun _ => Iff.rfl

section Packets

variable {policy : PolicyEnforceEncryption} {env : CodecEnv} {raw : Ingress} {control : Control}
  {p : RecvPacket}

/-- A codec takes the datagram for its own and decodes it, and the policy lets it through. -/
def Taken (policy : PolicyEnforceEncryption) (env : CodecEnv) (raw : Ingress) : Prop :=
  ∃ adapter identity control, demux env raw = some (adapter, identity) ∧
    (adapter.decode env (configureIngressIdentity raw identity) control).1.isSome = true ∧
    encryptionAllowed policy env.context identity.encrypted = true

theorem delivered_wireAuth {encrypted : Bool} {unit : NormalizedUnit}
    (handed : delivered raw encrypted unit = some p) : p.wireAuth = unit.wireAuth := by
  obtain ⟨out, copied, rfl⟩ := Option.map_eq_some_iff.mp handed
  exact (copyRecvPacket_copied copied).auth

theorem sealed_wireAuth {layout : Layout} {unpack : Bytes → Option NormalizedUnit}
    {finish : NormalizedUnit → NormalizedUnit} {unit : NormalizedUnit}
    (finished : ∀ u, (finish u).wireAuth = false)
    (framed : (deserializeWire layout raw.buffer).isSome)
    (decoded : KnockSealed.decode layout env unpack raw finish = some unit) :
    unit.wireAuth = false := by
  obtain ⟨pkt, accepted⟩ := Option.isSome_iff_exists.mp framed
  unfold KnockSealed.decode at decoded
  rw [accepted] at decoded
  obtain ⟨opened, -, rfl⟩ := Option.map_eq_some_iff.mp decoded
  exact finished opened

theorem origin_wireAuth {identity : IngressIdentity} (origin : Origin env raw identity p) :
    p.wireAuth = false := by
  unfold Origin at origin
  split at origin
  · cases origin with
    | v1 plaintext unit _ parsed handed =>
      rw [delivered_wireAuth handed]
      obtain ⟨pkt, -, rfl⟩ := Option.map_eq_some_iff.mp parsed
      rfl
    | v2 plaintext unit _ parsed handed =>
      rw [delivered_wireAuth handed]
      obtain ⟨pkt, -, rfl⟩ := Option.map_eq_some_iff.mp parsed
      rfl
    | v3 pkt cek plaintext unit framed _ _ decoded handed =>
      rw [delivered_wireAuth handed]
      exact sealed_wireAuth (fun _ => rfl) (framed ▸ rfl) decoded
    | v4 pkt cek plaintext unit framed _ _ decoded handed =>
      rw [delivered_wireAuth handed]
      exact sealed_wireAuth (fun _ => rfl) (framed ▸ rfl) decoded
  · cases origin with
    | v1 unit parsed handed =>
      rw [delivered_wireAuth handed]
      obtain ⟨pkt, -, rfl⟩ := Option.map_eq_some_iff.mp parsed
      rfl
    | v2 unit parsed handed =>
      rw [delivered_wireAuth handed]
      obtain ⟨pkt, -, rfl⟩ := Option.map_eq_some_iff.mp parsed
      rfl

theorem structured_unauthenticated (made : (normalize policy env raw control).1 = some p)
    (structured : p.wireVersion ≠ 0) : Unauthenticated p := by
  rw [normalize_eq] at made
  obtain ⟨adapter, registry, identity, out, after, detected, decoded, -, rfl⟩ :=
    normalizeOver_structured made structured
  exact ⟨structured, origin_wireAuth (origin registry detected decoded)⟩

theorem taken_iff : Taken policy env raw ↔
    ∃ control p, (normalize policy env raw control).1 = some p ∧ Unauthenticated p := by
  constructor
  · rintro ⟨adapter, identity, control, found, decodes, allowed⟩
    obtain ⟨registry, detects⟩ := demux_some found
    obtain ⟨out, decoded⟩ := Option.isSome_iff_exists.mp decodes
    have version : out.wireVersion = adapter.wireVersion :=
      decoded_version registry detects (configured_buffer raw identity) (Prod.ext decoded rfl)
    have structured : out.wireVersion ≠ 0 := by
      rw [version]
      rcases adapters_cases registry with rfl | rfl | rfl | rfl <;> decide
    obtain ⟨made, kept⟩ := (@normalize_taken_iff policy env raw control adapter identity
      (handedOn raw identity out) found).mpr ⟨allowed, out, decoded, rfl, structured⟩
    exact ⟨control, handedOn raw identity out, made, structured_unauthenticated made kept⟩
  · rintro ⟨control, p, made, unauthenticated⟩
    rcases normalize_cases made with copied |
        ⟨adapter, identity, out, after, found, decoded, allowed, -⟩
    · exact absurd (rawCopy_version copied) unauthenticated.1
    · have decodes := congrArg Prod.fst decoded
      exact ⟨adapter, identity, control, found,
        Option.isSome_iff_exists.mpr ⟨out, decodes⟩, allowed⟩

end Packets

section Runs

/-- While the active server asks for wire auth at every pump, only packets that the stream held
before can come out of the inbox unauthenticated. -/
def Enforces (loop : Loop) (ops : List DaemonTurn) : Prop :=
  (∀ runtime mux, .pumped runtime mux ∈ (run daemonStep (some loop) ops).2 →
    enforcesWireAuth runtime = true) →
  (run daemonStep (some loop) ops).2.countP (hands Unauthenticated) ≤
    (queued loop.mux.intake.stream).countP Unauthenticated

def Untaken (loop : Loop) (op : DaemonTurn) : Prop :=
  ∀ ready, reconnect loop = some ready → enforcesWireAuth ready.runtime = true →
    ∀ raw ∈ ready.mux.ingress.contents ++
        (readNow ready.mux.ingress op.turn.waiting).map Datagram.ingress,
      ¬ Taken ready.mux.policy (op.input.world.codecEnv ready.runtime) raw

def streamHeld : Option Loop → ℕ
  | none => 0
  | some loop => (queued loop.mux.intake.stream).countP Unauthenticated

theorem turn_untaken {loop : Loop} {op : DaemonTurn} (untaken : Untaken loop op)
    (enforced : ∀ runtime mux, .pumped runtime mux ∈ (turn loop op.input).2 →
      enforcesWireAuth runtime = true) :
    streamHeld (turn loop op.input).1 + (turn loop op.input).2.countP (hands Unauthenticated) ≤
      streamHeld (some loop) := by
  classical
  rcases turn_cases loop op.input with ⟨-, ended⟩ | ⟨ready, reconnected, pumped⟩
  · rw [ended]
    exact Nat.zero_le _
  · have asks : enforcesWireAuth ready.runtime = true := by
      apply enforced ready.runtime (flushOutbox op.input.early ready.mux)
      rcases pumped with broken | finished
      · rw [broken]
        exact List.mem_cons_self
      · rw [finished.events]
        exact List.mem_cons_self
    have none_taken := untaken ready reconnected asks
    have comes : Comes Unauthenticated (Taken ready.mux.policy
        (op.input.world.codecEnv ready.runtime)) ready.mux.policy
        (op.input.world.codecEnv ready.runtime) := by
      intro raw control p made unauthenticated
      exact taken_iff.mpr ⟨control, p, made, unauthenticated⟩
    have counted := turn_count lasting_unauthenticated reconnected comes
    have reads : ((readNow ready.mux.ingress op.input.waiting).map Datagram.ingress).countP
        (Taken ready.mux.policy (op.input.world.codecEnv ready.runtime)) = 0 := by
      rw [List.countP_eq_zero]
      intro raw member
      rw [decide_eq_true_eq]
      exact none_taken raw (List.mem_append_right _ member)
    have held_before := @held_stream Unauthenticated _ _ _ ready.mux.intake _
      fun raw member => none_taken raw (List.mem_append_left _ member)
    have held_after : streamHeld (turn loop op.input).1 ≤ loopHeld Unauthenticated
        (Taken ready.mux.policy (op.input.world.codecEnv ready.runtime))
        (turn loop op.input).1 := by
      cases (turn loop op.input).1 with
      | none => exact Nat.le_refl _
      | some next => exact Nat.le_add_right _ _
    obtain ⟨-, -, -, fewer, -⟩ := @reconnect_some Unauthenticated _ (fun _ => False) _ _ _
      reconnected
    rw [held_stream _ fun _ _ => id, held_stream _ fun _ _ => id] at fewer
    rw [held_before, reads] at counted
    change _ ≤ (queued loop.mux.intake.stream).countP Unauthenticated
    omega

/-- From any state on, the setting is enforced in a run as long as no codec takes a datagram that
the daemon gets at while the active server asks for wire auth. -/
theorem wireAuth_enforced (loop : Loop) (ops : List DaemonTurn)
    (untaken : ∀ p ∈ steps daemonStep (some loop) ops, ∀ before ∈ p.1, Untaken before p.2) :
    Enforces loop ops := by
  intro enforced
  have counted := @run_count _ _ _ daemonStep streamHeld (fun _ _ => 0) (hands Unauthenticated)
    (fun state op => (∀ before ∈ state, Untaken before op) ∧
      ∀ runtime mux, .pumped runtime mux ∈ (daemonStep state op).2 →
        enforcesWireAuth runtime = true) ?_ (some loop) ops ?_
  · have gained : ((steps daemonStep (some loop) ops).map fun _ => 0).sum = 0 := by simp
    rw [gained] at counted
    change _ ≤ (queued loop.mux.intake.stream).countP Unauthenticated at counted
    omega
  · rintro state op ⟨quiet, asks⟩
    cases state with
    | none => exact Nat.le_refl _
    | some before => exact turn_untaken (quiet before rfl) asks
  · intro p taken
    refine ⟨untaken p taken, fun runtime mux member => ?_⟩
    exact enforced runtime mux (steps_events taken _ member)

def strictConfig : Config :=
  ⟨[DaemonPayload.alice], [doorbell], [{ DaemonPayload.frontServer with enforceWireAuth := true }],
    []⟩

theorem strict_starts :
    (startup (doorAround false).toOutside strictConfig frontName).isSome = true := by
  decide +kernel

def strictLoop : Loop :=
  (startup (doorAround false).toOutside strictConfig frontName).get strict_starts

def strictTurn (waiting : List Datagram) : DaemonTurn :=
  ⟨{ knockTurn 0 with waiting := waiting }, fun _ _ => doorAround false⟩

def pumpedEnforcing : Event → Bool
  | .pumped runtime _ => enforcesWireAuth runtime
  | _ => true

/-- Bytes that no codec takes. -/
theorem strayBytes_enforced :
    Enforces strictLoop [strictTurn [{ aliceKnock with bytes := [1, 2, 3] }]] := by
  have stray : ((reconnect strictLoop).all fun ready =>
      (ready.mux.ingress.contents ++ (readNow ready.mux.ingress
        [{ aliceKnock with bytes := [1, 2, 3] }]).map Datagram.ingress).all fun raw =>
          (demux (doorWorld.codecEnv ready.runtime) raw).isNone) = true := by decide +kernel
  apply wireAuth_enforced
  intro p taken before now ready reconnected _ raw member
  rw [steps, steps, List.mem_singleton] at taken
  subst taken
  obtain rfl := Option.some.inj now
  rw [reconnected, Option.all_some] at stray
  have untaken := List.all_eq_true.mp stray raw member
  rintro ⟨adapter, identity, control, found, -⟩
  have env : (strictTurn [{ aliceKnock with bytes := [1, 2, 3] }]).input.world.codecEnv
      ready.runtime = doorWorld.codecEnv ready.runtime := rfl
  rw [env] at found
  rw [found] at untaken
  cases untaken

/-- Alice's request comes out of the inbox without wire auth, with the setting on all along. -/
theorem knock_not_enforced :
    ¬ ∀ (outside : Outside) (config : Config) (name : ServerName) (first loop : Loop)
        (earlier later : List DaemonTurn), startup outside config name = some first →
      (run daemonStep (some first) earlier).1 = some loop → Enforces loop later := by
  intro always
  have enforced := always _ _ _ strictLoop strictLoop [] [strictTurn [aliceKnock]]
    (Option.some_get strict_starts).symm rfl
  have counted := enforced ?_
  · have one : (run daemonStep (some strictLoop) [strictTurn [aliceKnock]]).2.countP
        (hands Unauthenticated) = 1 := by decide +kernel
    have empty : (queued strictLoop.mux.intake.stream).countP Unauthenticated = 0 := by
      decide +kernel
    omega
  · have on : (run daemonStep (some strictLoop) [strictTurn [aliceKnock]]).2.all
        pumpedEnforcing = true := by decide +kernel
    intro runtime mux member
    exact List.all_eq_true.mp on _ member

end Runs

end Siglatch.DaemonWireAuth
