import Siglatch.MuxLiveSessions

set_option autoImplicit false

namespace Siglatch.MuxBatch
open MuxTypes KnockCodec MuxAdapter MuxNormalize MuxInbox MuxIntake MuxSession MuxLiveSessions

/-! How the control record that a pump keeps from datagram to datagram reaches the sessions. -/

/-- Codec 4 takes the datagram, whether or not it can decode it. -/
def speaksV4 (env : CodecEnv) (raw : Ingress) : Bool :=
  match demux env raw with
  | none => false
  | some (adapter, _) => adapter.wireVersion == KnockDigest.V4_WIRE_VERSION

def reach (policy : PolicyEnforceEncryption) (env : CodecEnv) (clock : ℕ → UInt64) :
    ℕ → Control → Intake → List Ingress → Option (Control × Intake)
  | _, control, intake, [] => some (control, intake)
  | k, control, intake, raw :: batch =>
    let taken := take policy env (clock k) control intake raw
    match taken.outcome with
    | .refused => none
    | _ => reach policy env clock (k + 1) taken.control taken.intake batch

def registered (policy : PolicyEnforceEncryption) (env : CodecEnv) (nowMs : UInt64)
    (control : Control) (session : SessionState) (raw : Ingress) :
    Option (SessionState × RecvPacket) :=
  let made := normalize policy env raw control
  made.1.bind fun normal => ingest session made.2 normal nowMs

/-- The datagram opens a session with an id, as the sessions stand, and is none of codec 4's. -/
def Opening (policy : PolicyEnforceEncryption) (env : CodecEnv) (session : SessionState)
    (raw : Ingress) : Prop :=
  ∃ normal, normalize policy env raw ⟨false⟩ = (some normal, ⟨false⟩) ∧
    session.nextSessionId ≠ 0 ∧ (∃ i, (session.sessions i).active = false) ∧
    (normal.wireVersion = 0 → findRawByIp session normal.ip = none)

section Control

variable {policy : PolicyEnforceEncryption} {env : CodecEnv} {clock : ℕ → UInt64}

theorem decode_control {adapter : Adapter} (registry : adapter ∈ adapters) (raw : Ingress)
    (control : Control) : adapter.decode env raw control = ((adapter.decode env raw ⟨false⟩).1,
      if adapter.wireVersion == KnockDigest.V4_WIRE_VERSION then ⟨true⟩ else control) := by
  rcases adapters_cases registry with rfl | rfl | rfl | rfl
  · rfl
  · rfl
  · rfl
  · rfl

theorem normalize_control (raw : Ingress) (control : Control) :
    normalize policy env raw control =
      ((normalize policy env raw ⟨false⟩).1, if speaksV4 env raw then ⟨true⟩ else control) := by
  unfold MuxNormalize.normalize speaksV4
  cases found : demux env raw with
  | none => rfl
  | some chosen =>
    obtain ⟨adapter, identity⟩ := chosen
    have own := @decode_control env adapter (demux_some found).1
      (configureIngressIdentity raw identity)
    dsimp only
    rw [own control, own ⟨false⟩]
    cases (adapter.decode env (configureIngressIdentity raw identity) ⟨false⟩).1 with
    | none => rfl
    | some out =>
      dsimp only
      split
      · rfl
      · rfl

theorem take_control (nowMs : UInt64) (control : Control) (intake : Intake) (raw : Ingress) :
    (take policy env nowMs control intake raw).control =
      if speaksV4 env raw then ⟨true⟩ else control := by
  have same := congrArg Prod.snd (@normalize_control policy env raw control)
  unfold take
  cases made : normalize policy env raw control with
  | mk normal after =>
    rw [made] at same
    cases normal with
    | none => exact same
    | some normal =>
      dsimp only
      split
      · exact same
      · exact same

theorem reach_control {k : ℕ} {control control' : Control} {before after : Intake}
    {batch : List Ingress}
    (reached : reach policy env clock k control before batch = some (control', after)) :
    control' = ⟨control.sessionByClient || batch.any (speaksV4 env)⟩ := by
  induction batch generalizing k control before with
  | nil =>
    obtain ⟨rfl, -⟩ := Prod.mk.inj (Option.some.inj reached)
    rw [List.any_nil, Bool.or_false]
  | cons raw batch ih =>
    have own := @take_control policy env (clock k) control before raw
    unfold reach at reached
    dsimp only at reached
    split at reached
    · cases reached
    · rw [ih reached, own, List.any_cons]
      cases speaksV4 env raw with
      | true => rw [if_pos rfl, Bool.true_or, Bool.or_true]
      | false => rw [if_neg Bool.false_ne_true, Bool.false_or]

theorem pumpList_passed {k : ℕ} {control : Control} {before : Intake} {raw : Ingress}
    (waiting : List Ingress)
    (passed : (take policy env (clock k) control before raw).outcome ≠ .refused) :
    (pumpList policy env clock k control before (raw :: waiting)).1 =
      (pumpList policy env clock (k + 1) (take policy env (clock k) control before raw).control
        (take policy env (clock k) control before raw).intake waiting).1 := by
  rw [pumpList]
  dsimp only
  cases outcome : (take policy env (clock k) control before raw).outcome with
  | refused => exact absurd outcome passed
  | skipped => rfl
  | queued normal => rfl

theorem pumpList_reach {k : ℕ} {control control' : Control} {before after : Intake}
    {batch : List Ingress} (rest : List Ingress)
    (reached : reach policy env clock k control before batch = some (control', after)) :
    (pumpList policy env clock k control before (batch ++ rest)).1 =
      (pumpList policy env clock (k + batch.length) control' after rest).1 := by
  induction batch generalizing k control before with
  | nil =>
    obtain ⟨rfl, rfl⟩ := Prod.mk.inj (Option.some.inj reached)
    rfl
  | cons raw batch ih =>
    unfold reach at reached
    dsimp only at reached
    split at reached
    · cases reached
    · rename_i passed
      rw [List.cons_append, List.length_cons, Nat.add_comm batch.length, ← Nat.add_assoc,
        pumpList_passed _ passed]
      exact ih reached

theorem pumpList_last (k : ℕ) (control : Control) (before : Intake) (raw : Ingress) :
    (pumpList policy env clock k control before [raw]).1.session =
      ((registered policy env (clock k) control before.session raw).map Prod.fst).getD
        before.session := by
  unfold pumpList registered take MuxIntake.intake
  dsimp only
  cases normalize policy env raw control with
  | mk normal after =>
    cases normal with
    | none => rfl
    | some normal =>
      dsimp only [Option.bind_some]
      cases ingest before.session after normal (clock k) with
      | none => rfl
      | some handed =>
        dsimp only
        cases (MuxStream.ingest before.stream handed.2).1 with
        | true => rfl
        | false => rfl

end Control

section Ingest

variable {state : SessionState} {normal : RecvPacket} {nowMs : UInt64}

theorem register_anonymous (anonymous : normal.sessionId = 0) (control : Control) :
    register state control normal =
      match (if normal.wireVersion = 0 then findRawByIp state normal.ip else none) with
      | some i => some ⟨i, state.set i ((state.sessions i).refreshRaw normal), normal⟩
      | none => (SlotTable.find? state.sessions fun s => !s.active).map
          (openSession state control.sessionByClient normal) := by
  unfold register
  dsimp only
  have unnamed : findByClientSession state normal.sessionId normal.wireVersion normal.wireForm =
      none := by
    rw [anonymous]
    rfl
  have plain : (!control.sessionByClient && normal.sessionId != 0) = false := by
    rw [anonymous]
    exact Bool.and_false _
  rw [unnamed, ite_self, plain]
  dsimp only [Bool.false_eq_true]
  rw [if_neg Bool.false_ne_true]
  cases (if normal.wireVersion = 0 then findRawByIp state normal.ip else none) with
  | some i => rfl
  | none =>
    cases (SlotTable.find? state.sessions fun s => !s.active) with
    | none => rfl
    | some i => rfl

theorem openSession_anonymous (anonymous : normal.sessionId = 0) (clientOwned : Bool)
    (i : Fin SESSION_CAPACITY) : openSession state clientOwned normal i = ⟨i,
      { state.set i { Session.zero.refresh normal with
          sessionId := state.nextSessionId
          clientSessionId := if clientOwned then state.nextSessionId else 0, active := true } with
        nextSessionId := state.nextSessionId + 1, sessionCount := state.sessionCount + 1 },
      if clientOwned then { normal with sessionId := state.nextSessionId } else normal⟩ := by
  have taken : takeSessionId state clientOwned normal =
      (state.nextSessionId, state.nextSessionId + 1) := if_pos (.inr anonymous)
  unfold openSession
  rw [taken, anonymous]
  dsimp only
  rw [ite_id, if_neg (not_not.mpr rfl)]

theorem ingest_anonymous (anonymous : normal.sessionId = 0) (control : Control) :
    ingest state control normal nowMs = (register state control normal).map fun r =>
      (r.state.set r.slot ((r.state.sessions r.slot).touch nowMs),
        { r.normal with
          sessionId := (r.state.sessions r.slot).sessionId, syntheticSession := true }) := by
  unfold ingest
  rw [anonymous]
  dsimp only
  cases register state control normal with
  | none => rfl
  | some r =>
    dsimp only
    cases control.sessionByClient with
    | true => rfl
    | false => rfl

theorem ingest_alike (anonymous : normal.sessionId = 0)
    (quiet : ¬ (state.nextSessionId ≠ 0 ∧ (∃ i, (state.sessions i).active = false) ∧
      (normal.wireVersion = 0 → findRawByIp state normal.ip = none))) :
    ingest state ⟨true⟩ normal nowMs = ingest state ⟨false⟩ normal nowMs := by
  rw [ingest_anonymous anonymous, ingest_anonymous anonymous, register_anonymous anonymous,
    register_anonymous anonymous]
  cases raw : (if normal.wireVersion = 0 then findRawByIp state normal.ip else none) with
  | some i => rfl
  | none =>
    cases free : (SlotTable.find? state.sessions fun s => !s.active) with
    | none => rfl
    | some i =>
      have idle : (!(state.sessions i).active) = true := SlotTable.find?_holds free
      rw [Bool.not_eq_true'] at idle
      have unknown : normal.wireVersion = 0 → findRawByIp state normal.ip = none := by
        intro wire
        rwa [if_pos wire] at raw
      have wrapped : state.nextSessionId = 0 := by
        by_contra counted
        exact quiet ⟨counted, ⟨i, idle⟩, unknown⟩
      dsimp only [Option.map_some]
      rw [openSession_anonymous anonymous, openSession_anonymous anonymous, wrapped]
      rfl

theorem ingest_apart (anonymous : normal.sessionId = 0) (counted : state.nextSessionId ≠ 0)
    (room : ∃ i, (state.sessions i).active = false)
    (unknown : normal.wireVersion = 0 → findRawByIp state normal.ip = none) :
    ∃ i owned other, ingest state ⟨true⟩ normal nowMs = some owned ∧
      ingest state ⟨false⟩ normal nowMs = some other ∧
      (owned.1.sessions i).clientSessionId ≠ (other.1.sessions i).clientSessionId := by
  have raw : (if normal.wireVersion = 0 then findRawByIp state normal.ip else none) = none := by
    split
    · rename_i wire
      exact unknown wire
    · rfl
  rw [ingest_anonymous anonymous, ingest_anonymous anonymous, register_anonymous anonymous,
    register_anonymous anonymous, raw]
  cases free : (SlotTable.find? state.sessions fun s => !s.active) with
  | none =>
    obtain ⟨i, idle⟩ := room
    have full := SlotTable.find?_none_iff.mp free i
    rw [idle] at full
    cases full
  | some i =>
    refine ⟨i, _, _, rfl, rfl, ?_⟩
    rw [openSession_anonymous anonymous, openSession_anonymous anonymous]
    unfold SessionState.set
    dsimp only [Session.touch]
    rw [Function.update_self, Function.update_self, Function.update_self, Function.update_self]
    exact counted

end Ingest

section Batches

variable {policy : PolicyEnforceEncryption} {env : CodecEnv} {session : SessionState}
  {last : Ingress} {nowMs : UInt64}

theorem registered_eq (control : Control) :
    registered policy env nowMs control session last =
      (normalize policy env last ⟨false⟩).1.bind fun normal =>
        ingest session (if speaksV4 env last then ⟨true⟩ else control) normal nowMs := by
  unfold registered
  rw [normalize_control last control]

theorem registered_alike (quiet : ¬ Opening policy env session last) (control control' : Control) :
    registered policy env nowMs control session last =
      registered policy env nowMs control' session last := by
  rw [registered_eq, registered_eq]
  cases own : speaksV4 env last with
  | true => rfl
  | false =>
    cases made : (normalize policy env last ⟨false⟩).1 with
    | none => rfl
    | some normal =>
      have whole : normalize policy env last ⟨false⟩ = (some normal, ⟨false⟩) := by
        rw [normalize_control, made, own]
        rfl
      have anonymous : normal.sessionId = 0 :=
        (normalize_normalised whole).resolve_left Bool.false_ne_true
      have alike := @ingest_alike session normal nowMs anonymous fun opens =>
        quiet ⟨normal, whole, opens⟩
      change ingest session control normal nowMs = ingest session control' normal nowMs
      obtain ⟨clientOwned⟩ := control
      obtain ⟨clientOwned'⟩ := control'
      cases clientOwned with
      | true =>
        cases clientOwned' with
        | true => rfl
        | false => exact alike
      | false =>
        cases clientOwned' with
        | true => exact alike.symm
        | false => rfl

theorem registered_apart (opening : Opening policy env session last) :
    ∃ i owned other, registered policy env nowMs ⟨true⟩ session last = some owned ∧
      registered policy env nowMs ⟨false⟩ session last = some other ∧
      (owned.1.sessions i).clientSessionId ≠ (other.1.sessions i).clientSessionId := by
  obtain ⟨normal, whole, counted, room, unknown⟩ := opening
  have anonymous : normal.sessionId = 0 :=
    (normalize_normalised whole).resolve_left Bool.false_ne_true
  have own : speaksV4 env last = false := by
    have after := congrArg Prod.snd (@normalize_control policy env last ⟨false⟩)
    rw [whole] at after
    cases speaks : speaksV4 env last with
    | false => rfl
    | true =>
      rw [speaks] at after
      cases after
  rw [registered_eq, registered_eq, whole, own]
  exact ingest_apart anonymous counted room unknown

/-- A pump has worked off a batch that leaves the sessions as they were. -/
structure RunUp (policy : PolicyEnforceEncryption) (env : CodecEnv) (clock : ℕ → UInt64)
    (before : Intake) (batch : List Ingress) (control : Control) (after : Intake) : Prop where
  reached : reach policy env clock 0 ⟨false⟩ before batch = some (control, after)
  unchanged : after.session = before.session

variable {clock clock' : ℕ → UInt64} {before before' after after' : Intake}
  {control control' : Control} {batch batch' : List Ingress}

theorem RunUp.table (run : RunUp policy env clock before batch control after) (last : Ingress) :
    (pumpList policy env clock 0 ⟨false⟩ before (batch ++ [last])).1.session =
      ((registered policy env (clock batch.length) control before.session last).map
        Prod.fst).getD before.session := by
  rw [pumpList_reach [last] run.reached, pumpList_last, run.unchanged, Nat.zero_add]

theorem RunUp.mark (run : RunUp policy env clock before batch control after) :
    control = ⟨batch.any (speaksV4 env)⟩ := by
  rw [reach_control run.reached, Bool.false_or]

theorem tables_apart (run : RunUp policy env clock before batch control after)
    (run' : RunUp policy env clock' before' batch' control' after')
    (same : before.session = before'.session)
    (timed : clock batch.length = clock' batch'.length)
    (differ : batch.any (speaksV4 env) ≠ batch'.any (speaksV4 env))
    (opening : Opening policy env before.session last) :
    (pumpList policy env clock 0 ⟨false⟩ before (batch ++ [last])).1.session ≠
      (pumpList policy env clock' 0 ⟨false⟩ before' (batch' ++ [last])).1.session := by
  obtain ⟨i, owned, other, byClient, byServer, ids⟩ :=
    @registered_apart policy env before.session last (clock batch.length) opening
  rw [run.table, run'.table, ← same, ← timed, run.mark, run'.mark]
  intro tables
  have clients := congrArg (fun table => (table.sessions i).clientSessionId) tables
  cases one : batch.any (speaksV4 env) with
  | true =>
    cases two : batch'.any (speaksV4 env) with
    | true => exact differ (one.trans two.symm)
    | false =>
      rw [one, two, byClient, byServer] at clients
      exact ids clients
  | false =>
    cases two : batch'.any (speaksV4 env) with
    | true =>
      rw [one, two, byClient, byServer] at clients
      exact ids clients.symm
    | false => exact differ (one.trans two.symm)

/-- Two batches that leave the sessions alone, before one datagram at one time: the pump leaves
the same table and hands the same packet to the stream exactly if both of them or neither had a
datagram for codec 4, or the last one opens no session. -/
theorem batches_alike_iff (last : Ingress)
    (run : RunUp policy env clock before batch control after)
    (run' : RunUp policy env clock' before' batch' control' after')
    (same : before.session = before'.session)
    (timed : clock batch.length = clock' batch'.length) :
    ((pumpList policy env clock 0 ⟨false⟩ before (batch ++ [last])).1.session =
        (pumpList policy env clock' 0 ⟨false⟩ before' (batch' ++ [last])).1.session ∧
      (registered policy env (clock batch.length) control after.session last).map Prod.snd =
        (registered policy env (clock' batch'.length) control' after'.session last).map
          Prod.snd) ↔
    batch.any (speaksV4 env) = batch'.any (speaksV4 env) ∨
      ¬ Opening policy env before.session last := by
  constructor
  · rintro ⟨tables, -⟩
    by_contra apart
    obtain ⟨differ, opening⟩ := not_or.mp apart
    exact tables_apart run run' same timed differ (not_not.mp opening) tables
  · rw [run.table, run'.table, run.unchanged, run'.unchanged, ← same, ← timed]
    rintro (both | quiet)
    · have controls : control = control' := by rw [run.mark, run'.mark, both]
      rw [controls]
      exact ⟨rfl, rfl⟩
    · rw [registered_alike quiet control control']
      exact ⟨rfl, rfl⟩

end Batches

section Known

variable {policy : PolicyEnforceEncryption} {env : CodecEnv} {state : SessionState}
  {normal : RecvPacket} {nowMs : UInt64}

theorem ingest_still {i : Fin SESSION_CAPACITY} (anonymous : normal.sessionId = 0)
    (raw : normal.wireVersion = 0) (found : findRawByIp state normal.ip = some i)
    (still : ((state.sessions i).refreshRaw normal).touch nowMs = state.sessions i)
    (control : Control) : ∃ p, ingest state control normal nowMs = some (state, p) := by
  have twice (first : Session) : (state.set i first).set i (state.sessions i) = state := by
    unfold SessionState.set
    rw [Function.update_idem, Function.update_eq_self]
  have own : (state.set i ((state.sessions i).refreshRaw normal)).sessions i =
      (state.sessions i).refreshRaw normal := Function.update_self _ _ _
  rw [ingest_anonymous anonymous, register_anonymous anonymous, if_pos raw, found]
  dsimp only [Option.map_some]
  rw [own, still, twice]
  exact ⟨_, rfl⟩

theorem runUp_still {clock : ℕ → UInt64} {before : Intake} {raw : Ingress} {control : Control}
    {i : Fin SESSION_CAPACITY}
    (made : normalize policy env raw ⟨false⟩ = (some normal, control))
    (anonymous : normal.sessionId = 0) (plain : normal.wireVersion = 0)
    (found : findRawByIp before.session normal.ip = some i)
    (still : ((before.session.sessions i).refreshRaw normal).touch (clock 0) =
      before.session.sessions i)
    (fits : (MuxIntake.intake before control normal (clock 0)).1 = true) :
    ∃ after, RunUp policy env clock before [raw] control after := by
  obtain ⟨p, ingested⟩ := ingest_still anonymous plain found still control
  refine ⟨(MuxIntake.intake before control normal (clock 0)).2, ?_, ?_⟩
  · unfold reach take
    rw [made]
    dsimp only
    cases handed : MuxIntake.intake before control normal (clock 0) with
    | mk taken after =>
      rw [handed] at fits
      cases taken with
      | true => rfl
      | false => cases fits
  · unfold MuxIntake.intake
    rw [ingested]

end Known

section Stray

def stray : Ingress :=
  { Ingress.zero with
    buffer := [0x53, 0x4C, 0x50, 0x4B, 0, 4, 0, 0, 1, 0, 1] ++ List.replicate 12 0 ++
      [0, 0, 0, 77] ++ List.replicate 94 0
    ip := ascii ['A'], clientPort := 4000 }

def plainLast : Ingress := { Ingress.zero with buffer := [1], ip := ascii ['B'] }

def strayEnv : CodecEnv :=
  ⟨KnockEncode.boxCipher, ⟨id, fun key message => key ++ message⟩, KnockContext.create, none, 1000⟩

def knownSender : Intake :=
  let fresh := MuxIntake.start (some MuxAdapter.registered)
  let known : Session := ⟨1, 0, 1000, 31000, 0, 0, ascii ['A'], 4000, false, true⟩
  { fresh with session :=
      { fresh.session.set ⟨0, by decide⟩ known with nextSessionId := 2, sessionCount := 1 } }

theorem stray_made : ∃ normal, normalize .any strayEnv stray ⟨false⟩ = (some normal, ⟨true⟩) ∧
    normal.sessionId = 0 ∧ normal.wireVersion = 0 ∧
    findRawByIp knownSender.session normal.ip = some ⟨0, by decide⟩ ∧
    ((knownSender.session.sessions ⟨0, by decide⟩).refreshRaw normal).touch 1000 =
      knownSender.session.sessions ⟨0, by decide⟩ ∧
    (MuxIntake.intake knownSender ⟨true⟩ normal 1000).1 = true := by
  refine ⟨((normalize .any strayEnv stray ⟨false⟩).1).get (by decide +kernel), ?_⟩
  decide +kernel

theorem stray_runUp : ∃ after,
    RunUp .any strayEnv (fun _ => 1000) knownSender [stray] ⟨true⟩ after := by
  obtain ⟨normal, made, anonymous, plain, found, still, fits⟩ := stray_made
  exact @runUp_still _ _ normal _ knownSender stray ⟨true⟩ _ made anonymous plain found still fits

theorem plainLast_opening : Opening .any strayEnv knownSender.session plainLast := by
  refine ⟨((normalize .any strayEnv plainLast ⟨false⟩).1).get (by decide +kernel), ?_, ?_, ?_, ?_⟩
  · decide +kernel
  · decide +kernel
  · exact ⟨⟨1, by decide⟩, rfl⟩
  · decide +kernel

/-- The stray datagram leaves every session as it was, and yet the one that a raw packet opens
behind it is another than without it. -/
theorem stray_interferes : ∃ after : Intake,
    RunUp .any strayEnv (fun _ => 1000) knownSender [stray] ⟨true⟩ after ∧
    RunUp .any strayEnv (fun _ => 1000) knownSender [] ⟨false⟩ knownSender ∧
    speaksV4 strayEnv plainLast = false ∧
    (pumpList .any strayEnv (fun _ => 1000) 0 ⟨false⟩ knownSender
        ([stray] ++ [plainLast])).1.session ≠
      (pumpList .any strayEnv (fun _ => 1000) 0 ⟨false⟩ knownSender
        ([] ++ [plainLast])).1.session := by
  obtain ⟨after, run⟩ := stray_runUp
  have none : RunUp .any strayEnv (fun _ => 1000) knownSender [] ⟨false⟩ knownSender := ⟨rfl, rfl⟩
  have differ : [stray].any (speaksV4 strayEnv) ≠ [].any (speaksV4 strayEnv) := by decide +kernel
  have plain : speaksV4 strayEnv plainLast = false := by decide +kernel
  have apart := tables_apart run none rfl rfl differ plainLast_opening
  exact ⟨after, run, none, plain, apart⟩

/-- With the stray datagram in front and without it. -/
theorem stray_alike_iff : ∃ after : Intake,
    ((pumpList .any strayEnv (fun _ => 1000) 0 ⟨false⟩ knownSender
          ([stray] ++ [plainLast])).1.session =
        (pumpList .any strayEnv (fun _ => 1000) 0 ⟨false⟩ knownSender
          ([] ++ [plainLast])).1.session ∧
      (registered .any strayEnv 1000 ⟨true⟩ after.session plainLast).map Prod.snd =
        (registered .any strayEnv 1000 ⟨false⟩ knownSender.session plainLast).map Prod.snd) ↔
    [stray].any (speaksV4 strayEnv) = [].any (speaksV4 strayEnv) ∨
      ¬ Opening .any strayEnv knownSender.session plainLast := by
  obtain ⟨after, run⟩ := stray_runUp
  have none : RunUp .any strayEnv (fun _ => 1000) knownSender [] ⟨false⟩ knownSender := ⟨rfl, rfl⟩
  have alike := batches_alike_iff plainLast run none rfl rfl
  exact ⟨after, alike⟩

end Stray

end Siglatch.MuxBatch
