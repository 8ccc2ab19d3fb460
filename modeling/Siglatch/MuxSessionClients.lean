import Siglatch.MuxSessionRuns

set_option autoImplicit false

namespace Siglatch.MuxSessionClients
open MuxTypes MuxSession MuxSessionRuns StepRuns

/-- A packet that was taken in, by its client key, and the session it was mapped to. -/
abbrev Mapping := ClientKey × UInt64

structure Tracked where
  table : SessionState
  log : List Mapping

def trackedInit : Tracked := ⟨stateInit, []⟩

def isOpen (table : SessionState) (sessionId : UInt64) : Bool :=
  (SlotTable.find? table.sessions fun s => s.active && s.sessionId == sessionId).isSome

def trackedStep (t : Tracked) (op : SessionOp) : Tracked × List Mapping :=
  let out := sessionStep t.table op
  (⟨out.1, (out.2 ++ t.log).filter fun m => isOpen out.1 m.2⟩, out.2)

def ByClient : SessionOp → Prop
  | .ingest control _ _ => control.sessionByClient = true
  | .release _ => True
  | .expire _ => True

/-- Within one wire format, a live session belongs to one client id, where none counts as an id
of its own, and a client id belongs to one live session. -/
def Isolated (log : List Mapping) : Prop :=
  ∀ m ∈ log, ∀ m' ∈ log, m.1.wireVersion = m'.1.wireVersion → m.1.wireForm = m'.1.wireForm →
    (m.2 = m'.2 → m.1.sessionId = m'.1.sessionId) ∧
    (m.1.sessionId = m'.1.sessionId → m.1.sessionId ≠ 0 → m.2 = m'.2)

/-- A client id is no server id that a packet without an id was given. -/
def IdUnborrowed (log : List Mapping) (normal : RecvPacket) : Prop :=
  normal.sessionId ≠ 0 → ∀ m ∈ log, m.1 = ⟨0, normal.wireVersion, normal.wireForm⟩ →
    m.2 ≠ normal.sessionId

/-- A raw datagram that its address takes into a session carries the id of that session. -/
def AddressAgrees (t : Tracked) (normal : RecvPacket) : Prop :=
  normal.wireVersion = 0 →
  findByClientSession t.table normal.sessionId normal.wireVersion normal.wireForm = none →
  ∀ i, findRawByIp t.table normal.ip = some i →
    (∀ m ∈ t.log, m.2 = (t.table.sessions i).sessionId → m.1.sessionId = normal.sessionId) ∧
    (normal.sessionId ≠ 0 → (t.table.sessions i).wireForm = normal.wireForm)

def CounterAhead (table : SessionState) (control : Control) (normal : RecvPacket) : Prop :=
  Opens table control normal → (∃ i, (table.sessions i).active = false) →
    table.nextSessionId ∉ activeIds table

def Undisturbed (t : Tracked) : SessionOp → Prop
  | .ingest control normal _ => IdUnborrowed t.log normal ∧ AddressAgrees t normal ∧
      CounterAhead t.table control normal
  | .release _ => True
  | .expire _ => True

structure Holds (session : Session) (m : Mapping) : Prop where
  active : session.active = true
  server : session.sessionId = m.2
  version : session.wireVersion = m.1.wireVersion
  form : m.1.wireVersion ≠ 0 ∨ m.1.sessionId ≠ 0 → session.wireForm = m.1.wireForm
  client : session.clientSessionId = if m.1.sessionId = 0 then m.2 else m.1.sessionId

structure Assigned (t : Tracked) : Prop where
  distinct : ∀ i j, (t.table.sessions i).active = true → (t.table.sessions j).active = true →
    (t.table.sessions i).sessionId = (t.table.sessions j).sessionId → i = j
  held : ∀ m ∈ t.log, ∃ i, Holds (t.table.sessions i) m
  known : ∀ i, (t.table.sessions i).active = true → ∃ m ∈ t.log,
    m.2 = (t.table.sessions i).sessionId ∧ m.1.wireVersion = (t.table.sessions i).wireVersion ∧
    m.1.wireForm = (t.table.sessions i).wireForm
  single : ∀ m ∈ t.log, ∀ m' ∈ t.log, m.2 = m'.2 → m.1.sessionId = m'.1.sessionId
  sole : ∀ m ∈ t.log, ∀ m' ∈ t.log, m.1 = m'.1 → m.1.sessionId ≠ 0 → m.2 = m'.2

theorem Assigned.isolated {t : Tracked} (h : Assigned t) : Isolated t.log := by
  intro m member m' member' version form
  refine ⟨h.single m member m' member', ?_⟩
  intro same explicit
  obtain ⟨⟨id, v, f⟩, server⟩ := m
  obtain ⟨⟨id', v', f'⟩, server'⟩ := m'
  obtain rfl : v = v' := version
  obtain rfl : f = f' := form
  obtain rfl : id = id' := same
  exact h.sole _ member _ member' rfl explicit

section Step

variable {t : Tracked} {table : SessionState} {control : Control} {normal p : RecvPacket}
  {nowMs : UInt64} {i : Fin SESSION_CAPACITY}

theorem isOpen_iff {sessionId : UInt64} : isOpen table sessionId = true ↔
    ∃ i, (table.sessions i).active = true ∧ (table.sessions i).sessionId = sessionId := by
  unfold isOpen
  constructor
  · intro found
    obtain ⟨i, found⟩ := Option.isSome_iff_exists.mp found
    exact ⟨i, by simpa using SlotTable.find?_holds found⟩
  · rintro ⟨i, active, same⟩
    obtain ⟨j, found⟩ := @SlotTable.find?_exists _ _ table.sessions
      (fun s => s.active && s.sessionId == sessionId) i (by simp [active, same])
    rw [found]
    rfl

theorem trackedInit_assigned : Assigned trackedInit := by
  have free (i : Fin SESSION_CAPACITY) : (trackedInit.table.sessions i).active = false := rfl
  refine ⟨?_, ?_, ?_, ?_, ?_⟩
  · intro i j active
    rw [free i] at active
    contradiction
  · exact fun m member => absurd member List.not_mem_nil
  · intro i active
    rw [free i] at active
    contradiction
  · exact fun m member => absurd member List.not_mem_nil
  · exact fun m member => absurd member List.not_mem_nil

theorem emptied_assigned (h : Assigned t)
    (emptied : ∀ j, table.sessions j = .zero ∨ table.sessions j = t.table.sessions j) :
    Assigned ⟨table, t.log.filter fun m => isOpen table m.2⟩ := by
  have stays {j : Fin SESSION_CAPACITY} (active : (table.sessions j).active = true) :
      table.sessions j = t.table.sessions j := by
    rcases emptied j with gone | kept
    · rw [gone] at active
      contradiction
    · exact kept
  have before {m : Mapping} (member : m ∈ t.log.filter fun m => isOpen table m.2) :
      m ∈ t.log := (List.mem_filter.mp member).1
  refine ⟨?_, ?_, ?_, ?_, ?_⟩
  · intro i j activeI activeJ same
    rw [stays activeI, stays activeJ] at same
    exact h.distinct i j (stays activeI ▸ activeI) (stays activeJ ▸ activeJ) same
  · intro m member
    obtain ⟨j, active, server⟩ := isOpen_iff.mp (List.mem_filter.mp member).2
    obtain ⟨i, holds⟩ := h.held m (before member)
    have same : j = i := by
      refine h.distinct j i (stays active ▸ active) holds.active ?_
      rw [← stays active, server, holds.server]
    refine ⟨j, ?_⟩
    change Holds (table.sessions j) m
    rw [stays active, same]
    exact holds
  · intro i active
    change (table.sessions i).active = true at active
    obtain ⟨m, member, server, format⟩ := h.known i (stays active ▸ active)
    refine ⟨m, List.mem_filter.mpr ⟨member, ?_⟩, ?_⟩
    · exact isOpen_iff.mpr ⟨i, active, by rw [stays active, server]⟩
    · change _ = (table.sessions i).sessionId ∧ _
      rw [stays active]
      exact ⟨server, format⟩
  · exact fun m member m' member' => h.single m (before member) m' (before member')
  · exact fun m member m' member' => h.sole m (before member) m' (before member')

def mapped (t : Tracked) (table : SessionState) (normal p : RecvPacket) : Tracked :=
  ⟨table, ((clientKey normal, p.sessionId) :: t.log).filter fun m => isOpen table m.2⟩

theorem mapped_old {m : Mapping} (member : m ∈ (mapped t table normal p).log) :
    m = (clientKey normal, p.sessionId) ∨ m ∈ t.log :=
  List.mem_cons.mp (List.mem_filter.mp member).1

theorem mapped_mem {m : Mapping} (source : m = (clientKey normal, p.sessionId) ∨ m ∈ t.log)
    {j : Fin SESSION_CAPACITY} (active : (table.sessions j).active = true)
    (server : (table.sessions j).sessionId = m.2) : m ∈ (mapped t table normal p).log :=
  List.mem_filter.mpr ⟨List.mem_cons.mpr source, isOpen_iff.mpr ⟨j, active, server⟩⟩

theorem mapped_pairs {R : Mapping → Mapping → Prop} (symm : ∀ m m', R m m' → R m' m)
    (self : ∀ m, R m m) (old : ∀ m ∈ t.log, ∀ m' ∈ t.log, R m m')
    (new : ∀ m ∈ t.log, R (clientKey normal, p.sessionId) m) :
    ∀ m ∈ (mapped t table normal p).log, ∀ m' ∈ (mapped t table normal p).log, R m m' := by
  intro m member m' member'
  rcases mapped_old member with rfl | before
  · rcases mapped_old member' with rfl | before'
    · exact self _
    · exact new m' before'
  · rcases mapped_old member' with rfl | before'
    · exact symm _ _ (new m before)
    · exact old m before m' before'

theorem mapped_held (h : Assigned t)
    (new : Holds (table.sessions i) (clientKey normal, p.sessionId))
    (stay : ∀ m ∈ t.log, Holds (t.table.sessions i) m → Holds (table.sessions i) m)
    (others : ∀ j, j ≠ i → table.sessions j = t.table.sessions j) :
    ∀ m ∈ (mapped t table normal p).log, ∃ j, Holds (table.sessions j) m := by
  intro m logged
  rcases mapped_old logged with rfl | before
  · exact ⟨i, new⟩
  · obtain ⟨j, holds⟩ := h.held m before
    refine ⟨j, ?_⟩
    by_cases same : j = i
    · subst same
      exact stay m before holds
    · rw [others j same]
      exact holds

theorem mapped_known (h : Assigned t) (here : (table.sessions i).sessionId = p.sessionId)
    (wire : (table.sessions i).wireVersion = normal.wireVersion ∧
      (table.sessions i).wireForm = normal.wireForm)
    (others : ∀ j, j ≠ i → table.sessions j = t.table.sessions j) (j : Fin SESSION_CAPACITY)
    (active : (table.sessions j).active = true) :
    ∃ m ∈ (mapped t table normal p).log, m.2 = (table.sessions j).sessionId ∧
      m.1.wireVersion = (table.sessions j).wireVersion ∧
      m.1.wireForm = (table.sessions j).wireForm := by
  by_cases same : j = i
  · subst same
    exact ⟨_, mapped_mem (.inl rfl) active here, here.symm, wire.1.symm, wire.2.symm⟩
  · have kept := others j same
    obtain ⟨m, before, server, format⟩ := h.known j (kept ▸ active)
    refine ⟨m, mapped_mem (.inr before) active ?_, ?_⟩
    · rw [kept, server]
    · rw [kept]
      exact ⟨server, format⟩

/-- The slot that holds a mapping is the one with its server id. -/
theorem Assigned.holds (h : Assigned t) {m : Mapping} (member : m ∈ t.log)
    (active : (t.table.sessions i).active = true) (server : m.2 = (t.table.sessions i).sessionId) :
    Holds (t.table.sessions i) m := by
  obtain ⟨j, holds⟩ := h.held m member
  obtain rfl := h.distinct j i holds.active active (holds.server.trans server)
  exact holds

theorem joins_active (joins : JoinsSlot t.table table control p i) (j : Fin SESSION_CAPACITY) :
    (table.sessions j).active = (t.table.sessions j).active := by
  by_cases same : j = i
  · rw [same, joins.active, joins.was_active]
  · rw [joins.others j same]

theorem joins_session (joins : JoinsSlot t.table table control p i) (j : Fin SESSION_CAPACITY) :
    (table.sessions j).sessionId = (t.table.sessions j).sessionId := by
  by_cases same : j = i
  · rw [same, joins.session]
  · rw [joins.others j same]

/-- A packet joins a session all of whose packets carried its id, under the same format. -/
theorem joins_assigned (h : Assigned t) (owned : control.sessionByClient = true)
    (joins : JoinsSlot t.table table control p i)
    (wire : (table.sessions i).wireVersion = normal.wireVersion ∧
      (table.sessions i).wireForm = normal.wireForm)
    (agree : ∀ m ∈ t.log, m.2 = (t.table.sessions i).sessionId →
      m.1.sessionId = normal.sessionId)
    (version : (t.table.sessions i).wireVersion = normal.wireVersion)
    (form : normal.wireVersion ≠ 0 ∨ normal.sessionId ≠ 0 →
      (t.table.sessions i).wireForm = normal.wireForm) :
    Assigned (mapped t table normal p) := by
  have packet := joins.packet owned
  obtain ⟨first, member, server, format⟩ := h.known i joins.was_active
  have firstId := agree first member server
  have firstHolds := h.holds member joins.was_active server
  have here := joins.session.trans packet.symm
  have new : Holds (table.sessions i) (clientKey normal, p.sessionId) := by
    refine ⟨joins.active, here, wire.1, fun _ => wire.2, ?_⟩
    rw [joins.client, firstHolds.client, firstId, server, packet]
    rfl
  refine ⟨?_, mapped_held h new ?_ joins.others, mapped_known h here wire joins.others, ?_, ?_⟩
  · intro j k activeJ activeK same
    change (table.sessions j).active = true at activeJ
    change (table.sessions k).active = true at activeK
    change (table.sessions j).sessionId = (table.sessions k).sessionId at same
    rw [joins_active joins] at activeJ activeK
    rw [joins_session joins, joins_session joins] at same
    exact h.distinct j k activeJ activeK same
  · intro m before holds
    have carried := agree m before holds.server.symm
    refine ⟨joins.active, joins.session.trans holds.server, ?_, ?_, ?_⟩
    · rw [wire.1, ← version, holds.version]
    · intro keyed
      rw [wire.2, ← holds.form keyed]
      refine (form ?_).symm
      rwa [← version, holds.version, ← carried]
    · exact joins.client.trans holds.client
  · refine mapped_pairs (fun m m' same eq => (same eq.symm).symm) (fun _ _ => rfl) h.single ?_
    intro m before eq
    exact (agree m before (eq.symm.trans packet)).symm
  · refine mapped_pairs (fun m m' same eq explicit => (same eq.symm (eq ▸ explicit)).symm)
      (fun _ _ _ => rfl) h.sole ?_
    intro m before eq explicit
    have key : first.1 = clientKey normal :=
      ClientKey.ext firstId (format.1.trans version) (format.2.trans (form (.inr explicit)))
    have same := h.sole first member m before (key.trans eq) (by rw [key]; exact explicit)
    rw [← same, server]
    exact packet

theorem starts_distinct (h : Assigned t) (starts : StartsSlot t.table table control normal p i)
    (unused : openedId t.table control normal ∉ activeIds t.table) (j k : Fin SESSION_CAPACITY)
    (activeJ : (table.sessions j).active = true) (activeK : (table.sessions k).active = true)
    (same : (table.sessions j).sessionId = (table.sessions k).sessionId) : j = k := by
  by_cases atJ : j = i
  · by_cases atK : k = i
    · rw [atJ, atK]
    · rw [atJ, starts.session, starts.others k atK] at same
      rw [starts.others k atK] at activeK
      exact absurd (mem_activeIds.mpr ⟨k, activeK, same.symm⟩) unused
  · rw [starts.others j atJ] at activeJ same
    by_cases atK : k = i
    · rw [atK, starts.session] at same
      exact absurd (mem_activeIds.mpr ⟨j, activeJ, same⟩) unused
    · rw [starts.others k atK] at activeK same
      exact h.distinct j k activeJ activeK same

theorem Assigned.unmapped (h : Assigned t) (explicit : normal.sessionId ≠ 0)
    (missing : findByClientSession t.table normal.sessionId normal.wireVersion normal.wireForm =
      none) {m : Mapping} (member : m ∈ t.log) : clientKey normal ≠ m.1 := by
  intro eq
  obtain ⟨j, holds⟩ := h.held m member
  have carried : m.1.sessionId = normal.sessionId := by rw [← eq]; rfl
  have matches' : ((t.table.sessions j).active && (t.table.sessions j).clientSessionId ==
      normal.sessionId && (t.table.sessions j).wireVersion == normal.wireVersion &&
      (t.table.sessions j).wireForm == normal.wireForm) = true := by
    have client := holds.client
    rw [carried, if_neg explicit] at client
    have version := holds.version
    have form := holds.form (.inr (by rw [carried]; exact explicit))
    rw [← eq] at version form
    simp [holds.active, client, version, form, clientKey]
  unfold findByClientSession at missing
  rw [if_neg explicit] at missing
  have none := SlotTable.find?_none_iff.mp missing j
  rw [matches'] at none
  contradiction

theorem starts_assigned (h : Assigned t) (owned : control.sessionByClient = true)
    (starts : StartsSlot t.table table control normal p i) (opens : Opens t.table control normal)
    (ahead : t.table.nextSessionId ∉ activeIds t.table) :
    Assigned (mapped t table normal p) := by
  have opened : openedId t.table control normal = t.table.nextSessionId := if_pos (.inl owned)
  have packet := starts.packet owned
  have unused : openedId t.table control normal ∉ activeIds t.table := opened ▸ ahead
  have here := starts.session.trans packet.symm
  have new : Holds (table.sessions i) (clientKey normal, p.sessionId) := by
    refine ⟨starts.active, here, starts.wire.1, fun _ => starts.wire.2, ?_⟩
    rw [starts.client, if_pos owned, packet]
    change _ = if normal.sessionId = 0 then _ else normal.sessionId
    by_cases carried : normal.sessionId = 0
    · rw [if_pos carried, if_neg (not_not.mpr carried)]
    · rw [if_neg carried, if_pos carried]
  refine ⟨starts_distinct h starts unused, mapped_held h new ?_ starts.others,
    mapped_known h here starts.wire starts.others, ?_, ?_⟩
  · intro m _ holds
    have free := starts.was_free
    rw [holds.active] at free
    contradiction
  · refine mapped_pairs (fun m m' same eq => (same eq.symm).symm) (fun _ _ => rfl) h.single ?_
    intro m before eq
    obtain ⟨j, holds⟩ := h.held m before
    exact absurd (mem_activeIds.mpr ⟨j, holds.active, holds.server.trans (eq.symm.trans packet)⟩)
      unused
  · refine mapped_pairs (fun m m' same eq explicit => (same eq.symm (eq ▸ explicit)).symm)
      (fun _ _ _ => rfl) h.sole ?_
    intro m before eq explicit
    exact absurd eq (h.unmapped explicit (opens.1 owned) before)

theorem ingest_assigned (h : Assigned t) (owned : control.sessionByClient = true)
    (undisturbed : Undisturbed t (.ingest control normal nowMs)) :
    Assigned (trackedStep t (.ingest control normal nowMs)).1 := by
  obtain ⟨unborrowed, agrees, ahead⟩ := undisturbed
  obtain ⟨i, after, p, ingests, joins, found, wire, -⟩ | ⟨i, after, p, ingests, starts, opens⟩ |
      ⟨refused, full⟩ := ingest_slot t.table control normal nowMs
  · have result : (trackedStep t (.ingest control normal nowMs)).1 = mapped t after normal p := by
      simp [trackedStep, sessionStep, ingests, mapped]
    rw [result]
    obtain ⟨first, member, server, format⟩ := h.known i joins.was_active
    have firstHolds := h.holds member joins.was_active server
    rcases found with ⟨-, byId⟩ | ⟨unowned, -⟩ | ⟨raw, missing, byAddress⟩
    · obtain ⟨-, client, version, form⟩ := findByClientSession_some byId
      have carried : normal.sessionId ≠ 0 := by
        intro none
        unfold findByClientSession at byId
        rw [if_pos none] at byId
        contradiction
      -- A session that was opened without an id answers to its server id.
      have explicit : first.1.sessionId ≠ 0 := by
        intro none
        have borrowed := firstHolds.client
        rw [if_pos none, client] at borrowed
        exact unborrowed carried first member
          (ClientKey.ext none (format.1.trans version) (format.2.trans form)) borrowed.symm
      have firstId : first.1.sessionId = normal.sessionId := by
        have own := firstHolds.client
        rw [if_neg explicit, client] at own
        exact own.symm
      refine joins_assigned h owned joins wire ?_ version (fun _ => form)
      intro m before at'
      rw [← firstId]
      exact h.single m before first member (at'.trans server.symm)
    · rw [owned] at unowned
      contradiction
    · obtain ⟨agree, form⟩ := agrees raw (missing owned) i byAddress
      refine joins_assigned h owned joins wire agree ?_ ?_
      · exact (findRawByIp_some byAddress).2.trans raw.symm
      · rintro (structured | carried)
        · exact absurd raw structured
        · exact form carried
  · have result : (trackedStep t (.ingest control normal nowMs)).1 = mapped t after normal p := by
      simp [trackedStep, sessionStep, ingests, mapped]
    rw [result]
    exact starts_assigned h owned starts opens (ahead opens ⟨i, starts.was_free⟩)
  · have result : (trackedStep t (.ingest control normal nowMs)).1 =
        ⟨t.table, t.log.filter fun m => isOpen t.table m.2⟩ := by
      simp [trackedStep, sessionStep, refused]
    rw [result]
    exact emptied_assigned h fun j => .inr rfl

theorem step_assigned (op : SessionOp) (owned : ByClient op) (undisturbed : Undisturbed t op)
    (h : Assigned t) : Assigned (trackedStep t op).1 := by
  cases op with
  | ingest control normal nowMs => exact ingest_assigned h owned undisturbed
  | release sessionId => exact emptied_assigned h (release_emptied sessionId)
  | expire nowMs => exact emptied_assigned h (expire_emptied nowMs)

end Step

/-- Client sessions are kept apart as long as no client picks a server id that was given out
without one. -/
theorem client_sessions_isolated (ops : List SessionOp) (owned : ∀ op ∈ ops, ByClient op)
    (undisturbed : ∀ step ∈ steps trackedStep trackedInit ops, Undisturbed step.1 step.2) :
    ∀ t ∈ reached trackedStep trackedInit ops, Isolated t.log := by
  intro t member
  refine (run_reached (P := Assigned) (fun t op => ByClient op ∧ Undisturbed t op)
    (fun _ op ok h => step_assigned op ok.1 ok.2 h) trackedInit trackedInit_assigned ops ?_ t
    member).isolated
  intro step taken
  exact ⟨owned step.2 (steps_input taken), undisturbed step taken⟩

def clientPacket (sessionId : UInt64) : SessionOp :=
  .ingest ⟨true⟩ { RecvPacket.zero with
    wireVersion := 0x00040000, wireForm := 1, sessionId := sessionId } 1000

theorem clientPacket_owned (ids : List UInt64) :
    ∀ op ∈ ids.map clientPacket, ByClient op := by
  intro op member
  obtain ⟨id, -, rfl⟩ := List.mem_map.mp member
  exact rfl

theorem first_log : (trackedStep trackedInit (clientPacket 7)).1.log =
    [(⟨7, 0x00040000, 1⟩, 1)] := by
  decide +kernel

/-- Two clients under ids of their own. -/
theorem client_sessions_isolated_two :
    Isolated (run trackedStep trackedInit ([7, 9].map clientPacket)).1.log := by
  refine client_sessions_isolated _ (clientPacket_owned [7, 9]) ?_ _
    (List.mem_cons_of_mem _ (List.mem_cons_of_mem _ List.mem_cons_self))
  intro step taken
  have second : (trackedStep trackedInit (clientPacket 7)).1.table.nextSessionId ∉
      activeIds (trackedStep trackedInit (clientPacket 7)).1.table := by
    rw [mem_activeIds]
    decide +kernel
  have first : trackedInit.table.nextSessionId ∉ activeIds trackedInit.table := by
    rw [mem_activeIds]
    decide +kernel
  rcases List.mem_cons.mp taken with rfl | later
  · exact ⟨fun _ m member => absurd member List.not_mem_nil,
      fun raw => absurd raw (by decide), fun _ _ => first⟩
  · obtain rfl := List.mem_singleton.mp later
    refine ⟨?_, fun raw => absurd raw (by decide), fun _ _ => second⟩
    intro _ m member
    rw [first_log] at member
    obtain rfl := List.mem_singleton.mp member
    exact fun none => absurd none (by decide)

theorem borrowed_log : (run trackedStep trackedInit [clientPacket 0, clientPacket 1]).1.log =
    [(⟨1, 0x00040000, 1⟩, 1), (⟨0, 0x00040000, 1⟩, 1)] := by
  decide +kernel

/-- The client that picks id 1 joins the session of the client that picked none. -/
theorem client_session_borrowed :
    ¬ ∀ ops, (∀ op ∈ ops, ByClient op) →
      ∀ t ∈ reached trackedStep trackedInit ops, Isolated t.log := by
  intro always
  have isolated := always ([0, 1].map clientPacket) (clientPacket_owned [0, 1])
    (run trackedStep trackedInit [clientPacket 0, clientPacket 1]).1
    (List.mem_cons_of_mem _ (List.mem_cons_of_mem _ List.mem_cons_self))
  rw [borrowed_log] at isolated
  have same := (isolated _ List.mem_cons_self _ (List.mem_cons_of_mem _ List.mem_cons_self)
    rfl rfl).1 rfl
  exact absurd same (by decide)

end Siglatch.MuxSessionClients
