import Siglatch.SlotTable
import Siglatch.MuxTypes

set_option autoImplicit false

namespace Siglatch.MuxSession
open MuxTypes

def SESSION_CAPACITY : ℕ := 64
def SESSION_TIMEOUT_MS : UInt64 := 30000

structure Session where
  sessionId : UInt64
  clientSessionId : UInt64
  lastActiveMs : UInt64
  expiresAtMs : UInt64
  wireVersion : UInt32
  wireForm : UInt8
  ip : CString
  clientPort : UInt16
  encrypted : Bool
  active : Bool
  deriving DecidableEq

def Session.zero : Session := ⟨0, 0, 0, 0, 0, 0, [], 0, false, false⟩

structure SessionState where
  sessions : Fin SESSION_CAPACITY → Session
  sessionCount : ℕ
  nextSessionId : UInt64

def stateInit : SessionState := ⟨fun _ => .zero, 0, 1⟩

def stateReset (_ : SessionState) : SessionState := stateInit

def find (state : SessionState) (sessionId : UInt64) : Option (Fin SESSION_CAPACITY) :=
  if sessionId = 0 then none
  else SlotTable.find? state.sessions fun s => s.active && s.sessionId == sessionId

/-- The lookup by the id that the client chose; the peer's address takes no part in it. -/
def findByClientSession (state : SessionState) (clientSessionId : UInt64) (wireVersion : UInt32)
    (wireForm : UInt8) : Option (Fin SESSION_CAPACITY) :=
  if clientSessionId = 0 then none
  else SlotTable.find? state.sessions fun s =>
    s.active && s.clientSessionId == clientSessionId && s.wireVersion == wireVersion &&
      s.wireForm == wireForm

def findRawByIp (state : SessionState) (ip : CString) : Option (Fin SESSION_CAPACITY) :=
  if ip = [] then none
  else SlotTable.find? state.sessions fun s =>
    s.active && s.wireVersion == 0 && s.ip.take 64 == ip.take 64

def Session.touch (session : Session) (nowMs : UInt64) : Session :=
  { session with lastActiveMs := nowMs, expiresAtMs := nowMs + SESSION_TIMEOUT_MS }

def SessionState.set (state : SessionState) (i : Fin SESSION_CAPACITY) (session : Session) :
    SessionState :=
  { state with sessions := Function.update state.sessions i session }

def clear (state : SessionState) (i : Fin SESSION_CAPACITY) : SessionState :=
  if (state.sessions i).active then
    { state.set i .zero with sessionCount := state.sessionCount - 1 }
  else state

def Session.refreshRaw (session : Session) (normal : RecvPacket) : Session :=
  { session with
    clientPort := normal.clientPort, encrypted := normal.encrypted
    wireVersion := normal.wireVersion, wireForm := normal.wireForm }

def Session.refresh (session : Session) (normal : RecvPacket) : Session :=
  { session.refreshRaw normal with ip := normal.ip.take 63 }

structure Registered where
  slot : Fin SESSION_CAPACITY
  state : SessionState
  normal : RecvPacket

/-- The session id for a packet without a session, with the counter it leaves behind. -/
def takeSessionId (state : SessionState) (clientOwned : Bool) (normal : RecvPacket) :
    UInt64 × UInt64 :=
  if clientOwned ∨ normal.sessionId = 0 then (state.nextSessionId, state.nextSessionId + 1)
  else (normal.sessionId, state.nextSessionId)

def openSession (state : SessionState) (clientOwned : Bool) (normal : RecvPacket)
    (i : Fin SESSION_CAPACITY) : Registered :=
  let taken := takeSessionId state clientOwned normal
  let sessionId := taken.1
  let nextSessionId := if taken.2 ≤ sessionId then sessionId + 1 else taken.2
  let clientSessionId :=
    if clientOwned then (if normal.sessionId ≠ 0 then normal.sessionId else sessionId) else 0
  let session : Session := { Session.zero.refresh normal with
    sessionId := sessionId, clientSessionId := clientSessionId, active := true }
  ⟨i, { state.set i session with
      nextSessionId := nextSessionId, sessionCount := state.sessionCount + 1 },
    if clientOwned then { normal with sessionId := sessionId } else normal⟩

def register (state : SessionState) (control : Control) (normal : RecvPacket) :
    Option Registered :=
  let clientOwned := control.sessionByClient
  match (if clientOwned then
      findByClientSession state normal.sessionId normal.wireVersion normal.wireForm else none) with
  | some i => some ⟨i, state.set i ((state.sessions i).refresh normal),
      { normal with sessionId := (state.sessions i).sessionId }⟩
  | none =>
    match (if !clientOwned && normal.sessionId != 0 then find state normal.sessionId else none) with
    | some i => some ⟨i, state.set i ((state.sessions i).refresh normal), normal⟩
    | none =>
      match (if normal.wireVersion = 0 then findRawByIp state normal.ip else none) with
      | some i => some ⟨i, state.set i ((state.sessions i).refreshRaw normal), normal⟩
      | none =>
        match SlotTable.find? state.sessions fun s => !s.active with
        | none => none
        | some i => some (openSession state clientOwned normal i)

def ingest (state : SessionState) (control : Control) (normal : RecvPacket) (nowMs : UInt64) :
    Option (SessionState × RecvPacket) :=
  let clientOwned := control.sessionByClient
  let syntheticSession := normal.sessionId == 0
  match register state control normal with
  | none => none
  | some r =>
    let session := r.state.sessions r.slot
    let normal :=
      if (syntheticSession && !clientOwned) || clientOwned then
        { r.normal with sessionId := session.sessionId }
      else r.normal
    some (r.state.set r.slot (session.touch nowMs),
      { normal with syntheticSession := syntheticSession })

def release (state : SessionState) (sessionId : UInt64) : Bool × SessionState :=
  match find state sessionId with
  | none => (false, state)
  | some i => (true, clear state i)

def isExpired (session : Session) (nowMs : UInt64) : Bool :=
  session.active && session.expiresAtMs != 0 && decide (session.expiresAtMs ≤ nowMs)

def expiredCount (state : SessionState) (nowMs : UInt64) : ℕ :=
  (Finset.univ.filter fun i => isExpired (state.sessions i) nowMs).card

def expire (state : SessionState) (nowMs : UInt64) : ℕ × SessionState :=
  (expiredCount state nowMs, { state with
    sessions := fun i =>
      if isExpired (state.sessions i) nowMs then .zero else state.sessions i
    sessionCount := state.sessionCount - expiredCount state nowMs })

section Lookup

variable {state : SessionState} {i : Fin SESSION_CAPACITY}

theorem find_some {sessionId : UInt64} (h : find state sessionId = some i) :
    (state.sessions i).active = true ∧ (state.sessions i).sessionId = sessionId := by
  unfold find at h
  split at h
  · contradiction
  · simpa using SlotTable.find?_holds h

theorem findByClientSession_some {clientSessionId : UInt64} {wireVersion : UInt32}
    {wireForm : UInt8}
    (h : findByClientSession state clientSessionId wireVersion wireForm = some i) :
    (state.sessions i).active = true ∧ (state.sessions i).clientSessionId = clientSessionId ∧
    (state.sessions i).wireVersion = wireVersion ∧ (state.sessions i).wireForm = wireForm := by
  unfold findByClientSession at h
  split at h
  · contradiction
  · simpa [and_assoc] using SlotTable.find?_holds h

theorem findRawByIp_some {ip : CString} (h : findRawByIp state ip = some i) :
    (state.sessions i).active = true ∧ (state.sessions i).wireVersion = 0 := by
  unfold findRawByIp at h
  split at h
  · contradiction
  · have hp := SlotTable.find?_holds h
    simp only [Bool.and_eq_true, beq_iff_eq] at hp
    exact hp.1

end Lookup

section Ingest

variable {state state' : SessionState} {control : Control} {normal p : RecvPacket}
  {nowMs : UInt64}

/-- No session of the table is found for the packet. -/
def Opens (state : SessionState) (control : Control) (normal : RecvPacket) : Prop :=
  (control.sessionByClient = true →
    findByClientSession state normal.sessionId normal.wireVersion normal.wireForm = none) ∧
  (control.sessionByClient = false → normal.sessionId ≠ 0 → find state normal.sessionId = none) ∧
  (normal.wireVersion = 0 → findRawByIp state normal.ip = none)

def handedOn (normal : RecvPacket) (sessionId : UInt64) : RecvPacket :=
  { normal with sessionId := sessionId, syntheticSession := normal.sessionId == 0 }

/-- The packets that a normaliser yields: only client-owned sessions carry an id. -/
def Normalised (control : Control) (normal : RecvPacket) : Prop :=
  control.sessionByClient = true ∨ normal.sessionId = 0

/-- A packet of a known session is handed on under its id and refreshes that session. -/
structure Joins (state state' : SessionState) (normal p : RecvPacket) (nowMs : UInt64)
    (i : Fin SESSION_CAPACITY) : Prop where
  was_active : (state.sessions i).active = true
  packet : p = handedOn normal (state.sessions i).sessionId
  counter : state'.nextSessionId = state.nextSessionId
  active : (state'.sessions i).active = true
  session : (state'.sessions i).sessionId = (state.sessions i).sessionId
  client : (state'.sessions i).clientSessionId = (state.sessions i).clientSessionId
  touched : (state'.sessions i).expiresAtMs = nowMs + SESSION_TIMEOUT_MS
  wire : (state'.sessions i).wireVersion = normal.wireVersion ∧
    (state'.sessions i).wireForm = normal.wireForm
  others : ∀ j, j ≠ i → state'.sessions j = state.sessions j

/-- A packet of no known session takes a free slot and the next session id. -/
structure Starts (state state' : SessionState) (normal p : RecvPacket) (nowMs : UInt64)
    (i : Fin SESSION_CAPACITY) : Prop where
  was_free : (state.sessions i).active = false
  packet : p = handedOn normal state.nextSessionId
  counter : state'.nextSessionId = state.nextSessionId + 1
  active : (state'.sessions i).active = true
  session : (state'.sessions i).sessionId = state.nextSessionId
  client : normal.sessionId ≠ 0 → (state'.sessions i).clientSessionId = normal.sessionId
  touched : (state'.sessions i).expiresAtMs = nowMs + SESSION_TIMEOUT_MS
  wire : (state'.sessions i).wireVersion = normal.wireVersion ∧
    (state'.sessions i).wireForm = normal.wireForm
  others : ∀ j, j ≠ i → state'.sessions j = state.sessions j

theorem takeSessionId_normalised (state : SessionState) (hn : Normalised control normal) :
    takeSessionId state control.sessionByClient normal =
      (state.nextSessionId, state.nextSessionId + 1) :=
  if_pos (by simpa [Normalised] using hn)

theorem openSession_counter (state : SessionState) (i : Fin SESSION_CAPACITY)
    (hn : Normalised control normal) :
    (openSession state control.sessionByClient normal i).state.nextSessionId =
      state.nextSessionId + 1 := by
  unfold openSession
  rw [takeSessionId_normalised state hn]
  exact ite_id _

theorem openSession_slot (state : SessionState) (i : Fin SESSION_CAPACITY)
    (hn : Normalised control normal) :
    let session := (openSession state control.sessionByClient normal i).state.sessions i
    session.active = true ∧ session.sessionId = state.nextSessionId ∧
    (normal.sessionId ≠ 0 → session.clientSessionId = normal.sessionId) ∧
    session.wireVersion = normal.wireVersion ∧ session.wireForm = normal.wireForm := by
  unfold openSession SessionState.set
  rw [takeSessionId_normalised state hn]
  simp only [Function.update_self]
  refine ⟨trivial, trivial, ?_, rfl, rfl⟩
  intro hs
  rw [if_pos (hn.resolve_right hs), if_pos hs]

/-- The session keeps what identifies it and takes over the packet's wire version and form. -/
structure Refreshes (old new : Session) (normal : RecvPacket) : Prop where
  active : new.active = old.active
  session : new.sessionId = old.sessionId
  client : new.clientSessionId = old.clientSessionId
  wire : new.wireVersion = normal.wireVersion ∧ new.wireForm = normal.wireForm

theorem refresh_refreshes (old : Session) (normal : RecvPacket) :
    Refreshes old (old.refresh normal) normal := ⟨rfl, rfl, rfl, rfl, rfl⟩

theorem refreshRaw_refreshes (old : Session) (normal : RecvPacket) :
    Refreshes old (old.refreshRaw normal) normal := ⟨rfl, rfl, rfl, rfl, rfl⟩

def Found (state : SessionState) (control : Control) (normal : RecvPacket)
    (i : Fin SESSION_CAPACITY) : Prop :=
  (control.sessionByClient = true ∧
    findByClientSession state normal.sessionId normal.wireVersion normal.wireForm = some i) ∨
  (control.sessionByClient = false ∧ find state normal.sessionId = some i) ∨
  (normal.wireVersion = 0 ∧ (control.sessionByClient = true →
      findByClientSession state normal.sessionId normal.wireVersion normal.wireForm = none) ∧
    findRawByIp state normal.ip = some i)

theorem Found.active {state : SessionState} {control : Control} {normal : RecvPacket}
    {i : Fin SESSION_CAPACITY} (h : Found state control normal i) :
    (state.sessions i).active = true := by
  rcases h with ⟨-, hfound⟩ | ⟨-, hfound⟩ | ⟨-, -, hfound⟩
  · exact (findByClientSession_some hfound).1
  · exact (find_some hfound).1
  · exact (findRawByIp_some hfound).1

theorem Found.not_opens {state : SessionState} {control : Control} {normal : RecvPacket}
    {i : Fin SESSION_CAPACITY} (h : Found state control normal i) :
    ¬ Opens state control normal := by
  rintro ⟨hclient, hown, hraw⟩
  rcases h with ⟨hc, hfound⟩ | ⟨hc, hfound⟩ | ⟨hwire, -, hfound⟩
  · rw [hclient hc] at hfound
    contradiction
  · have hid : normal.sessionId ≠ 0 := by
      intro hzero
      rw [find, if_pos hzero] at hfound
      contradiction
    rw [hown hc hid] at hfound
    contradiction
  · rw [hraw hwire] at hfound
    contradiction

/-- The lookups of `register` in the order it makes them. -/
theorem register_found (state : SessionState) (control : Control) (normal : RecvPacket) :
    (∃ i session normal', register state control normal = some ⟨i, state.set i session, normal'⟩ ∧
      (state.sessions i).active = true ∧ Refreshes (state.sessions i) session normal ∧
      Found state control normal i ∧ ¬ Opens state control normal ∧
      (Normalised control normal → ∃ sessionId,
        normal' = { normal with sessionId := sessionId }) ∧
      (control.sessionByClient = true → normal.wireVersion ≠ 0 →
        findByClientSession state normal.sessionId normal.wireVersion normal.wireForm = some i)) ∨
    (∃ i, register state control normal =
      some (openSession state control.sessionByClient normal i) ∧
      (state.sessions i).active = false ∧ Opens state control normal) ∨
    (register state control normal = none ∧ Opens state control normal ∧
      ∀ i, (state.sessions i).active = true) := by
  unfold register
  simp only
  split
  · rename_i i hfirst
    cases hclient : control.sessionByClient with
    | false => rw [hclient] at hfirst; simp at hfirst
    | true =>
      rw [hclient, if_pos rfl] at hfirst
      have hfound : Found state control normal i := .inl ⟨hclient, hfirst⟩
      exact .inl ⟨i, _, _, rfl, hfound.active, refresh_refreshes _ _, hfound, hfound.not_opens,
        fun _ => ⟨_, rfl⟩, fun _ _ => hfirst⟩
  rename_i hfirst
  have hclient : control.sessionByClient = true →
      findByClientSession state normal.sessionId normal.wireVersion normal.wireForm = none := by
    intro hc
    rwa [if_pos hc] at hfirst
  split
  · rename_i i hown
    by_cases hid : (!control.sessionByClient && normal.sessionId != 0) = true
    · rw [if_pos hid] at hown
      have hc : control.sessionByClient = false := by simpa using (Bool.and_eq_true_iff.mp hid).1
      have hfound : Found state control normal i := .inr (.inl ⟨hc, hown⟩)
      refine .inl ⟨i, _, _, rfl, hfound.active, refresh_refreshes _ _, hfound, hfound.not_opens,
        fun _ => ⟨normal.sessionId, rfl⟩, fun hc' => ?_⟩
      rw [hc] at hc'
      contradiction
    · rw [if_neg hid] at hown
      contradiction
  rename_i hown
  have hfind : control.sessionByClient = false → normal.sessionId ≠ 0 →
      find state normal.sessionId = none := by
    intro hc hs
    rwa [if_pos (by simp [hc, hs])] at hown
  split
  · rename_i i hraw
    by_cases hwire : normal.wireVersion = 0
    · rw [if_pos hwire] at hraw
      have hfound : Found state control normal i := .inr (.inr ⟨hwire, hclient, hraw⟩)
      exact .inl ⟨i, _, _, rfl, hfound.active, refreshRaw_refreshes _ _, hfound,
        hfound.not_opens, fun _ => ⟨normal.sessionId, rfl⟩, fun _ hne => absurd hwire hne⟩
    · rw [if_neg hwire] at hraw
      contradiction
  rename_i hraw
  have hopen : Opens state control normal := by
    refine ⟨hclient, hfind, ?_⟩
    intro hwire
    rwa [if_pos hwire] at hraw
  split
  · rename_i hfree
    refine .inr (.inr ⟨rfl, hopen, ?_⟩)
    intro i
    simpa using SlotTable.find?_none_iff.mp hfree i
  · rename_i i hfree
    refine .inr (.inl ⟨i, rfl, ?_, hopen⟩)
    have hactive : (!(state.sessions i).active) = true := SlotTable.find?_holds hfree
    simpa using hactive

theorem register_cases (state : SessionState) (hn : Normalised control normal) :
    (∃ i session sessionId, register state control normal =
        some ⟨i, state.set i session, { normal with sessionId := sessionId }⟩ ∧
      (state.sessions i).active = true ∧ Refreshes (state.sessions i) session normal ∧
      ¬ Opens state control normal ∧
      (control.sessionByClient = true → normal.wireVersion ≠ 0 →
        findByClientSession state normal.sessionId normal.wireVersion normal.wireForm = some i)) ∨
    (∃ i, register state control normal =
      some (openSession state control.sessionByClient normal i) ∧
      (state.sessions i).active = false ∧ Opens state control normal) ∨
    (register state control normal = none ∧ Opens state control normal ∧
      ∀ i, (state.sessions i).active = true) := by
  obtain ⟨i, session, normal', hreg, hactive, href, -, hopen, hkept, hby⟩ | hrest :=
    register_found state control normal
  · obtain ⟨sessionId, rfl⟩ := hkept hn
    exact .inl ⟨i, session, sessionId, hreg, hactive, href, hopen, hby⟩
  · exact .inr hrest

theorem ingest_of_register {r : Registered} {sessionId : UInt64} (hn : Normalised control normal)
    (h : register state control normal = some r)
    (hr : r.normal = { normal with sessionId := sessionId }) :
    ingest state control normal nowMs =
      some (r.state.set r.slot ((r.state.sessions r.slot).touch nowMs),
        handedOn normal (r.state.sessions r.slot).sessionId) := by
  have htake : ((normal.sessionId == 0 && !control.sessionByClient) || control.sessionByClient) =
      true := by
    obtain hclient | hz := hn
    · simp [hclient]
    · simp [hz]
  unfold ingest
  rw [h]
  simp only [htake, if_true, hr]
  rfl

/-- Session intake: the packet joins a session that is looked up for it, or starts a new one,
    or there is neither a session for it nor a free slot. -/
theorem ingest_cases (state : SessionState) (nowMs : UInt64) (hn : Normalised control normal) :
    (∃ i state' p, ingest state control normal nowMs = some (state', p) ∧
      Joins state state' normal p nowMs i ∧ ¬ Opens state control normal ∧
      (control.sessionByClient = true → normal.wireVersion ≠ 0 →
        findByClientSession state normal.sessionId normal.wireVersion normal.wireForm = some i)) ∨
    (∃ i state' p, ingest state control normal nowMs = some (state', p) ∧
      Starts state state' normal p nowMs i ∧ Opens state control normal) ∨
    (ingest state control normal nowMs = none ∧ Opens state control normal ∧
      ∀ i, (state.sessions i).active = true) := by
  obtain ⟨i, session, sessionId, hreg, hactive, href, hopen, hby⟩ | ⟨i, hreg, hfree, hopen⟩ |
      ⟨hreg, hopen, hfull⟩ := register_cases state hn
  · refine .inl ⟨i, _, _, ingest_of_register hn hreg rfl, ?_, hopen, hby⟩
    have hslot : (state.set i session).sessions i = session := Function.update_self _ _ _
    have htouched : (((state.set i session).set i (session.touch nowMs)).sessions i) =
        session.touch nowMs := Function.update_self _ _ _
    rw [hslot, href.session]
    refine ⟨hactive, rfl, rfl, ?_, ?_, ?_, ?_, ?_, ?_⟩
    · rw [htouched]; exact href.active.trans hactive
    · rw [htouched]; exact href.session
    · rw [htouched]; exact href.client
    · rw [htouched]; rfl
    · rw [htouched]; exact href.wire
    · intro j hj
      simp only [SessionState.set, Function.update_of_ne hj]
  · obtain ⟨ha, hs, hc, hw⟩ := openSession_slot state i hn
    have hnormal : ∃ sessionId, (openSession state control.sessionByClient normal i).normal =
        { normal with sessionId := sessionId } := by
      unfold openSession
      simp only
      split
      · exact ⟨_, rfl⟩
      · exact ⟨normal.sessionId, rfl⟩
    obtain ⟨sessionId, hnormal⟩ := hnormal
    refine .inr (.inl ⟨i, _, _, ingest_of_register hn hreg hnormal, ?_, hopen⟩)
    have hslot : (openSession state control.sessionByClient normal i).slot = i := rfl
    rw [hslot, hs]
    refine ⟨hfree, rfl, openSession_counter state i hn, ?_, ?_, ?_, ?_, ?_, ?_⟩
    · simp only [SessionState.set, Function.update_self]; exact ha
    · simp only [SessionState.set, Function.update_self]; exact hs
    · simp only [SessionState.set, Function.update_self]; exact hc
    · simp only [SessionState.set, Function.update_self]; rfl
    · simp only [SessionState.set, Function.update_self]; exact hw
    · intro j hj
      simp only [SessionState.set, openSession, Function.update_of_ne hj]
  · refine .inr (.inr ⟨?_, hopen, hfull⟩)
    unfold ingest
    rw [hreg]

end Ingest

section Release

variable {state : SessionState}

def Open (state : SessionState) (sessionId : UInt64) : Prop :=
  ∃ i, (state.sessions i).active = true ∧ (state.sessions i).sessionId = sessionId

theorem cleared {i : Fin SESSION_CAPACITY} (active : (state.sessions i).active = true) :
    clear state i = { state.set i .zero with sessionCount := state.sessionCount - 1 } :=
  if_pos active

/-- A release empties slots and leaves the others alone. -/
theorem release_emptied (sessionId : UInt64) (j : Fin SESSION_CAPACITY) :
    (release state sessionId).2.sessions j = .zero ∨
      (release state sessionId).2.sessions j = state.sessions j := by
  unfold release
  split
  · exact .inr rfl
  · rename_i i found
    rw [cleared (find_some found).1]
    by_cases same : j = i
    · subst same
      exact .inl (Function.update_self _ _ _)
    · exact .inr (Function.update_of_ne same _ _)

theorem expire_emptied (nowMs : UInt64) (j : Fin SESSION_CAPACITY) :
    (expire state nowMs).2.sessions j = .zero ∨
      (expire state nowMs).2.sessions j = state.sessions j := by
  change (if isExpired (state.sessions j) nowMs then Session.zero else state.sessions j) = .zero ∨
    (if isExpired (state.sessions j) nowMs then Session.zero else state.sessions j) =
      state.sessions j
  split
  · exact .inl rfl
  · exact .inr rfl

theorem open_of_emptied {after : SessionState}
    (emptied : ∀ j, after.sessions j = .zero ∨ after.sessions j = state.sessions j)
    {sessionId : UInt64} (h : Open after sessionId) : Open state sessionId := by
  obtain ⟨i, active, same⟩ := h
  rcases emptied i with gone | kept
  · rw [gone] at active
    contradiction
  · rw [kept] at active same
    exact ⟨i, active, same⟩

theorem expire_open {nowMs : UInt64} {sessionId : UInt64}
    (h : Open (expire state nowMs).2 sessionId) : Open state sessionId :=
  open_of_emptied (expire_emptied nowMs) h

theorem release_frame (sessionId : UInt64) :
    (release state sessionId).2.nextSessionId = state.nextSessionId ∧
    ∀ sessionId', Open (release state sessionId).2 sessionId' → Open state sessionId' := by
  refine ⟨?_, fun _ => open_of_emptied (release_emptied sessionId)⟩
  unfold release
  split
  · rfl
  · rename_i i found
    rw [cleared (find_some found).1]
    rfl

end Release

end Siglatch.MuxSession
