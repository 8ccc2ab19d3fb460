import Siglatch.MuxSession
import Siglatch.StepRuns

set_option autoImplicit false

namespace Siglatch.MuxSessionRuns
open MuxTypes MuxSession StepRuns

/-- What tells client sessions apart: the id that the packet carries, under its wire format. -/
@[ext] structure ClientKey where
  sessionId : UInt64
  wireVersion : UInt32
  wireForm : UInt8
  deriving DecidableEq

def clientKey (normal : RecvPacket) : ClientKey :=
  ⟨normal.sessionId, normal.wireVersion, normal.wireForm⟩

inductive SessionOp where
  | ingest (control : Control) (normal : RecvPacket) (nowMs : UInt64)
  | release (sessionId : UInt64)
  | expire (nowMs : UInt64)

/-- One call on the table; an ingested packet reports the session that it went to. -/
def sessionStep (state : SessionState) :
    SessionOp → SessionState × List (ClientKey × UInt64)
  | .ingest control normal nowMs =>
    match ingest state control normal nowMs with
    | none => (state, [])
    | some (state, p) => (state, [(clientKey normal, p.sessionId)])
  | .release sessionId => ((release state sessionId).2, [])
  | .expire nowMs => ((expire state nowMs).2, [])

def LAST_SESSION_ID : UInt64 := 0xFFFFFFFFFFFFFFFF

def activeId (session : Session) : Option UInt64 :=
  if session.active then some session.sessionId else none

def activeIds (state : SessionState) : Multiset UInt64 :=
  SlotTable.contents activeId state.sessions

structure TableInv (state : SessionState) : Prop where
  distinct : (activeIds state).Nodup
  nonzero : 0 ∉ activeIds state
  counted : state.sessionCount = (activeIds state).card
  ahead : ∀ sessionId ∈ activeIds state, sessionId < state.nextSessionId
  fresh : state.nextSessionId ≠ 0

section Ingest

variable {state state' : SessionState} {control : Control} {normal p : RecvPacket}
  {nowMs : UInt64} {i : Fin SESSION_CAPACITY}

def openedId (state : SessionState) (control : Control) (normal : RecvPacket) : UInt64 :=
  if control.sessionByClient ∨ normal.sessionId = 0 then state.nextSessionId else normal.sessionId

def counterAfter (state : SessionState) (control : Control) (normal : RecvPacket) : UInt64 :=
  if control.sessionByClient ∨ normal.sessionId = 0 then state.nextSessionId + 1
  else state.nextSessionId

structure JoinsSlot (state state' : SessionState) (control : Control) (p : RecvPacket)
    (i : Fin SESSION_CAPACITY) : Prop where
  was_active : (state.sessions i).active = true
  packet : control.sessionByClient = true → p.sessionId = (state.sessions i).sessionId
  counter : state'.nextSessionId = state.nextSessionId
  count : state'.sessionCount = state.sessionCount
  active : (state'.sessions i).active = true
  session : (state'.sessions i).sessionId = (state.sessions i).sessionId
  client : (state'.sessions i).clientSessionId = (state.sessions i).clientSessionId
  others : ∀ j, j ≠ i → state'.sessions j = state.sessions j

structure StartsSlot (state state' : SessionState) (control : Control) (normal p : RecvPacket)
    (i : Fin SESSION_CAPACITY) : Prop where
  was_free : (state.sessions i).active = false
  packet : control.sessionByClient = true → p.sessionId = openedId state control normal
  counter : state'.nextSessionId =
    if counterAfter state control normal ≤ openedId state control normal then
      openedId state control normal + 1 else counterAfter state control normal
  count : state'.sessionCount = state.sessionCount + 1
  active : (state'.sessions i).active = true
  session : (state'.sessions i).sessionId = openedId state control normal
  client : (state'.sessions i).clientSessionId =
    if control.sessionByClient then
      (if normal.sessionId ≠ 0 then normal.sessionId else openedId state control normal) else 0
  wire : (state'.sessions i).wireVersion = normal.wireVersion ∧
    (state'.sessions i).wireForm = normal.wireForm
  others : ∀ j, j ≠ i → state'.sessions j = state.sessions j

theorem ingest_of_registered {r : Registered} (h : register state control normal = some r) :
    ∃ p, ingest state control normal nowMs =
        some (r.state.set r.slot ((r.state.sessions r.slot).touch nowMs), p) ∧
      (control.sessionByClient = true → p.sessionId = (r.state.sessions r.slot).sessionId) := by
  unfold ingest
  rw [h]
  refine ⟨_, rfl, ?_⟩
  intro owned
  simp [owned]

theorem takeSessionId_opened (state : SessionState) (control : Control) (normal : RecvPacket) :
    takeSessionId state control.sessionByClient normal =
      (openedId state control normal, counterAfter state control normal) := by
  unfold takeSessionId openedId counterAfter
  split <;> rfl

theorem openSession_starts (free : (state.sessions i).active = false)
    (packet : control.sessionByClient = true → p.sessionId =
      ((openSession state control.sessionByClient normal i).state.sessions i).sessionId) :
    StartsSlot state ((openSession state control.sessionByClient normal i).state.set i
      (((openSession state control.sessionByClient normal i).state.sessions i).touch nowMs))
      control normal p i := by
  have slot : (openSession state control.sessionByClient normal i).state.sessions i =
      { Session.zero.refresh normal with
        sessionId := openedId state control normal
        clientSessionId := if control.sessionByClient then
          (if normal.sessionId ≠ 0 then normal.sessionId else openedId state control normal) else 0
        active := true } := by
    unfold openSession
    rw [takeSessionId_opened]
    exact Function.update_self _ _ _
  have touched (session : Session) (state : SessionState) :
      (state.set i session).sessions i = session := Function.update_self _ _ _
  refine ⟨free, ?_, ?_, rfl, ?_, ?_, ?_, ?_, ?_⟩
  · intro owned
    rw [packet owned, slot]
  · unfold openSession
    rw [takeSessionId_opened]
    rfl
  · rw [touched, slot]
    rfl
  · rw [touched, slot]
    rfl
  · rw [touched, slot]
    rfl
  · rw [touched, slot]
    exact ⟨rfl, rfl⟩
  · intro j other
    simp only [SessionState.set, openSession, Function.update_of_ne other]

/-- Every ingest joins the session that a lookup finds, or opens one, or finds the table full. -/
theorem ingest_slot (state : SessionState) (control : Control) (normal : RecvPacket)
    (nowMs : UInt64) :
    (∃ i state' p, ingest state control normal nowMs = some (state', p) ∧
      JoinsSlot state state' control p i ∧ Found state control normal i ∧
      ((state'.sessions i).wireVersion = normal.wireVersion ∧
        (state'.sessions i).wireForm = normal.wireForm) ∧ ¬ Opens state control normal) ∨
    (∃ i state' p, ingest state control normal nowMs = some (state', p) ∧
      StartsSlot state state' control normal p i ∧ Opens state control normal) ∨
    (ingest state control normal nowMs = none ∧ ∀ i, (state.sessions i).active = true) := by
  obtain ⟨i, session, normal', registers, active, refreshes, found, opens, -, -⟩ |
      ⟨i, registers, free, opens⟩ | ⟨registers, opens, full⟩ :=
    register_found state control normal
  · obtain ⟨p, ingests, packet⟩ := @ingest_of_registered state control normal nowMs _ registers
    have slot : (state.set i session).sessions i = session := Function.update_self _ _ _
    have touched : ((state.set i session).set i (session.touch nowMs)).sessions i =
        session.touch nowMs := Function.update_self _ _ _
    dsimp only at ingests packet
    rw [slot] at ingests packet
    refine .inl ⟨i, _, p, ingests, ⟨active, ?_, rfl, rfl, ?_, ?_, ?_, ?_⟩, found, ?_, opens⟩
    · intro owned
      exact (packet owned).trans refreshes.session
    · rw [touched]
      exact refreshes.active.trans active
    · rw [touched]
      exact refreshes.session
    · rw [touched]
      exact refreshes.client
    · intro j other
      simp only [SessionState.set, Function.update_of_ne other]
    · rw [touched]
      exact refreshes.wire
  · obtain ⟨p, ingests, packet⟩ := @ingest_of_registered state control normal nowMs _ registers
    exact .inr (.inl ⟨i, _, p, ingests, openSession_starts free packet, opens⟩)
  · refine .inr (.inr ⟨?_, full⟩)
    unfold ingest
    rw [registers]

end Ingest

section Table

variable {state state' : SessionState} {control : Control} {normal p : RecvPacket}
  {nowMs : UInt64} {i : Fin SESSION_CAPACITY}

theorem activeId_some {session : Session} (h : session.active = true) :
    activeId session = some session.sessionId := if_pos h

theorem activeId_none {session : Session} (h : session.active = false) :
    activeId session = none := if_neg (by rw [h]; decide)

theorem mem_activeIds {sessionId : UInt64} : sessionId ∈ activeIds state ↔
    ∃ i, (state.sessions i).active = true ∧ (state.sessions i).sessionId = sessionId := by
  unfold activeIds
  rw [SlotTable.mem_contents]
  simp [activeId]

theorem joins_activeIds (joins : JoinsSlot state state' control p i) :
    activeIds state' = activeIds state := by
  unfold activeIds
  rw [SlotTable.update_of_others joins.others]
  apply SlotTable.contents_overwrite
  rw [activeId_some joins.active, activeId_some joins.was_active, joins.session]

theorem starts_activeIds (starts : StartsSlot state state' control normal p i) :
    activeIds state' = openedId state control normal ::ₘ activeIds state := by
  unfold activeIds
  rw [SlotTable.update_of_others starts.others]
  apply SlotTable.contents_fill (activeId_none starts.was_free)
  rw [activeId_some starts.active, starts.session]

theorem stateInit_inv : TableInv stateInit := by
  have empty : activeIds stateInit = 0 := SlotTable.contents_empty fun _ => rfl
  refine ⟨?_, ?_, ?_, ?_, by decide⟩
  · rw [empty]
    exact Multiset.nodup_zero
  · rw [empty]
    exact Multiset.notMem_zero 0
  · rw [empty]
    rfl
  · rw [empty]
    exact fun sessionId member => absurd member (Multiset.notMem_zero sessionId)

theorem succ_toNat {id : UInt64} (h : id ≠ LAST_SESSION_ID) : (id + 1).toNat = id.toNat + 1 := by
  have last : LAST_SESSION_ID.toNat = 18446744073709551615 := by decide
  have bound := id.toNat_lt
  have differ : id.toNat ≠ LAST_SESSION_ID.toNat := fun same => h (UInt64.toNat_inj.mp same)
  rw [UInt64.toNat_add]
  change (id.toNat + 1) % 2 ^ 64 = _
  exact Nat.mod_eq_of_lt (by omega)

theorem last_no_more (id : UInt64) : ¬ LAST_SESSION_ID < id := by
  have last : LAST_SESSION_ID.toNat = 18446744073709551615 := by decide
  have bound := id.toNat_lt
  rw [UInt64.lt_iff_toNat_lt]
  omega

theorem starts_counter (inv : TableInv state) (starts : StartsSlot state state' control normal p i)
    (room : openedId state control normal ≠ LAST_SESSION_ID) :
    openedId state control normal < state'.nextSessionId ∧
    (∀ id, id < state.nextSessionId → id < state'.nextSessionId) ∧ state'.nextSessionId ≠ 0 := by
  have grows := succ_toNat room
  have nonzero (id : UInt64) (h : id.toNat ≠ 0) : id ≠ 0 := fun zero => h (by rw [zero]; rfl)
  have positive : state.nextSessionId.toNat ≠ 0 := fun zero => inv.fresh (UInt64.toNat_inj.mp zero)
  rw [starts.counter]
  by_cases counted : control.sessionByClient = true ∨ normal.sessionId = 0
  · have opened : openedId state control normal = state.nextSessionId := if_pos counted
    have after : counterAfter state control normal = state.nextSessionId + 1 := if_pos counted
    rw [opened] at grows
    rw [opened, after, ite_id]
    refine ⟨?_, ?_, nonzero _ (by omega)⟩
    · rw [UInt64.lt_iff_toNat_lt]
      omega
    · intro id below
      rw [UInt64.lt_iff_toNat_lt] at below ⊢
      omega
  · have after : counterAfter state control normal = state.nextSessionId := if_neg counted
    rw [after]
    split
    · rename_i reached
      rw [UInt64.le_iff_toNat_le] at reached
      refine ⟨?_, ?_, nonzero _ (by omega)⟩
      · rw [UInt64.lt_iff_toNat_lt]
        omega
      · intro id below
        rw [UInt64.lt_iff_toNat_lt] at below ⊢
        omega
    · rename_i ahead
      exact ⟨UInt64.not_le.mp ahead, fun _ below => below, inv.fresh⟩

theorem openedId_new (inv : TableInv state) (opens : Opens state control normal) :
    openedId state control normal ∉ activeIds state ∧ openedId state control normal ≠ 0 := by
  unfold openedId
  split
  · refine ⟨fun member => ?_, inv.fresh⟩
    exact absurd (inv.ahead _ member) (UInt64.lt_irrefl _)
  · rename_i own
    obtain ⟨unowned, carried⟩ := not_or.mp own
    refine ⟨fun member => ?_, carried⟩
    have missing := opens.2.1 (by simpa using unowned) carried
    obtain ⟨j, active, same⟩ := mem_activeIds.mp member
    unfold find at missing
    rw [if_neg carried] at missing
    have other := SlotTable.find?_none_iff.mp missing j
    simp [active, same] at other

theorem starts_inv (inv : TableInv state) (opens : Opens state control normal)
    (starts : StartsSlot state state' control normal p i) :
    TableInv state' ↔ openedId state control normal ≠ LAST_SESSION_ID := by
  have ids := starts_activeIds starts
  constructor
  · intro after last
    have ahead := after.ahead (openedId state control normal) (by rw [ids]; simp)
    rw [last] at ahead
    exact last_no_more _ ahead
  · intro room
    obtain ⟨unused, nonzero⟩ := openedId_new inv opens
    obtain ⟨below, kept, fresh⟩ := starts_counter inv starts room
    refine ⟨?_, ?_, ?_, ?_, fresh⟩
    · rw [ids]
      exact Multiset.nodup_cons.mpr ⟨unused, inv.distinct⟩
    · rw [ids, Multiset.mem_cons]
      exact not_or.mpr ⟨nonzero.symm, inv.nonzero⟩
    · rw [starts.count, ids, Multiset.card_cons, inv.counted]
    · intro sessionId member
      rw [ids] at member
      rcases Multiset.mem_cons.mp member with rfl | old
      · exact below
      · exact kept sessionId (inv.ahead sessionId old)

theorem emptied_inv (inv : TableInv state)
    (emptied : ∀ j, state'.sessions j = .zero ∨ state'.sessions j = state.sessions j)
    (counter : state'.nextSessionId = state.nextSessionId)
    (counted : state'.sessionCount = (activeIds state').card) : TableInv state' := by
  have fewer : activeIds state' ≤ activeIds state := by
    apply SlotTable.contents_le
    intro j
    rcases emptied j with gone | kept
    · rw [gone]
      exact .inl rfl
    · exact .inr (congrArg activeId kept)
  refine ⟨Multiset.nodup_of_le fewer inv.distinct,
    fun member => inv.nonzero (Multiset.mem_of_le fewer member), counted, ?_, ?_⟩
  · intro sessionId member
    rw [counter]
    exact inv.ahead sessionId (Multiset.mem_of_le fewer member)
  · rw [counter]
    exact inv.fresh

theorem release_inv (inv : TableInv state) (sessionId : UInt64) :
    TableInv (release state sessionId).2 := by
  refine emptied_inv inv (release_emptied sessionId) (release_frame sessionId).1 ?_
  unfold release
  split
  · exact inv.counted
  · rename_i i found
    have active := (find_some found).1
    have left : activeIds state = (state.sessions i).sessionId ::ₘ
        SlotTable.contents activeId (Function.update state.sessions i .zero) :=
      SlotTable.contents_clear (activeId_some active) rfl
    rw [cleared active]
    change state.sessionCount - 1 =
      (SlotTable.contents activeId (Function.update state.sessions i .zero)).card
    rw [inv.counted, left, Multiset.card_cons]
    rfl

theorem expire_inv (inv : TableInv state) (nowMs : UInt64) :
    TableInv (expire state nowMs).2 := by
  have slot (j : Fin SESSION_CAPACITY) : (expire state nowMs).2.sessions j =
      if isExpired (state.sessions j) nowMs then .zero else state.sessions j := rfl
  refine emptied_inv inv (expire_emptied nowMs) rfl ?_
  change state.sessionCount - expiredCount state nowMs = _
  unfold activeIds expiredCount
  rw [inv.counted]
  unfold activeIds
  rw [SlotTable.card_contents, SlotTable.card_contents]
  have lapsed : (Finset.univ.filter fun j => isExpired (state.sessions j) nowMs = true) ⊆
      Finset.univ.filter fun j => (activeId (state.sessions j)).isSome = true := by
    intro j member
    have expired := (Finset.mem_filter.mp member).2
    have active : (state.sessions j).active = true := by
      unfold isExpired at expired
      simp only [Bool.and_eq_true] at expired
      exact expired.1.1
    refine Finset.mem_filter.mpr ⟨Finset.mem_univ j, ?_⟩
    rw [activeId_some active]
    rfl
  rw [← Finset.card_sdiff_of_subset lapsed]
  congr 1
  ext j
  simp only [Finset.mem_sdiff, Finset.mem_filter, Finset.mem_univ, true_and, slot]
  split
  · rename_i expired
    simp [expired, activeId, Session.zero]
  · rename_i stays
    simp [stays]

/-- The step opens a session under the largest id. -/
def TakesLast (state : SessionState) : SessionOp → Prop
  | .ingest control normal _ => Opens state control normal ∧
      (∃ i, (state.sessions i).active = false) ∧
      openedId state control normal = LAST_SESSION_ID
  | .release _ => False
  | .expire _ => False

theorem step_inv (inv : TableInv state) (op : SessionOp) :
    TableInv (sessionStep state op).1 ↔ ¬ TakesLast state op := by
  cases op with
  | ingest control normal nowMs =>
    obtain ⟨i, after, p, ingests, joins, -, -, opens⟩ | ⟨i, after, p, ingests, starts, opens⟩ |
        ⟨refused, full⟩ := ingest_slot state control normal nowMs
    · have result : (sessionStep state (.ingest control normal nowMs)).1 = after := by
        simp [sessionStep, ingests]
      have ids := joins_activeIds joins
      rw [result]
      refine iff_of_true ⟨?_, ?_, ?_, ?_, ?_⟩ fun last => opens last.1
      · rw [ids]
        exact inv.distinct
      · rw [ids]
        exact inv.nonzero
      · rw [ids, joins.count]
        exact inv.counted
      · rw [ids, joins.counter]
        exact inv.ahead
      · rw [joins.counter]
        exact inv.fresh
    · have result : (sessionStep state (.ingest control normal nowMs)).1 = after := by
        simp [sessionStep, ingests]
      rw [result, starts_inv inv opens starts]
      exact not_congr ⟨fun last => ⟨opens, ⟨i, starts.was_free⟩, last⟩, fun last => last.2.2⟩
    · have result : (sessionStep state (.ingest control normal nowMs)).1 = state := by
        simp [sessionStep, refused]
      rw [result]
      refine iff_of_true inv ?_
      rintro ⟨-, ⟨i, free⟩, -⟩
      rw [full i] at free
      contradiction
  | release sessionId => exact iff_of_true (release_inv inv sessionId) not_false
  | expire nowMs => exact iff_of_true (expire_inv inv nowMs) not_false

end Table

/-- The table stays in order all along a run just when no step of the run opens a session under
the largest id. -/
theorem session_table_invariant (ops : List SessionOp) :
    (∀ state ∈ reached sessionStep stateInit ops, TableInv state) ↔
      ∀ step ∈ steps sessionStep stateInit ops, ¬ TakesLast step.1 step.2 :=
  @reached_iff _ _ _ sessionStep TableInv (fun state op => ¬ TakesLast state op)
    (fun _ op inv => step_inv inv op) stateInit stateInit_inv ops

def lastRequest : SessionOp :=
  .ingest ⟨false⟩ { RecvPacket.zero with sessionId := LAST_SESSION_ID } 0

theorem lastRequest_wraps :
    ¬ ∀ ops, ∀ state ∈ reached sessionStep stateInit ops, TableInv state := by
  intro always
  have inv := always [lastRequest] (sessionStep stateInit lastRequest).1
    (List.mem_cons_of_mem _ List.mem_cons_self)
  exact inv.fresh (by decide +kernel)

end Siglatch.MuxSessionRuns
