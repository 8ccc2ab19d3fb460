import Siglatch.StepRuns
import Siglatch.MuxSession
import Siglatch.MuxStreamOps

set_option autoImplicit false

namespace Siglatch.MuxIntake
open MuxTypes MuxStream MuxStreamView MuxStreamOps MuxSession StepRuns

/-! The two tables a received packet goes through, each with a life cycle of its own. -/

structure Intake where
  session : SessionState
  stream : StreamState

def start (adapters : Option (List UInt32)) : Intake :=
  ⟨MuxSession.stateInit, { MuxStream.stateInit with adapterLib := adapters }⟩

def intake (state : Intake) (control : Control) (normal : RecvPacket) (nowMs : UInt64) :
    Bool × Intake :=
  match MuxSession.ingest state.session control normal nowMs with
  | none => (false, state)
  | some (session, p) =>
    let queued := MuxStream.ingest state.stream p
    (queued.1, ⟨session, queued.2⟩)

inductive Op where
  | packet (control : Control) (normal : RecvPacket) (nowMs : UInt64)
  | drain (callerUser : Bool)
  | expireStream (nowMs : UInt64)
  | expireSession (nowMs : UInt64)
  | release (sessionId : UInt64)

/-- The emitted ids are those of the sessions whose packets were handed to the stream. -/
def step (state : Intake) : Op → Intake × List UInt64
  | .packet control normal nowMs => ((intake state control normal nowMs).2,
      match MuxSession.ingest state.session control normal nowMs with
      | none => []
      | some (_, p) => [p.sessionId])
  | .drain callerUser => ({ state with stream := (MuxStream.drain state.stream callerUser).2 }, [])
  | .expireStream nowMs => ({ state with stream := (MuxStream.expire state.stream nowMs).2 }, [])
  | .expireSession nowMs =>
    ({ state with session := (MuxSession.expire state.session nowMs).2 }, [])
  | .release sessionId =>
    ({ state with session := (MuxSession.release state.session sessionId).2 }, [])

def WellFormed : Op → Prop
  | .packet control normal _ => Normalised control normal
  | _ => True

def distinct (handed : List UInt64) : ℕ := handed.toFinset.card

/-- As long as the session counter has not wrapped round, the sessions handed to the stream are
    `1 … n` for its value `n + 1`, and the stream tracks all of them or as many as it can. -/
structure Ledger (state : Intake) (handed : List UInt64) : Prop where
  tracked : ∀ id ∈ trackedSessions state.stream, id ∈ handed
  opened : ∀ id, Open state.session id → id ∈ handed
  counter : distinct handed < 2 ^ 64 - 1 →
    state.session.nextSessionId.toNat = distinct handed + 1
  ids : distinct handed < 2 ^ 64 - 1 → ∀ id ∈ handed, 0 < id.toNat ∧ id.toNat ≤ distinct handed
  full : distinct handed < 2 ^ 64 - 1 →
    min SESSION_TRACKER_CAPACITY (distinct handed) ≤ (trackedSessions state.stream).card
  nodup : (trackedSessions state.stream).Nodup

theorem ledger_start (adapters : Option (List UInt32)) : Ledger (start adapters) [] := by
  have hempty : trackedSessions (start adapters).stream = 0 := trackedSessions_stateInit
  refine ⟨?_, ?_, fun _ => rfl, ?_, ?_, ?_⟩
  · rw [hempty]; exact fun id h => absurd h (Multiset.notMem_zero id)
  · rintro id ⟨i, ha, -⟩
    have hinactive : ((start adapters).session.sessions i).active = false := rfl
    rw [hinactive] at ha
    exact absurd ha Bool.false_ne_true
  · exact fun _ id h => absurd h List.not_mem_nil
  · intro _
    have hzero : distinct [] = 0 := rfl
    rw [hzero, Nat.min_zero]
    exact Nat.zero_le _
  · rw [hempty]; exact Multiset.nodup_zero

section Steps

variable {state state' : Intake} {handed : List UInt64} {id : UInt64}

theorem ledger_quiet (h : Ledger state handed)
    (hstream : trackedSessions state'.stream = trackedSessions state.stream)
    (hcounter : state'.session.nextSessionId = state.session.nextSessionId)
    (hopen : ∀ id, Open state'.session id → Open state.session id) :
    Ledger state' (handed ++ []) := by
  rw [List.append_nil]
  refine ⟨?_, fun id hid => h.opened id (hopen id hid), ?_, h.ids, ?_, ?_⟩
  · rw [hstream]; exact h.tracked
  · rw [hcounter]; exact h.counter
  · rw [hstream]; exact h.full
  · rw [hstream]; exact h.nodup

theorem distinct_known (h : id ∈ handed) : distinct (handed ++ [id]) = distinct handed := by
  unfold distinct
  rw [List.toFinset_append]
  congr 1
  simpa using h

theorem distinct_new (h : id ∉ handed) : distinct (handed ++ [id]) = distinct handed + 1 := by
  unfold distinct
  rw [List.toFinset_append, Finset.union_comm]
  have hnot : id ∉ handed.toFinset := by simpa using h
  simpa using Finset.card_insert_of_notMem hnot

theorem distinct_append_le (handed more : List UInt64) :
    distinct handed ≤ distinct (handed ++ more) := by
  unfold distinct
  refine Finset.card_le_card ?_
  rw [List.toFinset_append]
  exact Finset.subset_union_left

/-- The tracked sessions after a packet of session `id` was handed to the stream. -/
def Tracks (before after : Multiset UInt64) (id : UInt64) : Prop :=
  after = before ∧ (id = 0 ∨ id ∈ before ∨ before.card = SESSION_TRACKER_CAPACITY) ∨
  after = id ::ₘ before ∧ id ∉ before ∧ before.card < SESSION_TRACKER_CAPACITY

theorem ingest_tracks (stream : StreamState) (p : RecvPacket) :
    Tracks (trackedSessions stream) (trackedSessions (MuxStream.ingest stream p).2)
      p.sessionId := by
  by_cases hs : p.sessionId = 0
  · have hsame : MuxStream.ingest stream p = (false, stream) := by
      unfold MuxStream.ingest assignIds
      rw [if_pos hs]
    rw [hsame]
    exact .inl ⟨rfl, .inl hs⟩
  · have hle : (trackedSessions stream).card ≤ SESSION_TRACKER_CAPACITY :=
      SlotTable.card_contents_le stream.sessionTrackers
    rw [ingest_trackedSessions stream hs]
    split
    · rename_i hmem
      exact .inl ⟨rfl, .inr (.inl hmem)⟩
    · rename_i hmem
      split
      · rename_i hfull
        exact .inl ⟨rfl, .inr (.inr hfull)⟩
      · exact .inr ⟨rfl, hmem, by omega⟩

theorem tracks_subset {before after : Multiset UInt64} (h : Tracks before after id)
    (hb : ∀ x ∈ before, x ∈ handed) : ∀ x ∈ after, x ∈ handed ++ [id] := by
  intro x hx
  obtain ⟨rfl, -⟩ | ⟨rfl, -, -⟩ := h
  · exact List.mem_append_left _ (hb x hx)
  · obtain rfl | hx := Multiset.mem_cons.mp hx
    · simp
    · exact List.mem_append_left _ (hb x hx)

theorem tracks_nodup {before after : Multiset UInt64} (h : Tracks before after id)
    (hb : before.Nodup) : after.Nodup := by
  obtain ⟨rfl, -⟩ | ⟨rfl, hnew, -⟩ := h
  · exact hb
  · exact Multiset.nodup_cons.mpr ⟨hnew, hb⟩

theorem tracks_card_le {before after : Multiset UInt64} (h : Tracks before after id) :
    before.card ≤ after.card := by
  obtain ⟨rfl, -⟩ | ⟨rfl, -, -⟩ := h
  · exact le_rfl
  · rw [Multiset.card_cons]; exact Nat.le_succ _

theorem ledger_known (h : Ledger state handed) (hid : id ∈ handed)
    (hstream : Tracks (trackedSessions state.stream) (trackedSessions state'.stream) id)
    (hcounter : state'.session.nextSessionId = state.session.nextSessionId)
    (hopen : ∀ id', Open state'.session id' → id' ∈ handed) :
    Ledger state' (handed ++ [id]) := by
  have hmem : ∀ x, x ∈ handed ++ [id] → x ∈ handed := by
    intro x hx
    obtain hx | hx := List.mem_append.mp hx
    · exact hx
    · rw [List.mem_singleton.mp hx]; exact hid
  refine ⟨tracks_subset hstream h.tracked, ?_, ?_, ?_, ?_, tracks_nodup hstream h.nodup⟩
  · intro id' hid'
    exact List.mem_append_left _ (hopen id' hid')
  · rw [distinct_known hid, hcounter]
    exact h.counter
  · rw [distinct_known hid]
    exact fun hlt x hx => h.ids hlt x (hmem x hx)
  · rw [distinct_known hid]
    exact fun hlt => (h.full hlt).trans (tracks_card_le hstream)

theorem ledger_new (h : Ledger state handed) (hid : id = state.session.nextSessionId)
    (hstream : Tracks (trackedSessions state.stream) (trackedSessions state'.stream) id)
    (hcounter : state'.session.nextSessionId = state.session.nextSessionId + 1)
    (hopen : ∀ id', Open state'.session id' → id' ∈ handed ++ [id]) :
    Ledger state' (handed ++ [id]) := by
  have hle := distinct_append_le handed [id]
  have hfresh : distinct handed < 2 ^ 64 - 1 →
      id.toNat = distinct handed + 1 ∧ distinct (handed ++ [id]) = distinct handed + 1 := by
    intro hlt
    have hval : id.toNat = distinct handed + 1 := by rw [hid]; exact h.counter hlt
    refine ⟨hval, distinct_new ?_⟩
    intro hmem
    have := (h.ids hlt id hmem).2
    omega
  refine ⟨tracks_subset hstream h.tracked, hopen, ?_, ?_, ?_, tracks_nodup hstream h.nodup⟩
  · intro hlt
    obtain ⟨hval, hd⟩ := hfresh (by omega)
    rw [hcounter, ← hid, UInt64.toNat_add, hval, hd]
    rw [hd] at hlt
    exact Nat.mod_eq_of_lt (by change distinct handed + 1 + 1 < 2 ^ 64; omega)
  · intro hlt x hx
    obtain ⟨hval, hd⟩ := hfresh (by omega)
    rw [hd]
    obtain hx | hx := List.mem_append.mp hx
    · have := h.ids (by omega) x hx
      omega
    · rw [List.mem_singleton.mp hx, hval]
      omega
  · intro hlt
    obtain ⟨hval, hd⟩ := hfresh (by omega)
    have hfull := h.full (by omega)
    rw [hd]
    obtain ⟨hsame, hz | hmem | hcap⟩ | ⟨hcons, -, -⟩ := hstream
    · rw [hz] at hval
      change 0 = _ at hval
      omega
    · have := (h.ids (by omega) id (h.tracked id hmem)).2
      omega
    · rw [hsame, hcap]
      exact Nat.min_le_left _ _
    · rw [hcons, Multiset.card_cons]
      omega

theorem ledger_step (state : Intake) (handed : List UInt64) (op : Op) (hop : WellFormed op)
    (h : Ledger state handed) : Ledger (step state op).1 (handed ++ (step state op).2) := by
  cases op with
  | packet control normal nowMs =>
    have hn : Normalised control normal := hop
    obtain ⟨i, session, p, hin, hjoin, -, -⟩ | ⟨i, session, p, hin, hstart, -⟩ | ⟨hin, -, -⟩ :=
      MuxSession.ingest_cases state.session nowMs hn
    · have hp : p.sessionId = (state.session.sessions i).sessionId := by rw [hjoin.packet]; rfl
      have hopened : Open state.session p.sessionId := ⟨i, hjoin.was_active, hp.symm⟩
      simp only [step, intake, hin]
      refine ledger_known h (h.opened _ hopened) (ingest_tracks state.stream p) hjoin.counter ?_
      rintro id ⟨j, ha, hs⟩
      by_cases hj : j = i
      · rw [hj, hjoin.session, ← hp] at hs
        rw [← hs]
        exact h.opened _ hopened
      · rw [hjoin.others j hj] at ha hs
        exact h.opened id ⟨j, ha, hs⟩
    · have hp : p.sessionId = state.session.nextSessionId := by rw [hstart.packet]; rfl
      simp only [step, intake, hin]
      refine ledger_new h hp (ingest_tracks state.stream p) hstart.counter ?_
      rintro id ⟨j, ha, hs⟩
      by_cases hj : j = i
      · rw [hj, hstart.session, ← hp] at hs
        simp [← hs]
      · rw [hstart.others j hj] at ha hs
        exact List.mem_append_left _ (h.opened id ⟨j, ha, hs⟩)
    · simp only [step, intake, hin]
      exact ledger_quiet h rfl rfl fun _ hid => hid
  | drain callerUser =>
    refine ledger_quiet h ?_ rfl fun _ hid => hid
    obtain ⟨p, stream, hd, hspec⟩ | ⟨hd, -⟩ := drain_cases state.stream callerUser
    · simp only [step, hd]
      exact hspec.sessions
    · simp only [step, hd]
  | expireStream nowMs =>
    exact ledger_quiet h (expire_frame state.stream nowMs).trackedSessions rfl fun _ hid => hid
  | expireSession nowMs => exact ledger_quiet h rfl rfl fun _ hid => expire_open hid
  | release sessionId =>
    obtain ⟨hcounter, hopen⟩ := @release_frame state.session sessionId
    exact ledger_quiet h rfl hcounter hopen

theorem ledger_run (adapters : Option (List UInt32)) (ops : List Op)
    (hops : ∀ op ∈ ops, WellFormed op) :
    Ledger (run step (start adapters) ops).1 (run step (start adapters) ops).2 :=
  run_history WellFormed (fun s handed op hop h => ledger_step s handed op hop h)
    (start adapters) (ledger_start adapters) ops hops

end Steps

section Serve

variable {stream : StreamState} {normal p : RecvPacket}

/-- The packet as a drain returns it: with the ids it was given, otherwise as it came in. -/
def deliveredAs (p : RecvPacket) (streamId : UInt32) (messageId : UInt64) : RecvPacket :=
  stored { p with streamId := streamId, messageId := messageId }

/-- The packet's session is found or opened, the stream queues the packet, and it is drained. -/
def Served (state : Intake) (control : Control) (normal : RecvPacket) (nowMs : UInt64) : Prop :=
  ∃ session p, MuxSession.ingest state.session control normal nowMs = some (session, p) ∧
    (MuxStream.ingest state.stream p).1 = true ∧
    ∃ streamId messageId, (MuxStream.drain (MuxStream.ingest state.stream p).2 true).1 =
      some (deliveredAs p streamId messageId)

theorem refused_when_full (hs : p.sessionId ≠ 0) (hnew : p.sessionId ∉ trackedSessions stream)
    (hfull : (trackedSessions stream).card = SESSION_TRACKER_CAPACITY) :
    (MuxStream.ingest stream p).1 = false := by
  have hfind : findSessionTracker stream p.sessionId true = (none, stream) := by
    obtain ⟨i, hl, -⟩ | ⟨i, -, hi, -⟩ | ⟨-, -, ha⟩ := SlotTable.acquire_cases SessionTracker.key
      (.fresh p.sessionId) stream.sessionTrackers p.sessionId
    · exact absurd hl (by rw [SlotTable.lookup_none_iff.mpr hnew]; simp)
    · have hlt := (SlotTable.free_iff (f := SessionTracker.key) stream.sessionTrackers).mp ⟨i, hi⟩
      change (trackedSessions stream).card < SESSION_TRACKER_CAPACITY at hlt
      omega
    · unfold findSessionTracker
      rw [if_neg hs, if_pos rfl, ha]
  unfold MuxStream.ingest assignIds
  rw [if_neg hs, hfind]

theorem queued_when_room (hs : p.sessionId ≠ 0) (hnew : p.sessionId ∉ trackedSessions stream)
    (hroom : (trackedSessions stream).card < SESSION_TRACKER_CAPACITY) (hsingle : Singular p)
    (hqueue : queued stream = 0) :
    ∃ (a : Assigned) (stream' : StreamState),
      MuxStream.ingest stream p = (true, stream') ∧ a.packet =
        { p with streamId := a.packet.streamId, messageId := a.packet.messageId } ∧
      a.packet.streamId ≠ 0 ∧ queued stream' = {stored a.packet} ∧
      (sessionAt stream' p.sessionId).isSome ∧ stream'.adapterLib = stream.adapterLib := by
  obtain ⟨a, stream1, hassign⟩ := assignIds_new_session hs hnew hroom
  have hspec := assignIds_some hassign
  have huntracked : tracker stream p.sessionId a.packet.streamId = none :=
    tracker_none_of_untracked (sessionAt_none_iff.mpr hnew)
  have hsingle' : Singular a.packet := by rw [hspec.packet]; exact hsingle
  have hbegin : messageTrackerBegin (offered stream1 a) a.packet = some (offered stream1 a) :=
    begin_singular hsingle' (hspec.message_ne huntracked)
  obtain ⟨_, hno, -⟩ | ⟨_, _, hsome, -, hnone, -⟩ |
      ⟨a', _, t, stream2, hsome, -, -, hclaim, -, hin⟩ := MuxStreamOps.ingest_cases stream p
  · rw [hassign] at hno
    simp at hno
  · rw [hassign] at hsome
    obtain ⟨rfl, rfl⟩ : a = _ ∧ stream1 = _ := by simpa using hsome
    rw [hbegin] at hnone
    contradiction
  rw [hassign] at hsome
  obtain ⟨rfl, rfl⟩ : a = _ ∧ stream1 = _ := by simpa using hsome
  have hsame := queued_of_readyQueue hclaim.queue
  rw [hqueue] at hsame
  have hp : a.packet.sessionId ≠ 0 := by rw [hspec.session]; exact hs
  obtain ⟨hok, -, -, hq, hframe⟩ | ⟨-, ⟨q, hq, -⟩ | hfull⟩ := queuePacket_cases stream2 hp
  · refine ⟨a, (queuePacket stream2 a.packet).2, by rw [hin]; exact Prod.ext hok rfl,
      hspec.packet, hspec.stream_ne, ?_, ?_, ?_⟩
    · rw [hq, hsame]
      rfl
    · have hhere := hclaim.here
      unfold MuxStreamView.tracker at hhere
      obtain ⟨session, hsession, -⟩ := Option.bind_eq_some_iff.mp hhere
      unfold sessionAt at hsession ⊢
      rw [hframe.1, hsession]
      rfl
    · rw [hframe.2, hclaim.adapters]
  · rw [hsame] at hq
    exact absurd hq (Multiset.notMem_zero q)
  · rw [hsame] at hfull
    contradiction

theorem drained_when_alone {state : StreamState} (hqueue : queued state = {stored p})
    (hs : p.sessionId ≠ 0) (hst : p.streamId ≠ 0) (hsingle : Singular p)
    (hindex : p.fragmentIndex = 0) (hsession : (sessionAt state p.sessionId).isSome)
    (hread : Readable state true (stored p)) :
    ∃ state', MuxStream.drain state true = (some (stored p), state') ∧ queued state' = 0 := by
  have hdeliver : packetIsDeliverable state (stored p) = true :=
    (packetIsDeliverable_singular hsingle).mpr ⟨hs, hst, hsession, hindex⟩
  obtain ⟨q, state', hdrain, hspec⟩ | ⟨-, hno | ⟨q, hq, -, hunread⟩⟩ := drain_cases state true
  · have hmem : q ∈ queued state := by rw [hspec.queue]; exact Multiset.mem_cons_self q _
    rw [hqueue] at hmem
    obtain rfl := Multiset.mem_singleton.mp hmem
    refine ⟨state', hdrain, ?_⟩
    have hcons := hspec.queue
    rw [hqueue, ← Multiset.cons_zero] at hcons
    exact ((Multiset.cons_inj_right _).mp hcons).symm
  · have hnot := hno (stored p) (by rw [hqueue]; exact Multiset.mem_singleton_self _)
    rw [hdeliver] at hnot
    contradiction
  · rw [hqueue] at hq
    rw [Multiset.mem_singleton.mp hq] at hunread
    exact absurd hread hunread

end Serve

section Start

variable {state : Intake} {handed : List UInt64} {control : Control} {normal p : RecvPacket}
  {nowMs : UInt64} {session : SessionState} {i : Fin SESSION_CAPACITY}

theorem started_untracked (hledger : Ledger state handed) (hfew : distinct handed < 2 ^ 64 - 1)
    (hstart : Starts state.session session normal p nowMs i) :
    p.sessionId ≠ 0 ∧ p.sessionId ∉ trackedSessions state.stream := by
  have hval : p.sessionId.toNat = distinct handed + 1 := by
    rw [hstart.packet]
    exact hledger.counter hfew
  constructor
  · intro hz
    rw [hz] at hval
    change 0 = _ at hval
    omega
  · intro hmem
    have := (hledger.ids hfew _ (hledger.tracked _ hmem)).2
    omega

theorem tracked_card_le (hledger : Ledger state handed) :
    (trackedSessions state.stream).card ≤ distinct handed := by
  have hsub : (trackedSessions state.stream).toFinset ⊆ handed.toFinset := by
    intro x hx
    simpa using hledger.tracked x (by simpa using hx)
  have hle := Finset.card_le_card hsub
  rwa [Multiset.toFinset_card_of_nodup hledger.nodup] at hle

theorem tracked_full (hledger : Ledger state handed) (hfew : distinct handed < 2 ^ 64 - 1)
    (hmany : 64 ≤ distinct handed) :
    (trackedSessions state.stream).card = SESSION_TRACKER_CAPACITY := by
  have hmin := hledger.full hfew
  have htable : (trackedSessions state.stream).card ≤ SESSION_TRACKER_CAPACITY :=
    SlotTable.card_contents_le state.stream.sessionTrackers
  change min 64 (distinct handed) ≤ (trackedSessions state.stream).card at hmin
  change (trackedSessions state.stream).card ≤ 64 at htable
  change (trackedSessions state.stream).card = 64
  omega

/-- With a session tracker left, the packet of a session that starts is queued and drained. -/
theorem started_served (hledger : Ledger state handed) (hlt : distinct handed < 64)
    (hstart : Starts state.session session normal p nowMs i) (hsingle : Singular normal)
    (hindex : normal.fragmentIndex = 0) (hread : Readable state.stream true normal)
    (hqueue : queued state.stream = 0) :
    (MuxStream.ingest state.stream p).1 = true ∧
    ∃ streamId messageId stream', MuxStream.drain (MuxStream.ingest state.stream p).2 true =
      (some (deliveredAs p streamId messageId), stream') ∧ queued stream' = 0 := by
  obtain ⟨hs, hnew⟩ := started_untracked hledger (by omega) hstart
  have hroom : (trackedSessions state.stream).card < SESSION_TRACKER_CAPACITY :=
    lt_of_le_of_lt (tracked_card_le hledger) hlt
  have hsingle' : Singular p := by rw [hstart.packet]; exact hsingle
  obtain ⟨a, stream', hok, hpacket, hst, hq, hsession, hadapters⟩ :=
    queued_when_room hs hnew hroom hsingle' hqueue
  have ha : a.packet.sessionId = p.sessionId := by rw [hpacket]
  have hreadable : Readable stream' true (stored a.packet) := by
    intro huser
    have huser' : normal.user.isSome = true := by
      change a.packet.user.isSome = true at huser
      rw [hpacket, hstart.packet] at huser
      exact huser
    refine ⟨rfl, ?_⟩
    have hcopy := (hread huser').2
    have hversion : (stored a.packet).wireVersion = normal.wireVersion := by
      change a.packet.wireVersion = normal.wireVersion
      rw [hpacket, hstart.packet]
      rfl
    unfold copyUser at hcopy ⊢
    rw [hadapters, hversion]
    exact hcopy
  have hfirst : a.packet.fragmentIndex = 0 := by rw [hpacket, hstart.packet]; exact hindex
  have hone : Singular a.packet := by rw [hpacket]; exact hsingle'
  obtain ⟨stream'', hdrain, hempty⟩ := drained_when_alone hq (by rw [ha]; exact hs) hst hone hfirst
    (by rw [ha]; exact hsession) hreadable
  rw [hok]
  refine ⟨rfl, a.packet.streamId, a.packet.messageId, stream'', ?_, hempty⟩
  rw [hdrain]
  unfold deliveredAs
  rw [← hpacket]

theorem opening_served_iff (hledger : Ledger state handed) (hn : Normalised control normal)
    (hopens : Opens state.session control normal) (hsingle : Singular normal)
    (hindex : normal.fragmentIndex = 0) (hread : Readable state.stream true normal)
    (hslot : ∃ i, (state.session.sessions i).active = false) (hqueue : queued state.stream = 0)
    (hfew : distinct handed < 2 ^ 64 - 1) :
    Served state control normal nowMs ↔ distinct handed < 64 := by
  obtain ⟨_, _, _, -, -, hnot, -⟩ | ⟨i, session, p, hin, hstart, -⟩ | ⟨-, -, hfull⟩ :=
    MuxSession.ingest_cases state.session nowMs hn
  · exact absurd hopens hnot
  · constructor
    · rintro ⟨session', p', hin', hok, -⟩
      obtain ⟨-, rfl⟩ : session = session' ∧ p = p' := by simpa [hin] using hin'
      by_contra hmany
      obtain ⟨hs, hnew⟩ := started_untracked hledger hfew hstart
      have hrefused := refused_when_full hs hnew (tracked_full hledger hfew (by omega))
      rw [hok] at hrefused
      contradiction
    · intro hlt
      obtain ⟨hok, streamId, messageId, stream', hdrain, -⟩ :=
        started_served hledger hlt hstart hsingle hindex hread hqueue
      exact ⟨session, p, hin, hok, streamId, messageId, by rw [hdrain]⟩
  · obtain ⟨i, hi⟩ := hslot
    rw [hfull i] at hi
    contradiction

end Start

/-- A packet that opens a session gets through exactly while fewer than 64 sessions have ever
    been handed to the stream: session slots are released, the stream's trackers are not. -/
theorem new_session_served_iff (adapters : Option (List UInt32)) (ops : List Op)
    (hops : ∀ op ∈ ops, WellFormed op) (control : Control) (normal : RecvPacket) (nowMs : UInt64)
    (hn : Normalised control normal)
    (hopens : Opens (run step (start adapters) ops).1.session control normal)
    (hsingle : Singular normal) (hindex : normal.fragmentIndex = 0)
    (hread : Readable (run step (start adapters) ops).1.stream true normal)
    (hslot : ∃ i, ((run step (start adapters) ops).1.session.sessions i).active = false)
    (hqueue : queued (run step (start adapters) ops).1.stream = 0)
    (hfew : distinct (run step (start adapters) ops).2 < 2 ^ 64 - 1) :
    Served (run step (start adapters) ops).1 control normal nowMs ↔
      distinct (run step (start adapters) ops).2 < 64 :=
  opening_served_iff (ledger_run adapters ops hops) hn hopens hsingle hindex hread hslot hqueue hfew

def anonymous : RecvPacket :=
  { RecvPacket.zero with wireVersion := 1, fragmentCount := 1, receivedMs := 1 }

def visit : List Op := [.packet ⟨false⟩ anonymous 1, .drain true, .expireSession 60000]

def visits (n : ℕ) : List Op := (List.replicate n visit).flatten

theorem visits_wellFormed (n : ℕ) : ∀ op ∈ visits n, WellFormed op := by
  intro op hop
  obtain ⟨l, hl, hop⟩ := List.mem_flatten.mp hop
  rw [List.eq_of_mem_replicate hl] at hop
  obtain rfl | rfl | rfl : op = .packet ⟨false⟩ anonymous 1 ∨ op = .drain true ∨
      op = .expireSession 60000 := by simpa [visit] using hop
  · exact .inr rfl
  · trivial
  · trivial

theorem anonymous_opens (session : SessionState) : Opens session ⟨false⟩ anonymous :=
  ⟨fun h => absurd h Bool.false_ne_true, fun _ h => absurd rfl h, fun h => absurd h (by decide)⟩

theorem anonymous_readable (stream : StreamState) : Readable stream true anonymous :=
  fun h => absurd h Bool.false_ne_true

def Idle (state : Intake) : Prop :=
  (∀ i, (state.session.sessions i).active = false) ∧ queued state.stream = 0

theorem visit_idle {state : Intake} {handed : List UInt64} (hledger : Ledger state handed)
    (hidle : Idle state) (hlt : distinct handed < 64) :
    Idle (run step state visit).1 ∧ distinct (handed ++ (run step state visit).2) =
      distinct handed + 1 := by
  have hn : Normalised ⟨false⟩ anonymous := .inr rfl
  obtain ⟨i, _, _, -, hjoin, -, -⟩ | ⟨i, session, p, hin, hstart, -⟩ | ⟨-, -, hfull⟩ :=
    MuxSession.ingest_cases state.session 1 hn
  · exact absurd hjoin.was_active (by rw [hidle.1 i]; exact Bool.false_ne_true)
  · obtain ⟨hok, _, _, stream', hdrain, hempty⟩ := started_served hledger hlt hstart (.inr rfl) rfl
      (anonymous_readable state.stream) hidle.2
    have hrun : run step state visit =
        (⟨(MuxSession.expire session 60000).2, stream'⟩, [p.sessionId]) := by
      simp only [visit, run, step, intake, hin, hdrain, List.append_nil]
    rw [hrun]
    refine ⟨⟨?_, hempty⟩, distinct_new ?_⟩
    · intro j
      change (if MuxSession.isExpired (session.sessions j) 60000 then Session.zero
        else session.sessions j).active = false
      by_cases hj : j = i
      · have hexpired : MuxSession.isExpired (session.sessions j) 60000 = true := by
          rw [hj]
          unfold MuxSession.isExpired
          rw [hstart.active, hstart.touched]
          decide
        rw [if_pos hexpired]
        rfl
      · have hinactive : (session.sessions j).active = false := by
          rw [hstart.others j hj]
          exact hidle.1 j
        split
        · rfl
        · exact hinactive
    · intro hmem
      have hval : p.sessionId.toNat = distinct handed + 1 := by
        rw [hstart.packet]
        exact hledger.counter (by omega)
      have := (hledger.ids (by omega) _ hmem).2
      omega
  · have hactive := hfull ⟨0, by decide⟩
    rw [hidle.1] at hactive
    exact absurd hactive Bool.false_ne_true

theorem visits_idle (n : ℕ) (hle : n ≤ 64) :
    Idle (run step (start none) (visits n)).1 ∧
      distinct (run step (start none) (visits n)).2 = n := by
  induction n with
  | zero =>
    have hstart : (run step (start none) (visits 0)).1 = start none := rfl
    rw [hstart]
    exact ⟨⟨fun _ => rfl, queued_stateInit⟩, rfl⟩
  | succ n ih =>
    obtain ⟨hidle, hcount⟩ := ih (by omega)
    have hledger := ledger_run none (visits n) (visits_wellFormed n)
    have hvisits : visits (n + 1) = visits n ++ visit := by
      unfold visits
      rw [List.replicate_succ', List.flatten_append]
      simp
    obtain ⟨hidle', hcount'⟩ := visit_idle hledger hidle (by omega)
    rw [hvisits, run_append]
    dsimp only
    rw [hcount', hcount]
    exact ⟨hidle', rfl⟩

theorem first_visit_served :
    Served (run step (start none) (visits 1)).1 ⟨false⟩ anonymous 60001 ↔
      distinct (run step (start none) (visits 1)).2 < 64 :=
  new_session_served_iff none (visits 1) (visits_wellFormed 1) ⟨false⟩ anonymous 60001 (.inr rfl)
    (anonymous_opens _) (.inr rfl) rfl (anonymous_readable _)
    ⟨⟨0, by decide⟩, (visits_idle 1 (by decide)).1.1 _⟩ (visits_idle 1 (by decide)).1.2
    (by rw [(visits_idle 1 (by decide)).2]; decide)

theorem session_refused_after_64_visits :
    ¬ ∀ (adapters : Option (List UInt32)) (ops : List Op), (∀ op ∈ ops, WellFormed op) →
      ∀ (control : Control) (normal : RecvPacket) (nowMs : UInt64), Normalised control normal →
        Opens (run step (start adapters) ops).1.session control normal →
        Singular normal → normal.fragmentIndex = 0 →
        Readable (run step (start adapters) ops).1.stream true normal →
        (∃ i, ((run step (start adapters) ops).1.session.sessions i).active = false) →
        queued (run step (start adapters) ops).1.stream = 0 →
        Served (run step (start adapters) ops).1 control normal nowMs := by
  intro h
  obtain ⟨hidle, hcount⟩ := visits_idle 64 le_rfl
  have hslot : ∃ i, ((run step (start none) (visits 64)).1.session.sessions i).active = false :=
    ⟨⟨0, by decide⟩, hidle.1 _⟩
  have hserved := h none (visits 64) (visits_wellFormed 64) ⟨false⟩ anonymous 60001 (.inr rfl)
    (anonymous_opens _) (.inr rfl) rfl (anonymous_readable _) hslot hidle.2
  have hlt := (opening_served_iff (ledger_run none (visits 64) (visits_wellFormed 64)) (.inr rfl)
    (anonymous_opens _) (.inr rfl) rfl (anonymous_readable _) hslot hidle.2
    (by rw [hcount]; decide)).mp hserved
  omega

end Siglatch.MuxIntake
