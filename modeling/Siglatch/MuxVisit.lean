import Siglatch.DaemonDelivery
import Siglatch.MuxFragments
import Siglatch.MuxLiveSessions
import Siglatch.MuxStreamReady

set_option autoImplicit false

namespace Siglatch.MuxVisit
open MuxTypes KnockCodec MuxAdapter MuxNormalize MuxInbox MuxInboxRuns MuxSession MuxStreamView
open MuxStreamOps MuxStreamReady MuxIntake MuxFragments MuxLiveSessions DaemonLoop DaemonDelivery

/-! One datagram through a connection that has nothing else to do. -/

/-- A connection that has looked at every datagram and handed out every packet, and the sessions
whose packets have been through its stream. -/
structure Quiet (mux : MuxState) (handed : List UInt64) : Prop where
  looked : mux.ingress.contents = []
  queue : queued mux.intake.stream = 0
  consistent : Consistent mux.intake.stream
  adapters : mux.intake.stream.adapterLib = some registered
  ledger : Ledger mux.intake handed

theorem quiet_connect (socketFd : ℤ) (policy : PolicyEnforceEncryption) :
    Quiet (connectSocket socketFd policy) [] :=
  ⟨rfl, MuxStreamRuns.queued_start _, consistent_start _, rfl, ledger_start _⟩

theorem quiet_unready {mux : MuxState} {handed : List UInt64} (quiet : Quiet mux handed) :
    mux.intake.stream.readyCount = 0 := by
  rw [quiet.consistent.kept.count, quiet.queue]
  exact Multiset.card_zero

/-- The packet belongs to no open session, and there is a slot for a new one. -/
structure Welcome (state : SessionState) (control : Control) (normal : RecvPacket) : Prop where
  opens : Opens state control normal
  slot : ∃ i, (state.sessions i).active = false

section Expire

variable {state : MuxStream.StreamState} {nowMs : UInt64}

theorem expire_fresh (fresh : ∀ p ∈ queued state, MuxStream.isExpired p nowMs = false) :
    (MuxStream.expire state nowMs).2 = state := by
  have slots (i : Fin MuxStream.READY_QUEUE_CAPACITY) :
      MuxStream.isExpired (state.readyQueue i) nowMs = false := by
    by_cases taken : (state.readyQueue i).sessionId = 0
    · unfold MuxStream.isExpired
      rw [if_pos taken]
    · exact fresh _ (queued_slot taken)
  have none_expired : MuxStream.expiredCount state nowMs = 0 := by
    unfold MuxStream.expiredCount
    simp [slots]
  unfold MuxStream.expire
  simp [slots, none_expired]

end Expire

section Visit

variable {mux : MuxState} {handed : List UInt64} {env : CodecEnv} {clock : PumpClock}
  {window : Window} {datagram : Datagram} {normal : RecvPacket} {control : Control}

structure Offers (mux : MuxState) (p : RecvPacket) (handed : List UInt64) : Prop where
  looked : mux.ingress.contents = []
  count : mux.intake.stream.readyCount = 1
  drained : ∃ stream, MuxStream.drain mux.intake.stream true = (some p, stream) ∧ queued stream = 0
  consistent : Consistent mux.intake.stream
  adapters : mux.intake.stream.adapterLib = some registered
  ledger : Ledger mux.intake handed

theorem offers_handed {p : RecvPacket} (offers : Offers mux p handed) :
    ∃ after, handOut mux = some (p, after) ∧ Quiet after handed ∧ after.policy = mux.policy ∧
      after.egress = mux.egress ∧ after.socketFd = mux.socketFd ∧
      after.intake.session = mux.intake.session := by
  obtain ⟨stream, drained, empty⟩ := offers.drained
  have pending : MuxStream.hasPending mux.intake.stream = true := by
    unfold MuxStream.hasPending
    rw [offers.count]
    rfl
  have after_stream : (MuxInbox.drain mux).2.intake.stream = stream := congrArg Prod.snd drained
  have consistent := consistent_step offers.consistent (.drain true)
  change Consistent (MuxStream.drain mux.intake.stream true).2 at consistent
  rw [drained] at consistent
  have ledger := ledger_step mux.intake handed (.drain true) trivial offers.ledger
  refine ⟨(MuxInbox.drain mux).2, ?_, ⟨offers.looked, ?_, ?_, ?_, ?_⟩, rfl, rfl, rfl, rfl⟩
  · unfold handOut
    rw [if_pos pending]
    have first : (MuxInbox.drain mux).1 = some p := congrArg Prod.fst drained
    rw [first]
    rfl
  · rw [after_stream]
    exact empty
  · rw [after_stream]
    exact consistent
  · rw [after_stream]
    rcases drain_cases mux.intake.stream true with ⟨q, found, taken, spec⟩ | ⟨taken, -⟩
    · rw [drained] at taken
      obtain ⟨-, rfl⟩ := Prod.mk.inj taken
      exact spec.adapters.trans offers.adapters
    · rw [drained] at taken
      cases (Prod.mk.inj taken).1
  · change Ledger (MuxIntake.step mux.intake (.drain true)).1 (handed ++ []) at ledger
    rw [List.append_nil] at ledger
    exact ledger

structure Holding (intake : Intake) (p : RecvPacket) (handed : List UInt64) : Prop where
  queue : queued intake.stream = {p}
  drained : ∃ stream, MuxStream.drain intake.stream true = (some p, stream) ∧ queued stream = 0
  consistent : Consistent intake.stream
  adapters : intake.stream.adapterLib = some registered
  ledger : Ledger intake handed

theorem holding_offers {p : RecvPacket} (holding : Holding mux.intake p handed)
    (looked : mux.ingress.contents = []) : Offers mux p handed := by
  refine ⟨looked, ?_, holding.drained, holding.consistent, holding.adapters, holding.ledger⟩
  rw [holding.consistent.kept.count, holding.queue]
  exact Multiset.card_singleton _

/-- The packet of a new session is the only one that the stream then holds. -/
theorem intake_holds {intake : Intake} {nowMs : UInt64} (empty : queued intake.stream = 0)
    (consistent : Consistent intake.stream) (adapters : intake.stream.adapterLib = some registered)
    (ledger : Ledger intake handed) (few : distinct handed < 64)
    (normalised : Normalised control normal) (welcome : Welcome intake.session control normal)
    (single : Singular normal) (first : normal.fragmentIndex = 0)
    (known : normal.user.isSome = true → normal.wireVersion ∈ registered) :
    ∃ streamId messageId after,
      MuxIntake.intake intake control normal nowMs = (true, after) ∧
      Holding after (deliveredAs (handedOn normal intake.session.nextSessionId) streamId messageId)
        (handed ++ [intake.session.nextSessionId]) := by
  have recorded := ledger_step intake handed (.packet control normal nowMs) normalised ledger
  have adapted := (intake_adapters intake control normal nowMs).trans adapters
  have readable : Readable intake.stream true normal := by
    intro user
    refine ⟨rfl, ?_⟩
    unfold MuxStream.copyUser
    rw [adapters]
    exact List.contains_iff_mem.mpr (known user)
  obtain ⟨_, _, _, -, -, joined, -⟩ | ⟨i, session, p, ingested, starts, -⟩ | ⟨-, -, full⟩ :=
    MuxSession.ingest_cases intake.session nowMs normalised
  · exact absurd welcome.opens joined
  · obtain ⟨accepted, streamId, messageId, stream, drained, left⟩ :=
      started_served ledger few starts single first readable empty
    obtain rfl := starts.packet
    have taken : MuxIntake.intake intake control normal nowMs =
        (true, ⟨session, (MuxStream.ingest intake.stream
          (handedOn normal intake.session.nextSessionId)).2⟩) := by
      unfold MuxIntake.intake
      rw [ingested]
      dsimp only
      rw [accepted]
    have emitted : (MuxIntake.step intake (.packet control normal nowMs)).2 =
        [intake.session.nextSessionId] := by
      unfold MuxIntake.step
      dsimp only
      rw [ingested]
      rfl
    change Ledger (MuxIntake.intake intake control normal nowMs).2
      (handed ++ (MuxIntake.step intake (.packet control normal nowMs)).2) at recorded
    rw [taken] at adapted
    rw [taken, emitted] at recorded
    refine ⟨streamId, messageId, _, taken, ?_, ⟨stream, drained, left⟩,
      consistent_ingest consistent _, adapted, recorded⟩
    dsimp only
    rcases drain_cases (MuxStream.ingest intake.stream
        (handedOn normal intake.session.nextSessionId)).2 true with
      ⟨q, found, again, spec⟩ | ⟨again, -⟩
    · rw [drained] at again
      obtain ⟨same, rfl⟩ := Prod.mk.inj again
      obtain rfl := Option.some.inj same
      rw [spec.queue, left]
      rfl
    · rw [drained] at again
      cases (Prod.mk.inj again).1
  · obtain ⟨i, free⟩ := welcome.slot
    rw [full i] at free
    contradiction

/-- The pump over a single datagram: what is taken in stands if it outlives the last sweep. -/
theorem pump_single (looked : mux.ingress.contents = []) (env : CodecEnv) (clock : PumpClock)
    (datagram : Datagram)
    (fresh : ∀ p ∈ queued (MuxInbox.take mux.policy env (clock.taken 0) ⟨false⟩
      (expireBoth mux.intake clock.start) datagram.ingress).intake.stream,
        MuxStream.isExpired p clock.finish = false) :
    (pump env clock [datagram] mux).1.ingress.contents = [] ∧
      (pump env clock [datagram] mux).1.intake = (MuxInbox.take mux.policy env (clock.taken 0)
        ⟨false⟩ (expireBoth mux.intake clock.start) datagram.ingress).intake := by
  have contents := ingressPump_contents looked [datagram] (Nat.le_add_left 1 63)
  have listed := pumpIngress_list mux.policy env clock.taken (ingressPump mux.ingress [datagram])
    (expireBoth mux.intake clock.start)
  rw [contents] at listed
  change (_, _, _) = pumpList mux.policy env clock.taken 0 ⟨false⟩
    (expireBoth mux.intake clock.start) [datagram.ingress] at listed
  have alone : ∃ packets, pumpList mux.policy env clock.taken 0 ⟨false⟩
      (expireBoth mux.intake clock.start) [datagram.ingress] =
        ((MuxInbox.take mux.policy env (clock.taken 0) ⟨false⟩
          (expireBoth mux.intake clock.start) datagram.ingress).intake, packets, []) := by
    unfold pumpList
    dsimp only
    split
    · exact ⟨_, rfl⟩
    · exact ⟨_, rfl⟩
    · exact ⟨_, rfl⟩
  obtain ⟨packets, alone⟩ := alone
  rw [alone] at listed
  obtain ⟨intake_eq, rest⟩ := Prod.mk.inj listed
  refine ⟨(Prod.mk.inj rest).2, ?_⟩
  unfold pump
  dsimp only
  split
  · rw [intake_eq, expire_fresh fresh]
  · exact intake_eq

theorem swept (empty : queued mux.intake.stream = 0) (clock : PumpClock) :
    expireBoth mux.intake clock.start =
      ⟨(MuxSession.expire mux.intake.session clock.start).2, mux.intake.stream⟩ := by
  unfold expireBoth
  rw [expire_fresh]
  rw [empty]
  exact fun p member => absurd member (Multiset.notMem_zero p)

theorem swept_ledger (ledger : Ledger mux.intake handed) (nowMs : UInt64) :
    Ledger ⟨(MuxSession.expire mux.intake.session nowMs).2, mux.intake.stream⟩ handed := by
  have kept := ledger_step mux.intake handed (.expireSession nowMs) trivial ledger
  change Ledger ⟨(MuxSession.expire mux.intake.session nowMs).2, mux.intake.stream⟩
    (handed ++ []) at kept
  rw [List.append_nil] at kept
  exact kept

/-- A packet that is taken in goes through the pump and waits to be handed out. -/
theorem pump_holds {p : RecvPacket} {after : Intake} {recorded : List UInt64}
    (looked : mux.ingress.contents = []) (empty : queued mux.intake.stream = 0)
    (finish : window.Holds clock.finish)
    (made : normalize mux.policy env datagram.ingress ⟨false⟩ = (some normal, control))
    (taken : MuxIntake.intake ⟨(MuxSession.expire mux.intake.session clock.start).2,
      mux.intake.stream⟩ control normal (clock.taken 0) = (true, after))
    (holding : Holding after p recorded) (received : window.Holds p.receivedMs) :
    (pump env clock [datagram] mux).1.intake = after ∧
    Offers (pump env clock [datagram] mux).1 p recorded := by
  have turned : (MuxInbox.take mux.policy env (clock.taken 0) ⟨false⟩
      (expireBoth mux.intake clock.start) datagram.ingress).intake = after := by
    rw [swept empty clock]
    unfold MuxInbox.take
    rw [made]
    dsimp only
    rw [taken]
  obtain ⟨ingress, finished⟩ := pump_single looked env clock datagram (by
    rw [turned, holding.queue]
    intro q member
    obtain rfl := Multiset.mem_singleton.mp member
    exact packet_fresh received finish)
  rw [turned] at finished
  refine ⟨finished, holding_offers ?_ ingress⟩
  rw [finished]
  exact holding

/-- A packet that opens a session goes through the pump and waits to be handed out, with the id of
that session and of the stream and message that it opens there. -/
theorem pump_visit (quiet : Quiet mux handed) (few : distinct handed < 64)
    (timely : Timely window clock) (received : window.Holds datagram.receivedMs)
    (made : normalize mux.policy env datagram.ingress ⟨false⟩ = (some normal, control))
    (welcome : Welcome (MuxSession.expire mux.intake.session clock.start).2 control normal)
    (single : Singular normal) (first : normal.fragmentIndex = 0) :
    ∃ streamId messageId, Offers (pump env clock [datagram] mux).1
      (deliveredAs (handedOn normal mux.intake.session.nextSessionId) streamId messageId)
      (handed ++ [mux.intake.session.nextSessionId]) := by
  have arrived := normalize_received (congrArg Prod.fst made)
  obtain ⟨streamId, messageId, after, taken, holding⟩ := @intake_holds handed normal control
    ⟨(MuxSession.expire mux.intake.session clock.start).2, mux.intake.stream⟩ (clock.taken 0)
    quiet.queue quiet.consistent quiet.adapters (swept_ledger quiet.ledger clock.start) few
    (normalize_normalised made) welcome single first (normalize_registered (congrArg Prod.fst made))
  refine ⟨streamId, messageId, (pump_holds quiet.looked quiet.queue timely.finish made taken holding
    ?_).2⟩
  change window.Holds normal.receivedMs
  rw [arrived]
  exact received

/-- A datagram of which nothing is made leaves the connection at rest. -/
theorem pump_skipped (quiet : Quiet mux handed) (clock : PumpClock)
    (made : normalize mux.policy env datagram.ingress ⟨false⟩ = (none, control)) :
    Quiet (pump env clock [datagram] mux).1 handed ∧
    (pump env clock [datagram] mux).1.intake =
      ⟨(MuxSession.expire mux.intake.session clock.start).2, mux.intake.stream⟩ := by
  have turned : (MuxInbox.take mux.policy env (clock.taken 0) ⟨false⟩
      (expireBoth mux.intake clock.start) datagram.ingress).intake =
        ⟨(MuxSession.expire mux.intake.session clock.start).2, mux.intake.stream⟩ := by
    unfold MuxInbox.take
    rw [made]
    exact swept quiet.queue clock
  obtain ⟨looked, finished⟩ := pump_single quiet.looked env clock datagram (by
    rw [turned, quiet.queue]
    exact fun p member => absurd member (Multiset.notMem_zero p))
  rw [turned] at finished
  refine ⟨⟨looked, ?_, ?_, ?_, ?_⟩, finished⟩
  · rw [finished]
    exact quiet.queue
  · rw [finished]
    exact quiet.consistent
  · rw [finished]
    exact quiet.adapters
  · rw [finished]
    exact swept_ledger quiet.ledger clock.start

end Visit

end Siglatch.MuxVisit
