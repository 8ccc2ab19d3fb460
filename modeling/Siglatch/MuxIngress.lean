import Siglatch.FifoLog
import Siglatch.MuxLiveSessions

set_option autoImplicit false

namespace Siglatch.MuxIngress
open MuxTypes RingQueue KnockCodec MuxNormalize MuxInbox MuxIntake MuxLiveSessions

/-! A pump and the socket that it reads, datagram by datagram. -/

inductive Peer where
  | inet (ip : CString) (port : UInt16)
  | inet6 (ip : CString) (port : UInt16)
  | other
  deriving DecidableEq

structure Arrival where
  bytes : Bytes
  peer : Peer
  deriving DecidableEq

def peerToIp : Peer → Option (CString × UInt16)
  | .inet ip port => some (ip, port)
  | .inet6 ip port => some (ip, port)
  | .other => none

def datagram (arrival : Arrival) (receivedMs : UInt64) : Option Datagram :=
  (peerToIp arrival.peer).map fun peer => ⟨arrival.bytes, receivedMs, peer.1, peer.2⟩

/-- What the socket does for a pump: what the first wait returns, how often a wait and a read
succeed after it, and the time after each read. -/
structure Reception where
  waitRc : ℤ
  grants : ℕ
  clock : ℕ → UInt64

structure Received where
  ingress : IngressState
  socket : List Arrival
  reads : List (Arrival × UInt64)

def receiveLoop (clock : ℕ → UInt64) : ℕ → ℕ → IngressState → List Arrival → Received
  | 0, _, state, socket => ⟨state, socket, []⟩
  | grants + 1, k, state, socket =>
    if h : state.count < INGRESS_QUEUE_CAPACITY then
      match socket with
      | [] => ⟨state, [], []⟩
      | arrival :: socket =>
        match datagram arrival (clock k) with
        | none => ⟨state, socket, [(arrival, clock k)]⟩
        | some datagram =>
          let rest := receiveLoop clock grants (k + 1) (state.push datagram.ingress h) socket
          { rest with reads := (arrival, clock k) :: rest.reads }
    else ⟨state, socket, []⟩

def pump (socketFd : ℤ) (reception : Reception) (state : IngressState) (socket : List Arrival) :
    ℤ × Received :=
  if socketFd < 0 then (0, ⟨state, socket, []⟩)
  else if 0 < state.count then (1, ⟨state, socket, []⟩)
  else if reception.waitRc ≤ 0 then (reception.waitRc, ⟨state, socket, []⟩)
  else
    let received := receiveLoop reception.clock reception.grants 0 state socket
    (if 0 < received.ingress.count then 1 else 0, received)

section Inbox

variable (policy : PolicyEnforceEncryption) (env : CodecEnv)

def passed (clock : ℕ → UInt64) : ℕ → ℕ → Control → IngressState → Intake → List Ingress
  | 0, _, _, _, _ => []
  | fuel + 1, k, control, ingress, intake =>
    if h : 0 < ingress.count then
      let taken := take policy env (clock k) control intake ingress.front
      ingress.front :: match taken.outcome with
        | .refused => []
        | .skipped | .queued _ =>
          passed clock fuel (k + 1) taken.control (ingress.pop Ingress.zero h) taken.intake
    else []

end Inbox

structure Server where
  mux : MuxState
  socket : List Arrival

inductive Event where
  | arrived (arrival : Arrival)
  | read (arrival : Arrival) (receivedMs : UInt64)
  | normalized (raw : Ingress)

def Event.ofReading (reading : Arrival × UInt64) : Event := .read reading.1 reading.2

def inboxPump (env : CodecEnv) (clock : PumpClock) (reception : Reception) (server : Server) :
    Server × List Event :=
  let mux := server.mux
  let expired := expireBoth mux.intake clock.start
  let (rc, received) := pump mux.socketFd reception mux.ingress server.socket
  let reads := received.reads.map Event.ofReading
  if rc < 0 then
    (⟨{ mux with ingress := received.ingress, intake := expired }, received.socket⟩, reads)
  else
    let pumped := pumpIngress mux.policy env clock.taken received.ingress expired
    let intake := if pumped.finished then
        { pumped.intake with stream := (MuxStream.expire pumped.intake.stream clock.finish).2 }
      else pumped.intake
    let raws := passed mux.policy env clock.taken received.ingress.count 0 ⟨false⟩ received.ingress
      expired
    (⟨{ mux with ingress := pumped.ingress, intake := intake }, received.socket⟩,
      reads ++ raws.map .normalized)

inductive Op where
  | arrive (arrival : Arrival)
  | pump (env : CodecEnv) (clock : PumpClock) (reception : Reception)
  | between (policy : PolicyEnforceEncryption) (intake : Intake)

/-- Between two pumps the tables and the policy may become anything. -/
def step (server : Server) : Op → Server × List Event
  | .arrive arrival => ({ server with socket := server.socket ++ [arrival] }, [.arrived arrival])
  | .pump env clock reception => inboxPump env clock reception server
  | .between policy intake =>
    ({ server with mux := { server.mux with policy := policy, intake := intake } }, [])

def listening (socketFd : ℤ) (policy : PolicyEnforceEncryption) : Server :=
  ⟨connectSocket socketFd policy, []⟩

section Receive

variable {clock : ℕ → UInt64} {socketFd : ℤ} {reception : Reception} {state : IngressState}
  {socket : List Arrival}

/-- What is queued of a reading. -/
def queuedAs (reading : Arrival × UInt64) : Option Ingress :=
  (datagram reading.1 reading.2).map Datagram.ingress

/-- The readings of a pump are the first datagrams at the socket, and go behind what is queued. -/
structure Reads (state : IngressState) (socket : List Arrival) (received : Received) : Prop where
  socket : socket = received.reads.map Prod.fst ++ received.socket
  ring : received.ingress.contents = state.contents ++ received.reads.filterMap queuedAs

theorem reads_nothing (state : IngressState) (socket : List Arrival) :
    Reads state socket ⟨state, socket, []⟩ := ⟨rfl, (List.append_nil _).symm⟩

theorem receiveLoop_reads (clock : ℕ → UInt64) (grants k : ℕ) (state : IngressState)
    (socket : List Arrival) : Reads state socket (receiveLoop clock grants k state socket) := by
  induction grants generalizing k state socket with
  | zero => exact reads_nothing state socket
  | succ grants ih =>
    unfold receiveLoop
    split
    · rename_i room
      split
      · exact reads_nothing state []
      · rename_i arrival socket
        split
        · rename_i unknown
          refine ⟨rfl, ?_⟩
          have lost : queuedAs (arrival, clock k) = none := by
            unfold queuedAs
            rw [unknown]
            rfl
          rw [List.filterMap_cons_none lost, List.filterMap_nil, List.append_nil]
        · rename_i found known
          obtain ⟨inOrder, queued⟩ := ih (k + 1) (state.push _ room) socket
          refine ⟨congrArg (arrival :: ·) inOrder, ?_⟩
          have kept : queuedAs (arrival, clock k) = some found.ingress := by
            unfold queuedAs
            rw [known]
            rfl
          dsimp only
          rw [queued, Ring.contents_push, List.append_assoc, List.filterMap_cons_some kept]
          rfl
    · exact reads_nothing state socket

theorem pump_reads (socketFd : ℤ) (reception : Reception) (state : IngressState)
    (socket : List Arrival) : Reads state socket (pump socketFd reception state socket).2 := by
  unfold pump
  split
  · exact reads_nothing state socket
  split
  · exact reads_nothing state socket
  split
  · exact reads_nothing state socket
  · exact receiveLoop_reads reception.clock reception.grants 0 state socket

theorem pump_busy (busy : 0 < state.count) :
    0 ≤ (pump socketFd reception state socket).1 ∧
      (pump socketFd reception state socket).2 = ⟨state, socket, []⟩ := by
  unfold pump
  split
  · exact ⟨Int.le_refl 0, rfl⟩
  · exact ⟨show (0 : ℤ) ≤ 1 by decide, rfl⟩

end Receive

section Inbox

variable (env : CodecEnv) (clock : PumpClock) (reception : Reception) (server : Server)

def datagrams (reads : List (Arrival × UInt64)) : List Datagram :=
  reads.filterMap fun reading => datagram reading.1 reading.2

theorem datagrams_none {arrival : Arrival} {receivedMs : UInt64}
    (unknown : datagram arrival receivedMs = none) (reads : List (Arrival × UInt64)) :
    datagrams ((arrival, receivedMs) :: reads) = datagrams reads :=
  List.filterMap_cons_none unknown

theorem datagrams_some {arrival : Arrival} {receivedMs : UInt64} {found : Datagram}
    (known : datagram arrival receivedMs = some found) (reads : List (Arrival × UInt64)) :
    datagrams ((arrival, receivedMs) :: reads) = found :: datagrams reads :=
  List.filterMap_cons_some known

theorem receiveLoop_receive (clock : ℕ → UInt64) (grants k : ℕ) (state : IngressState)
    (socket : List Arrival) :
    let received := receiveLoop clock grants k state socket
    received.ingress = receive state (datagrams received.reads) := by
  induction grants generalizing k state socket with
  | zero => rfl
  | succ grants ih =>
    unfold receiveLoop
    split
    · rename_i room
      split
      · rfl
      · rename_i arrival socket
        split
        · rename_i unknown
          dsimp only
          rw [datagrams_none unknown]
          rfl
        · rename_i found known
          dsimp only
          rw [datagrams_some known, receive, dif_pos room]
          exact ih (k + 1) (state.push found.ingress room) socket
    · rfl

theorem pump_ingressPump (socketFd : ℤ) (reception : Reception) (state : IngressState)
    (socket : List Arrival) :
    let received := (pump socketFd reception state socket).2
    received.ingress = ingressPump state (datagrams received.reads) := by
  have nothing : state = ingressPump state (datagrams []) := by
    unfold ingressPump
    split
    · rfl
    · rfl
  unfold pump
  split
  · exact nothing
  split
  · exact nothing
  split
  · exact nothing
  · rename_i idle _
    dsimp only
    unfold ingressPump
    rw [if_neg idle]
    exact receiveLoop_receive reception.clock reception.grants 0 state socket

theorem pump_failed {socketFd : ℤ} {reception : Reception} {state : IngressState}
    {socket : List Arrival} (failed : (pump socketFd reception state socket).1 < 0) :
    (pump socketFd reception state socket).2 = ⟨state, socket, []⟩ := by
  unfold pump at failed ⊢
  split at failed
  · cases failed
  rename_i opened
  rw [if_neg opened]
  split at failed
  · cases failed
  rename_i idle
  rw [if_neg idle]
  split at failed
  · rename_i unready
    rw [if_pos unready]
  · dsimp only at failed
    split at failed
    · cases failed
    · cases failed

/-- The connection goes through a pump that is given all datagrams it reads, or through one whose
wait failed. -/
theorem inboxPump_mux :
    let received := pump server.mux.socketFd reception server.mux.ingress server.socket
    (inboxPump env clock reception server).1.mux =
      if received.1 < 0 then pumpFailed clock.start server.mux
      else (MuxInbox.pump env clock (datagrams received.2.reads) server.mux).1 := by
  have same := pump_ingressPump server.mux.socketFd reception server.mux.ingress server.socket
  dsimp only at same ⊢
  unfold inboxPump
  dsimp only
  split
  · rename_i failed
    rw [pump_failed failed]
    rfl
  · dsimp only
    rw [same]
    rfl

end Inbox

section Passed

variable (policy : PolicyEnforceEncryption) (env : CodecEnv) (clock : ℕ → UInt64)

theorem passed_contents (fuel k : ℕ) (control : Control) (ingress : IngressState)
    (intake : Intake) :
    ingress.contents = passed policy env clock fuel k control ingress intake ++
      (pumpLoop policy env clock fuel k control ingress intake).ingress.contents := by
  induction fuel generalizing k control ingress intake with
  | zero => rfl
  | succ fuel ih =>
    unfold passed pumpLoop
    split
    · rename_i nonempty
      have rest := ih (k + 1) (take policy env (clock k) control intake ingress.front).control
        (ingress.pop Ingress.zero nonempty)
        (take policy env (clock k) control intake ingress.front).intake
      rw [Ring.contents_pop ingress Ingress.zero nonempty]
      dsimp only
      cases (take policy env (clock k) control intake ingress.front).outcome with
      | refused => rfl
      | skipped => exact congrArg (ingress.front :: ·) rest
      | queued normal => exact congrArg (ingress.front :: ·) rest
    · rfl

theorem passed_front (k : ℕ) (control : Control) (ingress : IngressState) (intake : Intake)
    (nonempty : 0 < ingress.count) :
    passed policy env clock ingress.count k control ingress intake ≠ [] := by
  obtain ⟨fuel, more⟩ := Nat.exists_eq_succ_of_ne_zero (by omega : ingress.count ≠ 0)
  rw [more]
  unfold passed
  rw [dif_pos nonempty]
  exact List.cons_ne_nil _ _

end Passed

section Queues

open FifoLog (Runs)

def atSocket : Event → Option (FifoLog.Event Arrival)
  | .arrived arrival => some (.put arrival)
  | .read arrival _ => some (.take arrival)
  | .normalized _ => none

def atRing : Event → Option (FifoLog.Event Ingress)
  | .arrived _ => none
  | .read arrival receivedMs => (queuedAs (arrival, receivedMs)).map .put
  | .normalized raw => some (.take raw)

theorem atSocket_reads (reads : List (Arrival × UInt64)) :
    (reads.map Event.ofReading).filterMap atSocket =
      (reads.map Prod.fst).map .take := by
  induction reads with
  | nil => rfl
  | cons reading reads ih => exact congrArg (.take reading.1 :: ·) ih

theorem atSocket_raws (raws : List Ingress) :
    (raws.map Event.normalized).filterMap atSocket = [] := by
  induction raws with
  | nil => rfl
  | cons raw raws ih => exact ih

theorem atRing_reads (reads : List (Arrival × UInt64)) :
    (reads.map Event.ofReading).filterMap atRing =
      (reads.filterMap queuedAs).map .put := by
  induction reads with
  | nil => rfl
  | cons reading reads ih =>
    rw [List.map_cons, List.filterMap_cons, List.filterMap_cons]
    rw [show atRing (.ofReading reading) = (queuedAs reading).map .put from rfl]
    cases queuedAs reading with
    | none => exact ih
    | some raw => exact congrArg (.put raw :: ·) ih

theorem atRing_raws (raws : List Ingress) :
    (raws.map Event.normalized).filterMap atRing = raws.map .take := by
  induction raws with
  | nil => rfl
  | cons raw raws ih => exact congrArg (.take raw :: ·) ih

variable (env : CodecEnv) (clock : PumpClock) (reception : Reception) (server : Server)

theorem inboxPump_socket :
    Runs server.socket ((inboxPump env clock reception server).2.filterMap atSocket)
      (inboxPump env clock reception server).1.socket := by
  have reads := pump_reads server.mux.socketFd reception server.mux.ingress server.socket
  have taken : Runs server.socket
      (((pump server.mux.socketFd reception server.mux.ingress server.socket).2.reads.map
        Event.ofReading).filterMap atSocket)
      (pump server.mux.socketFd reception server.mux.ingress server.socket).2.socket := by
    rw [atSocket_reads]
    nth_rewrite 1 [reads.socket]
    exact FifoLog.runs_takes _ _
  unfold inboxPump
  dsimp only
  split
  · exact taken
  · rw [List.filterMap_append, atSocket_raws, List.append_nil]
    exact taken

theorem inboxPump_ring :
    Runs server.mux.ingress.contents
      ((inboxPump env clock reception server).2.filterMap atRing)
      (inboxPump env clock reception server).1.mux.ingress.contents := by
  have reads := pump_reads server.mux.socketFd reception server.mux.ingress server.socket
  have put : Runs server.mux.ingress.contents
      (((pump server.mux.socketFd reception server.mux.ingress server.socket).2.reads.map
        Event.ofReading).filterMap atRing)
      (pump server.mux.socketFd reception server.mux.ingress server.socket).2.ingress.contents := by
    rw [atRing_reads, reads.ring]
    exact FifoLog.runs_puts _ _
  unfold inboxPump
  dsimp only
  split
  · exact put
  · rw [List.filterMap_append, atRing_raws]
    refine put.append ?_
    rw [passed_contents server.mux.policy env clock.taken _ 0 ⟨false⟩
      (pump server.mux.socketFd reception server.mux.ingress server.socket).2.ingress
      (expireBoth server.mux.intake clock.start)]
    exact FifoLog.runs_takes _ _

theorem step_socket (op : Op) :
    Runs server.socket ((step server op).2.filterMap atSocket) (step server op).1.socket := by
  cases op with
  | arrive arrival => exact FifoLog.runs_puts [arrival] server.socket
  | pump env clock reception => exact inboxPump_socket env clock reception server
  | between policy intake => exact .nil server.socket

theorem step_ring (op : Op) :
    Runs server.mux.ingress.contents ((step server op).2.filterMap atRing)
      (step server op).1.mux.ingress.contents := by
  cases op with
  | arrive arrival => exact .nil _
  | pump env clock reception => exact inboxPump_ring env clock reception server
  | between policy intake => exact .nil _

end Queues

section Logs

def Event.arrival : Event → Option Arrival
  | .arrived arrival => some arrival
  | _ => none

def Event.reading : Event → Option (Arrival × UInt64)
  | .read arrival receivedMs => some (arrival, receivedMs)
  | _ => none

def Event.raw : Event → Option Ingress
  | .normalized raw => some raw
  | _ => none

theorem puts_atSocket (events : List Event) :
    FifoLog.puts (events.filterMap atSocket) = events.filterMap Event.arrival := by
  rw [FifoLog.puts_filterMap]
  congr 1
  funext e
  cases e with
  | arrived arrival => rfl
  | read arrival receivedMs => rfl
  | normalized raw => rfl

theorem takes_atSocket (events : List Event) :
    FifoLog.takes (events.filterMap atSocket) =
      (events.filterMap Event.reading).map Prod.fst := by
  rw [FifoLog.takes_filterMap, List.map_filterMap]
  congr 1
  funext e
  cases e with
  | arrived arrival => rfl
  | read arrival receivedMs => rfl
  | normalized raw => rfl

theorem puts_atRing (events : List Event) :
    FifoLog.puts (events.filterMap atRing) =
      (events.filterMap Event.reading).filterMap queuedAs := by
  rw [FifoLog.puts_filterMap, List.filterMap_filterMap]
  congr 1
  funext e
  cases e with
  | arrived arrival => rfl
  | read arrival receivedMs =>
    change ((queuedAs (arrival, receivedMs)).map FifoLog.Event.put).bind _ =
      queuedAs (arrival, receivedMs)
    cases queuedAs (arrival, receivedMs) with
    | none => rfl
    | some raw => rfl
  | normalized raw => rfl

theorem takes_atRing (events : List Event) :
    FifoLog.takes (events.filterMap atRing) = events.filterMap Event.raw := by
  rw [FifoLog.takes_filterMap]
  congr 1
  funext e
  cases e with
  | arrived arrival => rfl
  | read arrival receivedMs =>
    change ((queuedAs (arrival, receivedMs)).map FifoLog.Event.put).bind _ = none
    cases queuedAs (arrival, receivedMs) with
    | none => rfl
    | some raw => rfl
  | normalized raw => rfl

theorem events_reading (reads : List (Arrival × UInt64)) (raws : List Ingress) :
    (reads.map Event.ofReading ++ raws.map Event.normalized).filterMap Event.reading = reads := by
  have all : Event.reading ∘ Event.ofReading = some := rfl
  have others : raws.filterMap (Event.reading ∘ Event.normalized) = [] :=
    List.filterMap_eq_nil_iff.mpr fun _ _ => rfl
  rw [List.filterMap_append, List.filterMap_map, List.filterMap_map, all, List.filterMap_some,
    others, List.append_nil]

theorem events_raw (reads : List (Arrival × UInt64)) (raws : List Ingress) :
    (reads.map Event.ofReading ++ raws.map Event.normalized).filterMap Event.raw = raws := by
  have all : Event.raw ∘ Event.normalized = some := rfl
  have others : reads.filterMap (Event.raw ∘ Event.ofReading) = [] :=
    List.filterMap_eq_nil_iff.mpr fun _ _ => rfl
  rw [List.filterMap_append, List.filterMap_map, List.filterMap_map, all, List.filterMap_some,
    others, List.nil_append]

end Logs

section Pumps

variable (env : CodecEnv) (clock : PumpClock) (reception : Reception) (server : Server)

theorem inboxPump_busy (busy : server.mux.ingress.contents ≠ []) :
    (inboxPump env clock reception server).2.filterMap Event.reading = [] ∧
      (inboxPump env clock reception server).2.filterMap Event.raw ≠ [] := by
  have some_left : 0 < server.mux.ingress.count := by
    rw [Nat.pos_iff_ne_zero]
    exact mt (Ring.contents_eq_nil _).mpr busy
  obtain ⟨done, same⟩ := @pump_busy server.mux.socketFd reception server.mux.ingress
    server.socket some_left
  unfold inboxPump
  dsimp only
  rw [if_neg (Int.not_lt.mpr done), same]
  dsimp only
  rw [events_reading, events_raw]
  exact ⟨rfl, passed_front server.mux.policy env clock.taken 0 ⟨false⟩ server.mux.ingress _
    some_left⟩

theorem inboxPump_passes {rc : ℤ} {received : Received} {raw : Ingress} {more : List Ingress}
    (waited : pump server.mux.socketFd reception server.mux.ingress server.socket =
      (rc, received)) (done : ¬ rc < 0) (queued : received.ingress.contents = raw :: more) :
    ∃ rest, (inboxPump env clock reception server).2 =
      received.reads.map Event.ofReading ++ (raw :: rest).map Event.normalized := by
  have some_left : 0 < received.ingress.count := by
    rw [← Ring.contents_length, queued]
    exact Nat.succ_pos _
  have order := passed_contents server.mux.policy env clock.taken received.ingress.count 0 ⟨false⟩
    received.ingress (expireBoth server.mux.intake clock.start)
  have first := passed_front server.mux.policy env clock.taken 0 ⟨false⟩ received.ingress
    (expireBoth server.mux.intake clock.start) some_left
  unfold inboxPump
  dsimp only
  rw [waited]
  dsimp only
  rw [if_neg done]
  rw [queued] at order
  cases raws : passed server.mux.policy env clock.taken received.ingress.count 0 ⟨false⟩
      received.ingress (expireBoth server.mux.intake clock.start) with
  | nil => exact absurd raws first
  | cons front rest =>
    rw [raws] at order
    obtain ⟨rfl, -⟩ := List.cons.inj order
    exact ⟨rest, rfl⟩

/-- Over all pumps, whatever the tables refuse: what was read from the socket is what came in,
in that order, and what was passed to `normalize`, with what waits in the ring, is what was read
from peers that have an address. -/
theorem pumps_in_order (socketFd : ℤ) (policy : PolicyEnforceEncryption) (ops : List Op) :
    let start := listening socketFd policy
    let ended := StepRuns.run step start ops
    ended.2.filterMap Event.arrival =
      (ended.2.filterMap Event.reading).map Prod.fst ++ ended.1.socket ∧
    (ended.2.filterMap Event.reading).filterMap queuedAs =
      ended.2.filterMap Event.raw ++ ended.1.mux.ingress.contents ∧
    (∀ p ∈ StepRuns.steps step start ops, p.1.mux.ingress.contents ≠ [] →
      (step p.1 p.2).2.filterMap Event.reading = []) ∧
    (ended.1.mux.ingress.contents ≠ [] → ∀ env clock reception,
      (step ended.1 (.pump env clock reception)).2.filterMap Event.raw ≠ []) ∧
    ended.1.mux.ingress.count ≤ INGRESS_QUEUE_CAPACITY ∧
    ended.1.mux.ingress.tail =
      (ended.1.mux.ingress.head + ended.1.mux.ingress.count) % INGRESS_QUEUE_CAPACITY := by
  intro start ended
  have socket : FifoLog.Runs [] (ended.2.filterMap atSocket) ended.1.socket :=
    FifoLog.run_refines step_socket start ops
  have ring : FifoLog.Runs [] (ended.2.filterMap atRing) ended.1.mux.ingress.contents :=
    FifoLog.run_refines step_ring start ops
  refine ⟨?_, ?_, ?_, ?_, ended.1.mux.ingress.count_le, ended.1.mux.ingress.tail_eq⟩
  · rw [← puts_atSocket, ← takes_atSocket, ← socket.conserves, List.nil_append]
  · rw [← puts_atRing, ← takes_atRing, ← ring.conserves, List.nil_append]
  · rintro ⟨server, op⟩ - busy
    cases op with
    | arrive arrival => rfl
    | pump env clock reception => exact (inboxPump_busy env clock reception server busy).1
    | between policy intake => rfl
  · exact fun busy env clock reception => (inboxPump_busy env clock reception ended.1 busy).2

/-- A datagram that is longer than the buffer, one that is read while the one before it is queued,
and one whose peer has no address. -/
theorem long_datagram_cut :
    let long : Arrival := ⟨List.replicate 1025 0, .inet [49, 46, 49, 46, 49, 46, 49] 5000⟩
    let next : Arrival := ⟨[1], .inet [49, 46, 49, 46, 49, 46, 49] 5000⟩
    let lost : Arrival := ⟨[1], .other⟩
    let pumped : Op := .pump bareEnv (stillClock 7) ⟨1, 2, fun _ => 7⟩
    let both := StepRuns.run step (listening 3 .no) [.arrive long, .arrive next, pumped]
    let other := StepRuns.run step (listening 3 .no) [.arrive lost, pumped]
    (∃ raw rest, both.2 =
        [.arrived long, .arrived next, .read long 7, .read next 7] ++
          (raw :: rest).map .normalized ∧
      raw.buffer.length = 1024 ∧ raw.buffer ≠ long.bytes) ∧
    other.2 = [.arrived lost, .read lost 7] ∧ other.1.mux.ingress.contents = [] := by
  intro long next lost pumped both other
  have reads := pump_reads 3 ⟨1, 2, fun _ => 7⟩ ingressInit [long, next]
  obtain ⟨rest, events⟩ := inboxPump_passes bareEnv (stillClock 7) ⟨1, 2, fun _ => 7⟩
    ⟨connectSocket 3 .no, [long, next]⟩ rfl (by decide) reads.ring
  have cut : (long.bytes.take NORMALIZED_PACKET_BUFFER_SIZE).length = 1024 := by
    rw [List.length_take, List.length_replicate]
    rfl
  refine ⟨⟨Datagram.ingress ⟨long.bytes, 7, [49, 46, 49, 46, 49, 46, 49], 5000⟩, rest, ?_, cut,
    ?_⟩, rfl, rfl⟩
  · change [Event.arrived long] ++ ([Event.arrived next] ++ ((inboxPump bareEnv (stillClock 7)
      ⟨1, 2, fun _ => 7⟩ ⟨connectSocket 3 .no, [long, next]⟩).2 ++ [])) = _
    rw [events, List.append_nil]
    rfl
  · intro whole
    have same := congrArg List.length whole
    change (long.bytes.take NORMALIZED_PACKET_BUFFER_SIZE).length = long.bytes.length at same
    rw [cut, List.length_replicate] at same
    cases same

end Pumps

end Siglatch.MuxIngress
