import Siglatch.SlotTable
import Siglatch.MuxTypes

set_option autoImplicit false

namespace Siglatch.MuxStream
open MuxTypes

def READY_QUEUE_CAPACITY : ℕ := 64
def SESSION_TRACKER_CAPACITY : ℕ := 64
def TRACKER_CAPACITY : ℕ := 64
def EXPIRE_AFTER_MS : UInt64 := 30000

structure MessageTracker where
  streamId : UInt32
  nextMessageId : UInt64
  messageId : UInt64
  nextFragmentIndex : UInt32
  fragmentCount : UInt32
  active : Bool
  deriving DecidableEq

def MessageTracker.zero : MessageTracker := ⟨0, 0, 0, 0, 0, false⟩

structure SessionTracker where
  sessionId : UInt64
  nextStreamId : UInt32
  active : Bool
  streamTrackers : Fin TRACKER_CAPACITY → MessageTracker

def SessionTracker.zero : SessionTracker := ⟨0, 0, false, fun _ => .zero⟩

/-- `adapterLib` holds the wire versions that an adapter is registered for. -/
structure StreamState where
  readyQueue : Fin READY_QUEUE_CAPACITY → RecvPacket
  readyCount : ℕ
  sessionTrackers : Fin SESSION_TRACKER_CAPACITY → SessionTracker
  adapterLib : Option (List UInt32)

def stateInit : StreamState := ⟨fun _ => .zero, 0, fun _ => .zero, none⟩

def stateReset (state : StreamState) : StreamState :=
  { stateInit with adapterLib := state.adapterLib }

def hasPending (state : StreamState) : Bool := decide (0 < state.readyCount)

def isExpired (slot : RecvPacket) (nowMs : UInt64) : Bool :=
  if slot.sessionId = 0 then false
  else if slot.receivedMs = 0 then true
  else if nowMs < slot.receivedMs then false
  else decide (EXPIRE_AFTER_MS ≤ nowMs - slot.receivedMs)

def SessionTracker.key (t : SessionTracker) : Option UInt64 :=
  if t.active then some t.sessionId else none

def MessageTracker.key (t : MessageTracker) : Option UInt32 :=
  if t.active then some t.streamId else none

def SessionTracker.fresh (sessionId : UInt64) : SessionTracker :=
  { SessionTracker.zero with active := true, sessionId := sessionId, nextStreamId := 1 }

def MessageTracker.fresh (streamId : UInt32) : MessageTracker :=
  { MessageTracker.zero with active := true, streamId := streamId, nextMessageId := 1 }

def findSessionTracker (state : StreamState) (sessionId : UInt64) (create : Bool) :
    Option (Fin SESSION_TRACKER_CAPACITY) × StreamState :=
  if sessionId = 0 then (none, state)
  else if create then
    let found := SlotTable.acquire SessionTracker.key (.fresh sessionId) state.sessionTrackers
      sessionId
    (found.1, { state with sessionTrackers := found.2 })
  else (SlotTable.lookup SessionTracker.key state.sessionTrackers sessionId, state)

def findMessageTracker (session : SessionTracker) (streamId : UInt32) (create : Bool) :
    Option (Fin TRACKER_CAPACITY) × SessionTracker :=
  if streamId = 0 then (none, session)
  else if create then
    let found := SlotTable.acquire MessageTracker.key (.fresh streamId) session.streamTrackers
      streamId
    (found.1, { session with streamTrackers := found.2 })
  else (SlotTable.lookup MessageTracker.key session.streamTrackers streamId, session)

def messageTrackerBegin (tracker : MessageTracker) (packet : RecvPacket) :
    Option MessageTracker :=
  if packet.messageId = 0 then none
  else
    let fragmentCount := if packet.fragmentCount = 0 then 1 else packet.fragmentCount
    let claimed := { tracker with
      messageId := packet.messageId, nextFragmentIndex := 0, fragmentCount := fragmentCount }
    -- A singular packet queues without claiming the stream.
    if fragmentCount ≤ 1 then some tracker
    else if tracker.messageId = 0 then some claimed
    else if tracker.messageId = packet.messageId then
      if tracker.fragmentCount = 0 then some { tracker with fragmentCount := fragmentCount }
      else some tracker
    else if tracker.fragmentCount ≤ tracker.nextFragmentIndex then some claimed
    else none

def packetIsDeliverable (state : StreamState) (packet : RecvPacket) : Bool :=
  if packet.sessionId = 0 ∨ packet.streamId = 0 then false
  else
    match (findSessionTracker state packet.sessionId false).1 with
    | none => false
    | some i =>
      if packet.fragmentCount = 0 ∨ packet.fragmentCount = 1 then packet.fragmentIndex == 0
      else
        let session := state.sessionTrackers i
        match (findMessageTracker session packet.streamId false).1 with
        | none => false
        | some j =>
          let tracker := session.streamTrackers j
          if tracker.messageId = 0 then false
          else if packet.messageId ≠ tracker.messageId then false
          else packet.fragmentIndex == tracker.nextFragmentIndex

def assignStreamId (session : SessionTracker) (packet : RecvPacket) :
    RecvPacket × SessionTracker :=
  if packet.streamId = 0 then
    let streamId := session.nextStreamId
    let next := session.nextStreamId + 1
    ({ packet with streamId := streamId },
      { session with nextStreamId := if next ≤ streamId then streamId + 1 else next })
  else if session.nextStreamId ≤ packet.streamId then
    (packet, { session with nextStreamId := packet.streamId + 1 })
  else (packet, session)

def assignMessageId (tracker : MessageTracker) (packet : RecvPacket) :
    RecvPacket × MessageTracker :=
  if packet.messageId = 0 then
    let messageId := tracker.nextMessageId
    let next := tracker.nextMessageId + 1
    ({ packet with messageId := messageId },
      { tracker with nextMessageId := if next ≤ messageId then messageId + 1 else next })
  else if tracker.nextMessageId ≤ packet.messageId then
    (packet, { tracker with nextMessageId := packet.messageId + 1 })
  else (packet, tracker)

def StreamState.setSession (state : StreamState) (i : Fin SESSION_TRACKER_CAPACITY)
    (session : SessionTracker) : StreamState :=
  { state with sessionTrackers := Function.update state.sessionTrackers i session }

def SessionTracker.setTracker (session : SessionTracker) (j : Fin TRACKER_CAPACITY)
    (tracker : MessageTracker) : SessionTracker :=
  { session with streamTrackers := Function.update session.streamTrackers j tracker }

/-- The packet with the ids it is queued under, and the trackers that ids were taken from. -/
structure Assigned where
  packet : RecvPacket
  session : Fin SESSION_TRACKER_CAPACITY
  tracker : Fin TRACKER_CAPACITY

def assignIds (state : StreamState) (normal : RecvPacket) : Option Assigned × StreamState :=
  if normal.sessionId = 0 then (none, state)
  else
    match findSessionTracker state normal.sessionId true with
    | (none, state) => (none, state)
    | (some i, state) =>
      let (packet, session) := assignStreamId (state.sessionTrackers i) normal
      match findMessageTracker session packet.streamId true with
      | (none, session) => (none, state.setSession i session)
      | (some j, session) =>
        let (packet, tracker) := assignMessageId (session.streamTrackers j) packet
        (some ⟨packet, i, j⟩, state.setSession i (session.setTracker j tracker))

def finalFragment (packet : RecvPacket) : Bool :=
  if packet.fragmentCount = 0 then true
  else decide (packet.fragmentCount ≤ packet.fragmentIndex + 1)

def sameFragment (packet slot : RecvPacket) : Bool :=
  slot.sessionId == packet.sessionId && slot.streamId == packet.streamId &&
    slot.messageId == packet.messageId && slot.fragmentIndex == packet.fragmentIndex

def storePacket (state : StreamState) (i : Fin READY_QUEUE_CAPACITY) (packet : RecvPacket) :
    StreamState :=
  { state with
    readyQueue := Function.update state.readyQueue i
      { packet with complete := finalFragment packet }
    readyCount := state.readyCount + 1 }

def queuePacket (state : StreamState) (packet : RecvPacket) : Bool × StreamState :=
  match SlotTable.find? state.readyQueue (sameFragment packet) with
  | some i =>
    if (state.readyQueue i).sessionId ≠ 0 then (false, state)
    else (true, storePacket state i packet)
  | none =>
    match SlotTable.find? state.readyQueue fun slot => slot.sessionId == 0 with
    | none => (false, state)
    | some i => (true, storePacket state i packet)

def ingest (state : StreamState) (normal : RecvPacket) : Bool × StreamState :=
  match assignIds state normal with
  | (none, state) => (false, state)
  | (some a, state) =>
    let session := state.sessionTrackers a.session
    match messageTrackerBegin (session.streamTrackers a.tracker) a.packet with
    | none => (false, state)
    | some tracker =>
      queuePacket (state.setSession a.session (session.setTracker a.tracker tracker)) a.packet

def copyUser (state : StreamState) (packet : RecvPacket) : Bool :=
  match state.adapterLib with
  | none => false
  | some adapters => adapters.contains packet.wireVersion

def advanceTracker (tracker : MessageTracker) : MessageTracker :=
  let next := if tracker.nextFragmentIndex < 4294967295 then tracker.nextFragmentIndex + 1
    else tracker.nextFragmentIndex
  if tracker.fragmentCount = 0 ∨ tracker.fragmentCount ≤ next then
    { tracker with messageId := 0, nextFragmentIndex := 0, fragmentCount := 0 }
  else { tracker with nextFragmentIndex := next }

/-- The part of a drain that steps the in-flight message past the fragment it returns. -/
def advanceMessage (state : StreamState) (slot : RecvPacket) : StreamState :=
  if 1 < slot.fragmentCount then
    match (findSessionTracker state slot.sessionId false).1 with
    | none => state
    | some i =>
      let session := state.sessionTrackers i
      match (findMessageTracker session slot.streamId false).1 with
      | none => state
      | some j =>
        let tracker := session.streamTrackers j
        if tracker.messageId = slot.messageId then
          state.setSession i (session.setTracker j (advanceTracker tracker))
        else state
  else state

/-- `callerUser` says whether the caller supplies a buffer for the packet's user data. -/
def drain (state : StreamState) (callerUser : Bool) : Option RecvPacket × StreamState :=
  match SlotTable.find? state.readyQueue fun slot =>
      slot.sessionId != 0 && packetIsDeliverable state slot with
  | none => (none, state)
  | some i =>
    let slot := state.readyQueue i
    if slot.user.isSome && !callerUser then (none, state)
    else if slot.user.isSome && !copyUser state slot then (none, state)
    else
      let advanced := advanceMessage state slot
      (some slot, { advanced with
        readyQueue := Function.update state.readyQueue i .zero
        readyCount := state.readyCount - 1 })

def expiredCount (state : StreamState) (nowMs : UInt64) : ℕ :=
  (Finset.univ.filter fun i => isExpired (state.readyQueue i) nowMs).card

def expire (state : StreamState) (nowMs : UInt64) : ℕ × StreamState :=
  (expiredCount state nowMs, { state with
    readyQueue := fun i =>
      if isExpired (state.readyQueue i) nowMs then .zero else state.readyQueue i
    readyCount := state.readyCount - expiredCount state nowMs })

end Siglatch.MuxStream
