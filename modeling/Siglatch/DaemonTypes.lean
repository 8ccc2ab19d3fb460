import Siglatch.KnockContext
import Siglatch.RingQueue

set_option autoImplicit false

namespace Siglatch.DaemonTypes
open MuxTypes AppConfig KnockContext RingQueue

structure OpenSSLSession where
  publicKey : Option EvpPkey
  privateKey : Option EvpPkey
  hmacKey : Bytes
  hmacKeyLen : ℕ
  deriving DecidableEq

def OpenSSLSession.zero : OpenSSLSession := ⟨none, none, [], 0⟩

structure Listener where
  sock : ℤ
  boundPort : ℤ
  boundIp : CString
  server : Option Server
  deriving DecidableEq

/-- The state that a request's handlers work on. The runner has installed its OpenSSL session
in the codec context, so the codecs see `session`. -/
structure Runtime where
  config : Option Config
  listener : Listener
  session : OpenSSLSession
  codecContext : CodecContext
  deriving DecidableEq

abbrev RequestPacket := UserData

structure Job where
  shouldReply : Bool
  available : Bool
  syntheticSession : Bool
  wireVersion : UInt32
  wireForm : UInt8
  sessionId : UInt64
  messageId : UInt64
  streamId : UInt32
  fragmentIndex : UInt32
  fragmentCount : UInt32
  timestamp : UInt32
  ip : CString
  clientPort : UInt16
  encrypted : Bool
  wireAuth : Bool
  request : RequestPacket
  response : Bytes
  deriving DecidableEq

def APP_JOB_RESPONSE_BLOCK_SIZE : ℕ := 1280
def APP_JOB_READY_QUEUE_CAPACITY : ℕ := 64

def RequestPacket.zero : RequestPacket := ⟨0, 0, 0, List.replicate 32 0, []⟩

def Job.zero : Job where
  shouldReply := false
  available := false
  syntheticSession := false
  wireVersion := 0
  wireForm := 0
  sessionId := 0
  messageId := 0
  streamId := 0
  fragmentIndex := 0
  fragmentCount := 0
  timestamp := 0
  ip := []
  clientPort := 0
  encrypted := false
  wireAuth := false
  request := RequestPacket.zero
  response := []

/-- A job that owns copies of a normalized packet's data: the raw bytes of an unstructured
packet, the user data of any other. -/
def loadFromNormal (normal : RecvPacket) : Option Job :=
  let job : Job := { Job.zero with
    shouldReply := normal.shouldReply, available := true
    syntheticSession := normal.syntheticSession
    wireVersion := normal.wireVersion, wireForm := normal.wireForm
    sessionId := normal.sessionId, messageId := normal.messageId, streamId := normal.streamId
    fragmentIndex := normal.fragmentIndex, fragmentCount := normal.fragmentCount
    timestamp := normal.timestamp, ip := normal.ip.take 63, clientPort := normal.clientPort
    encrypted := normal.encrypted, wireAuth := normal.wireAuth }
  if normal.wireVersion = 0 then
    some { job with request := { RequestPacket.zero with payload := normal.rawBytes } }
  else normal.user.map fun user => { job with request := user }

abbrev JobState := Ring APP_JOB_READY_QUEUE_CAPACITY Job

def stateInit : JobState := Ring.empty (by decide) Job.zero

def enqueue (state : JobState) (normal : RecvPacket) : Option JobState :=
  if h : state.count < APP_JOB_READY_QUEUE_CAPACITY then
    (loadFromNormal normal).map fun job => state.push job h
  else none

def drain (state : JobState) : Option (Job × JobState) :=
  if h : 0 < state.count then some (state.front, state.pop Job.zero h) else none

theorem drain_none_iff (state : JobState) : drain state = none ↔ state.contents = [] := by
  unfold drain
  rw [Ring.contents_eq_nil]
  split
  · simp only [reduceCtorEq, false_iff]
    omega
  · simp only [true_iff]
    omega

/-- Jobs are drained in the order in which they were queued. -/
theorem drain_some {state state' : JobState} {job : Job} (h : drain state = some (job, state')) :
    state.contents = job :: state'.contents := by
  unfold drain at h
  split at h
  · rename_i hc
    obtain ⟨rfl, rfl⟩ := Prod.mk.inj (Option.some.inj h)
    exact Ring.contents_pop state Job.zero hc
  · simp at h

theorem enqueue_some {state state' : JobState} {normal : RecvPacket}
    (h : enqueue state normal = some state') :
    ∃ job, loadFromNormal normal = some job ∧ state'.contents = state.contents ++ [job] := by
  unfold enqueue at h
  split at h
  · rename_i hc
    obtain ⟨job, hj, rfl⟩ := Option.map_eq_some_iff.mp h
    exact ⟨job, hj, Ring.contents_push state job hc⟩
  · simp at h

end Siglatch.DaemonTypes
