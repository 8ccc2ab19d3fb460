import Mathlib.Data.List.Basic

set_option autoImplicit false

namespace Siglatch.MuxTypes

/-- A character array up to its terminating zero. -/
abbrev CString := List UInt8

/-- A buffer together with the length that says how much of it is in use. -/
abbrev Bytes := List UInt8

def ascii (s : List Char) : CString := s.map fun c => c.toNat.toUInt8

def NORMALIZED_PACKET_BUFFER_SIZE : ℕ := 1024
def USER_DATA_PAYLOAD_MAX : ℕ := 199

structure UserData where
  userId : UInt16
  actionId : UInt8
  challenge : UInt32
  hmac : Bytes
  payload : Bytes
  deriving DecidableEq

abbrev UserSendData := UserData
abbrev UserRecvData := UserData

structure Control where
  sessionByClient : Bool
  deriving DecidableEq

structure RecvPacket where
  complete : Bool
  shouldReply : Bool
  syntheticSession : Bool
  wireVersion : UInt32
  wireForm : UInt8
  receivedMs : UInt64
  sessionId : UInt64
  messageId : UInt64
  streamId : UInt32
  fragmentIndex : UInt32
  fragmentCount : UInt32
  timestamp : UInt32
  ip : CString
  clientPort : UInt16
  encrypted : Bool
  wireDecode : Bool
  wireAuth : Bool
  rawBytes : Bytes
  user : Option UserRecvData
  deriving DecidableEq

/-- The all-zero record that `memset` leaves. -/
def RecvPacket.zero : RecvPacket where
  complete := false
  shouldReply := false
  syntheticSession := false
  wireVersion := 0
  wireForm := 0
  receivedMs := 0
  sessionId := 0
  messageId := 0
  streamId := 0
  fragmentIndex := 0
  fragmentCount := 0
  timestamp := 0
  ip := []
  clientPort := 0
  encrypted := false
  wireDecode := false
  wireAuth := false
  rawBytes := []
  user := none

structure SendPacket where
  wireVersion : UInt32
  wireForm : UInt8
  receivedMs : UInt64
  sessionId : UInt64
  messageId : UInt64
  streamId : UInt32
  fragmentIndex : UInt32
  fragmentCount : UInt32
  timestamp : UInt32
  ip : CString
  clientPort : UInt16
  encrypted : Bool
  wireAuth : Bool
  user : Option UserSendData
  deriving DecidableEq

structure SendBytesPacket where
  receivedMs : UInt64
  ip : CString
  clientPort : UInt16
  bytes : Bytes
  deriving DecidableEq

structure EgressData where
  wireVersion : UInt32
  wireForm : UInt8
  receivedMs : UInt64
  sessionId : UInt64
  messageId : UInt64
  streamId : UInt32
  fragmentIndex : UInt32
  fragmentCount : UInt32
  timestamp : UInt32
  ip : CString
  clientPort : UInt16
  encrypted : Bool
  wireAuth : Bool
  egressBuffer : Bytes
  deriving DecidableEq

def EgressData.zero : EgressData where
  wireVersion := 0
  wireForm := 0
  receivedMs := 0
  sessionId := 0
  messageId := 0
  streamId := 0
  fragmentIndex := 0
  fragmentCount := 0
  timestamp := 0
  ip := []
  clientPort := 0
  encrypted := false
  wireAuth := false
  egressBuffer := []

structure Ingress where
  buffer : Bytes
  receivedMs : UInt64
  ip : CString
  clientPort : UInt16
  encrypted : Bool
  magic : UInt32
  version : UInt32
  form : UInt8
  deriving DecidableEq

def Ingress.zero : Ingress where
  buffer := []
  receivedMs := 0
  ip := []
  clientPort := 0
  encrypted := false
  magic := 0
  version := 0
  form := 0

end Siglatch.MuxTypes
