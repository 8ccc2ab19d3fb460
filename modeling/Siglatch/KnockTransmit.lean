import Siglatch.KnockCodec

set_option autoImplicit false

namespace Siglatch.KnockTransmit
open MuxTypes KnockDigest

inductive KnockProtocol where
  | v1
  | v2
  | v3
  | v4
  deriving DecidableEq

inductive HmacMode where
  | normal
  | dummy
  | none
  deriving DecidableEq

structure Opts where
  hmacMode : HmacMode
  encrypt : Bool
  userId : UInt32
  actionId : UInt32
  fragmentCount : UInt32
  payload : Bytes

structure Moment where
  monotonicMs : UInt64
  unixTs : UInt32
  challenge : UInt32

def protocolWireVersion : KnockProtocol → UInt32
  | .v1 => V1_VERSION
  | .v2 => V2_WIRE_VERSION
  | .v3 => V3_WIRE_VERSION
  | .v4 => V4_WIRE_VERSION

def protocolWireForm : KnockProtocol → UInt8
  | .v1 => 0
  | _ => FORM1_ID

/-- Clients of protocol 4 all use the same session, stream and message id. -/
def buildM7muxSendPacket (opts : Opts) (protocol : KnockProtocol) (targetIp : CString)
    (targetPort : UInt16) (moment : Moment) : SendPacket where
  wireVersion := protocolWireVersion protocol
  wireForm := protocolWireForm protocol
  receivedMs := moment.monotonicMs
  sessionId := if protocol = .v4 then 1 else 0
  messageId := if protocol = .v4 then 1 else 0
  streamId := if protocol = .v4 then 1 else 0
  fragmentIndex := 0
  fragmentCount := opts.fragmentCount
  timestamp := moment.unixTs
  ip := targetIp.take 63
  clientPort := targetPort
  encrypted := opts.encrypt
  wireAuth := decide (opts.hmacMode = .normal)
  user := some {
    userId := opts.userId.toUInt16
    actionId := opts.actionId.toUInt8
    challenge := moment.challenge
    hmac := List.replicate HMAC_SIZE (if opts.hmacMode = .dummy then 0x42 else 0)
    payload := opts.payload.take USER_DATA_PAYLOAD_MAX }

end Siglatch.KnockTransmit
