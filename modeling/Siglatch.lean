import Siglatch.SlotTable
import Siglatch.RingQueue
import Siglatch.StepRuns
import Siglatch.MuxTypes
import Siglatch.MuxEgress
import Siglatch.MuxStream
import Siglatch.MuxStreamView
import Siglatch.MuxStreamOps
import Siglatch.MuxStreamRuns
import Siglatch.MuxStreamDelivery
import Siglatch.MuxReassembly
import Siglatch.MuxStreamRecovery
import Siglatch.MuxSession
import Siglatch.MuxIntake
import Siglatch.ByteOrder
import Siglatch.AppConfig
import Siglatch.NetIpRange
import Siglatch.RequestPolicy
import Siglatch.KnockDigest
import Siglatch.KnockContext
import Siglatch.DaemonTypes
import Siglatch.DaemonAuth
import Siglatch.DaemonPayload
import Siglatch.AppRuntime
import Siglatch.AppRuntimeKeychain
import Siglatch.AppRuntimeReload
import Siglatch.KnockCodec
import Siglatch.KnockCodecV1
import Siglatch.KnockCodecV2
import Siglatch.KnockSealed
import Siglatch.KnockCodecV3
import Siglatch.KnockCodecV4
import Siglatch.MuxAdapter
import Siglatch.MuxNormalize
import Siglatch.MuxInbox
import Siglatch.MuxOutbox
import Siglatch.KnockEncode
import Siglatch.KnockRoundTrip
import Siglatch.KnockTransmit
import Siglatch.DaemonRunner
import Siglatch.MuxClients
import Siglatch.MuxReassemblyRuns
import Siglatch.KnockFragments
import Siglatch.MuxInboxRuns
import Siglatch.MuxFragments
import Siglatch.MuxStreamBlocks
import Siglatch.MuxEncryption
import Siglatch.MuxFreshness
import Siglatch.DaemonAllowlist
import Siglatch.KnockPacked
import Siglatch.MuxRoundTrip
import Siglatch.KnockSignature
import Siglatch.DaemonLoop
import Siglatch.DaemonReplies
import Siglatch.LibStr
import Siglatch.AppBuiltin
import Siglatch.DaemonPolicy
import Siglatch.DaemonWireAuth
import Siglatch.DaemonReplay
import Siglatch.AppConfigLoad
import Siglatch.DaemonReflection
import Siglatch.FifoLog
import Siglatch.MuxEgressRuns
import Siglatch.MuxStaging
import Siglatch.KnockDetect
import Siglatch.MuxSessionRuns
import Siglatch.MuxSessionClients
import Siglatch.MuxLiveSessions
import Siglatch.DaemonDelivery
import Siglatch.DaemonBinding
import Siglatch.RelatedLists
import Siglatch.AppConfigSections
import Siglatch.DaemonPermission
import Siglatch.DaemonReplyIds
import Siglatch.IdCounter
import Siglatch.MuxStreamIds
import Siglatch.MuxStreamFailures
import Siglatch.MuxStreamPending
import Siglatch.MuxStreamFlags
import Siglatch.MuxStreamFreshIds
import Siglatch.NetIpSpec
import Siglatch.AppAllowlists
import Siglatch.KnockAuthentic
import Siglatch.MuxBatch
import Siglatch.KnockResponse
import Siglatch.KnockWire
import Siglatch.KnockInner
import Siglatch.KnockCapacity
import Siglatch.KnockLimits
import Siglatch.KnockPartition
import Siglatch.AppConfigPolicy
import Siglatch.DaemonAscii
import Siglatch.DaemonOverflow
import Siglatch.OverwriteRing
import Siglatch.LibNonce
import Siglatch.PayloadShell
import Siglatch.TextLines
import Siglatch.KeyedEntries
import Siglatch.KnockAliasMap
import Siglatch.KnockAliasOps
import Siglatch.KnockAlias
import Siglatch.ParseIni
import Siglatch.ParseIniRender
import Siglatch.LibArgv
import Siglatch.LibArgvParse
import Siglatch.LibArgvEquals
import Siglatch.AppBindTarget
import Siglatch.SextetCode
import Siglatch.LibBase64
import Siglatch.SlotArray
import Siglatch.KnockKeychain
import Siglatch.MuxStreamReady
import Siglatch.MuxIngress
import Siglatch.DaemonTraffic
import Siglatch.KnockTransit
import Siglatch.MuxVisit
import Siglatch.KnockJourney
import Siglatch.KnockReturn
import Siglatch.PipeChannel
import Siglatch.ProcessCredentials
import Siglatch.ProcessUser
import Siglatch.AppObject
import Siglatch.DaemonHandlers
import Siglatch.AppConfigForm
import Siglatch.DaemonGrants
import Siglatch.DaemonPrograms
import Siglatch.KnockLaunch
import Siglatch.MuxKnocks
import Siglatch.KnockService
import Siglatch.KnockEnv
import Siglatch.KnockDefaults
import Siglatch.KnockOpts
import Siglatch.KnockClient
