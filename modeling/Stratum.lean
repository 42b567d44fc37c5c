import Stratum.Verified.Digits
import Stratum.Verified.BigEndian
import Stratum.Verified.SetIntersection
import Stratum.Verified.Run
import Stratum.Verified.PairedMaps
import Stratum.Verified.StateSpec
import Stratum.Verified.BitPacking
import Stratum.Verified.KeyedSet
import Stratum.Verified.OrderedContainers
import Stratum.Verified.CIntegers
import Stratum.Verified.BitWindows
import Stratum.Verified.LinkedForest
import Stratum.Ports.Status
import Stratum.Ports.P4Utils
import Stratum.Ports.P4Runtime
import Stratum.Ports.P4MatchKey
import Stratum.Ports.P4InfoManager
import Stratum.Ports.P4InfoManagerMaps
import Stratum.Ports.SdnControllerManager
import Stratum.Ports.SdnControllerFrame
import Stratum.Ports.SdnControllerSteps
import Stratum.Ports.SdnControllerInvariants
import Stratum.Ports.SdnControllerPrimary
import Stratum.Ports.SdnControllerElection
import Stratum.Ports.SdnControllerAccess
import Stratum.Ports.SdnControllerWildcards
import Stratum.Ports.SdnControllerStream
import Stratum.Ports.BfrtPacketioManager
import Stratum.Ports.BfrtPacketioCodec
import Stratum.Ports.P4TableMapper
import Stratum.Ports.BfrtP4RuntimeTranslator
import Stratum.Ports.BfrtP4RuntimeTranslatorPush
import Stratum.Ports.BfrtP4RuntimeTranslatorRoundTrip
import Stratum.Ports.BfrtPreManager
import Stratum.Ports.BfrtCloneSessions
import Stratum.Ports.BfSdeWrapper
import Stratum.Ports.BfrtTableManager
import Stratum.Ports.BfrtTableManagerRead
import Stratum.Ports.BcmTableManager
import Stratum.Ports.BcmFlowTable
import Stratum.Ports.BcmTableManagerRefCounts
import Stratum.Ports.BcmTableManagerConsistency
import Stratum.Ports.BcmL3Manager
import Stratum.Ports.BcmNode
import Stratum.Ports.BcmL3Multipath
import Stratum.Ports.BcmUdfManager
import Stratum.Ports.BcmUdfManagerInvariants
import Stratum.Ports.BcmUdfFields
import Stratum.Ports.PipelineProcessor
import Stratum.Ports.PipelineConditions
import Stratum.Ports.PipelineGraph
import Stratum.Ports.PipelineNumbering
import Stratum.Ports.PipelineLayout
import Stratum.Ports.BcmAclPipeline
import Stratum.Ports.BcmL3Routes
import Stratum.Ports.P4TableMapperFlows
import Stratum.Ports.BcmChassisManager
import Stratum.Ports.AttributeGroup
import Stratum.Ports.AttributeGroupPaths
import Stratum.Ports.AttributeGroupRegistration
import Stratum.Ports.AttributeGroupCalls
import Stratum.Ports.AttributeGroupQueries
import Stratum.Ports.PhalBufferTools
import Stratum.Lib.Channel.Basic
import Stratum.Lib.Channel.Discipline
import Stratum.Lib.Channel.Select
