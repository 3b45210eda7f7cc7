import Starry.Foundation.Outcome
import Starry.Foundation.Runs
import Starry.Foundation.Traces
import Starry.Foundation.Memory
import Starry.Foundation.BigEndian
import Starry.Foundation.FloatingPoint
import Starry.Foundation.StreamDecoder
import Starry.Foundation.OrderedSet
import Starry.Foundation.Calendar
import Starry.Foundation.NameLookup
import Starry.Foundation.Lifetimes
import Starry.Foundation.Handover
import Starry.Source.Abort
import Starry.Source.SocketsOps
import Starry.Source.Buffer
import Starry.Source.BufferSpec
import Starry.Source.SizedBuffer
import Starry.Source.SizedBufferSpec
import Starry.Source.CallerStorage
import Starry.Source.ProtobufCodecLite
import Starry.Source.ProtobufCodecSpec
import Starry.Source.CheckedDecoder
import Starry.Source.RpcCodec
import Starry.Source.EpollPoller
import Starry.Source.PollerRegistry
import Starry.Source.ChannelLoop
import Starry.Source.EventLoop
import Starry.Source.EventLoopThread
import Starry.Source.TcpConnection
import Starry.Source.TcpConnectionSpec
import Starry.Source.ConnectionLoop
import Starry.Source.ConnectionLoopSpec
import Starry.Source.ConnectionHolders
import Starry.Source.ConnectionThreads
import Starry.Source.TcpServer
import Starry.Source.TcpServerSpec
import Starry.Source.OwnedServer
import Starry.Source.Connector
import Starry.Source.ConnectorSockets
import Starry.Source.OwnedClient
import Starry.Source.TimerQueue
import Starry.Source.TimerQueueSpec
import Starry.Source.TimerClock
import Starry.Source.TimerThreads
import Starry.Source.RpcChannel
import Starry.Source.RpcChannelSpec
import Starry.Source.RpcClient
import Starry.Source.RpcServer
import Starry.Source.RpcService
import Starry.Source.ServedConnection
import Starry.Source.GeneratedService
import Starry.Source.CppPlugin
import Starry.Source.CppPluginSpec
import Starry.Source.ThreadPool
import Starry.Source.ReusedPool
import Starry.Source.AsyncLogging
import Starry.Source.Logging
import Starry.Source.LogFile
import Starry.Source.LogFileSpec
import Starry.Source.LogPipeline
import Starry.Guarantees.BufferRefinement
import Starry.Guarantees.BufferAssertions
import Starry.Guarantees.TypedIntegers
import Starry.Guarantees.FrameRoundTrip
import Starry.Guarantees.FrameChunking
import Starry.Guarantees.FrameGrammar
import Starry.Guarantees.UnsendableMessages
import Starry.Guarantees.PollerAgreement
import Starry.Guarantees.IdleChannels
import Starry.Guarantees.ChannelDispatch
import Starry.Guarantees.ChannelCalls
import Starry.Guarantees.FunctorQueue
import Starry.Guarantees.LoopShutdown
import Starry.Guarantees.OutputIntegrity
import Starry.Guarantees.SendBeforeShutdown
import Starry.Guarantees.CapturedMessages
import Starry.Guarantees.FlowControl
import Starry.Guarantees.MessageDelivery
import Starry.Guarantees.ConnectionTeardown
import Starry.Guarantees.ConnectionCallbacks
import Starry.Guarantees.ConnectionLifetime
import Starry.Guarantees.PeerAborts
import Starry.Guarantees.ConnectionRegistry
import Starry.Guarantees.LoopAffinity
import Starry.Guarantees.ReleasedConnections
import Starry.Guarantees.ServerDestruction
import Starry.Guarantees.ConnectAttempts
import Starry.Guarantees.Reconnection
import Starry.Guarantees.SocketOwnership
import Starry.Guarantees.ConnectorAgreement
import Starry.Guarantees.ClientDestruction
import Starry.Guarantees.TimerFiring
import Starry.Guarantees.TimerArming
import Starry.Guarantees.TimerDelays
import Starry.Guarantees.TimerLifetimes
import Starry.Guarantees.TimerSilence
import Starry.Guarantees.TimerCalls
import Starry.Guarantees.TimerCancels
import Starry.Guarantees.RpcAgreement
import Starry.Guarantees.OrphanedCalls
import Starry.Guarantees.RpcReplies
import Starry.Guarantees.RpcListing
import Starry.Guarantees.RpcWire
import Starry.Guarantees.RpcOverTcp
import Starry.Guarantees.ServedChannels
import Starry.Guarantees.GeneratedNames
import Starry.Guarantees.PointerAliases
import Starry.Guarantees.GeneratedStubs
import Starry.Guarantees.PooledTasks
import Starry.Guarantees.QueueDiscipline
import Starry.Guarantees.PoolAgreement
import Starry.Guarantees.LogRecords
import Starry.Guarantees.LogLines
import Starry.Guarantees.DroppedBuffers
import Starry.Guarantees.LogRolling
import Starry.Guarantees.RecordsInFiles
