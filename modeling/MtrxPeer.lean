import MtrxPeer.JsonRoundTrip
import MtrxPeer.ApprovedModels
import MtrxPeer.CatalogOrigin
import MtrxPeer.RequestAuth
import MtrxPeer.Admission
import MtrxPeer.PlaintextGate
import MtrxPeer.ContextEncoding
import MtrxPeer.SharedBackends
import MtrxPeer.ClusterUpdates
import MtrxPeer.LocalRouting
import MtrxPeer.RemoteRouting
import MtrxPeer.BackendUrl
import MtrxPeer.RoomSecret
import MtrxPeer.E2eeRoundTrip
import MtrxPeer.GrantIsolation
import MtrxPeer.ConsumerPolicy
import MtrxPeer.ResponseOrigin
import MtrxPeer.Moderation
import MtrxPeer.NodeTasks
import MtrxPeer.ChunkedRequest
import MtrxPeer.SessionDirections
import MtrxPeer.StreamReorder
import MtrxPeer.StreamAssembly
import MtrxPeer.AnswerStream
import MtrxPeer.SidecarParity
import MtrxPeer.ServingRuns
import MtrxPeer.PeerRegistry
import MtrxPeer.RequestPlaces
import MtrxPeer.PlaintextRequests
import MtrxPeer.RelayedText
import MtrxPeer.RegisterRace
import MtrxPeer.RequestLedger
import MtrxPeer.TransactionRows
import MtrxPeer.ModelStarts
import MtrxPeer.StreamText
import MtrxPeer.DoneMark
import MtrxPeer.OllamaStream
import MtrxPeer.OllamaLossless
import MtrxPeer.ToolCallAgreement
import MtrxPeer.ResponsesStream
import MtrxPeer.SettledRows
import MtrxPeer.PeerStats
import MtrxPeer.MismatchCounts
import MtrxPeer.TrafficTotals
import MtrxPeer.OllamaOptions
import MtrxPeer.ServerOrders
import MtrxPeer.CatalogRoutes
import MtrxPeer.ModelProgress
import MtrxPeer.NetworkSchedule
import MtrxPeer.StoredConfig
import MtrxPeer.ConfigSaves
import MtrxPeer.ThermalGuard
import MtrxPeer.ThermalSafety
import MtrxPeer.GrantSoundness
import MtrxPeer.ChatEndpoints
import MtrxPeer.RequestNormalizing
import MtrxPeer.SchemaCleaning
import MtrxPeer.ToolResults
import MtrxPeer.JsonExtraction
import MtrxPeer.StreamCollapse
import MtrxPeer.MessageSizes
import MtrxPeer.Framing
import MtrxPeer.StreamMessageReading
import MtrxPeer.FramedChannels
import MtrxPeer.ModelLists
import MtrxPeer.PanicFreedom
import MtrxPeer.PullProgress
import MtrxPeer.FirstOfKey
import MtrxPeer.CatalogMerge
import MtrxPeer.RegistrySync
import MtrxPeer.UnifiedCatalog
import MtrxPeer.GossipFitting
import MtrxPeer.MemberOrder
import MtrxPeer.PeerRanking
import MtrxPeer.TokenCounts
import MtrxPeer.CreditStats
import MtrxPeer.ServerSecrets
import MtrxPeer.ScheduleTransitions
import MtrxPeer.Utf8Chunks
import MtrxPeer.NameSegments
import MtrxPeer.LobbyAddresses
import MtrxPeer.SampleStreams
import MtrxPeer.ThermalResume
import MtrxPeer.ManagerRouting
import MtrxPeer.Reconciliation
import MtrxPeer.StorePages
import MtrxPeer.GpuHistory
import MtrxPeer.PeerWarnings
import MtrxPeer.SessionSetup
import MtrxPeer.SessionExclusion
import MtrxPeer.DeviceKeys
import MtrxPeer.LostUpdates
import MtrxPeer.ConcurrentEntries
import MtrxPeer.SwarmAddresses
import MtrxPeer.NodeSetup
import MtrxPeer.NodeLifecycle
import MtrxPeer.ManagerStarts
import MtrxPeer.StalledNotifiers
