import MtrxPeer.ClientConfig
import MtrxPeer.LockOrder

/-! The tasks of a node, with the locks that they take and the channels that they
send on: `client_config`, `shared_state`, `peer_registry`, the peer-id maps, the
tables of waiting callers and the bounded channels. A program leaves out what its
function does besides. -/
namespace MtrxPeer

inductive NodeLock where
  /-- `tokio::sync::RwLock`; all others are mutexes. -/
  | clientConfig
  | sharedState
  | peerRegistry
  | mtrxaiToLibp2p (swarmId : String)
  | libp2pToMtrxai (swarmId : String)
  /-- The callers of a cluster that wait for an answer, by request. -/
  | pendingRequests (clusterId : String)
  /-- Those among them with an encrypted request. -/
  | pendingEncrypted (clusterId : String)
  deriving DecidableEq

inductive NodeChannel where
  /-- `proxy_cmd` and `swarm_proxy_cmd`. -/
  | proxyCmd (scope : NetworkScope)
  | modelStart (scope : NetworkScope)
  | connection
  | notify (scope : NetworkScope)
  | moderation (scope : NetworkScope)
  | runtimeEvent
  /-- The channels from the manager of the clusters, or of the swarms, to one. -/
  | networkCmd (scope : NetworkScope) (id : String)
  | networkModelStart (scope : NetworkScope) (id : String)
  | networkConnection (id : String)
  | networkModeration (scope : NetworkScope) (id : String)
  | rrResponse (swarmId : String)
  | reverseProxy (swarmId : String)
  /-- The answer to a request of a local caller. -/
  | response (reqId : Nat)
  deriving DecidableEq

def NodeChannel.capacity : NodeChannel → Nat
  | .proxyCmd _ | .modelStart _ | .connection | .response _ => 100
  | .notify _ | .runtimeEvent => 8
  | .moderation _ | .networkCmd .. | .networkModelStart .. | .networkConnection _
  | .networkModeration .. => 32
  | .rrResponse _ | .reverseProxy _ => 128

inductive NodeRole where
  /-- A handler of the HTTP proxy or of the API. -/
  | handler
  | monitor
  /-- The task of a cluster for one command of a local caller. -/
  | request (reqId : Nat)
  /-- A task spawned for a message of the lobby or for a request of another peer. -/
  | spawned
  /-- The task of a data channel, which runs the callback for each message. -/
  | dataChannel (clusterId : String)
  /-- The caller of a request, once its command is on the way: it reads the answer. -/
  | caller (reqId : Nat)
  /-- The task that handles runtime events. -/
  | runtime
  /-- The manager of the clusters, or of the swarms. -/
  | manager (scope : NetworkScope)
  /-- One cluster, or one swarm. -/
  | network (scope : NetworkScope) (id : String)
  deriving DecidableEq

/-- The channels that a task receives from. -/
def NodeRole.receives : NodeRole → NodeChannel → Bool
  | .caller reqId, .response reqId' => reqId = reqId'
  | .runtime, .runtimeEvent => true
  | .manager scope, .proxyCmd scope' | .manager scope, .modelStart scope'
  | .manager scope, .notify scope' | .manager scope, .moderation scope' => scope = scope'
  | .manager scope, .connection => scope = .cluster
  | .network scope id, .networkCmd scope' id' | .network scope id, .networkModelStart scope' id'
  | .network scope id, .networkModeration scope' id' => scope = scope' && id = id'
  | .network scope id, .networkConnection id' => scope = .cluster && id = id'
  | .network scope id, .rrResponse id' | .network scope id, .reverseProxy id' =>
    scope = .swarm && id = id'
  | _, _ => false

abbrev NodeProgram := LockProgram NodeLock NodeChannel

namespace NodeProgram

open LockProgram

/-- `client_config.read()` for the rest of a scope. -/
def readConfig (body : NodeProgram) : NodeProgram := .hold .clientConfig .shared body

/-- `client_config.write()`. -/
def writeConfig (body : NodeProgram) : NodeProgram := .hold .clientConfig .exclusive body

/-- `shared_state.lock()`. -/
def lockState (body : NodeProgram) : NodeProgram := .hold .sharedState .exclusive body

/-- `peer_registry.lock()`. -/
def lockRegistry (body : NodeProgram) : NodeProgram := .hold .peerRegistry .exclusive body

/-- A lock that is taken and let go before anything else is waited for. -/
def lockBriefly (lock : NodeLock) : NodeProgram := .hold lock .exclusive .skip

/-! ## Handlers and monitors -/

/-- The scope of the model is looked up with both `shared_state` and
`client_config` locked; then the command goes to a manager. -/
def dispatchRemoteProxy (scope : NetworkScope) : NodeProgram :=
  sequence [lockState (readConfig .skip),
    optional (sequence [lockState .skip, .send (.proxyCmd scope)])]

def syncSwarmStatusForProxy : NodeProgram :=
  sequence [readConfig .skip, lockState .skip, readConfig (lockState .skip)]

/-- The configuration stays locked to the end of the function. -/
def getSwarms : NodeProgram := sequence [syncSwarmStatusForProxy, readConfig (lockState .skip)]

def notifyClustersChanged : NodeProgram := .send (.notify .cluster)

def notifySwarmsChanged : NodeProgram :=
  sequence [syncSwarmStatusForProxy, .send (.notify .swarm), .send .runtimeEvent]

def notifyChanged : NetworkScope → NodeProgram
  | .cluster => notifyClustersChanged
  | .swarm => notifySwarmsChanged

/-- `post_cluster_connect`, `delete_swarm` and the other handlers that change a
membership. -/
def changeMembership (scope : NetworkScope) : NodeProgram :=
  sequence [optional (readConfig .skip), writeConfig .skip, optional (notifyChanged scope)]

/-- `disconnect_all`, `connect_all`, `set_pause_all` and `apply_schedules`. -/
def changeAllNetworks : NodeProgram :=
  sequence [writeConfig .skip,
    optional (sequence [.send (.notify .cluster), .send (.notify .swarm)])]

/-- `finish_register`. -/
def finishRegister : NodeProgram :=
  sequence [writeConfig .skip, optional (writeConfig .skip), notifyClustersChanged, lockState .skip,
    writeConfig .skip, optional (.send .runtimeEvent)]

def syncRegistryAfterConfigChange : NodeProgram := optional (lockState .skip)

/-- `post_llm_server_attach` and `post_llm_select`. -/
def postLlmServerAttach : NodeProgram :=
  sequence [optional (writeConfig .skip), writeConfig syncRegistryAfterConfigChange,
    readConfig .skip, optional (.send .runtimeEvent), optional (readConfig .skip)]

/-- `post_llm_server_detach`, `patch_llm_server` and `delete_llm_server`. -/
def changeLlmServer : NodeProgram :=
  sequence [writeConfig (optional syncRegistryAfterConfigChange), readConfig .skip]

def putLlmServerApiKey : NodeProgram :=
  sequence [readConfig .skip, readConfig .skip, optional syncRegistryAfterConfigChange]

def postModelRequest (scope : NetworkScope) : NodeProgram :=
  sequence [lockState .skip, .send (.modelStart scope)]

def postConnectionRespond : NodeProgram := sequence [lockState .skip, .send .connection]

/-- `post_block_peer` and `post_report_peer`. -/
def postBlockPeer : NodeProgram :=
  sequence [lockState .skip, optional (.send (.moderation .cluster))]

/-- The GPU monitor with its thermal guard. -/
def spawnGpuMonitor : NodeProgram :=
  sequence [readConfig .skip, optional changeAllNetworks, optional (lockState .skip),
    lockState .skip]

def spawnModelMonitor : NodeProgram :=
  sequence [lockState .skip, optional (sequence [.send (.notify .cluster), .send (.notify .swarm)])]

/-- The runtime events `SetupComplete` and `SwarmsChanged`. -/
def onRuntimeEvent : NodeProgram :=
  sequence [optional (sequence [readConfig .skip, optional (lockState .skip), readConfig .skip]),
    readConfig .skip]

/-! ## The managers of the clusters and of the swarms -/

def routeProxyCmd (scope : NetworkScope) (id : String) (reqId : Nat) : NodeProgram :=
  .choice (.send (.response reqId)) (.send (.networkCmd scope id))

def routeModelStartAction (scope : NetworkScope) (id : String) : NodeProgram :=
  optional (.send (.networkModelStart scope id))

def routeConnectionAction (id : String) : NodeProgram := optional (.send (.networkConnection id))

def handlePeerModeration (scope : NetworkScope) (ids : List String) : NodeProgram :=
  sequence (ids.map fun id => .send (.networkModeration scope id))

/-- `sync_peer_connections` and `sync_swarm_peer_connections`. -/
def syncPeerConnections : NodeProgram := sequence [lockRegistry .skip, lockState .skip]

/-- `sync_cluster_status_list` and `sync_swarm_status_list`: the registry and then
the configuration stay locked to the end, also while models are attached. -/
def syncStatusList : NodeProgram :=
  lockRegistry (readConfig (sequence [lockState .skip, lockState .skip, lockState .skip]))

/-- `stop_cluster` and `stop_swarm`. -/
def stopNetwork : NodeProgram :=
  sequence [lockRegistry .skip, lockState .skip, syncPeerConnections, syncStatusList]

/-- `spawn_cluster`, whose `WebRTCManager::new` syncs the device key, and
`spawn_swarm`. -/
def spawnNetwork : NetworkScope → NodeProgram
  | .cluster => optional (writeConfig .skip)
  | .swarm => .skip

/-- `reconcile_clusters` and `reconcile_swarms`, on a notification. -/
def reconcileNetworks (scope : NetworkScope) : NodeProgram :=
  sequence [readConfig .skip, optional syncStatusList, .loop stopNetwork,
    .loop (spawnNetwork scope), readConfig .skip, syncStatusList]

/-- A tick of the reconnect interval; at the start, the status comes first. -/
def reconnect (scope : NetworkScope) : NodeProgram :=
  sequence [optional syncStatusList, readConfig .skip, optional syncStatusList,
    .loop (spawnNetwork scope), optional syncStatusList]

/-! ## A cluster -/

def setClusterConnected : NodeProgram :=
  readConfig (sequence [lockState .skip, lockRegistry (lockState .skip)])

def pollAndAdvertise : NodeProgram :=
  sequence [readConfig .skip, .choice (lockState .skip)
    (sequence [lockState .skip, readConfig .skip, lockState .skip, readConfig .skip])]

/-- A step of the loop of a cluster that takes locks itself. -/
def clusterTick : NodeProgram := sequence [pollAndAdvertise, optional setClusterConnected]

/-- The lobby's `Registered`. -/
def onRegistered : NodeProgram :=
  sequence [lockState .skip, optional (writeConfig .skip), setClusterConnected, lockState .skip,
    pollAndAdvertise]

/-- `track_peer` and `close_peer_connection`. -/
def trackPeer : NodeProgram := sequence [lockRegistry .skip, syncPeerConnections]

section Cluster

variable (clusterId : String)

/-- `handle_proxy_cmd` of a cluster: the caller is entered in the table, then the
request is sent on the data channel. -/
def clusterProxyCmd (reqId : Nat) : NodeProgram :=
  sequence [optional (readConfig .skip), optional trackPeer, optional trackPeer,
    .choice (.send (.response reqId))
      (sequence [lockState .skip, .hold (.pendingRequests clusterId) .exclusive .skip,
        readConfig .skip, optional (.hold (.pendingEncrypted clusterId) .exclusive .skip),
        optional trackPeer, optional (.send (.response reqId))])]

/-- What comes for a caller is passed on with the table locked. -/
def passOnToCaller (reqId : Nat) : NodeProgram :=
  .hold (.pendingRequests clusterId) .exclusive (optional (.send (.response reqId)))

/-- `ProxyResponseChunk` and `ProxyResponseError`. -/
def onProxyResponseChunk (reqId : Nat) : NodeProgram := passOnToCaller clusterId reqId

def onProxyResponseDone : NodeProgram :=
  sequence [optional (lockState .skip), .hold (.pendingRequests clusterId) .exclusive .skip]

/-- `EncryptedProxyResponse`: it is decrypted and passed on with the table of
encrypted requests locked too. -/
def onClusterEncryptedResponse (reqId : Nat) : NodeProgram :=
  .hold (.pendingEncrypted clusterId) .exclusive
    (optional (sequence [.loop (readConfig .skip), passOnToCaller clusterId reqId]))

/-- `EncryptedProxyStreamChunk`. -/
def onClusterStreamChunk (reqId : Nat) : NodeProgram :=
  sequence [.loop (readConfig .skip), .loop (passOnToCaller clusterId reqId),
    optional (sequence [.hold (.pendingEncrypted clusterId) .exclusive .skip,
      optional (lockState .skip), passOnToCaller clusterId reqId])]

end Cluster

/-- A request of another peer on a data channel: it is checked there, and served
in a task of its own. -/
def serveClusterRequest : NodeProgram :=
  sequence [.loop (readConfig .skip), optional (lockState .skip)]

/-! ## A swarm -/

def localCachedRecord : NodeProgram := sequence [lockState .skip, readConfig .skip, lockState .skip]

def buildCatalogSync : NodeProgram := sequence [lockState .skip, readConfig (lockState .skip)]

def refreshLocalCatalog : NodeProgram :=
  .choice (lockState .skip) (sequence [readConfig .skip, lockState .skip])

def rebuildSwarmCatalog : NodeProgram := sequence [localCachedRecord, lockState .skip]

def publishCatalog : NodeProgram :=
  sequence [refreshLocalCatalog, lockState .skip, readConfig (lockState .skip), buildCatalogSync,
    rebuildSwarmCatalog]

section Swarm

variable (swarmId : String)

/-- Both maps, one after the other. -/
def insertPeerIds : NodeProgram :=
  sequence [.hold (.mtrxaiToLibp2p swarmId) .exclusive .skip,
    .hold (.libp2pToMtrxai swarmId) .exclusive .skip]

def resolveLibp2pPeer : NodeProgram :=
  sequence [.hold (.mtrxaiToLibp2p swarmId) .exclusive .skip, optional (insertPeerIds swarmId)]

def dialMtrxaiPeer : NodeProgram := insertPeerIds swarmId

/-- The guard of `libp2p_to_mtrxai` lives to the end of the `if let`, so also while
the peer is dialed. -/
def sendOrQueueReverseProxy : NodeProgram :=
  optional (.hold (.libp2pToMtrxai swarmId) .exclusive (optional (dialMtrxaiPeer swarmId)))

def failProxyRequest (reqId : Nat) : NodeProgram := optional (.send (.response reqId))

def sendOutboundProxy (reqId : Nat) : NodeProgram :=
  sequence [optional (readConfig .skip), optional (readConfig (failProxyRequest reqId)),
    failProxyRequest reqId]

/-- `handle_proxy_cmd` of a swarm. -/
def swarmProxyCmd (reqId : Nat) : NodeProgram :=
  sequence [optional localCachedRecord, optional (readConfig .skip),
    .choice (.send (.response reqId))
      (sequence [resolveLibp2pPeer swarmId, insertPeerIds swarmId,
        optional (dialMtrxaiPeer swarmId), optional (.send (.response reqId)),
        optional (sendOutboundProxy reqId)])]

/-- The parts of an answer go to the caller while the configuration is locked. -/
def drainEncryptedStreamChunks (reqId : Nat) : NodeProgram :=
  .loop (readConfig (.loop (.send (.response reqId))))

/-- An answer that comes whole. -/
def onEncryptedProxyResponse (reqId : Nat) : NodeProgram :=
  .choice (.send (.response reqId)) (.choice (drainEncryptedStreamChunks reqId)
    (readConfig (.loop (.send (.response reqId)))))

def onProxyResponse (reqId : Nat) : NodeProgram := .loop (.send (.response reqId))

def trackLibp2pPeer : NodeProgram :=
  sequence [.hold (.libp2pToMtrxai swarmId) .exclusive .skip, insertPeerIds swarmId,
    lockRegistry .skip]

def untrackLibp2pPeer : NodeProgram :=
  sequence [.hold (.libp2pToMtrxai swarmId) .exclusive .skip,
    .hold (.mtrxaiToLibp2p swarmId) .exclusive .skip, lockRegistry .skip]

def onConnectionEstablished (reqIds : List Nat) : NodeProgram :=
  sequence [sequence (reqIds.map fun reqId =>
      sequence [resolveLibp2pPeer swarmId, optional (sendOutboundProxy reqId)]),
    trackLibp2pPeer swarmId, optional (insertPeerIds swarmId), syncPeerConnections,
    .hold (.libp2pToMtrxai swarmId) .exclusive .skip, buildCatalogSync]

def onConnectionClosed : NodeProgram := sequence [untrackLibp2pPeer swarmId, syncPeerConnections]

def applyRemoteCatalog : NodeProgram :=
  sequence [insertPeerIds swarmId, dialMtrxaiPeer swarmId, rebuildSwarmCatalog]

/-- A request of another peer, before it is handed on. -/
def onSwarmRequest : NodeProgram :=
  sequence [.hold (.libp2pToMtrxai swarmId) .exclusive .skip,
    .choice (optional (insertPeerIds swarmId)) (applyRemoteCatalog swarmId)]

/-- `handle_moderation` and `probe_all_peer_latencies`. -/
def readPeerIds : NodeProgram := .hold (.mtrxaiToLibp2p swarmId) .exclusive .skip

/-- A request of a peer, in a task of its own. -/
def dispatchSwarmProxyRequest : NodeProgram :=
  sequence [.loop (readConfig .skip), optional (lockState .skip), .send (.rrResponse swarmId)]

/-- The same of an encrypted request: the answer is sent with the configuration
locked from before the first part to after the last. -/
def dispatchSwarmEncryptedProxyRequest : NodeProgram :=
  sequence [.loop (readConfig .skip), .send (.rrResponse swarmId), .loop (readConfig .skip),
    optional (readConfig (.loop (.send (.reverseProxy swarmId))))]

end Swarm

end NodeProgram

/-! ## The system -/

/-- The functions of the node that take these locks or send on these channels. -/
inductive NodeFunction where
  /-- Any other function: one lock, for a scope in which it waits for nothing. -/
  | lockBriefly (lock : NodeLock)
  | readBriefly
  | dispatchRemoteProxy (scope : NetworkScope)
  | syncSwarmStatusForProxy
  | getSwarms
  | changeMembership (scope : NetworkScope)
  | changeAllNetworks
  | finishRegister
  | postLlmServerAttach
  | changeLlmServer
  | putLlmServerApiKey
  | postModelRequest (scope : NetworkScope)
  | postConnectionRespond
  | postBlockPeer
  | spawnGpuMonitor
  | spawnModelMonitor
  | onRuntimeEvent
  | routeProxyCmd (id : String) (reqId : Nat)
  | routeModelStartAction (id : String)
  | routeConnectionAction (id : String)
  | handlePeerModeration (ids : List String)
  | reconcileNetworks
  | reconnect
  | clusterTick
  | setClusterConnected
  | onRegistered
  | trackPeer
  | clusterProxyCmd (clusterId : String)
  | onProxyResponseChunk (reqId : Nat)
  | onProxyResponseDone
  | onClusterEncryptedResponse (reqId : Nat)
  | onClusterStreamChunk (reqId : Nat)
  | serveClusterRequest
  | publishCatalog
  | swarmProxyCmd (reqId : Nat)
  | sendOutboundProxy (reqId : Nat)
  | failProxyRequest (reqId : Nat)
  | onEncryptedProxyResponse (reqId : Nat)
  | onProxyResponse (reqId : Nat)
  | sendOrQueueReverseProxy
  | onConnectionEstablished (reqIds : List Nat)
  | onConnectionClosed
  | dialMtrxaiPeer
  | onSwarmRequest
  | readPeerIds
  | dispatchSwarmProxyRequest (swarmId : String)
  | dispatchSwarmEncryptedProxyRequest (swarmId : String)

/-- What a function does in a task that runs it. -/
def NodeRole.program : NodeRole → NodeFunction → Option NodeProgram
  | .caller _, _ => none
  | _, .lockBriefly lock => some (.lockBriefly lock)
  | _, .readBriefly => some (.readConfig .skip)
  | .handler, .dispatchRemoteProxy scope => some (.dispatchRemoteProxy scope)
  | .handler, .syncSwarmStatusForProxy => some .syncSwarmStatusForProxy
  | .handler, .getSwarms => some .getSwarms
  | .handler, .changeMembership scope => some (.changeMembership scope)
  | .handler, .changeAllNetworks | .monitor, .changeAllNetworks => some .changeAllNetworks
  | .handler, .finishRegister => some .finishRegister
  | .handler, .postLlmServerAttach => some .postLlmServerAttach
  | .handler, .changeLlmServer => some .changeLlmServer
  | .handler, .putLlmServerApiKey => some .putLlmServerApiKey
  | .handler, .postModelRequest scope => some (.postModelRequest scope)
  | .handler, .postConnectionRespond => some .postConnectionRespond
  | .handler, .postBlockPeer => some .postBlockPeer
  | .monitor, .spawnGpuMonitor => some .spawnGpuMonitor
  | .monitor, .spawnModelMonitor => some .spawnModelMonitor
  | .runtime, .onRuntimeEvent => some .onRuntimeEvent
  | .manager scope, .routeProxyCmd id reqId => some (.routeProxyCmd scope id reqId)
  | .manager scope, .routeModelStartAction id => some (.routeModelStartAction scope id)
  | .manager .cluster, .routeConnectionAction id => some (.routeConnectionAction id)
  | .manager scope, .handlePeerModeration ids => some (.handlePeerModeration scope ids)
  | .manager scope, .reconcileNetworks => some (.reconcileNetworks scope)
  | .manager scope, .reconnect => some (.reconnect scope)
  | .network .cluster _, .clusterTick => some .clusterTick
  | .network .cluster _, .setClusterConnected => some .setClusterConnected
  | .request _, .trackPeer | .spawned, .trackPeer => some .trackPeer
  | .request reqId, .clusterProxyCmd id => some (.clusterProxyCmd id reqId)
  | .dataChannel id, .onProxyResponseChunk reqId => some (.onProxyResponseChunk id reqId)
  | .dataChannel id, .onProxyResponseDone => some (.onProxyResponseDone id)
  | .dataChannel id, .onClusterEncryptedResponse reqId =>
    some (.onClusterEncryptedResponse id reqId)
  | .dataChannel id, .onClusterStreamChunk reqId => some (.onClusterStreamChunk id reqId)
  | .dataChannel _, .serveClusterRequest | .spawned, .serveClusterRequest =>
    some .serveClusterRequest
  | .spawned, .onRegistered => some .onRegistered
  | .spawned, .dispatchSwarmProxyRequest id => some (.dispatchSwarmProxyRequest id)
  | .spawned, .dispatchSwarmEncryptedProxyRequest id =>
    some (.dispatchSwarmEncryptedProxyRequest id)
  | .network .swarm _, .publishCatalog => some .publishCatalog
  | .network .swarm id, .swarmProxyCmd reqId => some (.swarmProxyCmd id reqId)
  | .network .swarm _, .sendOutboundProxy reqId => some (.sendOutboundProxy reqId)
  | .network .swarm _, .failProxyRequest reqId => some (.failProxyRequest reqId)
  | .network .swarm _, .onEncryptedProxyResponse reqId => some (.onEncryptedProxyResponse reqId)
  | .network .swarm _, .onProxyResponse reqId => some (.onProxyResponse reqId)
  | .network .swarm id, .sendOrQueueReverseProxy => some (.sendOrQueueReverseProxy id)
  | .network .swarm id, .onConnectionEstablished reqIds => some (.onConnectionEstablished id reqIds)
  | .network .swarm id, .onConnectionClosed => some (.onConnectionClosed id)
  | .network .swarm id, .dialMtrxaiPeer => some (.dialMtrxaiPeer id)
  | .network .swarm id, .onSwarmRequest => some (.onSwarmRequest id)
  | .network .swarm id, .readPeerIds => some (.readPeerIds id)
  | _, _ => none

def nodeSystem : LockSystem NodeRole NodeFunction NodeLock NodeChannel where
  capacity := NodeChannel.capacity
  receives := NodeRole.receives
  program := NodeRole.program

/-! ## The order -/

/-- Channels before the locks, the channels of a caller after them. -/
def nodeRank : Resource NodeLock NodeChannel → Nat
  | .room (.response _) => 9
  | .room (.networkCmd ..) | .room (.networkModelStart ..) | .room (.networkConnection _)
  | .room (.networkModeration ..) | .room (.rrResponse _) | .room (.reverseProxy _) => 1
  | .room _ => 0
  | .lock (.pendingEncrypted _) => 2
  | .lock .clientConfig => 3
  | .lock .peerRegistry => 4
  | .lock (.libp2pToMtrxai _) => 5
  | .lock (.mtrxaiToLibp2p _) => 6
  | .lock .sharedState => 7
  | .lock (.pendingRequests _) => 8

/-- A task of the role waits for nothing below. -/
def NodeRole.level : NodeRole → Nat
  | .handler | .monitor | .request _ | .spawned | .dataChannel _ => 0
  | .runtime | .manager _ => 1
  | .network .. => 2
  | .caller _ => 10

/-- Where the code does not follow the order: `client_config` is read with
`shared_state` (`dispatch_remote_proxy`) or with `peer_registry`
(`sync_cluster_status_list`, `sync_swarm_status_list`) locked, `libp2p_to_mtrxai` is
locked twice (`send_or_queue_reverse_proxy`), and an encrypted answer is sent to the
swarm with `client_config` locked (`dispatch_swarm_encrypted_proxy_request`). -/
def outOfOrder (_ : NodeRole) (locks : List NodeLock) : Resource NodeLock NodeChannel → Bool
  | .lock .clientConfig => locks.contains .sharedState || locks.contains .peerRegistry
  | .lock (.libp2pToMtrxai id) => locks.contains (.libp2pToMtrxai id)
  | .room (.reverseProxy _) => locks.contains .clientConfig
  | _ => false

theorem NodeRole.receives_below_level {role : NodeRole} {c : NodeChannel}
    (receives : role.receives c = true) : nodeRank (.room c) < role.level := by
  cases role <;> cases c <;> simp_all [NodeRole.receives, nodeRank, NodeRole.level]

/-- What a function asks for in a task of a role: it ranks above the locks held and
the channels received from, but for the four places, and an answer only goes to the
caller that the task is for. -/
@[mk_iff] structure Follows (role : NodeRole) (locks : List NodeLock) (r : Resource NodeLock NodeChannel) :
    Prop where
  order : outOfOrder role locks r = true ∨
    role.level ≤ nodeRank r ∧ ∀ l ∈ locks, nodeRank (.lock l) < nodeRank r
  caller : ∀ reqId reqId', role = .request reqId → r = .room (.response reqId') → reqId = reqId'

theorem Follows.upOrBad {role : NodeRole} {locks : List NodeLock}
    {r : Resource NodeLock NodeChannel} (follows : Follows role locks r) :
    UpOrBad nodeSystem nodeRank outOfOrder role locks r := by
  rcases follows.order with exempt | ⟨level, above⟩
  · exact .inl exempt
  · refine .inr ⟨above, ?_⟩
    intro c receives
    exact Nat.lt_of_lt_of_le (NodeRole.receives_below_level receives) level

namespace NodeProgram

theorem lockBriefly_follows {lock : NodeLock} {role : NodeRole} (low : role.level ≤ 2) :
    (lockBriefly lock).Respects (Follows role) [] := by
  refine ⟨⟨.inr ⟨Nat.le_trans low ?_, by rintro l ⟨⟩⟩, by rintro _ _ _ ⟨⟩⟩, trivial⟩
  cases lock <;> simp [nodeRank]

@[simp] theorem notifyChanged_follows {scope : NetworkScope} :
    (notifyChanged scope).Respects (Follows .handler) [] := by
  cases scope <;>
    simp [notifyChanged, notifyClustersChanged, notifySwarmsChanged, syncSwarmStatusForProxy,
      readConfig, lockState, LockProgram.Respects, follows_iff, outOfOrder, nodeRank,
      NodeRole.level]

@[simp] theorem spawnNetwork_follows {scope : NetworkScope} :
    (spawnNetwork scope).Respects (Follows (.manager scope)) [] := by
  cases scope <;>
    simp [spawnNetwork, writeConfig, LockProgram.Respects, follows_iff, outOfOrder, nodeRank,
      NodeRole.level]

/-- Only where the configuration is locked after the registry is the order left. -/
@[simp] theorem syncStatusList_follows {scope : NetworkScope} :
    syncStatusList.Respects (Follows (.manager scope)) [] := by
  simp [syncStatusList, readConfig, lockState, lockRegistry, LockProgram.Respects, follows_iff,
    outOfOrder, nodeRank, NodeRole.level]

variable {f : NodeFunction} {program : NodeProgram}

theorem handler_follows (runs : NodeRole.handler.program f = some program) :
    program.Respects (Follows .handler) [] := by
  cases f with
  | lockBriefly lock =>
    obtain rfl := Option.some.inj runs
    exact lockBriefly_follows (by decide)
  | _ =>
    cases runs <;>
      simp [dispatchRemoteProxy, syncSwarmStatusForProxy, getSwarms, notifyClustersChanged,
        changeMembership, changeAllNetworks, finishRegister, syncRegistryAfterConfigChange,
        postLlmServerAttach, changeLlmServer, putLlmServerApiKey, postModelRequest,
        postConnectionRespond, postBlockPeer, readConfig, writeConfig, lockState,
        LockProgram.Respects, follows_iff, outOfOrder, nodeRank, NodeRole.level]

theorem monitor_follows (runs : NodeRole.monitor.program f = some program) :
    program.Respects (Follows .monitor) [] := by
  cases f with
  | lockBriefly lock =>
    obtain rfl := Option.some.inj runs
    exact lockBriefly_follows (by decide)
  | _ =>
    cases runs <;>
      simp [changeAllNetworks, spawnGpuMonitor, spawnModelMonitor, readConfig, writeConfig, lockState,
        LockProgram.Respects, follows_iff, outOfOrder, nodeRank, NodeRole.level]

theorem runtime_follows (runs : NodeRole.runtime.program f = some program) :
    program.Respects (Follows .runtime) [] := by
  cases f with
  | lockBriefly lock =>
    obtain rfl := Option.some.inj runs
    exact lockBriefly_follows (by decide)
  | _ =>
    cases runs <;>
      simp [onRuntimeEvent, readConfig, lockState, LockProgram.Respects, follows_iff, outOfOrder,
        nodeRank, NodeRole.level]

theorem manager_follows {scope : NetworkScope}
    (runs : (NodeRole.manager scope).program f = some program) :
    program.Respects (Follows (.manager scope)) [] := by
  cases scope <;> cases f with
  | lockBriefly lock =>
    obtain rfl := Option.some.inj runs
    exact lockBriefly_follows (by simp [NodeRole.level])
  | _ =>
    cases runs <;>
      simp [routeProxyCmd, routeModelStartAction, routeConnectionAction, handlePeerModeration,
        reconcileNetworks, reconnect, stopNetwork, syncPeerConnections, readConfig, lockState,
        lockRegistry, LockProgram.Respects, follows_iff, outOfOrder, nodeRank, NodeRole.level]

theorem network_follows {scope : NetworkScope} {id : String}
    (runs : (NodeRole.network scope id).program f = some program) :
    program.Respects (Follows (.network scope id)) [] := by
  cases scope <;> cases f with
  | lockBriefly lock =>
    obtain rfl := Option.some.inj runs
    exact lockBriefly_follows (by simp [NodeRole.level])
  | _ =>
    cases runs <;>
      simp [clusterTick, setClusterConnected, pollAndAdvertise, publishCatalog, localCachedRecord,
        buildCatalogSync, refreshLocalCatalog, rebuildSwarmCatalog, insertPeerIds, resolveLibp2pPeer,
        dialMtrxaiPeer, sendOrQueueReverseProxy, failProxyRequest, sendOutboundProxy, swarmProxyCmd,
        drainEncryptedStreamChunks, onEncryptedProxyResponse, onProxyResponse, trackLibp2pPeer,
        untrackLibp2pPeer, onConnectionEstablished, onConnectionClosed, applyRemoteCatalog,
        onSwarmRequest, readPeerIds, syncPeerConnections, readConfig, lockState, lockRegistry,
        LockProgram.Respects, follows_iff, outOfOrder, nodeRank, NodeRole.level]

theorem request_follows {reqId : Nat}
    (runs : (NodeRole.request reqId).program f = some program) :
    program.Respects (Follows (.request reqId)) [] := by
  cases f with
  | lockBriefly lock =>
    obtain rfl := Option.some.inj runs
    exact lockBriefly_follows (by simp [NodeRole.level])
  | _ =>
    cases runs <;>
      simp [trackPeer, clusterProxyCmd, syncPeerConnections, readConfig, lockState, lockRegistry,
        LockProgram.Respects, follows_iff, outOfOrder, nodeRank, NodeRole.level]

theorem spawned_follows (runs : NodeRole.spawned.program f = some program) :
    program.Respects (Follows .spawned) [] := by
  cases f with
  | lockBriefly lock =>
    obtain rfl := Option.some.inj runs
    exact lockBriefly_follows (by decide)
  | _ =>
    cases runs <;>
      simp [onRegistered, setClusterConnected, pollAndAdvertise, trackPeer, serveClusterRequest,
        dispatchSwarmProxyRequest, dispatchSwarmEncryptedProxyRequest, syncPeerConnections,
        readConfig, writeConfig, lockState, lockRegistry, LockProgram.Respects, follows_iff,
        outOfOrder, nodeRank, NodeRole.level]

theorem dataChannel_follows {id : String}
    (runs : (NodeRole.dataChannel id).program f = some program) :
    program.Respects (Follows (.dataChannel id)) [] := by
  cases f with
  | lockBriefly lock =>
    obtain rfl := Option.some.inj runs
    exact lockBriefly_follows (by simp [NodeRole.level])
  | _ =>
    cases runs <;>
      simp [passOnToCaller, onProxyResponseChunk, onProxyResponseDone, onClusterEncryptedResponse,
        onClusterStreamChunk, serveClusterRequest, readConfig, lockState, LockProgram.Respects,
        follows_iff, outOfOrder, nodeRank, NodeRole.level]

end NodeProgram

theorem nodeSystem_follows : nodeSystem.Checked Follows := by
  intro role f program runs
  cases role with
  | handler => exact NodeProgram.handler_follows runs
  | monitor => exact NodeProgram.monitor_follows runs
  | request reqId => exact NodeProgram.request_follows runs
  | spawned => exact NodeProgram.spawned_follows runs
  | dataChannel id => exact NodeProgram.dataChannel_follows runs
  | caller reqId => cases f <;> cases runs
  | runtime => exact NodeProgram.runtime_follows runs
  | manager scope => exact NodeProgram.manager_follows runs
  | network scope id => exact NodeProgram.network_follows runs

/-! ## Deadlock -/

/-- In a run in which no task comes to wait at one of the four places, no state of
the node is deadlocked. -/
theorem node_never_deadlocks (events : List (LockEvent NodeRole NodeFunction NodeChannel))
    (settled : ∀ r ∈ ((lockMachine nodeSystem).history .initial events).1,
      NeverWaitsAt nodeSystem outOfOrder r) :
    Machine.Always (fun _ r => ¬ Deadlocked nodeSystem (lockStep nodeSystem r.before r.event))
      ((lockMachine nodeSystem).history .initial events).1 := by
  refine never_deadlocked nodeRank ?_ events settled
  intro role f program runs
  exact (nodeSystem_follows role f program runs).imp fun _ _ => Follows.upOrBad

/-- A status is read while a command is on its way to the manager of the swarms. -/
theorem node_never_deadlocks_sample :
    Machine.Always (fun _ r => ¬ Deadlocked nodeSystem (lockStep nodeSystem r.before r.event))
      ((lockMachine nodeSystem).history .initial
        ([.spawn .handler, .spawn .handler, .start 0 .getSwarms,
            .start 1 (.dispatchRemoteProxy .swarm)] ++
          List.replicate 8 (.step 0 true) ++ List.replicate 14 (.step 1 true) ++
          [.resume 1, .step 0 true])).1 := by
  refine node_never_deadlocks _ ?_
  decide +kernel

/-- A part of an encrypted answer is to go to a peer that is no longer connected:
the swarm waits for a lock that it holds. -/
theorem swarm_waits_for_itself :
    ¬ Machine.Always (fun _ r => ¬ Deadlocked nodeSystem (lockStep nodeSystem r.before r.event))
      ((lockMachine nodeSystem).history .initial
        ([.spawn (.network .swarm "s"), .spawn .spawned,
            .start 1 (.dispatchSwarmEncryptedProxyRequest "s")] ++
          List.replicate 7 (.step 1 false) ++ List.replicate 4 (.step 1 true) ++
          [.receive 0 (.reverseProxy "s") .sendOrQueueReverseProxy] ++
          List.replicate 9 (.step 0 true))).1 := by
  rintro ⟨free, -⟩
  refine free (.inr ?_)
  decide +kernel

/-! ## Slow callers -/

/-- Task `i` has to wait, itself or for others, until the caller of a request reads. -/
def WaitsForCaller (s : LockState NodeRole NodeLock NodeChannel) (i reqId : Nat) : Prop :=
  ∃ j task w, Relation.ReflTransGen (WaitsFor nodeSystem s) i j ∧ s.tasks[j]? = some task ∧
    task.waits = some w ∧ w.resource = .room (.response reqId)

/-- Only a task for a request waits for its caller. -/
def CallersApart (s : LockState NodeRole NodeLock NodeChannel) : Prop :=
  ∀ i reqId, WaitsForCaller s i reqId → ∃ task, s.tasks[i]? = some task ∧
    task.role = .request reqId

/-- Something is passed on to a caller by a task that others depend on: the task of
a swarm, of a data channel or of a manager, or one with a table locked. -/
def passesOnShared (role : NodeRole) (locks : List NodeLock) :
    Resource NodeLock NodeChannel → Bool
  | .room (.response _) =>
    match role with
    | .request _ => !locks.isEmpty
    | _ => true
  | _ => false

/-- Tasks that wait for a caller only where nobody depends on them keep the callers
apart. -/
theorem callersApart_of_obeys {s : LockState NodeRole NodeLock NodeChannel}
    (obeys : ∀ task ∈ s.tasks, task.Obeys Follows passesOnShared) : CallersApart s := by
  have own : ∀ {i reqId : Nat} {task : LockTask NodeRole NodeLock NodeChannel}
      {w : Wait NodeLock NodeChannel}, s.tasks[i]? = some task → task.waits = some w →
      w.resource = .room (.response reqId) → task.role = .request reqId ∧ task.held = [] := by
    intro i reqId task w at_ waits room
    obtain ⟨follows, alone⟩ := (obeys task (List.mem_of_getElem? at_)).waits w waits
    rw [room] at alone
    obtain ⟨role, held, rest, waiting⟩ := task
    cases role with
    | request reqId' =>
      refine ⟨?_, by simpa [passesOnShared, LockTask.locks] using alone⟩
      rw [follows.caller reqId' reqId rfl room]
    | _ => cases alone
  rintro i reqId ⟨j, task, w, chain, at_, waits, room⟩
  -- along the chain, every task waits for the same caller
  suffices ∃ task w, s.tasks[i]? = some task ∧ task.waits = some w ∧
      w.resource = .room (.response reqId) by
    obtain ⟨task, w, at_, waits, room⟩ := this
    exact ⟨task, at_, (own at_ waits room).1⟩
  induction chain using Relation.ReflTransGen.head_induction_on with
  | refl => exact ⟨task, w, at_, waits, room⟩
  | head edge chain ih =>
    obtain ⟨next, w', found, waiting, same⟩ := ih
    obtain ⟨role, empty⟩ := own found waiting same
    obtain ⟨first, w'', at', waits', behind⟩ := edge.behind found waiting empty (by
      intro c
      rw [role]
      cases c <;> rfl)
    exact ⟨first, w'', at', waits', behind.trans same⟩

/-- In a run in which every caller has room when a shared task passes something on
to it, nobody waits for a caller but the task for its request. -/
theorem slow_callers_stall_nobody (events : List (LockEvent NodeRole NodeFunction NodeChannel))
    (settled : ∀ r ∈ ((lockMachine nodeSystem).history .initial events).1,
      NeverWaitsAt nodeSystem passesOnShared r) :
    Machine.Always (fun _ r => CallersApart (lockStep nodeSystem r.before r.event))
      ((lockMachine nodeSystem).history .initial events).1 :=
  (always_obeys nodeSystem_follows events settled).imp fun _ _ => callersApart_of_obeys

/-- A data channel passes on a part of an answer while a command is handled. -/
theorem slow_callers_stall_nobody_sample :
    Machine.Always (fun _ r => CallersApart (lockStep nodeSystem r.before r.event))
      ((lockMachine nodeSystem).history .initial
        ([.spawn (.dataChannel "c"), .spawn (.request 1), .start 0 (.onProxyResponseChunk 0)] ++
          List.replicate 4 (.step 0 true) ++ [.start 1 (.clusterProxyCmd "c")] ++
          List.replicate 20 (.step 1 false))).1 := by
  refine slow_callers_stall_nobody _ ?_
  decide +kernel

/-- A swarm that is first in the list waits until the caller of request 0 reads. -/
def swarmWaitsForCaller (s : LockState NodeRole NodeLock NodeChannel) : Bool :=
  match s.tasks with
  | task :: _ =>
    task.role = .network .swarm "s" ∧
      task.waits.map (·.resource) = some (.room (.response 0))
  | [] => false

private theorem not_apart_of_swarmWaits {s : LockState NodeRole NodeLock NodeChannel}
    (stalled : swarmWaitsForCaller s = true) : ¬ CallersApart s := by
  intro apart
  obtain ⟨_ | ⟨task, rest⟩, _⟩ := s
  · cases stalled
  · obtain ⟨swarm, room⟩ := of_decide_eq_true stalled
    obtain ⟨w, waits, same⟩ := Option.map_eq_some_iff.mp room
    obtain ⟨_, found, request⟩ := apart 0 0 ⟨0, task, w, .refl, rfl, waits, same⟩
    cases found
    rw [swarm] at request
    cases request

/-- The caller of request 0 stops reading: when its buffer is full, the swarm waits
for it and handles no other request. -/
theorem slow_caller_stalls_swarm :
    ¬ Machine.Always (fun _ r => CallersApart (lockStep nodeSystem r.before r.event))
      ((lockMachine nodeSystem).history .initial
        ([.spawn (.network .swarm "s"), .start 0 (.onProxyResponse 0)] ++
          List.replicate 202 (.step 0 true))).1 := by
  refine Machine.not_always_of_mem
    (fun r stalled => not_apart_of_swarmWaits (s := lockStep nodeSystem r.before r.event) stalled) ?_
  decide +kernel

end MtrxPeer
