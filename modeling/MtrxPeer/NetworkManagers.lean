import MtrxPeer.ModelStarts
import MtrxPeer.Moderation
import MtrxPeer.NetworkCatalog
import MtrxPeer.PeerRegistry
import MtrxPeer.StoredConfig
import MtrxPeer.VisitedMaps

/-! The manager of the clusters and the manager of the swarms: each keeps a task for every
network that the configuration wants connected, and hands it what is sent to its network.
What a manager does for an event is a list of pieces of work, between which anything else
may happen. -/
namespace MtrxPeer

open Function (update update_of_ne update_self)

/-! ## State -/

/-- The channels that a network's task reads. -/
inductive TaskChannel where
  | cmd
  | modelStart
  | connection
  | moderation
  deriving DecidableEq

/-- Each attempt at connecting a network has channels of its own, and a task if it
succeeds. -/
abbrev Attempt := Nat

inductive PeerDirection where
  | inbound
  | outbound
  deriving DecidableEq

/-- An entry of the registry with the direction in which its peer connected. -/
structure DirectedPeer extends TrackedPeer where
  direction : PeerDirection

/-- `ClusterStatus` and `SwarmStatus`, without the fields of the schedule. -/
structure NetworkStatus where
  networkId : String
  name : Option String
  /-- `lobby_connected` and `p2p_connected`. -/
  online : Bool
  outboundPeers : Nat
  inboundPeers : Nat
  acceptingJobs : Bool
  connected : Bool
  networkModels : List Json
  thermalPaused : Bool

/-- What is left to do for an event that a manager has taken. -/
inductive ManagerWork (M : Type) where
  /-- The part of `run` before its loop. -/
  | start
  | reap
  /-- The first loop of `reconcile_clusters` and `reconcile_swarms`. -/
  | stopUnwanted (desired : List M)
  | stop (id : String)
  /-- The body of a loop that connects networks. -/
  | spawn (network : M)
  /-- The part of a tick after the reaping. -/
  | reconnect
  | syncStatus

structure ManagerState (M : Type) where
  /-- The networks of the configuration. -/
  configured : List M
  handles : VisitedMap String Attempt
  txs : TaskChannel → VisitedMap String Attempt
  /-- How many attempts there were. -/
  attempts : Nat
  networkOf : Attempt → String
  /-- The task of the attempt has neither ended nor been aborted. -/
  running : Attempt → Bool
  /-- `cluster_connected` and `swarm_connected`. -/
  online : VisitedMap String Bool
  networkModels : VisitedMap String (List Json)
  peerRegistry : VisitedMap String DirectedPeer
  isPeerBlocked : String → Bool
  thermalActive : Bool
  statuses : List NetworkStatus
  work : List (ManagerWork M)

/-- A network of the kind that a manager is for. -/
structure ManagerKind (M : Type) where
  scope : NetworkScope
  networkId : M → String
  name : M → Option String
  isConnected : M → Bool
  acceptsJobs : M → Bool
  /-- The construction of the attempt's manager succeeds. -/
  constructs : Attempt → Bool

/-- The clusters; `WebRTCManager::new` may fail. -/
def clusterKind (constructs : Attempt → Bool) : ManagerKind StoredMembership where
  scope := .cluster
  networkId c := c.clusterId
  name c := c.name
  isConnected c := c.isConnected
  acceptsJobs c := clusterAcceptsJobs c.toClusterMembership
  constructs := constructs

/-- The swarms; `P2pManager::new` cannot fail. -/
def swarmKind : ManagerKind StoredSwarm where
  scope := .swarm
  networkId s := s.swarmId
  name s := s.name
  isConnected s := s.isConnected
  acceptsJobs s := swarmAcceptsJobs s.toSwarmMembership
  constructs _ := true

inductive TaskMessage where
  | cmd (cmd : ProxyRequestCommand)
  | modelStart (action : ModelStartAction)
  | connection (reqId : String) (accept : Bool) (clusterId : Option String)
  | moderation (action : PeerModerationAction)

inductive ManagerOutput where
  /-- A running task is given the message. -/
  | handed (attempt : Attempt) (message : TaskMessage)
  /-- The channel's receiver is gone, and the message with it. -/
  | lost (attempt : Attempt) (message : TaskMessage)
  /-- `response_tx` is sent an error. -/
  | refused (error : String)

inductive ManagerEvent (M : Type) where
  /-- The manager goes on with its work. -/
  | work
  /-- `cluster_notify_rx` and `swarm_notify_rx`. -/
  | notified
  | tick
  | proxyCmd (cmd : ProxyRequestCommand)
  | modelStart (action : ModelStartAction)
  | connection (reqId : String) (accept : Bool) (clusterId : Option String)
  | moderate (action : PeerModerationAction)
  | configured (networks : List M)
  /-- A task returns. -/
  | ended (attempt : Attempt)
  /-- A task, or a handler it has left behind, writes whether its network is online. -/
  | flagged (attempt : Attempt) (online : Bool)
  | advertised (attempt : Attempt) (models : List Json)
  | tracked (key : String) (peer : DirectedPeer)
  | untracked (key : String)
  | blocked (peer : String) (isBlocked : Bool)
  | thermal (active : Bool)
  /-- The maps are visited in other orders from now on. -/
  | reorderedHandles (order : List String)
  | reorderedTxs (channel : TaskChannel) (order : List String)
  | reorderedModels (order : List String)

namespace NetworkScope

def label : NetworkScope → String
  | .cluster => "cluster"
  | .swarm => "swarm"

/-- The network of an entry of the registry. -/
def entryNetwork (scope : NetworkScope) (p : DirectedPeer) : Option String :=
  match scope with
  | .cluster => p.clusterId
  | .swarm => p.swarmId

def channels : NetworkScope → List TaskChannel
  | .cluster => [.cmd, .modelStart, .connection, .moderation]
  | .swarm => [.cmd, .modelStart, .moderation]

def commandNetwork (scope : NetworkScope) (cmd : ProxyRequestCommand) : Option String :=
  match scope with
  | .cluster => cmd.clusterId
  | .swarm => cmd.swarmId

def actionNetwork (scope : NetworkScope) (action : ModelStartAction) : Option String :=
  match scope, action with
  | .cluster, .request _ _ clusterId _ | .cluster, .respond _ _ clusterId _ => clusterId
  | .swarm, .request _ _ _ swarmId | .swarm, .respond _ _ _ swarmId => swarmId

end NetworkScope

/-- The networks that advertise a model, with the number of peers each says it has, in the
order in which they are visited. -/
def advertisedPeers (networkModels : VisitedMap String (List Json)) (model : String) :
    List (String × Nat) :=
  networkModels.entries.flatMap fun entry =>
    (entry.2.filter fun m => modelName m = some model).map fun m =>
      (entry.1, ((m.get "_peer_count").bind Json.asU64).getD 1)

/-- The best so far is kept unless the next item weighs more. -/
def heavier {α : Type} (weight : α → Nat) : Option α → α → Option α
  | some held, item => if weight held ≥ weight item then some held else some item
  | none, item => some item

def firstGreatest {α : Type} (weight : α → Nat) (items : List α) : Option α :=
  items.foldl (heavier weight) none

/-- `find_cluster_for_model` and `find_swarm_for_model`. -/
def findNetworkForModel (networkModels : VisitedMap String (List Json)) (model : String) :
    Option String :=
  (firstGreatest Prod.snd (advertisedPeers networkModels model)).map Prod.fst

namespace ManagerState

variable {M : Type} (kind : ManagerKind M) (s : ManagerState M)

/-! ## Statuses -/

def peersOf (id : String) (direction : PeerDirection) : Nat :=
  s.peerRegistry.values.countP fun p =>
    kind.scope.entryNetwork p = some id ∧ p.direction = direction

/-- `sync_cluster_status_list` and `sync_swarm_status_list`, with the models attached. -/
def syncStatusList : ManagerState M :=
  { s with statuses := s.configured.map fun network =>
      let id := kind.networkId network
      { networkId := id
        name := kind.name network
        online := (s.online.get id).getD false
        outboundPeers := s.peersOf kind id .outbound
        inboundPeers := s.peersOf kind id .inbound
        acceptingJobs := kind.acceptsJobs network
        connected := kind.isConnected network
        networkModels := (s.networkModels.get id).getD []
        thermalPaused := s.thermalActive && !kind.acceptsJobs network } }

/-- `set_cluster_connected`, which lists the statuses anew, and `set_connected` of a swarm. -/
def setOnline (id : String) (online : Bool) : ManagerState M :=
  let flagged := { s with online := s.online.insert id online }
  match kind.scope with
  | .cluster => flagged.syncStatusList kind
  | .swarm => flagged

/-! ## Tasks -/

/-- The part that `reap_finished_cluster_tasks` and `reap_finished_swarm_tasks` share. -/
def reapHandles : ManagerState M :=
  { s with handles := s.handles.retain fun _ task => s.running task }

/-- `reap_finished_swarm_tasks`. -/
def reapFinishedSwarmTasks : ManagerState M :=
  let finished := s.handles.retain fun _ task => !s.running task
  if finished.keys = [] then s.reapHandles
  else
    { s.reapHandles with
      online := s.online.retain fun id _ => !finished.contains id }.syncStatusList kind

/-- `reap_finished_cluster_tasks` leaves `cluster_connected` as it is. -/
def reapFinishedTasks : ManagerState M :=
  match kind.scope with
  | .cluster => s.reapHandles
  | .swarm => s.reapFinishedSwarmTasks kind

/-- `stop_cluster` and `stop_swarm`. -/
def stopNetwork (id : String) : ManagerState M :=
  { s with
    handles := s.handles.remove id
    running := fun task => s.running task && decide (s.handles.get id ≠ some task)
    txs := fun channel => (s.txs channel).remove id
    networkModels := s.networkModels.remove id
    online := s.online.remove id
    peerRegistry := s.peerRegistry.retain fun _ p =>
      kind.scope.entryNetwork p ≠ some id }.syncStatusList kind

/-- The channels of a new attempt at a network. -/
def openChannels (id : String) : ManagerState M :=
  { s with
    txs := fun channel =>
      if channel ∈ kind.scope.channels then (s.txs channel).insert id s.attempts else s.txs channel
    attempts := s.attempts + 1
    networkOf := update s.networkOf s.attempts id }

/-- `WebRTCManager::new` ends with `set_cluster_connected(false)`. -/
def construct (id : String) : ManagerState M :=
  match kind.scope with
  | .cluster => s.setOnline kind id false
  | .swarm => s

/-- `spawn_cluster` and `spawn_swarm`. -/
def spawnNetwork (network : M) : ManagerState M :=
  let id := kind.networkId network
  if s.handles.contains id then s
  else if kind.constructs s.attempts then
    { (s.openChannels kind id).construct kind id with
      handles := s.handles.insert id s.attempts
      running := update s.running s.attempts true }
  else s.openChannels kind id

/-- The configuration does not have the network connected. -/
def shouldStop (desired : List M) (id : String) : Bool :=
  ((desired.find? fun c => kind.networkId c = id).map fun c => !kind.isConnected c).getD true

/-- A piece of work: the state after it, and the work that it turns out to mean. -/
def perform : ManagerWork M → ManagerState M × List (ManagerWork M)
  | .start => (s, .syncStatus :: (s.configured.filter kind.isConnected).map .spawn)
  | .reap => (s.reapFinishedTasks kind, [])
  | .stopUnwanted desired => (s, (s.handles.keys.filter (shouldStop kind desired)).map .stop)
  | .stop id => (s.stopNetwork kind id, [])
  | .spawn network => (if kind.isConnected network then s.spawnNetwork kind network else s, [])
  | .reconnect => (s, s.configured.map .spawn ++ [.syncStatus])
  | .syncStatus => (s.syncStatusList kind, [])

/-- `reconcile_clusters` and `reconcile_swarms`. -/
def reconcileWork (desired : List M) : List (ManagerWork M) :=
  .reap :: .stopUnwanted desired :: (desired.map .spawn ++ [.syncStatus])

/-! ## Routing -/

/-- What becomes of a message on a channel of an attempt. -/
def sendTo (message : TaskMessage) (attempt : Attempt) : ManagerOutput :=
  if s.running attempt then .handed attempt message else .lost attempt message

def routeProxyCmd (cmd : ProxyRequestCommand) : ManagerOutput :=
  match cmd.targetPeer.filter s.isPeerBlocked with
  | some target => .refused ("Peer " ++ target ++ " is blocked")
  | none =>
    match (kind.scope.commandNetwork cmd).or (findNetworkForModel s.networkModels cmd.model) with
    | none => .refused ("No " ++ kind.scope.label ++ " advertises model " ++ cmd.model)
    | some id =>
      match (s.txs .cmd).get id with
      | none => .refused ("Not connected to " ++ kind.scope.label ++ " " ++ id)
      | some attempt => s.sendTo (.cmd cmd) attempt

/-- `route_model_start_action` and `route_connection_action`. -/
def routeAction (channel : TaskChannel) (id : Option String) (message : TaskMessage) :
    List ManagerOutput :=
  ((id.bind (s.txs channel).get).map (s.sendTo message)).toList

def handlePeerModeration (action : PeerModerationAction) : List ManagerOutput :=
  let tasks := match action with
    | .closeConnections _ => (s.txs .moderation).values
    | .report .. => (s.txs .moderation).values.take 1
  tasks.map (s.sendTo (.moderation action))

/-! ## Events -/

/-- The arms of the loop's `select!`. -/
def takeEvent : ManagerEvent M → ManagerState M × List ManagerOutput
  | .notified => ({ s with work := reconcileWork s.configured }, [])
  | .tick => ({ s with work := [.reap, .reconnect] }, [])
  | .proxyCmd cmd => (s, [s.routeProxyCmd kind cmd])
  | .modelStart action =>
    (s, s.routeAction .modelStart (kind.scope.actionNetwork action) (.modelStart action))
  | .connection reqId accept clusterId =>
    (s, s.routeAction .connection clusterId (.connection reqId accept clusterId))
  | .moderate action => (s, s.handlePeerModeration action)
  | _ => (s, [])

/-- What the rest of the node does. -/
def elsewhere : ManagerEvent M → ManagerState M
  | .configured networks => { s with configured := networks }
  | .ended attempt => { s with running := update s.running attempt false }
  | .flagged attempt online =>
    if attempt < s.attempts then s.setOnline kind (s.networkOf attempt) online else s
  | .advertised attempt models =>
    if attempt < s.attempts then
      { s with networkModels := s.networkModels.insert (s.networkOf attempt) models }
    else s
  | .tracked key peer => { s with peerRegistry := s.peerRegistry.insert key peer }
  | .untracked key => { s with peerRegistry := s.peerRegistry.remove key }
  | .blocked peer isBlocked => { s with isPeerBlocked := update s.isPeerBlocked peer isBlocked }
  | .thermal active => { s with thermalActive := active }
  | .reorderedHandles order => { s with handles := s.handles.reorder order }
  | .reorderedTxs channel order =>
    { s with txs := update s.txs channel ((s.txs channel).reorder order) }
  | .reorderedModels order => { s with networkModels := s.networkModels.reorder order }
  | _ => s

/-- The manager performs the next piece of its work. -/
def goOn : ManagerState M :=
  match s.work with
  | [] => s
  | next :: rest =>
    let done := s.perform kind next
    { done.1 with work := done.2 ++ rest }

end ManagerState

/-- The event waits in a channel of the manager, or is a tick, until the manager has no
work left. -/
def ManagerEvent.isForLoop {M : Type} : ManagerEvent M → Bool
  | .notified | .tick | .proxyCmd _ | .modelStart _ | .connection .. | .moderate _ => true
  | _ => false

def networkManager {M : Type} (kind : ManagerKind M) :
    Machine (ManagerState M) (ManagerEvent M) ManagerOutput where
  step s e :=
    match e with
    | .work => (s.goOn kind, [])
    | e =>
      if e.isForLoop then if s.work.isEmpty then s.takeEvent kind e else (s, [])
      else (s.elsewhere kind e, [])

/-- `ClusterManager`. -/
def clusterManager (constructs : Attempt → Bool) := networkManager (clusterKind constructs)

/-- `SwarmManager`. -/
def swarmManager := networkManager swarmKind

end MtrxPeer
