import MtrxPeer.Listings
import MtrxPeer.NetworkSchedule
import MtrxPeer.RoomSecret

/-! The configuration as it is stored, and the operations that change it. Each one changes
the configuration in memory first and then writes the file. -/
namespace MtrxPeer

/-! ## The configuration -/

/-- A membership as it is saved, with the settings of the swarm. -/
structure StoredSwarm extends SwarmMembership where
  name : Option String
  bootnodes : List String
  requireE2ee : Option Bool
  requireTee : Option Bool
  requiredAttestationFlags : Option Nat
  scheduleEnabled : Option Bool
  scheduleStart : Option String
  scheduleEnd : Option String
  deriving DecidableEq

/-- The settings of `put_settings`. -/
structure StoredSettings where
  autoApproveRunModelRequest : Bool
  autoApproveInferenceConnections : Bool
  allowUnattestedPeers : Bool
  ollamaTlsInsecure : Bool
  defaultNumPredict : Option Nat
  defaultNumCtx : Option Nat
  defaultScheduleEnabled : Option Bool
  defaultScheduleStart : Option String
  defaultScheduleEnd : Option String
  gpuThermalGuardEnabled : Option Bool
  gpuThermalThresholdC : Option UInt8
  gpuThermalDurationSecs : Option Nat
  gpuThermalCooldownC : Option UInt8
  gpuThermalAutoResume : Option Bool
  deriving DecidableEq

/-- The fields of the configuration that the operations on networks and settings read or change. -/
structure StoredConfig where
  peerId : Option String
  clusters : List StoredMembership
  swarms : List StoredSwarm
  p2pMode : NetworkMode
  cluster : Option String
  settings : StoredSettings
  deriving DecidableEq

def StoredMembership.isConnected (c : StoredMembership) : Bool := clusterIsConnected c.toClusterMembership

def StoredSwarm.isConnected (s : StoredSwarm) : Bool := swarmIsConnected s.toSwarmMembership

def resolveClusterSchedule (cfg : StoredConfig) (c : StoredMembership) : ResolvedSchedule :=
  resolveSchedule c.scheduleEnabled c.scheduleStart c.scheduleEnd cfg.settings.defaultScheduleEnabled
    cfg.settings.defaultScheduleStart cfg.settings.defaultScheduleEnd

def resolveSwarmSchedule (cfg : StoredConfig) (s : StoredSwarm) : ResolvedSchedule :=
  resolveSchedule s.scheduleEnabled s.scheduleStart s.scheduleEnd cfg.settings.defaultScheduleEnabled
    cfg.settings.defaultScheduleStart cfg.settings.defaultScheduleEnd

/-! ## The networks -/

/-- What `upsert_swarm` takes over into an entry that exists. -/
def refreshSwarm (swarm existing : StoredSwarm) : StoredSwarm :=
  { existing with
    name := swarm.name.or existing.name
    p2pToken := if swarm.p2pToken = "" then existing.p2pToken else swarm.p2pToken
    bootnodes := if swarm.bootnodes = [] then existing.bootnodes else swarm.bootnodes }

def upsertSwarm (swarms : List StoredSwarm) (swarm : StoredSwarm) : List StoredSwarm :=
  if swarms.any (·.swarmId = swarm.swarmId) then
    changeFirst (·.swarmId) swarm.swarmId (refreshSwarm swarm) swarms
  else swarms ++ [swarm]

def removeSwarm (swarms : List StoredSwarm) (swarmId : String) : List StoredSwarm :=
  swarms.filter fun s => s.swarmId ≠ swarmId

/-- `create_swarm_membership` with the identifier it drew and the boot nodes of the environment. -/
def createSwarmMembership (swarmId : String) (name : Option String) (p2pToken : String)
    (bootnodes : List String) : StoredSwarm where
  swarmId := swarmId
  name := name
  p2pToken := p2pToken
  bootnodes := bootnodes
  acceptingJobs := some true
  connected := some true
  requireE2ee := none
  requireTee := none
  requiredAttestationFlags := none
  scheduleEnabled := none
  scheduleStart := none
  scheduleEnd := none

/-- `ensure_p2p_mode_for_swarms`. -/
def ensureP2pModeForSwarms (cfg : StoredConfig) : StoredConfig :=
  if cfg.swarms ≠ [] ∧ cfg.p2pMode = .cluster then
    { cfg with p2pMode := if cfg.clusters = [] then .swarm else .both }
  else cfg

/-! ## All networks at once -/

/-- `disconnect_all` and `connect_all` before they save. -/
def setConnectedAll (connected : Bool) (cfg : StoredConfig) : StoredConfig :=
  { cfg with
    clusters := cfg.clusters.map fun c => { c with connected := some connected }
    swarms := cfg.swarms.map fun s => { s with connected := some connected } }

/-- `set_pause_all` before it saves. -/
def setPauseAll (paused : Bool) (cfg : StoredConfig) : StoredConfig :=
  { cfg with
    clusters := cfg.clusters.map fun c => { c with acceptingJobs := some (!paused) }
    swarms := cfg.swarms.map fun s => { s with acceptingJobs := some (!paused) } }

/-- The connection that a schedule asks for, where a network does not have it. -/
def scheduledChange (schedule : ResolvedSchedule) (nowMins : Nat) (current : Bool) : Option Bool :=
  if schedule.enabled ∧ current ≠ isInsideWindow schedule.startMins schedule.endMins nowMins then
    some (isInsideWindow schedule.startMins schedule.endMins nowMins)
  else none

def clusterUpdate (cfg : StoredConfig) (nowMins : Nat) (c : StoredMembership) : Option Bool :=
  scheduledChange (resolveClusterSchedule cfg c) nowMins c.isConnected

def swarmUpdate (cfg : StoredConfig) (nowMins : Nat) (s : StoredSwarm) : Option Bool :=
  scheduledChange (resolveSwarmSchedule cfg s) nowMins s.isConnected

/-- `apply_schedules` before it saves: the configuration, and whether anything changed. -/
def applySchedules (nowMins : Nat) (cfg : StoredConfig) : StoredConfig × Bool :=
  ({ cfg with
      clusters := cfg.clusters.map fun c => { c with connected := (clusterUpdate cfg nowMins c).or c.connected }
      swarms := cfg.swarms.map fun s => { s with connected := (swarmUpdate cfg nowMins s).or s.connected } },
    cfg.clusters.any (fun c => (clusterUpdate cfg nowMins c).isSome) ||
      cfg.swarms.any fun s => (swarmUpdate cfg nowMins s).isSome)

/-! ## The requests -/

structure CreateClusterBody where
  name : Option String
  visibility : Option String
  password : Option String

structure JoinClusterBody where
  clusterId : Option String
  name : Option String
  password : Option String

structure CreateSwarmBody where
  name : Option String
  p2pToken : Option String

structure JoinSwarmBody where
  p2pToken : String
  name : Option String
  bootnodes : List String

structure ScheduleBody where
  enabled : Option Bool
  start : Option String
  stop : Option String

structure SettingsUpdateBody where
  autoApproveRunModelRequest : Option Bool
  autoApproveInferenceConnections : Option Bool
  allowUnattestedPeers : Option Bool
  ollamaTlsInsecure : Option Bool
  defaultNumPredict : Option (Option Nat)
  defaultNumCtx : Option (Option Nat)
  defaultScheduleEnabled : Option Bool
  defaultScheduleStart : Option String
  defaultScheduleEnd : Option String
  gpuThermalGuardEnabled : Option Bool
  gpuThermalThresholdC : Option UInt8
  gpuThermalDurationSecs : Option Nat
  gpuThermalCooldownC : Option UInt8
  gpuThermalAutoResume : Option Bool

/-- A limit of zero is no limit. -/
def positive (limit : Option Nat) : Option Nat := limit.filter (0 < ·)

/-- `put_settings` before it saves. -/
def putSettings (body : SettingsUpdateBody) (settings : StoredSettings) : StoredSettings where
  autoApproveRunModelRequest := body.autoApproveRunModelRequest.getD settings.autoApproveRunModelRequest
  autoApproveInferenceConnections :=
    body.autoApproveInferenceConnections.getD settings.autoApproveInferenceConnections
  allowUnattestedPeers := body.allowUnattestedPeers.getD settings.allowUnattestedPeers
  ollamaTlsInsecure := body.ollamaTlsInsecure.getD settings.ollamaTlsInsecure
  defaultNumPredict := (body.defaultNumPredict.map positive).getD settings.defaultNumPredict
  defaultNumCtx := (body.defaultNumCtx.map positive).getD settings.defaultNumCtx
  defaultScheduleEnabled := body.defaultScheduleEnabled.or settings.defaultScheduleEnabled
  defaultScheduleStart := body.defaultScheduleStart.or settings.defaultScheduleStart
  defaultScheduleEnd := body.defaultScheduleEnd.or settings.defaultScheduleEnd
  gpuThermalGuardEnabled := body.gpuThermalGuardEnabled.or settings.gpuThermalGuardEnabled
  gpuThermalThresholdC := body.gpuThermalThresholdC.or settings.gpuThermalThresholdC
  gpuThermalDurationSecs := body.gpuThermalDurationSecs.or settings.gpuThermalDurationSecs
  gpuThermalCooldownC := body.gpuThermalCooldownC.or settings.gpuThermalCooldownC
  gpuThermalAutoResume := body.gpuThermalAutoResume.or settings.gpuThermalAutoResume

/-- The operations that change networks or settings. `reply` is what the lobby answered, and
`fresh` an identifier that was drawn. -/
inductive ConfigOp where
  | applySchedules (nowMins : Nat)
  | disconnectAll
  | connectAll
  | setPauseAll (paused : Bool)
  /-- The join at the end of a registration, by `finish_register`. -/
  | registerCluster (clusterName : String) (reply : Except String ClusterResponse)
  | postClusterCreate (body : CreateClusterBody) (reply : Except String ClusterResponse)
  | postClusterJoin (body : JoinClusterBody) (reply : Except String ClusterResponse)
  | postClusterDisconnect (clusterId : String)
  | postClusterConnect (clusterId : String)
  | postClusterMaintenance (clusterId : String) (enabled : Bool)
  | putClusterSchedule (clusterId : String) (body : ScheduleBody)
  | deleteCluster (clusterId : String)
  | postSwarmCreate (body : CreateSwarmBody) (fresh freshToken : String) (bootnodes : List String)
  | postSwarmJoin (body : JoinSwarmBody) (fresh : String) (bootnodes : List String)
  | postSwarmDisconnect (swarmId : String)
  | postSwarmConnect (swarmId : String)
  | postSwarmMaintenance (swarmId : String) (enabled : Bool)
  | putSwarmSchedule (swarmId : String) (body : ScheduleBody)
  | deleteSwarm (swarmId : String)
  | putSettings (body : SettingsUpdateBody)

/-- What an operation makes of the configuration before it saves. -/
inductive Draft where
  /-- An error before anything was changed. -/
  | refused (status : Nat) (message : String)
  /-- There is nothing to save. -/
  | idle
  | changed (cfg : StoredConfig)

/-- The change of a cluster that `find_cluster_mut` finds. -/
def changeCluster (clusterId : String) (edit : MembershipEdit) (cfg : StoredConfig) : Draft :=
  if (findStored cfg.clusters clusterId).isSome then
    .changed { cfg with clusters := modifyCluster clusterId edit.apply cfg.clusters }
  else .refused 404 "cluster not found"

/-- The change of a swarm that `find_swarm_mut` finds. -/
def changeSwarm (swarmId : String) (change : StoredSwarm → StoredSwarm) (cfg : StoredConfig) : Draft :=
  if cfg.swarms.any (·.swarmId = swarmId) then
    .changed { cfg with swarms := changeFirst (·.swarmId) swarmId change cfg.swarms }
  else .refused 404 "swarm not found"

def changeSwarmSchedule (body : ScheduleBody) (s : StoredSwarm) : StoredSwarm :=
  { s with
    scheduleEnabled := body.enabled.or s.scheduleEnabled
    scheduleStart := body.start.or s.scheduleStart
    scheduleEnd := body.stop.or s.scheduleEnd }

/-- The end of a create or a join of a cluster. -/
def admitCluster (reply : Except String ClusterResponse) (password : Option String) (cfg : StoredConfig) :
    Draft :=
  match reply with
  | .error message => .refused 502 message
  | .ok resp =>
    .changed { cfg with clusters := upsertCluster cfg.clusters (membershipFromResponse resp password) }

/-- What a join makes of a swarm that is already there. -/
def rejoinSwarm (body : JoinSwarmBody) (s : StoredSwarm) : StoredSwarm :=
  { s with
    name := body.name.or s.name
    connected := some true
    bootnodes := if body.bootnodes = [] then s.bootnodes else body.bootnodes }

def isGiven (text : Option String) : Bool := (text.map trim).any (· ≠ "")

def draft (cfg : StoredConfig) : ConfigOp → Draft
  | .applySchedules nowMins =>
    if (applySchedules nowMins cfg).2 then .changed (applySchedules nowMins cfg).1 else .idle
  | .disconnectAll => .changed (setConnectedAll false cfg)
  | .connectAll => .changed (setConnectedAll true cfg)
  | .setPauseAll paused => .changed (setPauseAll paused cfg)
  | .registerCluster clusterName reply => admitCluster reply (some "") { cfg with cluster := some clusterName }
  | .postClusterCreate body reply =>
    if cfg.peerId = none then .refused 400 "peer not registered"
    else if (body.visibility.getD "private").toLower = "public" then
      .refused 403 "public clusters can only be created via admin API"
    else admitCluster reply body.password cfg
  | .postClusterJoin body reply =>
    if isGiven body.clusterId || isGiven body.name then admitCluster reply body.password cfg
    else .refused 400 "cluster_id or name required (private clusters need both)"
  | .postClusterDisconnect clusterId => changeCluster clusterId (.connected false) cfg
  | .postClusterConnect clusterId => changeCluster clusterId (.connected true) cfg
  | .postClusterMaintenance clusterId enabled => changeCluster clusterId (.acceptingJobs (!enabled)) cfg
  | .putClusterSchedule clusterId body =>
    changeCluster clusterId (.schedule body.enabled body.start body.stop) cfg
  | .deleteCluster clusterId =>
    let clusters := removeCluster cfg.clusters clusterId
    .changed { cfg with clusters, cluster := if clusters = [] then none else cfg.cluster }
  | .postSwarmCreate body fresh freshToken bootnodes =>
    let membership := createSwarmMembership fresh body.name (body.p2pToken.getD freshToken) bootnodes
    .changed (ensureP2pModeForSwarms { cfg with swarms := upsertSwarm cfg.swarms membership })
  | .postSwarmJoin body fresh bootnodes =>
    let token := trim body.p2pToken
    if token = "" then .refused 400 "p2p_token required"
    else
      match cfg.swarms.find? (·.p2pToken = token) with
      | some existing =>
        .changed (ensureP2pModeForSwarms
          { cfg with swarms := changeFirst (·.swarmId) existing.swarmId (rejoinSwarm body) cfg.swarms })
      | none =>
        -- without boot nodes of its own, a join takes those of the environment or of the lobby
        let given := if body.bootnodes = [] then bootnodes else body.bootnodes
        .changed (ensureP2pModeForSwarms
          { cfg with swarms := upsertSwarm cfg.swarms (createSwarmMembership fresh body.name token given) })
  | .postSwarmDisconnect swarmId => changeSwarm swarmId ({ · with connected := some false }) cfg
  | .postSwarmConnect swarmId => changeSwarm swarmId ({ · with connected := some true }) cfg
  | .postSwarmMaintenance swarmId enabled => changeSwarm swarmId ({ · with acceptingJobs := some (!enabled) }) cfg
  | .putSwarmSchedule swarmId body => changeSwarm swarmId (changeSwarmSchedule body) cfg
  | .deleteSwarm swarmId => .changed { cfg with swarms := removeSwarm cfg.swarms swarmId }
  | .putSettings body => .changed { cfg with settings := putSettings body cfg.settings }

inductive OpResult where
  | saved
  | idle
  | refused (status : Nat) (message : String)
  | saveFailed
  deriving DecidableEq

/-- The configuration in memory after an operation, and its result. The change is made in
place, before the file is written. -/
def runOp (saves : Bool) (op : ConfigOp) (cfg : StoredConfig) : StoredConfig × OpResult :=
  match draft cfg op with
  | .refused status message => (cfg, .refused status message)
  | .idle => (cfg, .idle)
  | .changed cfg' => (cfg', if saves then .saved else .saveFailed)

end MtrxPeer
