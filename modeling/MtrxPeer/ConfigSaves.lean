import MtrxPeer.Runs
import MtrxPeer.StoredConfig

/-! What a failed save leaves behind. The operations change the configuration in place and
write the file afterwards, so a failed write leaves it as it was only where there was nothing
to change. -/
namespace MtrxPeer

/-! ## Where there is nothing to change -/

/-- A value that is given is the one there is. -/
def AlreadyIs {α : Type} (given current : Option α) : Prop := ∀ value, given = some value → current = some value

/-- A network with a schedule is connected as the schedule asks. -/
def OnSchedule (schedule : ResolvedSchedule) (nowMins : Nat) (connected : Bool) : Prop :=
  schedule.enabled = true → connected = isInsideWindow schedule.startMins schedule.endMins nowMins

/-- The cluster that the lobby answered with is there, under the same name. -/
def AlreadyEntered (cfg : StoredConfig) (reply : Except String ClusterResponse) : Prop :=
  ∀ resp, reply = .ok resp → ∃ c, findStored cfg.clusters resp.clusterId = some c ∧
    AlreadyIs resp.name c.name ∧ AlreadyIs (resp.visibility.or (some "public")) c.visibility

/-- The swarm is there, as it would be entered, and its transport is on. -/
def AlreadyJoined (cfg : StoredConfig) (swarmId : String) (holds : StoredSwarm → Prop) : Prop :=
  (∃ s, cfg.swarms.find? (·.swarmId = swarmId) = some s ∧ holds s) ∧ cfg.p2pMode ≠ .cluster

/-- What a cluster is asked for holds of it, if it is there. -/
def ClusterIs (cfg : StoredConfig) (clusterId : String) (holds : StoredMembership → Prop) : Prop :=
  ∀ c, findStored cfg.clusters clusterId = some c → holds c

/-- What a swarm is asked for holds of it, if it is there. -/
def SwarmIs (cfg : StoredConfig) (swarmId : String) (holds : StoredSwarm → Prop) : Prop :=
  ∀ s, cfg.swarms.find? (·.swarmId = swarmId) = some s → holds s

/-- The settings that are given are the ones there are. -/
structure SettingsAre (body : SettingsUpdateBody) (settings : StoredSettings) : Prop where
  autoApproveRunModelRequest :
    AlreadyIs body.autoApproveRunModelRequest (some settings.autoApproveRunModelRequest)
  autoApproveInferenceConnections :
    AlreadyIs body.autoApproveInferenceConnections (some settings.autoApproveInferenceConnections)
  allowUnattestedPeers : AlreadyIs body.allowUnattestedPeers (some settings.allowUnattestedPeers)
  ollamaTlsInsecure : AlreadyIs body.ollamaTlsInsecure (some settings.ollamaTlsInsecure)
  defaultNumPredict : AlreadyIs (body.defaultNumPredict.map positive) (some settings.defaultNumPredict)
  defaultNumCtx : AlreadyIs (body.defaultNumCtx.map positive) (some settings.defaultNumCtx)
  defaultScheduleEnabled : AlreadyIs body.defaultScheduleEnabled settings.defaultScheduleEnabled
  defaultScheduleStart : AlreadyIs body.defaultScheduleStart settings.defaultScheduleStart
  defaultScheduleEnd : AlreadyIs body.defaultScheduleEnd settings.defaultScheduleEnd
  gpuThermalGuardEnabled : AlreadyIs body.gpuThermalGuardEnabled settings.gpuThermalGuardEnabled
  gpuThermalThresholdC : AlreadyIs body.gpuThermalThresholdC settings.gpuThermalThresholdC
  gpuThermalDurationSecs : AlreadyIs body.gpuThermalDurationSecs settings.gpuThermalDurationSecs
  gpuThermalCooldownC : AlreadyIs body.gpuThermalCooldownC settings.gpuThermalCooldownC
  gpuThermalAutoResume : AlreadyIs body.gpuThermalAutoResume settings.gpuThermalAutoResume

/-- What a schedule body gives is what a network has. -/
def ScheduleIs (body : ScheduleBody) (enabled : Option Bool) (start stop : Option String) : Prop :=
  AlreadyIs body.enabled enabled ∧ AlreadyIs body.start start ∧ AlreadyIs body.stop stop

/-- Everything that an operation would set is set, or it is refused. -/
def NothingToChange (cfg : StoredConfig) : ConfigOp → Prop
  | .applySchedules nowMins =>
    (∀ c ∈ cfg.clusters, OnSchedule (resolveClusterSchedule cfg c) nowMins c.isConnected) ∧
      ∀ s ∈ cfg.swarms, OnSchedule (resolveSwarmSchedule cfg s) nowMins s.isConnected
  | .disconnectAll =>
    (∀ c ∈ cfg.clusters, c.connected = some false) ∧ ∀ s ∈ cfg.swarms, s.connected = some false
  | .connectAll =>
    (∀ c ∈ cfg.clusters, c.connected = some true) ∧ ∀ s ∈ cfg.swarms, s.connected = some true
  | .setPauseAll paused =>
    (∀ c ∈ cfg.clusters, c.acceptingJobs = some !paused) ∧ ∀ s ∈ cfg.swarms, s.acceptingJobs = some !paused
  | .registerCluster clusterName reply =>
    AlreadyEntered cfg reply ∧ ∀ resp, reply = .ok resp → cfg.cluster = some clusterName
  | .postClusterCreate body reply =>
    cfg.peerId ≠ none → (body.visibility.getD "private").toLower ≠ "public" → AlreadyEntered cfg reply
  | .postClusterJoin body reply =>
    isGiven body.clusterId = true ∨ isGiven body.name = true → AlreadyEntered cfg reply
  | .postClusterDisconnect clusterId => ClusterIs cfg clusterId (·.connected = some false)
  | .postClusterConnect clusterId => ClusterIs cfg clusterId (·.connected = some true)
  | .postClusterMaintenance clusterId enabled => ClusterIs cfg clusterId (·.acceptingJobs = some !enabled)
  | .putClusterSchedule clusterId body =>
    ClusterIs cfg clusterId fun c => ScheduleIs body c.scheduleEnabled c.scheduleStart c.scheduleEnd
  | .deleteCluster clusterId =>
    (∀ c ∈ cfg.clusters, c.clusterId ≠ clusterId) ∧ (cfg.clusters = [] → cfg.cluster = none)
  | .postSwarmCreate body fresh freshToken bootnodes =>
    AlreadyJoined cfg fresh fun s => AlreadyIs body.name s.name ∧
      (body.p2pToken.getD freshToken ≠ "" → s.p2pToken = body.p2pToken.getD freshToken) ∧
      (bootnodes ≠ [] → s.bootnodes = bootnodes)
  | .postSwarmJoin body _ _ =>
    trim body.p2pToken ≠ "" → ∃ existing, cfg.swarms.find? (·.p2pToken = trim body.p2pToken) = some existing ∧
      AlreadyJoined cfg existing.swarmId fun s => AlreadyIs body.name s.name ∧ s.connected = some true ∧
        (body.bootnodes ≠ [] → s.bootnodes = body.bootnodes)
  | .postSwarmDisconnect swarmId => SwarmIs cfg swarmId (·.connected = some false)
  | .postSwarmConnect swarmId => SwarmIs cfg swarmId (·.connected = some true)
  | .postSwarmMaintenance swarmId enabled => SwarmIs cfg swarmId (·.acceptingJobs = some !enabled)
  | .putSwarmSchedule swarmId body =>
    SwarmIs cfg swarmId fun s => ScheduleIs body s.scheduleEnabled s.scheduleStart s.scheduleEnd
  | .deleteSwarm swarmId => ∀ s ∈ cfg.swarms, s.swarmId ≠ swarmId
  | .putSettings body => SettingsAre body cfg.settings

/-! ## What each operation changes -/

section Saves

variable {cfg : StoredConfig} {op : ConfigOp} {α : Type}

private theorem or_eq_self {given current : Option α} : given.or current = current ↔ AlreadyIs given current := by
  cases given with
  | none => simp [AlreadyIs]
  | some value => simp [AlreadyIs, eq_comm]

private theorem getD_eq_self {given : Option α} {current : α} :
    given.getD current = current ↔ AlreadyIs given (some current) := by
  cases given with
  | none => simp [AlreadyIs]
  | some value => simp [AlreadyIs, eq_comm]

private theorem ite_eq_self {missing : Prop} [Decidable missing] {given current : α} :
    (if missing then current else given) = current ↔ (¬ missing → current = given) := by
  split
  · rename_i holds
    simp [holds]
  · rename_i lacks
    simp [lacks, eq_comm]

private theorem map_eq_self {change : α → α} {items : List α} :
    items.map change = items ↔ ∀ item ∈ items, change item = item := by
  induction items with
  | nil => simp
  | cons item rest ih => rw [List.map_cons, List.cons.injEq, ih, List.forall_mem_cons]

/-- What a draft makes of the configuration is what it was. -/
def Draft.Keeps (cfg : StoredConfig) (d : Draft) : Prop := ∀ cfg', d = .changed cfg' → cfg' = cfg

private theorem keeps_refused {status : Nat} {message : String} : (Draft.refused status message).Keeps cfg := by
  intro cfg' changed
  cases changed

private theorem keeps_changed {cfg' : StoredConfig} : (Draft.changed cfg').Keeps cfg ↔ cfg' = cfg := by
  constructor
  · intro keeps
    exact keeps cfg' rfl
  · rintro same _ ⟨⟩
    exact same

/-- Memory is as it was after a failed save just where the draft made nothing new. -/
private theorem runOp_failed :
    ((runOp false op cfg).2 = .saveFailed → (runOp false op cfg).1 = cfg) ↔ (draft cfg op).Keeps cfg := by
  unfold runOp
  cases drafted : draft cfg op with
  | refused status message => simp [keeps_refused]
  | idle => simp [Draft.Keeps]
  | changed cfg' => simp [keeps_changed]

private theorem modifyCluster_eq_changeFirst (clusterId : String)
    (change : StoredMembership → StoredMembership) (clusters : List StoredMembership) :
    modifyCluster clusterId change clusters = changeFirst (·.clusterId) clusterId change clusters := by
  induction clusters with
  | nil => rfl
  | cons c rest ih =>
    unfold modifyCluster changeFirst
    rw [ih]

private theorem modifyCluster_eq_self {clusterId : String} {change : StoredMembership → StoredMembership}
    {clusters : List StoredMembership} :
    modifyCluster clusterId change clusters = clusters ↔
      ∀ c, findStored clusters clusterId = some c → change c = c := by
  rw [modifyCluster_eq_changeFirst]
  exact changeFirst_eq_self

private theorem changeCluster_keeps {clusterId : String} {edit : MembershipEdit} :
    (changeCluster clusterId edit cfg).Keeps cfg ↔ ClusterIs cfg clusterId fun c => edit.apply c = c := by
  unfold changeCluster
  split
  · rw [keeps_changed]
    refine Iff.trans ?_ modifyCluster_eq_self
    constructor
    · intro same
      exact congrArg StoredConfig.clusters same
    · intro same
      rw [same]
  · rename_i missing
    refine iff_of_true keeps_refused fun c found => ?_
    simp [found] at missing

private theorem changeSwarm_keeps {swarmId : String} {change : StoredSwarm → StoredSwarm} :
    (changeSwarm swarmId change cfg).Keeps cfg ↔ SwarmIs cfg swarmId fun s => change s = s := by
  unfold changeSwarm
  split
  · rw [keeps_changed]
    refine Iff.trans ?_ changeFirst_eq_self
    constructor
    · intro same
      exact congrArg StoredConfig.swarms same
    · intro same
      rw [same]
  · rename_i missing
    refine iff_of_true keeps_refused fun s found => (missing ?_).elim
    have named := @List.find?_some _ (fun s : StoredSwarm => decide (s.swarmId = swarmId)) _ _ found
    exact List.any_eq_true.mpr ⟨s, List.mem_of_find?_eq_some found, named⟩

private theorem cluster_connected_eq_self {c : StoredMembership} {connected : Bool} :
    { c with connected := some connected } = c ↔ c.connected = some connected := by
  constructor
  · intro same
    rw [← same]
  · intro same
    rw [← same]

private theorem cluster_acceptingJobs_eq_self {c : StoredMembership} {accepting : Bool} :
    { c with acceptingJobs := some accepting } = c ↔ c.acceptingJobs = some accepting := by
  constructor
  · intro same
    rw [← same]
  · intro same
    rw [← same]

private theorem swarm_connected_eq_self {s : StoredSwarm} {connected : Bool} :
    { s with connected := some connected } = s ↔ s.connected = some connected := by
  constructor
  · intro same
    rw [← same]
  · intro same
    rw [← same]

private theorem swarm_acceptingJobs_eq_self {s : StoredSwarm} {accepting : Bool} :
    { s with acceptingJobs := some accepting } = s ↔ s.acceptingJobs = some accepting := by
  constructor
  · intro same
    rw [← same]
  · intro same
    rw [← same]

private theorem cluster_schedule_eq_self {c : StoredMembership} {body : ScheduleBody} :
    (MembershipEdit.schedule body.enabled body.start body.stop).apply c = c ↔
      ScheduleIs body c.scheduleEnabled c.scheduleStart c.scheduleEnd := by
  rw [ScheduleIs, ← or_eq_self, ← or_eq_self, ← or_eq_self, MembershipEdit.apply]
  constructor
  · intro same
    exact ⟨congrArg (·.scheduleEnabled) same, congrArg (·.scheduleStart) same, congrArg (·.scheduleEnd) same⟩
  · rintro ⟨enabled, start, stop⟩
    rw [enabled, start, stop]

private theorem swarm_schedule_eq_self {s : StoredSwarm} {body : ScheduleBody} :
    changeSwarmSchedule body s = s ↔ ScheduleIs body s.scheduleEnabled s.scheduleStart s.scheduleEnd := by
  rw [ScheduleIs, ← or_eq_self, ← or_eq_self, ← or_eq_self, changeSwarmSchedule]
  constructor
  · intro same
    exact ⟨congrArg (·.scheduleEnabled) same, congrArg (·.scheduleStart) same, congrArg (·.scheduleEnd) same⟩
  · rintro ⟨enabled, start, stop⟩
    rw [enabled, start, stop]

private theorem refreshNames_eq_self {c cluster : StoredMembership} :
    refreshNames cluster c = c ↔ AlreadyIs cluster.name c.name ∧ AlreadyIs cluster.visibility c.visibility := by
  rw [← or_eq_self, ← or_eq_self, refreshNames]
  constructor
  · intro same
    exact ⟨congrArg (·.name) same, congrArg (·.visibility) same⟩
  · rintro ⟨name, visibility⟩
    rw [name, visibility]

private theorem refreshSwarm_eq_self {s swarm : StoredSwarm} :
    refreshSwarm swarm s = s ↔ AlreadyIs swarm.name s.name ∧
      (swarm.p2pToken ≠ "" → s.p2pToken = swarm.p2pToken) ∧
      (swarm.bootnodes ≠ [] → s.bootnodes = swarm.bootnodes) := by
  rw [← or_eq_self, ← ite_eq_self, ← ite_eq_self, refreshSwarm]
  constructor
  · intro same
    exact ⟨congrArg (·.name) same, congrArg (·.p2pToken) same, congrArg (·.bootnodes) same⟩
  · rintro ⟨name, token, nodes⟩
    rw [name, token, nodes]

private theorem rejoinSwarm_eq_self {s : StoredSwarm} {body : JoinSwarmBody} :
    rejoinSwarm body s = s ↔ AlreadyIs body.name s.name ∧ s.connected = some true ∧
      (body.bootnodes ≠ [] → s.bootnodes = body.bootnodes) := by
  rw [← or_eq_self, ← ite_eq_self, rejoinSwarm]
  constructor
  · intro same
    exact ⟨congrArg (·.name) same, (congrArg (·.connected) same).symm, congrArg (·.bootnodes) same⟩
  · rintro ⟨name, connected, nodes⟩
    rw [name, ← connected, nodes]

/-- An entry that is added is new; only one that is refreshed may be as it was. -/
private theorem upsertCluster_eq_self {clusters : List StoredMembership} {cluster : StoredMembership} :
    upsertCluster clusters cluster = clusters ↔
      ∃ c, findStored clusters cluster.clusterId = some c ∧ AlreadyIs cluster.name c.name ∧
        AlreadyIs cluster.visibility c.visibility := by
  unfold upsertCluster
  cases found : findStored clusters cluster.clusterId with
  | none => simp
  | some c => simp [modifyCluster_eq_self, found, refreshNames_eq_self]

private theorem upsertSwarm_eq_self {swarms : List StoredSwarm} {swarm : StoredSwarm} :
    upsertSwarm swarms swarm = swarms ↔
      ∃ s, swarms.find? (·.swarmId = swarm.swarmId) = some s ∧ refreshSwarm swarm s = s := by
  unfold upsertSwarm
  split
  · rename_i listed
    obtain ⟨s, found⟩ := Option.isSome_iff_exists.mp (List.find?_isSome.mpr (List.any_eq_true.mp listed))
    rw [changeFirst_eq_self, found]
    simp
  · rename_i missing
    refine iff_of_false (by simp) ?_
    rintro ⟨s, found, _⟩
    have named := @List.find?_some _ (fun s : StoredSwarm => decide (s.swarmId = swarm.swarmId)) _ _ found
    exact missing (List.any_eq_true.mpr ⟨s, List.mem_of_find?_eq_some found, named⟩)

/-- With a swarm there, the transport is turned on where it was off. -/
private theorem ensureP2pMode_eq_self {swarms : List StoredSwarm} (some_ : swarms ≠ []) :
    ensureP2pModeForSwarms { cfg with swarms } = cfg ↔ swarms = cfg.swarms ∧ cfg.p2pMode ≠ .cluster := by
  unfold ensureP2pModeForSwarms
  by_cases off : cfg.p2pMode = .cluster
  · rw [if_pos ⟨some_, off⟩]
    refine iff_of_false (fun same => ?_) fun kept => kept.2 off
    have mode : (if cfg.clusters = [] then NetworkMode.swarm else .both) = cfg.p2pMode :=
      congrArg StoredConfig.p2pMode same
    rw [off] at mode
    split at mode
    · cases mode
    · cases mode
  · rw [if_neg fun both => off both.2]
    refine ⟨fun same => ⟨congrArg StoredConfig.swarms same, off⟩, fun kept => ?_⟩
    rw [kept.1]

/-- A change of every network changes nothing where it changes none of them. -/
private theorem map_networks_eq_self {ofCluster : StoredMembership → StoredMembership}
    {ofSwarm : StoredSwarm → StoredSwarm} :
    { cfg with clusters := cfg.clusters.map ofCluster, swarms := cfg.swarms.map ofSwarm } = cfg ↔
      (∀ c ∈ cfg.clusters, ofCluster c = c) ∧ ∀ s ∈ cfg.swarms, ofSwarm s = s := by
  rw [← map_eq_self, ← map_eq_self]
  constructor
  · intro same
    exact ⟨congrArg StoredConfig.clusters same, congrArg StoredConfig.swarms same⟩
  · rintro ⟨clusters, swarms⟩
    rw [clusters, swarms]

private theorem setConnectedAll_eq_self {connected : Bool} :
    setConnectedAll connected cfg = cfg ↔
      (∀ c ∈ cfg.clusters, c.connected = some connected) ∧ ∀ s ∈ cfg.swarms, s.connected = some connected := by
  refine map_networks_eq_self.trans (and_congr ?_ ?_)
  · exact forall₂_congr fun c _ => cluster_connected_eq_self
  · exact forall₂_congr fun s _ => swarm_connected_eq_self

private theorem setPauseAll_eq_self {paused : Bool} :
    setPauseAll paused cfg = cfg ↔
      (∀ c ∈ cfg.clusters, c.acceptingJobs = some !paused) ∧
        ∀ s ∈ cfg.swarms, s.acceptingJobs = some !paused := by
  refine map_networks_eq_self.trans (and_congr ?_ ?_)
  · exact forall₂_congr fun c _ => cluster_acceptingJobs_eq_self
  · exact forall₂_congr fun s _ => swarm_acceptingJobs_eq_self

private theorem putSettings_eq_self {body : SettingsUpdateBody} {settings : StoredSettings} :
    putSettings body settings = settings ↔ SettingsAre body settings := by
  constructor
  · intro same
    constructor
    · exact getD_eq_self.mp (congrArg (·.autoApproveRunModelRequest) same)
    · exact getD_eq_self.mp (congrArg (·.autoApproveInferenceConnections) same)
    · exact getD_eq_self.mp (congrArg (·.allowUnattestedPeers) same)
    · exact getD_eq_self.mp (congrArg (·.ollamaTlsInsecure) same)
    · exact getD_eq_self.mp (congrArg (·.defaultNumPredict) same)
    · exact getD_eq_self.mp (congrArg (·.defaultNumCtx) same)
    · exact or_eq_self.mp (congrArg (·.defaultScheduleEnabled) same)
    · exact or_eq_self.mp (congrArg (·.defaultScheduleStart) same)
    · exact or_eq_self.mp (congrArg (·.defaultScheduleEnd) same)
    · exact or_eq_self.mp (congrArg (·.gpuThermalGuardEnabled) same)
    · exact or_eq_self.mp (congrArg (·.gpuThermalThresholdC) same)
    · exact or_eq_self.mp (congrArg (·.gpuThermalDurationSecs) same)
    · exact or_eq_self.mp (congrArg (·.gpuThermalCooldownC) same)
    · exact or_eq_self.mp (congrArg (·.gpuThermalAutoResume) same)
  · intro same
    unfold putSettings
    rw [getD_eq_self.mpr same.autoApproveRunModelRequest, getD_eq_self.mpr same.autoApproveInferenceConnections,
      getD_eq_self.mpr same.allowUnattestedPeers, getD_eq_self.mpr same.ollamaTlsInsecure,
      getD_eq_self.mpr same.defaultNumPredict, getD_eq_self.mpr same.defaultNumCtx,
      or_eq_self.mpr same.defaultScheduleEnabled, or_eq_self.mpr same.defaultScheduleStart,
      or_eq_self.mpr same.defaultScheduleEnd, or_eq_self.mpr same.gpuThermalGuardEnabled,
      or_eq_self.mpr same.gpuThermalThresholdC, or_eq_self.mpr same.gpuThermalDurationSecs,
      or_eq_self.mpr same.gpuThermalCooldownC, or_eq_self.mpr same.gpuThermalAutoResume]

/-- A schedule changes a network just where it is not connected as the schedule asks. -/
private theorem scheduledChange_none {schedule : ResolvedSchedule} {nowMins : Nat} {connected : Bool} :
    (scheduledChange schedule nowMins connected).isSome = false ↔ OnSchedule schedule nowMins connected := by
  unfold scheduledChange OnSchedule
  split
  · rename_i differs
    exact iff_of_false (by simp) fun on => differs.2 (on differs.1)
  · rename_i same
    refine iff_of_true rfl fun enabled => ?_
    by_contra differs
    exact same ⟨enabled, differs⟩

/-- A change that a schedule makes is to a connection that the network does not have. -/
private theorem scheduledChange_differs {schedule : ResolvedSchedule} {nowMins : Nat} {connected wanted : Bool}
    (changes : scheduledChange schedule nowMins connected = some wanted) : connected ≠ wanted := by
  unfold scheduledChange at changes
  split at changes
  · rename_i differs
    cases changes
    exact differs.2
  · cases changes

private theorem applySchedules_idle {nowMins : Nat} :
    (applySchedules nowMins cfg).2 = false ↔ NothingToChange cfg (.applySchedules nowMins) := by
  simp only [applySchedules, Bool.or_eq_false_iff, List.any_eq_false, Bool.not_eq_true, clusterUpdate,
    swarmUpdate, scheduledChange_none, NothingToChange]

/-- Where the schedules change anything, the configuration becomes another one. -/
private theorem applySchedules_differs {nowMins : Nat} (changed : (applySchedules nowMins cfg).2 = true) :
    (applySchedules nowMins cfg).1 ≠ cfg := by
  intro same
  obtain ⟨clusters, swarms⟩ := map_networks_eq_self.mp same
  rcases Bool.or_eq_true_iff.mp changed with changed | changed
  · obtain ⟨c, member, changes⟩ := List.any_eq_true.mp changed
    obtain ⟨wanted, update⟩ := Option.isSome_iff_exists.mp changes
    have kept := clusters c member
    rw [update, Option.some_or] at kept
    refine scheduledChange_differs update ?_
    rw [StoredMembership.isConnected, clusterIsConnected, cluster_connected_eq_self.mp kept, Option.getD_some]
  · obtain ⟨s, member, changes⟩ := List.any_eq_true.mp changed
    obtain ⟨wanted, update⟩ := Option.isSome_iff_exists.mp changes
    have kept := swarms s member
    rw [update, Option.some_or] at kept
    refine scheduledChange_differs update ?_
    rw [StoredSwarm.isConnected, swarmIsConnected, swarm_connected_eq_self.mp kept, Option.getD_some]

private theorem admitCluster_keeps {reply : Except String ClusterResponse} {password : Option String} :
    (admitCluster reply password cfg).Keeps cfg ↔ AlreadyEntered cfg reply := by
  cases reply with
  | error message => exact iff_of_true keeps_refused nofun
  | ok resp =>
    rw [admitCluster, keeps_changed]
    have entered := @upsertCluster_eq_self cfg.clusters (membershipFromResponse resp password)
    constructor
    · rintro same _ ⟨⟩
      exact entered.mp (congrArg StoredConfig.clusters same)
    · intro there
      rw [entered.mpr (there resp rfl)]

private theorem registerCluster_keeps {clusterName : String} {reply : Except String ClusterResponse} :
    (draft cfg (.registerCluster clusterName reply)).Keeps cfg ↔
      NothingToChange cfg (.registerCluster clusterName reply) := by
  rw [draft, NothingToChange]
  cases reply with
  | error message =>
    refine iff_of_true keeps_refused ⟨?_, ?_⟩
    · intro resp same
      cases same
    · intro resp same
      cases same
  | ok resp =>
    rw [← @admitCluster_keeps cfg (.ok resp) (some ""), admitCluster, admitCluster, keeps_changed, keeps_changed]
    constructor
    · intro same
      have clusters := congrArg StoredConfig.clusters same
      refine ⟨?_, fun _ _ => (congrArg StoredConfig.cluster same).symm⟩
      simp only at clusters
      rw [clusters]
    · rintro ⟨clusters, named⟩
      rw [← named resp rfl]
      exact clusters

private theorem changeFirst_ne_nil {change : StoredSwarm → StoredSwarm} {swarmId : String}
    {swarms : List StoredSwarm} (some_ : swarms ≠ []) : changeFirst (·.swarmId) swarmId change swarms ≠ [] := by
  cases swarms with
  | nil => exact absurd rfl some_
  | cons s rest =>
    unfold changeFirst
    split
    · simp
    · simp

private theorem upsertSwarm_ne_nil {swarms : List StoredSwarm} {swarm : StoredSwarm} :
    upsertSwarm swarms swarm ≠ [] := by
  unfold upsertSwarm
  split
  · rename_i listed
    apply changeFirst_ne_nil
    rintro rfl
    simp at listed
  · simp

private theorem postSwarmCreate_keeps {body : CreateSwarmBody} {fresh freshToken : String}
    {bootnodes : List String} :
    (draft cfg (.postSwarmCreate body fresh freshToken bootnodes)).Keeps cfg ↔
      NothingToChange cfg (.postSwarmCreate body fresh freshToken bootnodes) := by
  rw [draft, keeps_changed, ensureP2pMode_eq_self upsertSwarm_ne_nil, upsertSwarm_eq_self]
  simp only [refreshSwarm_eq_self, createSwarmMembership, NothingToChange, AlreadyJoined]
  exact Iff.rfl

private theorem postSwarmJoin_keeps {body : JoinSwarmBody} {fresh : String} {bootnodes : List String} :
    (draft cfg (.postSwarmJoin body fresh bootnodes)).Keeps cfg ↔
      NothingToChange cfg (.postSwarmJoin body fresh bootnodes) := by
  simp only [draft, NothingToChange]
  split
  · rename_i empty
    exact iff_of_true keeps_refused fun given => absurd empty given
  · rename_i given
    rw [forall_prop_of_true given]
    split
    · rename_i existing found
      have listed : cfg.swarms ≠ [] := List.ne_nil_of_mem (List.mem_of_find?_eq_some found)
      obtain ⟨s, first⟩ : ∃ s, cfg.swarms.find? (·.swarmId = existing.swarmId) = some s :=
        Option.isSome_iff_exists.mp
          (List.find?_isSome.mpr ⟨existing, List.mem_of_find?_eq_some found, decide_eq_true rfl⟩)
      rw [keeps_changed, ensureP2pMode_eq_self (changeFirst_ne_nil listed), changeFirst_eq_self]
      simp only [rejoinSwarm_eq_self, AlreadyJoined, found, first, Option.some.injEq, forall_eq',
        exists_eq_left']
    · rename_i missing
      -- an entry that a fresh membership would be merged into has another token
      rw [keeps_changed, ensureP2pMode_eq_self upsertSwarm_ne_nil, upsertSwarm_eq_self]
      refine iff_of_false ?_ (by simp [missing])
      rintro ⟨⟨s, found, same⟩, _⟩
      have token := (refreshSwarm_eq_self.mp same).2.1 given
      have apart := List.find?_eq_none.mp missing s (List.mem_of_find?_eq_some found)
      exact apart (decide_eq_true token)

private theorem deleteCluster_keeps {clusterId : String} :
    (draft cfg (.deleteCluster clusterId)).Keeps cfg ↔ NothingToChange cfg (.deleteCluster clusterId) := by
  have kept : removeCluster cfg.clusters clusterId = cfg.clusters ↔
      ∀ c ∈ cfg.clusters, c.clusterId ≠ clusterId := by
    simp [removeCluster, List.filter_eq_self]
  rw [draft, keeps_changed, NothingToChange, ← kept]
  constructor
  · intro same
    have clusters : removeCluster cfg.clusters clusterId = cfg.clusters := congrArg StoredConfig.clusters same
    have cluster : (if removeCluster cfg.clusters clusterId = [] then none else cfg.cluster) = cfg.cluster :=
      congrArg StoredConfig.cluster same
    refine ⟨clusters, fun empty => ?_⟩
    rw [← cluster, if_pos (clusters.trans empty)]
  · rintro ⟨clusters, cluster⟩
    simp only [clusters]
    split
    · rename_i empty
      rw [← cluster empty]
    · rfl

private theorem deleteSwarm_keeps {swarmId : String} :
    (draft cfg (.deleteSwarm swarmId)).Keeps cfg ↔ NothingToChange cfg (.deleteSwarm swarmId) := by
  have kept : removeSwarm cfg.swarms swarmId = cfg.swarms ↔ ∀ s ∈ cfg.swarms, s.swarmId ≠ swarmId := by
    simp [removeSwarm, List.filter_eq_self]
  rw [draft, keeps_changed, NothingToChange, ← kept]
  constructor
  · intro same
    exact congrArg StoredConfig.swarms same
  · intro same
    rw [same]

/-- The keeping of the configuration, operation by operation. -/
private theorem draft_keeps : (draft cfg op).Keeps cfg ↔ NothingToChange cfg op := by
  cases op with
  | applySchedules nowMins =>
    rw [← applySchedules_idle, draft]
    split
    · rename_i changed
      rw [keeps_changed, changed]
      exact iff_of_false (applySchedules_differs changed) (by simp)
    · rename_i unchanged
      exact iff_of_true (by simp [Draft.Keeps]) (by simpa using unchanged)
  | disconnectAll =>
    rw [draft, keeps_changed]
    exact setConnectedAll_eq_self
  | connectAll =>
    rw [draft, keeps_changed]
    exact setConnectedAll_eq_self
  | setPauseAll paused =>
    rw [draft, keeps_changed]
    exact setPauseAll_eq_self
  | registerCluster clusterName reply => exact registerCluster_keeps
  | postClusterCreate body reply =>
    rw [draft, NothingToChange]
    split
    · rename_i unregistered
      exact iff_of_true keeps_refused fun registered => absurd unregistered registered
    · rename_i registered
      split
      · rename_i forbidden
        exact iff_of_true keeps_refused fun _ allowed => absurd forbidden allowed
      · rename_i allowed
        rw [admitCluster_keeps]
        exact ⟨fun there _ _ => there, fun there => there registered allowed⟩
  | postClusterJoin body reply =>
    rw [draft, NothingToChange, ← Bool.or_eq_true]
    split
    · rename_i given
      rw [admitCluster_keeps]
      exact ⟨fun there _ => there, fun there => there given⟩
    · rename_i missing
      exact iff_of_true keeps_refused fun given => absurd given missing
  | postClusterDisconnect clusterId =>
    exact changeCluster_keeps.trans (forall₂_congr fun c _ => cluster_connected_eq_self)
  | postClusterConnect clusterId =>
    exact changeCluster_keeps.trans (forall₂_congr fun c _ => cluster_connected_eq_self)
  | postClusterMaintenance clusterId enabled =>
    exact changeCluster_keeps.trans (forall₂_congr fun c _ => cluster_acceptingJobs_eq_self)
  | putClusterSchedule clusterId body =>
    exact changeCluster_keeps.trans (forall₂_congr fun c _ => cluster_schedule_eq_self)
  | deleteCluster clusterId => exact deleteCluster_keeps
  | postSwarmCreate body fresh freshToken bootnodes => exact postSwarmCreate_keeps
  | postSwarmJoin body fresh bootnodes => exact postSwarmJoin_keeps
  | postSwarmDisconnect swarmId =>
    exact changeSwarm_keeps.trans (forall₂_congr fun s _ => swarm_connected_eq_self)
  | postSwarmConnect swarmId =>
    exact changeSwarm_keeps.trans (forall₂_congr fun s _ => swarm_connected_eq_self)
  | postSwarmMaintenance swarmId enabled =>
    exact changeSwarm_keeps.trans (forall₂_congr fun s _ => swarm_acceptingJobs_eq_self)
  | putSwarmSchedule swarmId body =>
    exact changeSwarm_keeps.trans (forall₂_congr fun s _ => swarm_schedule_eq_self)
  | deleteSwarm swarmId => exact deleteSwarm_keeps
  | putSettings body =>
    rw [draft, keeps_changed, NothingToChange, ← putSettings_eq_self]
    constructor
    · intro same
      exact congrArg StoredConfig.settings same
    · intro same
      rw [same]

end Saves

/-- After a save that failed, the configuration in memory is the one from before just where the
operation had nothing to change. -/
theorem failed_save_keeps_iff (op : ConfigOp) (cfg : StoredConfig) :
    ((runOp false op cfg).2 = .saveFailed → (runOp false op cfg).1 = cfg) ↔ NothingToChange cfg op :=
  runOp_failed.trans draft_keeps

private def blankSettings : StoredSettings :=
  putSettings ⟨none, none, none, none, none, none, none, none, none, none, none, none, none, none⟩
    ⟨false, false, false, false, none, none, none, none, none, none, none, none, none, none⟩

private def oneCluster : StoredConfig where
  peerId := some "p1"
  clusters := [membershipFromResponse ⟨"c1", none, none, none, none⟩ none]
  swarms := []
  p2pMode := .cluster
  cluster := none
  settings := blankSettings

/-- All networks are to be disconnected, and the file cannot be written. -/
theorem failed_disconnect_disconnects :
    (runOp false .disconnectAll oneCluster).2 = .saveFailed ∧
      (runOp false .disconnectAll oneCluster).1 ≠ oneCluster := by
  decide

/-! ## Memory and file -/

/-- The configuration in memory, and the one that was last written. -/
structure ConfigStore where
  memory : StoredConfig
  file : StoredConfig

/-- The operations one after another; the event says whether the file can be written. -/
def configMachine : Machine ConfigStore (ConfigOp × Bool) Unit where
  step s e :=
    let (memory, result) := runOp e.2 e.1 s.memory
    (⟨memory, if result = .saved then memory else s.file⟩, [])

private theorem runOp_unsaved {cfg : StoredConfig} {op : ConfigOp} {saves : Bool}
    (unchanged : saves = false → NothingToChange cfg op) (unsaved : (runOp saves op cfg).2 ≠ .saved) :
    (runOp saves op cfg).1 = cfg := by
  have keeps := fun failed => draft_keeps.mpr (unchanged failed)
  revert unsaved
  unfold runOp
  cases drafted : draft cfg op with
  | refused status message => exact fun _ => rfl
  | idle => exact fun _ => rfl
  | changed cfg' =>
    cases saves with
    | true => exact fun unsaved => absurd rfl unsaved
    | false => exact fun _ => keeps rfl cfg' drafted

private theorem configStep_memory_eq_file {s : ConfigStore} {e : ConfigOp × Bool} (same : s.memory = s.file)
    (unchanged : e.2 = false → NothingToChange s.memory e.1) :
    (configMachine.step s e).1.memory = (configMachine.step s e).1.file := by
  simp only [configMachine]
  split
  · rfl
  · rename_i unsaved
    rw [runOp_unsaved unchanged unsaved, same]

/-- Memory and file agree after every run whose failed saves had nothing to write. -/
theorem memory_eq_file {start s : ConfigStore} {past : List (Record ConfigStore (ConfigOp × Bool) Unit)}
    (ran : configMachine.Reaches start past s) (same : start.memory = start.file)
    (unchanged : ∀ r ∈ past, r.event.2 = false → NothingToChange r.before.memory r.event.1) :
    s.memory = s.file :=
  ran.invariant (fun _ s => s.memory = s.file)
    (fun r => r.event.2 = false → NothingToChange r.before.memory r.event.1) same
    (fun _ _ _ same unchanged => configStep_memory_eq_file same unchanged) unchanged

end MtrxPeer
