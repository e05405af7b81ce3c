import Mathlib.Logic.Function.Basic
import MtrxPeer.NodeSetup
import MtrxPeer.NodeTasks
import MtrxPeer.TaskPools

/-! The life of a node: handlers and monitors change its configuration, tell the runtime what has
changed and notify the managers, which are started once the setup is complete. The channels
between them are bounded, and nobody receives a manager's notifications before it is started. -/
namespace MtrxPeer

open Function (update update_of_ne update_self)

/-! ## The managers -/

def NetworkMode.has : NetworkMode → NetworkScope → Bool
  | .both, _ => true
  | .cluster, .cluster => true
  | .swarm, .swarm => true
  | _, _ => false

/-- The configuration asks for the manager of the clusters, or of the swarms. -/
def NodeConfig.runs (cfg : NodeConfig) (scope : NetworkScope) : Bool :=
  cfg.networks.peerId.any (· ≠ "") && cfg.setupComplete && cfg.networks.p2pMode.has scope

/-- The slot of a manager, the receivers that are kept for it, and the ids of the peer under
which managers were started. -/
structure ManagerPlace where
  handle : Bool
  receivers : List Bool
  started : List String

/-- All receivers, if all are there: when one is missing, those that were taken are put back. -/
def takeReceivers : List Bool → Option (List Bool)
  | [] => some []
  | true :: rest => (takeReceivers rest).map (false :: ·)
  | false :: _ => none

/-- `spawn_cluster_manager` and `spawn_swarm_manager`. -/
def ManagerPlace.spawn (place : ManagerPlace) (cfg : NodeConfig) (scope : NetworkScope) : ManagerPlace :=
  if place.handle then place
  else if !cfg.runs scope then place
  else
    match takeReceivers place.receivers with
    | none => place
    | some receivers => ⟨true, receivers, place.started ++ [cfg.networks.peerId.getD ""]⟩

/-- The manager of the clusters has the receiver for connections besides those that both have. -/
def ManagerPlace.empty : NetworkScope → ManagerPlace
  | .cluster => ⟨false, [true, true, true, true, true], []⟩
  | .swarm => ⟨false, [true, true, true, true], []⟩

/-! ## The tasks -/

inductive RuntimeEvent where
  | setupComplete
  | setupInvalidated
  | swarmsChanged
  deriving DecidableEq

/-- The managers that are started on an event, if the configuration asks for them. -/
def RuntimeEvent.starts : RuntimeEvent → NetworkScope → Bool
  | .setupComplete, _ => true
  | .swarmsChanged, .swarm => true
  | _, _ => false

/-- What a task has still to do. -/
inductive NodeAction where
  /-- A change of networks or settings, which is saved. -/
  | change (op : ConfigOp)
  | select (newId : String) (entry : ConfigServer)
  | attach (id : String)
  /-- Any other change of the servers, unless it is refused. -/
  | edit (change : List ConfigServer → Option (List ConfigServer))
  | register (reg : RegisterPeerResponse)
  | syncDeviceKey (reg : RegisterPeerResponse)
  /-- The end of a registration. -/
  | complete
  | checkComplete
  | notify (scope : NetworkScope)
  | tell (event : RuntimeEvent)
  | start (scope : NetworkScope)

def notifyBoth : List NodeAction := [.notify .cluster, .notify .swarm]

/-- What a handler does once its change is saved. -/
def ConfigOp.announcements : ConfigOp → List NodeAction
  | .applySchedules _ | .disconnectAll | .connectAll | .setPauseAll _ => notifyBoth
  | .registerCluster .. | .postClusterCreate .. | .postClusterJoin .. | .postClusterDisconnect _
  | .postClusterConnect _ | .postClusterMaintenance .. | .putClusterSchedule .. | .deleteCluster _ =>
    [.notify .cluster]
  | .postSwarmCreate .. | .postSwarmJoin .. | .postSwarmDisconnect _ | .postSwarmConnect _
  | .postSwarmMaintenance .. | .putSwarmSchedule .. | .deleteSwarm _ =>
    [.notify .swarm, .tell .swarmsChanged]
  | .putSettings _ => []

def RuntimeEvent.actions : RuntimeEvent → List NodeAction
  | .setupComplete => [.start .cluster, .start .swarm]
  | .setupInvalidated => []
  | .swarmsChanged => [.start .swarm]

/-- What a task does whenever it has nothing else to do. -/
inductive NodeDuty where
  | handler
  /-- The task that handles runtime events. -/
  | runtime
  | manager (scope : NetworkScope)
  /-- The end of `run`, which takes the handle of the manager of the clusters. -/
  | waiter
  | modelMonitor
  | scheduler
  | gpuMonitor

structure NodeTask where
  duty : NodeDuty
  actions : List NodeAction

/-- A request, or a monitor of the GPU, which is started with a complete setup. -/
inductive NodeStart where
  | network (op : ConfigOp)
  | select (newId : String) (entry : ConfigServer)
  | attach (id : String)
  | edit (change : List ConfigServer → Option (List ConfigServer))
  | register (reg : RegisterPeerResponse) (clusterName : String) (join : Except String ClusterResponse)
  | syncDeviceKey (reg : RegisterPeerResponse)
  | gpuMonitor

def NodeStart.begin : NodeStart → NodeTask
  | .network op => ⟨.handler, .change op :: op.announcements⟩
  -- `post_llm_select` and `post_llm_server_attach`
  | .select newId entry => ⟨.handler, [.select newId entry, .checkComplete]⟩
  | .attach id => ⟨.handler, [.attach id, .checkComplete]⟩
  | .edit change => ⟨.handler, [.edit change]⟩
  -- `finish_register`
  | .register reg clusterName join =>
    ⟨.handler, [.register reg, .change (.registerCluster clusterName join), .notify .cluster, .complete]⟩
  | .syncDeviceKey reg => ⟨.handler, [.syncDeviceKey reg]⟩
  | .gpuMonitor => ⟨.gpuMonitor, []⟩

/-! ## The steps -/

structure NodeProcess where
  cfg : NodeConfig
  file : Option NodeConfig
  /-- The flag of the proxy. -/
  setupComplete : Bool
  runtimeEvents : List RuntimeEvent
  /-- How many notifications wait for a manager. -/
  notified : NetworkScope → Nat
  managers : NetworkScope → ManagerPlace

/-- What a step finds: whether the file can be written and a server answers, and what the
monitor of the models, the clock and the thermal guard say. -/
structure NodeChoice where
  saves : Bool
  answers : Bool
  modelsChanged : Bool
  nowMins : Nat
  pause : Option Bool

namespace NodeProcess

/-- The configuration is changed and saved; where that fails, the task ends. -/
def store (s : NodeProcess) (cfg : NodeConfig) (saves : Bool) (next : List NodeAction) :
    NodeProcess × List NodeAction :=
  if saves then ({ s with cfg, file := some cfg.persisted }, next) else ({ s with cfg }, [])

/-- One action of a task, and what the task has still to do then: a task that cannot send
waits. -/
def act (s : NodeProcess) (choice : NodeChoice) (rest : List NodeAction) :
    NodeAction → NodeProcess × List NodeAction
  | .change op =>
    match draft s.cfg.networks op with
    | .changed networks => s.store { s.cfg with networks } choice.saves rest
    | _ => (s, [])
  | .select newId entry =>
    let (servers, id) := findOrAddEntry s.cfg.servers newId entry
    s.store { s.cfg with servers } choice.saves (.attach id :: rest)
  | .attach id =>
    if s.cfg.servers.any (·.id = id) && choice.answers then
      let servers := (ServersState.attach ⟨s.cfg.servers, .new⟩ id true).config
      s.store ({ s.cfg with servers } : NodeConfig).recompute choice.saves rest
    else (s, [])
  | .edit change =>
    match change s.cfg.servers with
    | some servers => s.store { s.cfg with servers } choice.saves rest
    | none => (s, [])
  | .register reg => s.store (s.cfg.applyRegisterResponse reg) choice.saves rest
  | .syncDeviceKey reg =>
    if s.cfg.syncsDeviceKey then s.store (s.cfg.applyRegisterResponse reg) choice.saves rest else (s, rest)
  | .complete =>
    { s with setupComplete := s.setupComplete || choice.saves && s.cfg.ready }.store s.cfg.recompute choice.saves
      (if s.cfg.ready then .tell .setupComplete :: rest else rest)
  | .checkComplete => (s, if s.cfg.setupComplete then .tell .setupComplete :: rest else rest)
  | .notify scope =>
    if s.notified scope < (NodeChannel.notify scope).capacity then
      ({ s with notified := update s.notified scope (s.notified scope + 1) }, rest)
    else (s, .notify scope :: rest)
  | .tell event =>
    if s.runtimeEvents.length < NodeChannel.runtimeEvent.capacity then
      ({ s with runtimeEvents := s.runtimeEvents ++ [event] }, rest)
    else (s, .tell event :: rest)
  | .start scope =>
    ({ s with managers := update s.managers scope ((s.managers scope).spawn s.cfg scope) }, rest)

/-- The flag of the proxy after an event. -/
def handles (s : NodeProcess) : RuntimeEvent → NodeProcess
  | .setupComplete => { s with setupComplete := true }
  | .setupInvalidated => { s with setupComplete := false }
  | .swarmsChanged => s

/-- A round of a task that has nothing else to do. -/
def round (s : NodeProcess) (choice : NodeChoice) : NodeDuty → NodeProcess × List NodeAction
  | .handler => (s, [])
  | .runtime =>
    match s.runtimeEvents with
    | [] => (s, [])
    | event :: rest => ({ s with runtimeEvents := rest }.handles event, event.actions)
  | .manager scope =>
    if (s.managers scope).started = [] then (s, [])
    else ({ s with notified := update s.notified scope (s.notified scope - 1) }, [])
  | .waiter =>
    ({ s with managers := update s.managers .cluster { s.managers .cluster with handle := false } }, [])
  | .modelMonitor => (s, if choice.modelsChanged then notifyBoth else [])
  | .scheduler => (s, .change (.applySchedules choice.nowMins) :: notifyBoth)
  | .gpuMonitor =>
    (s, match choice.pause with
      | some paused => .change (.setPauseAll paused) :: notifyBoth
      | none => [])

/-- The rest of `run`, with the configuration it has made and the file. -/
def boot (cfg : NodeConfig) (file : Option NodeConfig) : NodeProcess where
  cfg
  file
  setupComplete := cfg.setupComplete
  runtimeEvents := []
  notified _ := 0
  managers scope := (ManagerPlace.empty scope).spawn cfg scope

end NodeProcess

def nodeRun (s : NodeProcess) (task : NodeTask) (choice : NodeChoice) : NodeProcess × NodeTask :=
  let done :=
    match task.actions with
    | [] => s.round choice task.duty
    | action :: rest => s.act choice rest action
  (done.1, { task with actions := done.2 })

abbrev LifecycleEvent := PoolEvent NodeStart NodeChoice

def lifecycleMachine : Machine (Pool NodeProcess NodeTask) LifecycleEvent Unit :=
  Pool.machine NodeStart.begin nodeRun

/-- The tasks that `run` starts. -/
def nodeDuties : List NodeDuty :=
  [.runtime, .modelMonitor, .scheduler, .manager .cluster, .manager .swarm, .waiter]

def bootedNode (cfg : NodeConfig) (file : Option NodeConfig) : Pool NodeProcess NodeTask :=
  ⟨.boot cfg file, nodeDuties.map fun duty => ⟨duty, []⟩⟩

/-! ## Who a node is -/

/-- The place of a manager that was not started has all receivers; after that none is left. -/
def ManagerPlace.Right (place : ManagerPlace) : Prop :=
  (place.started = [] ∧ place.handle = false ∧ place.receivers ≠ [] ∧ (takeReceivers place.receivers).isSome) ∨
    (place.started.length = 1 ∧ takeReceivers place.receivers = none)

section Places

variable {place : ManagerPlace} {cfg : NodeConfig} {scope : NetworkScope} {receivers receivers' : List Bool}

/-- Receivers that were taken cannot be taken again. -/
theorem takeReceivers_taken (taken : takeReceivers receivers = some receivers') (some_ : receivers ≠ []) :
    takeReceivers receivers' = none := by
  cases receivers with
  | nil => exact absurd rfl some_
  | cons first rest =>
    cases first with
    | false => cases taken
    | true =>
      obtain ⟨rest', -, rfl⟩ := Option.map_eq_some_iff.mp taken
      rfl

/-- What an attempt to start a manager does. -/
theorem ManagerPlace.Right.spawn (right : place.Right) (cfg : NodeConfig) (scope : NetworkScope) :
    (place.spawn cfg scope).Right ∧ (cfg.runs scope = true → (place.spawn cfg scope).started ≠ []) ∧
      (place.started ≠ [] → (place.spawn cfg scope).started ≠ []) := by
  rw [ManagerPlace.spawn]
  rcases right with ⟨none_, free, nonempty, all⟩ | ⟨one, taken⟩
  · rw [if_neg (by simp [free])]
    split
    · rename_i idle
      refine ⟨.inl ⟨none_, free, nonempty, all⟩, fun asked => ?_, fun some_ => some_⟩
      rw [asked] at idle
      cases idle
    · obtain ⟨receivers, found⟩ := Option.isSome_iff_exists.mp all
      rw [found]
      exact ⟨.inr ⟨by simp [none_], takeReceivers_taken found nonempty⟩, fun _ => by simp, fun _ => by simp⟩
  · have some_ : place.started ≠ [] := List.ne_nil_of_length_eq_add_one one
    split
    · exact ⟨.inr ⟨one, taken⟩, fun _ => some_, fun _ => some_⟩
    · split
      · exact ⟨.inr ⟨one, taken⟩, fun _ => some_, fun _ => some_⟩
      · rw [taken]
        exact ⟨.inr ⟨one, taken⟩, fun _ => some_, fun _ => some_⟩

theorem ManagerPlace.empty_right : (ManagerPlace.empty scope).Right := by
  cases scope <;> exact .inl (by decide)

end Places

/-- The operations after which a node may want a manager of the swarms. -/
def ConfigOp.opensSwarm : ConfigOp → Bool
  | .postSwarmCreate .. | .postSwarmJoin .. => true
  | _ => false

section Drafts

variable {cfg cfg' : StoredConfig}

/-- Neither who the peer is nor its mode is changed. -/
def Draft.Leaves (cfg : StoredConfig) : Draft → Prop
  | .changed cfg' => cfg'.peerId = cfg.peerId ∧ cfg'.p2pMode = cfg.p2pMode
  | _ => True

theorem changeCluster_leaves {clusterId : String} {edit : MembershipEdit} :
    (changeCluster clusterId edit cfg).Leaves cfg := by
  rw [changeCluster]
  split
  · exact ⟨rfl, rfl⟩
  · trivial

theorem changeSwarm_leaves {swarmId : String} {change : StoredSwarm → StoredSwarm} :
    (changeSwarm swarmId change cfg).Leaves cfg := by
  rw [changeSwarm]
  split
  · exact ⟨rfl, rfl⟩
  · trivial

theorem admitCluster_leaves {reply : Except String ClusterResponse} {password : Option String}
    (same : cfg'.peerId = cfg.peerId ∧ cfg'.p2pMode = cfg.p2pMode) :
    (admitCluster reply password cfg').Leaves cfg := by
  cases reply with
  | error message => trivial
  | ok resp => exact same

theorem draft_leaves (cfg : StoredConfig) {op : ConfigOp} (stays : op.opensSwarm = false) :
    (draft cfg op).Leaves cfg := by
  cases op with
  | applySchedules nowMins =>
    rw [draft]
    split
    · exact ⟨rfl, rfl⟩
    · trivial
  | registerCluster clusterName reply => exact admitCluster_leaves ⟨rfl, rfl⟩
  | postClusterCreate body reply =>
    rw [draft]
    split
    · trivial
    · split
      · trivial
      · exact admitCluster_leaves ⟨rfl, rfl⟩
  | postClusterJoin body reply =>
    rw [draft]
    split
    · exact admitCluster_leaves ⟨rfl, rfl⟩
    · trivial
  | postClusterDisconnect => exact changeCluster_leaves
  | postClusterConnect => exact changeCluster_leaves
  | postClusterMaintenance => exact changeCluster_leaves
  | putClusterSchedule => exact changeCluster_leaves
  | postSwarmCreate => cases stays
  | postSwarmJoin => cases stays
  | postSwarmDisconnect => exact changeSwarm_leaves
  | postSwarmConnect => exact changeSwarm_leaves
  | postSwarmMaintenance => exact changeSwarm_leaves
  | putSwarmSchedule => exact changeSwarm_leaves
  | _ => exact ⟨rfl, rfl⟩

theorem ensureP2pModeForSwarms_opens (cfg : StoredConfig) (swarms : List StoredSwarm) :
    (ensureP2pModeForSwarms { cfg with swarms }).peerId = cfg.peerId ∧
      ((ensureP2pModeForSwarms { cfg with swarms }).p2pMode = cfg.p2pMode ∨ cfg.p2pMode = .cluster) := by
  rw [ensureP2pModeForSwarms]
  split
  · rename_i off
    exact ⟨rfl, .inr off.2⟩
  · exact ⟨rfl, .inl rfl⟩

/-- An operation on networks leaves alone who the peer is; and the mode, unless it opens a swarm
on a node that only had clusters. -/
theorem draft_changed {op : ConfigOp} (changed : draft cfg op = .changed cfg') :
    cfg'.peerId = cfg.peerId ∧
      (cfg'.p2pMode = cfg.p2pMode ∨ op.opensSwarm = true ∧ cfg.p2pMode = .cluster) := by
  cases opens : op.opensSwarm with
  | false =>
    have leaves := draft_leaves cfg opens
    rw [changed] at leaves
    exact ⟨leaves.1, .inl leaves.2⟩
  | true =>
    have opened : ∃ swarms, cfg' = ensureP2pModeForSwarms { cfg with swarms } := by
      cases op with
      | postSwarmCreate body fresh freshToken bootnodes => exact ⟨_, (Draft.changed.inj changed).symm⟩
      | postSwarmJoin body fresh bootnodes =>
        rw [draft] at changed
        dsimp only at changed
        split at changed
        · cases changed
        · split at changed <;> exact ⟨_, (Draft.changed.inj changed).symm⟩
      | _ => cases opens
    obtain ⟨swarms, rfl⟩ := opened
    obtain ⟨same, mode⟩ := ensureP2pModeForSwarms_opens cfg swarms
    exact ⟨same, mode.imp_right fun off => ⟨rfl, off⟩⟩

end Drafts

/-- The configuration of a node and its file are whole, and no manager is started twice. -/
structure NodeProcess.Right (s : NodeProcess) : Prop where
  whole : s.cfg.Whole
  file : ∀ cfg ∈ s.file, cfg.Whole
  places : ∀ scope, (s.managers scope).Right

namespace NodeProcess.Right

variable {s : NodeProcess} {cfg : NodeConfig} {file : Option NodeConfig} {scope : NetworkScope}
  {saves : Bool} {rest next : List NodeAction} {choice : NodeChoice}

theorem store (right : s.Right) (whole : cfg.Whole) : (s.store cfg saves next).1.Right := by
  rw [NodeProcess.store]
  split
  · refine ⟨whole, ?_, right.places⟩
    rintro _ ⟨⟩
    exact whole.persisted
  · exact ⟨whole, right.file, right.places⟩

theorem setPlace (right : s.Right) {place : ManagerPlace} (good : place.Right) :
    ({ s with managers := update s.managers scope place } : NodeProcess).Right := by
  refine ⟨right.whole, right.file, fun other => ?_⟩
  dsimp only
  by_cases same : other = scope
  · rwa [same, update_self]
  · rw [update_of_ne same]
    exact right.places other

theorem act (right : s.Right) (action : NodeAction) : (s.act choice rest action).1.Right := by
  have whole := right.whole
  cases action with
  | change op =>
    rw [NodeProcess.act]
    split
    · rename_i networks changed
      have same := (draft_changed changed).1
      refine right.store ⟨?_, ?_⟩
      · rw [same]
        exact whole.named
      · rw [NodeConfig.registered, same]
        exact whole.registered
    · exact right
  | select newId entry => exact right.store ⟨whole.named, whole.registered⟩
  | attach id =>
    rw [NodeProcess.act]
    split
    · exact right.store (.recompute whole.named)
    · exact right
  | edit change =>
    rw [NodeProcess.act]
    split
    · exact right.store ⟨whole.named, whole.registered⟩
    · exact right
  | register reg => exact right.store (.applyRegisterResponse _ reg)
  | syncDeviceKey reg =>
    rw [NodeProcess.act]
    split
    · exact right.store (.applyRegisterResponse _ reg)
    · exact right
  | complete =>
    have flagged : ({ s with setupComplete := s.setupComplete || choice.saves && s.cfg.ready } :
        NodeProcess).Right := ⟨whole, right.file, right.places⟩
    exact flagged.store (.recompute whole.named)
  | checkComplete => exact right
  | notify scope =>
    rw [NodeProcess.act]
    split
    · exact ⟨whole, right.file, right.places⟩
    · exact right
  | tell event =>
    rw [NodeProcess.act]
    split
    · exact ⟨whole, right.file, right.places⟩
    · exact right
  | start scope => exact right.setPlace ((right.places scope).spawn s.cfg scope).1

theorem round (right : s.Right) (duty : NodeDuty) : (s.round choice duty).1.Right := by
  cases duty with
  | runtime =>
    rw [NodeProcess.round]
    split
    · exact right
    · rename_i event rest _
      cases event <;> exact ⟨right.whole, right.file, right.places⟩
  | manager scope =>
    rw [NodeProcess.round]
    split
    · exact right
    · exact ⟨right.whole, right.file, right.places⟩
  | waiter =>
    refine right.setPlace ?_
    rcases right.places .cluster with ⟨none_, -, nonempty, all⟩ | ⟨one, taken⟩
    · exact .inl ⟨none_, rfl, nonempty, all⟩
    · exact .inr ⟨one, taken⟩
  | _ => exact right

theorem run (right : s.Right) (task : NodeTask) (choice : NodeChoice) : (nodeRun s task choice).1.Right := by
  rw [nodeRun]
  cases task.actions with
  | nil => exact right.round task.duty
  | cons action rest => exact right.act action

theorem boot (whole : cfg.Whole) (kept : ∀ cfg ∈ file, cfg.Whole) : (NodeProcess.boot cfg file).Right :=
  ⟨whole, kept, fun scope => (ManagerPlace.empty_right.spawn cfg scope).1⟩

end NodeProcess.Right

/-- A start of the program, and what happens until it ends, however it ends. -/
structure NodeLife where
  inputs : StartInputs
  events : List LifecycleEvent

/-- The node at the end of a life, if it started, -/
def nodeAfter (file : Option NodeConfig) (life : NodeLife) : Option (Pool NodeProcess NodeTask) :=
  (startNode file life.inputs).1.map fun cfg =>
    lifecycleMachine.after (bootedNode cfg (startNode file life.inputs).2) life.events

/-- and the file that it leaves. -/
def fileAfter (file : Option NodeConfig) (life : NodeLife) : Option NodeConfig :=
  match nodeAfter file life with
  | some pool => pool.shared.file
  | none => (startNode file life.inputs).2

/-- The older file names the peer. -/
def NodeLife.Named (life : NodeLife) : Prop := ∀ legacy ∈ life.inputs.legacy, legacy.peerId ≠ ""

theorem nodeAfter_right {file : Option NodeConfig} {life : NodeLife} (whole : ∀ cfg ∈ file, cfg.Whole)
    (named : life.Named) : ∀ pool ∈ nodeAfter file life, pool.shared.Right := by
  intro pool found
  obtain ⟨cfg, starts, rfl⟩ := Option.map_eq_some_iff.mp found
  obtain ⟨started, kept⟩ : (∀ cfg ∈ (startNode file life.inputs).1, cfg.Whole) ∧
      ∀ cfg ∈ (startNode file life.inputs).2, cfg.Whole := startNode_whole whole named
  exact Pool.invariant_after (fun pool : Pool NodeProcess NodeTask => pool.shared.Right) (fun _ _ right => right)
    (fun _ _ task _ choice right => right.run task choice) (NodeProcess.Right.boot (started cfg starts) kept)
    life.events

theorem fileAfter_whole {file : Option NodeConfig} {life : NodeLife} (whole : ∀ cfg ∈ file, cfg.Whole)
    (named : life.Named) : ∀ cfg ∈ fileAfter file life, cfg.Whole := by
  rw [fileAfter]
  split
  · rename_i pool found
    exact (nodeAfter_right whole named pool found).file
  · exact (startNode_whole whole named).2

theorem lives_whole {lives : List NodeLife} {file : Option NodeConfig} (named : ∀ life ∈ lives, life.Named)
    (whole : ∀ cfg ∈ file, cfg.Whole) : ∀ cfg ∈ lives.foldl fileAfter file, cfg.Whole := by
  induction lives generalizing file with
  | nil => exact whole
  | cons life rest ih =>
    exact ih (fun life member => named life (List.mem_cons_of_mem _ member))
      (fileAfter_whole whole (named life List.mem_cons_self))

theorem installed_whole {lives : List NodeLife} (named : ∀ life ∈ lives, life.Named) :
    ∀ cfg ∈ lives.foldl fileAfter none, cfg.Whole :=
  lives_whole named fun _ found => (by cases found)

private def rejectedLife : NodeLife where
  inputs := ⟨.intact, some ⟨"p0", "s0"⟩, .both, none, none, "m", "e", none, none, true, true⟩
  events := []

end MtrxPeer
