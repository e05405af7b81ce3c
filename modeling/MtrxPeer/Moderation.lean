import Mathlib.Data.List.InsertIdx
import MtrxPeer.Sample
import MtrxPeer.SwarmFrame

/-! Blocking, reporting and banning a peer. The node's user interface hands an
action to the manager of the clusters, which passes it on; the manager of the
swarms has a channel of its own that nothing sends to. -/
namespace MtrxPeer

open Function (update update_of_ne update_self)

/-! ## The node -/

inductive PeerModerationAction where
  | closeConnections (peerId : String)
  | report (peerId : String) (reason : Option String)
  deriving DecidableEq

def PeerModerationAction.peer : PeerModerationAction → String
  | .closeConnections peerId | .report peerId _ => peerId

/-- A cluster's task and the actions that wait for it. -/
structure ClusterTask where
  manager : Manager
  state : ClusterState
  inbox : List PeerModerationAction

/-- A swarm's task and the actions that wait for it. -/
structure SwarmTask where
  manager : SwarmManager
  state : SwarmState
  inbox : List PeerModerationAction

/-- All networks of a node, in the order in which actions are passed on. The
configuration and the block list are shared. -/
structure NodeState where
  peerId : String
  proxy : ProxyState
  clusters : List ClusterTask
  swarms : List SwarmTask
  /-- The actions sent on `peer_moderation_tx`. -/
  moderation : List PeerModerationAction
  /-- The actions sent on `swarm_moderation_tx`. -/
  swarmModeration : List PeerModerationAction

inductive NodeEvent where
  | postBlockPeer (peerId : String)
  | postReportPeer (peerId : String) (reason : Option String)
  | deleteBlockPeer (peerId : String)
  /-- The manager of the clusters takes an action. -/
  | clusterManagerModerates
  /-- The manager of the swarms takes an action. -/
  | swarmManagerModerates
  | clusterModerates (index : Nat)
  | swarmModerates (index : Nat)
  /-- A cluster keeps a session that it offered to a peer. -/
  | sessionOffered (index : Nat) (peer : String)
  /-- Anything else that happens in a cluster. -/
  | cluster (index : Nat) (e : ClusterEvent)
  | swarm (index : Nat) (e : SwarmEvent)
  | clusterStarted (index : Nat) (manager : Manager) (now : Nat)
  | clusterStopped (index : Nat)
  | swarmStarted (index : Nat) (manager : SwarmManager) (nextReqId : Nat)
  | swarmStopped (index : Nat)
  | configured (config : ClientConfig) (registry : Registry)

inductive NodeOutput where
  | cluster (clusterId : String) (o : ClusterOutput)
  | swarm (swarmId : String) (o : SwarmOutput)
  /-- `ReportPeer` to the lobby. -/
  | reportPeer (clusterId peerId : String) (reason : Option String)
  | badRequest

/-! ## The user interface -/

def postBlockPeer (s : NodeState) (peerId : String) : NodeState × List NodeOutput :=
  if peerId = s.peerId then (s, [.badRequest])
  else ({ s with
    proxy := blockPeer s.proxy peerId
    moderation := s.moderation ++ [.closeConnections peerId] }, [])

/-- A reason without the blanks around it, if anything is left. -/
def trimReason (reason : Option String) : Option String :=
  (reason.map trim).filter (· ≠ "")

def postReportPeer (s : NodeState) (peerId : String) (reason : Option String) :
    NodeState × List NodeOutput :=
  match trimReason reason with
  | none => (s, [.badRequest])
  | some reason =>
    if peerId = s.peerId then (s, [.badRequest])
    else ({ s with
      proxy := blockPeer s.proxy peerId
      moderation := s.moderation ++ [.report peerId (some reason)] }, [])

def unblockPeer (proxy : ProxyState) (peerId : String) : ProxyState :=
  { proxy with isPeerBlocked := update proxy.isPeerBlocked peerId false }

/-! ## Passing actions on -/

def ClusterTask.receive (action : PeerModerationAction) (task : ClusterTask) : ClusterTask :=
  { task with inbox := task.inbox ++ [action] }

def SwarmTask.receive (action : PeerModerationAction) (task : SwarmTask) : SwarmTask :=
  { task with inbox := task.inbox ++ [action] }

/-- `handle_peer_moderation` of both managers of managers: a closing goes to every
network, a report to the first. -/
def passOn {α : Type} (receive : PeerModerationAction → α → α) (action : PeerModerationAction)
    (tasks : List α) : List α :=
  match action with
  | .closeConnections _ => tasks.map (receive action)
  | .report .. => tasks.modifyHead (receive action)

/-- `handle_peer_moderation` of a cluster. -/
def clusterModerates (task : ClusterTask) : ClusterTask × List NodeOutput :=
  match task.inbox with
  | [] => (task, [])
  | action :: rest =>
    ({ task with state := closePeerConnection task.state action.peer, inbox := rest },
      match action with
      | .closeConnections _ => []
      | .report peerId reason => [.reportPeer task.manager.clusterId peerId reason])

/-- `handle_moderation` of a swarm: only a closing disconnects, and only the
identity that the peer is known under. -/
def swarmModerates (task : SwarmTask) : SwarmTask :=
  match task.inbox with
  | [] => task
  | .closeConnections peerId :: rest =>
    { task with
      state := match task.state.mtrxaiToLibp2p peerId with
        | some libp2pId => onConnectionClosed task.manager task.state libp2pId false
        | none => task.state
      inbox := rest }
  | .report .. :: rest => { task with inbox := rest }

/-! ## The machine -/

/-- The shared block list after an event of a cluster. -/
def proxyAfterBan (proxy : ProxyState) : ClusterEvent → ProxyState
  | .peerBanned peerId => blockPeer proxy peerId
  | _ => proxy

/-- A step of one cluster with the shared block list. -/
def clusterTaskStep (s : NodeState) (index : Nat) (e : ClusterEvent) : NodeState × List NodeOutput :=
  match s.clusters[index]? with
  | none => (s, [])
  | some task =>
    let (state, outputs) := clusterStep task.manager { task.state with proxy := s.proxy } e
    ({ s with
      proxy := proxyAfterBan s.proxy e
      clusters := s.clusters.set index { task with state } },
      outputs.map (.cluster task.manager.clusterId))

/-- A step of one swarm with the shared block list. -/
def swarmTaskStep (s : NodeState) (index : Nat) (e : SwarmEvent) : NodeState × List NodeOutput :=
  match s.swarms[index]? with
  | none => (s, [])
  | some task =>
    let (state, outputs) := swarmStep task.manager { task.state with proxy := s.proxy } e
    ({ s with swarms := s.swarms.set index { task with state } },
      outputs.map (.swarm task.manager.swarmId))

/-- One event handled. -/
def nodeStep (s : NodeState) : NodeEvent → NodeState × List NodeOutput
  | .postBlockPeer peerId => postBlockPeer s peerId
  | .postReportPeer peerId reason => postReportPeer s peerId reason
  | .deleteBlockPeer peerId => ({ s with proxy := unblockPeer s.proxy peerId }, [])
  | .clusterManagerModerates =>
    match s.moderation with
    | [] => (s, [])
    | action :: rest =>
      ({ s with clusters := passOn .receive action s.clusters, moderation := rest }, [])
  | .swarmManagerModerates =>
    match s.swarmModeration with
    | [] => (s, [])
    | action :: rest =>
      ({ s with swarms := passOn .receive action s.swarms, swarmModeration := rest }, [])
  | .clusterModerates index =>
    match s.clusters[index]? with
    | none => (s, [])
    | some task =>
      let (task, outputs) := clusterModerates task
      ({ s with clusters := s.clusters.set index task }, outputs)
  | .swarmModerates index =>
    match s.swarms[index]? with
    | none => (s, [])
    | some task => ({ s with swarms := s.swarms.set index (swarmModerates task) }, [])
  | .sessionOffered index peer =>
    match s.clusters[index]? with
    | none => (s, [])
    | some task =>
      ({ s with clusters := s.clusters.set index { task with
        state := { task.state with peers := update task.state.peers peer true } } }, [])
  | .cluster index e => clusterTaskStep s index e
  | .swarm index e => swarmTaskStep s index e
  | .clusterStarted index manager now =>
    ({ s with clusters := s.clusters.insertIdx index ⟨manager, .initial s.proxy now, []⟩ }, [])
  | .clusterStopped index => ({ s with clusters := s.clusters.eraseIdx index }, [])
  | .swarmStarted index manager nextReqId =>
    ({ s with swarms := s.swarms.insertIdx index ⟨manager, .initial s.proxy nextReqId, []⟩ }, [])
  | .swarmStopped index => ({ s with swarms := s.swarms.eraseIdx index }, [])
  | .configured config registry => ({ s with proxy := { s.proxy with config, registry } }, [])

abbrev NodeRecord := Record NodeState NodeEvent NodeOutput

def nodeMachine : Machine NodeState NodeEvent NodeOutput := ⟨nodeStep⟩

/-- A node that has just started, without networks. -/
def NodeState.initial (peerId : String) (proxy : ProxyState) : NodeState :=
  ⟨peerId, proxy, [], [], [], []⟩

/-! ## The law -/

/-- No session with a peer is open in any network; `owner` is the peer whose key
a libp2p identity is. -/
structure SessionsClosed (owner : PeerId → String) (s : NodeState) (peer : String) : Prop where
  clusters : ∀ task ∈ s.clusters, task.state.peers peer = false
  swarms : ∀ task ∈ s.swarms, ∀ id, owner id = peer → task.state.connected id = false

/-- A peer is blocked, and no action about it waits anywhere. -/
structure ModerationProcessed (s : NodeState) (peer : String) : Prop where
  blocked : s.proxy.isPeerBlocked peer = true
  managers : ∀ action ∈ s.moderation ++ s.swarmModeration, action.peer ≠ peer
  clusters : ∀ task ∈ s.clusters, ∀ action ∈ task.inbox, action.peer ≠ peer
  swarms : ∀ task ∈ s.swarms, ∀ action ∈ task.inbox, action.peer ≠ peer

/-- Once what was done about a peer is processed, no session with it is open. -/
def ModerationCloses (owner : PeerId → String) (s : NodeState) : Prop :=
  ∀ peer, ModerationProcessed s peer → SessionsClosed owner s peer

/-- No swarm has a connection to a peer. -/
def NoSwarmSession (owner : PeerId → String) (s : NodeState) (peer : String) : Prop :=
  ∀ task ∈ s.swarms, ∀ id, owner id = peer → task.state.connected id = false

/-- Actions reach every session: a peer is only blocked, reported or banned while
no swarm is connected to it, a report is passed on and a ban is heard by the one
cluster with a session, and no session with a blocked peer comes up. -/
def ReachesSessions (owner : PeerId → String) (r : NodeRecord) : Prop :=
  match r.event with
  | .postBlockPeer peer | .postReportPeer peer _ => NoSwarmSession owner r.before peer
  | .clusterManagerModerates => ∀ peer reason, r.before.moderation.head? = some (.report peer reason) →
      ∀ task ∈ r.before.clusters.tail, task.state.peers peer = false
  | .cluster index (.peerBanned peer) => NoSwarmSession owner r.before peer ∧
      ∀ other task, other ≠ index → r.before.clusters[other]? = some task →
        task.state.peers peer = false
  | .sessionOffered _ peer => r.before.proxy.isPeerBlocked peer = false
  | .swarm _ (.connectionEstablished id _ _) => r.before.proxy.isPeerBlocked (owner id) = false
  | .swarm _ (.connectionClosed id connected) =>
      connected = true → r.before.proxy.isPeerBlocked (owner id) = false
  | _ => True

/-! ## One step -/

variable {owner : PeerId → String} {s : NodeState}

/-- A session that a cluster has after an event it had before, or it comes of an
offer of a peer that is not blocked. -/
theorem clusterStep_peers {m : Manager} {s : ClusterState} {e : ClusterEvent} {peer : String}
    (has : (clusterStep m s e).1.peers peer = true) :
    (s.peers peer = true ∨ s.proxy.isPeerBlocked peer = false) ∧ e ≠ .peerBanned peer := by
  by_cases channel : e.isChannel = true
  · have same := congrArg LobbyState.peers (clusterStep_channel (m := m) (s := s) channel).1
    refine ⟨.inl ((congrFun same peer).symm.trans has), ?_⟩
    rintro rfl
    cases channel
  cases e with
  | connectOffer reqId model requestedBy flags =>
    simp only [clusterStep] at has
    rcases onConnectOffer_cases (m := m) (s := s) reqId model requestedBy flags with ran | ran | ran
    all_goals
      rw [ran] at has
      exact ⟨.inl has, by simp⟩
  | respond reqId accept clusterId =>
    simp only [clusterStep] at has
    rcases onRespond_cases (m := m) (s := s) reqId accept clusterId with
      ran | ⟨offer, -, -, -, ran⟩ | ran
    all_goals
      rw [ran] at has
      exact ⟨.inl has, by simp⟩
  | connectUpdate reqId status providerPeer flags =>
    simp only [clusterStep] at has
    rcases onConnectUpdate_cases (m := m) (s := s) reqId status providerPeer flags with
      ⟨other, flags', ran⟩ | ran | ran
    all_goals
      rw [ran] at has
      exact ⟨.inl has, by simp⟩
  | route sender payload created =>
    refine ⟨?_, by simp⟩
    simp only [clusterStep] at has
    rcases onRoute_cases (m := m) (s := s) sender payload created with ran | ⟨-, ran⟩
    · rw [ran] at has
      exact .inl has
    · rw [ran] at has
      rcases onOffer_cases (m := m) (s := s) sender payload created with
        ran | ⟨_, _, -, ran⟩ | ⟨_, _, _, passed, -, -, ran⟩
      · rw [ran] at has
        exact .inl has
      · rw [ran] at has
        exact .inl has
      · rw [ran] at has
        simp only [ClusterState.openSession] at has
        split at has
        · by_cases same : peer = sender
          · exact .inr (same ▸ (offerRefusal_eq_none.mp passed).notBlocked)
          · rw [update_of_ne same] at has
            exact .inl has
        · exact .inl has
  | peerBanned banned =>
    simp only [clusterStep, closePeerConnection] at has
    by_cases same : peer = banned
    · rw [same, update_self] at has
      cases has
    · rw [update_of_ne same] at has
      refine ⟨.inl has, ?_⟩
      rintro ⟨⟩
      exact same rfl
  | message | channelOpened | sendRequest => exact absurd rfl channel
  | _ => exact ⟨.inl has, by simp⟩

/-- A connection that a swarm has after an event it had before, or the event is
about it. -/
theorem swarmStep_connected {m : SwarmManager} {s : SwarmState} {e : SwarmEvent} {id : PeerId}
    (has : (swarmStep m s e).1.connected id = true) :
    s.connected id = true ∨ (∃ cached sendings, e = .connectionEstablished id cached sendings) ∨
      e = .connectionClosed id true := by
  have change := swarmStep_surroundings (m := m) (s := s) e
  change (swarmStep m s e).1.surroundings.connected id = true at has
  generalize (swarmStep m s e).1.surroundings = after at change has
  cases change with
  | established peer cached sendings =>
    dsimp only at has
    by_cases same : id = peer
    · exact .inr (.inl ⟨cached, sendings, by rw [same]⟩)
    · rw [update_of_ne same] at has
      exact .inl has
  | closed peer connected =>
    dsimp only at has
    by_cases same : id = peer
    · rw [same, update_self] at has
      exact .inr (.inr (by rw [same, has]))
    · rw [update_of_ne same] at has
      exact .inl has
  | _ => exact .inl has

private theorem mem_set_cases {α : Type} {tasks : List α} {index : Nat} {task task' : α}
    (member : task ∈ tasks.set index task') :
    task = task' ∨ ∃ other, other ≠ index ∧ tasks[other]? = some task := by
  obtain ⟨other, found⟩ := List.mem_iff_getElem?.mp member
  rw [List.getElem?_set] at found
  split_ifs at found with same bound
  · exact .inl (Option.some.inj found).symm
  · exact .inr ⟨other, Ne.symm same, found⟩

/-- Of a blocked peer, no swarm has a connection, and a session of a cluster has
an action about it on the way. -/
structure ModerationPending (owner : PeerId → String) (s : NodeState) : Prop where
  swarms : ∀ peer, s.proxy.isPeerBlocked peer = true → NoSwarmSession owner s peer
  clusters : ∀ peer, s.proxy.isPeerBlocked peer = true → ∀ task ∈ s.clusters,
    task.state.peers peer = true → (∃ action ∈ task.inbox, action.peer = peer) ∨
      ∃ action ∈ s.moderation, action.peer = peer

theorem ModerationPending.closes (pending : ModerationPending owner s) : ModerationCloses owner s := by
  intro peer processed
  refine ⟨?_, pending.swarms peer processed.blocked⟩
  intro task member
  by_contra open_
  have has : task.state.peers peer = true := by simpa using open_
  rcases pending.clusters peer processed.blocked task member has with
    ⟨action, waits, about⟩ | ⟨action, waits, about⟩
  · exact processed.clusters task member action waits about
  · exact processed.managers action (List.mem_append_left _ waits) about

private theorem blockPeer_blocked {proxy : ProxyState} {peer other : String}
    (blocked : (blockPeer proxy peer).isPeerBlocked other = true) :
    other = peer ∨ other ≠ peer ∧ proxy.isPeerBlocked other = true := by
  by_cases same : other = peer
  · exact .inl same
  · exact .inr ⟨same, (update_of_ne same ..).symm.trans blocked⟩

namespace ModerationPending

variable (pending : ModerationPending owner s)

include pending

/-- A peer is blocked that no swarm has a connection to, and an action is sent. -/
theorem block (action : PeerModerationAction) (closed : NoSwarmSession owner s action.peer) :
    ModerationPending owner { s with
      proxy := blockPeer s.proxy action.peer
      moderation := s.moderation ++ [action] } where
  swarms := by
    intro other blocked
    rcases blockPeer_blocked blocked with rfl | ⟨-, before⟩
    · exact closed
    · exact pending.swarms other before
  clusters := by
    intro other blocked task member has
    rcases blockPeer_blocked blocked with rfl | ⟨-, before⟩
    · exact .inr ⟨action, by simp, rfl⟩
    · rcases pending.clusters other before task member has with inbox | ⟨waits, among, about⟩
      · exact .inl inbox
      · exact .inr ⟨waits, List.mem_append_left _ among, about⟩

/-- The swarms change without new connections to blocked peers. -/
theorem ofSwarms {swarms : List SwarmTask} {swarmModeration : List PeerModerationAction}
    (closed : ∀ task ∈ swarms, ∀ id, task.state.connected id = true →
      (∃ before ∈ s.swarms, before.state.connected id = true) ∨
        s.proxy.isPeerBlocked (owner id) = false) :
    ModerationPending owner { s with swarms, swarmModeration } where
  swarms := by
    intro peer blocked task member id owned
    by_contra open_
    rcases closed task member id (by simpa using open_) with ⟨before, among, connected⟩ | free
    · have shut := pending.swarms peer blocked before among id owned
      rw [connected] at shut
      cases shut
    · rw [owned] at free
      have blocked : s.proxy.isPeerBlocked peer = true := blocked
      rw [free] at blocked
      cases blocked
  clusters := pending.clusters

/-- The clusters change without new sessions of blocked peers, and with every
action that waited for one of them. -/
theorem ofClusters {clusters : List ClusterTask}
    (kept : ∀ task ∈ clusters, ∀ peer, task.state.peers peer = true →
      (∃ before ∈ s.clusters, before.state.peers peer = true ∧
        ∀ action ∈ before.inbox, action.peer = peer → action ∈ task.inbox) ∨
        s.proxy.isPeerBlocked peer = false) :
    ModerationPending owner { s with clusters } where
  swarms := pending.swarms
  clusters := by
    intro peer blocked task member has
    rcases kept task member peer has with ⟨before, among, open_, inbox⟩ | free
    · rcases pending.clusters peer blocked before among open_ with ⟨action, waits, about⟩ | manager
      · exact .inl ⟨action, inbox action waits about, about⟩
      · exact .inr manager
    · have blocked : s.proxy.isPeerBlocked peer = true := blocked
      rw [free] at blocked
      cases blocked

/-- One swarm's task changes. -/
theorem setSwarm {index : Nat} {task changed : SwarmTask} (found : s.swarms[index]? = some task)
    (closed : ∀ id, changed.state.connected id = true →
      task.state.connected id = true ∨ s.proxy.isPeerBlocked (owner id) = false) :
    ModerationPending owner { s with swarms := s.swarms.set index changed } := by
  refine pending.ofSwarms ?_
  intro other member id connected
  rcases mem_set_cases member with rfl | ⟨at_, -, same⟩
  · exact (closed id connected).imp_left fun before => ⟨task, List.mem_of_getElem? found, before⟩
  · exact .inl ⟨other, List.mem_of_getElem? same, connected⟩

/-- One cluster's task changes. -/
theorem setCluster {index : Nat} {task changed : ClusterTask}
    (found : s.clusters[index]? = some task)
    (kept : ∀ peer, changed.state.peers peer = true →
      (task.state.peers peer = true ∧
        ∀ action ∈ task.inbox, action.peer = peer → action ∈ changed.inbox) ∨
        s.proxy.isPeerBlocked peer = false) :
    ModerationPending owner { s with clusters := s.clusters.set index changed } := by
  refine pending.ofClusters ?_
  intro other member peer has
  rcases mem_set_cases member with rfl | ⟨at_, -, same⟩
  · exact (kept peer has).imp_left fun before => ⟨task, List.mem_of_getElem? found, before⟩
  · exact .inl ⟨other, List.mem_of_getElem? same, has, fun action waits _ => waits⟩

end ModerationPending

/-- Passing an action on: every task receives it, or is the same as before. -/
private theorem mem_passOn {α : Type} {receive : PeerModerationAction → α → α}
    {action : PeerModerationAction} {tasks : List α} {task : α}
    (member : task ∈ passOn receive action tasks) :
    (∃ before ∈ tasks, task = receive action before) ∨
      task ∈ tasks.tail ∧ ∃ peer reason, action = .report peer reason := by
  cases action with
  | closeConnections peer =>
    obtain ⟨before, among, rfl⟩ := List.mem_map.mp member
    exact .inl ⟨before, among, rfl⟩
  | report peer reason =>
    cases tasks with
    | nil => cases member
    | cons first rest =>
      rcases List.mem_cons.mp member with rfl | later
      · exact .inl ⟨first, List.mem_cons_self, rfl⟩
      · exact .inr ⟨later, peer, reason, rfl⟩

private theorem clusterManagerModerates_pending (pending : ModerationPending owner s)
    (reaches : ReachesSessions owner (nodeMachine.record s .clusterManagerModerates)) :
    ModerationPending owner (nodeStep s .clusterManagerModerates).1 := by
  simp only [nodeStep]
  split
  · exact pending
  · rename_i action rest waiting
    refine ⟨pending.swarms, ?_⟩
    intro peer blocked task member has
    have routed : ∀ before ∈ s.clusters, before.state.peers peer = true →
        (∃ action ∈ before.inbox, action.peer = peer) ∨ action.peer = peer ∨
          ∃ action ∈ rest, action.peer = peer := by
      intro before among open_
      rcases pending.clusters peer blocked before among open_ with inbox | ⟨first, waits, about⟩
      · exact .inl inbox
      · rw [waiting] at waits
        rcases List.mem_cons.mp waits with rfl | later
        · exact .inr (.inl about)
        · exact .inr (.inr ⟨first, later, about⟩)
    rcases mem_passOn member with ⟨before, among, rfl⟩ | ⟨later, reported, reason, rfl⟩
    · rcases routed before among has with ⟨inbox, waits, about⟩ | about | still
      · exact .inl ⟨inbox, List.mem_append_left _ waits, about⟩
      · exact .inl ⟨action, by simp [ClusterTask.receive], about⟩
      · exact .inr still
    · rcases routed task (List.mem_of_mem_tail later) has with inbox | rfl | still
      · exact .inl inbox
      · have shut := reaches reported reason (by simp [Machine.record, waiting]) task later
        rw [PeerModerationAction.peer, shut] at has
        cases has
      · exact .inr still

private theorem swarmModerates_connected {task : SwarmTask} {id : PeerId}
    (connected : (swarmModerates task).state.connected id = true) :
    task.state.connected id = true := by
  unfold swarmModerates at connected
  split at connected
  · exact connected
  · dsimp only at connected
    split at connected
    · rename_i libp2pId known
      have closed := congrFun (congrArg Surroundings.connected
        (onConnectionClosed_surroundings (m := task.manager) (s := task.state) libp2pId false)) id
      have left := closed.symm.trans connected
      dsimp only at left
      by_cases same : id = libp2pId
      · rw [same, update_self] at left
        cases left
      · rwa [update_of_ne same] at left
    · exact connected
  · exact connected

/-- A session that is left when a cluster has processed an action was there before, and no
action about its peer is gone. -/
private theorem clusterModerates_peers {task : ClusterTask} {peer : String}
    (has : (clusterModerates task).1.state.peers peer = true) :
    task.state.peers peer = true ∧
      ∀ action ∈ task.inbox, action.peer = peer → action ∈ (clusterModerates task).1.inbox := by
  unfold clusterModerates at has ⊢
  split at has
  · rename_i empty
    exact ⟨has, by simp [empty]⟩
  · rename_i action rest waiting
    simp only [closePeerConnection] at has
    by_cases about : peer = action.peer
    · rw [about, update_self] at has
      cases has
    · rw [update_of_ne about] at has
      refine ⟨has, ?_⟩
      intro first waits named
      rw [waiting] at waits
      rcases List.mem_cons.mp waits with rfl | later
      · exact absurd named.symm about
      · exact later

/-- An event of a cluster leaves the sessions of blocked peers as they were. -/
private theorem clusterTaskStep_pending (pending : ModerationPending owner s) (index : Nat)
    {e : ClusterEvent} (reaches : ReachesSessions owner (nodeMachine.record s (.cluster index e))) :
    ModerationPending owner (clusterTaskStep s index e).1 := by
  unfold clusterTaskStep
  split
  · exact pending
  · rename_i task found
    have stepped : ModerationPending owner { s with clusters := s.clusters.set index { task with
        state := (clusterStep task.manager { task.state with proxy := s.proxy } e).1 } } :=
      pending.setCluster found fun peer has =>
        (clusterStep_peers has).1.imp_left fun before => ⟨before, fun action waits _ => waits⟩
    by_cases ban : ∃ peer, e = .peerBanned peer
    · obtain ⟨banned, rfl⟩ := ban
      obtain ⟨closed, elsewhere⟩ := reaches
      refine ⟨?_, ?_⟩
      · intro peer blocked
        rcases blockPeer_blocked blocked with rfl | ⟨-, before⟩
        · exact closed
        · exact pending.swarms peer before
      · intro peer blocked other member has
        rcases blockPeer_blocked blocked with rfl | ⟨-, before⟩
        · rcases mem_set_cases member with rfl | ⟨at_, differs, same⟩
          · exact absurd rfl (clusterStep_peers has).2
          · have shut := elsewhere at_ other differs same
            rw [shut] at has
            cases has
        · exact stepped.clusters peer before other member has
    · have unchanged : proxyAfterBan s.proxy e = s.proxy := by
        cases e with
        | peerBanned peer => exact absurd ⟨peer, rfl⟩ ban
        | _ => rfl
      dsimp only
      rw [unchanged]
      exact stepped

private theorem swarmTaskStep_pending (pending : ModerationPending owner s) (index : Nat)
    {e : SwarmEvent} (reaches : ReachesSessions owner (nodeMachine.record s (.swarm index e))) :
    ModerationPending owner (swarmTaskStep s index e).1 := by
  unfold swarmTaskStep
  split
  · exact pending
  · rename_i task found
    refine pending.setSwarm found fun id connected => ?_
    rcases swarmStep_connected connected with before | ⟨cached, sendings, rfl⟩ | rfl
    · exact .inl before
    · exact .inr reaches
    · exact .inr (reaches rfl)

/-- A step in which actions reach every session leaves none open without one. -/
theorem moderationPending_step {e : NodeEvent} (pending : ModerationPending owner s)
    (reaches : ReachesSessions owner (nodeMachine.record s e)) :
    ModerationPending owner (nodeStep s e).1 := by
  cases e with
  | postBlockPeer peer =>
    simp only [nodeStep, postBlockPeer]
    split
    · exact pending
    · exact pending.block (.closeConnections peer) reaches
  | postReportPeer peer reason =>
    simp only [nodeStep, postReportPeer]
    split
    · exact pending
    · split
      · exact pending
      · exact pending.block (.report peer _) reaches
  | deleteBlockPeer peer =>
    have before : ∀ other, (unblockPeer s.proxy peer).isPeerBlocked other = true →
        s.proxy.isPeerBlocked other = true := by
      intro other blocked
      simp only [unblockPeer] at blocked
      by_cases same : other = peer
      · rw [same, update_self] at blocked
        cases blocked
      · rwa [update_of_ne same] at blocked
    exact ⟨fun other blocked => pending.swarms other (before other blocked),
      fun other blocked => pending.clusters other (before other blocked)⟩
  | clusterManagerModerates => exact clusterManagerModerates_pending pending reaches
  | swarmManagerModerates =>
    simp only [nodeStep]
    split
    · exact pending
    · refine pending.ofSwarms ?_
      intro task member id connected
      rcases mem_passOn member with ⟨before, among, rfl⟩ | ⟨later, -⟩
      · exact .inl ⟨before, among, connected⟩
      · exact .inl ⟨task, List.mem_of_mem_tail later, connected⟩
  | clusterModerates index =>
    simp only [nodeStep]
    split
    · exact pending
    · rename_i task found
      exact pending.setCluster found fun peer has => .inl (clusterModerates_peers has)
  | swarmModerates index =>
    simp only [nodeStep]
    split
    · exact pending
    · rename_i task found
      exact pending.setSwarm found fun id connected => .inl (swarmModerates_connected connected)
  | sessionOffered index peer =>
    simp only [nodeStep]
    split
    · exact pending
    · rename_i task found
      refine pending.setCluster found fun named has => ?_
      by_cases same : named = peer
      · exact .inr (same ▸ reaches)
      · dsimp only at has
        rw [update_of_ne same] at has
        exact .inl ⟨has, fun action waits _ => waits⟩
  | cluster index e => exact clusterTaskStep_pending pending index reaches
  | swarm index e => exact swarmTaskStep_pending pending index reaches
  | clusterStarted index manager now =>
    refine pending.ofClusters ?_
    intro task member peer has
    rcases List.eq_or_mem_of_mem_insertIdx member with rfl | before
    · cases has
    · exact .inl ⟨task, before, has, fun action waits _ => waits⟩
  | clusterStopped index =>
    refine pending.ofClusters ?_
    intro task member peer has
    exact .inl ⟨task, List.mem_of_mem_eraseIdx member, has, fun action waits _ => waits⟩
  | swarmStarted index manager nextReqId =>
    refine pending.ofSwarms ?_
    intro task member id connected
    rcases List.eq_or_mem_of_mem_insertIdx member with rfl | before
    · cases connected
    · exact .inl ⟨task, before, connected⟩
  | swarmStopped index =>
    refine pending.ofSwarms ?_
    intro task member id connected
    exact .inl ⟨task, List.mem_of_mem_eraseIdx member, connected⟩
  | configured config registry => exact ⟨pending.swarms, pending.clusters⟩

/-! ## Runs -/

end MtrxPeer
