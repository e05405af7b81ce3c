import MtrxPeer.NetworkCatalog
import MtrxPeer.PeerPolicy

/-! Which peer a remote request goes to. The network is chosen from the joined
catalog, which counts the node itself and blocked peers; only then does the chosen
manager rank who may serve. -/
namespace MtrxPeer

/-! ## The networks of a node -/

/-- A cluster. The node is told its catalog by the lobby, which also answers a
request for a provider with a peer and its attestation flags. -/
structure ClusterView where
  clusterId : String
  /-- Its manager runs. -/
  joined : Bool
  models : List Json
  peers : List CachedPeerRecord
  approval : String → Except String (String × Nat)

/-- A swarm, with the cached catalogs of its peers and the node's own record. -/
structure SwarmView where
  swarmId : String
  joined : Bool
  cache : List CachedPeerRecord
  own : CachedPeerRecord
  /-- The peers that have not departed. -/
  present : String → Bool
  ahead : CachedPeerRecord → CachedPeerRecord → Bool

structure RemoteNetworks where
  host : Host
  peerId : String
  mode : NetworkMode
  clusters : List ClusterView
  swarms : List SwarmView
  blocked : String → Bool
  requireTee : Bool
  allowUnattestedPeers : Bool
  /-- Its own record goes by the node's own name. -/
  own_peerId : ∀ view ∈ swarms, view.own.peerId = peerId
  clusterIds : (clusters.map ClusterView.clusterId).Nodup
  swarmIds : (swarms.map SwarmView.swarmId).Nodup

variable (n : RemoteNetworks)

/-- `network_models`, kept up to date. -/
def RemoteNetworks.networkModels : List Json :=
  syncUnifiedNetworkModels (n.clusters.map fun view => (view.clusterId, view.models))
    (n.swarms.map fun view => (view.swarmId, rebuildSwarmCatalog view.swarmId (view.cache ++ [view.own])))

/-! ## The choice of a network -/

/-- The entry of a list that names a model. -/
def entryFor (networkModels : List Json) (model : String) : Option Json :=
  networkModels.find? fun entry => modelName entry = some model

/-- The id in the network list of an entry that has the most peers. -/
def mostPeersId (entry : Json) (list key : String) : Option Json :=
  (((entry.get list).bind Json.asArray).bind mostPeers).bind fun network => network.get key

def clusterIdForModel (networkModels : List Json) (model : String) : Option String :=
  (entryFor networkModels model).bind fun entry =>
    (((entry.get "_cluster_id").or (mostPeersId entry "_clusters" "cluster_id")).or
      (entry.get "_room_id")).bind Json.asStr

def swarmIdForModel (networkModels : List Json) (model : String) : Option String :=
  (entryFor networkModels model).bind fun entry =>
    ((entry.get "_swarm_id").or (mostPeersId entry "_swarms" "swarm_id")).bind Json.asStr

def networkScopeForModel (networkModels : List Json) (model : String) (mode : NetworkMode) :
    Option NetworkScope :=
  let hasCluster := (clusterIdForModel networkModels model).isSome
  let hasSwarm := (swarmIdForModel networkModels model).isSome
  match mode with
  | .cluster => if hasCluster then some .cluster else none
  | .swarm => if hasSwarm then some .swarm else none
  | .both => if hasSwarm then some .swarm else if hasCluster then some .cluster else none

def NetworkMode.debug : NetworkMode → String
  | .cluster => "Cluster"
  | .swarm => "Swarm"
  | .both => "Both"

/-! ## The choice of a peer -/

/-- A request for a model is sent to a peer of a network. -/
structure RemoteTarget where
  scope : NetworkScope
  networkId : String
  peerId : String
  deriving DecidableEq

/-- The ranking that `handle_proxy_cmd` of a swarm takes the first of. -/
def SwarmView.ranked (view : SwarmView) (model : String) : List String :=
  rankSwarmPeersForModelWithTee view.ahead model (view.cache ++ [view.own]) n.peerId n.blocked
    n.requireTee

/-- The swarm manager's part, for a command that names no peer. -/
def swarmTarget (model swarmId : String) : Except String RemoteTarget :=
  match n.swarms.find? fun view => view.swarmId = swarmId && view.joined with
  | none => .error ("Not connected to swarm " ++ swarmId)
  | some view =>
    match view.ranked n model with
    | [] => .error ("No swarm peers for model " ++ model)
    | best :: _ => .ok ⟨.swarm, swarmId, best⟩

/-- The cluster manager's part, for a command that names no peer. -/
def clusterTarget (model clusterId : String) : Except String RemoteTarget :=
  match n.clusters.find? fun view => view.clusterId = clusterId && view.joined with
  | none => .error ("Not connected to cluster " ++ clusterId)
  | some view =>
    match view.approval model with
    | .error error => .error error
    | .ok (peer, flags) =>
      if peerConnectionAllowed n.host n.allowUnattestedPeers flags then
        .ok ⟨.cluster, clusterId, peer⟩
      else .error "Provider is not attested"

/-- `dispatch_remote_proxy`, with the manager that takes its command. -/
def dispatchRemoteProxy (model : String) : Except String RemoteTarget :=
  match networkScopeForModel n.networkModels model n.mode with
  | none => .error ("No network advertises model " ++ model ++ " for p2p_mode " ++ n.mode.debug)
  | some .cluster => clusterTarget n model ((clusterIdForModel n.networkModels model).getD "")
  | some .swarm => swarmTarget n model ((swarmIdForModel n.networkModels model).getD "")

/-! ## Usable peers -/

/-- A peer that may serve a model: not the node itself, taking jobs for the model,
not blocked, and with a TEE if one is required. -/
structure UsablePeer (model : String) (record : CachedPeerRecord) : Prop where
  other : record.peerId ≠ n.peerId
  serves : record.serves model = true
  notBlocked : n.blocked record.peerId = false
  tee : n.requireTee = true → record.teeCapable = true

/-- Where a mode allows it, a network has the target as a usable peer. -/
def UsableTarget (model : String) (target : RemoteTarget) : Prop :=
  match target.scope with
  | .cluster => n.mode ≠ .swarm ∧ ∃ view ∈ n.clusters, view.clusterId = target.networkId ∧
      ∃ record ∈ view.peers, record.peerId = target.peerId ∧ UsablePeer n model record
  | .swarm => n.mode ≠ .cluster ∧ ∃ view ∈ n.swarms, view.swarmId = target.networkId ∧
      view.present target.peerId = true ∧
        ∃ record ∈ view.cache, record.peerId = target.peerId ∧ UsablePeer n model record

/-- Where some allowed network has a usable peer, such a peer is chosen, and an error
is returned otherwise. -/
def PicksUsablePeer (model : String) : Prop :=
  ((∃ target, UsableTarget n model target) →
      ∃ target, dispatchRemoteProxy n model = .ok target ∧ UsableTarget n model target) ∧
    ((¬ ∃ target, UsableTarget n model target) → ∃ error, dispatchRemoteProxy n model = .error error)

/-- No network has a usable peer. -/
def NoUsablePeer (model : String) : Prop := ∀ target, ¬ UsableTarget n model target

/-- A joined swarm's first choice is still there, or the swarm has no usable peer and
nor has any other network. -/
def NamedSwarmServes (model id : String) : Prop :=
  (∃ view ∈ n.swarms, view.joined = true ∧ view.swarmId = id ∧
      ∃ peer ∈ (view.ranked n model).head?, view.present peer = true) ∨
    NoUsablePeer n model ∧ ∀ view ∈ n.swarms, view.joined = true → view.swarmId = id →
      ∀ record ∈ view.cache, ¬ UsablePeer n model record

/-- The lobby of a joined cluster approves a usable peer that the node connects to, or
it approves no peer the node connects to and no network has a usable one. -/
def NamedClusterServes (model id : String) : Prop :=
  (∃ view ∈ n.clusters, view.joined = true ∧ view.clusterId = id ∧
      ∃ record ∈ view.peers, UsablePeer n model record ∧
        ∃ flags, view.approval model = .ok (record.peerId, flags) ∧
          peerConnectionAllowed n.host n.allowUnattestedPeers flags = true) ∨
    NoUsablePeer n model ∧ ∀ view ∈ n.clusters, view.joined = true → view.clusterId = id →
      ∀ peer flags, view.approval model = .ok (peer, flags) →
        peerConnectionAllowed n.host n.allowUnattestedPeers flags = false

/-- The network that the joined catalog names serves the model. It names a swarm
wherever one lists the model, the node's own record and blocked peers included. -/
def NamedNetworkServes (model : String) : Prop :=
  match networkScopeForModel n.networkModels model n.mode with
  | none => n.mode = .swarm ∨ ∀ view ∈ n.clusters, ∀ record ∈ view.peers, ¬ UsablePeer n model record
  | some .swarm => NamedSwarmServes n model ((swarmIdForModel n.networkModels model).getD "")
  | some .cluster => NamedClusterServes n model ((clusterIdForModel n.networkModels model).getD "")

variable {n}

/-- A target is right if it is usable, an error if nothing is. -/
private def RightAnswer (n : RemoteNetworks) (model : String) : Except String RemoteTarget → Prop
  | .ok target => UsableTarget n model target
  | .error _ => NoUsablePeer n model

private theorem picksUsablePeer_iff {model : String} :
    PicksUsablePeer n model ↔ RightAnswer n model (dispatchRemoteProxy n model) := by
  cases chosen : dispatchRemoteProxy n model with
  | ok target =>
    constructor
    · rintro ⟨finds, errs⟩
      by_contra useless
      by_cases some_ : ∃ other, UsableTarget n model other
      · obtain ⟨picked, same, good⟩ := finds some_
        rw [chosen] at same
        cases same
        exact useless good
      · obtain ⟨error, same⟩ := errs some_
        rw [chosen] at same
        cases same
    · exact fun usable => ⟨fun _ => ⟨target, chosen, usable⟩, fun none => absurd ⟨target, usable⟩ none⟩
  | error error =>
    constructor
    · rintro ⟨finds, -⟩ target usable
      obtain ⟨picked, same, -⟩ := finds ⟨target, usable⟩
      rw [chosen] at same
      cases same
    · exact fun none => ⟨fun ⟨target, usable⟩ => absurd usable (none target), fun _ => ⟨error, chosen⟩⟩

/-! ## The ranking -/

/-- The peers that a swarm ranks for a model are the usable ones in its cache. -/
private theorem mem_ranked {view : SwarmView} (member : view ∈ n.swarms) {model peer : String} :
    peer ∈ view.ranked n model ↔ ∃ record ∈ view.cache, record.peerId = peer ∧ UsablePeer n model record := by
  simp only [SwarmView.ranked, rankSwarmPeersForModelWithTee, List.mem_map, List.mem_mergeSort,
    List.mem_filter, Bool.and_eq_true, decide_eq_true_eq, Bool.not_eq_true', Bool.and_eq_false_imp,
    List.mem_append, List.mem_singleton, Bool.not_eq_false']
  constructor
  · rintro ⟨record, ⟨known, ⟨⟨other, notBlocked⟩, tee⟩, serves⟩, rfl⟩
    rcases known with cached | rfl
    · exact ⟨record, cached, rfl, other, serves, notBlocked, tee⟩
    · exact absurd (n.own_peerId view member) other
  · rintro ⟨record, cached, rfl, usable⟩
    exact ⟨record, ⟨.inl cached, ⟨⟨usable.other, usable.notBlocked⟩, usable.tee⟩, usable.serves⟩, rfl⟩

/-- The catalog of a swarm names what its peers, the node included, serve. -/
private theorem rebuildSwarmCatalog_names {swarmId : String} {peers : List CachedPeerRecord}
    {name : String} (served : ∃ record ∈ peers, record.serves name = true) :
    ∃ model ∈ rebuildSwarmCatalog swarmId peers, modelName model = some name := by
  obtain ⟨record, member, serves⟩ := served
  simp only [CachedPeerRecord.serves, Bool.and_eq_true, List.any_eq_true, decide_eq_true_eq] at serves
  obtain ⟨accepting, entry, listed, named⟩ := serves
  have inListings : (name, record.peerId, entry) ∈ swarmListings peers := by
    refine List.mem_flatMap.mpr ⟨record, List.mem_filter.mpr ⟨member, accepting⟩, ?_⟩
    exact List.mem_filterMap.mpr ⟨entry, listed, by simp [modelName, named]⟩
  refine ⟨_, List.mem_map.mpr ⟨name, ?_, rfl⟩, modelName_swarmModel ..⟩
  exact List.mem_dedup.mpr (List.mem_map.mpr ⟨_, inListings, rfl⟩)

/-- A swarm whose peers, the node included, serve a model makes the joined catalog name
a swarm for it. -/
theorem swarmIdForModel_of_serves {view : SwarmView} (member : view ∈ n.swarms) {model : String}
    (served : ∃ record ∈ view.cache ++ [view.own], record.serves model = true) :
    (swarmIdForModel n.networkModels model).isSome := by
  have listed : ∃ swarm ∈ n.swarms.map fun view =>
      (view.swarmId, rebuildSwarmCatalog view.swarmId (view.cache ++ [view.own])),
      ∃ entry ∈ swarm.2, modelName entry = some model :=
    ⟨_, List.mem_map.mpr ⟨view, member, rfl⟩, rebuildSwarmCatalog_names served⟩
  obtain ⟨swarm, -, -, entry, found, id⟩ := unified_swarmId
    (n.clusters.map fun view => (view.clusterId, view.models)) listed
  simp [swarmIdForModel, entryFor, RemoteNetworks.networkModels, found, id]

/-! ## The chosen network -/

/-- Of items with distinct keys, the one found by a key is the one that has it. -/
private theorem found_by_key_iff {α : Type} {key : α → String} {ready : α → Bool} {items : List α}
    (distinct : (items.map key).Nodup) {id : String} {item : α} :
    items.find? (fun item => key item = id && ready item) = some item ↔
      item ∈ items ∧ ready item = true ∧ key item = id := by
  constructor
  · intro found
    have passes := List.find?_some found
    simp only [Bool.and_eq_true, decide_eq_true_eq] at passes
    exact ⟨List.mem_of_find?_eq_some found, passes.2, passes.1⟩
  · rintro ⟨member, isReady, same⟩
    have some_ : (items.find? fun item => key item = id && ready item).isSome :=
      List.find?_isSome.mpr ⟨item, member, by simp [same, isReady]⟩
    obtain ⟨first, found⟩ := Option.isSome_iff_exists.mp some_
    have passes := List.find?_some found
    simp only [Bool.and_eq_true, decide_eq_true_eq] at passes
    rw [found, List.inj_on_of_nodup_map distinct (List.mem_of_find?_eq_some found) member
      (passes.1.trans same.symm)]

private theorem networkScope_swarm {models : List Json} {model : String} {mode : NetworkMode}
    (scope : networkScopeForModel models model mode = some .swarm) : mode ≠ .cluster := by
  rintro rfl
  simp only [networkScopeForModel] at scope
  split_ifs at scope
  cases scope

private theorem networkScope_cluster {models : List Json} {model : String} {mode : NetworkMode}
    (scope : networkScopeForModel models model mode = some .cluster) : mode ≠ .swarm := by
  rintro rfl
  simp only [networkScopeForModel] at scope
  split_ifs at scope
  cases scope

private theorem networkScope_none {models : List Json} {model : String} {mode : NetworkMode}
    (scope : networkScopeForModel models model mode = none) (swarms : mode ≠ .cluster) :
    swarmIdForModel models model = none := by
  cases mode <;> simp only [networkScopeForModel] at scope <;> split_ifs at scope <;> simp_all

/-- Where the catalog names no network, no swarm has a usable peer. -/
private theorem unnamed_iff {model : String}
    (scope : networkScopeForModel n.networkModels model n.mode = none) :
    NoUsablePeer n model ↔
      (n.mode = .swarm ∨ ∀ view ∈ n.clusters, ∀ record ∈ view.peers, ¬ UsablePeer n model record) := by
  constructor
  · intro none
    by_cases swarm : n.mode = .swarm
    · exact .inl swarm
    · refine .inr fun view member record listed usable => ?_
      exact none ⟨.cluster, view.clusterId, record.peerId⟩
        ⟨swarm, view, member, rfl, record, listed, rfl, usable⟩
  · rintro only ⟨scope', id, peer⟩ usable
    cases scope' with
    | cluster =>
      obtain ⟨mode, view, member, -, record, listed, -, good⟩ := usable
      rcases only with swarm | useless
      · exact mode swarm
      · exact useless view member record listed good
    | swarm =>
      obtain ⟨mode, view, member, -, -, record, cached, -, good⟩ := usable
      have named := swarmIdForModel_of_serves member
        ⟨record, List.mem_append_left _ cached, good.serves⟩
      rw [networkScope_none scope mode] at named
      cases named

/-- A swarm that is not joined, or ranks nobody, offers nothing. -/
private theorem swarm_refused_iff {model id : String} (error : String)
    (refused : swarmTarget n model id = .error error)
    (useless : ∀ view ∈ n.swarms, view.joined = true → view.swarmId = id → view.ranked n model = []) :
    RightAnswer n model (swarmTarget n model id) ↔ NamedSwarmServes n model id := by
  rw [refused]
  constructor
  · refine fun none => .inr ⟨none, fun view member joined same record cached usable => ?_⟩
    have ranked := (mem_ranked member).mpr ⟨record, cached, rfl, usable⟩
    rw [useless view member joined same] at ranked
    cases ranked
  · rintro (⟨view, member, joined, same, peer, first, -⟩ | ⟨none, -⟩)
    · rw [useless view member joined same] at first
      cases first
    · exact none

private theorem swarmTarget_right_iff {model id : String} (mode : n.mode ≠ .cluster) :
    RightAnswer n model (swarmTarget n model id) ↔ NamedSwarmServes n model id := by
  cases found : n.swarms.find? (fun view => view.swarmId = id && view.joined) with
  | none =>
    refine swarm_refused_iff ("Not connected to swarm " ++ id) (by simp only [swarmTarget, found]) ?_
    intro view member joined same
    rw [(found_by_key_iff n.swarmIds).mpr ⟨member, joined, same⟩] at found
    cases found
  | some view =>
    obtain ⟨member, joined, sameId⟩ := (found_by_key_iff n.swarmIds).mp found
    have only {other : SwarmView} (listed : other ∈ n.swarms) (same : other.swarmId = id) :
        other = view :=
      List.inj_on_of_nodup_map n.swarmIds listed member (same.trans sameId.symm)
    cases order : view.ranked n model with
    | nil =>
      refine swarm_refused_iff ("No swarm peers for model " ++ model)
        (by simp only [swarmTarget, found, order]) ?_
      intro other listed _ same
      rw [only listed same, order]
    | cons best rest =>
      obtain ⟨record, cached, same, usable⟩ := (mem_ranked member).mp (order ▸ List.mem_cons_self)
      have chosen : swarmTarget n model id = .ok ⟨.swarm, id, best⟩ := by
        simp only [swarmTarget, found, order]
      rw [chosen]
      constructor
      · rintro ⟨-, other, listed, otherId, present, -⟩
        obtain rfl := only listed otherId
        exact .inl ⟨other, member, joined, sameId, best, by rw [order]; rfl, present⟩
      · rintro (⟨other, listed, -, otherId, peer, first, present⟩ | ⟨-, useless⟩)
        · obtain rfl := only listed otherId
          rw [order] at first
          obtain rfl := Option.some.inj first
          exact ⟨mode, other, member, sameId, present, record, cached, same, usable⟩
        · exact absurd usable (useless view member joined sameId record cached)

/-- A cluster whose lobby approves nobody that the node connects to offers nothing. -/
private theorem cluster_refused_iff {model id : String} (error : String)
    (refused : clusterTarget n model id = .error error)
    (closed : ∀ view ∈ n.clusters, view.joined = true → view.clusterId = id →
      ∀ peer flags, view.approval model = .ok (peer, flags) →
        peerConnectionAllowed n.host n.allowUnattestedPeers flags = false) :
    RightAnswer n model (clusterTarget n model id) ↔ NamedClusterServes n model id := by
  rw [refused]
  constructor
  · exact fun none => .inr ⟨none, closed⟩
  · rintro (⟨view, member, joined, same, record, -, -, flags, approved, allowed⟩ | ⟨none, -⟩)
    · rw [closed view member joined same _ flags approved] at allowed
      cases allowed
    · exact none

private theorem clusterTarget_right_iff {model id : String} (mode : n.mode ≠ .swarm) :
    RightAnswer n model (clusterTarget n model id) ↔ NamedClusterServes n model id := by
  cases found : n.clusters.find? (fun view => view.clusterId = id && view.joined) with
  | none =>
    refine cluster_refused_iff ("Not connected to cluster " ++ id)
      (by simp only [clusterTarget, found]) ?_
    intro view member joined same
    rw [(found_by_key_iff n.clusterIds).mpr ⟨member, joined, same⟩] at found
    cases found
  | some view =>
    obtain ⟨member, joined, sameId⟩ := (found_by_key_iff n.clusterIds).mp found
    have only {other : ClusterView} (listed : other ∈ n.clusters) (same : other.clusterId = id) :
        other = view :=
      List.inj_on_of_nodup_map n.clusterIds listed member (same.trans sameId.symm)
    cases answer : view.approval model with
    | error error =>
      refine cluster_refused_iff error (by simp only [clusterTarget, found, answer]) ?_
      intro other listed _ same peer flags approved
      rw [only listed same, answer] at approved
      cases approved
    | ok approved =>
      obtain ⟨peer, flags⟩ := approved
      by_cases allowed : peerConnectionAllowed n.host n.allowUnattestedPeers flags = true
      · have chosen : clusterTarget n model id = .ok ⟨.cluster, id, peer⟩ := by
          simp only [clusterTarget, found, answer, allowed, if_true]
        rw [chosen]
        constructor
        · rintro ⟨-, other, listed, otherId, record, known, rfl, usable⟩
          obtain rfl := only listed otherId
          exact .inl ⟨other, member, joined, sameId, record, known, usable, flags, answer, allowed⟩
        · rintro (⟨other, listed, -, otherId, record, known, usable, given, approved, -⟩ | ⟨-, closed⟩)
          · obtain rfl := only listed otherId
            rw [answer] at approved
            cases approved
            exact ⟨mode, other, member, sameId, record, known, rfl, usable⟩
          · rw [closed view member joined sameId peer flags answer] at allowed
            cases allowed
      · refine cluster_refused_iff "Provider is not attested"
          (by simp only [clusterTarget, found, answer, allowed]; rfl) ?_
        intro other listed _ same peer' flags' approved
        rw [only listed same, answer] at approved
        cases approved
        simpa using allowed

/-- A remote request goes to a usable peer, or fails for want of one, just if the
network that the joined catalog names serves it. -/
theorem picks_usable_peer_iff (n : RemoteNetworks) (model : String) :
    PicksUsablePeer n model ↔ NamedNetworkServes n model := by
  rw [picksUsablePeer_iff]
  unfold NamedNetworkServes dispatchRemoteProxy
  cases scope : networkScopeForModel n.networkModels model n.mode with
  | none => exact unnamed_iff scope
  | some network =>
    cases network with
    | cluster => exact clusterTarget_right_iff (networkScope_cluster scope)
    | swarm => exact swarmTarget_right_iff (networkScope_swarm scope)

private def llamaPeer (peerId : String) : CachedPeerRecord where
  peerId := peerId
  models := [.obj [("name", .str "llama3")]]
  peerInfo := none
  gpuHost := none
  acceptingJobs := true
  listenAddrs := []
  teeCapable := false
  trustLevel := none
  gpuModel := none
  providerStaticPk := none

/-- A cluster in which bob and carol serve a model; the lobby names bob. -/
private def llamaCluster : ClusterView where
  clusterId := "c"
  joined := true
  models := [.obj [("_peer_count", .ofNat 2), ("name", .str "llama3")]]
  peers := [llamaPeer "bob", llamaPeer "carol"]
  approval := fun _ => .ok ("bob", 0)

/-- The networks of a node that uses both kinds and has the model itself. -/
private def bothNetworks (swarms : List SwarmView) (blocked : String → Bool)
    (own : ∀ view ∈ swarms, view.own.peerId = "me") (ids : (swarms.map SwarmView.swarmId).Nodup) :
    RemoteNetworks where
  host := sampleHost true false
  peerId := "me"
  mode := .both
  clusters := [llamaCluster]
  swarms := swarms
  blocked := blocked
  requireTee := false
  allowUnattestedPeers := true
  own_peerId := own
  clusterIds := by decide
  swarmIds := ids

/-- A swarm in which only the node itself has the model. -/
private def lonelySwarm : SwarmView where
  swarmId := "s"
  joined := true
  cache := []
  own := llamaPeer "me"
  present := fun _ => true
  ahead := fun _ _ => true

/-- The node's own record in a swarm hides the cluster's peers, and where there is no
swarm a blocked peer is taken because the lobby names it. -/
theorem usable_peers_passed_over :
    ¬ PicksUsablePeer (bothNetworks [lonelySwarm] (fun _ => false) (by decide) (by decide)) "llama3" ∧
      ¬ PicksUsablePeer (bothNetworks [] (fun peer => peer = "bob") (by decide) (by decide))
        "llama3" := by
  have usable (swarms : List SwarmView) (blocked : String → Bool)
      (own : ∀ view ∈ swarms, view.own.peerId = "me") (ids : (swarms.map SwarmView.swarmId).Nodup)
      (carol : blocked "carol" = false) :
      UsableTarget (bothNetworks swarms blocked own ids) "llama3" ⟨.cluster, "c", "carol"⟩ :=
    ⟨by simp [bothNetworks], llamaCluster, List.mem_singleton_self _, rfl, llamaPeer "carol",
      by simp [llamaCluster], rfl, by simp [llamaPeer, bothNetworks],
      by decide, carol, fun required => by cases required⟩
  constructor
  · rintro ⟨finds, -⟩
    obtain ⟨picked, chosen, -⟩ := finds ⟨_, usable _ _ _ _ rfl⟩
    have failed : (dispatchRemoteProxy (bothNetworks [lonelySwarm] (fun _ => false) (by decide)
        (by decide)) "llama3").toOption = none := by decide +kernel
    rw [chosen] at failed
    cases failed
  · rintro ⟨finds, -⟩
    obtain ⟨picked, chosen, good⟩ := finds ⟨_, usable _ _ _ _ (by decide)⟩
    have named : (dispatchRemoteProxy (bothNetworks [] (fun peer => peer = "bob") (by decide)
        (by decide)) "llama3").toOption = some ⟨.cluster, "c", "bob"⟩ := by decide
    rw [chosen] at named
    cases named
    obtain ⟨-, view, -, -, record, -, same, good⟩ := good
    have blocked := good.notBlocked
    rw [same] at blocked
    revert blocked
    decide

end MtrxPeer
