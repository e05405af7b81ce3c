import MtrxPeer.CatalogAdvertising

/-! What the clusters of a node are told. Each has its own manager, but they share the
hash by which a poll decides that there is nothing new to tell. -/
namespace MtrxPeer

open Function (update update_self update_of_ne)

/-! ## What a poll has to tell -/

/-- What a poll advertises, as its hash sees it. -/
inductive Advertised where
  | maintenance
  | noLlm
  | catalog (models : List Json) (gpuHost : Option Json)

def Advertised.hash (host : CatalogHost) : Advertised → String
  | .maintenance => maintenanceCatalogHash
  | .noLlm => noLlmCatalogHash
  | .catalog models gpuHost => host.catalogHash models gpuHost

/-- An update tells a cluster what is advertised. -/
inductive Tells : CatalogMessage → Advertised → Prop where
  | maintenance (gpuHost : Option Json) : Tells (.updateModels [] gpuHost false) .maintenance
  | noLlm (gpuHost : Option Json) : Tells (.updateModels [] gpuHost true) .noLlm
  | catalog (models : List ListedModel) (gpuHost : Option Json) :
      Tells (.updateModels models gpuHost true) (.catalog (models.map ListedModel.json) gpuHost)

/-- The models that the settings let a cluster know of. -/
def CatalogState.advertisable (s : CatalogState) (listings : Listings) : List ListedModel :=
  filterModelsForClusterAdvertisement (rebuildCatalog s.attached listings).models s.sharing

/-- What a poll would advertise. -/
def CatalogState.advertised (s : CatalogState) (accepting : Bool) (listings : Listings) :
    Advertised :=
  if accepting = false then .maintenance
  else if s.attached = [] then .noLlm
  else .catalog ((s.advertisable listings).map ListedModel.json)
    (rebuildCatalog s.attached listings).gpuHost

variable {host : CatalogHost}

/-- A poll is silent if it is not forced and finds its hash, and else it tells all. -/
theorem pollAndAdvertise_spec (host : CatalogHost) (s : CatalogState) (accepting force : Bool)
    (listings : Listings) :
    (pollAndAdvertise host s accepting force listings).1.attached = s.attached ∧
      (pollAndAdvertise host s accepting force listings).1.sharing = s.sharing ∧
      if force = false ∧ s.lastAdvertisedHash = some ((s.advertised accepting listings).hash host) then
        (pollAndAdvertise host s accepting force listings).2 = []
      else ∃ message, (pollAndAdvertise host s accepting force listings).2 = [message] ∧
        Tells message (s.advertised accepting listings) := by
  cases accepting with
  | false =>
    simp only [pollAndAdvertise, CatalogState.advertised, if_true, Advertised.hash]
    split_ifs
    · exact ⟨rfl, rfl, rfl⟩
    · exact ⟨rfl, rfl, _, rfl, .maintenance _⟩
  | true =>
    by_cases bare : s.attached = []
    · simp only [pollAndAdvertise, CatalogState.advertised, Bool.true_eq_false, if_false, bare,
        if_true, Advertised.hash]
      split_ifs
      · exact ⟨bare, rfl, rfl⟩
      · exact ⟨rfl, rfl, _, rfl, .noLlm _⟩
    · simp only [pollAndAdvertise, CatalogState.advertised, Bool.true_eq_false, if_false, bare,
        Advertised.hash, CatalogState.advertisable]
      split_ifs
      · exact ⟨rfl, rfl, rfl⟩
      · exact ⟨rfl, rfl, _, rfl, .catalog _ _⟩

/-! ## The clusters of a node -/

structure ClustersState where
  catalog : CatalogState
  /-- What the backends answer at the moment. -/
  listings : Listings
  acceptingJobs : String → Bool
  clusterStateVersion : Nat
  lastClusterStateVersion : String → Nat
  /-- The last update that a cluster was sent. -/
  lastUpdate : String → Option CatalogMessage
  /-- The managers that have polled since the catalog or a flag last changed. -/
  polled : String → Bool

inductive ClustersEvent where
  | listingsChanged (listings : Listings)
  | attachedChanged (attached : List LlmServerEntry)
  | sharingChanged (sharing : SharingConfig)
  | acceptingChanged (acceptingJobs : String → Bool)
  /-- `bump_cluster_state`. -/
  | bumped
  | refreshed (task : RefreshTask)
  | refreshLocalCatalog
  | runLocalModel (server : String)
  /-- A poll, which is forced when the cluster has just registered the node. -/
  | poll (cluster : String) (registered : Bool)
  | modelStart (cluster server : String)

/-- Something changed that clusters have to be told. -/
def ClustersState.changed (s : ClustersState) : ClustersState := { s with polled := fun _ => false }

/-- The updates a cluster is sent. -/
def ClustersState.hears (s : ClustersState) (cluster : String) (messages : List CatalogMessage) :
    ClustersState :=
  { s with
    lastUpdate := update s.lastUpdate cluster (messages.getLast?.or (s.lastUpdate cluster)) }

/-- A poll of one manager. In maintenance it does not note the version it has seen. -/
def onPoll (host : CatalogHost) (s : ClustersState) (cluster : String) (registered : Bool) :
    ClustersState × List CatalogMessage :=
  let force := registered || s.clusterStateVersion ≠ s.lastClusterStateVersion cluster
  let accepting := s.acceptingJobs cluster
  let (catalog, messages) := pollAndAdvertise host s.catalog accepting force s.listings
  let seen := if accepting && !messages.isEmpty then
      update s.lastClusterStateVersion cluster s.clusterStateVersion
    else s.lastClusterStateVersion
  ({ s.hears cluster messages with
    catalog := catalog
    lastClusterStateVersion := seen
    polled := update s.polled cluster true }, messages)

def clustersStep (host : CatalogHost) (s : ClustersState) :
    ClustersEvent → ClustersState × List CatalogMessage
  | .listingsChanged listings => ({ s.changed with listings }, [])
  | .attachedChanged attached => ({ s.changed with catalog := { s.catalog with attached } }, [])
  | .sharingChanged sharing => ({ s.changed with catalog := { s.catalog with sharing } }, [])
  | .acceptingChanged acceptingJobs => ({ s.changed with acceptingJobs }, [])
  | .bumped => ({ s with clusterStateVersion := (s.clusterStateVersion + 1) % 2 ^ 64 }, [])
  | .refreshed task => ({ s with catalog := refreshTask s.catalog task s.listings }, [])
  | .refreshLocalCatalog => ({ s with catalog := refreshLocalCatalog s.catalog s.listings }, [])
  | .runLocalModel server =>
    ({ s with catalog := runLocalModelTask s.catalog server (s.listings server) }, [])
  | .poll cluster registered => onPoll host s cluster registered
  | .modelStart cluster server =>
    let (catalog, messages) := executeModelStartTask s.catalog server (s.listings server)
    ({ s.hears cluster messages with catalog }, messages)

def clustersMachine (host : CatalogHost) : Machine ClustersState ClustersEvent CatalogMessage :=
  ⟨clustersStep host⟩

/-- A node that has just started, before any cluster has registered it. -/
def ClustersState.initial (catalog : CatalogState) (listings : Listings)
    (acceptingJobs : String → Bool) : ClustersState where
  catalog := catalog
  listings := listings
  acceptingJobs := acceptingJobs
  clusterStateVersion := 0
  lastClusterStateVersion := fun _ => 0
  lastUpdate := fun _ => none
  polled := fun _ => false

/-! ## Being informed -/

/-- What a cluster has to know. -/
def ClustersState.due (s : ClustersState) (cluster : String) : Advertised :=
  s.catalog.advertised (s.acceptingJobs cluster) s.listings

/-- The last update of a cluster has its flag and the catalog, none in maintenance. -/
def Informed (s : ClustersState) (cluster : String) : Prop :=
  ∃ models gpuHost, s.lastUpdate cluster =
      some (.updateModels models gpuHost (s.acceptingJobs cluster)) ∧
    models.map ListedModel.json =
      if s.acceptingJobs cluster then (s.catalog.advertisable s.listings).map ListedModel.json else []

/-- Every cluster whose manager has polled since the last change is informed. -/
def AllInformed (s : ClustersState) : Prop := ∀ cluster, s.polled cluster = true → Informed s cluster

/-- The shared hash is that of what the cluster itself was last told, and stands for
nothing else. -/
def ToldUnderHash (host : CatalogHost) (s : ClustersState) (cluster : String) : Prop :=
  ∃ message told, s.lastUpdate cluster = some message ∧ Tells message told ∧
    s.catalog.lastAdvertisedHash = some (told.hash host) ∧
    (told.hash host = (s.due cluster).hash host → told = s.due cluster)

/-- A poll is silent only where its own cluster was told under the shared hash, and a
model start by a manager that has polled tells the whole catalog. -/
def KeepsInformed (host : CatalogHost) (s : ClustersState) : ClustersEvent → Prop
  | .poll cluster false => s.clusterStateVersion = s.lastClusterStateVersion cluster →
      s.catalog.lastAdvertisedHash = some ((s.due cluster).hash host) → ToldUnderHash host s cluster
  | .modelStart cluster server => s.polled cluster = true →
      ∀ snapshot ∈ s.listings server, s.acceptingJobs cluster = true ∧
        (filterModelsForClusterAdvertisement (snapshot.untagged server) s.catalog.sharing).map
          ListedModel.json = (s.catalog.advertisable s.listings).map ListedModel.json
  | _ => True

/-- What informs of all that is due informs. -/
private theorem Tells.informed {s : ClustersState} {cluster : String} {message : CatalogMessage}
    (heard : s.lastUpdate cluster = some message) (tells : Tells message (s.due cluster)) :
    Informed s cluster := by
  generalize due : s.due cluster = advertised at tells
  simp only [ClustersState.due, CatalogState.advertised] at due
  cases tells with
  | maintenance gpuHost =>
    split_ifs at due with paused
    exact ⟨[], gpuHost, by rw [heard, paused], by simp [paused]⟩
  | noLlm gpuHost =>
    split_ifs at due with paused bare
    have accepting : s.acceptingJobs cluster = true := by simpa using paused
    refine ⟨[], gpuHost, by rw [heard, accepting], ?_⟩
    simp [CatalogState.advertisable, bare, rebuildCatalog, catalogListings, mergeCatalogSnapshots,
      filterModelsForClusterAdvertisement]
  | catalog models gpuHost =>
    split_ifs at due with paused bare
    have accepting : s.acceptingJobs cluster = true := by simpa using paused
    refine ⟨models, gpuHost, by rw [heard, accepting], ?_⟩
    rw [accepting, if_pos rfl]
    exact (Advertised.catalog.inj due).1.symm

/-! ## Runs -/

/-- What changes neither what is due to a cluster nor what it heard leaves it informed. -/
private theorem Informed.same {s s' : ClustersState} {cluster : String} (informed : Informed s cluster)
    (flag : s'.acceptingJobs cluster = s.acceptingJobs cluster)
    (heard : s'.lastUpdate cluster = s.lastUpdate cluster)
    (catalog : s'.catalog.advertisable s'.listings = s.catalog.advertisable s.listings) :
    Informed s' cluster := by
  obtain ⟨models, gpuHost, last, lists⟩ := informed
  exact ⟨models, gpuHost, by rw [heard, flag, last], by rw [flag, catalog, lists]⟩

/-- After a change nobody has polled. -/
private theorem changed_informed {s : ClustersState} (fresh : s.polled = fun _ => false) :
    AllInformed s := by
  intro cluster polled
  rw [fresh] at polled
  cases polled

private theorem refreshTask_frame (s : CatalogState) (task : RefreshTask) (listings : Listings) :
    (refreshTask s task listings).attached = s.attached ∧
      (refreshTask s task listings).sharing = s.sharing := by
  unfold refreshTask
  split_ifs
  · exact ⟨rfl, rfl⟩
  · exact ⟨rfl, rfl⟩
  · exact ⟨rfl, rfl⟩

private theorem refreshLocalCatalog_frame (s : CatalogState) (listings : Listings) :
    (refreshLocalCatalog s listings).attached = s.attached ∧
      (refreshLocalCatalog s listings).sharing = s.sharing := by
  unfold refreshLocalCatalog
  split_ifs
  · exact ⟨rfl, rfl⟩
  · exact ⟨rfl, rfl⟩

private theorem advertisable_congr {s s' : CatalogState} (attached : s'.attached = s.attached)
    (sharing : s'.sharing = s.sharing) (listings : Listings) :
    s'.advertisable listings = s.advertisable listings := by
  rw [CatalogState.advertisable, CatalogState.advertisable, attached, sharing]

/-- What a poll leaves as it was. -/
private theorem onPoll_frame (host : CatalogHost) (s : ClustersState) (cluster : String) (registered : Bool) :
    (onPoll host s cluster registered).1.acceptingJobs = s.acceptingJobs ∧
      (onPoll host s cluster registered).1.listings = s.listings ∧
      (onPoll host s cluster registered).1.catalog.attached = s.catalog.attached ∧
      (onPoll host s cluster registered).1.catalog.sharing = s.catalog.sharing ∧
      (∀ other ≠ cluster,
        (onPoll host s cluster registered).1.lastUpdate other = s.lastUpdate other ∧
        (onPoll host s cluster registered).1.polled other = s.polled other) := by
  obtain ⟨attached, sharing, -⟩ := pollAndAdvertise_spec host s.catalog
    (s.acceptingJobs cluster)
    (registered || s.clusterStateVersion ≠ s.lastClusterStateVersion cluster) s.listings
  exact ⟨rfl, rfl, attached, sharing, fun other apart => ⟨update_of_ne apart .., update_of_ne apart ..⟩⟩

/-- After a poll the cluster was last told what is due. -/
private theorem onPoll_tells {s : ClustersState} {cluster : String} {registered : Bool}
    (keeps : KeepsInformed host s (.poll cluster registered)) :
    ∃ message, (onPoll host s cluster registered).1.lastUpdate cluster = some message ∧
      Tells message (s.due cluster) := by
  obtain ⟨-, -, tells⟩ := pollAndAdvertise_spec host s.catalog (s.acceptingJobs cluster)
    (registered || s.clusterStateVersion ≠ s.lastClusterStateVersion cluster) s.listings
  simp only [onPoll, ClustersState.hears, update_self]
  split_ifs at tells with silent
  · rw [tells]
    cases registered with
    | true => cases silent.1
    | false =>
      have seen : s.clusterStateVersion = s.lastClusterStateVersion cluster := by
        simpa using silent.1
      obtain ⟨message, told, last, saying, hash, unique⟩ := keeps seen silent.2
      have due : told = s.due cluster := unique (Option.some.inj (hash.symm.trans silent.2))
      exact ⟨message, by simp [last], due ▸ saying⟩
  · obtain ⟨message, sent, saying⟩ := tells
    exact ⟨message, by rw [sent]; rfl, saying⟩

/-- A poll informs its cluster and leaves the others as they are. -/
private theorem onPoll_informed {s : ClustersState} {cluster : String} {registered : Bool}
    (all : AllInformed s) (keeps : KeepsInformed host s (.poll cluster registered)) :
    AllInformed (onPoll host s cluster registered).1 := by
  obtain ⟨flags, listings, attached, sharing, others⟩ :=
    onPoll_frame host s cluster registered
  intro other polled
  by_cases mine : other = cluster
  · subst mine
    obtain ⟨message, heard, saying⟩ := onPoll_tells keeps
    have due : (onPoll host s other registered).1.due other = s.due other := by
      simp only [ClustersState.due, CatalogState.advertised, CatalogState.advertisable, flags,
        listings, attached, sharing]
    exact Tells.informed heard (due ▸ saying)
  · rw [(others other mine).2] at polled
    refine (all other polled).same (congrFun flags other) (others other mine).1 ?_
    rw [listings, advertisable_congr attached sharing]

private theorem modelStart_informed {s : ClustersState} {cluster server : String}
    (all : AllInformed s) (keeps : KeepsInformed host s (.modelStart cluster server)) :
    AllInformed (clustersStep host s (.modelStart cluster server)).1 := by
  cases listing : s.listings server with
  | none =>
    have quiet : (clustersStep host s (.modelStart cluster server)).1 = s.hears cluster [] := by
      simp only [clustersStep, listing, executeModelStartTask, ClustersState.hears]
    rw [quiet]
    exact fun other polled => (all other polled).same rfl (by simp [ClustersState.hears]) rfl
  | some snapshot =>
    have stored : (clustersStep host s (.modelStart cluster server)).1 =
        { s.hears cluster [.updateModels (filterModelsForClusterAdvertisement
            (snapshot.untagged server) s.catalog.sharing) snapshot.gpuHost true] with
          catalog := s.catalog.store (snapshot.untagged server) snapshot.gpuHost } := by
      simp only [clustersStep, listing, executeModelStartTask]
    rw [stored]
    intro other polled
    by_cases mine : other = cluster
    · subst mine
      obtain ⟨accepting, whole⟩ := keeps polled snapshot listing
      refine ⟨filterModelsForClusterAdvertisement (snapshot.untagged server) s.catalog.sharing,
        snapshot.gpuHost, ?_, ?_⟩
      · simp only [ClustersState.hears, update_self, accepting, List.getLast?_singleton,
          Option.some_or]
      · simp only [ClustersState.hears, accepting, if_true]
        exact whole
    · exact (all other polled).same rfl (update_of_ne mine ..) rfl

/-- Each step that meets the condition leaves those informed who have polled. -/
theorem clustersStep_informed {s : ClustersState} {e : ClustersEvent} (all : AllInformed s)
    (keeps : KeepsInformed host s e) : AllInformed (clustersStep host s e).1 := by
  cases e with
  | listingsChanged listings => exact changed_informed rfl
  | attachedChanged attached => exact changed_informed rfl
  | sharingChanged sharing => exact changed_informed rfl
  | acceptingChanged acceptingJobs => exact changed_informed rfl
  | bumped => exact all
  | refreshed task =>
    obtain ⟨attached, sharing⟩ := refreshTask_frame s.catalog task s.listings
    exact fun other polled =>
      (all other polled).same rfl rfl (advertisable_congr attached sharing s.listings)
  | refreshLocalCatalog =>
    obtain ⟨attached, sharing⟩ := refreshLocalCatalog_frame s.catalog s.listings
    exact fun other polled =>
      (all other polled).same rfl rfl (advertisable_congr attached sharing s.listings)
  | runLocalModel server =>
    refine fun other polled => (all other polled).same rfl rfl ?_
    simp only [clustersStep]
    cases s.listings server <;> rfl
  | poll cluster registered => exact onPoll_informed all keeps
  | modelStart cluster server => exact modelStart_informed all keeps

/-- Where every step meets the condition, each cluster whose manager has polled since the
last change knows the catalog and its flag, after each step. -/
theorem clusters_informed (host : CatalogHost) (catalog : CatalogState) (listings : Listings)
    (acceptingJobs : String → Bool) (events : List ClustersEvent)
    (keeps : (clustersMachine host).Along (KeepsInformed host)
      (.initial catalog listings acceptingJobs) events) :
    (clustersMachine host).Along (fun s e => AllInformed (clustersStep host s e).1)
      (.initial catalog listings acceptingJobs) events :=
  Machine.Along.kept (I := AllInformed) (fun _ _ all meets => clustersStep_informed all meets)
    (changed_informed rfl) keeps

private def countingHost : CatalogHost where
  catalogHash models _ := toString models.length
  gossipLength _ := 0
  compactPeerInfo info := info
  compactGpu gpu := gpu

private def oneServer : LlmServerEntry := ⟨"gpu", "ollama", "http://gpu:11434", none, 0, true⟩

private def sharedCatalog : CatalogState := .initial ⟨[oneServer], []⟩ [oneServer] none

private def servesLoaded (names : List String) : Listings := fun _ =>
  some ⟨names.map fun name =>
    .obj [("_status", .obj [("loaded", .bool true)]), ("name", .str name)], none⟩

/-- A model is added, the version is bumped, and both managers poll. -/
theorem clusters_informed_sample :
    (clustersMachine countingHost).Along
      (fun s e => AllInformed (clustersStep countingHost s e).1)
      (.initial sharedCatalog (servesLoaded ["llama3"]) fun _ => true)
      [.poll "a" true, .poll "b" true, .listingsChanged (servesLoaded ["llama3", "phi3"]), .bumped,
        .poll "a" false, .poll "b" false] :=
  clusters_informed _ _ _ _ _ ⟨trivial, trivial, trivial, trivial,
    fun seen => absurd seen (by decide), fun seen => absurd seen (by decide), trivial⟩

/-- The number of models and the flag that a cluster was last told. -/
private def heardOf (s : ClustersState) (cluster : String) : Option (Nat × Bool) :=
  (s.lastUpdate cluster).bind fun
    | .updateModels models _ acceptingJobs => some (models.length, acceptingJobs)
    | _ => none

private theorem Informed.heard {s : ClustersState} {cluster : String} (informed : Informed s cluster) :
    heardOf s cluster = some (if s.acceptingJobs cluster then (s.catalog.advertisable s.listings).length
      else 0, s.acceptingJobs cluster) := by
  obtain ⟨models, gpuHost, last, lists⟩ := informed
  have length := congrArg List.length lists
  rw [List.length_map] at length
  simp only [heardOf, last, Option.bind_some, Option.some.injEq, Prod.mk.injEq, and_true]
  rw [length]
  split_ifs
  · exact List.length_map ..
  · rfl

/-- A second cluster is not told of a new model, nor of a pause of all clusters; and a
start in a paused cluster tells it that jobs are accepted. -/
theorem clusters_not_informed :
    ¬ (clustersMachine countingHost).Along
        (fun s e => AllInformed (clustersStep countingHost s e).1)
        (.initial sharedCatalog (servesLoaded ["llama3"]) fun _ => true)
        [.poll "a" true, .poll "b" true, .listingsChanged (servesLoaded ["llama3", "phi3"]),
          .poll "a" false, .poll "b" false] ∧
      ¬ (clustersMachine countingHost).Along
        (fun s e => AllInformed (clustersStep countingHost s e).1)
        (.initial sharedCatalog (servesLoaded ["llama3"]) fun _ => true)
        [.poll "a" true, .poll "b" true, .acceptingChanged fun _ => false, .poll "a" false,
          .poll "b" false] ∧
      ¬ (clustersMachine countingHost).Along
        (fun s e => AllInformed (clustersStep countingHost s e).1)
        (.initial sharedCatalog (servesLoaded ["llama3"]) fun _ => false)
        [.poll "a" true, .modelStart "a" "gpu"] := by
  refine ⟨?_, ?_, ?_⟩
  · rintro ⟨-, -, -, -, last, -⟩
    have heard := (last "b" rfl).heard
    revert heard
    decide
  · rintro ⟨-, -, -, -, last, -⟩
    have heard := (last "b" rfl).heard
    revert heard
    decide
  · rintro ⟨-, last, -⟩
    have heard := (last "a" rfl).heard
    revert heard
    decide

end MtrxPeer
