import MtrxPeer.CatalogAdvertising

/-! Where a chat request goes. The router asks the shared list of local models; the
registry has its own route table, and not every task that writes the one writes the
other. -/
namespace MtrxPeer

/-! ## The router -/

/-- Where the proxy sends a chat request. -/
inductive ChatTarget where
  | remote (model : String)
  | backend (backend : LlmBackend)
  | refused (status : Nat) (text : String)

/-- What the router reads. -/
structure RouterView where
  registry : Registry
  localModels : List String
  setupComplete : Bool

def firstOllamaBackend (registry : Registry) : Option LlmBackend :=
  ((registry.servers.insertionSort fun a b => a.order ≤ b.order).find? fun s =>
    s.backend.supportsOllamaNative).map ServerRuntime.backend

def resolveOllamaBackendForModel (registry : Registry) (model : String) : Option LlmBackend :=
  match resolveBackend registry model with
  | some backend =>
    if backend.supportsOllamaNative then some backend else firstOllamaBackend registry
  | none => firstOllamaBackend registry

def requireBackendForModel (view : RouterView) (model : Option String) : ChatTarget :=
  if view.setupComplete = false then
    .refused 503 "Setup not complete — open the web UI at /"
  else
    match model with
    | some model =>
      match resolveBackend view.registry model with
      | some backend => .backend backend
      | none => .refused 404 ("No attached server hosts model '" ++ model ++ "'")
    | none =>
      match firstAttachedBackend view.registry with
      | some backend => .backend backend
      | none => .refused 503 "No LLM servers attached"

/-- The choice of `handle_agent_chat_request` for the model its body names. -/
def handleAgentChatRequest (view : RouterView) (model : Option String) : ChatTarget :=
  match model with
  | some model =>
    if model ∉ view.localModels then .remote model else requireBackendForModel view (some model)
  | none => requireBackendForModel view (some "")

/-- The choice of `handle_proxy_request`. -/
def handleProxyRequest (view : RouterView) (model : Option String) : ChatTarget :=
  match model with
  | some model =>
    if model ∉ view.localModels then .remote model
    else match resolveOllamaBackendForModel view.registry model with
      | some backend => .backend backend
      | none => .refused 503 "No LLM servers attached"
  | none =>
    match firstOllamaBackend view.registry with
    | some backend => .backend backend
    | none => .refused 503 "No LLM servers attached"

/-- `chat_completion`, which looks at the routes first. -/
def chatCompletion (view : RouterView) (model : Option String) : ChatTarget :=
  if ∃ name ∈ model, resolveBackend view.registry name = none then handleProxyRequest view model
  else
    match requireBackendForModel view model with
    | .backend backend =>
      if backend.supportsOllamaNative then handleProxyRequest view model else .backend backend
    | refused => refused

/-- The list has the names that have a local route. -/
def ListsRoutedModels (view : RouterView) : Prop :=
  ∀ name, name ∈ view.localModels ↔ (resolveBackend view.registry name).isSome

/-- A chat request for a model with a local route gets that route's backend. -/
def RoutedStayLocal (view : RouterView) : Prop :=
  view.setupComplete = true → ∀ model backend, resolveBackend view.registry model = some backend →
    handleAgentChatRequest view (some model) = .backend backend ∧
      chatCompletion view (some model) = .backend backend

theorem ListsRoutedModels.stayLocal {view : RouterView} (lists : ListsRoutedModels view) :
    RoutedStayLocal view := by
  intro ready model backend routed
  have listed : model ∈ view.localModels := (lists model).mpr (by rw [routed]; rfl)
  constructor
  · simp [handleAgentChatRequest, requireBackendForModel, listed, ready, routed]
  · by_cases native : backend.supportsOllamaNative = true
    · simp [chatCompletion, requireBackendForModel, handleProxyRequest, resolveOllamaBackendForModel,
        listed, ready, routed, native]
    · simp [chatCompletion, requireBackendForModel, ready, routed, native]

/-! ## The tasks -/

/-- What the tasks share, and the route table of the registry. -/
structure RoutingState where
  catalog : CatalogState
  modelRoutes : String → Option String

inductive RoutingEvent where
  | catalog (event : CatalogEvent)
  /-- `detach` or `remove_server`. -/
  | detached (id : String)

/-- `local_models`: a task that stores a list stores its names with it. -/
def CatalogState.localModels (s : CatalogState) : List String := listedNames s.localModelsFull

variable (backendOf : LlmServerEntry → LlmBackend)

def CatalogState.servers (s : CatalogState) : List ServerRuntime :=
  s.attached.map fun entry => ⟨entry.id, entry.order, backendOf entry⟩

def RoutingState.view (s : RoutingState) (setupComplete : Bool) : RouterView where
  registry := ⟨s.catalog.servers backendOf, s.modelRoutes⟩
  localModels := s.catalog.localModels
  setupComplete := setupComplete

/-- What a task rebuilds the registry's catalog from, if it does. -/
def rebuildsFrom (s : CatalogState) : CatalogEvent → Option Listings
  | .refreshed task listings =>
    if s.attached = [] ∧ task ≠ .inferenceCell then none else some listings
  | .pollAndAdvertise accepting _ listings =>
    if accepting = false ∨ s.attached = [] then none else some listings
  | .refreshLocalCatalog listings => if s.attached = [] then none else some listings
  | _ => none

variable (host : CatalogHost)

def routingStep (s : RoutingState) : RoutingEvent → RoutingState × List CatalogMessage
  | .catalog event =>
    let (catalog, messages) := catalogStep host s.catalog event
    let routes := match rebuildsFrom s.catalog event with
      | some listings => modelRoutes (rebuildCatalog s.catalog.attached listings).models
      | none => s.modelRoutes
    (⟨catalog, routes⟩, messages)
  | .detached id =>
    (⟨{ s.catalog with attached := s.catalog.attached.filter (·.id ≠ id) }, fun _ => none⟩, [])

def routingMachine : Machine RoutingState RoutingEvent CatalogMessage := ⟨routingStep host⟩

/-- A node that has just started. -/
def RoutingState.initial (sharing : SharingConfig) (attached : List LlmServerEntry)
    (peerInfo : Option Json) : RoutingState :=
  ⟨.initial sharing attached peerInfo, fun _ => none⟩

/-! ## Agreement -/

/-- A route leads to an attached server. -/
def Routed (attached : List LlmServerEntry) (routes : String → Option String) (name : String) :
    Prop :=
  ∃ entry ∈ attached, routes name = some entry.id

/-- The list has the names whose route leads to an attached server. -/
def RoutesListedIn (s : RoutingState) : Prop :=
  ∀ name, name ∈ s.catalog.localModels ↔ Routed s.catalog.attached s.modelRoutes name

/-- A step that leaves the list in agreement with the routes: a started server lists
just the routed models, a poll that stores nothing finds the names that are stored, the
swarm's filter drops no model, and servers that come or go take no route along. -/
def KeepsRoutesListed (s : RoutingState) : RoutingEvent → Prop
  | .catalog (.attachedChanged attached) =>
    ∀ name, Routed s.catalog.attached s.modelRoutes name ↔ Routed attached s.modelRoutes name
  | .catalog (.runLocalModel _ (some snapshot)) | .catalog (.executeModelStart _ (some snapshot)) =>
    ∀ name, name ∈ snapshot.models.filterMap modelName ↔
      Routed s.catalog.attached s.modelRoutes name
  | .catalog (.pollAndAdvertise true false listings) =>
    let catalog := rebuildCatalog s.catalog.attached listings
    s.catalog.attached ≠ [] →
      s.catalog.lastAdvertisedHash = some (host.catalogHash
        ((filterModelsForClusterAdvertisement catalog.models s.catalog.sharing).map ListedModel.json)
        catalog.gpuHost) →
      ∀ name, name ∈ s.catalog.localModels ↔ name ∈ catalog.modelNames
  | .catalog (.refreshLocalCatalog listings) =>
    ∀ model ∈ (rebuildCatalog s.catalog.attached listings).models,
      mayAdvertise s.catalog.sharing model.json = true
  | .detached _ => ∀ name, ¬ Routed s.catalog.attached s.modelRoutes name
  | _ => True

variable {backendOf host}

theorem routed_iff {s : RoutingState} {ready : Bool} {name : String} :
    (resolveBackend (s.view backendOf ready).registry name).isSome ↔
      Routed s.catalog.attached s.modelRoutes name := by
  cases route : s.modelRoutes name with
  | none => simp [resolveBackend, RoutingState.view, Routed, route]
  | some id =>
    simp only [resolveBackend, RoutingState.view, CatalogState.servers, Routed, route,
      Option.bind_some, Option.isSome_map, List.find?_isSome, List.mem_map, decide_eq_true_eq,
      Option.some.injEq]
    constructor
    · rintro ⟨-, ⟨entry, member, rfl⟩, same⟩
      exact ⟨entry, member, same.symm⟩
    · rintro ⟨entry, member, same⟩
      exact ⟨_, ⟨entry, member, rfl⟩, same.symm⟩

/-- The registry routes what it has just rebuilt. -/
theorem routed_rebuilt (attached : List LlmServerEntry) (listings : Listings) (name : String) :
    Routed attached (modelRoutes (rebuildCatalog attached listings).models) name ↔
      name ∈ (rebuildCatalog attached listings).modelNames := by
  rw [rebuildCatalog, mergeCatalogSnapshots_listed, Option.isSome_iff_exists]
  constructor
  · rintro ⟨entry, -, route⟩
    exact ⟨entry.id, route⟩
  · rintro ⟨id, route⟩
    have first := route
    rw [mergeCatalogSnapshots_route] at first
    obtain ⟨listing, found, rfl⟩ := Option.map_eq_some_iff.mp first
    exact ⟨listing.1, catalogListings_attached (List.mem_of_find?_eq_some found), route⟩

private theorem nothing_routed {routes : String → Option String} {name : String} :
    ¬ Routed [] routes name := by
  rintro ⟨entry, member, -⟩
  cases member

/-- Lists and routes that come from one rebuild agree. -/
private theorem rebuilt_listed {s : RoutingState} (listings : Listings)
    (stored : s.catalog.localModelsFull = (rebuildCatalog s.catalog.attached listings).models)
    (routed : s.modelRoutes = modelRoutes (rebuildCatalog s.catalog.attached listings).models) :
    RoutesListedIn s := by
  intro name
  rw [CatalogState.localModels, stored, routed, routed_rebuilt, rebuildCatalog,
    listedNames_mergeCatalogSnapshots]

/-- With no server attached, the empty list agrees with every route table. -/
private theorem cleared_listed {s : RoutingState} (bare : s.catalog.attached = [])
    (stored : s.catalog.localModelsFull = []) : RoutesListedIn s := by
  intro name
  rw [CatalogState.localModels, stored, bare]
  simp [listedNames, nothing_routed]

private theorem refreshTask_listed {s : RoutingState} (lists : RoutesListedIn s) (task : RefreshTask)
    (listings : Listings) :
    RoutesListedIn (routingStep host s (.catalog (.refreshed task listings))).1 := by
  by_cases bare : s.catalog.attached = []
  · cases task with
    | startup => simpa [routingStep, catalogStep, refreshTask, rebuildsFrom, bare] using lists
    | llmMonitor => simpa [routingStep, catalogStep, refreshTask, rebuildsFrom, bare] using lists
    | configSync =>
      refine cleared_listed ?_ ?_
      · simp [routingStep, catalogStep, refreshTask, bare]
      · simp [routingStep, catalogStep, refreshTask, bare]
    | inferenceCell =>
      refine rebuilt_listed listings ?_ ?_
      · simp [routingStep, catalogStep, refreshTask, CatalogState.store]
      · simp [routingStep, catalogStep, refreshTask, rebuildsFrom, CatalogState.store]
  · refine rebuilt_listed listings ?_ ?_
    · simp [routingStep, catalogStep, refreshTask, CatalogState.store, bare]
    · simp [routingStep, catalogStep, refreshTask, rebuildsFrom, CatalogState.store, bare]

/-- A start stores one server's list and leaves the routes as they are. -/
private theorem started_listed {s : RoutingState} {catalog : CatalogState}
    {snapshot : ModelCatalogSnapshot} {server : String}
    (stored : catalog.localModelsFull = snapshot.untagged server)
    (same : catalog.attached = s.catalog.attached) :
    RoutesListedIn ⟨catalog, s.modelRoutes⟩ ↔
      ∀ name, name ∈ snapshot.models.filterMap modelName ↔
        Routed s.catalog.attached s.modelRoutes name := by
  have names : catalog.localModels = snapshot.models.filterMap modelName := by
    rw [CatalogState.localModels, stored, ModelCatalogSnapshot.untagged, listedNames,
      List.filterMap_map]
    rfl
  simp only [RoutesListedIn, names, same]

private theorem refreshLocalCatalog_listed (s : RoutingState) (listings : Listings) :
    RoutesListedIn (routingStep host s (.catalog (.refreshLocalCatalog listings))).1 ↔
      ∀ model ∈ (rebuildCatalog s.catalog.attached listings).models,
        mayAdvertise s.catalog.sharing model.json = true := by
  by_cases bare : s.catalog.attached = []
  · refine iff_of_true (cleared_listed ?_ ?_) ?_
    · simp [routingStep, catalogStep, refreshLocalCatalog, bare]
    · simp [routingStep, catalogStep, refreshLocalCatalog, bare]
    · simp [bare, rebuildCatalog, catalogListings, mergeCatalogSnapshots]
  · rw [rebuildCatalog, ← listedNames_filter_iff]
    refine forall_congr' fun name => ?_
    have routed := routed_rebuilt s.catalog.attached listings name
    simp only [routingStep, catalogStep, refreshLocalCatalog, rebuildsFrom, bare, if_false,
      CatalogState.store, CatalogState.localModels] at *
    rw [routed]
    rfl

/-- A poll in maintenance mode touches neither the list nor the servers. -/
private theorem maintenance_frame (host : CatalogHost) (s : CatalogState) (force : Bool) (listings : Listings) :
    (pollAndAdvertise host s false force listings).1.attached = s.attached ∧
      (pollAndAdvertise host s false force listings).1.localModelsFull = s.localModelsFull := by
  simp only [pollAndAdvertise, if_true]
  split_ifs
  · exact ⟨rfl, rfl⟩
  · exact ⟨rfl, rfl⟩

/-- Without servers a poll keeps the list or clears it. -/
private theorem no_server_frame (host : CatalogHost) {s : CatalogState} (bare : s.attached = []) (force : Bool)
    (listings : Listings) :
    (pollAndAdvertise host s true force listings).1.attached = s.attached ∧
      ((pollAndAdvertise host s true force listings).1.localModelsFull = s.localModelsFull ∨
        (pollAndAdvertise host s true force listings).1.localModelsFull = []) := by
  simp only [pollAndAdvertise, bare, if_true, Bool.true_eq_false, if_false]
  split_ifs
  · exact ⟨bare, .inl rfl⟩
  · exact ⟨rfl, .inr rfl⟩

private theorem pollAndAdvertise_listed {s : RoutingState} (lists : RoutesListedIn s)
    (accepting force : Bool) (listings : Listings) :
    RoutesListedIn (routingStep host s (.catalog (.pollAndAdvertise accepting force listings))).1 ↔
      KeepsRoutesListed host s (.catalog (.pollAndAdvertise accepting force listings)) := by
  cases accepting with
  | false =>
    obtain ⟨attached, stored⟩ := maintenance_frame host s.catalog force listings
    refine iff_of_true (fun name => ?_) (by simp [KeepsRoutesListed])
    simp only [routingStep, catalogStep, rebuildsFrom, true_or, if_true, CatalogState.localModels,
      stored, attached]
    exact lists name
  | true =>
    by_cases bare : s.catalog.attached = []
    · have met : KeepsRoutesListed host s (.catalog (.pollAndAdvertise true force listings)) := by
        cases force <;> simp [KeepsRoutesListed, bare]
      obtain ⟨attached, stored⟩ := no_server_frame host bare force listings
      refine iff_of_true ?_ met
      rcases stored with kept | cleared
      · intro name
        simp only [routingStep, catalogStep, rebuildsFrom, bare, or_true, if_true,
          CatalogState.localModels, kept, attached]
        simpa [CatalogState.localModels, bare] using lists name
      · exact cleared_listed (attached.trans bare) cleared
    · have rebuilt : (routingStep host s
            (.catalog (.pollAndAdvertise true force listings))).1.modelRoutes =
          modelRoutes (rebuildCatalog s.catalog.attached listings).models := by
        simp [routingStep, rebuildsFrom, bare]
      by_cases quiet : force = false ∧ s.catalog.lastAdvertisedHash = some (host.catalogHash
          ((filterModelsForClusterAdvertisement (rebuildCatalog s.catalog.attached listings).models
            s.catalog.sharing).map ListedModel.json)
          (rebuildCatalog s.catalog.attached listings).gpuHost)
      · -- The routes are new and the list is the old one.
        have kept : (routingStep host s
            (.catalog (.pollAndAdvertise true force listings))).1.catalog = s.catalog := by
          simp [routingStep, catalogStep, pollAndAdvertise, bare, quiet]
        obtain ⟨rfl, same⟩ := quiet
        simp only [RoutesListedIn, KeepsRoutesListed, kept, rebuilt, routed_rebuilt]
        exact ⟨fun agree _ _ => agree, fun agree => agree bare same⟩
      · have met : KeepsRoutesListed host s (.catalog (.pollAndAdvertise true force listings)) := by
          cases force with
          | true => trivial
          | false => exact fun _ same => absurd ⟨rfl, same⟩ quiet
        refine iff_of_true (rebuilt_listed listings ?_ ?_) met
        · simp [routingStep, catalogStep, pollAndAdvertise, CatalogState.store, bare, quiet]
        · simp [routingStep, catalogStep, pollAndAdvertise, CatalogState.store, rebuildsFrom, bare,
            quiet]

/-- Where the list agreed with the routes, it does so after a step just if the step
keeps it so. -/
theorem routingStep_listed_iff {s : RoutingState} (lists : RoutesListedIn s) (e : RoutingEvent) :
    RoutesListedIn (routingStep host s e).1 ↔ KeepsRoutesListed host s e := by
  cases e with
  | detached id =>
    have empty : (∀ name, ¬ Routed s.catalog.attached s.modelRoutes name) ↔
        s.catalog.localModels = [] := by
      rw [List.eq_nil_iff_forall_not_mem]
      exact forall_congr' fun name => not_congr (lists name).symm
    have unrouted (name : String) :
        ¬ Routed (s.catalog.attached.filter (·.id ≠ id)) (fun _ => none) name := by
      rintro ⟨entry, _, route⟩
      cases route
    rw [KeepsRoutesListed, empty, List.eq_nil_iff_forall_not_mem]
    exact forall_congr' fun name => iff_false_right (unrouted name)
  | catalog event =>
    cases event with
    | sharingChanged sharing => exact iff_of_true lists trivial
    | attachedChanged attached =>
      refine forall_congr' fun name => ?_
      exact ⟨fun agree => (lists name).symm.trans agree, fun same => (lists name).trans same⟩
    | refreshed task listings => exact iff_of_true (refreshTask_listed lists task listings) trivial
    | runLocalModel server listing =>
      cases listing with
      | none => exact iff_of_true lists trivial
      | some snapshot => exact started_listed rfl rfl
    | executeModelStart server listing =>
      cases listing with
      | none => exact iff_of_true lists trivial
      | some snapshot => exact started_listed rfl rfl
    | pollAndAdvertise accepting force listings =>
      exact pollAndAdvertise_listed lists accepting force listings
    | refreshLocalCatalog listings => exact refreshLocalCatalog_listed s listings
    | publishCatalog => exact iff_of_true lists trivial
    | catalogSync => exact iff_of_true lists trivial

/-- The list names just the models with a local route, and so a chat request for such
a model stays on its backend. -/
def ServedLocally (backendOf : LlmServerEntry → LlmBackend) (s : RoutingState) : Prop :=
  ∀ ready, ListsRoutedModels (s.view backendOf ready) ∧ RoutedStayLocal (s.view backendOf ready)

theorem servedLocally_iff {s : RoutingState} : ServedLocally backendOf s ↔ RoutesListedIn s := by
  have lists (ready : Bool) : ListsRoutedModels (s.view backendOf ready) ↔ RoutesListedIn s :=
    forall_congr' fun name => iff_congr Iff.rfl routed_iff
  constructor
  · exact fun served => (lists true).mp (served true).1
  · exact fun agree ready => ⟨(lists ready).mpr agree, ((lists ready).mpr agree).stayLocal⟩

/-- In every order of the tasks, the models that are served locally stay local after
each step just if each step keeps the list and the routes in agreement. -/
theorem local_models_stay_local_iff (host : CatalogHost) (backendOf : LlmServerEntry → LlmBackend)
    (sharing : SharingConfig) (attached : List LlmServerEntry) (peerInfo : Option Json)
    (events : List RoutingEvent) :
    (routingMachine host).Along (fun s e => ServedLocally backendOf (routingStep host s e).1)
        (.initial sharing attached peerInfo) events ↔
      (routingMachine host).Along (KeepsRoutesListed host) (.initial sharing attached peerInfo)
        events := by
  refine Machine.along_kept_iff (m := routingMachine host) (I := ServedLocally backendOf) ?_ ?_
  · intro s e served
    exact servedLocally_iff.trans (routingStep_listed_iff (servedLocally_iff.mp served) e)
  · refine servedLocally_iff.mpr fun name => ?_
    simp [RoutingState.initial, CatalogState.initial, CatalogState.localModels, listedNames, Routed]

private def ollamaAt (entry : LlmServerEntry) : LlmBackend := .fromServerEntry .ollama entry.url

private def plainCatalogHost : CatalogHost where
  catalogHash _ _ := ""
  gossipLength _ := 0
  compactPeerInfo info := info
  compactGpu gpu := gpu

private def twoServers : List LlmServerEntry :=
  [⟨"gpu", "ollama", "http://gpu:11434", none, 0, true⟩,
    ⟨"cpu", "ollama", "http://cpu:11434", none, 1, true⟩]

private def namedModel (name : String) : ModelCatalogSnapshot := ⟨[.obj [("name", .str name)]], none⟩

/-- One server has llama3, the other phi3; neither model is loaded. -/
private def twoListings : Listings := fun server =>
  some (namedModel (if server = "gpu" then "llama3" else "phi3"))

/-- A model that a backend of the node serves is sent to a remote peer. -/
private def SentAway (events : List RoutingEvent) (model : String) : Prop :=
  let view := ((routingMachine plainCatalogHost).after
    (.initial ⟨twoServers, []⟩ twoServers none) events).view ollamaAt true
  (resolveBackend view.registry model).isSome ∧
    handleAgentChatRequest view (some model) = .remote model

private theorem sentAway_of_unlisted {events : List RoutingEvent} {model : String}
    (missing : (((routingMachine plainCatalogHost).after
      (.initial ⟨twoServers, []⟩ twoServers none) events).view ollamaAt true).localModels.contains
        model = false)
    (routed : (resolveBackend (((routingMachine plainCatalogHost).after
      (.initial ⟨twoServers, []⟩ twoServers none) events).view ollamaAt true).registry
        model).isSome = true) : SentAway events model := by
  refine ⟨routed, ?_⟩
  have unlisted := missing
  simp only [List.contains_eq_mem, decide_eq_false_iff_not] at unlisted
  simp only [handleAgentChatRequest, unlisted, not_false_eq_true, if_true]

/-- After a swarm refresh a model that is not loaded is sent away; after a start on one
server, the other server's model is. -/
theorem routed_models_sent_away :
    SentAway [.catalog (.refreshLocalCatalog twoListings)] "llama3" ∧
      SentAway [.catalog (.refreshed .startup twoListings),
        .catalog (.runLocalModel "gpu" (some (namedModel "llama3")))] "phi3" :=
  ⟨sentAway_of_unlisted (by decide) (by decide),
    sentAway_of_unlisted (by decide) (by decide)⟩

end MtrxPeer
