import MtrxPeer.LlmProxy

/-! The registry's catalog: the model lists of the attached servers merged under
one name each, the routes that follow from it, and the part that may be announced. -/
namespace MtrxPeer

open Function (update update_self update_of_ne)

structure LlmServerEntry where
  id : String
  kind : String
  url : String
  label : Option String
  order : Nat
  advertiseToCluster : Bool
  deriving DecidableEq

/-- The settings that decide what is shared. -/
structure SharingConfig where
  llmServers : List LlmServerEntry
  hiddenModels : List String
  deriving DecidableEq

/-- A backend's own list, as `list_models` returns it. -/
structure ModelCatalogSnapshot where
  models : List Json
  gpuHost : Option Json

structure ModelCollision where
  name : String
  skippedServer : String
  deriving DecidableEq

/-- A model of a list together with the server whose list it was read from;
the code itself knows only what the JSON says. -/
structure ListedModel where
  server : String
  json : Json

structure MergedCatalog where
  models : List ListedModel
  modelNames : List String
  gpuHost : Option Json
  collisions : List ModelCollision

def modelName (model : Json) : Option String := (model.get "name").bind Json.asStr

/-- The tag that the filter goes by. -/
def sourceServer (model : Json) : Option String := (model.get "_source_server").bind Json.asStr

def modelLoaded (model : Json) : Bool :=
  (((model.get "_status").bind fun status => status.get "loaded").bind Json.asBool).getD false

/-! ## Merging -/

/-- A model with the three fields that say where it comes from. -/
def tagSource (entry : LlmServerEntry) (model : Json) : Json :=
  ((model.insert "_source_server" (.str entry.id)).insert "_source_kind" (.str entry.kind)).insert
    "_source_url" (.str entry.url)

/-- One model of a server's list: a name that is taken is a collision. The names
seen are the names listed. -/
def mergeModel (entry : LlmServerEntry) (merged : MergedCatalog) (model : Json) : MergedCatalog :=
  let name := (modelName model).getD ""
  if name = "" then merged
  else if name ∈ merged.modelNames then
    { merged with
      collisions := merged.collisions ++ [⟨name, entry.label.getD (entry.kind ++ " @ " ++ entry.url)⟩] }
  else
    { merged with
      models := merged.models ++ [⟨entry.id, tagSource entry model⟩]
      modelNames := merged.modelNames ++ [name] }

def mergeSnapshot (merged : MergedCatalog) (listing : LlmServerEntry × ModelCatalogSnapshot) :
    MergedCatalog :=
  listing.2.models.foldl (mergeModel listing.1)
    { merged with gpuHost := merged.gpuHost.or listing.2.gpuHost }

def mergeCatalogSnapshots (ordered : List (LlmServerEntry × ModelCatalogSnapshot)) :
    MergedCatalog :=
  ordered.foldl mergeSnapshot ⟨[], [], none, []⟩

/-- The route table of a catalog: the map its tagged models are collected into. -/
def modelRoutes (models : List ListedModel) : String → Option String :=
  models.foldl (fun routes model =>
    match modelName model.json, sourceServer model.json with
    | some name, some server => update routes name (some server)
    | _, _ => routes) fun _ => none

/-- The attached servers that answer, with their lists, the lowest order first. -/
def catalogListings (attached : List LlmServerEntry)
    (listings : String → Option ModelCatalogSnapshot) :
    List (LlmServerEntry × ModelCatalogSnapshot) :=
  (attached.insertionSort fun a b => a.order ≤ b.order).filterMap fun entry =>
    (listings entry.id).map fun snapshot => (entry, snapshot)

/-- `rebuild_catalog`: a server that cannot be listed is skipped. -/
def rebuildCatalog (attached : List LlmServerEntry)
    (listings : String → Option ModelCatalogSnapshot) : MergedCatalog :=
  mergeCatalogSnapshots (catalogListings attached listings)

/-! ## What may be announced -/

/-- `model_is_advertisable_for_network`. -/
def modelIsAdvertisableForNetwork (model : Json) : Bool :=
  match modelName model with
  | some name => trim name ≠ "" && modelLoaded model
  | none => false

def localOnlyServer (config : SharingConfig) (server : String) : Bool :=
  config.llmServers.any fun entry => !entry.advertiseToCluster && entry.id = server

/-- The filter's verdict on one model. A model without a tag counts as one of
a shared server. -/
def mayAdvertise (config : SharingConfig) (model : Json) : Bool :=
  let name := (modelName model).getD ""
  if name ≠ "" ∧ name ∈ config.hiddenModels then false
  else ((sourceServer model).map fun server => !localOnlyServer config server).getD true &&
    modelIsAdvertisableForNetwork model

def filterModelsForClusterAdvertisement (models : List ListedModel) (config : SharingConfig) :
    List ListedModel :=
  models.filter fun model => mayAdvertise config model.json

/-- A model that the settings and its state allow to be announced: its server is
not kept local, the user does not hide it, and it is loaded. -/
structure Announceable (config : SharingConfig) (model : ListedModel) : Prop where
  shared : localOnlyServer config model.server = false
  visible : ∀ name ∈ modelName model.json, name ∉ config.hiddenModels
  loaded : modelLoaded model.json = true

instance (config : SharingConfig) (model : ListedModel) : Decidable (Announceable config model) :=
  decidable_of_iff
    (localOnlyServer config model.server = false ∧
      (∀ name ∈ modelName model.json, name ∉ config.hiddenModels) ∧ modelLoaded model.json = true)
    ⟨fun ⟨shared, visible, loaded⟩ => ⟨shared, visible, loaded⟩,
      fun ⟨shared, visible, loaded⟩ => ⟨shared, visible, loaded⟩⟩

/-! ## Tags -/

theorem modelName_tagSource (entry : LlmServerEntry) (model : Json) :
    modelName (tagSource entry model) = modelName model := by
  simp only [modelName, tagSource]
  rw [Json.get_insert_of_ne (by decide), Json.get_insert_of_ne (by decide),
    Json.get_insert_of_ne (by decide)]

theorem sourceServer_tagSource {entry : LlmServerEntry} {model : Json} {name : String}
    (named : modelName model = some name) : sourceServer (tagSource entry model) = some entry.id := by
  cases model with
  | obj fields =>
    simp only [sourceServer, tagSource]
    rw [Json.get_insert_of_ne (by decide), Json.get_insert_of_ne (by decide)]
    simp [Json.insert, Json.get, Json.lookup_insertField_self, Json.asStr]
  | _ => simp [modelName, Json.get] at named

/-- The models of a merged catalog carry the tag of their own server. -/
def Tagged (models : List ListedModel) : Prop :=
  ∀ model ∈ models, sourceServer model.json = some model.server

private theorem mergeModel_tagged {entry : LlmServerEntry} {merged : MergedCatalog} (model : Json)
    (tagged : Tagged merged.models) : Tagged (mergeModel entry merged model).models := by
  simp only [mergeModel]
  split_ifs with blank taken
  · exact tagged
  · exact tagged
  · intro listed member
    rcases List.mem_append.mp member with old | new
    · exact tagged listed old
    · obtain rfl := List.mem_singleton.mp new
      cases named : modelName model with
      | none => simp [named] at blank
      | some name => exact sourceServer_tagSource named

theorem mergeCatalogSnapshots_tagged (ordered : List (LlmServerEntry × ModelCatalogSnapshot)) :
    Tagged (mergeCatalogSnapshots ordered).models := by
  have snapshot : ∀ (entry : LlmServerEntry) (models : List Json) (merged : MergedCatalog),
      Tagged merged.models → Tagged (models.foldl (mergeModel entry) merged).models := by
    intro entry models
    induction models with
    | nil => exact fun _ tagged => tagged
    | cons model rest ih => exact fun merged tagged => ih _ (mergeModel_tagged model tagged)
  have all : ∀ merged : MergedCatalog, Tagged merged.models →
      Tagged (ordered.foldl mergeSnapshot merged).models := by
    induction ordered with
    | nil => exact fun _ tagged => tagged
    | cons listing rest ih =>
      exact fun merged tagged => ih _ (snapshot listing.1 listing.2.models _ tagged)
  exact all _ (by simp [Tagged])

/-! ## Routes -/

/-- A server's list names a model. -/
def listsModel (snapshot : ModelCatalogSnapshot) (name : String) : Bool :=
  name ≠ "" && snapshot.models.any fun model => modelName model = some name

private theorem modelRoutes_append {models : List ListedModel} {model : ListedModel}
    {name server : String} (named : modelName model.json = some name)
    (tagged : sourceServer model.json = some server) :
    modelRoutes (models ++ [model]) = update (modelRoutes models) name (some server) := by
  simp [modelRoutes, List.foldl_append, named, tagged]

/-- The names listed are those with a route. -/
private def RoutesListed (merged : MergedCatalog) : Prop :=
  ∀ name, name ∈ merged.modelNames ↔ (modelRoutes merged.models name).isSome

/-- A model takes its name's route unless the name has one. -/
private theorem mergeModel_route {merged : MergedCatalog} (entry : LlmServerEntry) (model : Json)
    (listed : RoutesListed merged) :
    RoutesListed (mergeModel entry merged model) ∧
      ∀ name, modelRoutes (mergeModel entry merged model).models name =
        (modelRoutes merged.models name).or
          (if name ≠ "" ∧ modelName model = some name then some entry.id else none) := by
  cases named : modelName model with
  | none => simp [mergeModel, named, listed]
  | some given =>
    by_cases blank : given = ""
    · have unchanged : mergeModel entry merged model = merged := by simp [mergeModel, named, blank]
      rw [unchanged]
      refine ⟨listed, fun name => ?_⟩
      have other : ¬ (name ≠ "" ∧ some given = some name) := by
        rintro ⟨nonempty, same⟩
        exact nonempty ((Option.some.inj same).symm.trans blank)
      rw [if_neg other, Option.or_none]
    by_cases taken : given ∈ merged.modelNames
    · have unchanged : (mergeModel entry merged model).models = merged.models ∧
          (mergeModel entry merged model).modelNames = merged.modelNames := by
        simp [mergeModel, named, blank, taken]
      refine ⟨fun name => by rw [unchanged.1, unchanged.2]; exact listed name, fun name => ?_⟩
      rw [unchanged.1]
      by_cases same : given = name
      · subst same
        obtain ⟨server, route⟩ := Option.isSome_iff_exists.mp ((listed given).mp taken)
        simp [route]
      · simp [same]
    · have routes : modelRoutes (mergeModel entry merged model).models =
          update (modelRoutes merged.models) given (some entry.id) := by
        have entered : (mergeModel entry merged model).models =
            merged.models ++ [⟨entry.id, tagSource entry model⟩] := by
          simp [mergeModel, named, blank, taken]
        rw [entered]
        exact modelRoutes_append (by rw [modelName_tagSource, named]) (sourceServer_tagSource named)
      have names : (mergeModel entry merged model).modelNames = merged.modelNames ++ [given] := by
        simp [mergeModel, named, blank, taken]
      have free : modelRoutes merged.models given = none :=
        Option.not_isSome_iff_eq_none.mp fun routed => taken ((listed given).mpr routed)
      refine ⟨fun name => ?_, fun name => ?_⟩
      · rw [routes, names]
        by_cases same : name = given
        · subst same
          simp
        · simp [listed name, same]
      · rw [routes]
        by_cases same : name = given
        · subst same
          simp [blank, free]
        · simp [update_of_ne same, Ne.symm same]

private theorem mergeSnapshot_route {merged : MergedCatalog} (entry : LlmServerEntry)
    (models : List Json) (listed : RoutesListed merged) :
    RoutesListed (models.foldl (mergeModel entry) merged) ∧
      ∀ name, modelRoutes (models.foldl (mergeModel entry) merged).models name =
        (modelRoutes merged.models name).or
          (if (name ≠ "" && models.any fun model => modelName model = some name) = true then
            some entry.id else none) := by
  induction models generalizing merged with
  | nil => simp [listed]
  | cons model rest ih =>
    obtain ⟨listedHead, head⟩ := mergeModel_route entry model listed
    obtain ⟨listedRest, tail⟩ := ih listedHead
    refine ⟨listedRest, fun name => ?_⟩
    rw [List.foldl_cons, tail name, head name]
    cases modelRoutes merged.models name with
    | some server => simp
    | none =>
      by_cases blank : name = ""
      · simp [blank]
      · by_cases here : modelName model = some name
        · simp [blank, here]
        · simp [blank, here]

private theorem mergeSnapshots_route (ordered : List (LlmServerEntry × ModelCatalogSnapshot))
    {merged : MergedCatalog} (listed : RoutesListed merged) :
    RoutesListed (ordered.foldl mergeSnapshot merged) ∧
      ∀ name, modelRoutes (ordered.foldl mergeSnapshot merged).models name =
        (modelRoutes merged.models name).or
          ((ordered.find? fun listing => listsModel listing.2 name).map fun l => l.1.id) := by
  induction ordered generalizing merged with
  | nil => simp [listed]
  | cons listing rest ih =>
    have listed' : RoutesListed { merged with gpuHost := merged.gpuHost.or listing.2.gpuHost } :=
      listed
    obtain ⟨listedHead, head⟩ := mergeSnapshot_route listing.1 listing.2.models listed'
    obtain ⟨listedRest, tail⟩ := @ih (mergeSnapshot merged listing) listedHead
    refine ⟨listedRest, fun name => ?_⟩
    have entered : modelRoutes (mergeSnapshot merged listing).models name =
        (modelRoutes merged.models name).or
          (if listsModel listing.2 name = true then some listing.1.id else none) := head name
    rw [List.foldl_cons, tail name, entered]
    cases modelRoutes merged.models name with
    | some server => rfl
    | none =>
      by_cases has : listsModel listing.2 name = true
      · simp [has]
      · simp [has]

private theorem nothing_routesListed : RoutesListed ⟨[], [], none, []⟩ := by
  simp [RoutesListed, modelRoutes]

/-- A merged catalog routes a name to the first server whose list has it. -/
theorem mergeCatalogSnapshots_route (ordered : List (LlmServerEntry × ModelCatalogSnapshot))
    (name : String) :
    modelRoutes (mergeCatalogSnapshots ordered).models name =
      (ordered.find? fun listing => listsModel listing.2 name).map fun listing => listing.1.id :=
  ((mergeSnapshots_route ordered nothing_routesListed).2 name).trans (by simp [modelRoutes])

/-- The names of a merged catalog are those it routes. -/
theorem mergeCatalogSnapshots_listed (ordered : List (LlmServerEntry × ModelCatalogSnapshot))
    (name : String) :
    name ∈ (mergeCatalogSnapshots ordered).modelNames ↔
      (modelRoutes (mergeCatalogSnapshots ordered).models name).isSome :=
  (mergeSnapshots_route ordered nothing_routesListed).1 name

theorem catalogListings_attached {attached : List LlmServerEntry}
    {listings : String → Option ModelCatalogSnapshot}
    {listing : LlmServerEntry × ModelCatalogSnapshot}
    (listed : listing ∈ catalogListings attached listings) : listing.1 ∈ attached := by
  obtain ⟨entry, member, same⟩ := List.mem_filterMap.mp listed
  obtain ⟨snapshot, -, rfl⟩ := Option.map_eq_some_iff.mp same
  exact (List.mem_insertionSort _).mp member

/-! ## Names -/

/-- The names of the models of a list, in its order. -/
def listedNames (models : List ListedModel) : List String :=
  models.filterMap fun model => modelName model.json

/-- The names of a catalog are those of its models, and no two are the same. -/
private def NamesModels (merged : MergedCatalog) : Prop :=
  (merged.models.map fun model => modelName model.json) = merged.modelNames.map some ∧
    merged.modelNames.Nodup

private theorem mergeModel_names {merged : MergedCatalog} (entry : LlmServerEntry) (model : Json)
    (names : NamesModels merged) : NamesModels (mergeModel entry merged model) := by
  simp only [mergeModel]
  split_ifs with blank taken
  · exact names
  · exact names
  · cases named : modelName model with
    | none => simp [named] at blank
    | some name =>
      rw [named, Option.getD_some] at taken
      constructor
      · simp [modelName_tagSource, named, names.1]
      · exact names.2.append (List.nodup_singleton _) (by simpa using taken)

/-- A merged catalog names its models, no two of them alike. -/
theorem mergeCatalogSnapshots_names (ordered : List (LlmServerEntry × ModelCatalogSnapshot)) :
    ((mergeCatalogSnapshots ordered).models.map fun model => modelName model.json) =
        (mergeCatalogSnapshots ordered).modelNames.map some ∧
      (mergeCatalogSnapshots ordered).modelNames.Nodup := by
  have snapshot (entry : LlmServerEntry) (models : List Json) (merged : MergedCatalog)
      (names : NamesModels merged) : NamesModels (models.foldl (mergeModel entry) merged) := by
    induction models generalizing merged with
    | nil => exact names
    | cons model rest ih => exact ih _ (mergeModel_names entry model names)
  suffices ∀ merged, NamesModels merged → NamesModels (ordered.foldl mergeSnapshot merged) from
    this _ ⟨rfl, List.nodup_nil⟩
  induction ordered with
  | nil => exact fun _ names => names
  | cons listing rest ih =>
    exact fun merged names => ih _ (snapshot listing.1 listing.2.models _ names)

theorem listedNames_mergeCatalogSnapshots
    (ordered : List (LlmServerEntry × ModelCatalogSnapshot)) :
    listedNames (mergeCatalogSnapshots ordered).models = (mergeCatalogSnapshots ordered).modelNames := by
  have names := congrArg (List.filterMap id) (mergeCatalogSnapshots_names ordered).1
  rw [List.filterMap_map, List.filterMap_map] at names
  simpa [listedNames, Function.comp_def] using names

/-- A part of a merged catalog has all its names only if it leaves no model out. -/
theorem listedNames_filter_iff (ordered : List (LlmServerEntry × ModelCatalogSnapshot))
    (passes : ListedModel → Bool) :
    (∀ name, name ∈ listedNames ((mergeCatalogSnapshots ordered).models.filter passes) ↔
        name ∈ (mergeCatalogSnapshots ordered).modelNames) ↔
      ∀ model ∈ (mergeCatalogSnapshots ordered).models, passes model = true := by
  obtain ⟨names, distinct⟩ := mergeCatalogSnapshots_names ordered
  constructor
  · intro same model listed
    have entered : modelName model.json ∈ (mergeCatalogSnapshots ordered).modelNames.map some := by
      rw [← names]
      exact List.mem_map_of_mem listed
    obtain ⟨name, member, named⟩ := List.mem_map.mp entered
    obtain ⟨other, kept, otherNamed⟩ := List.mem_filterMap.mp ((same name).mpr member)
    obtain ⟨otherListed, passed⟩ := List.mem_filter.mp kept
    have unique : ((mergeCatalogSnapshots ordered).models.map fun model =>
        modelName model.json).Nodup := by
      rw [names]
      exact distinct.map (Option.some_injective _)
    rwa [List.inj_on_of_nodup_map unique otherListed listed (otherNamed.trans named)] at passed
  · intro all name
    rw [List.filter_eq_self.mpr all, listedNames_mergeCatalogSnapshots]

/-! ## The filter -/

/-- What the filter lets through of tagged models may be announced. -/
theorem filter_announceable {models : List ListedModel} {config : SharingConfig}
    (tagged : Tagged models) :
    ∀ model ∈ filterModelsForClusterAdvertisement models config, Announceable config model := by
  intro model member
  obtain ⟨listed, passed⟩ := List.mem_filter.mp member
  simp only [mayAdvertise, tagged model listed, Option.map_some, Option.getD_some] at passed
  split_ifs at passed with hidden
  simp only [Bool.and_eq_true, Bool.not_eq_true'] at passed
  obtain ⟨shared, advertisable⟩ := passed
  cases named : modelName model.json with
  | none => simp [modelIsAdvertisableForNetwork, named] at advertisable
  | some name =>
    simp only [modelIsAdvertisableForNetwork, named, Bool.and_eq_true, ne_eq,
      decide_not, Bool.not_eq_true', decide_eq_false_iff_not] at advertisable
    refine ⟨shared, ?_, advertisable.2⟩
    intro name' same
    obtain rfl := Option.some.inj (named.symm.trans same)
    intro isHidden
    refine hidden ⟨?_, by simpa [named] using isHidden⟩
    rintro blank
    simp only [named, Option.getD_some] at blank
    exact advertisable.1 (by rw [blank]; rfl)

end MtrxPeer
