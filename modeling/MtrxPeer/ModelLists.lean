import MtrxPeer.CatalogAdvertising
import MtrxPeer.CatalogRoutes
import MtrxPeer.NetworkCatalog

/-! The model lists of the two endpoints. Each joins the registry's catalog with the models of
the networks, and asks a third list, which is refreshed on its own, whether a model is local. -/
namespace MtrxPeer

/-! ## Entries of network models -/

def afterLastColon (name : String) : String :=
  String.ofList (name.toList.reverse.takeWhile (· ≠ ':')).reverse

def beforeColon (name : String) : String := String.ofList (name.toList.takeWhile (· ≠ ':'))

/-- `infer_parameter_size_from_name`: a tag such as `7b`, in capitals. -/
def inferParameterSizeFromName (name : String) : String :=
  let tag := afterLastColon name
  let lower := tag.toList.map Char.toLower
  let digits := (lower.reverse.dropWhile (· = 'b')).reverse
  if 1 < lower.length && lower.getLast? = some 'b' && digits.all (fun c => c.isDigit || c = '.') then
    String.ofList (tag.toList.map Char.toUpper)
  else ""

/-- The fields of an entry that are taken from the network's entry. -/
def enrichOpenaiRemoteModel (remote network : Json) : Json :=
  let named := enterField "name" ((modelName network).map .str) remote
  let copied := copyFields ["_status", "_peer", "_peers", "_peer_count", "_loaded_count", "_clusters",
    "_swarms", "_cluster_id", "_swarm_id"] network named
  enterField "_network_scope" ((networkScopeLabel network).map .str) copied

/-- A text of the entry's details that says something. -/
def detailText (network : Json) (key : String) : Option String :=
  ((network.get "details").bind fun details => details.get key).bind Json.asStr

def remoteDetails (name : String) (network : Json) : Json :=
  let own := Json.obj [("families", .arr [.str (beforeColon name)]), ("family", .str (beforeColon name)),
    ("format", .str "remote"),
    ("parameter_size", .str (((detailText network "parameter_size").filter (· ≠ "")).getD
      (inferParameterSizeFromName name))),
    ("parent_model", .str ""),
    ("quantization_level", .str ((detailText network "quantization_level").getD ""))]
  match network.get "details" with
  | some (.obj details) => (enterFields details own).insert "format" (.str "remote")
  | _ => own

def noDigest : String := "sha256:0000000000000000000000000000000000000000000000000000000000000000"

/-- The payload of `/api/show` that goes with an entry. -/
def remoteShowInfo (name : String) (tag : Json) : Json :=
  .obj [("capabilities", .arr [.str "completion"]), ("details", (tag.get "details").getD (.obj [])),
    ("digest", (tag.get "digest").getD (.str "")), ("model", .str name),
    ("modified_at", (tag.get "modified_at").getD .null), ("name", .str name), ("remote", .bool true),
    ("size", (tag.get "size").getD (.ofNat 1))]

/-- `ollama_tag_from_network_model`, at a time. -/
def ollamaTagFromNetworkModel (now : String) (network : Json) : Json :=
  let name := (modelName network).getD "unknown"
  let digest := (((network.get "digest").bind Json.asStr).filter (· ≠ "")).getD noDigest
  let tag := Json.obj [("details", remoteDetails name network), ("digest", .str digest),
    ("model", .str name), ("modified_at", (network.get "modified_at").getD (.str now)),
    ("name", .str name), ("size", (network.get "size").getD (.ofNat 1))]
  let tag := enrichOpenaiRemoteModel tag network
  match network.get "_show_info" with
  | none | some .null => tag.insert "_show_info" (remoteShowInfo name tag)
  | some _ => tag

/-- Who owns a network model, by its networks. -/
def ownedBy (network : Json) : String :=
  match networkScopeLabel network with
  | some "swarm" => "swarm"
  | some "cluster" => "cluster"
  | some "both" => "network"
  | _ => "community"

/-- The entry of `/v1/models` for a network model. -/
def openaiRemoteModel (name : String) (network : Json) : Json :=
  enrichOpenaiRemoteModel (.obj [("created", .ofNat 0), ("id", .str name), ("name", .str name),
    ("object", .str "model"), ("owned_by", .str (ownedBy network))]) network

/-! ## The lists -/

/-- The lists that the node's tasks share; each is refreshed on its own. -/
structure SharedLists where
  localModels : List String
  localModelsFull : List Json
  networkModels : List Json

/-- `first_attached_backend` finds one. -/
def RegistryInner.hasBackend (inner : RegistryInner) : Bool := !inner.values.isEmpty

/-- `synthesize_merged_tags`. -/
def RegistryInner.synthesizeMergedTags (inner : RegistryInner) : Option (List Json) :=
  inner.merged.map fun merged => merged.models.map (·.json)

/-- The entry of `/v1/models` for a model of the catalog. -/
def openaiLocalModel (id : String) (model : Json) : Json :=
  let entry := Json.obj [("created", .ofNat 0), ("id", .str id), ("object", .str "model"),
    ("owned_by", (model.get "_source_kind").getD (.str "local"))]
  copyFields ["_status", "_source_kind", "_source_url"] model entry

/-- `synthesize_merged_v1_models`. -/
def RegistryInner.synthesizeMergedV1Models (inner : RegistryInner) : Option (List Json) :=
  inner.merged.map fun merged => merged.models.filterMap fun model =>
    (modelName model.json).map fun id => openaiLocalModel id model.json

/-- The last model of that name, as the map of the local models has it. -/
def enrichTag (full : List Json) (model : Json) : Json :=
  match modelName model with
  | some name => (full.reverse.find? fun other => modelName other = some name).getD model
  | none => model

def entryId (entry : Json) : Option String := (entry.get "id").bind Json.asStr

/-- The name of an entry of `/v1/models`. -/
def entryName (entry : Json) : Option String := (entryId entry).or (modelName entry)

/-- The status of a local model is entered into the first entry of its name. -/
def enterStatus (data : List Json) (model : Json) : List Json :=
  match modelName model with
  | some name =>
    updateFirst (entryId · = some name) (enterField "_status" (model.get "_status")) data
  | none => data

/-- What is left of a list when the hidden models are taken out; what has no name stays. -/
def retainVisible (name : Json → Option String) (hidden : List String) (entries : List Json) : List Json :=
  entries.filter fun entry => ((name entry).map fun n => decide (n ∉ hidden)).getD true

section
variable (now : String) (setupComplete : Bool) (inner : RegistryInner) (shared : SharedLists)
  (hidden : List String)

def setupNotComplete : Nat × String := (503, "Setup not complete — open the web UI at /")

def noCatalog : Nat × String := (502, "Failed to reach LLM backend: no catalog")

/-- `list_models`, the handler of `/api/tags`. -/
def listModels : Except (Nat × String) Json :=
  if !setupComplete then .error setupNotComplete
  else if !inner.hasBackend then
    .ok (.obj [("models", .arr ((shared.networkModels.filter fun model =>
      ((modelName model).map fun n => decide (n ∉ hidden)).getD false).map
        (ollamaTagFromNetworkModel now)))])
  else
    match inner.synthesizeMergedTags with
    | none => .error noCatalog
    | some models =>
      let enriched := models.map (enrichTag shared.localModelsFull)
      let remote := shared.networkModels.filterMap fun model =>
        (modelName model).bind fun name =>
          if name ∈ shared.localModels then none else some (ollamaTagFromNetworkModel now model)
      .ok (.obj [("models", .arr (retainVisible modelName hidden (enriched ++ remote)))])

/-- `v1_models`, the handler of `/v1/models`. -/
def v1Models : Except (Nat × String) Json :=
  if !setupComplete then .error setupNotComplete
  else if !inner.hasBackend then
    .ok (.obj [("data", .arr (shared.networkModels.filterMap fun model =>
      (modelName model).bind fun name =>
        if name ∈ hidden then none else some (openaiRemoteModel name model))),
      ("object", .str "list")])
  else
    match inner.synthesizeMergedV1Models with
    | none => .error noCatalog
    | some data =>
      let remote := shared.networkModels.filterMap fun model =>
        (modelName model).bind fun name =>
          if name ∈ shared.localModels then none else some (openaiRemoteModel name model)
      let withStatus := shared.localModelsFull.foldl enterStatus (data ++ remote)
      .ok (.obj [("data", .arr (retainVisible entryName hidden withStatus)), ("object", .str "list")])

end

/-- The names that an answer of `/api/tags` lists. -/
def tagNames (answer : Json) : List String :=
  (((answer.get "models").bind Json.asArray).getD []).filterMap modelName

/-- The names that an answer of `/v1/models` lists. -/
def v1Names (answer : Json) : List String :=
  (((answer.get "data").bind Json.asArray).getD []).filterMap entryName

/-! ## Exact lists -/

/-- The names of the network's models. -/
def SharedLists.networkNames (shared : SharedLists) : List String := shared.networkModels.filterMap modelName

/-- A request for the model resolves to a server of this node. -/
def RegistryInner.HasLocalRoute (inner : RegistryInner) (name : String) : Prop :=
  ∃ server ∈ inner.modelRoutes name, server ∈ inner.servers

/-- The names that the catalog lists. -/
def RegistryInner.catalogNames (inner : RegistryInner) : List String :=
  (inner.merged.map MergedCatalog.modelNames).getD []

/-- No name is listed twice, no hidden one is, and every other model that can be reached is. -/
structure ExactList (names : List String) (inner : RegistryInner) (shared : SharedLists)
    (hidden : List String) : Prop where
  once : names.Nodup
  visible : ∀ name ∈ names, name ∉ hidden
  routed : ∀ name, inner.HasLocalRoute name → name ∉ hidden → name ∈ names
  network : ∀ name ∈ shared.networkNames, name ∉ hidden → name ∈ names

/-- The network's models that are listed, by the lists of this node: without a backend all of them,
with one those that the shared list of local models does not have. -/
def offeredNames (inner : RegistryInner) (shared : SharedLists) (hidden : List String) : List String :=
  shared.networkNames.filter fun name =>
    name ∉ hidden ∧ (inner.hasBackend = true → name ∉ shared.localModels)

/-- The shared list and the catalog agree about the visible models of the network, and the network
lists none of those it offers twice. -/
structure ListsInStep (inner : RegistryInner) (shared : SharedLists) (hidden : List String) : Prop where
  agree : inner.hasBackend = true → ∀ name ∈ shared.networkNames, name ∉ hidden →
    (name ∈ shared.localModels ↔ name ∈ inner.catalogNames)
  once : (offeredNames inner shared hidden).Nodup

/-! ## The registry's catalog and routes -/

/-- The routes are those of the catalog, and there are none without one. -/
def RegistryInner.Coherent (inner : RegistryInner) : Prop :=
  match inner.merged with
  | none => inner.modelRoutes = fun _ => none
  | some merged => ∃ listed, merged = mergeCatalogSnapshots listed ∧
      inner.modelRoutes = MtrxPeer.modelRoutes merged.models

private theorem serverStep_coherent {s : ServersState} (coherent : s.inner.Coherent) (op : ServerOp) :
    (serverStep s op).inner.Coherent := by
  cases op with
  | findOrAdd newId entry => exact coherent
  | attach id answers =>
    simp only [serverStep, ServersState.attach]
    split
    · exact coherent
    · split <;> exact coherent
  | detach id =>
    simp only [serverStep, ServersState.detach]
    split
    · rfl
    · exact coherent
  | remove id => rfl
  | sync builds => exact coherent
  | cliOverrides newId cellUrl llmHost => exact coherent
  | migrate newId llmUrl llmBackend => exact coherent

private theorem rebuildStep_coherent {s : RebuildState} (coherent : s.servers.inner.Coherent)
    (e : RebuildEvent) : (rebuildStep s e).servers.inner.Coherent := by
  cases e with
  | operate op => exact serverStep_coherent coherent op
  | syncFrom config builds => exact coherent
  | begin task order => exact coherent
  | list task answer => exact coherent
  | write task =>
    simp only [rebuildStep]
    split
    · exact ⟨_, rfl, rfl⟩
    · exact coherent

/-- In every run the routes are those of the catalog. -/
theorem registry_coherent {config : List ConfigServer} {past : List RebuildRecord} {s : RebuildState}
    (ran : rebuildMachine.Reaches ⟨⟨config, .new⟩, fun _ => none⟩ past s) : s.servers.inner.Coherent := by
  refine ran.invariant (fun _ s => s.servers.inner.Coherent) (fun _ => True) rfl
    (fun _ _ e coherent _ => rebuildStep_coherent coherent e) fun _ _ => trivial

section Coherent

variable {inner : RegistryInner}

/-- A model with a route is in the catalog. -/
theorem routed_listed (coherent : inner.Coherent) {name : String} (routed : inner.HasLocalRoute name) :
    name ∈ inner.catalogNames := by
  obtain ⟨server, route, -⟩ := routed
  unfold RegistryInner.Coherent at coherent
  rw [RegistryInner.catalogNames]
  cases merged : inner.merged with
  | none =>
    rw [merged] at coherent
    rw [coherent] at route
    cases route
  | some catalog =>
    rw [merged] at coherent
    obtain ⟨listed, rfl, routes⟩ := coherent
    rw [routes] at route
    rw [Option.map_some, Option.getD_some, mergeCatalogSnapshots_listed, Option.isSome_iff_exists]
    exact ⟨server, route⟩

theorem catalogNames_nodup (coherent : inner.Coherent) : inner.catalogNames.Nodup := by
  unfold RegistryInner.Coherent at coherent
  rw [RegistryInner.catalogNames]
  cases merged : inner.merged with
  | none => exact List.nodup_nil
  | some catalog =>
    rw [merged] at coherent
    obtain ⟨listed, rfl, -⟩ := coherent
    exact (mergeCatalogSnapshots_names listed).2

/-- The models of the catalog have the names that it lists. -/
theorem synthesized_names (coherent : inner.Coherent) {merged : MergedCatalog}
    (held : inner.merged = some merged) :
    (merged.models.map (·.json)).map modelName = inner.catalogNames.map some := by
  unfold RegistryInner.Coherent at coherent
  rw [held] at coherent
  obtain ⟨listed, rfl, -⟩ := coherent
  rw [RegistryInner.catalogNames, held, List.map_map]
  exact (mergeCatalogSnapshots_names listed).1

/-- Without a server no model is routed. -/
theorem not_routed (none_ : inner.hasBackend = false) (name : String) : ¬inner.HasLocalRoute name := by
  rintro ⟨server, -, member⟩
  have empty : inner.servers.entries = [] := by
    simpa [RegistryInner.hasBackend, RegistryInner.values] using none_
  rw [AList.mem_keys, AList.keys, empty] at member
  cases member

end Coherent

/-! ## The names of the entries -/

private theorem enrich_name {remote network : Json} {name : String} (named : modelName network = some name)
    (object : ∃ fields, remote = .obj fields) :
    modelName (enrichOpenaiRemoteModel remote network) = some name := by
  obtain ⟨fields, rfl⟩ := object
  simp only [enrichOpenaiRemoteModel, named]
  rw [modelName, get_enterField_of_ne (by decide), get_copyFields (by decide)]
  simp [enterField, Json.get, Json.lookup_insertField_self, Json.asStr]

private theorem enrich_id (remote network : Json) :
    entryId (enrichOpenaiRemoteModel remote network) = entryId remote := by
  simp only [enrichOpenaiRemoteModel, entryId]
  rw [get_enterField_of_ne (by decide), get_copyFields (by decide), get_enterField_of_ne (by decide)]

theorem modelName_ollamaTag (now : String) {network : Json} {name : String}
    (named : modelName network = some name) :
    modelName (ollamaTagFromNetworkModel now network) = some name := by
  simp only [ollamaTagFromNetworkModel]
  split
  · rw [modelName, Json.get_insert_of_ne (by decide)]
    exact enrich_name named ⟨_, rfl⟩
  · rw [modelName, Json.get_insert_of_ne (by decide)]
    exact enrich_name named ⟨_, rfl⟩
  · exact enrich_name named ⟨_, rfl⟩

theorem entryName_openaiRemote (name : String) (network : Json) :
    entryName (openaiRemoteModel name network) = some name := by
  rw [entryName, openaiRemoteModel, enrich_id]
  rfl

theorem entryName_openaiLocal (id : String) (model : Json) :
    entryName (openaiLocalModel id model) = some id := by
  rw [entryName, entryId, openaiLocalModel, get_copyFields (by decide)]
  rfl

theorem modelName_enrichTag (full : List Json) (model : Json) :
    modelName (enrichTag full model) = modelName model := by
  cases named : modelName model with
  | none => simp only [enrichTag, named]
  | some name =>
    simp only [enrichTag, named]
    cases found : full.reverse.find? fun other => modelName other = some name with
    | none => exact named
    | some other =>
      have same : decide (modelName other = some name) = true :=
        @List.find?_some _ (fun other => decide (modelName other = some name)) other _ found
      exact of_decide_eq_true same

private theorem map_updateFirst {α β : Type} {isIt : α → Bool} {change : α → α} {read : α → β}
    (same : ∀ item, read (change item) = read item) (items : List α) :
    (updateFirst isIt change items).map read = items.map read := by
  induction items with
  | nil => rfl
  | cons item rest ih =>
    rw [updateFirst]
    split
    · rw [List.map_cons, List.map_cons, same]
    · rw [List.map_cons, List.map_cons, ih]

private theorem enterStatus_names (data : List Json) (model : Json) :
    (enterStatus data model).map entryName = data.map entryName := by
  unfold enterStatus
  split
  · apply map_updateFirst
    intro entry
    rw [entryName, entryName, entryId, entryId, modelName, modelName, get_enterField_of_ne (by decide),
      get_enterField_of_ne (by decide)]
  · rfl

private theorem enterStatuses_names (full data : List Json) :
    (full.foldl enterStatus data).map entryName = data.map entryName := by
  induction full generalizing data with
  | nil => rfl
  | cons model rest ih => rw [List.foldl_cons, ih, enterStatus_names]

/-- The names that are left are the names that are not hidden. -/
private theorem retainVisible_names (name : Json → Option String) (hidden : List String)
    (entries : List Json) :
    (retainVisible name hidden entries).filterMap name =
      (entries.filterMap name).filter fun n => n ∉ hidden := by
  rw [retainVisible, List.filterMap_filter, List.filter_filterMap]
  congr 1
  funext entry
  cases name entry with
  | none => rfl
  | some n => by_cases kept : n ∈ hidden <;> simp [kept, Option.filter]

/-- Entries that are made of the network's models under a condition on their names. -/
private theorem made_names {make : String → Json → Json} {name : Json → Option String}
    (named : ∀ model n, modelName model = some n → name (make n model) = some n) (keeps : String → Bool)
    (models : List Json) :
    (models.filterMap fun model => (modelName model).bind fun n =>
        if keeps n then some (make n model) else none).filterMap name =
      (models.filterMap modelName).filter keeps := by
  rw [List.filterMap_filterMap, List.filter_filterMap]
  apply List.filterMap_congr
  intro model _
  cases found : modelName model with
  | none => rfl
  | some n =>
    by_cases kept : keeps n = true
    · simp [kept, named model n found, Option.filter]
    · simp [kept, Option.filter]

/-! ## What is listed -/

/-- The names of a list that joins the catalog with what the network offers. -/
def joinedNames (inner : RegistryInner) (shared : SharedLists) (hidden : List String) : List String :=
  (inner.catalogNames ++ shared.networkNames.filter fun name => name ∉ shared.localModels).filter
    fun name => name ∉ hidden

section
variable {now : String} {setupComplete : Bool} {inner : RegistryInner} {shared : SharedLists}
  {hidden : List String} {answer : Json}

private theorem listModels_alone (alone : inner.hasBackend = false)
    (answered : listModels now setupComplete inner shared hidden = .ok answer) :
    tagNames answer = shared.networkNames.filter fun name => name ∉ hidden := by
  unfold listModels at answered
  rw [alone] at answered
  cases setupComplete with
  | false => cases answered
  | true =>
    cases answered
    have named := @made_names (fun _ => ollamaTagFromNetworkModel now) modelName
      (fun model n found => modelName_ollamaTag now found) (fun n => decide (n ∉ hidden)) shared.networkModels
    rw [SharedLists.networkNames, ← named]
    simp only [tagNames, Json.get_obj, List.lookup_cons_self, Option.bind_some, Json.asArray, Option.getD_some]
    congr 1
    rw [← List.filterMap_eq_map, List.filterMap_filter]
    apply List.filterMap_congr
    intro model _
    cases modelName model with
    | none => rfl
    | some n => simp

private theorem listModels_joined (coherent : inner.Coherent) (attached : inner.hasBackend = true)
    (answered : listModels now setupComplete inner shared hidden = .ok answer) :
    tagNames answer = joinedNames inner shared hidden := by
  unfold listModels at answered
  rw [attached] at answered
  cases setupComplete with
  | false => cases answered
  | true =>
    cases held : inner.merged with
    | none =>
      simp only [RegistryInner.synthesizeMergedTags, held] at answered
      cases answered
    | some merged =>
      simp only [RegistryInner.synthesizeMergedTags, held] at answered
      cases answered
      have remote := @made_names (fun _ => ollamaTagFromNetworkModel now) modelName
        (fun model n found => modelName_ollamaTag now found) (fun n => decide (n ∉ shared.localModels))
        shared.networkModels
      have enriched :
          ((merged.models.map (·.json)).map (enrichTag shared.localModelsFull)).filterMap modelName =
          inner.catalogNames := by
        have names := congrArg (List.filterMap id) (synthesized_names coherent held)
        rw [List.filterMap_map, List.filterMap_map] at names ⊢
        simpa [Function.comp_def, modelName_enrichTag] using names
      simp only [tagNames, Json.get_obj, List.lookup_cons_self, Option.bind_some, Json.asArray,
        Option.getD_some, retainVisible_names, List.filterMap_append, enriched, joinedNames,
        SharedLists.networkNames]
      rw [← remote]
      simp only [decide_not, Bool.not_eq_true', decide_eq_false_iff_not, ite_not]

private theorem v1Models_alone (alone : inner.hasBackend = false)
    (answered : v1Models setupComplete inner shared hidden = .ok answer) :
    v1Names answer = shared.networkNames.filter fun name => name ∉ hidden := by
  unfold v1Models at answered
  rw [alone] at answered
  cases setupComplete with
  | false => cases answered
  | true =>
    cases answered
    have named := @made_names openaiRemoteModel entryName (fun model n _ => entryName_openaiRemote n model)
      (fun n => decide (n ∉ hidden)) shared.networkModels
    rw [SharedLists.networkNames, ← named]
    simp only [v1Names, Json.get_obj, List.lookup_cons_self, Option.bind_some, Json.asArray,
      Option.getD_some, decide_not, Bool.not_eq_true', decide_eq_false_iff_not, ite_not]

private theorem v1Models_joined (coherent : inner.Coherent) (attached : inner.hasBackend = true)
    (answered : v1Models setupComplete inner shared hidden = .ok answer) :
    v1Names answer = joinedNames inner shared hidden := by
  unfold v1Models at answered
  rw [attached] at answered
  cases setupComplete with
  | false => cases answered
  | true =>
    cases held : inner.merged with
    | none =>
      simp only [RegistryInner.synthesizeMergedV1Models, held] at answered
      cases answered
    | some merged =>
      simp only [RegistryInner.synthesizeMergedV1Models, held] at answered
      cases answered
      have remote := @made_names openaiRemoteModel entryName (fun model n _ => entryName_openaiRemote n model)
        (fun n => decide (n ∉ shared.localModels)) shared.networkModels
      have catalog : (merged.models.filterMap fun model =>
          (modelName model.json).map fun id => openaiLocalModel id model.json).filterMap entryName =
            inner.catalogNames := by
        have names := congrArg (List.filterMap id) (synthesized_names coherent held)
        rw [List.filterMap_map, List.filterMap_map, List.filterMap_map] at names
        rw [List.filterMap_filterMap]
        simpa [Function.comp_def, Option.bind_map, entryName_openaiLocal] using names
      have entered (full data : List Json) :
          (full.foldl enterStatus data).filterMap entryName = data.filterMap entryName := by
        have names := congrArg (List.filterMap id) (enterStatuses_names full data)
        rw [List.filterMap_map, List.filterMap_map] at names
        exact names
      simp only [v1Names, Json.get_obj, List.lookup_cons_self, Option.bind_some, Json.asArray,
        Option.getD_some, retainVisible_names, entered, List.filterMap_append, catalog, joinedNames,
        SharedLists.networkNames]
      rw [← remote]
      simp only [decide_not, Bool.not_eq_true', decide_eq_false_iff_not, ite_not]

/-! ## When the lists are exact -/

/-- Without a backend the list is the network's. -/
private theorem alone_exact_iff (alone : inner.hasBackend = false) :
    ExactList (shared.networkNames.filter fun name => name ∉ hidden) inner shared hidden ↔
      ListsInStep inner shared hidden := by
  have offered : offeredNames inner shared hidden =
      shared.networkNames.filter fun name => name ∉ hidden := by
    simp [offeredNames, alone]
  constructor
  · intro exact_
    refine ⟨fun attached => ?_, by rw [offered]; exact exact_.once⟩
    rw [alone] at attached
    cases attached
  · intro step
    refine ⟨by rw [← offered]; exact step.once, ?_, ?_, ?_⟩
    · intro name member
      exact of_decide_eq_true (List.mem_filter.mp member).2
    · intro name routed
      exact absurd routed (not_routed alone name)
    · intro name member shown
      exact List.mem_filter.mpr ⟨member, decide_eq_true shown⟩

private theorem mem_joinedNames {name : String} :
    name ∈ joinedNames inner shared hidden ↔ name ∉ hidden ∧
      (name ∈ inner.catalogNames ∨ name ∈ shared.networkNames ∧ name ∉ shared.localModels) := by
  simp only [joinedNames, List.mem_filter, List.mem_append, decide_eq_true_eq]
  exact and_comm

/-- With a backend the list joins the catalog with what the network offers. -/
private theorem joined_exact_iff (coherent : inner.Coherent) (attached : inner.hasBackend = true) :
    ExactList (joinedNames inner shared hidden) inner shared hidden ↔ ListsInStep inner shared hidden := by
  have offered : offeredNames inner shared hidden =
      (shared.networkNames.filter fun name => name ∉ shared.localModels).filter fun name => name ∉ hidden := by
    simp [offeredNames, attached, List.filter_filter]
  have parts : joinedNames inner shared hidden =
      inner.catalogNames.filter (fun name => name ∉ hidden) ++ offeredNames inner shared hidden := by
    rw [joinedNames, List.filter_append, offered]
  have mem_offered (name : String) : name ∈ offeredNames inner shared hidden ↔
      name ∈ shared.networkNames ∧ name ∉ hidden ∧ name ∉ shared.localModels := by
    simp [offeredNames, attached]
  constructor
  · intro exact_
    have once := exact_.once
    rw [parts, List.nodup_append] at once
    obtain ⟨-, apart, disjoint⟩ := once
    refine ⟨fun _ name member shown => ⟨fun held => ?_, fun listed => ?_⟩, apart⟩
    · rcases (mem_joinedNames.mp (exact_.network name member shown)).2 with catalog | ⟨-, elsewhere⟩
      · exact catalog
      · exact absurd held elsewhere
    · by_contra missing
      exact disjoint name (List.mem_filter.mpr ⟨listed, decide_eq_true shown⟩) name
        ((mem_offered name).mpr ⟨member, shown, missing⟩) rfl
  · intro step
    refine ⟨?_, fun name member => (mem_joinedNames.mp member).1, ?_, ?_⟩
    · rw [parts, List.nodup_append]
      refine ⟨(catalogNames_nodup coherent).filter _, step.once, ?_⟩
      rintro name listed other offered_ rfl
      obtain ⟨member, shown, missing⟩ := (mem_offered name).mp offered_
      exact missing ((step.agree attached name member shown).mpr (List.mem_filter.mp listed).1)
    · intro name routed shown
      exact mem_joinedNames.mpr ⟨shown, .inl (routed_listed coherent routed)⟩
    · intro name member shown
      refine mem_joinedNames.mpr ⟨shown, ?_⟩
      by_cases held : name ∈ shared.localModels
      · exact .inl ((step.agree attached name member shown).mp held)
      · exact .inr ⟨member, held⟩

private theorem listModels_exact_iff (coherent : inner.Coherent)
    (answered : listModels now setupComplete inner shared hidden = .ok answer) :
    ExactList (tagNames answer) inner shared hidden ↔ ListsInStep inner shared hidden := by
  cases attached : inner.hasBackend with
  | false => rw [listModels_alone attached answered, alone_exact_iff attached]
  | true => rw [listModels_joined coherent attached answered, joined_exact_iff coherent attached]

private theorem v1Models_exact_iff (coherent : inner.Coherent)
    (answered : v1Models setupComplete inner shared hidden = .ok answer) :
    ExactList (v1Names answer) inner shared hidden ↔ ListsInStep inner shared hidden := by
  cases attached : inner.hasBackend with
  | false => rw [v1Models_alone attached answered, alone_exact_iff attached]
  | true => rw [v1Models_joined coherent attached answered, joined_exact_iff coherent attached]

/-- The networks' models as the node joins them have different names. -/
theorem unified_names_nodup (clusters swarms : List (String × List Json)) :
    ((syncUnifiedNetworkModels clusters swarms).filterMap modelName).Nodup := by
  have names (listed : List String) (make : String → Json)
      (made : ∀ name, modelName (make name) = some name) : (listed.map make).filterMap modelName = listed := by
    rw [List.filterMap_map]
    simp [made]
  simp only [syncUnifiedNetworkModels]
  rw [names _ _ fun name => modelName_unifiedModel name _]
  exact (List.perm_insertionSort _ _).nodup_iff.mpr (List.nodup_dedup _)

/-- With the networks' models as the node joins them, only the shared list of local models can be
out of step. -/
theorem unified_in_step_iff {clusters swarms : List (String × List Json)}
    (unified : shared.networkModels = syncUnifiedNetworkModels clusters swarms) :
    ListsInStep inner shared hidden ↔ (inner.hasBackend = true → ∀ name ∈ shared.networkNames,
      name ∉ hidden → (name ∈ shared.localModels ↔ name ∈ inner.catalogNames)) := by
  refine ⟨fun step => step.agree, fun agree => ⟨agree, ?_⟩⟩
  rw [offeredNames, SharedLists.networkNames, unified]
  exact (unified_names_nodup clusters swarms).filter _

end

/-- Each list that is returned is exact exactly if the shared list of local models agrees with the
catalog about the network's visible models, and the network offers none of them twice. -/
theorem model_lists_exact_iff {config : List ConfigServer} {past : List RebuildRecord} {s : RebuildState}
    (ran : rebuildMachine.Reaches ⟨⟨config, .new⟩, fun _ => none⟩ past s) (now : String)
    (setupComplete : Bool) (shared : SharedLists) (hidden : List String) :
    (∀ answer, listModels now setupComplete s.servers.inner shared hidden = .ok answer →
      (ExactList (tagNames answer) s.servers.inner shared hidden ↔
        ListsInStep s.servers.inner shared hidden)) ∧
    ∀ answer, v1Models setupComplete s.servers.inner shared hidden = .ok answer →
      (ExactList (v1Names answer) s.servers.inner shared hidden ↔
        ListsInStep s.servers.inner shared hidden) := by
  have coherent := registry_coherent ran
  constructor
  · intro answer answered
    exact listModels_exact_iff coherent answered
  · intro answer answered
    exact v1Models_exact_iff coherent answered

/-- A server that lists one model, attached and listed. -/
private def listedRun : List RebuildEvent :=
  [.operate (.attach "a" true), .begin 0 [], .list 0 routedList, .write 0]

private def listedRegistry : RebuildState :=
  (rebuildMachine.history ⟨⟨[attachedServer "a"], .new⟩, fun _ => none⟩ listedRun).2

private theorem listedRegistry_reached :
    rebuildMachine.Reaches ⟨⟨[attachedServer "a"], .new⟩, fun _ => none⟩
      (rebuildMachine.history ⟨⟨[attachedServer "a"], .new⟩, fun _ => none⟩ listedRun).1 listedRegistry :=
  Machine.reaches_history rebuildMachine _ listedRun

private def networkModel (name : String) : Json := .obj [("name", .str name)]

/-- The shared lists while the network has two models. -/
private def sampleLists (localModels : List String) : SharedLists :=
  ⟨localModels, [], [networkModel "llama3", networkModel "mistral"]⟩

theorem model_lists_exact_iff_sample :
    (∀ answer, listModels "now" true listedRegistry.servers.inner (sampleLists ["llama3"]) [] = .ok answer →
      (ExactList (tagNames answer) listedRegistry.servers.inner (sampleLists ["llama3"]) [] ↔
        ListsInStep listedRegistry.servers.inner (sampleLists ["llama3"]) [])) ∧
    ∀ answer, v1Models true listedRegistry.servers.inner (sampleLists ["llama3"]) [] = .ok answer →
      (ExactList (v1Names answer) listedRegistry.servers.inner (sampleLists ["llama3"]) [] ↔
        ListsInStep listedRegistry.servers.inner (sampleLists ["llama3"]) []) :=
  model_lists_exact_iff listedRegistry_reached "now" true (sampleLists ["llama3"]) []

/-- While the shared list still has the models of a server that is gone, and not yet those of the
one that is listed, both answers repeat one model of the network and leave out the other. -/
theorem stale_list_repeats_and_omits :
    ∃ past s tags data, rebuildMachine.Reaches ⟨⟨[attachedServer "a"], .new⟩, fun _ => none⟩ past s ∧
      listModels "now" true s.servers.inner (sampleLists ["mistral"]) [] = .ok tags ∧
      v1Models true s.servers.inner (sampleLists ["mistral"]) [] = .ok data ∧
      tagNames tags = ["llama3", "llama3"] ∧ v1Names data = ["llama3", "llama3"] ∧
      ¬ExactList (tagNames tags) s.servers.inner (sampleLists ["mistral"]) [] ∧
      ¬ExactList (v1Names data) s.servers.inner (sampleLists ["mistral"]) [] := by
  have coherent := registry_coherent listedRegistry_reached
  have attached : listedRegistry.servers.inner.hasBackend = true := by decide
  have names : joinedNames listedRegistry.servers.inner (sampleLists ["mistral"]) [] =
      ["llama3", "llama3"] := by
    decide
  have twice : ¬ExactList ["llama3", "llama3"] listedRegistry.servers.inner (sampleLists ["mistral"]) [] :=
    fun exact_ => absurd exact_.once (by decide)
  obtain ⟨tags, answered⟩ : ∃ tags, listModels "now" true listedRegistry.servers.inner
    (sampleLists ["mistral"]) [] = .ok tags := ⟨_, rfl⟩
  obtain ⟨data, given⟩ : ∃ data, v1Models true listedRegistry.servers.inner
    (sampleLists ["mistral"]) [] = .ok data := ⟨_, rfl⟩
  have tagged := (listModels_joined coherent attached answered).trans names
  have listed := (v1Models_joined coherent attached given).trans names
  refine ⟨_, listedRegistry, tags, data, listedRegistry_reached, answered, given, tagged, listed, ?_, ?_⟩
  · rwa [tagged]
  · rwa [listed]

end MtrxPeer
