import MtrxPeer.LlmRegistry
import MtrxPeer.Runs

/-! What a node announces about its models. Several tasks overwrite the one shared
model list, some with raw lists, and the swarm messages are built from that list. -/
namespace MtrxPeer

/-! ## Messages -/

/-- The part of a catalog message that grows with the catalog. -/
structure CatalogContents where
  models : List ListedModel
  peerInfo : Option Json
  gpuHost : Option Json

inductive CatalogMessage where
  /-- To the lobby of a cluster. -/
  | updateModels (models : List ListedModel) (gpuHost : Option Json) (acceptingJobs : Bool)
  /-- By gossip to a swarm. -/
  | catalogUpdate (contents : CatalogContents)
  /-- To one peer of a swarm. -/
  | catalogSync (contents : CatalogContents)

def CatalogMessage.models : CatalogMessage → List ListedModel
  | .updateModels models _ _ => models
  | .catalogUpdate contents => contents.models
  | .catalogSync contents => contents.models

/-- The status as gossip carries it; a value without fields has none of them. -/
def compactStatus (status : Json) : Json :=
  .obj [("cpu_pct", (status.get "cpu_pct").getD .null),
    ("gpu_pct", (status.get "gpu_pct").getD .null),
    ("loaded", (status.get "loaded").getD (.bool false))]

def compactDetailKeys : List String :=
  ["parameter_size", "quantization_level", "family", "families", "format", "parent_model"]

/-- The fields of `from` that `keys` names, entered one by one. -/
def copyFields (keys : List String) (source target : Json) : Json :=
  keys.foldl (fun target key =>
    match source.get key with
    | some value => target.insert key value
    | none => target) target

/-- The details that are kept, entered only if there are any. -/
def insertDetails (model compact : Json) : Json :=
  match (model.get "details").map fun details => copyFields compactDetailKeys details (.obj []) with
  | none | some (.obj []) => compact
  | some slim => compact.insert "details" slim

/-- One model without its heavy fields; one without a name is left out. -/
def compactModel (model : Json) : Option Json :=
  (modelName model).map fun name =>
    let compact := Json.obj [("name", .str name)]
    let compact := match model.get "_status" with
      | some status => compact.insert "_status" (compactStatus status)
      | none => compact
    copyFields ["size", "digest", "modified_at"] model (insertDetails model compact)

def compactModelsForGossip (models : List ListedModel) : List ListedModel :=
  models.filterMap fun model => (compactModel model.json).map (⟨model.server, ·⟩)

def gossipCatalogMaxBytes : Nat := 48 * 1024

/-- What the process computes about a catalog besides its models. -/
structure CatalogHost where
  /-- `catalog_hash`. -/
  catalogHash (models : List Json) (gpuHost : Option Json) : String
  /-- The length of the encoded gossip message around these contents. -/
  gossipLength (contents : CatalogContents) : Nat
  compactPeerInfo (info : Option Json) : Option Json
  compactGpu (gpu : Option Json) : Option Json

/-- The loop of `fit_catalog_gossip`: drop what is not needed, then halve the
list, until the message fits. -/
def fitCatalogGossip (host : CatalogHost) (contents : CatalogContents) : CatalogContents :=
  if host.gossipLength contents ≤ gossipCatalogMaxBytes then contents
  else if contents.gpuHost.isSome then fitCatalogGossip host { contents with gpuHost := none }
  else if contents.peerInfo.isSome then fitCatalogGossip host { contents with peerInfo := none }
  else if 1 < contents.models.length then
    fitCatalogGossip host
      { contents with models := contents.models.take (contents.models.length / 2) }
  else { contents with models := [] }
termination_by contents.gpuHost.isSome.toNat + contents.peerInfo.isSome.toNat + contents.models.length
decreasing_by
  all_goals simp_all
  omega

theorem fitCatalogGossip_models (host : CatalogHost) (contents : CatalogContents) :
    (fitCatalogGossip host contents).models <+: contents.models := by
  fun_induction fitCatalogGossip host contents with
  | case1 => exact List.prefix_refl _
  | case2 contents _ _ ih => exact ih
  | case3 contents _ _ _ ih => exact ih
  | case4 contents _ _ _ _ ih => exact ih.trans (List.take_prefix _ _)
  | case5 => exact List.nil_prefix

/-! ## Compact models say the same -/

theorem get_copyFields {keys : List String} {probe : String} (other : probe ∉ keys)
    (source target : Json) : (copyFields keys source target).get probe = target.get probe := by
  induction keys generalizing target with
  | nil => rfl
  | cons key keys ih =>
    have differs : probe ≠ key := fun same => other (same ▸ List.mem_cons_self)
    have rest : probe ∉ keys := fun member => other (List.mem_cons_of_mem _ member)
    simp only [copyFields, List.foldl_cons]
    cases found : source.get key with
    | none => exact ih rest target
    | some value => exact (ih rest (target.insert key value)).trans (Json.get_insert_of_ne differs ..)

private theorem get_insertDetails {probe : String} (other : probe ≠ "details")
    (model compact : Json) : (insertDetails model compact).get probe = compact.get probe := by
  unfold insertDetails
  split
  · rfl
  · rfl
  · exact Json.get_insert_of_ne other ..

/-- A compact model has the name and the loaded state of the model it is made of. -/
theorem compactModel_says {model compact : Json} (made : compactModel model = some compact) :
    modelName compact = modelName model ∧ modelLoaded compact = modelLoaded model := by
  obtain ⟨name, named, rfl⟩ := Option.map_eq_some_iff.mp made
  constructor
  · rw [modelName, get_copyFields (by decide), get_insertDetails (by decide), named]
    split
    · rw [Json.get_insert_of_ne (by decide)]
      rfl
    · rfl
  · rw [modelLoaded, get_copyFields (by decide), get_insertDetails (by decide), modelLoaded]
    cases status : model.get "_status" with
    | none => rfl
    | some fields =>
      have entered (base : Json) (object : ∃ given, base = .obj given) :
          (base.insert "_status" (compactStatus fields)).get "_status" =
            some (compactStatus fields) := by
        obtain ⟨given, rfl⟩ := object
        exact Json.lookup_insertField_self ..
      have copied : (compactStatus fields).get "loaded" =
          some ((fields.get "loaded").getD (.bool false)) := rfl
      rw [entered _ ⟨_, rfl⟩, Option.bind_some, Option.bind_some, copied]
      cases fields.get "loaded" <;> rfl

/-- The compact list names models of the list, and no others. -/
theorem compactModelsForGossip_announceable {models : List ListedModel} {config : SharingConfig}
    (clean : ∀ model ∈ models, (modelName model.json).isSome → Announceable config model) :
    ∀ model ∈ compactModelsForGossip models, Announceable config model := by
  intro model member
  obtain ⟨listed, found, made⟩ := List.mem_filterMap.mp member
  obtain ⟨compact, compacted, rfl⟩ := Option.map_eq_some_iff.mp made
  obtain ⟨sameName, sameLoaded⟩ := compactModel_says compacted
  have named : (modelName listed.json).isSome := by
    cases name : modelName listed.json with
    | none => simp [compactModel, name] at compacted
    | some name => rfl
  obtain ⟨shared, visible, loaded⟩ := clean listed found named
  exact ⟨shared, fun name same => visible name (sameName ▸ same), sameLoaded ▸ loaded⟩

/-! ## The machine -/

/-- What the tasks share. -/
structure CatalogState where
  sharing : SharingConfig
  attached : List LlmServerEntry
  localModelsFull : List ListedModel
  lastAdvertisedHash : Option String
  lastGpuHost : Option Json
  peerInfo : Option Json

/-- The tasks that only refresh the list. -/
inductive RefreshTask where
  | startup
  | llmMonitor
  | configSync
  | inferenceCell
  deriving DecidableEq

/-- What backends answer when their models are listed. -/
abbrev Listings := String → Option ModelCatalogSnapshot

/-- One portion of a task that no other task interrupts. -/
inductive CatalogEvent where
  | sharingChanged (sharing : SharingConfig)
  | attachedChanged (attached : List LlmServerEntry)
  | refreshed (task : RefreshTask) (listings : Listings)
  /-- A start from the user interface, on the backend of `server`. -/
  | runLocalModel (server : String) (listing : Option ModelCatalogSnapshot)
  /-- A start that a peer of a cluster asked for. -/
  | executeModelStart (server : String) (listing : Option ModelCatalogSnapshot)
  /-- `accepting` is the cluster's own setting. -/
  | pollAndAdvertise (accepting force : Bool) (listings : Listings)
  | refreshLocalCatalog (listings : Listings)
  /-- The rest of `publish_catalog`, after its refresh. -/
  | publishCatalog
  | catalogSync

def maintenanceCatalogHash : String := "__maintenance__"

def noLlmCatalogHash : String := "__no_llm__"

variable (host : CatalogHost)

def CatalogState.store (s : CatalogState) (models : List ListedModel) (gpuHost : Option Json) :
    CatalogState :=
  { s with localModelsFull := models, lastGpuHost := gpuHost }

/-- A raw refresh; with no server attached two tasks skip it and one clears the list. -/
def refreshTask (s : CatalogState) (task : RefreshTask) (listings : Listings) : CatalogState :=
  if s.attached = [] ∧ (task = .startup ∨ task = .llmMonitor) then s
  else if s.attached = [] ∧ task = .configSync then { s with localModelsFull := [] }
  else
    let catalog := rebuildCatalog s.attached listings
    s.store catalog.models catalog.gpuHost

/-- A backend's own list, as the start tasks store it: no model is tagged. -/
def ModelCatalogSnapshot.untagged (snapshot : ModelCatalogSnapshot) (server : String) :
    List ListedModel :=
  snapshot.models.map fun model => ⟨server, model⟩

/-- The end of `run_local_model_task`. -/
def runLocalModelTask (s : CatalogState) (server : String)
    (listing : Option ModelCatalogSnapshot) : CatalogState :=
  match listing with
  | some snapshot => s.store (snapshot.untagged server) snapshot.gpuHost
  | none => s

/-- The end of `execute_model_start_task`. -/
def executeModelStartTask (s : CatalogState) (server : String)
    (listing : Option ModelCatalogSnapshot) : CatalogState × List CatalogMessage :=
  match listing with
  | some snapshot =>
    let models := snapshot.untagged server
    (s.store models snapshot.gpuHost,
      [.updateModels (filterModelsForClusterAdvertisement models s.sharing) snapshot.gpuHost true])
  | none => (s, [])

def pollAndAdvertise (s : CatalogState) (accepting force : Bool) (listings : Listings) :
    CatalogState × List CatalogMessage :=
  if accepting = false then
    if force = false ∧ s.lastAdvertisedHash = some maintenanceCatalogHash then (s, [])
    else ({ s with lastAdvertisedHash := some maintenanceCatalogHash },
      [.updateModels [] s.lastGpuHost false])
  else if s.attached = [] then
    if force = false ∧ s.lastAdvertisedHash = some noLlmCatalogHash then (s, [])
    else ({ s with localModelsFull := [], lastAdvertisedHash := some noLlmCatalogHash },
      [.updateModels [] s.lastGpuHost accepting])
  else
    let catalog := rebuildCatalog s.attached listings
    let advertised := filterModelsForClusterAdvertisement catalog.models s.sharing
    let hash := host.catalogHash (advertised.map ListedModel.json) catalog.gpuHost
    if force = false ∧ s.lastAdvertisedHash = some hash then (s, [])
    else ({ s.store catalog.models catalog.gpuHost with lastAdvertisedHash := some hash },
      [.updateModels advertised catalog.gpuHost accepting])

def refreshLocalCatalog (s : CatalogState) (listings : Listings) : CatalogState :=
  if s.attached = [] then { s with localModelsFull := [] }
  else
    let catalog := rebuildCatalog s.attached listings
    s.store (filterModelsForClusterAdvertisement catalog.models s.sharing)
      (catalog.gpuHost.or s.lastGpuHost)

/-- The contents every swarm message is built from. -/
def swarmContents (s : CatalogState) : CatalogContents where
  models := compactModelsForGossip s.localModelsFull
  peerInfo := host.compactPeerInfo s.peerInfo
  gpuHost := host.compactGpu s.lastGpuHost

def catalogStep (s : CatalogState) : CatalogEvent → CatalogState × List CatalogMessage
  | .sharingChanged sharing => ({ s with sharing }, [])
  | .attachedChanged attached => ({ s with attached }, [])
  | .refreshed task listings => (refreshTask s task listings, [])
  | .runLocalModel server listing => (runLocalModelTask s server listing, [])
  | .executeModelStart server listing => executeModelStartTask s server listing
  | .pollAndAdvertise accepting force listings => pollAndAdvertise host s accepting force listings
  | .refreshLocalCatalog listings => (refreshLocalCatalog s listings, [])
  | .publishCatalog => (s, [.catalogUpdate (fitCatalogGossip host (swarmContents host s))])
  | .catalogSync => (s, [.catalogSync (swarmContents host s)])

def catalogMachine : Machine CatalogState CatalogEvent CatalogMessage := ⟨catalogStep host⟩

/-- A node that has just started. -/
def CatalogState.initial (sharing : SharingConfig) (attached : List LlmServerEntry)
    (peerInfo : Option Json) : CatalogState where
  sharing := sharing
  attached := attached
  localModelsFull := []
  lastAdvertisedHash := none
  lastGpuHost := none
  peerInfo := peerInfo

/-! ## Privacy -/

/-- Every model a step announces may be announced at that moment. -/
def NothingPrivateAnnounced (_ : List (Record CatalogState CatalogEvent CatalogMessage))
    (r : Record CatalogState CatalogEvent CatalogMessage) : Prop :=
  ∀ message ∈ r.outputs, ∀ model ∈ message.models, Announceable r.before.sharing model

/-- The named models of a list may all be announced. -/
def AllAnnounceable (sharing : SharingConfig) (models : List ListedModel) : Prop :=
  ∀ model ∈ models, (modelName model.json).isSome → Announceable sharing model

/-- A step stores no model that may not be announced, and withdraws none that is
on the list. -/
def StoresNothingPrivate (r : Record CatalogState CatalogEvent CatalogMessage) : Prop :=
  match r.event with
  | .sharingChanged sharing => AllAnnounceable sharing r.before.localModelsFull
  | .refreshed _ listings | .pollAndAdvertise _ _ listings =>
    AllAnnounceable r.before.sharing (rebuildCatalog r.before.attached listings).models
  | .runLocalModel server (some snapshot) | .executeModelStart server (some snapshot) =>
    AllAnnounceable r.before.sharing (snapshot.untagged server)
  | _ => True

instance (sharing : SharingConfig) (models : List ListedModel) :
    Decidable (AllAnnounceable sharing models) :=
  inferInstanceAs (Decidable (∀ model ∈ models, (modelName model.json).isSome →
    Announceable sharing model))

instance : DecidablePred StoresNothingPrivate
  | ⟨_, .sharingChanged _, _⟩ => inferInstanceAs (Decidable (AllAnnounceable _ _))
  | ⟨_, .refreshed _ _, _⟩ => inferInstanceAs (Decidable (AllAnnounceable _ _))
  | ⟨_, .pollAndAdvertise _ _ _, _⟩ => inferInstanceAs (Decidable (AllAnnounceable _ _))
  | ⟨_, .runLocalModel _ (some _), _⟩ => inferInstanceAs (Decidable (AllAnnounceable _ _))
  | ⟨_, .executeModelStart _ (some _), _⟩ => inferInstanceAs (Decidable (AllAnnounceable _ _))
  | ⟨_, .runLocalModel _ none, _⟩ | ⟨_, .executeModelStart _ none, _⟩ | ⟨_, .attachedChanged _, _⟩
  | ⟨_, .refreshLocalCatalog _, _⟩ | ⟨_, .publishCatalog, _⟩ | ⟨_, .catalogSync, _⟩ =>
    inferInstanceAs (Decidable True)

/-- A raw refresh leaves a list that was stored or was there. -/
private theorem refreshTask_announceable {s : CatalogState} {listings : Listings}
    (task : RefreshTask) (clean : AllAnnounceable s.sharing s.localModelsFull)
    (fresh : AllAnnounceable s.sharing (rebuildCatalog s.attached listings).models) :
    (refreshTask s task listings).sharing = s.sharing ∧
      AllAnnounceable s.sharing (refreshTask s task listings).localModelsFull := by
  unfold refreshTask
  split_ifs
  · exact ⟨rfl, clean⟩
  · exact ⟨rfl, by simp [AllAnnounceable]⟩
  · exact ⟨rfl, fresh⟩

private theorem rebuilt_filter_announceable (s : CatalogState) (listings : Listings) :
    ∀ model ∈ filterModelsForClusterAdvertisement (rebuildCatalog s.attached listings).models
      s.sharing, Announceable s.sharing model :=
  filter_announceable (mergeCatalogSnapshots_tagged _)

private theorem refreshLocalCatalog_announceable (s : CatalogState) (listings : Listings) :
    (refreshLocalCatalog s listings).sharing = s.sharing ∧
      AllAnnounceable s.sharing (refreshLocalCatalog s listings).localModelsFull := by
  unfold refreshLocalCatalog
  split_ifs
  · exact ⟨rfl, by simp [AllAnnounceable]⟩
  · exact ⟨rfl, fun model member _ => rebuilt_filter_announceable s listings model member⟩

/-- The filter is safe on tagged models, so a poll announces nothing private. -/
private theorem pollAndAdvertise_announceable {s : CatalogState} {listings : Listings}
    (accepting force : Bool) (clean : AllAnnounceable s.sharing s.localModelsFull)
    (fresh : AllAnnounceable s.sharing (rebuildCatalog s.attached listings).models) :
    (pollAndAdvertise host s accepting force listings).1.sharing = s.sharing ∧
      AllAnnounceable s.sharing (pollAndAdvertise host s accepting force listings).1.localModelsFull ∧
      ∀ message ∈ (pollAndAdvertise host s accepting force listings).2,
        ∀ model ∈ message.models, Announceable s.sharing model := by
  unfold pollAndAdvertise
  dsimp only
  split_ifs
  · exact ⟨rfl, clean, by simp⟩
  · exact ⟨rfl, clean, by simp [CatalogMessage.models]⟩
  · exact ⟨rfl, clean, by simp⟩
  · exact ⟨rfl, by simp [AllAnnounceable], by simp [CatalogMessage.models]⟩
  · exact ⟨rfl, clean, by simp⟩
  · refine ⟨rfl, fresh, ?_⟩
    intro message member
    obtain rfl := List.mem_singleton.mp member
    exact rebuilt_filter_announceable s listings

variable {host}

/-- The filter passes only listed models that have a name. -/
private theorem filter_of_announceable {sharing : SharingConfig} {models : List ListedModel}
    (all : AllAnnounceable sharing models) :
    ∀ model ∈ filterModelsForClusterAdvertisement models sharing, Announceable sharing model := by
  intro model member
  obtain ⟨listed, passed⟩ := List.mem_filter.mp member
  refine all model listed ?_
  cases named : modelName model.json with
  | some name => rfl
  | none => simp [mayAdvertise, modelIsAdvertisableForNetwork, named] at passed

private theorem executeModelStartTask_announceable {s : CatalogState} {server : String}
    {listing : Option ModelCatalogSnapshot} (clean : AllAnnounceable s.sharing s.localModelsFull)
    (fresh : ∀ snapshot ∈ listing, AllAnnounceable s.sharing (snapshot.untagged server)) :
    (executeModelStartTask s server listing).1.sharing = s.sharing ∧
      AllAnnounceable s.sharing (executeModelStartTask s server listing).1.localModelsFull ∧
      ∀ message ∈ (executeModelStartTask s server listing).2,
        ∀ model ∈ message.models, Announceable s.sharing model := by
  cases listing with
  | none => exact ⟨rfl, clean, by simp [executeModelStartTask]⟩
  | some snapshot =>
    refine ⟨rfl, fresh snapshot rfl, ?_⟩
    intro message member
    obtain rfl := List.mem_singleton.mp member
    exact filter_of_announceable (fresh snapshot rfl)

/-- A step that stores nothing private keeps the list announceable and announces
announceable models only. -/
theorem catalogStep_announceable {s : CatalogState} {e : CatalogEvent}
    (clean : AllAnnounceable s.sharing s.localModelsFull)
    (stores : StoresNothingPrivate ((catalogMachine host).record s e)) :
    AllAnnounceable (catalogStep host s e).1.sharing (catalogStep host s e).1.localModelsFull ∧
      ∀ message ∈ (catalogStep host s e).2, ∀ model ∈ message.models,
        Announceable s.sharing model := by
  have compact := compactModelsForGossip_announceable clean
  cases e with
  | sharingChanged sharing => exact ⟨stores, by simp [catalogStep]⟩
  | attachedChanged attached => exact ⟨clean, by simp [catalogStep]⟩
  | refreshed task listings =>
    obtain ⟨same, list⟩ := refreshTask_announceable task clean stores
    exact ⟨by rw [catalogStep, same]; exact list, by simp [catalogStep]⟩
  | runLocalModel server listing =>
    refine ⟨?_, by simp [catalogStep]⟩
    cases listing with
    | none => exact clean
    | some snapshot => exact stores
  | executeModelStart server listing =>
    have fresh : ∀ snapshot ∈ listing, AllAnnounceable s.sharing (snapshot.untagged server) := by
      rintro snapshot ⟨⟩
      exact stores
    obtain ⟨same, list, sent⟩ := executeModelStartTask_announceable clean fresh
    exact ⟨by rw [catalogStep, same]; exact list, sent⟩
  | pollAndAdvertise accepting force listings =>
    obtain ⟨same, list, sent⟩ := pollAndAdvertise_announceable host accepting force clean stores
    exact ⟨by rw [catalogStep, same]; exact list, sent⟩
  | refreshLocalCatalog listings =>
    obtain ⟨same, list⟩ := refreshLocalCatalog_announceable s listings
    exact ⟨by rw [catalogStep, same]; exact list, by simp [catalogStep]⟩
  | publishCatalog =>
    refine ⟨clean, ?_⟩
    intro message member model listed
    obtain rfl := List.mem_singleton.mp member
    exact compact model ((fitCatalogGossip_models host (swarmContents host s)).subset listed)
  | catalogSync =>
    refine ⟨clean, ?_⟩
    intro message member
    obtain rfl := List.mem_singleton.mp member
    exact compact

/-- A node whose tasks never store a private model announces none, in any order of
its tasks. -/
theorem private_models_not_announced (host : CatalogHost) (sharing : SharingConfig)
    (attached : List LlmServerEntry) (peerInfo : Option Json) (events : List CatalogEvent)
    (stores : ∀ r ∈ ((catalogMachine host).history (.initial sharing attached peerInfo) events).1,
      StoresNothingPrivate r) :
    Machine.Always NothingPrivateAnnounced
      ((catalogMachine host).history (.initial sharing attached peerInfo) events).1 := by
  refine ((catalogMachine host).reaches_history _ events).always
    (fun _ s => AllAnnounceable s.sharing s.localModelsFull) StoresNothingPrivate
    (by simp [CatalogState.initial, AllAnnounceable])
    (fun past s e clean step => (catalogStep_announceable clean step).1) ?_ stores
  intro past s e clean step
  exact (catalogStep_announceable clean step).2

private def sampleCatalogHost : CatalogHost where
  catalogHash _ _ := ""
  gossipLength _ := 0
  compactPeerInfo info := info
  compactGpu gpu := gpu

private def sampleServer (id : String) (advertiseToCluster : Bool) : LlmServerEntry :=
  ⟨id, "ollama", "http://" ++ id ++ ":11434", none, 0, advertiseToCluster⟩

private def loadedListing (name : String) : ModelCatalogSnapshot :=
  ⟨[.obj [("_status", .obj [("loaded", .bool true)]), ("name", .str name)]], none⟩

/-- A shared server is polled, a model is started on it, and the swarm hears of both. -/
theorem private_models_not_announced_sample :
    Machine.Always NothingPrivateAnnounced
      ((catalogMachine sampleCatalogHost).history
        (.initial ⟨[sampleServer "gpu" true], ["hidden"]⟩ [sampleServer "gpu" true] none)
        [.pollAndAdvertise true false fun _ => some (loadedListing "llama3"),
          .executeModelStart "gpu" (some (loadedListing "mistral")), .catalogSync]).1 :=
  private_models_not_announced _ _ _ _ _ (by decide)

/-- The monitor stores the list of a local-only server, and the next peer that
connects is sent it; a start that a peer asked for announces it at once. -/
theorem local_only_models_announced :
    ¬ Machine.Always NothingPrivateAnnounced
        ((catalogMachine sampleCatalogHost).history
          (.initial ⟨[sampleServer "own" false], []⟩ [sampleServer "own" false] none)
          [.refreshed .llmMonitor fun _ => some (loadedListing "secret"), .catalogSync]).1 ∧
      ¬ Machine.Always NothingPrivateAnnounced
        ((catalogMachine sampleCatalogHost).history
          (.initial ⟨[sampleServer "own" false], []⟩ [sampleServer "own" false] none)
          [.executeModelStart "own" (some (loadedListing "secret"))]).1 := by
  constructor
  · rintro ⟨announced, -⟩
    have shared := (announced _ List.mem_cons_self _ List.mem_cons_self).shared
    revert shared
    decide
  · rintro ⟨announced, -⟩
    have shared := (announced _ List.mem_cons_self _ List.mem_cons_self).shared
    revert shared
    decide

end MtrxPeer
