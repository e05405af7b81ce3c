import Mathlib.Data.List.Dedup
import MtrxPeer.LlmRegistry
import MtrxPeer.P2pManager

/-! The catalogs of the networks and the one they are joined into, which routing
reads. A map that is collected under model names is the list of its names, each
with what was collected for it. -/
namespace MtrxPeer

/-! ## One model of several catalogs -/

def peersFromModel (model : Json) : List Json :=
  match (model.get "_peers").bind Json.asArray with
  | some peers => peers
  | none =>
    match model.get "_peer" with
    | some .null | none => []
    | some peer => [peer]

def peerIdFrom (peer : Json) : Option String := (peer.get "id").bind Json.asStr

/-- A peer's entry says that the model is loaded. -/
def peerLoaded (peer : Json) : Bool := ((peer.get "loaded").bind Json.asBool).getD false

private def nonEmptyText (value : Option Json) : Bool :=
  (value.bind Json.asStr).any (· ≠ "")

def modelMetadataScore (model : Json) : Nat :=
  let details := model.get "details"
  (if nonEmptyText (details.bind fun d => d.get "parameter_size") then 10 else 0) +
    (if nonEmptyText (details.bind fun d => d.get "quantization_level") then 4 else 0) +
    (if ((model.get "size").bind Json.asU64).getD 0 > 0 then 5 else 0) +
    (if nonEmptyText (model.get "digest") then 3 else 0)

def preferRicherTemplate (current candidate : Json) : Json :=
  if modelMetadataScore candidate > modelMetadataScore current then candidate else current

def mergePeerEntries (existing incoming : Json) : Json :=
  if peerLoaded incoming && !peerLoaded existing then incoming
  else if peerLoaded incoming then existing.insert "loaded" (.bool true)
  else existing

/-- `max_by_key`: the last of the greatest. -/
def maxByKey {α : Type} (key : α → Nat) (items : List α) : Option α :=
  items.foldl (fun best item =>
    match best with
    | some held => if key held ≤ key item then some item else some held
    | none => some item) none

/-- The network entry with the most peers. -/
def mostPeers (entries : List Json) : Option Json :=
  maxByKey (fun entry => ((entry.get "peer_count").bind Json.asU64).getD 0) entries

/-- `as_object().cloned().unwrap_or_default()`. -/
def objectOrEmpty : Json → Json
  | .obj fields => .obj fields
  | _ => .obj []

def enterFields (fields : List (String × Json)) (json : Json) : Json :=
  fields.foldl (fun json field => json.insert field.1 field.2) json

/-- Enter a field whose value there is. -/
def enterField (key : String) (value : Option Json) (json : Json) : Json :=
  match value with
  | some value => json.insert key value
  | none => json

/-! ## The catalog of a swarm -/

/-- What the peers that take jobs list, name by name. -/
def swarmListings (peers : List CachedPeerRecord) : List (String × String × Json) :=
  (peers.filter CachedPeerRecord.acceptingJobs).flatMap fun peer =>
    peer.models.filterMap fun model => (modelName model).map fun name => (name, peer.peerId, model)

/-- Each peer once, with the model it lists first. -/
def oncePerPeer (listed : List (String × Json)) : List (String × Json) :=
  listed.foldl (fun kept item =>
    if item.1 ∈ kept.map Prod.fst then kept else kept ++ [item]) []

/-- The entry of a model in a swarm's catalog. -/
def swarmModel (swarmId name : String) (listed : List (String × Json)) : Json :=
  let template := (listed.map Prod.snd).foldl preferRicherTemplate
    ((listed.head?.map Prod.snd).getD .null)
  let kept := oncePerPeer listed
  let peers := kept.map fun item =>
    Json.obj [("id", .str item.1), ("loaded", .bool (modelLoaded item.2))]
  let loadedCount := (kept.filter fun item => modelLoaded item.2).length
  enterFields [("name", .str name), ("_swarm_id", .str swarmId),
    ("_peer", peers.head?.getD .null), ("_peers", .arr peers), ("_peer_count", .ofNat peers.length),
    ("_loaded_count", .ofNat loadedCount), ("_network_scope", .str "swarm"),
    ("_swarms", .arr [.obj [("loaded_count", .ofNat loadedCount),
      ("peer_count", .ofNat peers.length), ("swarm_id", .str swarmId)]])] (objectOrEmpty template)

/-- `rebuild_swarm_catalog` over the cached peers and the node's own record. -/
def rebuildSwarmCatalog (swarmId : String) (peers : List CachedPeerRecord) : List Json :=
  let listings := swarmListings peers
  (listings.map Prod.fst).dedup.map fun name =>
    swarmModel swarmId name ((listings.filter fun item => item.1 = name).map Prod.snd)

/-! ## The joined catalog -/

/-- A model of the catalog of one network. -/
structure CatalogEntry where
  scope : NetworkScope
  networkId : String
  model : Json

structure AggModel where
  template : Json
  peersById : List (String × Json)
  clusters : List Json
  swarms : List Json

/-- A peer of a model joins those known: one that is known is merged. -/
def AggModel.addPeer (agg : AggModel) (peer : Json) : AggModel :=
  match peerIdFrom peer with
  | none => agg
  | some id =>
    if id ∈ agg.peersById.map Prod.fst then
      { agg with
        peersById := agg.peersById.map fun (known, existing) =>
          if known = id then (known, mergePeerEntries existing peer) else (known, existing) }
    else { agg with peersById := agg.peersById ++ [(id, peer)] }

/-- What a network's entry says of the network. -/
def CatalogEntry.summary (entry : CatalogEntry) : Json :=
  let count (key : String) (fallback : Nat) : Json :=
    .ofNat (((entry.model.get key).bind Json.asU64).getD fallback)
  match entry.scope with
  | .cluster => .obj [("cluster_id", .str entry.networkId),
      ("loaded_count", count "_loaded_count" 0), ("peer_count", count "_peer_count" 1)]
  | .swarm => .obj [("loaded_count", count "_loaded_count" 0),
      ("peer_count", count "_peer_count" 1), ("swarm_id", .str entry.networkId)]

def AggModel.add (agg : AggModel) (entry : CatalogEntry) : AggModel :=
  let agg := { agg with template := preferRicherTemplate agg.template entry.model }
  let agg := match entry.scope with
    | .cluster => { agg with clusters := agg.clusters ++ [entry.summary] }
    | .swarm => { agg with swarms := agg.swarms ++ [entry.summary] }
  (peersFromModel entry.model).foldl AggModel.addPeer agg

/-- The entries of one name, joined. -/
def aggregateModel (entries : List CatalogEntry) : AggModel :=
  entries.foldl AggModel.add ⟨(entries.head?.map CatalogEntry.model).getD .null, [], [], []⟩

def networkScopeLabel (model : Json) : Option String :=
  let listed (key : String) := ((model.get key).bind Json.asArray).any fun items => !items.isEmpty
  let hasCluster := listed "_clusters" || (model.get "_cluster_id").isSome
  let hasSwarm := listed "_swarms" || (model.get "_swarm_id").isSome
  match hasCluster, hasSwarm with
  | true, true => some "both"
  | true, false => some "cluster"
  | false, true => some "swarm"
  | false, false => none

/-- The joined entry, before the networks are entered. -/
def unifiedBase (name : String) (agg : AggModel) : Json :=
  let peers := agg.peersById.map Prod.snd
  let loaded := peers.filter fun peer => (peer.get "loaded").bind Json.asBool = some true
  enterFields [("name", .str name), ("_peer", (loaded.head?.or peers.head?).getD .null),
    ("_peers", .arr peers), ("_peer_count", .ofNat peers.length),
    ("_loaded_count", .ofNat loaded.length)] (objectOrEmpty agg.template)

/-- The joined entry of a model. -/
def unifiedModel (name : String) (agg : AggModel) : Json :=
  let listed (entries : List Json) : Option Json :=
    if entries = [] then none else some (.arr entries)
  let obj := enterField "_swarms" (listed agg.swarms)
    (enterField "_clusters" (listed agg.clusters) (unifiedBase name agg))
  let obj := enterField "_swarm_id" ((mostPeers agg.swarms).bind fun s => s.get "swarm_id")
    (enterField "_cluster_id" ((mostPeers agg.clusters).bind fun c => c.get "cluster_id") obj)
  enterField "_network_scope" ((networkScopeLabel obj).map .str) obj

/-- The entries of all catalogs, the clusters first. -/
def catalogEntries (clusters swarms : List (String × List Json)) : List CatalogEntry :=
  (clusters.flatMap fun (id, models) => models.map fun model => ⟨.cluster, id, model⟩) ++
    swarms.flatMap fun (id, models) => models.map fun model => ⟨.swarm, id, model⟩

/-- The entries that name a model. -/
def entriesFor (name : String) (entries : List CatalogEntry) : List CatalogEntry :=
  entries.filter fun entry => modelName entry.model = some name

/-- `sync_unified_network_models`: the joined models, sorted by their names. -/
def syncUnifiedNetworkModels (clusters swarms : List (String × List Json)) : List Json :=
  let entries := catalogEntries clusters swarms
  ((entries.filterMap fun entry => modelName entry.model).dedup.insertionSort (· ≤ ·)).map fun name =>
    unifiedModel name (aggregateModel (entriesFor name entries))

/-! ## What an entry says -/

theorem get_enterFields {fields : List (String × Json)} {probe : String}
    (other : probe ∉ fields.map Prod.fst) (json : Json) :
    (enterFields fields json).get probe = json.get probe := by
  induction fields generalizing json with
  | nil => rfl
  | cons field rest ih =>
    simp only [List.map_cons, List.mem_cons, not_or] at other
    exact (ih other.2 (json.insert field.1 field.2)).trans (Json.get_insert_of_ne other.1 ..)

/-- The first field of an object that is being filled stays as it is entered. -/
private theorem get_enterFields_head {fields : List (String × Json)} {key : String}
    (once : key ∉ fields.map Prod.fst) (value template : Json) :
    (enterFields ((key, value) :: fields) (objectOrEmpty template)).get key = some value := by
  refine (get_enterFields once ((objectOrEmpty template).insert key value)).trans ?_
  cases template <;> exact Json.lookup_insertField_self ..

theorem get_enterField_of_ne {key probe : String} (other : probe ≠ key)
    (value : Option Json) (json : Json) : (enterField key value json).get probe = json.get probe := by
  cases value with
  | none => rfl
  | some value => exact Json.get_insert_of_ne other ..

theorem get_enterField_self {key : String} {json : Json} (object : ∃ fields, json = .obj fields)
    (value : Json) : (enterField key (some value) json).get key = some value := by
  obtain ⟨fields, rfl⟩ := object
  exact Json.lookup_insertField_self ..

/-- A field entered into an object leaves an object. -/
theorem enterField_object {key : String} {value : Option Json} {json : Json}
    (object : ∃ fields, json = .obj fields) : ∃ fields, enterField key value json = .obj fields := by
  obtain ⟨fields, rfl⟩ := object
  cases value with
  | none => exact ⟨fields, rfl⟩
  | some value => exact ⟨_, rfl⟩

theorem enterFields_object {fields : List (String × Json)} {json : Json}
    (object : ∃ fields, json = .obj fields) : ∃ given, enterFields fields json = .obj given := by
  induction fields generalizing json with
  | nil => exact object
  | cons field rest ih =>
    obtain ⟨given, rfl⟩ := object
    exact ih ⟨_, rfl⟩

theorem modelName_swarmModel (swarmId name : String) (listed : List (String × Json)) :
    modelName (swarmModel swarmId name listed) = some name := by
  rw [modelName, swarmModel, get_enterFields_head (by simp)]
  rfl

theorem modelName_unifiedModel (name : String) (agg : AggModel) :
    modelName (unifiedModel name agg) = some name := by
  have entered : (unifiedBase name agg).get "name" = some (.str name) :=
    get_enterFields_head (by simp) ..
  simp only [modelName, unifiedModel]
  rw [get_enterField_of_ne (by decide), get_enterField_of_ne (by decide),
    get_enterField_of_ne (by decide), get_enterField_of_ne (by decide),
    get_enterField_of_ne (by decide), entered]
  rfl

/-- The joined entry has the id of the swarm with the most peers. -/
private theorem unifiedModel_swarmId {name : String} {agg : AggModel} {id : Json}
    (most : (mostPeers agg.swarms).bind (fun s => s.get "swarm_id") = some id) :
    (unifiedModel name agg).get "_swarm_id" = some id := by
  have object : ∃ fields, unifiedBase name agg = .obj fields := by
    refine enterFields_object ?_
    cases agg.template with
    | obj fields => exact ⟨fields, rfl⟩
    | _ => exact ⟨[], rfl⟩
  simp only [unifiedModel, most]
  rw [get_enterField_of_ne (by decide)]
  exact get_enterField_self (enterField_object (enterField_object (enterField_object object))) id

/-- A peer is all that `addPeer` adds. -/
private theorem addPeers_rest (agg : AggModel) (peers : List Json) :
    ∃ known, peers.foldl AggModel.addPeer agg = { agg with peersById := known } := by
  induction peers generalizing agg with
  | nil => exact ⟨agg.peersById, rfl⟩
  | cons peer rest ih =>
    have one : ∃ known, agg.addPeer peer = { agg with peersById := known } := by
      unfold AggModel.addPeer
      split
      · exact ⟨agg.peersById, rfl⟩
      · split_ifs
        · exact ⟨_, rfl⟩
        · exact ⟨_, rfl⟩
    obtain ⟨known, same⟩ := one
    obtain ⟨all, rest_⟩ := ih (agg.addPeer peer)
    rw [same] at rest_
    exact ⟨all, by rw [List.foldl_cons, same, rest_]⟩

/-- An entry's model may become the template, and it is summed up under its network. -/
private theorem add_rest (agg : AggModel) (entry : CatalogEntry) :
    (agg.add entry).template = preferRicherTemplate agg.template entry.model ∧
      (agg.add entry).clusters = agg.clusters ++ (if entry.scope = .cluster then [entry.summary] else []) ∧
      (agg.add entry).swarms = agg.swarms ++ (if entry.scope = .swarm then [entry.summary] else []) := by
  obtain ⟨scope, id, model⟩ := entry
  rw [AggModel.add]
  cases scope with
  | cluster =>
    obtain ⟨known, same⟩ := addPeers_rest { agg with
      template := preferRicherTemplate agg.template model
      clusters := agg.clusters ++ [CatalogEntry.summary ⟨.cluster, id, model⟩] } (peersFromModel model)
    dsimp only
    rw [same]
    simp
  | swarm =>
    obtain ⟨known, same⟩ := addPeers_rest { agg with
      template := preferRicherTemplate agg.template model
      swarms := agg.swarms ++ [CatalogEntry.summary ⟨.swarm, id, model⟩] } (peersFromModel model)
    dsimp only
    rw [same]
    simp

/-- What entries add besides their peers. -/
theorem adds_rest (agg : AggModel) (entries : List CatalogEntry) :
    (entries.foldl AggModel.add agg).template =
        (entries.map CatalogEntry.model).foldl preferRicherTemplate agg.template ∧
      (entries.foldl AggModel.add agg).clusters =
        agg.clusters ++ (entries.filter fun entry => entry.scope = .cluster).map CatalogEntry.summary ∧
      (entries.foldl AggModel.add agg).swarms =
        agg.swarms ++ (entries.filter fun entry => entry.scope = .swarm).map CatalogEntry.summary := by
  induction entries generalizing agg with
  | nil => simp
  | cons entry rest ih =>
    obtain ⟨template, clusters, swarms⟩ := add_rest agg entry
    obtain ⟨template', clusters', swarms'⟩ := ih (agg.add entry)
    rw [List.foldl_cons]
    refine ⟨by rw [template', template]; rfl, ?_, ?_⟩
    · rw [clusters', clusters]
      by_cases cluster : entry.scope = .cluster <;> simp [cluster]
    · rw [swarms', swarms]
      by_cases swarm : entry.scope = .swarm <;> simp [swarm]

/-- The clusters of a joined model are those that list it. -/
theorem aggregateModel_clusters (entries : List CatalogEntry) :
    (aggregateModel entries).clusters =
      (entries.filter fun entry => entry.scope = .cluster).map CatalogEntry.summary :=
  (adds_rest _ entries).2.1.trans (List.nil_append _)

/-- The swarms of a joined model are those that list it. -/
theorem aggregateModel_swarms (entries : List CatalogEntry) :
    (aggregateModel entries).swarms =
      (entries.filter fun entry => entry.scope = .swarm).map CatalogEntry.summary :=
  (adds_rest _ entries).2.2.trans (List.nil_append _)

theorem maxByKey_mem {α : Type} (key : α → Nat) {items : List α} (nonempty : items ≠ []) :
    ∃ best ∈ items, maxByKey key items = some best := by
  have all (items : List α) (held : α) : ∃ best ∈ held :: items,
      items.foldl (fun best item =>
        match best with
        | some held => if key held ≤ key item then some item else some held
        | none => some item) (some held) = some best := by
    induction items generalizing held with
    | nil => exact ⟨held, List.mem_cons_self, rfl⟩
    | cons item rest ih =>
      by_cases beats : key held ≤ key item
      · obtain ⟨best, member, found⟩ := ih item
        exact ⟨best, List.mem_cons_of_mem _ member, by simpa [beats] using found⟩
      · obtain ⟨best, member, found⟩ := ih held
        refine ⟨best, ?_, by simpa [beats] using found⟩
        rcases List.mem_cons.mp member with rfl | later
        · exact List.mem_cons_self
        · exact List.mem_cons_of_mem _ (List.mem_cons_of_mem _ later)
  cases items with
  | nil => exact absurd rfl nonempty
  | cons first rest => exact all rest first

/-- Entries that are made for names are found by them. -/
private theorem find_by_name {names : List String} {make : String → Json} {name : String}
    (made : ∀ name, modelName (make name) = some name) (member : name ∈ names) :
    (names.map make).find? (fun entry => modelName entry = some name) = some (make name) := by
  induction names with
  | nil => cases member
  | cons first rest ih =>
    by_cases same : first = name
    · simp [same, made]
    · rcases List.mem_cons.mp member with rfl | later
      · exact absurd rfl same
      · simpa [made, same] using ih later

/-- A model that a swarm's catalog names has an entry with the id of such a swarm. -/
theorem unified_swarmId (clusters : List (String × List Json))
    {swarms : List (String × List Json)} {name : String}
    (listed : ∃ swarm ∈ swarms, ∃ model ∈ swarm.2, modelName model = some name) :
    ∃ swarm ∈ swarms, (∃ model ∈ swarm.2, modelName model = some name) ∧
      ∃ entry, (syncUnifiedNetworkModels clusters swarms).find?
          (fun entry => modelName entry = some name) = some entry ∧
        entry.get "_swarm_id" = some (.str swarm.1) := by
  obtain ⟨swarm, member, model, inCatalog, named⟩ := listed
  have given : (⟨.swarm, swarm.1, model⟩ : CatalogEntry) ∈ catalogEntries clusters swarms := by
    refine List.mem_append_right _ (List.mem_flatMap.mpr ⟨swarm, member, ?_⟩)
    exact List.mem_map.mpr ⟨model, inCatalog, rfl⟩
  have swarmEntries : ((entriesFor name (catalogEntries clusters swarms)).filter fun entry =>
      entry.scope = .swarm) ≠ [] := by
    refine List.ne_nil_of_mem (a := ⟨.swarm, swarm.1, model⟩) ?_
    simp [entriesFor, given, named]
  have nonempty : (aggregateModel (entriesFor name (catalogEntries clusters swarms))).swarms ≠ [] := by
    rw [aggregateModel_swarms]
    simpa using swarmEntries
  obtain ⟨best, chosen, most⟩ := maxByKey_mem
    (fun entry => ((entry.get "peer_count").bind Json.asU64).getD 0) nonempty
  rw [aggregateModel_swarms] at chosen
  obtain ⟨entry, kept, rfl⟩ := List.mem_map.mp chosen
  obtain ⟨mine, isSwarm⟩ := List.mem_filter.mp kept
  obtain ⟨inEntries, sameName⟩ := List.mem_filter.mp mine
  have fromSwarm : ∃ swarm ∈ swarms, ∃ model ∈ swarm.2, entry = ⟨.swarm, swarm.1, model⟩ := by
    rcases List.mem_append.mp inEntries with ofCluster | ofSwarm
    · obtain ⟨_, -, made⟩ := List.mem_flatMap.mp ofCluster
      obtain ⟨_, -, rfl⟩ := List.mem_map.mp made
      simp at isSwarm
    · obtain ⟨swarm, member, made⟩ := List.mem_flatMap.mp ofSwarm
      obtain ⟨model, inCatalog, rfl⟩ := List.mem_map.mp made
      exact ⟨swarm, member, model, inCatalog, rfl⟩
  obtain ⟨chosenSwarm, chosenMember, chosenModel, chosenCatalog, rfl⟩ := fromSwarm
  have joined : name ∈ ((catalogEntries clusters swarms).filterMap fun entry =>
      modelName entry.model).dedup.insertionSort (· ≤ ·) := by
    simp only [List.mem_insertionSort, List.mem_dedup]
    exact List.mem_filterMap.mpr ⟨_, given, named⟩
  refine ⟨chosenSwarm, chosenMember, ⟨chosenModel, chosenCatalog, by simpa using sameName⟩,
    _, find_by_name (fun name => modelName_unifiedModel name _) joined, ?_⟩
  refine unifiedModel_swarmId ?_
  rw [mostPeers, most]
  rfl

end MtrxPeer
