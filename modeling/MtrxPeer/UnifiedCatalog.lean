import MtrxPeer.NetworkCatalog

/-! The catalog that the clusters' and the swarms' catalogs are joined into, in any order in which
their maps are gone through: which peers, which of them loaded, and which networks an entry has. -/
namespace MtrxPeer

/-! ## Orders -/

/-- One order in which the maps are gone through: the networks, the names and each name's peers. -/
structure CatalogOrder (clusters swarms : List (String × List Json)) where
  ofClusters : List (String × List Json)
  ofSwarms : List (String × List Json)
  ofNames : List String → List String
  ofPeers : String → List (String × Json) → List (String × Json)
  clustersPerm : ofClusters.Perm clusters
  swarmsPerm : ofSwarms.Perm swarms
  namesPerm : ∀ names, (ofNames names).Perm names
  peersPerm : ∀ name peers, (ofPeers name peers).Perm peers

variable {clusters swarms : List (String × List Json)}

/-- The order in which everything is given. -/
def CatalogOrder.given (clusters swarms : List (String × List Json)) : CatalogOrder clusters swarms where
  ofClusters := clusters
  ofSwarms := swarms
  ofNames := id
  ofPeers := fun _ => id
  clustersPerm := .refl _
  swarmsPerm := .refl _
  namesPerm := fun _ => .refl _
  peersPerm := fun _ _ => .refl _

namespace CatalogOrder

def entries (order : CatalogOrder clusters swarms) : List CatalogEntry :=
  catalogEntries order.ofClusters order.ofSwarms

/-- What is collected for a name, its peers in the order of their map. -/
def aggregated (order : CatalogOrder clusters swarms) (name : String) : AggModel :=
  let agg := aggregateModel (entriesFor name order.entries)
  { agg with peersById := order.ofPeers name agg.peersById }

/-- `sync_unified_network_models` in this order: the entries are made and sorted by their names. -/
def unified (order : CatalogOrder clusters swarms) : List Json :=
  ((order.ofNames (order.entries.filterMap fun entry => modelName entry.model).dedup).map fun name =>
    unifiedModel name (order.aggregated name)).insertionSort
      fun a b => (modelName a).getD "" ≤ (modelName b).getD ""

end CatalogOrder

/-! ## What is asked of the entries -/

/-- A network's catalog names a model. -/
def Lists (network : String × List Json) (name : String) : Prop :=
  ∃ model ∈ network.2, modelName model = some name

/-- Some network lists this peer for a model. -/
def PeerListed (networks : List (String × List Json)) (name : String) (peer : Json) : Prop :=
  ∃ network ∈ networks, ∃ model ∈ network.2, modelName model = some name ∧ peer ∈ peersFromModel model

/-- The ids of an entry's peers. -/
def peerIds (entry : Json) : List String := (peersFromModel entry).filterMap peerIdFrom

/-- The ids of an entry's networks of one kind. -/
def networkIds (field key : String) (entry : Json) : List String :=
  (((entry.get field).bind Json.asArray).getD []).filterMap fun network => (network.get key).bind Json.asStr

/-- An entry says of a model what the networks say together. -/
structure EntryExact (clusters swarms : List (String × List Json)) (name : String) (entry : Json) : Prop where
  named : (peersFromModel entry).map peerIdFrom = (peerIds entry).map some
  distinct : (peerIds entry).Nodup
  peers : ∀ id, id ∈ peerIds entry ↔
    ∃ peer, PeerListed (clusters ++ swarms) name peer ∧ peerIdFrom peer = some id
  loaded : ∀ peer ∈ peersFromModel entry, peerLoaded peer = true ↔
    ∃ other, PeerListed (clusters ++ swarms) name other ∧ peerIdFrom other = peerIdFrom peer ∧
      peerLoaded other = true
  peerCount : entry.get "_peer_count" = some (.ofNat (peerIds entry).length)
  loadedCount : entry.get "_loaded_count" = some (.ofNat ((peersFromModel entry).filter peerLoaded).length)
  clusters : ∀ id, id ∈ networkIds "_clusters" "cluster_id" entry ↔
    ∃ cluster ∈ clusters, cluster.1 = id ∧ Lists cluster name
  swarms : ∀ id, id ∈ networkIds "_swarms" "swarm_id" entry ↔
    ∃ swarm ∈ swarms, swarm.1 = id ∧ Lists swarm name

/-- One entry for every name, in their order, and each is exact. -/
structure CatalogExact (clusters swarms : List (String × List Json)) (merged : List Json) : Prop where
  named : ∃ names : List String, merged.map modelName = names.map some ∧ names.Pairwise (· < ·) ∧
    ∀ name, name ∈ names ↔ ∃ network ∈ clusters ++ swarms, Lists network name
  entries : ∀ entry ∈ merged, ∀ name, modelName entry = some name → EntryExact clusters swarms name entry

/-- Two entries say the same of peers and networks. -/
structure EntryAlike (one other : Json) : Prop where
  peers : ∀ id, id ∈ peerIds one ↔ id ∈ peerIds other
  loaded : ∀ id, id ∈ ((peersFromModel one).filter peerLoaded).filterMap peerIdFrom ↔
    id ∈ ((peersFromModel other).filter peerLoaded).filterMap peerIdFrom
  peerCount : one.get "_peer_count" = other.get "_peer_count"
  loadedCount : one.get "_loaded_count" = other.get "_loaded_count"
  clusters : ∀ id, id ∈ networkIds "_clusters" "cluster_id" one ↔
    id ∈ networkIds "_clusters" "cluster_id" other
  swarms : ∀ id, id ∈ networkIds "_swarms" "swarm_id" one ↔ id ∈ networkIds "_swarms" "swarm_id" other

/-- Two catalogs have the same names, and their entries say the same. -/
structure CatalogAlike (one other : List Json) : Prop where
  names : one.map modelName = other.map modelName
  entries : ∀ a ∈ one, ∀ b ∈ other, modelName a = modelName b → EntryAlike a b

/-- In every order the catalog is exact, and in any two it is alike. -/
structure UnifiedExact (clusters swarms : List (String × List Json)) : Prop where
  exact_ : ∀ order : CatalogOrder clusters swarms, CatalogExact clusters swarms order.unified
  alike : ∀ one other : CatalogOrder clusters swarms, CatalogAlike one.unified other.unified

/-! ## The richest model -/

/-- The first of the models with the highest score. -/
def richest : List Json → Option Json
  | [] => none
  | model :: rest => some (rest.foldl preferRicherTemplate model)

/-- The entries of a network for a name. -/
def namedIn (name : String) (network : String × List Json) : List Json :=
  network.2.filter fun model => modelName model = some name

/-- A model that is the template of a name in some order: its network's richest, and no other
network has a richer one. -/
def MayBeTemplate (networks : List (String × List Json)) (name : String) (model : Json) : Prop :=
  ∃ network ∈ networks, richest (namedIn name network) = some model ∧
    ∀ other ∈ networks, ∀ rival ∈ namedIn name other, modelMetadataScore rival ≤ modelMetadataScore model

/-- The templates of names that only swarms list bring no clusters along, and those of names that
only clusters list no swarms. -/
structure NoStrayNetworks (clusters swarms : List (String × List Json)) : Prop where
  clusterless : ∀ name, (∀ cluster ∈ clusters, ¬Lists cluster name) →
    ∀ model, MayBeTemplate swarms name model → networkIds "_clusters" "cluster_id" model = []
  swarmless : ∀ name, (∀ swarm ∈ swarms, ¬Lists swarm name) →
    ∀ model, MayBeTemplate clusters name model → networkIds "_swarms" "swarm_id" model = []

theorem preferRicherTemplate_assoc (a b c : Json) :
    preferRicherTemplate (preferRicherTemplate a b) c =
      preferRicherTemplate a (preferRicherTemplate b c) := by
  unfold preferRicherTemplate
  split_ifs <;> first | rfl | omega

private theorem foldl_prefer (a b : Json) (models : List Json) :
    models.foldl preferRicherTemplate (preferRicherTemplate a b) =
      preferRicherTemplate a (models.foldl preferRicherTemplate b) := by
  induction models generalizing b with
  | nil => rfl
  | cons model rest ih => rw [List.foldl_cons, List.foldl_cons, preferRicherTemplate_assoc, ih]

theorem richest_append (front back : List Json) :
    richest (front ++ back) =
      match richest front, richest back with
      | some a, some b => some (preferRicherTemplate a b)
      | some a, none => some a
      | none, found => found := by
  cases front with
  | nil => rfl
  | cons a front =>
    cases back with
    | nil => simp [richest]
    | cons b back =>
      simp only [richest, List.cons_append, List.foldl_append, List.foldl_cons]
      rw [foldl_prefer]

private theorem prefer_most (a b : Json) :
    (preferRicherTemplate a b = a ∨ preferRicherTemplate a b = b) ∧
      modelMetadataScore a ≤ modelMetadataScore (preferRicherTemplate a b) ∧
      modelMetadataScore b ≤ modelMetadataScore (preferRicherTemplate a b) := by
  unfold preferRicherTemplate
  split_ifs with richer
  · exact ⟨.inr rfl, by omega, by omega⟩
  · exact ⟨.inl rfl, by omega, by omega⟩

/-- The richest is one of the models, and none is richer. -/
theorem richest_most {models : List Json} {model : Json} (found : richest models = some model) :
    model ∈ models ∧ ∀ other ∈ models, modelMetadataScore other ≤ modelMetadataScore model := by
  cases models with
  | nil => cases found
  | cons first rest =>
    obtain rfl := Option.some.inj found
    clear found
    induction rest generalizing first with
    | nil => simp
    | cons next rest ih =>
      obtain ⟨member, most⟩ := ih (preferRicherTemplate first next)
      obtain ⟨choice, first_, next_⟩ := prefer_most first next
      have bound := most _ List.mem_cons_self
      rw [List.foldl_cons]
      constructor
      · rcases List.mem_cons.mp member with same | later
        · rw [same]
          rcases choice with same | same <;> rw [same] <;> simp
        · exact List.mem_cons_of_mem _ (List.mem_cons_of_mem _ later)
      · intro other place
        rcases List.mem_cons.mp place with rfl | place
        · exact Nat.le_trans first_ bound
        · rcases List.mem_cons.mp place with rfl | place
          · exact Nat.le_trans next_ bound
          · exact most other (List.mem_cons_of_mem _ place)

private theorem richest_of_networks {networks : List (String × List Json)} {name : String} {model : Json}
    (found : richest (networks.flatMap (namedIn name)) = some model) :
    ∃ network ∈ networks, richest (namedIn name network) = some model := by
  induction networks with
  | nil => cases found
  | cons network rest ih =>
    rw [List.flatMap_cons, richest_append] at found
    cases here : richest (namedIn name network) with
    | none =>
      rw [here] at found
      obtain ⟨other, member, same⟩ := ih found
      exact ⟨other, List.mem_cons_of_mem _ member, same⟩
    | some a =>
      rw [here] at found
      cases later : richest (rest.flatMap (namedIn name)) with
      | none =>
        rw [later] at found
        exact ⟨network, List.mem_cons_self, by rw [here, ← found]⟩
      | some b =>
        rw [later] at found
        obtain rfl := Option.some.inj found
        rcases (prefer_most a b).1 with same | same
        · exact ⟨network, List.mem_cons_self, by rw [here, same]⟩
        · obtain ⟨other, member, found⟩ := ih (by rw [later, same])
          exact ⟨other, List.mem_cons_of_mem _ member, found⟩

/-- The richest of all networks' models is the richest of one network. -/
private theorem mayBeTemplate_of_richest {networks : List (String × List Json)} {name : String}
    {model : Json} (found : richest (networks.flatMap (namedIn name)) = some model) :
    MayBeTemplate networks name model := by
  obtain ⟨network, member, here⟩ := richest_of_networks found
  obtain ⟨-, most⟩ := richest_most found
  exact ⟨network, member, here, fun other among rival inside =>
    most rival (List.mem_flatMap.mpr ⟨other, among, inside⟩)⟩

private theorem mayBeTemplate_perm {one other : List (String × List Json)} (same : one.Perm other)
    {name : String} {model : Json} (may : MayBeTemplate one name model) : MayBeTemplate other name model := by
  obtain ⟨network, member, here, most⟩ := may
  exact ⟨network, same.mem_iff.mp member, here, fun rival among => most rival (same.mem_iff.mpr among)⟩

/-- Such a model is the richest when its network comes first. -/
private theorem richest_first {networks : List (String × List Json)} {name : String} {model : Json}
    (may : MayBeTemplate networks name model) :
    ∃ order : List (String × List Json), order.Perm networks ∧
      richest (order.flatMap (namedIn name)) = some model := by
  classical
  obtain ⟨network, member, found, most⟩ := may
  refine ⟨network :: networks.erase network, (List.perm_cons_erase member).symm, ?_⟩
  rw [List.flatMap_cons, richest_append, found]
  cases later : richest ((networks.erase network).flatMap (namedIn name)) with
  | none => rfl
  | some rival =>
    obtain ⟨place, -⟩ := richest_most later
    obtain ⟨other, among, inside⟩ := List.mem_flatMap.mp place
    have bound := most other (List.mem_of_mem_erase among) rival inside
    have stays : preferRicherTemplate model rival = model := if_neg (by omega)
    simp only [stays]

/-! ## What is collected -/

/-- The peers that are collected of those seen: each once, loaded if any of its entries is. -/
private structure Gathered (seen : List Json) (peersById : List (String × Json)) : Prop where
  distinct : (peersById.map Prod.fst).Nodup
  ids : ∀ held ∈ peersById, peerIdFrom held.2 = some held.1
  known : ∀ id, id ∈ peersById.map Prod.fst ↔ ∃ peer ∈ seen, peerIdFrom peer = some id
  loaded : ∀ held ∈ peersById, peerLoaded held.2 = true ↔
    ∃ peer ∈ seen, peerIdFrom peer = some held.1 ∧ peerLoaded peer = true

private theorem mergePeerEntries_id {existing incoming : Json} {id : String}
    (known : peerIdFrom existing = some id) (same : peerIdFrom incoming = some id) :
    peerIdFrom (mergePeerEntries existing incoming) = some id := by
  unfold mergePeerEntries
  split_ifs
  · exact same
  · rw [peerIdFrom, Json.get_insert_of_ne (by decide)]
    exact known
  · exact known

private theorem mergePeerEntries_loaded {existing incoming : Json} {id : String}
    (known : peerIdFrom existing = some id) :
    peerLoaded (mergePeerEntries existing incoming) = (peerLoaded existing || peerLoaded incoming) := by
  unfold mergePeerEntries
  cases here : peerLoaded incoming <;> cases before : peerLoaded existing <;> simp [here, before]
  cases existing with
  | obj fields =>
    rw [peerLoaded, Json.insert_obj, Json.get_obj, Json.lookup_insertField_self]
    rfl
  | _ => simp [peerIdFrom, Json.get] at known

private theorem addPeer_gathered {seen : List Json} {agg : AggModel}
    (gathered : Gathered seen agg.peersById) (peer : Json) :
    Gathered (seen ++ [peer]) (agg.addPeer peer).peersById := by
  unfold AggModel.addPeer
  cases given : peerIdFrom peer with
  | none =>
    refine ⟨gathered.distinct, gathered.ids, fun id => ?_, fun held member => ?_⟩
    · simp [gathered.known id, given, or_and_right, exists_or]
    · simp [gathered.loaded held member, given, or_and_right, exists_or]
  | some id =>
    dsimp only
    by_cases known : id ∈ agg.peersById.map Prod.fst
    · rw [if_pos known]
      have keys {change : String × Json → String × Json} (same : ∀ held, (change held).1 = held.1) :
          (agg.peersById.map change).map Prod.fst = agg.peersById.map Prod.fst := by
        rw [List.map_map]
        exact List.map_congr_left fun held _ => same held
      have merges (held : String × Json) :
          (if held.1 = id then (held.1, mergePeerEntries held.2 peer) else (held.1, held.2)).1 = held.1 := by
        split
        · rfl
        · rfl
      refine ⟨by rw [keys merges]; exact gathered.distinct, ?_, fun k => ?_, ?_⟩
      · intro held member
        obtain ⟨⟨k, existing⟩, old, rfl⟩ := List.mem_map.mp member
        have before := gathered.ids _ old
        by_cases same : k = id
        · subst same
          simpa using mergePeerEntries_id before given
        · simpa [same] using before
      · rw [keys merges, gathered.known k]
        constructor
        · rintro ⟨other, place, same⟩
          exact ⟨other, List.mem_append_left _ place, same⟩
        · rintro ⟨other, place, same⟩
          rcases List.mem_append.mp place with old | new
          · exact ⟨other, old, same⟩
          · obtain rfl := List.mem_singleton.mp new
            obtain rfl := Option.some.inj (given.symm.trans same)
            exact (gathered.known id).mp known
      · intro held member
        obtain ⟨⟨k, existing⟩, old, rfl⟩ := List.mem_map.mp member
        have before := gathered.loaded _ old
        by_cases same : k = id
        · subst same
          simp [mergePeerEntries_loaded (gathered.ids _ old), before, given, or_and_right, exists_or]
        · simp [same, Ne.symm same, before, given, or_and_right, exists_or]
    · rw [if_neg known]
      have unseen : ∀ other ∈ seen, peerIdFrom other ≠ some id := fun other place same =>
        known ((gathered.known id).mpr ⟨other, place, same⟩)
      refine ⟨?_, ?_, fun k => ?_, ?_⟩
      · rw [List.map_append]
        exact gathered.distinct.append (List.nodup_singleton _) (by simpa using known)
      · intro held member
        rcases List.mem_append.mp member with old | new
        · exact gathered.ids held old
        · obtain rfl := List.mem_singleton.mp new
          exact given
      · simp [gathered.known k, given, or_and_right, exists_or, eq_comm]
      · intro held member
        rcases List.mem_append.mp member with old | new
        · have other : held.1 ≠ id := by
            rintro rfl
            exact known (List.mem_map_of_mem old)
          simp [gathered.loaded held old, given, or_and_right, exists_or, Ne.symm other]
        · obtain rfl := List.mem_singleton.mp new
          simp only [List.mem_append, List.mem_singleton, or_and_right, exists_or, exists_eq_left, given,
            true_and]
          refine ⟨.inr, ?_⟩
          rintro (⟨other, place, same, -⟩ | loaded)
          · exact absurd same (unseen other place)
          · exact loaded

private theorem addPeers_gathered {seen : List Json} {agg : AggModel}
    (gathered : Gathered seen agg.peersById) (peers : List Json) :
    Gathered (seen ++ peers) (peers.foldl AggModel.addPeer agg).peersById := by
  induction peers generalizing seen agg with
  | nil => simpa using gathered
  | cons peer rest ih =>
    have next := ih (addPeer_gathered gathered peer)
    rwa [List.append_assoc] at next

private theorem gathered_nil : Gathered [] [] := by
  constructor <;> simp

private theorem add_gathered {seen : List Json} {agg : AggModel} (gathered : Gathered seen agg.peersById)
    (entry : CatalogEntry) :
    Gathered (seen ++ peersFromModel entry.model) (agg.add entry).peersById := by
  rw [AggModel.add]
  apply addPeers_gathered
  cases entry.scope with
  | cluster => exact gathered
  | swarm => exact gathered

/-- The peers of a joined model are those that its entries list. -/
private theorem aggregateModel_gathered (entries : List CatalogEntry) :
    Gathered (entries.flatMap fun entry => peersFromModel entry.model)
      (aggregateModel entries).peersById := by
  have all (entries : List CatalogEntry) {seen : List Json} {agg : AggModel}
      (gathered : Gathered seen agg.peersById) :
      Gathered (seen ++ entries.flatMap fun entry => peersFromModel entry.model)
        (entries.foldl AggModel.add agg).peersById := by
    induction entries generalizing seen agg with
    | nil => simpa using gathered
    | cons entry rest ih => simpa using ih (add_gathered gathered entry)
  exact @all entries [] ⟨(entries.head?.map CatalogEntry.model).getD .null, [], [], []⟩ gathered_nil

/-- The template of a joined model is the richest of its entries. -/
private theorem aggregateModel_template {entries : List CatalogEntry} (some_ : entries ≠ []) :
    richest (entries.map CatalogEntry.model) = some (aggregateModel entries).template := by
  cases entries with
  | nil => exact absurd rfl some_
  | cons entry rest =>
    have stays : preferRicherTemplate entry.model entry.model = entry.model := if_neg (by omega)
    have first : ((entry :: rest).head?.map CatalogEntry.model).getD .null = entry.model := rfl
    rw [aggregateModel, (adds_rest _ _).1, first, List.map_cons, List.foldl_cons, stays]
    rfl

/-! ## The entry that is made -/

private theorem get_enterFields_entered {front back : List (String × Json)} {key : String}
    (once : key ∉ back.map Prod.fst) (value : Json) {json : Json} (object : ∃ fields, json = .obj fields) :
    (enterFields (front ++ (key, value) :: back) json).get key = some value := by
  obtain ⟨fields, entered⟩ : ∃ fields, enterFields front json = .obj fields := enterFields_object object
  have split : enterFields (front ++ (key, value) :: back) json =
      enterFields back ((enterFields front json).insert key value) := by
    rw [enterFields, List.foldl_append, List.foldl_cons]
    rfl
  rw [split, get_enterFields once, entered]
  exact Json.lookup_insertField_self ..

private theorem template_object (template : Json) : ∃ fields, objectOrEmpty template = .obj fields := by
  cases template with
  | obj fields => exact ⟨fields, rfl⟩
  | _ => exact ⟨[], rfl⟩

private theorem get_objectOrEmpty (template : Json) (key : String) :
    (objectOrEmpty template).get key = template.get key := by
  cases template <;> rfl

section

variable (name : String) (agg : AggModel)

private theorem unifiedBase_object : ∃ fields, unifiedBase name agg = .obj fields :=
  enterFields_object (template_object agg.template)

/-- The fields that are entered after the base are none of these. -/
private theorem unifiedModel_get {key : String} (clusters : key ≠ "_clusters") (swarms : key ≠ "_swarms")
    (cluster : key ≠ "_cluster_id") (swarm : key ≠ "_swarm_id") (scope : key ≠ "_network_scope") :
    (unifiedModel name agg).get key = (unifiedBase name agg).get key := by
  simp only [unifiedModel]
  rw [get_enterField_of_ne scope, get_enterField_of_ne swarm, get_enterField_of_ne cluster,
    get_enterField_of_ne swarms, get_enterField_of_ne clusters]

private theorem unifiedModel_peers :
    (unifiedModel name agg).get "_peers" = some (.arr (agg.peersById.map Prod.snd)) := by
  rw [unifiedModel_get _ _ (by decide) (by decide) (by decide) (by decide) (by decide)]
  exact @get_enterFields_entered [_, _] _ _ (by simp) _ _ (template_object agg.template)

private theorem unifiedModel_peerCount :
    (unifiedModel name agg).get "_peer_count" = some (.ofNat (agg.peersById.map Prod.snd).length) := by
  rw [unifiedModel_get _ _ (by decide) (by decide) (by decide) (by decide) (by decide)]
  exact @get_enterFields_entered [_, _, _] _ _ (by simp) _ _ (template_object agg.template)

private theorem unifiedModel_loadedCount :
    (unifiedModel name agg).get "_loaded_count" =
      some (.ofNat ((agg.peersById.map Prod.snd).filter peerLoaded).length) := by
  have same : (fun peer : Json => decide ((peer.get "loaded").bind Json.asBool = some true)) = peerLoaded := by
    funext peer
    rw [peerLoaded]
    rcases (peer.get "loaded").bind Json.asBool with _ | ⟨_ | _⟩ <;> rfl
  rw [unifiedModel_get _ _ (by decide) (by decide) (by decide) (by decide) (by decide), ← same]
  exact @get_enterFields_entered [_, _, _, _] _ _ (by simp) _ _ (template_object agg.template)

private theorem unifiedBase_template {key : String}
    (other : key ∉ ["name", "_peer", "_peers", "_peer_count", "_loaded_count"]) :
    (unifiedBase name agg).get key = agg.template.get key := by
  rw [unifiedBase, get_enterFields (by simpa using other), get_objectOrEmpty]

private theorem unifiedModel_clusters :
    (unifiedModel name agg).get "_clusters" =
      if agg.clusters = [] then agg.template.get "_clusters" else some (.arr agg.clusters) := by
  simp only [unifiedModel]
  rw [get_enterField_of_ne (by decide), get_enterField_of_ne (by decide),
    get_enterField_of_ne (by decide), get_enterField_of_ne (by decide)]
  split_ifs
  · exact unifiedBase_template _ _ (by decide)
  · exact get_enterField_self (unifiedBase_object name agg) _

private theorem unifiedModel_swarms :
    (unifiedModel name agg).get "_swarms" =
      if agg.swarms = [] then agg.template.get "_swarms" else some (.arr agg.swarms) := by
  simp only [unifiedModel]
  rw [get_enterField_of_ne (by decide), get_enterField_of_ne (by decide),
    get_enterField_of_ne (by decide)]
  by_cases none_ : agg.swarms = []
  · rw [if_pos none_, if_pos none_, enterField, get_enterField_of_ne (by decide)]
    exact unifiedBase_template _ _ (by decide)
  · rw [if_neg none_, if_neg none_]
    exact get_enterField_self (enterField_object (unifiedBase_object name agg)) _

end

/-! ## The entries of a name -/

private theorem mem_catalogEntries {entry : CatalogEntry} :
    entry ∈ catalogEntries clusters swarms ↔
      (∃ cluster ∈ clusters, ∃ model ∈ cluster.2, entry = ⟨.cluster, cluster.1, model⟩) ∨
        ∃ swarm ∈ swarms, ∃ model ∈ swarm.2, entry = ⟨.swarm, swarm.1, model⟩ := by
  simp only [catalogEntries, List.mem_append, List.mem_flatMap, List.mem_map, eq_comm]

private theorem entriesFor_models (name : String) :
    (entriesFor name (catalogEntries clusters swarms)).map CatalogEntry.model =
      clusters.flatMap (namedIn name) ++ swarms.flatMap (namedIn name) := by
  have kind : ∀ (scope : NetworkScope) (networks : List (String × List Json)),
      ((networks.flatMap fun network => network.2.map fun model =>
          (⟨scope, network.1, model⟩ : CatalogEntry)).filter fun entry =>
            modelName entry.model = some name).map CatalogEntry.model = networks.flatMap (namedIn name) := by
    intro scope networks
    induction networks with
    | nil => rfl
    | cons network rest ih =>
      rw [List.flatMap_cons, List.filter_append, List.map_append, ih, List.flatMap_cons, namedIn,
        List.filter_map, List.map_map]
      simp [Function.comp_def]
  rw [entriesFor, catalogEntries, List.filter_append, List.map_append]
  exact congrArg₂ (· ++ ·) (kind .cluster clusters) (kind .swarm swarms)

private theorem mem_entriesFor_peers (order : CatalogOrder clusters swarms) {name : String} {peer : Json} :
    peer ∈ (entriesFor name order.entries).flatMap (fun entry => peersFromModel entry.model) ↔
      PeerListed (clusters ++ swarms) name peer := by
  simp only [List.mem_flatMap, entriesFor, List.mem_filter, decide_eq_true_eq, CatalogOrder.entries,
    mem_catalogEntries, PeerListed, List.mem_append, order.clustersPerm.mem_iff, order.swarmsPerm.mem_iff]
  constructor
  · rintro ⟨_, ⟨⟨network, member, model, inside, rfl⟩ | ⟨network, member, model, inside, rfl⟩, named⟩, listed⟩
    · exact ⟨network, .inl member, model, inside, named, listed⟩
    · exact ⟨network, .inr member, model, inside, named, listed⟩
  · rintro ⟨network, member | member, model, inside, named, listed⟩
    · exact ⟨_, ⟨.inl ⟨network, member, model, inside, rfl⟩, named⟩, listed⟩
    · exact ⟨_, ⟨.inr ⟨network, member, model, inside, rfl⟩, named⟩, listed⟩

/-- The networks that are entered are those that list the name; without one it is the template that
decides. -/
private theorem networks_exact_iff {networks : List (String × List Json)} {name field key : String}
    {entry template : Json} {summaries : List Json}
    (given : entry.get field = if summaries = [] then template.get field else some (.arr summaries))
    (ids : ∀ id, id ∈ summaries.filterMap (fun network => (network.get key).bind Json.asStr) ↔
      ∃ network ∈ networks, network.1 = id ∧ Lists network name)
    (none_ : summaries = [] ↔ ∀ network ∈ networks, ¬Lists network name) :
    (∀ id, id ∈ networkIds field key entry ↔ ∃ network ∈ networks, network.1 = id ∧ Lists network name) ↔
      ((∀ network ∈ networks, ¬Lists network name) → networkIds field key template = []) := by
  by_cases empty : summaries = []
  · have unlisted := none_.mp empty
    have same : networkIds field key entry = networkIds field key template := by
      rw [networkIds, given, if_pos empty, networkIds]
    have nobody : ∀ id, ¬∃ network ∈ networks, network.1 = id ∧ Lists network name := by
      rintro id ⟨network, member, -, lists⟩
      exact unlisted network member lists
    rw [same]
    constructor
    · intro right _
      apply List.eq_nil_iff_forall_not_mem.mpr
      exact fun id member => nobody id ((right id).mp member)
    · intro stray id
      rw [stray unlisted]
      exact iff_of_false List.not_mem_nil (nobody id)
  · have entered : networkIds field key entry =
        summaries.filterMap fun network => (network.get key).bind Json.asStr := by
      rw [networkIds, given, if_neg empty]
      rfl
    rw [entered]
    exact iff_of_true ids fun unlisted => absurd (none_.mpr unlisted) empty

section

variable (order : CatalogOrder clusters swarms) (name : String)

/-- The networks of one kind. -/
private def ofScope (clusters swarms : List (String × List Json)) : NetworkScope → List (String × List Json)
  | .cluster => clusters
  | .swarm => swarms

private theorem mem_scoped (scope : NetworkScope) {entry : CatalogEntry} :
    entry ∈ (entriesFor name order.entries).filter (fun entry => entry.scope = scope) ↔
      ∃ network ∈ ofScope clusters swarms scope, ∃ model ∈ network.2,
        modelName model = some name ∧ entry = ⟨scope, network.1, model⟩ := by
  simp only [List.mem_filter, entriesFor, decide_eq_true_eq, CatalogOrder.entries, mem_catalogEntries,
    order.clustersPerm.mem_iff, order.swarmsPerm.mem_iff]
  constructor
  · rintro ⟨⟨⟨network, member, model, inside, rfl⟩ | ⟨network, member, model, inside, rfl⟩, named⟩, rfl⟩
    · exact ⟨network, member, model, inside, named, rfl⟩
    · exact ⟨network, member, model, inside, named, rfl⟩
  · rintro ⟨network, member, model, inside, named, rfl⟩
    cases scope with
    | cluster => exact ⟨⟨.inl ⟨network, member, model, inside, rfl⟩, named⟩, rfl⟩
    | swarm => exact ⟨⟨.inr ⟨network, member, model, inside, rfl⟩, named⟩, rfl⟩

/-- The ids that are read off the summaries of a kind are those of the networks that list the name. -/
private theorem summaries_ids {scope : NetworkScope} {key : String}
    (read : ∀ entry : CatalogEntry, entry.scope = scope →
      (entry.summary.get key).bind Json.asStr = some entry.networkId) (id : String) :
    id ∈ (((entriesFor name order.entries).filter fun entry => entry.scope = scope).map
        CatalogEntry.summary).filterMap (fun network => (network.get key).bind Json.asStr) ↔
      ∃ network ∈ ofScope clusters swarms scope, network.1 = id ∧ Lists network name := by
  simp only [List.mem_filterMap, List.mem_map, mem_scoped]
  constructor
  · rintro ⟨_, ⟨_, ⟨network, member, model, inside, named, rfl⟩, rfl⟩, same⟩
    rw [read _ rfl] at same
    exact ⟨network, member, Option.some.inj same, model, inside, named⟩
  · rintro ⟨network, member, rfl, model, inside, named⟩
    exact ⟨_, ⟨_, ⟨network, member, model, inside, named, rfl⟩, rfl⟩, read _ rfl⟩

private theorem summaries_none {scope : NetworkScope} :
    ((entriesFor name order.entries).filter fun entry => entry.scope = scope).map CatalogEntry.summary = [] ↔
      ∀ network ∈ ofScope clusters swarms scope, ¬Lists network name := by
  rw [List.map_eq_nil_iff, List.eq_nil_iff_forall_not_mem]
  constructor
  · rintro none_ network member ⟨model, inside, named⟩
    exact none_ _ ((mem_scoped order name scope).mpr ⟨network, member, model, inside, named, rfl⟩)
  · intro unlisted entry member
    obtain ⟨network, among, model, inside, named, -⟩ := (mem_scoped order name scope).mp member
    exact unlisted network among ⟨model, inside, named⟩

private theorem aggregated_gathered :
    Gathered ((entriesFor name order.entries).flatMap fun entry => peersFromModel entry.model)
      (order.aggregated name).peersById := by
  have gathered := aggregateModel_gathered (entriesFor name order.entries)
  have same := order.peersPerm name (aggregateModel (entriesFor name order.entries)).peersById
  refine ⟨(same.map _).nodup_iff.mpr gathered.distinct, fun held member => ?_, fun id => ?_,
    fun held member => ?_⟩
  · exact gathered.ids held (same.mem_iff.mp member)
  · exact (same.map _).mem_iff.trans (gathered.known id)
  · exact gathered.loaded held (same.mem_iff.mp member)

private theorem peersFromModel_unified (agg : AggModel) :
    peersFromModel (unifiedModel name agg) = agg.peersById.map Prod.snd := by
  rw [peersFromModel, unifiedModel_peers]
  rfl

private theorem Gathered.peerIds {seen : List Json} {agg : AggModel} (gathered : Gathered seen agg.peersById) :
    (agg.peersById.map Prod.snd).map peerIdFrom = (agg.peersById.map Prod.fst).map some ∧
      peerIds (unifiedModel name agg) = agg.peersById.map Prod.fst := by
  have all : (agg.peersById.map Prod.snd).map peerIdFrom = (agg.peersById.map Prod.fst).map some := by
    rw [List.map_map, List.map_map]
    exact List.map_congr_left gathered.ids
  refine ⟨all, ?_⟩
  have read := congrArg (List.filterMap id) all
  rw [List.filterMap_map, List.filterMap_map] at read
  rw [MtrxPeer.peerIds, peersFromModel_unified]
  simpa [Function.comp_def] using read

/-- The entry of a name, apart from what its template brings along. -/
private theorem entry_exact_iff :
    EntryExact clusters swarms name (unifiedModel name (order.aggregated name)) ↔
      ((∀ cluster ∈ clusters, ¬Lists cluster name) →
          networkIds "_clusters" "cluster_id" (order.aggregated name).template = []) ∧
        ((∀ swarm ∈ swarms, ¬Lists swarm name) →
          networkIds "_swarms" "swarm_id" (order.aggregated name).template = []) := by
  have ofClusters := @networks_exact_iff clusters name "_clusters" "cluster_id" _ _ _
    (unifiedModel_clusters name (order.aggregated name))
    (fun id => by
      rw [CatalogOrder.aggregated, aggregateModel_clusters]
      exact @summaries_ids clusters swarms order name .cluster _ (by rintro ⟨scope, id, model⟩ ⟨⟩; rfl) id)
    (by
      rw [CatalogOrder.aggregated, aggregateModel_clusters]
      exact summaries_none order name)
  have ofSwarms := @networks_exact_iff swarms name "_swarms" "swarm_id" _ _ _
    (unifiedModel_swarms name (order.aggregated name))
    (fun id => by
      rw [CatalogOrder.aggregated, aggregateModel_swarms]
      exact @summaries_ids clusters swarms order name .swarm _ (by rintro ⟨scope, id, model⟩ ⟨⟩; rfl) id)
    (by
      rw [CatalogOrder.aggregated, aggregateModel_swarms]
      exact summaries_none order name)
  rw [← ofClusters, ← ofSwarms]
  refine ⟨fun exact_ => ⟨exact_.clusters, exact_.swarms⟩, fun ⟨inClusters, inSwarms⟩ => ?_⟩
  have gathered := aggregated_gathered order name
  obtain ⟨all, ids⟩ := gathered.peerIds name
  have peers := peersFromModel_unified name (order.aggregated name)
  refine ⟨by rw [peers, ids, all], by rw [ids]; exact gathered.distinct, fun id => ?_, ?_, ?_, ?_,
    inClusters, inSwarms⟩
  · simp only [ids, gathered.known id, mem_entriesFor_peers]
  · intro peer member
    rw [peers] at member
    obtain ⟨held, place, rfl⟩ := List.mem_map.mp member
    simp only [gathered.loaded held place, gathered.ids held place, mem_entriesFor_peers]
  · rw [unifiedModel_peerCount, ids, List.length_map, List.length_map]
  · rw [unifiedModel_loadedCount, peers]

/-! ## The catalog -/

/-- The names in the order of the catalog. -/
private theorem unified_names :
    ∃ names : List String, order.unified = names.map (fun name => unifiedModel name (order.aggregated name)) ∧
      names.Pairwise (· < ·) ∧ ∀ name, name ∈ names ↔ ∃ network ∈ clusters ++ swarms, Lists network name := by
  let listed := order.ofNames (order.entries.filterMap fun entry => modelName entry.model).dedup
  refine ⟨listed.insertionSort (· ≤ ·), ?_, ?_, fun name => ?_⟩
  · refine (List.map_insertionSort (· ≤ ·) _ _ listed fun a _ b _ => ?_).symm
    rw [modelName_unifiedModel, modelName_unifiedModel]
    rfl
  · have distinct : (listed.insertionSort (· ≤ ·)).Nodup :=
      (List.perm_insertionSort _ _).nodup_iff.mpr ((order.namesPerm _).nodup_iff.mpr (List.nodup_dedup _))
    have sorted := List.pairwise_insertionSort (· ≤ ·) listed
    exact (sorted.and distinct).imp fun ⟨le, ne⟩ => Std.lt_of_le_of_ne le ne
  · rw [List.mem_insertionSort, (order.namesPerm _).mem_iff, List.mem_dedup, List.mem_filterMap]
    simp only [CatalogOrder.entries, mem_catalogEntries, List.mem_append, order.clustersPerm.mem_iff,
      order.swarmsPerm.mem_iff]
    constructor
    · rintro ⟨_, ⟨network, member, model, inside, rfl⟩ | ⟨network, member, model, inside, rfl⟩, named⟩
      · exact ⟨network, .inl member, model, inside, named⟩
      · exact ⟨network, .inr member, model, inside, named⟩
    · rintro ⟨network, member | member, model, inside, named⟩
      · exact ⟨_, .inl ⟨network, member, model, inside, rfl⟩, named⟩
      · exact ⟨_, .inr ⟨network, member, model, inside, rfl⟩, named⟩

private theorem catalog_exact_iff :
    CatalogExact clusters swarms order.unified ↔
      ∀ name, (∃ network ∈ clusters ++ swarms, Lists network name) →
        ((∀ cluster ∈ clusters, ¬Lists cluster name) →
            networkIds "_clusters" "cluster_id" (order.aggregated name).template = []) ∧
          ((∀ swarm ∈ swarms, ¬Lists swarm name) →
            networkIds "_swarms" "swarm_id" (order.aggregated name).template = []) := by
  obtain ⟨names, made, sorted, listed⟩ := unified_names order
  constructor
  · intro exact_ name member
    have entered : unifiedModel name (order.aggregated name) ∈ order.unified := by
      rw [made]
      exact List.mem_map.mpr ⟨name, (listed name).mpr member, rfl⟩
    exact (entry_exact_iff order name).mp (exact_.entries _ entered name (modelName_unifiedModel name _))
  · intro brings
    refine ⟨⟨names, ?_, sorted, listed⟩, ?_⟩
    · rw [made, List.map_map]
      exact List.map_congr_left fun name _ => modelName_unifiedModel name _
    · intro entry member name named
      rw [made] at member
      obtain ⟨own, among, rfl⟩ := List.mem_map.mp member
      obtain rfl := Option.some.inj ((modelName_unifiedModel own _).symm.trans named)
      exact (entry_exact_iff order own).mpr (brings own ((listed own).mp among))

private theorem aggregated_template (listed : ∃ network ∈ clusters ++ swarms, Lists network name) :
    richest (order.ofClusters.flatMap (namedIn name) ++ order.ofSwarms.flatMap (namedIn name)) =
      some (order.aggregated name).template := by
  have models := @entriesFor_models order.ofClusters order.ofSwarms name
  have some_ : entriesFor name order.entries ≠ [] := by
    obtain ⟨network, member, model, inside, named⟩ := listed
    have entered : model ∈ (entriesFor name order.entries).map CatalogEntry.model := by
      rw [CatalogOrder.entries, models, List.mem_append]
      have own : model ∈ namedIn name network := by simp [namedIn, inside, named]
      rcases List.mem_append.mp member with cluster | swarm
      · exact .inl (List.mem_flatMap.mpr ⟨network, order.clustersPerm.mem_iff.mpr cluster, own⟩)
      · exact .inr (List.mem_flatMap.mpr ⟨network, order.swarmsPerm.mem_iff.mpr swarm, own⟩)
    rintro empty
    rw [empty] at entered
    cases entered
  rw [← models]
  exact aggregateModel_template some_

end

private theorem namedIn_nil {networks : List (String × List Json)} {name : String}
    (unlisted : ∀ network ∈ networks, ¬Lists network name) : networks.flatMap (namedIn name) = [] := by
  rw [List.flatMap_eq_nil_iff]
  intro network member
  rw [namedIn, List.filter_eq_nil_iff]
  intro model inside named
  exact unlisted network member ⟨model, inside, by simpa using named⟩

private theorem mayBeTemplate_listed {networks : List (String × List Json)} {name : String} {model : Json}
    (may : MayBeTemplate networks name model) : ∃ network ∈ networks, Lists network name := by
  obtain ⟨network, member, found, -⟩ := may
  obtain ⟨inside, -⟩ := richest_most found
  obtain ⟨among, named⟩ := List.mem_filter.mp inside
  exact ⟨network, member, model, among, by simpa using named⟩

/-- In every order the catalog is exact if no template brings networks along, and only then. -/
private theorem all_exact_iff :
    (∀ order : CatalogOrder clusters swarms, CatalogExact clusters swarms order.unified) ↔
      NoStrayNetworks clusters swarms := by
  constructor
  · intro exact_
    constructor
    · intro name unlisted model may
      obtain ⟨first, perm, found⟩ := richest_first may
      let order : CatalogOrder clusters swarms :=
        { CatalogOrder.given clusters swarms with ofSwarms := first, swarmsPerm := perm }
      obtain ⟨network, member, lists⟩ := mayBeTemplate_listed may
      have listed : ∃ network ∈ clusters ++ swarms, Lists network name :=
        ⟨network, List.mem_append_right _ member, lists⟩
      have template := aggregated_template order name listed
      rw [@namedIn_nil order.ofClusters name unlisted, List.nil_append, found] at template
      rw [Option.some.inj template]
      exact ((catalog_exact_iff order).mp (exact_ order) name listed).1 unlisted
    · intro name unlisted model may
      obtain ⟨first, perm, found⟩ := richest_first may
      let order : CatalogOrder clusters swarms :=
        { CatalogOrder.given clusters swarms with ofClusters := first, clustersPerm := perm }
      obtain ⟨network, member, lists⟩ := mayBeTemplate_listed may
      have listed : ∃ network ∈ clusters ++ swarms, Lists network name :=
        ⟨network, List.mem_append_left _ member, lists⟩
      have template := aggregated_template order name listed
      rw [@namedIn_nil order.ofSwarms name unlisted, List.append_nil, found] at template
      rw [Option.some.inj template]
      exact ((catalog_exact_iff order).mp (exact_ order) name listed).2 unlisted
  · intro clean order
    rw [catalog_exact_iff]
    intro name listed
    have template := aggregated_template order name listed
    constructor
    · intro unlisted
      have none_ : order.ofClusters.flatMap (namedIn name) = [] :=
        namedIn_nil fun cluster member => unlisted cluster (order.clustersPerm.mem_iff.mp member)
      rw [none_, List.nil_append] at template
      exact clean.clusterless name unlisted _
        (mayBeTemplate_perm order.swarmsPerm (mayBeTemplate_of_richest template))
    · intro unlisted
      have none_ : order.ofSwarms.flatMap (namedIn name) = [] :=
        namedIn_nil fun swarm member => unlisted swarm (order.swarmsPerm.mem_iff.mp member)
      rw [none_, List.append_nil] at template
      exact clean.swarmless name unlisted _
        (mayBeTemplate_perm order.clustersPerm (mayBeTemplate_of_richest template))

/-! ## Any two orders -/

private theorem map_filterMap {α β : Type} {f : α → Option β} {items : List α}
    (all : ∀ item ∈ items, (f item).isSome) : items.map f = (items.filterMap f).map some := by
  induction items with
  | nil => rfl
  | cons item rest ih =>
    obtain ⟨found, here⟩ := Option.isSome_iff_exists.mp (all item List.mem_cons_self)
    rw [List.map_cons, List.filterMap_cons_some here, List.map_cons, here,
      ih fun other member => all other (List.mem_cons_of_mem item member)]

/-- The ids of the loaded peers of an exact entry: each once, and those that are listed loaded. -/
private theorem loaded_ids {name : String} {entry : Json} (exact_ : EntryExact clusters swarms name entry) :
    (((peersFromModel entry).filter peerLoaded).filterMap peerIdFrom).Nodup ∧
      (((peersFromModel entry).filter peerLoaded).filterMap peerIdFrom).length =
        ((peersFromModel entry).filter peerLoaded).length ∧
      ∀ id, id ∈ ((peersFromModel entry).filter peerLoaded).filterMap peerIdFrom ↔
        ∃ peer, PeerListed (clusters ++ swarms) name peer ∧ peerIdFrom peer = some id ∧
          peerLoaded peer = true := by
  have sublist := (List.filter_sublist (p := peerLoaded) (l := peersFromModel entry))
  have ids : ∀ peer ∈ peersFromModel entry, (peerIdFrom peer).isSome := by
    intro peer member
    have among : peerIdFrom peer ∈ (peersFromModel entry).map peerIdFrom := List.mem_map_of_mem member
    rw [exact_.named] at among
    obtain ⟨id, -, same⟩ := List.mem_map.mp among
    rw [← same]
    rfl
  have kept := map_filterMap fun peer member => ids peer (sublist.subset member)
  refine ⟨?_, ?_, fun id => ?_⟩
  · exact exact_.distinct.sublist (sublist.filterMap peerIdFrom)
  · have lengths := congrArg List.length kept
    rw [List.length_map, List.length_map] at lengths
    exact lengths.symm
  · rw [List.mem_filterMap]
    constructor
    · rintro ⟨peer, member, same⟩
      obtain ⟨inside, loaded⟩ := List.mem_filter.mp member
      obtain ⟨other, listed, own, told⟩ := (exact_.loaded peer inside).mp loaded
      exact ⟨other, listed, own.trans same, told⟩
    · rintro ⟨other, listed, same, told⟩
      obtain ⟨peer, inside, own⟩ := List.mem_filterMap.mp ((exact_.peers id).mpr ⟨other, listed, same⟩)
      have loaded := (exact_.loaded peer inside).mpr ⟨other, listed, same.trans own.symm, told⟩
      exact ⟨peer, List.mem_filter.mpr ⟨inside, loaded⟩, own⟩

private theorem length_eq_of_mem {one other : List String} (distinct : one.Nodup) (distinct' : other.Nodup)
    (same : ∀ id, id ∈ one ↔ id ∈ other) : one.length = other.length :=
  ((List.perm_ext_iff_of_nodup distinct distinct').mpr same).length_eq

private theorem entries_alike {name : String} {one other : Json}
    (first : EntryExact clusters swarms name one) (second : EntryExact clusters swarms name other) :
    EntryAlike one other := by
  have peers : ∀ id, id ∈ peerIds one ↔ id ∈ peerIds other := fun id =>
    (first.peers id).trans (second.peers id).symm
  obtain ⟨distinct, length, loaded⟩ := loaded_ids first
  obtain ⟨distinct', length', loaded'⟩ := loaded_ids second
  have same := fun id => (loaded id).trans (loaded' id).symm
  refine ⟨peers, same, ?_, ?_, fun id => (first.clusters id).trans (second.clusters id).symm,
    fun id => (first.swarms id).trans (second.swarms id).symm⟩
  · rw [first.peerCount, second.peerCount, length_eq_of_mem first.distinct second.distinct peers]
  · rw [first.loadedCount, second.loadedCount, ← length, ← length',
      length_eq_of_mem distinct distinct' same]

private theorem sorted_eq {one other : List String} (sorted : one.Pairwise (· < ·))
    (sorted' : other.Pairwise (· < ·)) (same : ∀ name, name ∈ one ↔ name ∈ other) : one = other := by
  have distinct : ∀ {names : List String}, names.Pairwise (· < ·) → names.Nodup := fun sorted =>
    sorted.imp fun {a b} before same => by
      subst same
      exact absurd before (Std.lt_irrefl)
  have weak : ∀ {names : List String}, names.Pairwise (· < ·) → names.Pairwise (· ≤ ·) := fun sorted =>
    sorted.imp fun before => Std.le_of_lt before
  exact ((List.perm_ext_iff_of_nodup (distinct sorted) (distinct sorted')).mpr same).eq_of_pairwise'
    (weak sorted) (weak sorted')

private theorem catalogs_alike {one other : List Json} (first : CatalogExact clusters swarms one)
    (second : CatalogExact clusters swarms other) : CatalogAlike one other := by
  obtain ⟨names, all, sorted, listed⟩ := first.named
  obtain ⟨names', all', sorted', listed'⟩ := second.named
  obtain rfl := sorted_eq sorted sorted' fun name => (listed name).trans (listed' name).symm
  refine ⟨all.trans all'.symm, fun a member b member' same => ?_⟩
  have among : modelName a ∈ names.map some := by
    rw [← all]
    exact List.mem_map_of_mem member
  obtain ⟨name, -, named⟩ := List.mem_map.mp among
  exact entries_alike (first.entries a member name named.symm)
    (second.entries b member' name (same.symm.trans named.symm))

/-- The joined catalog is exact and alike in every order exactly if no template can bring networks
along that do not list its name. -/
theorem unified_exact_iff (clusters swarms : List (String × List Json)) :
    UnifiedExact clusters swarms ↔ NoStrayNetworks clusters swarms := by
  rw [← all_exact_iff]
  exact ⟨fun all => all.exact_, fun all => ⟨all, fun one other => catalogs_alike (all one) (all other)⟩⟩

/-- The order in which everything is given is the one that the node's lists are modelled in. -/
theorem unified_given (clusters swarms : List (String × List Json)) :
    (CatalogOrder.given clusters swarms).unified = syncUnifiedNetworkModels clusters swarms := by
  refine (List.map_insertionSort (· ≤ ·) _ _ _ fun a _ b _ => ?_).symm
  rw [modelName_unifiedModel, modelName_unifiedModel]
  rfl

/-! ## A cluster that nobody has -/

private def strayModel : Json :=
  .obj [("_clusters", .arr [.obj [("cluster_id", .str "c")]]), ("name", .str "m")]

/-- A swarm's entry that names a cluster makes the joined entry one of that cluster. -/
theorem stray_cluster_kept : ¬UnifiedExact [] [("s", [strayModel])] := by
  intro all
  have own : namedIn "m" ("s", [strayModel]) = [strayModel] := by
    have named : modelName strayModel = some "m" := by decide
    simp [namedIn, named]
  have may : MayBeTemplate [("s", [strayModel])] "m" strayModel := by
    refine ⟨_, List.mem_singleton_self _, by rw [own]; rfl, fun other among rival inside => ?_⟩
    obtain rfl := List.mem_singleton.mp among
    rw [own] at inside
    rw [List.mem_singleton.mp inside]
  have ids : networkIds "_clusters" "cluster_id" strayModel = ["c"] := by decide
  have none_ := (all_exact_iff.mp all.exact_).clusterless "m" (by simp) strayModel may
  rw [ids] at none_
  cases none_

end MtrxPeer
