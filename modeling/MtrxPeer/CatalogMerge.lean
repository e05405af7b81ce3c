import MtrxPeer.FirstOfKey
import MtrxPeer.LlmRegistry

/-! The merge of the servers' model lists, entry by entry: the first entry of every name is
listed under its server's tags, and every other one is reported. -/
namespace MtrxPeer

/-! ## The entries -/

/-- An entry of a server's list that has a name. -/
structure NamedModel where
  entry : LlmServerEntry
  model : Json
  name : String

namespace NamedModel

/-- An entry of `entry`'s list, if it has a name. -/
def read (entry : LlmServerEntry) (model : Json) : Option NamedModel :=
  (modelName model).bind fun name => if name = "" then none else some ⟨entry, model, name⟩

/-- The entry as it is listed. -/
def listed (x : NamedModel) : ListedModel := ⟨x.entry.id, tagSource x.entry x.model⟩

/-- The entry as it is reported. -/
def reported (x : NamedModel) : ModelCollision :=
  ⟨x.name, x.entry.label.getD (x.entry.kind ++ " @ " ++ x.entry.url)⟩

end NamedModel

/-- The named entries of all lists, in order. -/
def namedModels (ordered : List (LlmServerEntry × ModelCatalogSnapshot)) : List NamedModel :=
  ordered.flatMap fun listing => listing.2.models.filterMap (NamedModel.read listing.1)

/-- A model carries the id, the kind and the address of a server. -/
structure TaggedBy (entry : LlmServerEntry) (model : Json) : Prop where
  server : model.get "_source_server" = some (.str entry.id)
  kind : model.get "_source_kind" = some (.str entry.kind)
  url : model.get "_source_url" = some (.str entry.url)

/-- A model that is listed, and the first server whose list has its name. -/
def ListedFirst (ordered : List (LlmServerEntry × ModelCatalogSnapshot)) (model : ListedModel) : Prop :=
  ∃ before listing after name, ordered = before ++ listing :: after ∧
    modelName model.json = some name ∧ listsModel listing.2 name = true ∧
    (∀ earlier ∈ before, listsModel earlier.2 name = false) ∧
    model.server = listing.1.id ∧ TaggedBy listing.1 model.json

/-- The merge lists the first entry of every name and reports all others. -/
structure ExactMerge (ordered : List (LlmServerEntry × ModelCatalogSnapshot)) (merged : MergedCatalog) :
    Prop where
  distinct : merged.modelNames.Nodup
  named : (merged.models.map fun model => modelName model.json) = merged.modelNames.map some
  models : merged.models = (firstItems NamedModel.name (namedModels ordered)).map NamedModel.listed
  collisions : merged.collisions =
    (laterItems NamedModel.name (namedModels ordered)).map NamedModel.reported
  inOrder : (firstItems NamedModel.name (namedModels ordered)).Sublist (namedModels ordered)
  complete : (firstItems NamedModel.name (namedModels ordered) ++
    laterItems NamedModel.name (namedModels ordered)).Perm (namedModels ordered)
  first : ∀ model ∈ merged.models, ListedFirst ordered model

/-! ## The loops -/

/-- What is merged of these entries. -/
private structure Merges (entries : List NamedModel) (merged : MergedCatalog) : Prop where
  models : merged.models = (firstItems NamedModel.name entries).map NamedModel.listed
  names : merged.modelNames = (firstItems NamedModel.name entries).map NamedModel.name
  collisions : merged.collisions = (laterItems NamedModel.name entries).map NamedModel.reported

private theorem mergeModel_merges {entries : List NamedModel} {merged : MergedCatalog}
    (merges : Merges entries merged) (entry : LlmServerEntry) (model : Json) :
    Merges (entries ++ (NamedModel.read entry model).toList) (mergeModel entry merged model) := by
  cases named : modelName model with
  | none => simpa [mergeModel, NamedModel.read, named] using merges
  | some name =>
    by_cases blank : name = ""
    · simpa [mergeModel, NamedModel.read, named, blank] using merges
    · have read : NamedModel.read entry model = some ⟨entry, model, name⟩ := by
        simp [NamedModel.read, named, blank]
      have seen : name ∈ merged.modelNames ↔ name ∈ entries.map NamedModel.name := by
        rw [merges.names, mem_firstItems_key]
      rw [read, Option.toList_some]
      by_cases taken : name ∈ merged.modelNames
      · have old := seen.mp taken
        simp only [mergeModel, named, Option.getD_some, if_neg blank, if_pos taken]
        constructor
        · rw [firstItems_concat, if_pos old, List.append_nil, merges.models]
        · rw [firstItems_concat, if_pos old, List.append_nil, merges.names]
        · rw [laterItems_concat, if_pos old, List.map_append, merges.collisions]
          rfl
      · have fresh := mt seen.mpr taken
        simp only [mergeModel, named, Option.getD_some, if_neg blank, if_neg taken]
        constructor
        · rw [firstItems_concat, if_neg fresh, List.map_append, merges.models]
          rfl
        · rw [firstItems_concat, if_neg fresh, List.map_append, merges.names]
          rfl
        · rw [laterItems_concat, if_neg fresh, List.append_nil, merges.collisions]

private theorem mergeModels_merges {entries : List NamedModel} {merged : MergedCatalog}
    (merges : Merges entries merged) (entry : LlmServerEntry) (models : List Json) :
    Merges (entries ++ models.filterMap (NamedModel.read entry)) (models.foldl (mergeModel entry) merged) := by
  induction models generalizing entries merged with
  | nil => simpa using merges
  | cons model rest ih =>
    have next := ih (mergeModel_merges merges entry model)
    rw [List.append_assoc] at next
    have read : (NamedModel.read entry model).toList ++ rest.filterMap (NamedModel.read entry) =
        (model :: rest).filterMap (NamedModel.read entry) := by
      cases named : NamedModel.read entry model <;> simp [named]
    rwa [read] at next

private theorem mergeSnapshots_merges {entries : List NamedModel} {merged : MergedCatalog}
    (merges : Merges entries merged) (ordered : List (LlmServerEntry × ModelCatalogSnapshot)) :
    Merges (entries ++ namedModels ordered) (ordered.foldl mergeSnapshot merged) := by
  induction ordered generalizing entries merged with
  | nil => simpa [namedModels] using merges
  | cons listing rest ih =>
    have entered : Merges entries { merged with gpuHost := merged.gpuHost.or listing.2.gpuHost } :=
      ⟨merges.models, merges.names, merges.collisions⟩
    have next := ih (mergeModels_merges entered listing.1 listing.2.models)
    rw [List.append_assoc] at next
    exact next

private theorem merged_catalog (ordered : List (LlmServerEntry × ModelCatalogSnapshot)) :
    Merges (namedModels ordered) (mergeCatalogSnapshots ordered) := by
  have nothing : Merges [] ⟨[], [], none, []⟩ := ⟨rfl, rfl, rfl⟩
  exact mergeSnapshots_merges nothing ordered

/-! ## Where a model is from -/

private theorem read_some {entry : LlmServerEntry} {model : Json} {x : NamedModel}
    (read : NamedModel.read entry model = some x) :
    x.entry = entry ∧ x.model = model ∧ modelName model = some x.name ∧ x.name ≠ "" := by
  obtain ⟨name, named, given⟩ := Option.bind_eq_some_iff.mp read
  split_ifs at given with blank
  obtain rfl := Option.some.inj given
  exact ⟨rfl, rfl, named, blank⟩

private theorem taggedBy_tagSource {entry : LlmServerEntry} {model : Json} {name : String}
    (named : modelName model = some name) : TaggedBy entry (tagSource entry model) := by
  have self : ∀ (fields : List (String × Json)) (key : String) (value : Json),
      ((Json.obj fields).insert key value).get key = some value := fun fields key value =>
    Json.lookup_insertField_self key value fields
  cases model with
  | obj fields =>
    constructor
    · rw [tagSource, Json.get_insert_of_ne (by decide), Json.get_insert_of_ne (by decide), self]
    · rw [tagSource, Json.get_insert_of_ne (by decide), Json.insert_obj, self]
    · rw [tagSource, Json.insert_obj, Json.insert_obj, self]
  | _ => simp [modelName, Json.get] at named

private theorem listsModel_iff (entry : LlmServerEntry) {snapshot : ModelCatalogSnapshot} {name : String} :
    listsModel snapshot name = true ↔
      name ∈ (snapshot.models.filterMap (NamedModel.read entry)).map NamedModel.name := by
  simp only [listsModel, Bool.and_eq_true, decide_eq_true_eq, List.any_eq_true, List.mem_map,
    List.mem_filterMap]
  constructor
  · rintro ⟨nonempty, model, member, named⟩
    exact ⟨⟨entry, model, name⟩, ⟨model, member, by simp [NamedModel.read, named, nonempty]⟩, rfl⟩
  · rintro ⟨x, ⟨model, member, read⟩, rfl⟩
    obtain ⟨-, -, named, nonempty⟩ := read_some read
    exact ⟨nonempty, model, member, named⟩

/-- A place among the named entries is a place in one server's list. -/
private theorem namedModels_split {ordered : List (LlmServerEntry × ModelCatalogSnapshot)}
    {before after : List NamedModel} {x : NamedModel}
    (split : namedModels ordered = before ++ x :: after) :
    ∃ earlier listing later front back, ordered = earlier ++ listing :: later ∧
      listing.2.models.filterMap (NamedModel.read listing.1) = front ++ x :: back ∧
      before = namedModels earlier ++ front := by
  induction ordered generalizing before with
  | nil => simp [namedModels] at split
  | cons listing rest ih =>
    have parts : listing.2.models.filterMap (NamedModel.read listing.1) ++ namedModels rest =
        before ++ x :: after := split
    rcases List.append_eq_append_iff.mp parts with ⟨middle, rfl, tail⟩ | ⟨middle, whole, tail⟩
    · obtain ⟨earlier, other, later, front, back, rfl, whole, rfl⟩ := ih tail
      exact ⟨listing :: earlier, other, later, front, back, rfl, whole, (List.append_assoc ..).symm⟩
    · cases middle with
      | nil =>
        rw [List.nil_append] at tail
        have tail : namedModels rest = [] ++ x :: after := tail.symm
        obtain ⟨earlier, other, later, front, back, rfl, whole', start⟩ := ih tail
        refine ⟨listing :: earlier, other, later, front, back, rfl, whole', ?_⟩
        rw [List.append_nil] at whole
        rw [← whole]
        have same : namedModels (listing :: earlier) =
          listing.2.models.filterMap (NamedModel.read listing.1) ++ namedModels earlier := rfl
        rw [same, List.append_assoc, ← start, List.append_nil]
      | cons y more =>
        obtain ⟨rfl, -⟩ := List.cons.inj tail
        exact ⟨[], listing, rest, before, more, rfl, whole, rfl⟩

private theorem first_listed {ordered : List (LlmServerEntry × ModelCatalogSnapshot)} {x : NamedModel}
    (first : x ∈ firstItems NamedModel.name (namedModels ordered)) : ListedFirst ordered x.listed := by
  obtain ⟨before, after, split, fresh⟩ := firstItems_split first
  obtain ⟨earlier, listing, later, front, back, rfl, whole, rfl⟩ := namedModels_split split
  have inside : x ∈ listing.2.models.filterMap (NamedModel.read listing.1) := by simp [whole]
  obtain ⟨model, member, read⟩ := List.mem_filterMap.mp inside
  obtain ⟨same, rfl, named, -⟩ := read_some read
  refine ⟨earlier, listing, later, x.name, rfl, ?_, ?_, ?_, by rw [← same]; rfl, ?_⟩
  · rw [NamedModel.listed, modelName_tagSource, named]
  · exact (listsModel_iff listing.1).mpr (List.mem_map_of_mem inside)
  · intro other place
    rw [← Bool.not_eq_true]
    intro lists
    have among : x.name ∈ (namedModels earlier).map NamedModel.name := by
      obtain ⟨y, member, named⟩ := List.mem_map.mp ((listsModel_iff other.1).mp lists)
      exact List.mem_map.mpr ⟨y, List.mem_flatMap.mpr ⟨other, place, member⟩, named⟩
    rw [List.map_append] at fresh
    exact fresh (List.mem_append_left _ among)
  · rw [← same]
    exact taggedBy_tagSource named

/-- The merge of any lists is exact. -/
theorem catalog_merge_exact (ordered : List (LlmServerEntry × ModelCatalogSnapshot)) :
    ExactMerge ordered (mergeCatalogSnapshots ordered) := by
  obtain ⟨named, distinct⟩ := mergeCatalogSnapshots_names ordered
  have merges := merged_catalog ordered
  refine ⟨distinct, named, merges.models, merges.collisions, itemsBy_sublist _ _,
    firstItems_perm _, ?_⟩
  intro model member
  rw [merges.models] at member
  obtain ⟨x, first, rfl⟩ := List.mem_map.mp member
  exact first_listed first

end MtrxPeer
