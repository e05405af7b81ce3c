import Mathlib.Data.List.Induction
import MtrxPeer.ServerRegistry

/-! The routes of the models while the registry changes. A rebuild reads which servers there
are, asks each for its models, and writes the catalog and its routes at the end. -/
namespace MtrxPeer

/-- A rebuild under way: the servers it has still to ask, and the lists it has. -/
structure CatalogRebuild where
  todo : List String
  listed : List (LlmServerEntry × ModelCatalogSnapshot)

structure RebuildState where
  servers : ServersState
  rebuilds : Nat → Option CatalogRebuild

inductive RebuildEvent where
  | operate (op : ServerOp)
  /-- A sync from a copy of the configuration that was taken before. -/
  | syncFrom (config : List ConfigServer) (builds : ConfigServer → Bool)
  | begin (task : Nat) (order : List LlmServerEntry)
  | list (task : Nat) (answer : Option ModelCatalogSnapshot)
  | write (task : Nat)

/-- The ids of the servers, the lowest order first; ties are in the order in which the
registry is gone through. -/
def orderedIds (order values : List LlmServerEntry) : List String :=
  ((if order.Perm values then order else values).insertionSort fun a b => a.order ≤ b.order).map (·.id)

/-- The next server is asked: one that is gone or does not answer is skipped. -/
def CatalogRebuild.listNext (rebuild : CatalogRebuild) (inner : RegistryInner)
    (answer : Option ModelCatalogSnapshot) : CatalogRebuild :=
  match rebuild.todo with
  | [] => rebuild
  | id :: todo =>
    match inner.servers.lookup id, answer with
    | some entry, some snapshot => ⟨todo, rebuild.listed ++ [(entry, snapshot)]⟩
    | _, _ => { rebuild with todo }

/-- The catalog of the lists, and its routes. -/
def RegistryInner.writeCatalog (inner : RegistryInner)
    (listed : List (LlmServerEntry × ModelCatalogSnapshot)) : RegistryInner :=
  let merged := mergeCatalogSnapshots listed
  { inner with modelRoutes := MtrxPeer.modelRoutes merged.models, merged := some merged }

def rebuildStep (s : RebuildState) : RebuildEvent → RebuildState
  | .operate op => { s with servers := serverStep s.servers op }
  | .syncFrom config builds =>
    { s with servers.inner := s.servers.inner.syncFromConfig config builds }
  | .begin task order => { s with
      rebuilds := Function.update s.rebuilds task (some ⟨orderedIds order s.servers.inner.values, []⟩) }
  | .list task answer => { s with
      rebuilds := Function.update s.rebuilds task
        ((s.rebuilds task).map (·.listNext s.servers.inner answer)) }
  | .write task =>
    match s.rebuilds task with
    | some ⟨[], listed⟩ =>
      { servers.config := s.servers.config
        servers.inner := s.servers.inner.writeCatalog listed
        rebuilds := Function.update s.rebuilds task none }
    | _ => s

def rebuildMachine : Machine RebuildState RebuildEvent Unit where
  step s e := (rebuildStep s e, [])

abbrev RebuildRecord := Record RebuildState RebuildEvent Unit

/-! ## No dangling route -/

/-- A route or the merged catalog names a server. -/
def NamesServer (inner : RegistryInner) (id : String) : Prop :=
  (∃ name, inner.modelRoutes name = some id) ∨
    ∃ merged model, inner.merged = some merged ∧ model ∈ merged.models ∧ sourceServer model.json = some id

/-- Every server that is named is registered. -/
def NoDangling (inner : RegistryInner) : Prop :=
  ∀ id, NamesServer inner id → id ∈ inner.servers

/-- A sync leaves the servers that are named; and what a rebuild has listed is written while
each server that is the first to list a name is registered. -/
def KeepsNamed (r : RebuildRecord) : Prop :=
  match r.event with
  | .operate (.sync _) =>
    ∀ id, NamesServer r.before.servers.inner id →
      ∃ server ∈ r.before.servers.config, server.attached = true ∧ server.id = id
  | .syncFrom config _ =>
    ∀ id, NamesServer r.before.servers.inner id → ∃ server ∈ config, server.attached = true ∧ server.id = id
  | .write task =>
    ∀ listed, r.before.rebuilds task = some ⟨[], listed⟩ → ∀ name listing,
      listed.find? (fun listing => listsModel listing.2 name) = some listing →
        listing.1.id ∈ r.before.servers.inner.servers
  | _ => True

section Named

variable {inner : RegistryInner} {id : String}

/-- A model of a list in which no two have one name has the route of its name. -/
private theorem modelRoutes_of_mem {models : List ListedModel} {model : ListedModel} {name server : String}
    (distinct : (models.map fun model => modelName model.json).Nodup)
    (tagged : ∀ model ∈ models, modelName model.json ≠ none ∧ sourceServer model.json ≠ none)
    (member : model ∈ models) (named : modelName model.json = some name)
    (tag : sourceServer model.json = some server) : modelRoutes models name = some server := by
  induction models using List.reverseRecOn with
  | nil => cases member
  | append_singleton models last ih =>
    obtain ⟨lastName, lastNamed⟩ := Option.ne_none_iff_exists'.mp (tagged last (by simp)).1
    obtain ⟨lastServer, lastTag⟩ := Option.ne_none_iff_exists'.mp (tagged last (by simp)).2
    have routes : modelRoutes (models ++ [last]) =
        Function.update (modelRoutes models) lastName (some lastServer) := by
      simp [modelRoutes, List.foldl_append, lastNamed, lastTag]
    rw [List.map_append, List.nodup_append] at distinct
    obtain ⟨olderDistinct, -, apart⟩ := distinct
    rcases List.mem_append.mp member with older | newest
    · have differs : name ≠ lastName := by
        rintro rfl
        refine apart _ (List.mem_map_of_mem older) (modelName last.json) (by simp) ?_
        rw [named, lastNamed]
      rw [routes, Function.update_of_ne differs]
      exact ih olderDistinct (fun model held => tagged model (List.mem_append_left _ held)) older
    · obtain rfl := List.mem_singleton.mp newest
      rw [named] at lastNamed
      obtain rfl := Option.some.inj lastNamed
      rw [routes, Function.update_self, ← lastTag, tag]

/-- What a merged catalog names is a server that is the first to list a name. -/
private theorem writeCatalog_names {listed : List (LlmServerEntry × ModelCatalogSnapshot)}
    (names : NamesServer (inner.writeCatalog listed) id) :
    ∃ name listing, listed.find? (fun listing => listsModel listing.2 name) = some listing ∧
      listing.1.id = id := by
  have routed : ∃ name, modelRoutes (mergeCatalogSnapshots listed).models name = some id := by
    rcases names with route | ⟨merged, model, same, member, tag⟩
    · exact route
    · obtain rfl := Option.some.inj same
      obtain ⟨named, distinct⟩ := mergeCatalogSnapshots_names listed
      have isNamed : ∀ model ∈ (mergeCatalogSnapshots listed).models, modelName model.json ≠ none := by
        intro model held none_
        have entered : modelName model.json ∈ (mergeCatalogSnapshots listed).modelNames.map some := by
          rw [← named]
          exact List.mem_map_of_mem held
        obtain ⟨name, -, given⟩ := List.mem_map.mp entered
        rw [none_] at given
        cases given
      obtain ⟨name, given⟩ := Option.ne_none_iff_exists'.mp (isNamed model member)
      refine ⟨name, modelRoutes_of_mem ?_ (fun model held => ⟨isNamed model held, ?_⟩) member given tag⟩
      · rw [named]
        exact distinct.map (Option.some_injective _)
      · rw [mergeCatalogSnapshots_tagged listed model held]
        simp
  obtain ⟨name, route⟩ := routed
  rw [mergeCatalogSnapshots_route] at route
  obtain ⟨listing, found, rfl⟩ := Option.map_eq_some_iff.mp route
  exact ⟨name, listing, found, rfl⟩

private theorem mem_syncServers (builds : ConfigServer → Bool) (todo : List ConfigServer)
    {table : AList fun _ : String => LlmServerEntry} (held : id ∈ table) :
    id ∈ syncServers builds todo table := by
  induction todo generalizing table with
  | nil => exact held
  | cons server rest ih =>
    have entered : id ∈ table.insert server.id server.toLlmServerEntry := by
      rw [AList.mem_insert]
      exact .inr held
    cases attached : server.attached with
    | false =>
      simp only [syncServers, attached, Bool.not_false, if_true]
      exact ih held
    | true =>
      simp only [syncServers, attached, Bool.not_true, Bool.false_eq_true, if_false]
      split
      · split
        · exact ih entered
        · exact entered
      · split
        · exact ih entered
        · exact held

/-- A sync keeps the registered servers that are attached in its configuration. -/
private theorem mem_syncFromConfig {config : List ConfigServer} (builds : ConfigServer → Bool)
    (held : id ∈ inner.servers) (kept : ∃ server ∈ config, server.attached = true ∧ server.id = id) :
    id ∈ (inner.syncFromConfig config builds).servers := by
  refine mem_syncServers builds config ?_
  obtain ⟨server, member, attached, rfl⟩ := kept
  obtain ⟨entry, found⟩ := Option.isSome_iff_exists.mp (AList.lookup_isSome.mpr held)
  refine AList.lookup_isSome.mp ?_
  rw [lookup_retainKeys, if_pos, found]
  · rfl
  · simp only [decide_eq_true_eq]
    exact List.mem_map_of_mem (List.mem_filter.mpr ⟨member, attached⟩)

private theorem drop_noDangling : NoDangling (inner.drop id) := by
  rintro other (⟨name, route⟩ | ⟨merged, model, same, -⟩)
  · cases route
  · cases same

/-- One step leaves no dangling route, where it keeps what is named. -/
theorem rebuildStep_noDangling {s : RebuildState} (sound : NoDangling s.servers.inner) {e : RebuildEvent}
    (keeps : KeepsNamed (rebuildMachine.record s e)) : NoDangling (rebuildStep s e).servers.inner := by
  cases e with
  | operate op =>
    cases op with
    | findOrAdd newId entry => exact sound
    | attach id answers =>
      simp only [rebuildStep, serverStep, ServersState.attach]
      split
      · exact sound
      · split
        · exact sound
        · intro other names
          rw [AList.mem_insert]
          exact .inr (sound other names)
    | detach id =>
      simp only [rebuildStep, serverStep, ServersState.detach]
      split
      · exact drop_noDangling
      · exact sound
    | remove id => exact drop_noDangling
    | sync builds => exact fun id names => mem_syncFromConfig builds (sound id names) (keeps id names)
    | cliOverrides newId cellUrl llmHost => exact sound
    | migrate newId llmUrl llmBackend => exact sound
  | syncFrom config builds => exact fun id names => mem_syncFromConfig builds (sound id names) (keeps id names)
  | begin task order => exact sound
  | list task answer => exact sound
  | write task =>
    simp only [rebuildStep]
    split
    · rename_i listed found
      intro id names
      obtain ⟨name, listing, first, rfl⟩ := writeCatalog_names names
      exact keeps listed found name listing first
    · exact sound

/-- In a run whose syncs and rebuilds keep what is named, every route and every model of the
catalog is of a registered server. -/
theorem no_dangling_route {config : List ConfigServer} {past : List RebuildRecord} {s : RebuildState}
    (ran : rebuildMachine.Reaches ⟨⟨config, .new⟩, fun _ => none⟩ past s)
    (keeps : ∀ r ∈ past, KeepsNamed r) : NoDangling s.servers.inner := by
  refine ran.invariant (fun _ s => NoDangling s.servers.inner) KeepsNamed ?_
    (fun _ _ _ sound keeps => rebuildStep_noDangling sound keeps) keeps
  rintro id (⟨name, route⟩ | ⟨merged, model, same, -⟩)
  · cases route
  · cases same

end Named

def attachedServer (id : String) : ConfigServer where
  id
  kind := "ollama"
  url := "http://" ++ id
  label := none
  attached := false
  order := 0
  source := "manual"
  advertiseToCluster := true

def routedList : Option ModelCatalogSnapshot := some ⟨[.obj [("name", .str "llama3")]], none⟩

/-- A rebuild of one server, written while it is registered. -/
theorem no_dangling_route_sample :
    NoDangling ((rebuildMachine.history ⟨⟨[attachedServer "a"], .new⟩, fun _ => none⟩
      [.operate (.attach "a" true), .begin 0 [], .list 0 routedList, .write 0]).2).servers.inner := by
  refine no_dangling_route (Machine.reaches_history rebuildMachine _ _) ?_
  intro r member
  simp only [Machine.history, List.foldl_cons, List.foldl_nil, List.mem_cons, List.not_mem_nil,
    or_false] at member
  rcases member with rfl | rfl | rfl | rfl
  · intro listed found name listing first
    cases found
    have only := List.mem_of_find?_eq_some first
    obtain rfl := List.mem_singleton.mp only
    decide
  · trivial
  · trivial
  · trivial

/-- A server is removed while a rebuild that has listed it is under way. -/
theorem removed_server_routed :
    ∃ past s, rebuildMachine.Reaches ⟨⟨[attachedServer "a"], .new⟩, fun _ => none⟩ past s ∧
      ¬ NoDangling s.servers.inner := by
  refine ⟨_, _, Machine.reaches_history rebuildMachine _ [.operate (.attach "a" true), .begin 0 [],
    .list 0 routedList, .operate (.remove "a"), .write 0], fun sound => ?_⟩
  have held := sound "a" (.inl ⟨"llama3", by decide⟩)
  revert held
  decide

end MtrxPeer
