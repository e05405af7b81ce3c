import Mathlib.Data.List.Sort
import MtrxPeer.ServerRegistry

/-! The orders of the attached servers. Where no two are the same, a rebuilt catalog is the
same for every order in which the registry is gone through. -/
namespace MtrxPeer

/-! ## Sorting by distinct keys -/

/-- By a key that no two items share, a list is sorted alike from any order. -/
theorem insertionSort_eq_of_perm {α : Type} (key : α → Nat) {items items' : List α}
    (perm : items.Perm items') (distinct : (items.map key).Nodup) :
    (items.insertionSort fun a b => key a ≤ key b) = items'.insertionSort fun a b => key a ≤ key b := by
  have total : Std.Total fun a b : α => key a ≤ key b := ⟨fun a b => Nat.le_total _ _⟩
  have trans : IsTrans α fun a b : α => key a ≤ key b := ⟨fun _ _ _ => Nat.le_trans⟩
  have sorted := List.perm_insertionSort (fun a b : α => key a ≤ key b) items
  have sorted' := List.perm_insertionSort (fun a b : α => key a ≤ key b) items'
  refine List.Perm.eq_of_pairwise ?_ (List.pairwise_insertionSort _ _) (List.pairwise_insertionSort _ _)
    (sorted.trans (perm.trans sorted'.symm))
  intro a b here there below above
  exact List.inj_on_of_nodup_map distinct (sorted.mem_iff.mp here)
    (perm.mem_iff.mpr (sorted'.mem_iff.mp there)) (Nat.le_antisymm below above)

/-! ## Distinct orders -/

/-- No two attached servers have the same order. -/
def DistinctOrders (servers : List ConfigServer) : Prop := (attachedOrders servers).Nodup

instance (servers : List ConfigServer) : Decidable (DistinctOrders servers) :=
  inferInstanceAs (Decidable (attachedOrders servers).Nodup)

def isCellServer (server : ConfigServer) : Bool := isInferenceCellKind server.kind

/-- The order that the cell has once it is registered. -/
def cellOrder (servers : List ConfigServer) : Nat :=
  ((servers.find? isCellServer).map (·.order)).getD 0

/-- The order that an operation gives to a server is of no other attached one: the cell's own,
or zero, when it is registered; and the next one, which 32 bits hold, when a server is attached. -/
def FreshOrder (s : ServersState) : ServerOp → Prop
  | .attach id answers =>
    answers = true → (∃ entry, s.config.find? (·.id = id) = some entry ∧ entry.attached = false) →
      ∀ other ∈ s.config, other.attached = true → other.order + 1 < 2 ^ 32
  | .cliOverrides _ cellUrl _ =>
    (cellUrl.map fun url => trimEndSlashes (trim url)).filter (· ≠ "") ≠ none →
      ∀ other ∈ s.config.eraseP isCellServer, other.attached = true → other.order ≠ cellOrder s.config
  | _ => True

abbrev ServerRecord := Record ServersState ServerOp Unit

/-- The registered servers are attached ones of the configuration, with their orders. -/
def Registered (config : List ConfigServer) (servers : AList fun _ : String => LlmServerEntry) : Prop :=
  ∀ id entry, servers.lookup id = some entry → entry.id = id ∧
    ∃ server ∈ config, server.attached = true ∧ server.id = id ∧ server.order = entry.order

section Orders

variable {config servers : List ConfigServer} {server entry : ConfigServer} {id : String} {order : Nat}

theorem mem_attachedOrders :
    order ∈ attachedOrders servers ↔ ∃ server ∈ servers, server.attached = true ∧ server.order = order := by
  simp only [attachedOrders, List.mem_map, List.mem_filter, and_assoc]

private theorem DistinctOrders.perm (distinct : DistinctOrders config) (perm : config.Perm servers) :
    DistinctOrders servers :=
  ((perm.filter _).map _).nodup_iff.mp distinct

private theorem distinctOrders_cons :
    DistinctOrders (server :: servers) ↔
      (server.attached = true → server.order ∉ attachedOrders servers) ∧ DistinctOrders servers := by
  cases attached : server.attached with
  | false => simp [DistinctOrders, attachedOrders, attached]
  | true => simp [DistinctOrders, attachedOrders, attached]

/-- The first server of a kind may be changed to an order that no other one has. -/
private theorem DistinctOrders.updateFirst {isIt : ConfigServer → Bool} {change : ConfigServer → ConfigServer}
    (distinct : DistinctOrders servers) (found : servers.find? isIt = some entry)
    (fresh : (change entry).attached = true →
      ∀ other ∈ servers.eraseP isIt, other.attached = true → other.order ≠ (change entry).order) :
    DistinctOrders (MtrxPeer.updateFirst isIt change servers) := by
  obtain ⟨same, changed⟩ := @updateFirst_perm _ isIt change servers entry found
  refine DistinctOrders.perm ?_ changed.symm
  refine distinctOrders_cons.mpr ⟨fun attached taken => ?_, (distinctOrders_cons.mp (distinct.perm same)).2⟩
  obtain ⟨other, member, otherAttached, equal⟩ := mem_attachedOrders.mp taken
  exact fresh attached other member otherAttached equal

private theorem nextOrder_above (fits : ∀ other ∈ servers, other.attached = true → other.order + 1 < 2 ^ 32)
    (member : server ∈ servers) (attached : server.attached = true) : server.order < nextOrder servers := by
  have listed : server.order ∈ attachedOrders servers := mem_attachedOrders.mpr ⟨server, member, attached, rfl⟩
  obtain ⟨largest, found⟩ : ∃ largest, (attachedOrders servers).max? = some largest := by
    cases none_ : (attachedOrders servers).max? with
    | none =>
      rw [List.max?_eq_none_iff] at none_
      rw [none_] at listed
      cases listed
    | some largest => exact ⟨largest, rfl⟩
  obtain ⟨held, above⟩ := List.max?_eq_some_iff.mp found
  obtain ⟨other, otherMember, otherAttached, same⟩ := mem_attachedOrders.mp held
  have small := fits other otherMember otherAttached
  rw [nextOrder, found, Option.map_some, Option.getD_some, Nat.mod_eq_of_lt (by omega)]
  have := above _ listed
  omega

/-- A server that is entered when there is none has the only order. -/
private theorem distinctOrders_single : DistinctOrders [server] := by
  rw [distinctOrders_cons]
  exact ⟨fun _ => List.not_mem_nil, List.nodup_nil⟩

private theorem upsertInferenceCellServer_distinct (distinct : DistinctOrders config) {newId url : String}
    (fresh : ∀ other ∈ config.eraseP isCellServer, other.attached = true → other.order ≠ cellOrder config) :
    DistinctOrders (upsertInferenceCellServer config newId url) := by
  unfold upsertInferenceCellServer
  cases found : config.find? isCellServer with
  | some entry =>
    have some_ : config.any isCellServer = true :=
      List.any_eq_true.mpr ⟨entry, List.mem_of_find?_eq_some found, List.find?_some found⟩
    rw [show (config.any fun s => isInferenceCellKind s.kind) = true from some_, if_pos rfl]
    refine distinct.updateFirst found fun _ other member attached => ?_
    have differs := fresh other member attached
    simpa [cellOrder, found] using differs
  | none =>
    have absent : config.any isCellServer = false := by
      simpa using List.find?_eq_none.mp found
    rw [show (config.any fun s => isInferenceCellKind s.kind) = false from absent, if_neg (by simp)]
    refine DistinctOrders.perm ?_ (List.perm_append_singleton _ _).symm
    refine distinctOrders_cons.mpr ⟨fun _ taken => ?_, distinct⟩
    obtain ⟨other, member, attached, same⟩ := mem_attachedOrders.mp taken
    have kept : config.eraseP isCellServer = config :=
      List.eraseP_of_forall_not fun a inside => List.find?_eq_none.mp found a inside
    refine fresh other (by rw [kept]; exact member) attached ?_
    rw [same, cellOrder, found]
    rfl

/-- One operation keeps the orders of the configuration distinct. -/
theorem serverStep_distinct {s : ServersState} (distinct : DistinctOrders s.config) {op : ServerOp}
    (fresh : FreshOrder s op) : DistinctOrders (serverStep s op).config := by
  cases op with
  | findOrAdd newId entry =>
    simp only [serverStep, findOrAddEntry]
    split
    · exact distinct
    · refine DistinctOrders.perm ?_ (List.perm_append_singleton _ _).symm
      refine distinctOrders_cons.mpr ⟨fun attached => ?_, distinct⟩
      cases attached
  | attach id answers =>
    simp only [serverStep, ServersState.attach]
    cases found : s.config.find? (·.id = id) with
    | none => exact distinct
    | some entry =>
      cases answers with
      | false => exact distinct
      | true =>
        simp only [Bool.not_true, Bool.false_eq_true, if_false]
        refine distinct.updateFirst found fun _ other member attached => ?_
        obtain ⟨same, -⟩ := @updateFirst_perm _ _ (fun entry => entry) _ _ found
        cases before : entry.attached with
        | true =>
          rw [if_pos rfl]
          intro equal
          refine (distinctOrders_cons.mp (distinct.perm same)).1 before ?_
          exact mem_attachedOrders.mpr ⟨other, member, attached, equal⟩
        | false =>
          rw [if_neg (by simp)]
          have fits := fresh rfl ⟨entry, found, before⟩
          exact Nat.ne_of_lt (nextOrder_above fits (List.mem_of_mem_eraseP member) attached)
  | detach id =>
    simp only [serverStep, ServersState.detach]
    split
    · cases found : s.config.find? (·.id = id) with
      | none => rwa [updateFirst_none found]
      | some entry => exact distinct.updateFirst found fun attached => nomatch attached
    · exact distinct
  | remove id =>
    have fewer : (attachedOrders (s.config.filter (·.id ≠ id))).Sublist (attachedOrders s.config) :=
      (List.filter_sublist.filter _).map _
    exact distinct.sublist fewer
  | sync builds => exact distinct
  | cliOverrides newId cellUrl llmHost =>
    simp only [serverStep, applyCliOverrides]
    split
    · rename_i url given
      refine upsertInferenceCellServer_distinct distinct (fresh ?_)
      rw [given]
      simp
    · split
      · split
        · exact distinctOrders_single
        · exact distinct
      · exact distinct
  | migrate newId llmUrl llmBackend =>
    simp only [serverStep, migrateConfig]
    split
    · exact distinct
    · split
      · exact distinctOrders_single
      · exact distinct

/-! ## Registered servers -/

private theorem Registered.mono {table : AList fun _ : String => LlmServerEntry}
    (registered : Registered config table)
    (kept : ∀ server ∈ config, server.attached = true → ∃ server' ∈ servers,
      server'.attached = true ∧ server'.id = server.id ∧ server'.order = server.order) :
    Registered servers table := by
  intro id entry found
  obtain ⟨same, server, member, attached, named, ordered⟩ := registered id entry found
  obtain ⟨server', member', attached', named', ordered'⟩ := kept server member attached
  exact ⟨same, server', member', attached', named'.trans named, ordered'.trans ordered⟩

/-- A server of the configuration is entered under its id. -/
private theorem Registered.insert {table : AList fun _ : String => LlmServerEntry}
    (registered : Registered config table) (member : server ∈ config) (attached : server.attached = true) :
    Registered config (table.insert server.id server.toLlmServerEntry) := by
  intro id entry found
  by_cases same : id = server.id
  · subst same
    rw [AList.lookup_insert] at found
    obtain rfl := Option.some.inj found
    exact ⟨rfl, server, member, attached, rfl, rfl⟩
  · rw [AList.lookup_insert_ne same] at found
    exact registered id entry found

private theorem syncServers_registered (builds : ConfigServer → Bool) (todo : List ConfigServer)
    (all : ∀ server ∈ todo, server ∈ config) {table : AList fun _ : String => LlmServerEntry}
    (registered : Registered config table) : Registered config (syncServers builds todo table) := by
  induction todo generalizing table with
  | nil => exact registered
  | cons server rest ih =>
    have later := fun other member => all other (List.mem_cons_of_mem _ member)
    cases attached : server.attached with
    | false =>
      simp only [syncServers, attached, Bool.not_false, if_true]
      exact ih later registered
    | true =>
      have entered := registered.insert (all server List.mem_cons_self) attached
      simp only [syncServers, attached, Bool.not_true, Bool.false_eq_true, if_false]
      split
      · split
        · exact ih later entered
        · exact entered
      · split
        · exact ih later entered
        · exact registered

/-- Without a server, its id is of no registered one. -/
private theorem Registered.erase {table : AList fun _ : String => LlmServerEntry}
    (registered : Registered config table)
    (kept : ∀ server ∈ config, server.id ≠ id → server ∈ servers) :
    Registered servers (table.erase id) := by
  intro key entry found
  by_cases same : key = id
  · rw [same, AList.lookup_erase] at found
    cases found
  · rw [AList.lookup_erase_ne same] at found
    obtain ⟨named, server, member, attached, of, ordered⟩ := registered key entry found
    exact ⟨named, server, kept server member fun is => same (of.symm.trans is), attached, of, ordered⟩

/-- A server that is attached is entered as it becomes in the configuration. -/
private theorem attach_registered {s : ServersState} (registered : Registered s.config s.inner.servers)
    (id : String) (answers : Bool) :
    Registered (s.attach id answers).config (s.attach id answers).inner.servers := by
  simp only [ServersState.attach]
  cases found : s.config.find? (·.id = id) with
  | none => exact registered
  | some entry =>
    cases answers with
    | false => exact registered
    | true =>
      simp only [Bool.not_true, Bool.false_eq_true, if_false]
      have named : entry.id = id := by simpa using List.find?_some found
      generalize changed : (if entry.attached = true then entry
        else { entry with attached := true, order := nextOrder s.config }) = server
      have new : server.id = id ∧ server.attached = true := by
        rw [← changed]
        split
        · exact ⟨named, ‹_›⟩
        · exact ⟨named, rfl⟩
      have member : server ∈ updateFirst (·.id = id) (fun _ => server) s.config :=
        (@updateFirst_perm _ _ (fun _ => server) _ _ found).2.mem_iff.mpr List.mem_cons_self
      intro key other there
      by_cases same : key = id
      · rw [same, AList.lookup_insert] at there
        obtain rfl := Option.some.inj there
        exact ⟨new.1.trans same.symm, server, member, new.2, new.1.trans same.symm, rfl⟩
      · rw [AList.lookup_insert_ne same] at there
        obtain ⟨otherNamed, held, heldMember, attached, of, ordered⟩ := registered key other there
        refine ⟨otherNamed, held, mem_updateFirst heldMember ?_, attached, of, ordered⟩
        simpa [of] using same

/-- The cell of the command line takes the place of the first cell, in its order. -/
private theorem upsertInferenceCellServer_keeps (newId url : String) (member : server ∈ config)
    (attached : server.attached = true) : ∃ server' ∈ upsertInferenceCellServer config newId url,
      server'.attached = true ∧ server'.id = server.id ∧ server'.order = server.order := by
  unfold upsertInferenceCellServer
  split
  · cases found : config.find? (fun s => isInferenceCellKind s.kind) with
    | none =>
      rw [updateFirst_none found]
      exact ⟨server, member, attached, rfl, rfl⟩
    | some first =>
      obtain ⟨same, changed⟩ := @updateFirst_perm _ _
        (fun s => { s with url, attached := true, source := "cli" }) _ _ found
      rcases List.mem_cons.mp (same.mem_iff.mp member) with rfl | rest
      · exact ⟨_, changed.mem_iff.mpr List.mem_cons_self, rfl, rfl, rfl⟩
      · exact ⟨server, changed.mem_iff.mpr (List.mem_cons_of_mem _ rest), attached, rfl, rfl⟩
  · exact ⟨server, List.mem_append_left _ member, attached, rfl, rfl⟩

/-- One operation registers servers of the configuration only, with their orders. -/
theorem serverStep_registered {s : ServersState} (registered : Registered s.config s.inner.servers)
    (op : ServerOp) : Registered (serverStep s op).config (serverStep s op).inner.servers := by
  cases op with
  | findOrAdd newId entry =>
    simp only [serverStep, findOrAddEntry]
    split
    · exact registered
    · exact registered.mono fun server member attached =>
        ⟨server, List.mem_append_left _ member, attached, rfl, rfl⟩
  | attach id answers => exact attach_registered registered id answers
  | detach id =>
    simp only [serverStep, ServersState.detach]
    split
    · exact registered.erase fun server member differs => mem_updateFirst member (by simpa using differs)
    · exact registered
  | remove id =>
    exact registered.erase fun server member differs => List.mem_filter.mpr ⟨member, by simpa using differs⟩
  | sync builds =>
    refine syncServers_registered builds s.config (fun _ member => member) ?_
    intro id entry found
    rw [lookup_retainKeys] at found
    split at found
    · exact registered id entry found
    · cases found
  | cliOverrides newId cellUrl llmHost =>
    simp only [serverStep, applyCliOverrides]
    split
    · exact registered.mono fun server member attached =>
        upsertInferenceCellServer_keeps _ _ member attached
    · split
      · split
        · rename_i empty
          rw [List.isEmpty_iff.mp empty] at registered
          exact registered.mono fun server member => nomatch member
        · exact registered
      · exact registered
  | migrate newId llmUrl llmBackend =>
    simp only [serverStep, migrateConfig]
    split
    · exact registered
    · rename_i empty
      have none_ : s.config = [] := by simpa using empty
      rw [none_] at registered ⊢
      split
      · exact registered.mono fun server member => nomatch member
      · exact registered

/-- Registered servers have the orders of different servers of the configuration. -/
private theorem Registered.values_distinct {inner : RegistryInner} (distinct : DistinctOrders config)
    (registered : Registered config inner.servers) : (inner.values.map (·.order)).Nodup := by
  rw [RegistryInner.values, List.map_map]
  refine List.Nodup.map_on ?_ inner.servers.nodupKeys.nodup
  rintro ⟨id, entry⟩ member ⟨id', entry'⟩ member' same
  have found : inner.servers.lookup id = some entry := AList.mem_lookup_iff.mpr member
  have found' : inner.servers.lookup id' = some entry' := AList.mem_lookup_iff.mpr member'
  obtain ⟨-, server, held, attached, named, ordered⟩ := registered id entry found
  obtain ⟨-, server', held', attached', named', ordered'⟩ := registered id' entry' found'
  have one : server = server' := by
    refine List.inj_on_of_nodup_map distinct (List.mem_filter.mpr ⟨held, attached⟩)
      (List.mem_filter.mpr ⟨held', attached'⟩) ?_
    rw [ordered, ordered']
    exact same
  subst one
  have key : id = id' := named.symm.trans named'
  subst key
  rw [found] at found'
  obtain rfl := Option.some.inj found'
  rfl

/-- In a run in which every server is given a fresh order, the attached servers have
distinct orders, and a rebuilt catalog and its routes are the same however the registry is
gone through. -/
theorem orders_decide_routes (distinct : DistinctOrders config) {past : List ServerRecord}
    {s : ServersState} (ran : serverMachine.Reaches ⟨config, .new⟩ past s)
    (fresh : ∀ r ∈ past, FreshOrder r.before r.event) :
    DistinctOrders s.config ∧ (s.inner.values.map (·.order)).Nodup ∧
      ∀ listings order order', order.Perm s.inner.values → order'.Perm s.inner.values →
        rebuildCatalog order listings = rebuildCatalog order' listings ∧
          modelRoutes (rebuildCatalog order listings).models =
            modelRoutes (rebuildCatalog order' listings).models := by
  have noneRegistered : Registered config RegistryInner.new.servers := by
    intro id entry found
    cases found
  have kept := ran.invariant
    (fun _ s => DistinctOrders s.config ∧ Registered s.config s.inner.servers)
    (fun r => FreshOrder r.before r.event) ⟨distinct, noneRegistered⟩
    (fun _ s op kept fresh => ⟨serverStep_distinct kept.1 fresh, serverStep_registered kept.2 op⟩) fresh
  have orders := kept.2.values_distinct kept.1
  refine ⟨kept.1, orders, fun listings order order' one other => ?_⟩
  have listed : rebuildCatalog order listings = rebuildCatalog order' listings := by
    rw [rebuildCatalog, rebuildCatalog, catalogListings, catalogListings,
      insertionSort_eq_of_perm (·.order) (one.trans other.symm) ((one.map _).nodup_iff.mpr orders)]
  exact ⟨listed, by rw [listed]⟩

end Orders

private def orderedServer (id kind : String) (attached : Bool) (order : Nat) : ConfigServer where
  id
  kind
  url := "http://" ++ id
  label := none
  attached
  order
  source := "manual"
  advertiseToCluster := true

/-- Two servers that are attached one after the other. -/
theorem orders_decide_routes_sample :
    DistinctOrders ((serverMachine.history
      ⟨[orderedServer "a" "ollama" false 0, orderedServer "b" "vllm" false 0], .new⟩
      [.attach "a" true, .attach "b" true]).2).config := by
  have start : DistinctOrders [orderedServer "a" "ollama" false 0, orderedServer "b" "vllm" false 0] := by
    decide
  refine (orders_decide_routes start (Machine.reaches_history serverMachine _ _) ?_).1
  intro r member
  simp only [Machine.history, List.foldl_cons, List.foldl_nil, List.mem_cons, List.not_mem_nil,
    or_false] at member
  rcases member with rfl | rfl
  · intro _ _
    decide
  · intro _ _
    decide

/-- The cell gets order 0 beside an attached server of order 0, and the route of a model that
both have goes with the order in which the registry is gone through. -/
theorem cell_order_ties :
    DistinctOrders [orderedServer "a" "ollama" true 0] ∧
    ∃ past s, serverMachine.Reaches ⟨[orderedServer "a" "ollama" true 0], .new⟩ past s ∧
      ¬ DistinctOrders s.config ∧
      ∃ listings order order', order.Perm s.inner.values ∧ order'.Perm s.inner.values ∧
        modelRoutes (rebuildCatalog order listings).models "llama3" ≠
          modelRoutes (rebuildCatalog order' listings).models "llama3" := by
  refine ⟨by decide, _, _, Machine.reaches_history serverMachine _
    [.cliOverrides "cell" (some "http://cell:8443/") none, .sync fun _ => true], by decide +kernel,
    fun _ => some ⟨[.obj [("name", .str "llama3")]], none⟩, _, _, .rfl, (List.reverse_perm _), by decide +kernel⟩

end MtrxPeer
