import Mathlib.Data.List.AList
import MtrxPeer.LlmRegistry
import MtrxPeer.Runs

/-! The servers of the configuration and those of the registry, with every operation that
attaches, detaches, adds or removes one. -/
namespace MtrxPeer

/-! ## Servers of the configuration -/

structure ConfigServer extends LlmServerEntry where
  attached : Bool
  source : String
  deriving DecidableEq

/-- `iter_mut().find(..)`, and a change of what is found. -/
def updateFirst {α : Type} (isIt : α → Bool) (change : α → α) : List α → List α
  | [] => []
  | a :: rest => if isIt a then change a :: rest else a :: updateFirst isIt change rest

/-- `is_custom_server_kind`. The labels have no letter that a character outside of ASCII is
lowercased to. -/
def isCustomServerKind (kind : String) : Bool :=
  kind.toLower = "custom" || kind.toLower = "customendpoint"

/-- `is_inference_cell_kind`. -/
def isInferenceCellKind (kind : String) : Bool :=
  kind.toLower = "inference-cell" || kind.toLower = "inference_cell"

/-- `normalize_backend_label`. -/
def normalizeBackendLabel (s : String) : String :=
  if isCustomServerKind s then "custom"
  else
    match s.toLower with
    | "vllm" => "vllm"
    | "llamacpp" | "llama.cpp" => "llamacpp"
    | "inference-cell" | "inference_cell" => "inference-cell"
    | "lmstudio" | "lm-studio" => "lmstudio"
    | "localai" => "localai"
    | "tgi" => "tgi"
    | "tensorrt" | "tensorrt-llm" => "tensorrt"
    | "openai" => "openai"
    | _ => "ollama"

/-- The orders that the attached servers have. -/
def attachedOrders (servers : List ConfigServer) : List Nat :=
  (servers.filter (·.attached)).map (·.order)

/-- One more than the largest order of an attached server, in 32 bits. -/
def nextOrder (servers : List ConfigServer) : Nat :=
  ((attachedOrders servers).max?.map fun order => (order + 1) % 2 ^ 32).getD 0

/-- `find_or_add_entry`: the servers, and the id of the entry. -/
def findOrAddEntry (servers : List ConfigServer) (newId : String) (entry : ConfigServer) :
    List ConfigServer × String :=
  let kind := normalizeBackendLabel entry.kind
  let url := trimEndSlashes entry.url
  match servers.find? fun s => s.kind = kind ∧ s.url = url with
  | some existing => (servers, existing.id)
  | none =>
    let added : ConfigServer :=
      { id := newId
        kind
        url
        label := entry.label
        attached := false
        order := nextOrder servers
        source := entry.source
        advertiseToCluster := true }
    (servers ++ [added], newId)

/-- A first server that the program itself enters. -/
def enteredServer (newId kind url source : String) : ConfigServer where
  id := newId
  kind
  url
  label := none
  attached := true
  order := 0
  source
  advertiseToCluster := true

/-- `upsert_inference_cell_server`. -/
def upsertInferenceCellServer (servers : List ConfigServer) (newId url : String) : List ConfigServer :=
  if servers.any fun s => isInferenceCellKind s.kind then
    updateFirst (fun s => isInferenceCellKind s.kind)
      (fun s => { s with url, attached := true, source := "cli" }) servers
  else servers ++ [enteredServer newId "inference-cell" url "cli"]

/-- The servers that `apply_cli_overrides` leaves: of the address in the environment, or of
the host on the command line where there are none. -/
def applyCliOverrides (servers : List ConfigServer) (newId : String) (cellUrl llmHost : Option String) :
    List ConfigServer :=
  match (cellUrl.map fun url => trimEndSlashes (trim url)).filter (· ≠ "") with
  | some url => upsertInferenceCellServer servers newId url
  | none =>
    match llmHost with
    | some host =>
      if servers.isEmpty then [enteredServer newId "ollama" ("http://" ++ host) "cli"] else servers
    | none => servers

/-- The servers that `migrate_config` leaves. -/
def migrateConfig (servers : List ConfigServer) (newId : String) (llmUrl llmBackend : Option String) :
    List ConfigServer :=
  if !servers.isEmpty then servers
  else
    match llmUrl with
    | some url =>
      [enteredServer newId ((llmBackend.map normalizeBackendLabel).getD "ollama") url "migration"]
    | none => servers

/-! ## The registry -/

/-- The entries of the servers that are registered, the routes of the models and the catalog
they are of. -/
structure RegistryInner where
  servers : AList fun _ : String => LlmServerEntry
  modelRoutes : String → Option String
  merged : Option MergedCatalog

namespace RegistryInner

def new : RegistryInner := ⟨∅, fun _ => none, none⟩

/-- The servers, in one order in which they are gone through. -/
def values (inner : RegistryInner) : List LlmServerEntry := inner.servers.entries.map (·.2)

/-- A server leaves, and the catalog with it. -/
def drop (inner : RegistryInner) (id : String) : RegistryInner where
  servers := inner.servers.erase id
  modelRoutes := fun _ => none
  merged := none

end RegistryInner

/-- `HashMap::retain` by key. -/
def retainKeys {α : Type} (keep : String → Bool) (table : AList fun _ : String => α) :
    AList fun _ : String => α where
  entries := table.entries.filter fun entry => keep entry.1
  nodupKeys := table.nodupKeys.sublist List.filter_sublist

/-- The attached servers are entered in turn. An entry that is there is replaced before its
backend is built, and the first backend that cannot be built ends it. -/
def syncServers (builds : ConfigServer → Bool) :
    List ConfigServer → (AList fun _ : String => LlmServerEntry) → AList fun _ : String => LlmServerEntry
  | [], servers => servers
  | entry :: rest, servers =>
    if !entry.attached then syncServers builds rest servers
    else if entry.id ∈ servers then
      let servers := servers.insert entry.id entry.toLlmServerEntry
      if builds entry then syncServers builds rest servers else servers
    else if builds entry then syncServers builds rest (servers.insert entry.id entry.toLlmServerEntry)
    else servers

/-- `sync_from_config`. -/
def RegistryInner.syncFromConfig (inner : RegistryInner) (config : List ConfigServer)
    (builds : ConfigServer → Bool) : RegistryInner :=
  let attachedIds := (config.filter (·.attached)).map (·.id)
  { inner with servers := syncServers builds config (retainKeys (· ∈ attachedIds) inner.servers) }

/-- The configuration and the registry. -/
structure ServersState where
  config : List ConfigServer
  inner : RegistryInner

namespace ServersState

/-- `attach`, of a server whose backend answers or does not. -/
def attach (s : ServersState) (id : String) (answers : Bool) : ServersState :=
  match s.config.find? (·.id = id) with
  | none => s
  | some entry =>
    if !answers then s
    else
      let attachedEntry :=
        if entry.attached then entry else { entry with attached := true, order := nextOrder s.config }
      { config := updateFirst (·.id = id) (fun _ => attachedEntry) s.config
        inner := { s.inner with servers := s.inner.servers.insert id attachedEntry.toLlmServerEntry } }

/-- `detach`. -/
def detach (s : ServersState) (id : String) : ServersState :=
  if s.config.any (·.id = id) then
    { config := updateFirst (·.id = id) (fun entry => { entry with attached := false }) s.config
      inner := s.inner.drop id }
  else s

/-- `remove_server`. -/
def removeServer (s : ServersState) (id : String) : ServersState where
  config := s.config.filter (·.id ≠ id)
  inner := s.inner.drop id

end ServersState

inductive ServerOp where
  | findOrAdd (newId : String) (entry : ConfigServer)
  | attach (id : String) (answers : Bool)
  | detach (id : String)
  | remove (id : String)
  | sync (builds : ConfigServer → Bool)
  | cliOverrides (newId : String) (cellUrl llmHost : Option String)
  | migrate (newId : String) (llmUrl llmBackend : Option String)

def serverStep (s : ServersState) : ServerOp → ServersState
  | .findOrAdd newId entry => { s with config := (findOrAddEntry s.config newId entry).1 }
  | .attach id answers => s.attach id answers
  | .detach id => s.detach id
  | .remove id => s.removeServer id
  | .sync builds => { s with inner := s.inner.syncFromConfig s.config builds }
  | .cliOverrides newId cellUrl llmHost =>
    { s with config := applyCliOverrides s.config newId cellUrl llmHost }
  | .migrate newId llmUrl llmBackend =>
    { s with config := migrateConfig s.config newId llmUrl llmBackend }

def serverMachine : Machine ServersState ServerOp Unit where
  step s op := (serverStep s op, [])

/-! ## The first server of a kind -/

section First

variable {α : Type} {isIt : α → Bool} {change : α → α} {items : List α} {a : α}

/-- The first one is changed, and the others stay. -/
theorem updateFirst_perm (found : items.find? isIt = some a) :
    items.Perm (a :: items.eraseP isIt) ∧
      (updateFirst isIt change items).Perm (change a :: items.eraseP isIt) := by
  induction items with
  | nil => cases found
  | cons b rest ih =>
    rw [List.find?_cons] at found
    cases first : isIt b with
    | true =>
      rw [first] at found
      obtain rfl := Option.some.inj found
      rw [updateFirst, if_pos first, List.eraseP_cons_of_pos first]
      exact ⟨.rfl, .rfl⟩
    | false =>
      rw [first] at found
      obtain ⟨same, changed⟩ := ih found
      have later : ¬ isIt b = true := by simp [first]
      rw [updateFirst, if_neg later, List.eraseP_cons_of_neg later]
      exact ⟨(same.cons b).trans (.swap _ _ _), (changed.cons b).trans (.swap _ _ _)⟩

theorem updateFirst_none (none_ : items.find? isIt = none) : updateFirst isIt change items = items := by
  induction items with
  | nil => rfl
  | cons b rest ih =>
    rw [List.find?_eq_none] at none_
    rw [updateFirst, if_neg (none_ b List.mem_cons_self),
      ih (List.find?_eq_none.mpr fun c member => none_ c (List.mem_cons_of_mem _ member))]

/-- What is not the first one stays in the list. -/
theorem mem_updateFirst {b : α} (member : b ∈ items) (other : isIt b = false) :
    b ∈ updateFirst isIt change items := by
  cases found : items.find? isIt with
  | none =>
    rw [updateFirst_none found]
    exact member
  | some a =>
    obtain ⟨same, changed⟩ := @updateFirst_perm α isIt change items a found
    refine changed.mem_iff.mpr (List.mem_cons_of_mem _ ?_)
    rcases List.mem_cons.mp (same.mem_iff.mp member) with rfl | rest
    · rw [List.find?_some found] at other
      cases other
    · exact rest

end First

theorem lookup_retainKeys {α : Type} (keep : String → Bool) (table : AList fun _ : String => α)
    (key : String) :
    (retainKeys keep table).lookup key = if keep key then table.lookup key else none := by
  refine Option.ext fun value => ?_
  have kept : value ∈ (retainKeys keep table).lookup key ↔
      (⟨key, value⟩ : Sigma fun _ : String => α) ∈ (retainKeys keep table).entries :=
    AList.mem_lookup_iff
  have held : value ∈ table.lookup key ↔ (⟨key, value⟩ : Sigma fun _ : String => α) ∈ table.entries :=
    AList.mem_lookup_iff
  rw [Option.mem_def] at kept held
  rw [kept]
  refine List.mem_filter.trans ?_
  by_cases keeps : keep key = true
  · rw [if_pos keeps, held]
    exact and_iff_left keeps
  · rw [if_neg keeps]
    simp [keeps]

end MtrxPeer
