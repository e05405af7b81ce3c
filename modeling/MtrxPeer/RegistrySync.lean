import MtrxPeer.ChatEndpoints
import MtrxPeer.ServerRegistry

/-! The registry made to follow the configuration, with the backends of its servers. The table
is changed server by server, so the first backend that cannot be built leaves it half changed. -/
namespace MtrxPeer

open Function (update update_self update_of_ne)

/-! ## Entries -/

/-- A model of a custom endpoint, with all it is configured with. -/
structure CustomModel extends CustomModelEntry where
  name : Option String
  toolCalling : Option Bool
  vision : Option Bool
  maxInputTokens : Option Nat
  maxOutputTokens : Option Nat
  deriving DecidableEq

/-- An entry of the configuration, with all its fields. -/
structure ServerEntry extends ConfigServer where
  apiType : Option String
  models : List CustomModel
  deriving DecidableEq

/-- `validate_custom_server_entry`. -/
def validateCustomServerEntry (entry : ServerEntry) : Except String Unit :=
  if !isCustomServerKind entry.kind then .ok ()
  else if entry.models.isEmpty then .error "custom endpoint requires at least one model"
  else if entry.models.any fun model => trim model.id = "" then
    .error "each custom model must have a non-empty id"
  else
    match entry.apiType with
    | some apiType =>
      if apiType ≠ "" ∧ apiType ≠ "chat-completions" then
        .error ("unsupported apiType '" ++ apiType ++ "': only chat-completions is supported")
      else .ok ()
    | none => .ok ()

variable {β : Type}

/-- What the rest of `build_backend` answers in each call of the loop: the stored key, the probe
of an inference cell and the backend's own construction. -/
abbrev Connecting (β : Type) := (call : Nat) → ServerEntry → Except String (β × Option String)

/-- `build_backend`. -/
def buildBackend (connect : Connecting β) (call : Nat) (entry : ServerEntry) :
    Except String (β × Option String) :=
  match validateCustomServerEntry entry with
  | .error e => .error e
  | .ok () => connect call entry

/-! ## The table -/

/-- `ServerRuntime`, with its backend and all else it holds. -/
structure RegisteredServer (β : Type) where
  entry : ServerEntry
  backend : β
  showCache : List (String × Json)
  inferenceEngine : Option String
  connected : Bool

/-- `RegistryInner`, with the backends. -/
structure ServerTable (β : Type) where
  servers : AList fun _ : String => RegisteredServer β
  modelRoutes : String → Option String
  merged : Option MergedCatalog

/-- The loop over the entries of the configuration. -/
def syncRuntimes (connect : Connecting β) :
    (call : Nat) → List ServerEntry → (AList fun _ : String => RegisteredServer β) →
    (AList fun _ : String => RegisteredServer β) × Except String Unit
  | _, [], servers => (servers, .ok ())
  | call, entry :: rest, servers =>
    if !entry.attached then syncRuntimes connect (call + 1) rest servers
    else
      match servers.lookup entry.id with
      | some runtime =>
        let servers := servers.insert entry.id { runtime with entry }
        match buildBackend connect call entry with
        | .error e => (servers, .error e)
        | .ok (backend, inferenceEngine) =>
          syncRuntimes connect (call + 1) rest
            (servers.insert entry.id { runtime with entry, backend, inferenceEngine })
      | none =>
        match buildBackend connect call entry with
        | .error e => (servers, .error e)
        | .ok (backend, inferenceEngine) =>
          let runtime : RegisteredServer β :=
            { entry, backend, showCache := [], inferenceEngine, connected := true }
          syncRuntimes connect (call + 1) rest (servers.insert entry.id runtime)

/-- The ids of the servers that a configuration attaches. -/
def attachedIds (config : List ServerEntry) : List String := (config.filter (·.attached)).map (·.id)

/-- `sync_from_config`: the table it leaves, and its result. -/
def ServerTable.syncFromConfig (table : ServerTable β) (connect : Connecting β)
    (config : List ServerEntry) : ServerTable β × Except String Unit :=
  let (servers, result) := syncRuntimes connect 0 config (retainKeys (· ∈ attachedIds config) table.servers)
  ({ table with servers }, result)

/-! ## What is asked of it -/

/-- The entry and the backend of a server. -/
def ServerTable.held (table : ServerTable β) (id : String) : Option (ServerEntry × β) :=
  (table.servers.lookup id).map fun runtime => (runtime.entry, runtime.backend)

/-- An error leaves the servers, their entries and backends, and the routes. -/
def SyncAtomic (connect : Connecting β) (config : List ServerEntry) (table : ServerTable β) : Prop :=
  ∀ e, (table.syncFromConfig connect config).2 = .error e →
    (∀ id, (table.syncFromConfig connect config).1.held id = table.held id) ∧
      (table.syncFromConfig connect config).1.modelRoutes = table.modelRoutes

/-- The attached entries whose backends are built, with these, and the entry whose backend is
the first that is not. -/
def attempts (connect : Connecting β) :
    (call : Nat) → List ServerEntry → List (ServerEntry × β) × Option ServerEntry
  | _, [] => ([], none)
  | call, entry :: rest =>
    if !entry.attached then attempts connect (call + 1) rest
    else
      match buildBackend connect call entry with
      | .error _ => ([], some entry)
      | .ok (backend, _) =>
        let (built, failed) := attempts connect (call + 1) rest
        ((entry, backend) :: built, failed)

/-- The last of the built backends for a server. -/
def lastBuilt (id : String) (built : List (ServerEntry × β)) : Option (ServerEntry × β) :=
  built.reverse.find? fun done => done.1.id = id

/-- The last entry for a server, the failing one included. -/
def lastEntry (id : String) (built : List (ServerEntry × β)) (failed : ServerEntry) : Option ServerEntry :=
  if failed.id = id then some failed else (lastBuilt id built).map Prod.fst

/-- Up to the failing entry the sync only repeats what is in the table. -/
structure Repeats (config : List ServerEntry) (table : ServerTable β) (built : List (ServerEntry × β))
    (failed : ServerEntry) : Prop where
  attached : ∀ id ∈ table.servers, id ∈ attachedIds config
  known : ∀ done ∈ built, done.1.id ∈ table.servers
  entries : ∀ id entry backend, table.held id = some (entry, backend) →
    ∀ last ∈ lastEntry id built failed, last = entry
  backends : ∀ id entry backend, table.held id = some (entry, backend) →
    ∀ last ∈ lastBuilt id built, last.2 = backend

/-! ## The loop -/

/-- The servers held once these backends are entered. -/
private def enterAll (held : String → Option (ServerEntry × β)) (built : List (ServerEntry × β)) :
    String → Option (ServerEntry × β) :=
  built.foldl (fun held done => update held done.1.id (some done)) held

/-- The failing entry is entered where there is a server. -/
private def enterFailed (held : String → Option (ServerEntry × β)) (failed : ServerEntry) :
    String → Option (ServerEntry × β) :=
  match held failed.id with
  | some (_, backend) => update held failed.id (some (failed, backend))
  | none => held

/-- What is held of a table of servers. -/
private def heldIn (servers : AList fun _ : String => RegisteredServer β) (id : String) :
    Option (ServerEntry × β) :=
  (servers.lookup id).map fun runtime => (runtime.entry, runtime.backend)

private theorem heldIn_insert (servers : AList fun _ : String => RegisteredServer β) (id : String)
    (runtime : RegisteredServer β) :
    heldIn (servers.insert id runtime) =
      update (heldIn servers) id (some (runtime.entry, runtime.backend)) := by
  funext other
  by_cases same : other = id
  · subst same
    rw [update_self, heldIn, AList.lookup_insert, Option.map_some]
  · rw [update_of_ne same, heldIn, AList.lookup_insert_ne same, heldIn]

private theorem syncRuntimes_held (connect : Connecting β) (call : Nat) (config : List ServerEntry)
    (servers : AList fun _ : String => RegisteredServer β) :
    heldIn (syncRuntimes connect call config servers).1 =
        (match (attempts connect call config).2 with
        | some failed => enterFailed (enterAll (heldIn servers) (attempts connect call config).1) failed
        | none => enterAll (heldIn servers) (attempts connect call config).1) ∧
      ((∃ e, (syncRuntimes connect call config servers).2 = .error e) ↔
        (attempts connect call config).2.isSome) := by
  induction config generalizing call servers with
  | nil => simp [syncRuntimes, attempts, enterAll]
  | cons entry rest ih =>
    rw [syncRuntimes, attempts]
    by_cases away : (!entry.attached) = true
    · rw [if_pos away, if_pos away]
      exact ih (call + 1) servers
    · rw [if_neg away, if_neg away]
      cases found : servers.lookup entry.id with
      | some runtime =>
        have held : heldIn servers entry.id = some (runtime.entry, runtime.backend) := by
          rw [heldIn, found, Option.map_some]
        cases built : buildBackend connect call entry with
        | error e => simp [enterAll, enterFailed, held, heldIn_insert]
        | ok pair =>
          obtain ⟨backend, engine⟩ := pair
          dsimp only
          obtain ⟨after, result⟩ := ih (call + 1)
            ((servers.insert entry.id { runtime with entry }).insert entry.id
              { runtime with entry, backend, inferenceEngine := engine })
          rw [heldIn_insert, heldIn_insert, Function.update_idem] at after
          exact ⟨after, result⟩
      | none =>
        have held : heldIn servers entry.id = none := by
          rw [heldIn, found, Option.map_none]
        cases built : buildBackend connect call entry with
        | error e => simp [enterAll, enterFailed, held]
        | ok pair =>
          obtain ⟨backend, engine⟩ := pair
          dsimp only
          obtain ⟨after, result⟩ := ih (call + 1) (servers.insert entry.id
            { entry, backend, showCache := [], inferenceEngine := engine, connected := true })
          rw [heldIn_insert] at after
          exact ⟨after, result⟩

private theorem enterAll_apply (held : String → Option (ServerEntry × β)) (built : List (ServerEntry × β))
    (id : String) : enterAll held built id = (lastBuilt id built).or (held id) := by
  induction built using List.reverseRecOn with
  | nil => rfl
  | append_singleton built done ih =>
    rw [enterAll, List.foldl_append, List.foldl_cons, List.foldl_nil, ← enterAll, lastBuilt,
      List.reverse_append, List.reverse_singleton, List.singleton_append, List.find?_cons]
    by_cases same : done.1.id = id
    · simp [same]
    · rw [update_of_ne (Ne.symm same), ih, lastBuilt]
      simp [same]

private theorem enterFailed_apply (held : String → Option (ServerEntry × β)) (failed : ServerEntry)
    (id : String) :
    enterFailed held failed id =
      (held id).map fun done => (if failed.id = id then failed else done.1, done.2) := by
  rw [enterFailed.eq_def]
  cases found : held failed.id with
  | some done =>
    by_cases here : failed.id = id
    · subst here
      simp [found]
    · simp [update_of_ne (Ne.symm here), here]
  | none =>
    by_cases here : failed.id = id
    · subst here
      simp [found]
    · simp [here]

private theorem attempts_attached (connect : Connecting β) (call : Nat) (config : List ServerEntry) :
    ∀ done ∈ (attempts connect call config).1, done.1.id ∈ attachedIds config := by
  induction config generalizing call with
  | nil => simp [attempts]
  | cons entry rest ih =>
    intro done member
    rw [attempts] at member
    by_cases attached : entry.attached = true
    · have first : attachedIds (entry :: rest) = entry.id :: attachedIds rest := by
        simp [attachedIds, attached]
      rw [first]
      rw [if_neg (by simp [attached])] at member
      cases built : buildBackend connect call entry with
      | error e => simp [built] at member
      | ok pair =>
        simp only [built] at member
        rcases List.mem_cons.mp member with rfl | later
        · exact List.mem_cons_self
        · exact List.mem_cons_of_mem _ (ih (call + 1) done later)
    · rw [if_pos (by simpa using attached)] at member
      have same : attachedIds (entry :: rest) = attachedIds rest := by
        simp [attachedIds, attached]
      rw [same]
      exact ih (call + 1) done member

private theorem lastBuilt_mem {id : String} {built : List (ServerEntry × β)} {done : ServerEntry × β}
    (last : lastBuilt id built = some done) : done ∈ built ∧ done.1.id = id := by
  constructor
  · exact List.mem_reverse.mp (List.mem_of_find?_eq_some last)
  · simpa using List.find?_some last

private theorem lastBuilt_isSome {built : List (ServerEntry × β)} {done : ServerEntry × β}
    (member : done ∈ built) : (lastBuilt done.1.id built).isSome := by
  rw [lastBuilt, List.find?_isSome]
  exact ⟨done, List.mem_reverse.mpr member, by simp⟩

/-! ## Atomic syncs -/

section

variable {connect : Connecting β} {config : List ServerEntry} {table : ServerTable β}

private theorem held_mem {id : String} : id ∈ table.servers ↔ (table.held id).isSome := by
  rw [ServerTable.held, Option.isSome_map, AList.lookup_isSome]

/-- A server is held after a failed sync: of those that stay, the last one built, under the last
entry. -/
private theorem failed_held {failed : ServerEntry} (stopped : (attempts connect 0 config).2 = some failed)
    (id : String) :
    (table.syncFromConfig connect config).1.held id =
      ((lastBuilt id (attempts connect 0 config).1).or
          (if id ∈ attachedIds config then table.held id else none)).map
        fun done => (if failed.id = id then failed else done.1, done.2) := by
  obtain ⟨after, -⟩ := syncRuntimes_held connect 0 config
    (retainKeys (· ∈ attachedIds config) table.servers)
  simp only [stopped] at after
  have kept : heldIn (retainKeys (· ∈ attachedIds config) table.servers) id =
      if id ∈ attachedIds config then table.held id else none := by
    rw [heldIn, lookup_retainKeys, ServerTable.held]
    by_cases attached : id ∈ attachedIds config <;> simp [attached]
  have same : (table.syncFromConfig connect config).1.held id = heldIn
      (syncRuntimes connect 0 config (retainKeys (· ∈ attachedIds config) table.servers)).1 id := rfl
  rw [same, after, enterFailed_apply, ← kept, ← enterAll_apply]

private theorem held_of_repeats {failed : ServerEntry}
    (stopped : (attempts connect 0 config).2 = some failed)
    (repeats : Repeats config table (attempts connect 0 config).1 failed) (id : String) :
    (table.syncFromConfig connect config).1.held id = table.held id := by
  rw [failed_held stopped]
  cases held : table.held id with
  | none =>
    have unknown : lastBuilt id (attempts connect 0 config).1 = none := by
      cases last : lastBuilt id (attempts connect 0 config).1 with
      | none => rfl
      | some done =>
        obtain ⟨member, rfl⟩ := lastBuilt_mem last
        have known := held_mem.mp (repeats.known done member)
        rw [held] at known
        cases known
    simp [unknown]
  | some pair =>
    obtain ⟨entry, backend⟩ := pair
    have attached := repeats.attached id (held_mem.mpr (by rw [held]; rfl))
    have entries := repeats.entries id entry backend held
    have backends := repeats.backends id entry backend held
    rw [if_pos attached]
    unfold lastEntry at entries
    cases last : lastBuilt id (attempts connect 0 config).1 with
    | none =>
      by_cases here : failed.id = id
      · rw [if_pos here] at entries
        obtain rfl := entries failed rfl
        simp [here]
      · simp [here]
    | some done =>
      obtain rfl := backends done last
      by_cases here : failed.id = id
      · rw [if_pos here] at entries
        obtain rfl := entries failed rfl
        simp [here]
      · rw [if_neg here, last] at entries
        obtain rfl := entries done.1 rfl
        simp [here]

private theorem repeats_of_held {failed : ServerEntry}
    (stopped : (attempts connect 0 config).2 = some failed)
    (same : ∀ id, (table.syncFromConfig connect config).1.held id = table.held id) :
    Repeats config table (attempts connect 0 config).1 failed := by
  have after : ∀ id, _ = table.held id := fun id => (failed_held stopped id).symm.trans (same id)
  constructor
  · intro id member
    obtain ⟨pair, held⟩ := Option.isSome_iff_exists.mp (held_mem.mp member)
    have now := after id
    by_contra away
    rw [if_neg away, Option.or_none, held] at now
    obtain ⟨done, last, -⟩ := Option.map_eq_some_iff.mp now
    obtain ⟨built, rfl⟩ := lastBuilt_mem last
    exact away (attempts_attached connect 0 config done built)
  · intro done member
    obtain ⟨last, found⟩ := Option.isSome_iff_exists.mp (lastBuilt_isSome member)
    have now := after done.1.id
    rw [found, Option.some_or, Option.map_some] at now
    exact held_mem.mpr (by rw [← now]; rfl)
  · intro id entry backend held last given
    have now := after id
    rw [held] at now
    obtain ⟨done, found, whole⟩ := Option.map_eq_some_iff.mp now
    obtain ⟨rfl, rfl⟩ := Prod.mk.inj whole
    unfold lastEntry at given
    by_cases here : failed.id = id
    · rw [if_pos here] at given ⊢
      exact (Option.some.inj given).symm
    · rw [if_neg here] at given ⊢
      obtain ⟨built, last, rfl⟩ := Option.map_eq_some_iff.mp given
      rw [last, Option.some_or] at found
      rw [Option.some.inj found]
  · intro id entry backend held last given
    have now := after id
    rw [held, given, Option.some_or, Option.map_some] at now
    exact (Prod.mk.inj (Option.some.inj now)).2

private def movedServer (url : String) : ServerEntry where
  id := "a"
  kind := "ollama"
  url
  label := none
  order := 0
  advertiseToCluster := true
  attached := true
  source := "manual"
  apiType := none
  models := []

private def movedTable : ServerTable Nat where
  servers := AList.singleton "a" ⟨movedServer "http://a", 1, [], none, true⟩
  modelRoutes := fun _ => some "a"
  merged := none

private def refused : Connecting Nat := fun _ _ => .error "connection refused"

end

/-! ## The registry without backends -/

/-- The entries of the table are those of the registry that knows no backends. -/
theorem syncRuntimes_entries {connect : Connecting β} {builds : ConfigServer → Bool}
    (agree : ∀ call entry,
      builds entry.toConfigServer = true ↔ ∃ made, buildBackend connect call entry = .ok made)
    (call : Nat) (config : List ServerEntry) {servers : AList fun _ : String => RegisteredServer β}
    {entries : AList fun _ : String => LlmServerEntry}
    (same : ∀ id, (servers.lookup id).map (·.entry.toLlmServerEntry) = entries.lookup id) (id : String) :
    ((syncRuntimes connect call config servers).1.lookup id).map (·.entry.toLlmServerEntry) =
      (syncServers builds (config.map (·.toConfigServer)) entries).lookup id := by
  have entered : ∀ {servers : AList fun _ : String => RegisteredServer β}
      {entries : AList fun _ : String => LlmServerEntry} (runtime : RegisteredServer β),
      (∀ id, id ≠ runtime.entry.id →
        (servers.lookup id).map (·.entry.toLlmServerEntry) = entries.lookup id) →
      ∀ id, ((servers.insert runtime.entry.id runtime).lookup id).map (·.entry.toLlmServerEntry) =
        (entries.insert runtime.entry.id runtime.entry.toLlmServerEntry).lookup id := by
    intro servers entries runtime same id
    by_cases here : id = runtime.entry.id
    · subst here
      rw [AList.lookup_insert, AList.lookup_insert, Option.map_some]
    · rw [AList.lookup_insert_ne here, AList.lookup_insert_ne here, same id here]
  induction config generalizing call servers entries with
  | nil => exact same id
  | cons entry rest ih =>
    rw [List.map_cons, syncRuntimes, syncServers]
    by_cases away : (!entry.attached) = true
    · rw [if_pos away, if_pos away]
      exact ih (call + 1) same
    · rw [if_neg away, if_neg away]
      have there := same entry.id
      have builds_ := agree call entry
      cases found : servers.lookup entry.id with
      | some runtime =>
        rw [found, Option.map_some] at there
        have member : entry.id ∈ entries := AList.lookup_isSome.mp (by rw [← there]; rfl)
        rw [if_pos member]
        cases built : buildBackend connect call entry with
        | error e =>
          rw [built] at builds_
          rw [if_neg (by simp [builds_])]
          exact entered { runtime with entry } (fun other _ => same other) id
        | ok pair =>
          obtain ⟨backend, inferenceEngine⟩ := pair
          rw [if_pos (builds_.mpr ⟨_, built⟩)]
          refine ih (call + 1) fun other => ?_
          refine entered { runtime with entry, backend, inferenceEngine } (fun other away => ?_) other
          rw [AList.lookup_insert_ne away, same]
      | none =>
        rw [found, Option.map_none] at there
        have unknown : entry.id ∉ entries := AList.lookup_eq_none.mp there.symm
        rw [if_neg unknown]
        cases built : buildBackend connect call entry with
        | error e =>
          rw [built] at builds_
          rw [if_neg (by simp [builds_])]
          exact same id
        | ok pair =>
          rw [if_pos (builds_.mpr ⟨_, built⟩)]
          obtain ⟨backend, inferenceEngine⟩ := pair
          refine ih (call + 1) fun other => ?_
          exact entered { entry, backend, showCache := [], inferenceEngine, connected := true }
            (fun other _ => same other) other

end MtrxPeer
