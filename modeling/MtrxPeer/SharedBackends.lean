import MtrxPeer.LlmRegistry

/-! Which server a remote request reaches. The route table and the fallback know
nothing of the sharing settings, so a request stays on shared servers only where
the receiving server happens to be one. -/
namespace MtrxPeer

variable {registry : Registry} {config : SharingConfig} {hosts : String → String → Prop}

/-! ## The receiving server -/

/-- The attached server a model's route leads to. -/
def routedServer (registry : Registry) (model : String) : Option ServerRuntime :=
  (registry.modelRoutes model).bind fun serverId =>
    registry.servers.find? fun s => s.id = serverId

/-- The server whose backend `forward_chat_stream` takes. -/
def receivingServer (registry : Registry) (model : String) : Option ServerRuntime :=
  (routedServer registry model).or
    (registry.servers.insertionSort fun a b => a.order ≤ b.order).head?

theorem selectedBackend_eq (registry : Registry) (model : String) :
    selectedBackend registry model = (receivingServer registry model).map ServerRuntime.backend := by
  have routed : resolveBackend registry model =
      (routedServer registry model).map ServerRuntime.backend := by
    cases route : registry.modelRoutes model with
    | none => simp [resolveBackend, routedServer, route]
    | some id => simp [resolveBackend, routedServer, route]
  rw [selectedBackend, receivingServer, routed, firstAttachedBackend]
  cases routedServer registry model <;> rfl

/-- The first server, in the iteration order of the map, of the lowest order. -/
def LowestOrder (servers : List ServerRuntime) (s : ServerRuntime) : Prop :=
  ∃ front back, servers = front ++ s :: back ∧
    (∀ t ∈ front, s.order < t.order) ∧ ∀ t ∈ back, s.order ≤ t.order

private theorem lowestOrder_cons {first s : ServerRuntime} {rest : List ServerRuntime} :
    LowestOrder (first :: rest) s ↔
      first = s ∧ (∀ t ∈ rest, s.order ≤ t.order) ∨ LowestOrder rest s ∧ s.order < first.order := by
  constructor
  · rintro ⟨front, back, split, lower, least⟩
    cases front with
    | nil =>
      obtain ⟨rfl, rfl⟩ := List.cons.inj split
      exact .inl ⟨rfl, least⟩
    | cons head front =>
      obtain ⟨rfl, rfl⟩ := List.cons.inj split
      refine .inr ⟨⟨front, back, rfl, ?_, least⟩, lower _ List.mem_cons_self⟩
      exact fun t member => lower t (List.mem_cons_of_mem _ member)
  · rintro (⟨rfl, least⟩ | ⟨⟨front, back, rfl, lower, least⟩, before⟩)
    · exact ⟨[], rest, rfl, by simp, least⟩
    · refine ⟨first :: front, back, rfl, ?_, least⟩
      intro t member
      rcases List.mem_cons.mp member with rfl | member
      · exact before
      · exact lower t member

private theorem LowestOrder.le {servers : List ServerRuntime} {s t : ServerRuntime}
    (lowest : LowestOrder servers s) (member : t ∈ servers) : s.order ≤ t.order := by
  obtain ⟨front, back, rfl, lower, least⟩ := lowest
  rcases List.mem_append.mp member with early | late
  · exact Nat.le_of_lt (lower t early)
  · rcases List.mem_cons.mp late with rfl | late
    · exact Nat.le_refl _
    · exact least t late

/-- The head of the sorted servers is the first one of the lowest order. -/
theorem sorted_head_iff {servers : List ServerRuntime} {s : ServerRuntime} :
    (servers.insertionSort fun a b => a.order ≤ b.order).head? = some s ↔ LowestOrder servers s := by
  induction servers generalizing s with
  | nil => simp [LowestOrder]
  | cons first rest ih =>
    rw [List.insertionSort_cons, lowestOrder_cons]
    cases sorted : rest.insertionSort fun a b => a.order ≤ b.order with
    | nil =>
      have empty : rest = [] := by
        have length := congrArg List.length sorted
        rw [List.length_insertionSort] at length
        exact List.eq_nil_of_length_eq_zero length
      subst empty
      simp [LowestOrder]
    | cons second others =>
      have lowest : LowestOrder rest second := ih.mp (by rw [sorted]; rfl)
      have unique : ∀ s, LowestOrder rest s ↔ second = s := by
        intro s
        rw [← ih, sorted]
        simp
      by_cases before : first.order ≤ second.order
      · rw [List.orderedInsert_cons, if_pos before, List.head?_cons, unique, Option.some.injEq]
        constructor
        · rintro rfl
          exact .inl ⟨rfl, fun t member => Nat.le_trans before (lowest.le member)⟩
        · rintro (⟨same, -⟩ | ⟨rfl, after⟩)
          · exact same
          · exact absurd before (Nat.not_le.mpr after)
      · rw [List.orderedInsert_cons, if_neg before, List.head?_cons, unique, Option.some.injEq]
        constructor
        · rintro rfl
          exact .inr ⟨rfl, Nat.not_le.mp before⟩
        · rintro (⟨rfl, least⟩ | ⟨same, -⟩)
          · have member : second ∈ rest.insertionSort fun a b => a.order ≤ b.order := by
              rw [sorted]
              exact List.mem_cons_self
            exact absurd (least second ((List.mem_insertionSort _).mp member)) before
          · exact same

/-- A request for a model reaches a server: the one its route leads to, or,
where it leads to no attached server, the first of the lowest order. -/
def RequestReaches (registry : Registry) (model : String) (s : ServerRuntime) : Prop :=
  routedServer registry model = some s ∨
    routedServer registry model = none ∧ LowestOrder registry.servers s

theorem receivingServer_eq_some {model : String} {s : ServerRuntime} :
    receivingServer registry model = some s ↔ RequestReaches registry model s := by
  rw [receivingServer, RequestReaches, ← sorted_head_iff]
  cases routedServer registry model with
  | none => simp
  | some routed => simp

theorem receivingServer_eq_none {model : String} :
    receivingServer registry model = none ↔ registry.servers = [] := by
  constructor
  · intro missing
    have unsorted := (Option.or_eq_none_iff.mp missing).2
    have length := congrArg List.length (List.head?_eq_none_iff.mp unsorted)
    rw [List.length_insertionSort] at length
    exact List.eq_nil_of_length_eq_zero length
  · intro empty
    cases route : registry.modelRoutes model <;> simp [receivingServer, routedServer, empty, route]

private theorem RequestReaches.member {model : String} {s : ServerRuntime}
    (reaches : RequestReaches registry model s) : s ∈ registry.servers := by
  rcases reaches with routed | ⟨-, front, back, split, -⟩
  · cases route : registry.modelRoutes model with
    | none => simp [routedServer, route] at routed
    | some id =>
      simp only [routedServer, route, Option.bind_some] at routed
      exact List.mem_of_find?_eq_some routed
  · rw [split]
    simp

/-! ## A rebuilt registry -/

private theorem find_id_iff {servers : List ServerRuntime} {id : String} {s : ServerRuntime}
    (ids : (servers.map ServerRuntime.id).Nodup) :
    servers.find? (fun t => t.id = id) = some s ↔ s ∈ servers ∧ s.id = id := by
  induction servers with
  | nil => simp
  | cons first rest ih =>
    obtain ⟨fresh, ids⟩ := List.nodup_cons.mp ids
    by_cases same : first.id = id
    · rw [List.find?_cons_of_pos (by simpa using same), Option.some.injEq, List.mem_cons]
      constructor
      · rintro rfl
        exact ⟨.inl rfl, same⟩
      · rintro ⟨rfl | member, named⟩
        · rfl
        · exact absurd (List.mem_map.mpr ⟨s, member, named.trans same.symm⟩) fresh
    · rw [List.find?_cons_of_neg (by simpa using same), ih ids, List.mem_cons]
      constructor
      · exact fun ⟨member, named⟩ => ⟨.inr member, named⟩
      · rintro ⟨rfl | member, named⟩
        · exact absurd named same
        · exact ⟨member, named⟩

/-- The registry after `rebuild_catalog`: routes by the merged lists. -/
def rebuiltRegistry (attached : List (LlmServerEntry × LlmBackend))
    (listings : String → Option ModelCatalogSnapshot) : Registry where
  servers := attached.map fun server => ⟨server.1.id, server.1.order, server.2⟩
  modelRoutes := modelRoutes (rebuildCatalog (attached.map Prod.fst) listings).models

/-- After a rebuild a listed model reaches the server that lists it first, shared
or not, and a model that no server lists reaches the one of the lowest order. -/
theorem rebuilt_reaches {attached : List (LlmServerEntry × LlmBackend)}
    {listings : String → Option ModelCatalogSnapshot} (model : String)
    (ids : (attached.map fun server => server.1.id).Nodup) {s : ServerRuntime} :
    RequestReaches (rebuiltRegistry attached listings) model s ↔
      match (catalogListings (attached.map Prod.fst) listings).find?
        fun listing => listsModel listing.2 model with
      | some listing => s ∈ (rebuiltRegistry attached listings).servers ∧ s.id = listing.1.id
      | none => LowestOrder (rebuiltRegistry attached listings).servers s := by
  have route : (rebuiltRegistry attached listings).modelRoutes model =
      ((catalogListings (attached.map Prod.fst) listings).find?
        fun listing => listsModel listing.2 model).map fun listing => listing.1.id :=
    mergeCatalogSnapshots_route _ model
  cases found : (catalogListings (attached.map Prod.fst) listings).find?
      fun listing => listsModel listing.2 model with
  | none =>
    rw [found] at route
    simp [RequestReaches, routedServer, route]
  | some listing =>
    rw [found] at route
    have known : listing.1 ∈ attached.map Prod.fst :=
      catalogListings_attached (List.mem_of_find?_eq_some found)
    have attachedIds : ((rebuiltRegistry attached listings).servers.map ServerRuntime.id).Nodup := by
      simpa [rebuiltRegistry, Function.comp_def] using ids
    have routed : routedServer (rebuiltRegistry attached listings) model = some s ↔
        s ∈ (rebuiltRegistry attached listings).servers ∧ s.id = listing.1.id := by
      simp only [routedServer, route, Option.map_some, Option.bind_some]
      exact find_id_iff attachedIds
    constructor
    · rintro (reached | ⟨lost, -⟩)
      · exact routed.mp reached
      · obtain ⟨server, member, same⟩ := List.mem_map.mp known
        rw [routedServer, route, Option.map_some, Option.bind_some] at lost
        have absent := List.find?_eq_none.mp lost ⟨server.1.id, server.1.order, server.2⟩
          (List.mem_map.mpr ⟨server, member, rfl⟩)
        simp [same] at absent
    · exact fun reached => .inl (routed.mpr reached)

/-! ## Sharing -/

/-- A server that shares a model: it is advertised, it hosts the model, and the
user does not hide the model. -/
structure SharedHost (config : SharingConfig) (hosts : String → String → Prop)
    (server : ServerRuntime) (model : String) : Prop where
  advertised : ∃ entry ∈ config.llmServers, entry.id = server.id ∧ entry.advertiseToCluster = true
  hosted : hosts server.id model
  visible : model ∉ config.hiddenModels

/-- A remote request is posted to a server that shares its model, and to nobody,
with an error for the consumer, when there is none. -/
structure OnlySharedBackends (registry : Registry) (config : SharingConfig)
    (hosts : String → String → Prop) (call : BackendCall) : Prop where
  receiver : ∀ url body, forwardChatStream registry call = .post url body →
    ∀ server, receivingServer registry call.model = some server →
      SharedHost config hosts server call.model
  otherwise : (∀ server ∈ registry.servers, ¬ SharedHost config hosts server call.model) →
    forwardChatStream registry call = .notConfigured

/-- The one call that posts nothing though a server is attached: a body that is
neither an object nor null, where the chat path is translated. -/
def PanicsAt (call : BackendCall) (s : ServerRuntime) : Prop :=
  translatesOllamaChat s.backend call.path = true ∧
    setModel call.body (withoutGguf call.model) = none

private theorem forwardChatStream_reaches {call : BackendCall} {s : ServerRuntime}
    (reaches : RequestReaches registry call.model s) :
    PanicsAt call s ∧ forwardChatStream registry call = .panicked ∨
      ¬ PanicsAt call s ∧ ∃ url body, forwardChatStream registry call = .post url body := by
  have selected : selectedBackend registry call.model = some s.backend := by
    rw [selectedBackend_eq, receivingServer_eq_some.mpr reaches]
    rfl
  simp only [forwardChatStream, selected, PanicsAt]
  by_cases translated : translatesOllamaChat s.backend call.path = true
  · cases set : setModel call.body (withoutGguf call.model) with
    | none => simp [translated]
    | some body => simp [translated]
  · simp [translated]

/-- Remote requests stay on shared backends exactly when no server is attached or
the server they reach shares the model. (Or nothing is posted because the body
makes the handler panic, and a sharing server exists.) -/
theorem only_shared_backends_iff (registry : Registry) (config : SharingConfig)
    (hosts : String → String → Prop) (call : BackendCall) :
    OnlySharedBackends registry config hosts call ↔
      registry.servers = [] ∨
      (∃ s, RequestReaches registry call.model s ∧ SharedHost config hosts s call.model) ∨
      (∃ s, RequestReaches registry call.model s ∧ PanicsAt call s) ∧
        ∃ s ∈ registry.servers, SharedHost config hosts s call.model := by
  constructor
  · rintro ⟨receiver, otherwise⟩
    cases received : receivingServer registry call.model with
    | none => exact .inl (receivingServer_eq_none.mp received)
    | some s =>
      have reaches := receivingServer_eq_some.mp received
      rcases forwardChatStream_reaches reaches with ⟨panics, ran⟩ | ⟨-, url, body, ran⟩
      · refine .inr (.inr ⟨⟨s, reaches, panics⟩, ?_⟩)
        by_contra nobody
        have refused := otherwise fun t attached shared => nobody ⟨t, attached, shared⟩
        rw [ran] at refused
        cases refused
      · exact .inr (.inl ⟨s, reaches, receiver url body ran s received⟩)
  · rintro (empty | ⟨s, reaches, shared⟩ | ⟨⟨s, reaches, panics⟩, t, attached, shared⟩)
    · have selected : selectedBackend registry call.model = none := by
        rw [selectedBackend_eq, receivingServer_eq_none.mpr empty]
        rfl
      have refused : forwardChatStream registry call = .notConfigured := by
        simp [forwardChatStream, selected]
      refine ⟨?_, fun _ => refused⟩
      intro url body ran
      rw [refused] at ran
      cases ran
    · refine ⟨?_, fun nobody => absurd shared (nobody s reaches.member)⟩
      intro url body _ receiver received
      rw [receivingServer_eq_some.mpr reaches] at received
      obtain rfl := Option.some.inj received
      exact shared
    · refine ⟨?_, fun nobody => absurd shared (nobody t attached)⟩
      intro url body ran
      rcases forwardChatStream_reaches reaches with ⟨-, panicked⟩ | ⟨fine, -⟩
      · rw [panicked] at ran
        cases ran
      · exact absurd panics fine

/-! ## Violations -/

private def localServer : ServerRuntime :=
  ⟨"private", 0, .fromServerEntry .ollama "http://127.0.0.1:11434"⟩

private def localOnly : SharingConfig where
  llmServers := [⟨"private", "ollama", "http://127.0.0.1:11434", none, 0, false⟩]
  hiddenModels := []

/-- A request for a model of a local-only server is posted to that server. -/
theorem local_only_server_serves :
    ¬ OnlySharedBackends ⟨[localServer], fun name => if name = "secret" then some "private" else none⟩
      localOnly (fun server model => server = "private" ∧ model = "secret")
      ⟨"/api/chat", .obj [("model", .str "secret")], "secret"⟩ := by
  intro shared
  obtain ⟨entry, member, -, advertised⟩ := (shared.receiver _ _ rfl localServer rfl).advertised
  obtain rfl := List.mem_singleton.mp member
  cases advertised

end MtrxPeer
