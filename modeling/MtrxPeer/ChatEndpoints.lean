import Mathlib.Data.List.Infix
import MtrxPeer.LocalRouting

/-! Where a chat completion is posted. A request of this host goes to the URL that the model
has of its own, if it has one; a remote request goes to the default path of the backend. -/
namespace MtrxPeer

/-! ## Backends with models of their own -/

/-- A model of a custom endpoint, with the URL that serves it. -/
structure CustomModelEntry where
  id : String
  url : Option String
  deriving DecidableEq

/-- A backend as it is configured; only a custom endpoint has models of its own. -/
structure ConfiguredBackend extends LlmBackend where
  models : List CustomModelEntry

/-- `LlmBackend::from_server_entry`. -/
def ConfiguredBackend.fromServerEntry (kind : LlmBackendKind) (url : String)
    (models : List CustomModelEntry) : ConfiguredBackend :=
  ⟨.fromServerEntry kind url, models⟩

/-- `list_models` of a custom endpoint: the names it lists. -/
def ConfiguredBackend.modelNames (backend : ConfiguredBackend) : List String :=
  (backend.models.map fun entry => trim entry.id).filter (· ≠ "")

/-- `chat_path`. -/
def chatPath : String := "/v1/chat/completions"

/-- `starts_with("http://") || starts_with("https://")`. -/
def isFullUrl (url : String) : Bool :=
  "http://".toList.isPrefixOf url.toList || "https://".toList.isPrefixOf url.toList

/-- The URL that a model has of its own, unless it is empty. -/
def ConfiguredBackend.ownUrl (backend : ConfiguredBackend) (model : String) : Option String :=
  ((backend.models.find? fun entry => entry.id = model).bind CustomModelEntry.url).filter (· ≠ "")

/-- A relative URL, from the root. -/
def rootedUrl (url : String) : String :=
  if ['/'].isPrefixOf url.toList then url else "/" ++ url

/-- `CustomEndpointBackend::chat_path_for_model`. -/
def ConfiguredBackend.customChatPathForModel (backend : ConfiguredBackend) (model : String) : String :=
  match backend.ownUrl model with
  | some url => if isFullUrl url then url else trimEndSlashes backend.baseUrl ++ rootedUrl url
  | none => trimEndSlashes backend.baseUrl ++ chatPath

/-- `LlmBackend::chat_path_for_model`. -/
def ConfiguredBackend.chatPathForModel (backend : ConfiguredBackend) (model : String) : String :=
  match backend.kind with
  | .custom => backend.customChatPathForModel model
  | _ => backend.baseUrl ++ chatPath

/-- The URL that `forward_post_raw` posts to. -/
def LlmBackend.rawUrl (backend : LlmBackend) (path : String) : String :=
  if isFullUrl path then path else backend.baseUrl ++ path

/-! ## The two ways -/

structure AttachedServer where
  id : String
  order : Nat
  backend : ConfiguredBackend

structure ChatRegistry where
  servers : List AttachedServer
  modelRoutes : String → Option String

/-- The registry as the rest of the proxy sees it. -/
def ChatRegistry.plain (registry : ChatRegistry) : Registry where
  servers := registry.servers.map fun server => ⟨server.id, server.order, server.backend.toLlmBackend⟩
  modelRoutes := registry.modelRoutes

def ChatRegistry.resolveBackend (registry : ChatRegistry) (model : String) : Option ConfiguredBackend :=
  (registry.modelRoutes model).bind fun serverId =>
    (registry.servers.find? fun s => s.id = serverId).map AttachedServer.backend

def ChatRegistry.requireBackendForModel (registry : ChatRegistry) (setupComplete : Bool) (model : String) :
    Except (Nat × String) ConfiguredBackend :=
  if setupComplete = false then .error (503, "Setup not complete — open the web UI at /")
  else match registry.resolveBackend model with
    | some backend => .ok backend
    | none => .error (404, "No attached server hosts model '" ++ model ++ "'")

/-- The request that `forward_agent_local` sends: its URL and body. -/
def ChatRegistry.forwardAgentLocal (registry : ChatRegistry) (setupComplete : Bool)
    (body model : String) : Except (Nat × String) (String × String) := do
  let backend ← registry.requireBackendForModel setupComplete model
  return (backend.rawUrl (backend.chatPathForModel model), body)

/-- The URL that is contacted, if one is. -/
def Forwarded.url : Forwarded → Option String
  | .post url _ => some url
  | _ => none

/-- A path that asks a backend for a chat completion. -/
def AsksForChat (backend : LlmBackend) (path : String) : Prop :=
  path = chatPath ∨ translatesOllamaChat backend path = true

theorem ChatRegistry.resolveBackend_plain (registry : ChatRegistry) (model : String) :
    MtrxPeer.resolveBackend registry.plain model =
      (registry.resolveBackend model).map ConfiguredBackend.toLlmBackend := by
  simp only [MtrxPeer.resolveBackend, ChatRegistry.resolveBackend, plain]
  cases registry.modelRoutes model with
  | none => rfl
  | some serverId =>
    simp only [Option.bind_some, List.find?_map, Option.map_map]
    rfl

/-- The router takes the same backend. -/
theorem ChatRegistry.requireBackendForModel_plain (registry : ChatRegistry) (localModels : List String)
    (setupComplete : Bool) (model : String) :
    MtrxPeer.requireBackendForModel ⟨registry.plain, localModels, setupComplete⟩ (some model) =
      match registry.requireBackendForModel setupComplete model with
      | .ok backend => .backend backend.toLlmBackend
      | .error (status, text) => .refused status text := by
  simp only [MtrxPeer.requireBackendForModel, ChatRegistry.requireBackendForModel,
    resolveBackend_plain]
  split
  · rfl
  · cases registry.resolveBackend model <;> rfl

/-! ## When they meet -/

/-- The endpoint of a model is the default one of its backend: the URL of its own is missing or
names that endpoint, and the base URL is one that is taken for a URL. -/
def ConfiguredBackend.DefaultEndpoint (backend : ConfiguredBackend) (model : String) : Prop :=
  match backend.kind, backend.ownUrl model with
  | .custom, some url =>
    if isFullUrl url then url = backend.baseUrl ++ chatPath
    else if isFullUrl backend.baseUrl then rootedUrl url = chatPath
    else backend.baseUrl ++ rootedUrl url = chatPath
  | _, _ => isFullUrl backend.baseUrl = true ∨ backend.baseUrl = ""

/-- Before a path, a URL without a scheme gets none. -/
theorem isFullUrl_chatPath {base : String} (trimmed : base.toList.getLast? ≠ some '/') :
    isFullUrl (base ++ chatPath) = isFullUrl base := by
  -- a scheme that the path completes would need a base that ends in a slash
  have scheme : ∀ front ∈ ["http://".toList, "https://".toList],
      front.isPrefixOf (base.toList ++ chatPath.toList) = front.isPrefixOf base.toList := by
    intro front member
    rw [Bool.eq_iff_iff, List.isPrefixOf_iff_prefix, List.isPrefixOf_iff_prefix]
    constructor
    · intro starts
      by_cases short : base.toList.length ≤ front.length
      · have within : base.toList ∈ front.inits :=
          (List.mem_inits _ _).mpr (List.prefix_of_prefix_length_le (List.prefix_append _ _) starts short)
        revert starts trimmed
        have all : ∀ front ∈ ["http://".toList, "https://".toList], ∀ base ∈ front.inits,
            base.getLast? ≠ some '/' → front <+: base ++ chatPath.toList → front <+: base := by decide
        exact all front member base.toList within
      · exact List.prefix_of_prefix_length_le starts (List.prefix_append _ _) (by omega)
    · exact fun starts => starts.trans (List.prefix_append _ _)
  rw [isFullUrl, isFullUrl, String.toList_append, scheme _ (by simp), scheme _ (by simp)]

theorem isFullUrl_append {base : String} (full : isFullUrl base = true) (path : String) :
    isFullUrl (base ++ path) = true := by
  rw [isFullUrl, Bool.or_eq_true, List.isPrefixOf_iff_prefix, List.isPrefixOf_iff_prefix] at *
  rw [String.toList_append]
  exact full.imp (fun starts => starts.trans (List.prefix_append _ _))
    fun starts => starts.trans (List.prefix_append _ _)

/-- The URL that a remote completion is posted to. -/
private theorem forwardChatStream_url {registry : Registry} {call : BackendCall} {backend : LlmBackend}
    {url : String} (routed : resolveBackend registry call.model = some backend)
    (chat : AsksForChat backend call.path) (posted : (forwardChatStream registry call).url = some url) :
    url = backend.baseUrl ++ chatPath := by
  have path : forwardPath backend call.path = chatPath := by
    rcases chat with plain | translated
    · rw [forwardPath, plain]
      exact if_neg (by simp [translatesOllamaChat, chatPath])
    · exact if_pos translated
  simp only [forwardChatStream, selectedBackend, routed, Option.some_or, path] at posted
  split at posted
  · split at posted
    · exact (Option.some.inj posted).symm
    · cases posted
  · exact (Option.some.inj posted).symm

/-- The URL that a completion of this host is posted to. -/
private theorem forwardAgentLocal_url {registry : ChatRegistry} {setupComplete : Bool}
    {body model url body' : String} {backend : ConfiguredBackend}
    (routed : registry.resolveBackend model = some backend)
    (posted : registry.forwardAgentLocal setupComplete body model = .ok (url, body')) :
    url = backend.rawUrl (backend.chatPathForModel model) := by
  simp only [ChatRegistry.forwardAgentLocal, ChatRegistry.requireBackendForModel, routed] at posted
  split at posted
  · cases posted
  · exact (Prod.mk.inj (Except.ok.inj posted)).1.symm

private theorem append_left_cancel_iff {a b c : String} : a ++ b = a ++ c ↔ b = c :=
  String.append_right_inj a

/-- A path that is appended to the base URL, which is taken for a URL or not. -/
private theorem rawUrl_append_iff (backend : LlmBackend) (path : String) :
    backend.baseUrl ++ chatPath = backend.rawUrl (backend.baseUrl ++ path) ↔
      if isFullUrl backend.baseUrl then path = chatPath else backend.baseUrl ++ path = chatPath := by
  by_cases full : isFullUrl backend.baseUrl = true
  · rw [LlmBackend.rawUrl, if_pos (isFullUrl_append full path), if_pos full, append_left_cancel_iff,
      eq_comm]
  · have notChat : isFullUrl chatPath = false := by decide
    rw [if_neg full, LlmBackend.rawUrl]
    split
    · rename_i completed
      -- the path would complete the scheme
      constructor
      · intro same
        rw [← same, isFullUrl_chatPath backend.trimmed] at completed
        exact absurd completed full
      · intro same
        rw [same, notChat] at completed
        cases completed
    · rw [append_left_cancel_iff, eq_comm]

/-- The two URLs of a model are one exactly for a default endpoint. -/
theorem rawUrl_chatPathForModel_iff (backend : ConfiguredBackend) (model : String) :
    backend.baseUrl ++ chatPath = backend.rawUrl (backend.chatPathForModel model) ↔
      backend.DefaultEndpoint model := by
  have default_ : backend.baseUrl ++ chatPath = backend.rawUrl (backend.baseUrl ++ chatPath) ↔
      (isFullUrl backend.baseUrl = true ∨ backend.baseUrl = "") := by
    rw [rawUrl_append_iff]
    by_cases full : isFullUrl backend.baseUrl = true
    · simp [full]
    · simp [full]
  cases kind : backend.kind with
  | ollama =>
    simpa only [ConfiguredBackend.chatPathForModel, ConfiguredBackend.DefaultEndpoint, kind] using default_
  | openAiCompat =>
    simpa only [ConfiguredBackend.chatPathForModel, ConfiguredBackend.DefaultEndpoint, kind] using default_
  | custom =>
    simp only [ConfiguredBackend.chatPathForModel, ConfiguredBackend.DefaultEndpoint, kind,
      ConfiguredBackend.customChatPathForModel, trimEndSlashes_of_trimmed backend.trimmed]
    cases backend.ownUrl model with
    | none => exact default_
    | some url =>
      by_cases full : isFullUrl url = true
      · simp only [full, if_true, LlmBackend.rawUrl]
        exact eq_comm
      · simp only [full]
        exact rawUrl_append_iff backend.toLlmBackend (rootedUrl url)

/-- A remote chat completion and one of this host are posted to one URL exactly where the model's
endpoint is the default one of its backend. -/
theorem remote_and_local_endpoints_agree_iff {registry : ChatRegistry} {setupComplete : Bool}
    {call : BackendCall} {body body' remoteUrl localUrl : String} {backend : ConfiguredBackend}
    (routed : registry.resolveBackend call.model = some backend)
    (chat : AsksForChat backend.toLlmBackend call.path)
    (away : (forwardChatStream registry.plain call).url = some remoteUrl)
    (here : registry.forwardAgentLocal setupComplete body call.model = .ok (localUrl, body')) :
    remoteUrl = localUrl ↔ backend.DefaultEndpoint call.model := by
  have plain : resolveBackend registry.plain call.model = some backend.toLlmBackend := by
    rw [registry.resolveBackend_plain, routed, Option.map_some]
  rw [forwardChatStream_url plain chat away, forwardAgentLocal_url routed here]
  exact rawUrl_chatPathForModel_iff backend call.model

/-- A custom endpoint: one of its models is served under a path of its own. -/
private def sampleBackend : ConfiguredBackend :=
  .fromServerEntry .custom "https://llm.example/"
    [⟨"plain", none⟩, ⟨"deployed", some "deployments/d/chat"⟩]

private def sampleChatRegistry : ChatRegistry where
  servers := [⟨"s", 0, sampleBackend⟩]
  modelRoutes := fun model => if model ∈ sampleBackend.modelNames then some "s" else none

private def sampleCall (model : String) : BackendCall :=
  ⟨chatPath, .obj [("model", .str model)], model⟩

theorem remote_and_local_endpoints_agree_iff_sample :
    ("https://llm.example/v1/chat/completions" = "https://llm.example/v1/chat/completions" ↔
        sampleBackend.DefaultEndpoint "plain") ∧
      ("https://llm.example/v1/chat/completions" = "https://llm.example/deployments/d/chat" ↔
        sampleBackend.DefaultEndpoint "deployed") := by
  constructor
  · exact @remote_and_local_endpoints_agree_iff sampleChatRegistry true (sampleCall "plain") "" "" _ _
      sampleBackend rfl (.inl rfl) (by decide) (by decide)
  · exact @remote_and_local_endpoints_agree_iff sampleChatRegistry true (sampleCall "deployed") "" "" _ _
      sampleBackend rfl (.inl rfl) (by decide) (by decide)

/-- A model that is listed and routed, whose requests go to two URLs. -/
theorem own_url_unused_by_remote_requests :
    "deployed" ∈ sampleBackend.modelNames ∧
      sampleChatRegistry.resolveBackend "deployed" = some sampleBackend ∧
      ¬ ∃ url, (forwardChatStream sampleChatRegistry.plain (sampleCall "deployed")).url = some url ∧
        sampleChatRegistry.forwardAgentLocal true "" "deployed" = .ok (url, "") := by
  refine ⟨by decide, rfl, ?_⟩
  rintro ⟨url, away, here⟩
  have remote : (forwardChatStream sampleChatRegistry.plain (sampleCall "deployed")).url =
      some "https://llm.example/v1/chat/completions" := by decide
  have own : sampleChatRegistry.forwardAgentLocal true "" "deployed" =
      .ok ("https://llm.example/deployments/d/chat", "") := by decide
  rw [remote] at away
  rw [own] at here
  obtain rfl := Option.some.inj away
  exact absurd (Prod.mk.inj (Except.ok.inj here)).1 (by decide)

end MtrxPeer
