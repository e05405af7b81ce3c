import MtrxPeer.ProxyE2ee
import Mathlib.Data.List.Sort

/-! The provider's way to its language-model servers: the normalisation of a
remote request body, the choice of a backend and the URL it is posted to. -/
namespace MtrxPeer

/-! ## Request bodies -/

/-- `map.entry(key).or_insert_with(|| json!(..))`. -/
def entryOr (key : String) (fallback : Json) (fields : List (String × Json)) :
    List (String × Json) :=
  match fields.lookup key with
  | some _ => fields
  | none => Json.insertField key fallback fields

/-- Enter `value` under `key` of the object under `outer`, which is created when
it is missing and left alone when it is not an object. -/
def insertNested (outer key : String) (value : Json) (fields : List (String × Json)) :
    List (String × Json) :=
  let fields := entryOr outer (.obj []) fields
  match fields.lookup outer with
  | some (.obj inner) => Json.insertField outer (.obj (Json.insertField key value inner)) fields
  | _ => fields

/-- Streaming requests ask for a usage record. -/
def ensureStreamUsage (body : Json) : Json :=
  if ((body.get "stream").bind Json.asBool).getD false then
    match body with
    | .obj fields =>
      let fields := entryOr "stream_options" (.obj []) fields
      match fields.lookup "stream_options" with
      | some (.obj inner) =>
        match inner.lookup "include_usage" with
        | some _ => .obj fields
        | none => .obj (Json.insertField "stream_options"
            (.obj (Json.insertField "include_usage" (.bool true) inner)) fields)
      | _ => .obj fields
    | other => other
  else body

/-- The output cap to write into the body, if it must change. -/
def resolvedNumPredict (fields : List (String × Json)) (defaultPredict : Option Nat) : Option Nat :=
  let existing := ((fields.lookup "options").bind fun o => o.get "num_predict").bind Json.asI64
  let requested := ((fields.lookup "max_tokens").bind Json.asU64).or defaultPredict
  match existing with
  | some n =>
    -- Ollama uses -1 for unlimited; never override.
    if n = -1 then none
    else if n ≤ 0 then requested
    else match defaultPredict with
      | some default => if n.toNat ≥ default then none else some default
      | none => none
  | none => requested

def ensureOllamaPredictOptionsWithDefault (body : Json) (defaultPredict : Option Nat) : Json :=
  match body with
  | .obj fields =>
    match resolvedNumPredict fields defaultPredict with
    | some numPredict => .obj (insertNested "options" "num_predict" (.ofNat numPredict) fields)
    | none => .obj fields
  | other => other

def ensureOllamaCtxOptionsWithDefault (body : Json) (defaultCtx : Option Nat) : Json :=
  match defaultCtx.filter (0 < ·), body with
  | some default, .obj fields =>
    let existing := ((fields.lookup "options").bind fun o => o.get "num_ctx").bind Json.asU64
    if existing.any (· ≥ default) then .obj fields
    else .obj (insertNested "options" "num_ctx" (.ofNat default) fields)
  | _, other => other

def effectiveDefaultNumPredict (host : Host) (config : ClientConfig) : Option Nat :=
  config.defaultNumPredict.or (host.envNumPredict.filter (0 < ·))

def effectiveDefaultNumCtx (host : Host) (config : ClientConfig) : Option Nat :=
  config.defaultNumCtx.or (host.envNumCtx.filter (0 < ·))

/-- The three adjustments every remote request body goes through. -/
def normalizeRemoteBody (host : Host) (config : ClientConfig) (body : Json) : Json :=
  ensureOllamaCtxOptionsWithDefault
    (ensureOllamaPredictOptionsWithDefault (ensureStreamUsage body)
      (effectiveDefaultNumPredict host config))
    (effectiveDefaultNumCtx host config)

/-- The model a request body names. -/
def requestedModel (body : Json) : String := ((body.get "model").bind Json.asStr).getD "unknown"

theorem lookup_entryOr_of_ne {key probe : String} (other : probe ≠ key) (fallback : Json)
    (fields : List (String × Json)) :
    (entryOr key fallback fields).lookup probe = fields.lookup probe := by
  unfold entryOr
  split
  · rfl
  · exact Json.lookup_insertField_of_ne other fallback fields

theorem lookup_insertNested_of_ne {outer probe : String} (other : probe ≠ outer) (key : String)
    (value : Json) (fields : List (String × Json)) :
    (insertNested outer key value fields).lookup probe = fields.lookup probe := by
  simp only [insertNested]
  split
  · rw [Json.lookup_insertField_of_ne other, lookup_entryOr_of_ne other]
  · exact lookup_entryOr_of_ne other _ fields

theorem ensureStreamUsage_get {probe : String} (other : probe ≠ "stream_options") (body : Json) :
    (ensureStreamUsage body).get probe = body.get probe := by
  unfold ensureStreamUsage
  split
  · cases body with
    | obj fields =>
      have entered := lookup_entryOr_of_ne other (.obj []) fields
      simp only []
      split
      · split
        · simpa using entered
        · simpa using (Json.lookup_insertField_of_ne other _ _).trans entered
      · simpa using entered
    | _ => rfl
  · rfl

theorem ensureOllamaPredictOptionsWithDefault_get {probe : String} (other : probe ≠ "options")
    (body : Json) (defaultPredict : Option Nat) :
    (ensureOllamaPredictOptionsWithDefault body defaultPredict).get probe = body.get probe := by
  cases body with
  | obj fields =>
    simp only [ensureOllamaPredictOptionsWithDefault]
    split
    · exact lookup_insertNested_of_ne other _ _ fields
    · rfl
  | _ => rfl

theorem ensureOllamaCtxOptionsWithDefault_get {probe : String} (other : probe ≠ "options")
    (body : Json) (defaultCtx : Option Nat) :
    (ensureOllamaCtxOptionsWithDefault body defaultCtx).get probe = body.get probe := by
  unfold ensureOllamaCtxOptionsWithDefault
  split
  · rename_i fields _
    simp only []
    split
    · rfl
    · exact lookup_insertNested_of_ne other _ _ fields
  · rfl

/-- Normalisation touches `stream_options` and `options` only. -/
theorem normalizeRemoteBody_get (host : Host) (config : ClientConfig) (body : Json) (probe : String)
    (notStream : probe ≠ "stream_options") (notOptions : probe ≠ "options") :
    (normalizeRemoteBody host config body).get probe = body.get probe := by
  rw [normalizeRemoteBody, ensureOllamaCtxOptionsWithDefault_get notOptions,
    ensureOllamaPredictOptionsWithDefault_get notOptions, ensureStreamUsage_get notStream]

@[simp] theorem requestedModel_normalizeRemoteBody (host : Host) (config : ClientConfig)
    (body : Json) : requestedModel (normalizeRemoteBody host config body) = requestedModel body := by
  simp only [requestedModel,
    normalizeRemoteBody_get host config body "model" (by decide) (by decide)]

/-! ## Backends -/

inductive LlmBackendKind where
  | ollama
  | openAiCompat
  | custom
  deriving DecidableEq

/-- `trim_end_matches('/')`. -/
def trimEndSlashes (url : String) : String :=
  String.ofList (url.toList.reverse.dropWhile (· = '/')).reverse

/-- A language-model server; its base URL never ends in a slash. -/
structure LlmBackend where
  kind : LlmBackendKind
  baseUrl : String
  trimmed : baseUrl.toList.getLast? ≠ some '/'

theorem trimEndSlashes_getLast (url : String) :
    (trimEndSlashes url).toList.getLast? ≠ some '/' := by
  simp only [trimEndSlashes, String.toList_ofList, List.getLast?_reverse]
  intro slash
  have stops := List.head?_dropWhile_not (p := fun c => decide (c = '/')) (l := url.toList.reverse)
  rw [slash] at stops
  simp at stops

theorem trimEndSlashes_of_trimmed {url : String} (trimmed : url.toList.getLast? ≠ some '/') :
    trimEndSlashes url = url := by
  have stops : url.toList.reverse.dropWhile (· = '/') = url.toList.reverse := by
    cases chars : url.toList.reverse with
    | nil => rfl
    | cons c rest =>
      have last : url.toList.getLast? = some c := by
        rw [← List.head?_reverse, chars, List.head?_cons]
      rw [last, Option.some_inj.ne] at trimmed
      simp [trimmed]
  rw [trimEndSlashes, stops, List.reverse_reverse, String.ofList_toList]

/-- `LlmBackend::from_server_entry`. -/
def LlmBackend.fromServerEntry (kind : LlmBackendKind) (url : String) : LlmBackend :=
  ⟨kind, trimEndSlashes url, trimEndSlashes_getLast url⟩

def LlmBackend.supportsOllamaNative (backend : LlmBackend) : Bool := backend.kind = .ollama

structure ServerRuntime where
  id : String
  order : Nat
  backend : LlmBackend

/-- The attached servers, in the iteration order of their map, and the server
each model is routed to. -/
structure Registry where
  servers : List ServerRuntime
  modelRoutes : String → Option String

def resolveBackend (registry : Registry) (model : String) : Option LlmBackend :=
  (registry.modelRoutes model).bind fun serverId =>
    (registry.servers.find? fun s => s.id = serverId).map ServerRuntime.backend

def firstAttachedBackend (registry : Registry) : Option LlmBackend :=
  (registry.servers.insertionSort fun a b => a.order ≤ b.order).head?.map ServerRuntime.backend

/-- The backend that serves a model: its route's, else the first attached. -/
def selectedBackend (registry : Registry) (model : String) : Option LlmBackend :=
  (resolveBackend registry model).or (firstAttachedBackend registry)

/-- `strip_suffix(".gguf")`, or the name itself. -/
def withoutGguf (model : String) : String :=
  if model.toList.drop (model.toList.length - 5) = ".gguf".toList then
    String.ofList (model.toList.take (model.toList.length - 5))
  else model

/-- `value["model"] = name`: an object takes the field, null becomes an object,
and anything else panics. -/
def setModel (body : Json) (name : String) : Option Json :=
  match body with
  | .obj fields => some (.obj (Json.insertField "model" (.str name) fields))
  | .null => some (.obj [("model", .str name)])
  | _ => none

/-- A call of `forward_chat_stream`. -/
structure BackendCall where
  path : String
  body : Json
  model : String

/-- What a call does: one POST, no backend to post to, or a panic. -/
inductive Forwarded where
  | post (url : String) (body : Json)
  | notConfigured
  | panicked

/-- The path a backend is posted: Ollama's chat path becomes the OpenAI one on a
backend that does not speak Ollama. -/
def translatesOllamaChat (backend : LlmBackend) (path : String) : Bool :=
  !backend.supportsOllamaNative && path = "/api/chat"

def forwardPath (backend : LlmBackend) (path : String) : String :=
  if translatesOllamaChat backend path then "/v1/chat/completions" else path

/-- `forward_chat_stream`, up to the request it sends. -/
def forwardChatStream (registry : Registry) (call : BackendCall) : Forwarded :=
  match selectedBackend registry call.model with
  | none => .notConfigured
  | some backend =>
    let url := backend.baseUrl ++ forwardPath backend call.path
    if translatesOllamaChat backend call.path then
      match setModel call.body (withoutGguf call.model) with
      | some body => .post url body
      | none => .panicked
    else .post url call.body

/-- What the outside answers during one step: the keys and nonces drawn, the
time, the bytes the backend streams until it ends or breaks (or why it refused
the request), whether the channel still takes messages, and whether the vault
can be reached. -/
structure Answers where
  draws : Nat → Draw
  unixNow : Nat
  upstream : Except String (List (Except String Bytes))
  channelOpen : Bool
  ipcError : Option String

/-- What is read of a stream: the chunks before its first error. -/
def okItems : List (Except String Bytes) → List Bytes
  | .ok chunk :: rest => chunk :: okItems rest
  | _ => []

/-- The outcome of a call: the items its stream yields, or the error. A panic
ends the task that made it. -/
def callOutcome (registry : Registry) (answers : Answers) (call : BackendCall) :
    Option (Except String (List (Except String Bytes))) :=
  match forwardChatStream registry call with
  | .post _ _ => some answers.upstream
  | .notConfigured => some (.error "backend not configured")
  | .panicked => none

end MtrxPeer
