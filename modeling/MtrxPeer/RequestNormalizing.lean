import MtrxPeer.LlmProxy

/-! The normalisation of an agent's request into a chat completion: its input becomes messages,
its tools take one shape, and tool results take a role of their own. -/
namespace MtrxPeer

/-! ## Values -/

/-- `value[key] = new`: an object takes the field, null becomes an object, and anything else
panics. -/
def Json.assign (json : Json) (key : String) (value : Json) : Option Json :=
  match json with
  | .obj fields => some (.obj (Json.insertField key value fields))
  | .null => some (.obj [(key, value)])
  | _ => none

/-- `as_object_mut().remove(key)`. -/
def Json.removeKey (json : Json) (key : String) : Json :=
  match json with
  | .obj fields => .obj (fields.filter fun field => field.1 ≠ key)
  | other => other

/-- `role` of a message. -/
def messageRole (message : Json) : Option String := (message.get "role").bind Json.asStr

/-! ## Schemas -/

/-- The fields of a schema that are left out wherever they stand. -/
def cleanedField (key : String) (value : Json) : Bool :=
  key = "$schema" || key = "title" || key = "additionalProperties" && value matches .bool false

mutual

/-- `clean_schema`. -/
def cleanSchema : Json → Json
  | .obj fields => .obj (cleanFields fields)
  | .arr items => .arr (cleanItems items)
  | other => other

def cleanFields : List (String × Json) → List (String × Json)
  | [] => []
  | (key, value) :: rest =>
    if cleanedField key value then cleanFields rest else (key, cleanSchema value) :: cleanFields rest

def cleanItems : List Json → List Json
  | [] => []
  | item :: rest => cleanSchema item :: cleanItems rest

end

/-! ## Tools -/

/-- `normalize_tool`; a tool that is not a function is dropped. -/
def normalizeTool (tool : Json) : Option Json :=
  if (tool.get "type").bind Json.asStr = some "custom" then none
  else match tool.get "function" with
    | some func =>
      let func := match func.get "parameters" with
        | some params => func.insert "parameters" (cleanSchema params)
        | none =>
          match func.get "input_schema" with
          | some schema => (func.insert "parameters" (cleanSchema schema)).removeKey "input_schema"
          | none => func
      some (tool.insert "function" func)
    | none =>
      ((tool.get "name").bind Json.asStr).map fun name =>
        let description := ((tool.get "description").or (tool.get "desc")).getD (.str "")
        let parameters := ((tool.get "parameters").or (tool.get "input_schema")).getD
          (.obj [("properties", .obj []), ("type", .str "object")])
        .obj [
          ("function", .obj [("description", description), ("name", .str name),
            ("parameters", cleanSchema parameters)]),
          ("type", .str "function")]

/-- `normalize_tools_array`. -/
def normalizeToolsArray (tools : Json) : Json :=
  match tools with
  | .arr items => .arr (items.filterMap normalizeTool)
  | _ => .arr []

/-! ## Messages -/

/-- `normalize_message_roles`. -/
def normalizeMessageRoles (msg : Json) : Option Json :=
  if messageRole msg = some "developer" then msg.assign "role" (.str "system") else some msg

/-- `json!({"role": "user", "content": content})`. -/
def userMessage (content : Json) : Json := .obj [("content", content), ("role", .str "user")]

/-- `normalize_input_item`. -/
def normalizeInputItem (item : Json) : Option Json :=
  match item.get "role", item.get "content" with
  | some _, _ => normalizeMessageRoles item
  | none, some content => some (userMessage content)
  | none, none => some (userMessage (.str item.toText))

/-- `input_to_messages`. -/
def inputToMessages : Json → Option Json
  | .str s => some (.arr [userMessage (.str s)])
  | .arr items => (items.mapM normalizeInputItem).map .arr
  | other => some (.arr [userMessage (.str other.toText)])

/-- A content part that is the result of a tool call. -/
def isToolResult (part : Json) : Bool := (part.get "type").bind Json.asStr = some "tool_result"

/-- The message that a result becomes. -/
def toolResultMessage (part : Json) : Json :=
  .obj [
    ("content", (part.get "content").getD (.str "")),
    ("role", .str "tool"),
    ("tool_call_id", (part.get "tool_use_id").getD (.str ""))]

/-- `normalize_tool_messages` on one message: a user's message that is one result and nothing
else becomes a tool's. -/
def normalizeToolMessage (msg : Json) : Option Json :=
  (normalizeMessageRoles msg).map fun msg =>
    if messageRole msg = some "user" then
      match (msg.get "content").bind Json.asArray with
      | some content =>
        match content.filter isToolResult, content.filter (!isToolResult ·) with
        | [part], [] => toolResultMessage part
        | _, _ => msg
      | none => msg
    else msg

/-- `normalize_tool_messages`. -/
def normalizeToolMessages (body : Json) : Option Json :=
  match (body.get "messages").bind Json.asArray with
  | none => some body
  | some messages => (messages.mapM normalizeToolMessage).map fun messages =>
      body.insert "messages" (.arr messages)

/-! ## Requests -/

def responsesOnlyFields : List String :=
  ["store", "include", "prompt_cache_retention", "previous_response_id", "truncation", "reasoning",
    "text", "prompt", "metadata"]

/-- `strip_responses_only_fields`. -/
def stripResponsesOnlyFields (body : Json) : Json :=
  match body with
  | .obj fields => .obj (fields.filter fun field => field.1 ∉ responsesOnlyFields)
  | other => other

/-- The input of a request as its messages. -/
def takeInput (body : Json) : Option Json :=
  match body.get "input" with
  | none => some body
  | some input => do
    let messages ← inputToMessages input
    let body ← body.assign "messages" messages
    return body.removeKey "input"

/-- The tools of a request in one shape. -/
def takeTools (body : Json) : Option Json :=
  match body.get "tools" with
  | none => some body
  | some tools => body.assign "tools" (normalizeToolsArray tools)

/-- `normalize_chat_request_with_default`; nothing where the program panics. -/
def normalizeChatRequestWithDefault (defaultPredict defaultCtx : Option Nat) (body : Json) :
    Option Json := do
  let body ← takeInput body
  let body ← takeTools body
  let body ← normalizeToolMessages (stripResponsesOnlyFields body)
  let body := ensureStreamUsage body
  let body := ensureOllamaPredictOptionsWithDefault body defaultPredict
  return ensureOllamaCtxOptionsWithDefault body defaultCtx

/-! ## Every request is normalised -/

theorem Json.get_some {json value : Json} {key : String} (found : json.get key = some value) :
    ∃ fields, json = .obj fields := by
  cases json with
  | obj fields => exact ⟨fields, rfl⟩
  | _ => cases found

@[simp] theorem Json.assign_obj (fields : List (String × Json)) (key : String) (value : Json) :
    Json.assign (.obj fields) key value = some (.obj (Json.insertField key value fields)) := rfl

/-- A message with a role is an object, so it takes another one. -/
theorem normalizeMessageRoles_returns (msg : Json) :
    ∃ renamed, normalizeMessageRoles msg = some renamed := by
  unfold normalizeMessageRoles
  split
  · rename_i developer
    obtain ⟨role, given, -⟩ := Option.bind_eq_some_iff.mp developer
    obtain ⟨fields, rfl⟩ := Json.get_some given
    exact ⟨_, rfl⟩
  · exact ⟨msg, rfl⟩

theorem normalizeInputItem_returns (item : Json) : ∃ msg, normalizeInputItem item = some msg := by
  unfold normalizeInputItem
  split
  · exact normalizeMessageRoles_returns item
  · exact ⟨_, rfl⟩
  · exact ⟨_, rfl⟩

theorem normalizeToolMessage_returns (msg : Json) : ∃ out, normalizeToolMessage msg = some out := by
  obtain ⟨renamed, same⟩ := normalizeMessageRoles_returns msg
  rw [normalizeToolMessage, same, Option.map_some]
  exact ⟨_, rfl⟩

/-- A function that returns on each item returns on all of them. -/
theorem mapM_returns {α β : Type} {f : α → Option β} (returns : ∀ a, ∃ b, f a = some b)
    (items : List α) : ∃ outs, items.mapM f = some outs := by
  induction items with
  | nil => exact ⟨[], rfl⟩
  | cons item rest ih =>
    obtain ⟨out, first⟩ := returns item
    obtain ⟨outs, others⟩ := ih
    exact ⟨out :: outs, by simp [first, others]⟩

theorem inputToMessages_returns (input : Json) : ∃ messages, inputToMessages input = some (.arr messages) := by
  cases input with
  | arr items =>
    obtain ⟨messages, same⟩ := mapM_returns normalizeInputItem_returns items
    exact ⟨messages, by rw [inputToMessages, same, Option.map_some]⟩
  | _ => exact ⟨_, rfl⟩

theorem takeInput_returns (body : Json) : ∃ body', takeInput body = some body' := by
  unfold takeInput
  cases given : body.get "input" with
  | none => exact ⟨body, rfl⟩
  | some input =>
    obtain ⟨fields, rfl⟩ := Json.get_some given
    obtain ⟨messages, same⟩ := inputToMessages_returns input
    simp only [same, Json.assign_obj, Option.bind_eq_bind, Option.bind_some, Option.pure_def]
    exact ⟨_, rfl⟩

theorem takeTools_returns (body : Json) : ∃ body', takeTools body = some body' := by
  unfold takeTools
  cases given : body.get "tools" with
  | none => exact ⟨body, rfl⟩
  | some tools =>
    obtain ⟨fields, rfl⟩ := Json.get_some given
    exact ⟨_, rfl⟩

theorem normalizeToolMessages_returns (body : Json) : ∃ body', normalizeToolMessages body = some body' := by
  unfold normalizeToolMessages
  cases (body.get "messages").bind Json.asArray with
  | none => exact ⟨body, rfl⟩
  | some messages =>
    obtain ⟨outs, same⟩ := mapM_returns normalizeToolMessage_returns messages
    simp only [same, Option.map_some]
    exact ⟨_, rfl⟩

/-- Every request is normalised, whatever its body is. -/
theorem normalizeChatRequest_returns (defaultPredict defaultCtx : Option Nat) (body : Json) :
    ∃ normalized, normalizeChatRequestWithDefault defaultPredict defaultCtx body = some normalized := by
  obtain ⟨first, taken⟩ := takeInput_returns body
  obtain ⟨second, tooled⟩ := takeTools_returns first
  obtain ⟨third, turned⟩ := normalizeToolMessages_returns (stripResponsesOnlyFields second)
  simp only [normalizeChatRequestWithDefault, taken, tooled, turned, Option.bind_eq_bind,
    Option.bind_some, Option.pure_def]
  exact ⟨_, rfl⟩

/-! ## The messages of a request -/

/-- The messages a request comes with, or its input stands for. -/
def requestMessages (body : Json) : Option (List Json) :=
  (takeInput body).bind fun body => (body.get "messages").bind Json.asArray

theorem takeTools_get {body body' : Json} (taken : takeTools body = some body') {probe : String}
    (other : probe ≠ "tools") : body'.get probe = body.get probe := by
  unfold takeTools at taken
  cases given : body.get "tools" with
  | none =>
    rw [given] at taken
    obtain rfl := Option.some.inj taken
    rfl
  | some tools =>
    obtain ⟨fields, rfl⟩ := Json.get_some given
    rw [given] at taken
    obtain rfl := Option.some.inj taken
    exact Json.lookup_insertField_of_ne other _ fields

private theorem lookup_filter (keep : String → Bool) {probe : String} (kept : keep probe = true)
    (fields : List (String × Json)) :
    (fields.filter fun field => keep field.1).lookup probe = fields.lookup probe := by
  induction fields with
  | nil => rfl
  | cons field rest ih =>
    obtain ⟨key, value⟩ := field
    by_cases same : probe = key
    · subst same
      simp [kept]
    · have differs : (probe == key) = false := by simpa using same
      rw [List.lookup_cons, differs, List.filter_cons]
      split
      · rw [List.lookup_cons, differs]
        exact ih
      · exact ih

theorem stripResponsesOnlyFields_get {probe : String} (other : probe ∉ responsesOnlyFields)
    (body : Json) : (stripResponsesOnlyFields body).get probe = body.get probe := by
  cases body with
  | obj fields =>
    exact lookup_filter (fun key => decide (key ∉ responsesOnlyFields)) (by simpa using other) fields
  | _ => rfl

/-- The messages of a normalised request are those it came with, each turned by itself. -/
theorem normalizeChatRequest_messages {body : Json} {messages : List Json}
    (defaultPredict defaultCtx : Option Nat) (given : requestMessages body = some messages) :
    ∃ normalized after,
      normalizeChatRequestWithDefault defaultPredict defaultCtx body = some normalized ∧
        messages.mapM normalizeToolMessage = some after ∧
        (normalized.get "messages").bind Json.asArray = some after := by
  obtain ⟨first, taken⟩ := takeInput_returns body
  obtain ⟨second, tooled⟩ := takeTools_returns first
  obtain ⟨after, turned⟩ := mapM_returns normalizeToolMessage_returns messages
  have kept : ((stripResponsesOnlyFields second).get "messages").bind Json.asArray = some messages := by
    rw [stripResponsesOnlyFields_get (by decide), takeTools_get tooled (by decide)]
    rw [requestMessages, taken, Option.bind_some] at given
    exact given
  have whole : normalizeToolMessages (stripResponsesOnlyFields second) =
      some ((stripResponsesOnlyFields second).insert "messages" (.arr after)) := by
    rw [normalizeToolMessages, kept]
    simp only [turned, Option.map_some]
  simp only [normalizeChatRequestWithDefault, taken, tooled, whole, Option.bind_eq_bind,
    Option.bind_some, Option.pure_def]
  refine ⟨_, after, rfl, turned, ?_⟩
  rw [ensureOllamaCtxOptionsWithDefault_get (by decide),
    ensureOllamaPredictOptionsWithDefault_get (by decide), ensureStreamUsage_get (by decide)]
  obtain ⟨messages_, found, -⟩ := Option.bind_eq_some_iff.mp kept
  obtain ⟨fields, object⟩ := Json.get_some found
  rw [object, Json.insert_obj, Json.get_obj, Json.lookup_insertField_self]
  rfl

end MtrxPeer
