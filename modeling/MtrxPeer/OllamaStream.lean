import MtrxPeer.AnswerStream
import MtrxPeer.LossyText
import MtrxPeer.StreamAssembly
import MtrxPeer.StreamText
import MtrxPeer.TransactionRows

/-! An OpenAI event stream translated to Ollama's lines of JSON, for a consumer elsewhere
and for a local client. Both translators run the same loop. The token counts that the
upstream reports are in no line they send, and a last line without a newline is not read. -/
namespace MtrxPeer

/-! ## The translators -/

/-- What a line of the event stream is to a translator. -/
inductive SseEvent where
  | skipped
  | done
  | delta (content : String)
  deriving DecidableEq, Repr

def readSseLine (line : List Char) : SseEvent :=
  let line := trim (String.ofList line)
  if "data:".toList.isPrefixOf line.toList then
    let payload := linePayload line
    if payload = "[DONE]" then .done
    else
      let delta := chunkContent ((Json.fromText payload).getD .null)
      if delta = "" then .skipped else .delta delta
  else .skipped

def ollamaDelta (model content : String) : Json :=
  .obj [("done", .bool false),
    ("message", .obj [("content", .str content), ("role", .str "assistant")]),
    ("model", .str model)]

def ollamaDone (model : String) : Json := .obj [("done", .bool true), ("model", .str model)]

/-- The complete lines of a buffer; the end mark is answered and stops the stream. -/
def translateLines (model : String) : List (List Char) → List Json × Bool
  | [] => ([], false)
  | line :: rest =>
    match readSseLine line with
    | .done => ([ollamaDone model], true)
    | .delta content =>
      let (out, stopped) := translateLines model rest
      (ollamaDelta model content :: out, stopped)
    | .skipped => translateLines model rest

/-- The loop of a translator over the items of the upstream's stream. -/
def translateChunks (model : String) (onError : String → List (Except String Json)) :
    (buf : List Char) → List (Except String Bytes) → List (Except String Json)
  | _, [] => [.ok (ollamaDone model)]
  | _, .error e :: _ => onError e
  | buf, .ok chunk :: rest =>
    let (complete, tail) := cutLines (buf ++ fromUtf8Lossy chunk)
    let (out, stopped) := translateLines model complete
    out.map .ok ++ if stopped then [] else translateChunks model onError tail rest

/-- The translation in `forward_chat_stream`: an error of the upstream ends the stream. -/
def forwardChatTranslation (model : String) (items : List (Except String Bytes)) :
    List (Except String Json) :=
  translateChunks model (fun e => [.error e]) [] items

/-- The stream of `forward_ollama_chat_via_openai`: an error ends it as if it were complete. -/
def forwardOllamaChatViaOpenai (model : String) (items : List (Except String Bytes)) :
    List (Except String Json) :=
  translateChunks model (fun _ => [.ok (ollamaDone model)]) [] items

/-- One line that is sent. -/
def ndjson (json : Json) : Bytes := utf8 (json.toText ++ "\n")

/-- All bytes of a stream, or its first error. -/
def wholeBody : List (Except String Bytes) → Except String Bytes
  | [] => .ok []
  | .error e :: _ => .error e
  | .ok chunk :: rest => (wholeBody rest).map (chunk ++ ·)

/-- The one Ollama object for an answer that is no stream. -/
def ollamaWhole (model createdAt : String) (body : Bytes) : Json :=
  let json := ((fromUtf8 body).bind Json.fromText).getD .null
  let content := ((((chunkChoices json).head?.bind (Json.get · "message")).bind
    (Json.get · "content")).bind Json.asStr).getD ""
  .obj [("created_at", .str createdAt), ("done", .bool true),
    ("message", .obj [("content", .str content), ("role", .str "assistant")]),
    ("model", .str model)]

/-- What `forward_chat_stream` yields of the upstream's answer, whose content type is `ct`. -/
def forwardedItems (backend : LlmBackend) (call : BackendCall) (ct createdAt : String)
    (items : List (Except String Bytes)) : List (Except String Bytes) :=
  if translatesOllamaChat backend call.path then
    if containsText "text/event-stream".toList ct.toList then
      (forwardChatTranslation call.model items).map (Except.map ndjson)
    else
      match wholeBody items with
      | .error e => [.error e]
      | .ok body => [.ok (utf8 (ollamaWhole call.model createdAt body).toText)]
  else items

/-! ## Token counts -/

/-- `parse_stream_line`. -/
def parseStreamLine (line : String) : Option Json :=
  let line := trim line
  if line = "" ∨ line = "[DONE]" ∨ line = "data: [DONE]" then none
  else Json.fromChars ((stripPrefix "data: ".toList line.toList).getD line.toList)

/-- `v.get(key).and_then(as_u64)`. -/
def countField (value : Json) (key : String) : Option Nat := (value.get key).bind Json.asU64

/-- The counts of an OpenAI `usage` record. -/
def usageRecord (usage : Json) : TokenUsage :=
  let prompt := (countField usage "prompt_tokens").getD 0 % 2 ^ 32
  let completion := (countField usage "completion_tokens").getD 0 % 2 ^ 32
  ⟨prompt, completion, (countField usage "total_tokens").getD (prompt + completion) % 2 ^ 32⟩

/-- The counts of the last line of an Ollama stream. -/
def ollamaCounts (value : Json) : Option TokenUsage :=
  if ((value.get "done").bind Json.asBool).getD false then
    let prompt := (countField value "prompt_eval_count").getD 0 % 2 ^ 32
    let completion := (countField value "eval_count").getD 0 % 2 ^ 32
    if prompt = 0 ∧ completion = 0 then none
    else some ⟨prompt, completion, (prompt + completion) % 2 ^ 32⟩
  else none

/-- `parse_usage_from_value`. -/
def parseUsageFromValue (value : Json) : Option TokenUsage :=
  match (value.get "usage").map usageRecord with
  | some usage =>
    if 0 < usage.promptTokens ∨ 0 < usage.completionTokens ∨ 0 < usage.totalTokens then some usage
    else ollamaCounts value
  | none => ollamaCounts value

/-- `parse_usage_from_buffer`: the last line that has counts. -/
def parseUsageFromBuffer (buffer : String) : Option TokenUsage :=
  (lines buffer).foldl (fun latest line =>
    ((parseStreamLine line).bind parseUsageFromValue).or latest) none

/-- The text of a stream, as it is accumulated: its chunks that are UTF-8, up to an error. -/
def streamText (items : List (Except String Bytes)) : String := String.ofList (readText (okItems items))

/-! ## Lines of JSON -/

/-- An object of texts and flags only: it is written on one line and read back. -/
def OneLine (json : Json) : Prop :=
  (∃ fields, json = .obj fields) ∧ json.Valid ∧ json.depth < Json.recursionLimit ∧
    '\n' ∉ Json.write json

theorem ollamaDelta_oneLine (model content : String) : OneLine (ollamaDelta model content) := by
  have text := Json.newline_notMem_writeString
  refine ⟨⟨_, rfl⟩, ?_, ?_, ?_⟩
  · simp +decide [ollamaDelta]
  · simp [ollamaDelta, Json.depth, Json.depth.depthFields, Json.recursionLimit]
  · simp [ollamaDelta, Json.write, Json.writeFields, text]

theorem ollamaDone_oneLine (model : String) : OneLine (ollamaDone model) := by
  have text := Json.newline_notMem_writeString
  refine ⟨⟨_, rfl⟩, ?_, ?_, ?_⟩
  · simp +decide [ollamaDone]
  · simp [ollamaDone, Json.depth, Json.depth.depthFields, Json.recursionLimit]
  · simp [ollamaDone, Json.write, Json.writeFields, text]

private theorem ollamaWhole_oneLine (model createdAt : String) (body : Bytes) :
    OneLine (ollamaWhole model createdAt body) := by
  have text := Json.newline_notMem_writeString
  refine ⟨⟨_, rfl⟩, ?_, ?_, ?_⟩
  · simp +decide [ollamaWhole]
  · simp [ollamaWhole, Json.depth, Json.depth.depthFields, Json.recursionLimit]
  · simp [ollamaWhole, Json.write, Json.writeFields, text]

/-- What was sent as lines of JSON, as text. -/
def ndjsonText (sent : List Json) : List Char := sent.flatMap fun json => Json.write json ++ ['\n']

private theorem write_last {json : Json} (one : OneLine json) : (Json.write json).getLast? = some '}' := by
  obtain ⟨⟨fields, rfl⟩, -⟩ := one
  obtain ⟨middle, braces⟩ := write_obj fields
  rw [braces, ← List.cons_append, List.getLast?_append_of_ne_nil _ (by simp)]
  rfl

/-- The lines a reader finds are those that were sent. -/
theorem lines_ndjsonText {sent : List Json} (all : ∀ json ∈ sent, OneLine json) :
    lines (String.ofList (ndjsonText sent)) = sent.map Json.toText := by
  have text : ndjsonText sent = (sent.map Json.write).flatMap (· ++ ['\n']) := by
    rw [ndjsonText, List.flatMap_map]
  have one : ∀ line ∈ sent.map Json.write, '\n' ∉ line := by
    simpa using fun json member => (all json member).2.2.2
  have plain : ∀ line ∈ sent.map Json.write, line.getLast? ≠ some '\r' := by
    intro line member
    obtain ⟨json, mine, rfl⟩ := List.mem_map.mp member
    rw [write_last (all json mine)]
    decide
  rw [text, lines_flatMap one plain, List.map_map]
  rfl

private theorem trimmed_json {json : Json} (one : OneLine json) : trim json.toText = json.toText := by
  obtain ⟨⟨fields, rfl⟩, -⟩ := one
  exact trim_of_trimmed (trimmed_obj fields)

/-- A line of JSON is read as the object that was sent. -/
theorem parseStreamLine_json {json : Json} (one : OneLine json) :
    parseStreamLine json.toText = some json := by
  have whole := trimmed_json one
  obtain ⟨⟨fields, rfl⟩, valid, deep, -⟩ := one
  obtain ⟨middle, braces⟩ := write_obj fields
  have chars : (Json.obj fields).toText.toList = '{' :: (middle ++ ['}']) := by
    rw [Json.toText, String.toList_ofList, braces]
  have front : ∀ text : String, text.toList.head? ≠ some '{' → (Json.obj fields).toText ≠ text := by
    rintro text other rfl
    rw [chars] at other
    exact other rfl
  have bare : ¬((Json.obj fields).toText = "" ∨ (Json.obj fields).toText = "[DONE]" ∨
      (Json.obj fields).toText = "data: [DONE]") := by
    simp only [not_or]
    exact ⟨front _ (by decide), front _ (by decide), front _ (by decide)⟩
  have stripped : stripPrefix "data: ".toList (Json.obj fields).toText.toList = none := by
    rw [chars]
    simp [stripPrefix]
  simp only [parseStreamLine, whole, if_neg bare, stripped, Option.getD_none]
  exact Json.fromText_toText _ valid deep

/-! ## What a translated stream carries -/

private theorem translateLines_oneLine (model : String) (texts : List (List Char)) :
    ∀ json ∈ (translateLines model texts).1, OneLine json ∧
      ((∃ content, json = ollamaDelta model content) ∨ json = ollamaDone model) := by
  induction texts with
  | nil => simp [translateLines]
  | cons text rest ih =>
    intro json member
    simp only [translateLines] at member
    split at member
    · obtain rfl := List.mem_singleton.mp member
      exact ⟨ollamaDone_oneLine model, .inr rfl⟩
    · rename_i content _
      rcases List.mem_cons.mp member with rfl | later
      · exact ⟨ollamaDelta_oneLine model content, .inl ⟨content, rfl⟩⟩
      · exact ih json later
    · exact ih json member

/-- The values before the first error. -/
def okJsons : List (Except String Json) → List Json
  | .ok json :: rest => json :: okJsons rest
  | _ => []

theorem okJsons_append (front : List Json) (rest : List (Except String Json)) :
    okJsons (front.map .ok ++ rest) = front ++ okJsons rest := by
  induction front with
  | nil => rfl
  | cons json front ih => simp [okJsons, ih]

theorem okItems_ndjson (sent : List (Except String Json)) :
    okItems (sent.map (Except.map ndjson)) = (okJsons sent).map ndjson := by
  induction sent with
  | nil => rfl
  | cons item rest ih =>
    cases item with
    | error e => rfl
    | ok json => simp [okItems, okJsons, Except.map, ih]

theorem readText_ndjson (sent : List Json) : readText (sent.map ndjson) = ndjsonText sent := by
  induction sent with
  | nil => rfl
  | cons json rest ih =>
    have one : ((fromUtf8 (ndjson json)).getD "").toList = Json.write json ++ ['\n'] := by
      simp [ndjson, Json.toText]
    rw [List.map_cons, show readText (ndjson json :: rest.map ndjson) =
      ((fromUtf8 (ndjson json)).getD "").toList ++ readText (rest.map ndjson) from rfl, one, ih]
    simp [ndjsonText]

/-- Everything a translator sends is a content line or a done line. -/
theorem translateChunks_oneLine (model : String) (buf : List Char) (items : List (Except String Bytes))
    {onError : String → List (Except String Json)}
    (last : ∀ e, ∀ json ∈ okJsons (onError e), json = ollamaDone model) :
    ∀ json ∈ okJsons (translateChunks model onError buf items), OneLine json ∧
      ((∃ content, json = ollamaDelta model content) ∨ json = ollamaDone model) := by
  induction items generalizing buf with
  | nil =>
    intro json member
    obtain rfl : json = ollamaDone model := by simpa [translateChunks, okJsons] using member
    exact ⟨ollamaDone_oneLine model, .inr rfl⟩
  | cons item rest ih =>
    intro json member
    cases item with
    | error e =>
      obtain rfl := last e json member
      exact ⟨ollamaDone_oneLine model, .inr rfl⟩
    | ok chunk =>
      simp only [translateChunks, okJsons_append, List.mem_append] at member
      rcases member with line | later
      · exact translateLines_oneLine model _ json line
      · split at later
        · cases later
        · exact ih _ json later

/-! ## Token counts of a translated stream -/

/-- Where no line has counts, the buffer has none. -/
private theorem parseUsageFromBuffer_none {buffer : String}
    (none_ : ∀ line ∈ lines buffer, (parseStreamLine line).bind parseUsageFromValue = none) :
    parseUsageFromBuffer buffer = none := by
  rw [parseUsageFromBuffer]
  generalize lines buffer = found at none_
  induction found with
  | nil => rfl
  | cons line rest ih =>
    rw [List.foldl_cons, none_ line List.mem_cons_self]
    exact ih fun other member => none_ other (List.mem_cons_of_mem line member)

/-- No line that is sent of a translated answer has counts. -/
theorem translated_uncounted {backend : LlmBackend} {call : BackendCall} (ct createdAt : String)
    (items : List (Except String Bytes))
    (translated : translatesOllamaChat backend call.path = true) :
    parseUsageFromBuffer (streamText (forwardedItems backend call ct createdAt items)) = none := by
  simp only [forwardedItems, translated, if_true]
  split
  · have each := translateChunks_oneLine call.model [] items
      (fun e json member => by simp [okJsons] at member :
        ∀ e, ∀ json ∈ okJsons [.error e], json = ollamaDone call.model)
    refine parseUsageFromBuffer_none ?_
    intro line member
    rw [forwardChatTranslation, streamText, okItems_ndjson, readText_ndjson,
      lines_ndjsonText fun json mine => (each json mine).1] at member
    obtain ⟨json, mine, rfl⟩ := List.mem_map.mp member
    obtain ⟨one, kind⟩ := each json mine
    rw [parseStreamLine_json one]
    rcases kind with ⟨content, rfl⟩ | rfl
    · rfl
    · rfl
  · split
    · exact parseUsageFromBuffer_none (by simp [streamText, okItems, readText, lines, cutLines])
    · rename_i body _
      have one := ollamaWhole_oneLine call.model createdAt body
      refine parseUsageFromBuffer_none ?_
      intro line member
      have text : streamText [.ok (utf8 (ollamaWhole call.model createdAt body).toText)] =
          (ollamaWhole call.model createdAt body).toText := by
        simp [streamText, okItems, readText]
      have cut : cutLines (ollamaWhole call.model createdAt body).toText.toList =
          ([], (ollamaWhole call.model createdAt body).toText.toList) :=
        cutLines_rest (by simpa [Json.toText] using one.2.2.2)
      rw [text, lines, cut] at member
      have same : line = (ollamaWhole call.model createdAt body).toText := by
        simp only [List.map_nil, List.nil_append] at member
        split at member
        · simp at member
        · simpa using member
      rw [same, parseStreamLine_json one]
      rfl

/-- The token counts of an answer come through exactly when the answer is not
translated. -/
theorem usage_kept_iff (backend : LlmBackend) (call : BackendCall) (ct createdAt : String)
    (items : List (Except String Bytes)) {usage : TokenUsage}
    (carried : parseUsageFromBuffer (streamText items) = some usage) :
    parseUsageFromBuffer (streamText (forwardedItems backend call ct createdAt items)) =
        parseUsageFromBuffer (streamText items) ↔
      translatesOllamaChat backend call.path = false := by
  constructor
  · intro same
    by_contra translated
    rw [translated_uncounted ct createdAt items (by simpa using translated), carried] at same
    cases same
  · intro plain
    rw [forwardedItems, plain]
    rfl

/-- A backend that speaks the OpenAI dialect, and a call of Ollama's chat. -/
private def openAiBackend : LlmBackend := .fromServerEntry .openAiCompat "http://127.0.0.1:8080"

private def ollamaChatCall : BackendCall := ⟨"/api/chat", .obj [], "llama3"⟩

/-- The upstream's last chunk, with counts and no choices. -/
private def usageChunk : Json :=
  .obj [("choices", .arr []), ("usage", .obj [("completion_tokens", .num (.int 15)),
    ("prompt_tokens", .num (.int 5)), ("total_tokens", .num (.int 20))])]

private def usageItems : List (Except String Bytes) := [.ok (ndjson usageChunk)]

private theorem usageItems_carried :
    parseUsageFromBuffer (streamText usageItems) = some ⟨5, 15, 20⟩ := by
  have one : OneLine usageChunk := by
    refine ⟨⟨_, rfl⟩, ?_, ?_, ?_⟩
    · simp +decide [usageChunk, Json.Valid, Number.Valid]
    · simp [usageChunk, Json.depth, Json.depth.depthFields, Json.depth.depthItems, Json.recursionLimit]
    · decide
  have text : streamText usageItems = String.ofList (ndjsonText [usageChunk]) := by
    rw [streamText, show usageItems = [.ok (ndjson usageChunk)] from rfl]
    exact congrArg String.ofList (readText_ndjson [usageChunk])
  rw [text, parseUsageFromBuffer, lines_ndjsonText (by simpa using one), List.map_singleton,
    List.foldl_cons, parseStreamLine_json one]
  decide

theorem usage_kept_iff_sample :
    parseUsageFromBuffer (streamText usageItems) = some ⟨5, 15, 20⟩ ∧
      (parseUsageFromBuffer (streamText
          (forwardedItems openAiBackend ollamaChatCall "text/event-stream" "now" usageItems)) =
        parseUsageFromBuffer (streamText usageItems) ↔
          translatesOllamaChat openAiBackend ollamaChatCall.path = false) :=
  ⟨usageItems_carried, usage_kept_iff openAiBackend ollamaChatCall "text/event-stream" "now"
    usageItems usageItems_carried⟩

/-- The counts of an upstream are gone once its answer was translated. -/
theorem translated_usage_lost :
    parseUsageFromBuffer (streamText usageItems) = some ⟨5, 15, 20⟩ ∧
      parseUsageFromBuffer (streamText
        (forwardedItems openAiBackend ollamaChatCall "text/event-stream" "now" usageItems)) ≠
          parseUsageFromBuffer (streamText usageItems) := by
  refine ⟨usageItems_carried, ?_⟩
  rw [translated_uncounted "text/event-stream" "now" usageItems (by decide), usageItems_carried]
  simp

end MtrxPeer
