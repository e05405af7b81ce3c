import MtrxPeer.Bytes
import MtrxPeer.JsonReading

/-! The rewriting of answers for agent clients: a call of a tool that a model wrote
as text becomes a structured call, in a whole answer and in a stream of events. -/
namespace MtrxPeer

/-! ## Text -/

/-- `str::trim_start`. -/
def trimStart (text : List Char) : List Char := text.dropWhile isWhitespace

/-- `str::trim_end`. -/
def trimEnd (text : List Char) : List Char := (text.reverse.dropWhile isWhitespace).reverse

/-- `str::strip_prefix`. -/
def stripPrefix (front text : List Char) : Option (List Char) :=
  if front.isPrefixOf text then some (text.drop front.length) else none

/-- `str::trim_start_matches`, with at most `fuel` matches. -/
def trimStartMatchesFuel : (fuel : Nat) → (front text : List Char) → List Char
  | 0, _, text => text
  | fuel + 1, front, text =>
    match stripPrefix front text with
    | some rest => trimStartMatchesFuel fuel front rest
    | none => text

/-- `str::trim_start_matches`, of a pattern that is not empty. -/
def trimStartMatches (front text : List Char) : List Char :=
  trimStartMatchesFuel text.length front text

/-- `str::trim_end_matches`. -/
def trimEndMatches (back text : List Char) : List Char :=
  (trimStartMatches back.reverse text.reverse).reverse

/-- `str::contains`. -/
def containsText (part : List Char) : List Char → Bool
  | [] => part.isEmpty
  | c :: rest => part.isPrefixOf (c :: rest) || containsText part rest

/-- `&s[..n]`, which fails inside a character. -/
def takeBytes : (n : Nat) → List Char → Option (List Char)
  | 0, _ => some []
  | _ + 1, [] => none
  | n + 1, c :: rest =>
    if c.utf8Size ≤ n + 1 then (takeBytes (n + 1 - c.utf8Size) rest).map (c :: ·) else none

/-- `truncate_preview`; nothing when the cut falls inside a character, where the
program panics. -/
def truncatePreview (s : String) (max : Nat) : Option String :=
  if s.utf8ByteSize ≤ max then some s
  else (takeBytes max s.toList).map fun front => String.ofList front ++ "…"

/-! ## Calls of tools -/

/-- What is drawn from outside while one line or one answer is handled: fresh
identifiers, in the order of their use, and the clock. -/
structure Ambient where
  uuid : Nat → String
  unixNowSecs : UInt64

def toolCallEntry (ambient : Ambient) (draw index : Nat) (name : String) (args : Json) : Json :=
  let argsStr := match args with
    | .str text => text
    | other => other.toText
  .obj [
    ("function", .obj [("arguments", .str argsStr), ("name", .str name)]),
    ("id", .str ("call_" ++ ambient.uuid draw)),
    ("index", Json.ofNat index),
    ("type", .str "function")]

/-- The calls an array holds, each with its place in the array. -/
def arrayCalls (ambient : Ambient) : (draw i : Nat) → List Json → List Json
  | _, _, [] => []
  | draw, i, item :: rest =>
    match item with
    | .obj map =>
      match (map.lookup "name").bind Json.asStr with
      | some name =>
        toolCallEntry ambient draw i name ((map.lookup "arguments").getD (.obj [])) ::
          arrayCalls ambient (draw + 1) (i + 1) rest
      | none => arrayCalls ambient draw (i + 1) rest
    | _ => arrayCalls ambient draw (i + 1) rest

/-- `value_to_tool_calls`: the entries of the array it returns. -/
def valueToToolCalls (ambient : Ambient) (v : Json) : Option (List Json) :=
  match v with
  | .obj map =>
    match (map.lookup "name").bind Json.asStr with
    | some name =>
      some [toolCallEntry ambient 0 0 name ((map.lookup "arguments").getD (.obj []))]
    | none => none
  | .arr items =>
    match arrayCalls ambient 0 0 items with
    | [] => none
    | calls => some calls
  | _ => none

/-- The text up to the brace that closes the first one, outside of strings. -/
def balancedPrefix : (depth : Nat) → (inString escape : Bool) → List Char → Option (List Char)
  | _, _, _, [] => none
  | depth, true, true, ch :: rest => (balancedPrefix depth true false rest).map (ch :: ·)
  | depth, true, false, ch :: rest =>
    if ch = '\\' then (balancedPrefix depth true true rest).map (ch :: ·)
    else if ch = '"' then (balancedPrefix depth false false rest).map (ch :: ·)
    else (balancedPrefix depth true false rest).map (ch :: ·)
  | depth, false, _, ch :: rest =>
    if ch = '"' then (balancedPrefix depth true false rest).map (ch :: ·)
    else if ch = '{' then (balancedPrefix (depth + 1) false false rest).map (ch :: ·)
    else if ch = '}' then
      if depth = 0 then none
      else if depth = 1 then some [ch]
      else (balancedPrefix (depth - 1) false false rest).map (ch :: ·)
    else (balancedPrefix depth false false rest).map (ch :: ·)

/-- `extract_balanced_json_object`. -/
def extractBalancedJsonObject (s : List Char) : Option (List Char) :=
  match trimStart s with
  | '{' :: rest => balancedPrefix 0 false false ('{' :: rest)
  | _ => none

/-- `parse_tool_calls_json`. -/
def parseToolCallsJson (ambient : Ambient) (raw : List Char) : Option (List Json) :=
  match (Json.fromChars raw).bind (valueToToolCalls ambient) with
  | some calls => some calls
  | none =>
    ((extractBalancedJsonObject raw).bind Json.fromChars).bind (valueToToolCalls ambient)

/-- The text inside a code fence. -/
def fencedInside (trimmed : List Char) : List Char :=
  (trim (String.ofList (trimEndMatches "```".toList
    (trimStartMatches "```".toList (trimStartMatches "```json".toList trimmed))))).toList

/-- `text_content_to_tool_calls`: the whole text, the inside of a fence, and the
text from the first brace are tried in turn. -/
def textContentToToolCalls (ambient : Ambient) (content : String) : Option (List Json) :=
  let trimmed := (trim content).toList
  if trimmed = [] then none
  else match parseToolCallsJson ambient trimmed with
    | some calls => some calls
    | none =>
      match (if "```".toList.isPrefixOf trimmed then
          parseToolCallsJson ambient (fencedInside trimmed) else none) with
      | some calls => some calls
      | none =>
        match trimmed.dropWhile (· ≠ '{') with
        | [] => none
        | found => parseToolCallsJson ambient found

/-! ## Whole answers -/

/-- `AgentResponseSummary`. -/
structure AgentResponseSummary where
  hadStructuredToolCalls : Bool
  rewroteTextToolCall : Bool
  finishReason : Option String
  contentPreview : Option String
  deriving DecidableEq, Repr

/-- `message_text_content`. -/
def messageTextContent (message : Json) : String :=
  match message.get "content" with
  | some (.str s) => s
  | some (.arr parts) =>
    String.join (parts.filterMap fun part =>
      if (part.get "type").bind Json.asStr = some "text" then (part.get "text").bind Json.asStr
      else part.asStr)
  | _ => ""

/-- A list of calls that is there and not empty. -/
def hasToolCalls (message : Json) : Bool :=
  match (message.get "tool_calls").bind Json.asArray with
  | some (_ :: _) => true
  | _ => false

/-- `rewrite_chat_response`; nothing where the program panics. -/
def rewriteChatResponse (ambient : Ambient) (body : Json) : Option (Json × AgentResponseSummary) :=
  let summary : AgentResponseSummary := ⟨false, false, none, none⟩
  match (body.get "choices").bind Json.asArray with
  | some (choice :: rest) =>
    let summary := { summary with finishReason := (choice.get "finish_reason").bind Json.asStr }
    match choice.get "message" with
    | none => some (body, summary)
    | some message =>
      if hasToolCalls message then some (body, { summary with hadStructuredToolCalls := true })
      else
        let content := messageTextContent message
        match truncatePreview content 200 with
        | none => none
        | some preview =>
          let summary := { summary with contentPreview := some preview }
          match textContentToToolCalls ambient content with
          | some toolCalls =>
            let message := (message.insert "content" .null).insert "tool_calls" (.arr toolCalls)
            let choice := (choice.insert "message" message).insert "finish_reason"
              (.str "tool_calls")
            some (body.insert "choices" (.arr (choice :: rest)),
              { summary with rewroteTextToolCall := true, hadStructuredToolCalls := true })
          | none => some (body, summary)
  | _ => some (body, summary)

/-! ## Streams -/

/-- `AgentResponseFormat`. -/
inductive AgentResponseFormat where
  | chatCompletions
  | responsesApi
  deriving DecidableEq, Repr

/-- `StreamChunkMeta`. -/
structure StreamChunkMeta where
  id : Option String
  model : Option String
  created : Option UInt64
  deriving DecidableEq, Repr

/-- `SseTransformState`. -/
structure SseTransformState where
  accumulated : String
  suppressContent : Bool
  lastSummary : Option AgentResponseSummary
  responseFormat : AgentResponseFormat
  streamMeta : StreamChunkMeta
  deriving DecidableEq, Repr

/-- `SseTransformState::with_response_format`. -/
def SseTransformState.withResponseFormat (format : AgentResponseFormat) : SseTransformState :=
  ⟨"", false, none, format, ⟨none, none, none⟩⟩

/-- `normalize_sse_data_line`. -/
def normalizeSseDataLine (line : String) : Option String :=
  let trimmed := trim line
  if trimmed = "" then none
  else if trimmed = "[DONE]" then some "data: [DONE]"
  else match stripPrefix "data:".toList trimmed.toList with
    | some payload =>
      let payload := trim (String.ofList payload)
      if payload = "[DONE]" then some "data: [DONE]" else some ("data: " ++ payload)
    | none =>
      if ['{'].isPrefixOf trimmed.toList && containsText "\"choices\"".toList trimmed.toList then
        some ("data: " ++ trimmed)
      else none

/-- `normalized.trim_start_matches("data:").trim()`. -/
def linePayload (normalized : String) : String :=
  trim (String.ofList (trimStartMatches "data:".toList normalized.toList))

/-- `format!("data: {}", json)`. -/
def dataLine (json : Json) : String := "data: " ++ json.toText

/-- `capture_stream_meta`. -/
def captureStreamMeta (state : SseTransformState) (chunk : Json) : SseTransformState :=
  if state.streamMeta.id.isSome then state
  else
    { state with
      streamMeta :=
        ⟨(chunk.get "id").bind Json.asStr,
          ((chunk.get "model").bind Json.asStr).or state.streamMeta.model,
          (((chunk.get "created").bind Json.asU64).map UInt64.ofNat).or state.streamMeta.created⟩ }

/-- `chat_stream_chunk`. -/
def chatStreamChunk (ambient : Ambient) (state : SseTransformState) (choices : Json) : Json :=
  .obj [
    ("choices", choices),
    ("created", Json.ofNat (state.streamMeta.created.getD ambient.unixNowSecs).toNat),
    ("id", .str (state.streamMeta.id.getD "chatcmpl-mtrxAI")),
    ("model", .str (state.streamMeta.model.getD "unknown")),
    ("object", .str "chat.completion.chunk")]

/-- The one choice of a chunk that is made here. -/
def chunkChoice (delta finishReason : Json) : Json :=
  .arr [.obj [("delta", delta), ("finish_reason", finishReason), ("index", Json.ofNat 0)]]

/-- What is read back of a call: its index, identifier, name and arguments. -/
structure ToolCallFields where
  index : Nat
  id : String
  name : String
  args : String
  deriving DecidableEq, Repr

def toolCallFields (tc : Json) : ToolCallFields where
  index := ((tc.get "index").bind Json.asU64).getD 0
  id := ((tc.get "id").bind Json.asStr).getD "call_unknown"
  name := (((tc.get "function").bind (Json.get · "name")).bind Json.asStr).getD ""
  args := (((tc.get "function").bind (Json.get · "arguments")).bind Json.asStr).getD "\x7b\x7d"

/-- The delta that opens a call. -/
def callDelta (call : ToolCallFields) : Json :=
  .obj [("tool_calls", .arr [.obj [
    ("function", .obj [("arguments", .str ""), ("name", .str call.name)]),
    ("id", .str call.id), ("index", Json.ofNat call.index), ("type", .str "function")]])]

/-- The delta that carries its arguments. -/
def argumentsDelta (call : ToolCallFields) : Json :=
  .obj [("tool_calls", .arr [.obj [
    ("function", .obj [("arguments", .str call.args)]), ("index", Json.ofNat call.index)]])]

/-- `responses_stream_from_tool_calls`: the events of one call. -/
def responsesCallEvents (i : Nat) (call : ToolCallFields) : List Json :=
  [.obj [
      ("item", .obj [("arguments", .str ""), ("call_id", .str call.id), ("name", .str call.name),
        ("type", .str "function_call")]),
      ("output_index", Json.ofNat (i % 2 ^ 64)),
      ("type", .str "response.output_item.added")],
    .obj [("arguments", .str call.args), ("call_id", .str call.id), ("name", .str call.name),
      ("type", .str "response.function_call_arguments.done")]]

/-- The output item of one call. -/
def responsesCallItem (call : ToolCallFields) : Json :=
  .obj [("arguments", .str call.args), ("call_id", .str call.id), ("name", .str call.name),
    ("status", .str "completed"), ("type", .str "function_call")]

/-- `responses_stream_from_tool_calls`; the calls have drawn their identifiers before. -/
def responsesStreamFromToolCalls (ambient : Ambient) (toolCalls : List Json) : List Json :=
  let calls := toolCalls.map toolCallFields
  calls.zipIdx.flatMap (fun (call, i) => responsesCallEvents i call) ++
    [.obj [
      ("response", .obj [
        ("id", .str ("resp_" ++ ambient.uuid toolCalls.length)),
        ("object", .str "response"),
        ("output", .arr (calls.map responsesCallItem)),
        ("status", .str "completed")]),
      ("type", .str "response.completed")]]

/-- The events of one call in the chat format. -/
def chatCallEvents (ambient : Ambient) (state : SseTransformState) (call : ToolCallFields) :
    List Json :=
  chatStreamChunk ambient state (chunkChoice (callDelta call) .null) ::
    if call.args = "" then []
    else [chatStreamChunk ambient state (chunkChoice (argumentsDelta call) .null)]

/-- `streaming_tool_call_sse_lines`: the values behind the `data:` of each line. -/
def streamingToolCallEvents (ambient : Ambient) (state : SseTransformState)
    (toolCalls : List Json) : List Json :=
  if state.responseFormat = .responsesApi then responsesStreamFromToolCalls ambient toolCalls
  else
    chatStreamChunk ambient state (chunkChoice (.obj [("role", .str "assistant")]) .null) ::
      (toolCalls.map toolCallFields).flatMap (chatCallEvents ambient state) ++
      [chatStreamChunk ambient state (chunkChoice (.obj []) (.str "tool_calls"))]

def streamingToolCallSseLines (ambient : Ambient) (state : SseTransformState)
    (toolCalls : List Json) : List String :=
  (streamingToolCallEvents ambient state toolCalls).map dataLine

/-- `complete_suppressed`; nothing where the program panics. -/
def completeSuppressed (ambient : Ambient) (state : SseTransformState) :
    Option (SseTransformState × List String) :=
  let state := { state with suppressContent := false }
  match truncatePreview state.accumulated 200 with
  | none => none
  | some preview =>
    match textContentToToolCalls ambient state.accumulated with
    | some toolCalls =>
      let state := { state with
        lastSummary := some ⟨true, true, some "tool_calls", some preview⟩
        accumulated := "" }
      some (state, streamingToolCallSseLines ambient state toolCalls)
    | none =>
      let state := { state with
        lastSummary := some ⟨false, false, some "stop", some preview⟩
        accumulated := "" }
      some (state, [dataLine (chatStreamChunk ambient state
        (chunkChoice (.obj [("content", .null)]) (.str "stop")))])

/-- The part of `process_line` after the structured calls: the first choice of a
chunk, with the line it came in. -/
def processDelta (ambient : Ambient) (state : SseTransformState) (normalized : String)
    (chunk choice : Json) (rest : List Json) : Option (SseTransformState × List String) :=
  let piece := (((choice.get "delta").bind (Json.get · "content")).bind Json.asStr).getD ""
  let finish := ((choice.get "finish_reason").bind Json.asStr).getD ""
  if piece ≠ "" ∧ state.suppressContent then
    some ({ state with accumulated := state.accumulated ++ piece }, [])
  else if ['{'].isPrefixOf (trimStart piece.toList) then
    some ({ state with suppressContent := true, accumulated := state.accumulated ++ piece }, [])
  else if '{' ∈ piece.toList then
    let before := piece.toList.takeWhile (· ≠ '{')
    let jsonPart := piece.toList.dropWhile (· ≠ '{')
    let choice := choice.insert "delta" (.obj [("content", .str (String.ofList before))])
    some ({ state with
        suppressContent := true
        accumulated := state.accumulated ++ String.ofList jsonPart },
      if before = [] then [] else [dataLine (chunk.insert "choices" (.arr (choice :: rest)))])
  else if (finish = "stop" ∨ finish = "length") ∧ state.suppressContent then
    completeSuppressed ambient state
  else some (state, [normalized])

/-- `process_line` of a chunk that was read. -/
def processChunk (ambient : Ambient) (state : SseTransformState) (normalized : String)
    (chunk : Json) : Option (SseTransformState × List String) :=
  let state := captureStreamMeta state chunk
  match (chunk.get "choices").bind Json.asArray with
  | some (choice :: rest) =>
    if ((choice.get "delta").map hasToolCalls).getD false then
      some ({ state with
          lastSummary :=
            some ⟨true, false, (choice.get "finish_reason").bind Json.asStr, none⟩ },
        [dataLine chunk])
    else processDelta ambient state normalized chunk choice rest
  | _ => some (state, [normalized])

/-- The output item of a text. -/
def responsesMessageItem (text : String) : Json :=
  .obj [
    ("content", .arr [.obj [("text", .str text), ("type", .str "output_text")]]),
    ("role", .str "assistant"),
    ("type", .str "message")]

/-- The output items of a message: its text, if it has one, and its calls. -/
def responsesItems (message : Json) : List Json :=
  let text := messageTextContent message
  (if text = "" then [] else [responsesMessageItem text]) ++
    (((message.get "tool_calls").bind Json.asArray).getD []).map fun tc =>
      responsesCallItem (toolCallFields tc)

/-- `chat_completion_to_responses`, with draws of its own. -/
def chatCompletionToResponses (ambient : Ambient) (body : Json) : Json :=
  let message := (((body.get "choices").bind Json.asArray).bind List.head?).bind (Json.get · "message")
  .obj [
    ("created_at", Json.ofNat ambient.unixNowSecs.toNat),
    ("id", .str ("resp_" ++ ambient.uuid 0)),
    ("model", (body.get "model").getD .null),
    ("object", .str "response"),
    ("output", .arr ((message.map responsesItems).getD [])),
    ("status", .str "completed")]

/-- The chunk that `flush_on_stream_end` feeds in. -/
def syntheticStop : Json :=
  .obj [("choices", .arr [.obj [("delta", .obj []), ("finish_reason", .str "stop")]])]

/-- `process_line` of a line that is not the end mark. -/
def processData (ambient : Ambient) (state : SseTransformState) (normalized : String) :
    Option (SseTransformState × List String) :=
  match Json.fromText (linePayload normalized) with
  | none => some (state, [normalized])
  | some chunk => processChunk ambient state normalized chunk

theorem processData_unread {ambient : Ambient} {state : SseTransformState} {normalized : String}
    (unread : Json.fromText (linePayload normalized) = none) :
    processData ambient state normalized = some (state, [normalized]) := by
  delta processData
  rw [unread]

theorem processData_read {ambient : Ambient} {state : SseTransformState} {normalized : String}
    {chunk : Json} (read : Json.fromText (linePayload normalized) = some chunk) :
    processData ambient state normalized = processChunk ambient state normalized chunk := by
  delta processData
  rw [read]

/-- `flush_on_stream_end`. -/
def flushOnStreamEnd (ambient : Ambient) (state : SseTransformState) :
    Option (SseTransformState × List String) :=
  if state.suppressContent = false ∨ state.accumulated = "" then some (state, [])
  else match normalizeSseDataLine (dataLine syntheticStop) with
    -- this line goes through `process_line` too, and is not the end mark
    | some normalized => processData ambient state normalized
    | none => some (state, [dataLine syntheticStop])

/-- `SseTransformState::process_line`; nothing where the program panics. -/
def processLine (ambient : Ambient) (state : SseTransformState) (line : String) :
    Option (SseTransformState × List String) :=
  match normalizeSseDataLine line with
  | none => some (state, [line])
  | some normalized =>
    if normalized = "data: [DONE]" then
      (flushOnStreamEnd ambient state).map fun (state, out) => (state, out ++ ["data: [DONE]"])
    else processData ambient state normalized

/-- `finalize_stream`. -/
def finalizeStream (ambient : Ambient) (state : SseTransformState) (doneSent : Bool) :
    Option (SseTransformState × List String) :=
  (flushOnStreamEnd ambient state).map fun (state, out) =>
    let alreadyDone := doneSent || out.any fun line => trim line = "data: [DONE]"
    (state, if alreadyDone then out else out ++ ["data: [DONE]"])

/-- The lines of a stream, one after another; each has its own draws. -/
def processLines (ambients : Nat → Ambient) (state : SseTransformState) :
    List String → Option (SseTransformState × List String)
  | [] => some (state, [])
  | line :: rest =>
    match processLine (ambients rest.length) state line with
    | none => none
    | some (state, out) =>
      (processLines ambients state rest).map fun (state, more) => (state, out ++ more)

end MtrxPeer
