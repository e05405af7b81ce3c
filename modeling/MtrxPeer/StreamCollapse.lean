import MtrxPeer.OllamaStream

/-! A stream collapsed into one completion. The calls of the completion are those of the last
delta that has any, so a call that is spread over several deltas loses what came before. -/
namespace MtrxPeer

/-! ## Collapsing -/

/-- `sse_payload_from_line`. -/
def ssePayloadFromLine (line : String) : Option String :=
  let trimmed := trim line
  match stripPrefix "data:".toList trimmed.toList with
  | some payload => some (trim (String.ofList payload))
  | none =>
    if ['{'].isPrefixOf trimmed.toList && containsText "\"choices\"".toList trimmed.toList then
      some trimmed
    else none

/-- What `sse_bytes_to_completion` keeps from line to line. -/
structure CollapsedStream where
  accumulated : String
  toolCalls : Option Json
  finish : String

namespace CollapsedStream

def start : CollapsedStream := ⟨"", none, "stop"⟩

/-- The calls of a delta replace those before; its content is added. -/
def takeDelta (stream : CollapsedStream) (delta : Json) : CollapsedStream where
  accumulated := stream.accumulated ++ ((delta.get "content").bind Json.asStr).getD ""
  toolCalls := (delta.get "tool_calls").or stream.toolCalls
  finish := stream.finish

def takeFinish (stream : CollapsedStream) (reason : Option String) : CollapsedStream :=
  match reason with
  | some reason => if reason = "" then stream else { stream with finish := reason }
  | none => stream

def takeChoice (stream : CollapsedStream) (choice : Json) : CollapsedStream :=
  (match choice.get "delta" with
    | some delta => stream.takeDelta delta
    | none => stream).takeFinish ((choice.get "finish_reason").bind Json.asStr)

def takeChunk (stream : CollapsedStream) (chunk : Json) : CollapsedStream :=
  match (chunkChoices chunk).head? with
  | some choice => stream.takeChoice choice
  | none => stream

def takeLine (stream : CollapsedStream) (line : String) : CollapsedStream :=
  match ssePayloadFromLine line with
  | none => stream
  | some payload =>
    if payload = "[DONE]" then stream
    else match Json.fromText payload with
      | some chunk => stream.takeChunk chunk
      | none => stream

def completion (stream : CollapsedStream) : Json :=
  let message : Json := match stream.toolCalls with
    | some calls =>
      .obj [("content", .null), ("role", .str "assistant"), ("tool_calls", calls)]
    | none => .obj [("content", .str stream.accumulated), ("role", .str "assistant")]
  .obj [("choices", .arr [.obj [("finish_reason", .str stream.finish), ("message", message)]])]

end CollapsedStream

/-- `sse_bytes_to_completion`. -/
def sseBytesToCompletion (sse : String) : Json :=
  ((lines sse).foldl CollapsedStream.takeLine .start).completion

/-! ## The calls of a stream -/

/-- The chunk a line carries. -/
def payloadChunk (line : String) : Option Json :=
  match ssePayloadFromLine line with
  | none => none
  | some payload => if payload = "[DONE]" then none else Json.fromText payload

/-- What the deltas of chunks have as their calls. -/
def deltaCalls (chunks : List Json) : List Json :=
  chunks.filterMap fun chunk =>
    ((chunkChoices chunk).head?.bind (Json.get · "delta")).bind (Json.get · "tool_calls")

/-- A call as it is read: the identifier and the name if they are there, and the arguments. -/
structure ReadCall where
  id : Option String
  name : Option String
  args : String
  deriving DecidableEq

/-- A fragment of the call with an index. -/
structure CallFragment where
  index : Nat
  call : ReadCall
  deriving DecidableEq

def callFragment (tc : Json) : CallFragment where
  index := ((tc.get "index").bind Json.asU64).getD 0
  call := {
    id := (tc.get "id").bind Json.asStr
    name := ((tc.get "function").bind (Json.get · "name")).bind Json.asStr
    args := (((tc.get "function").bind (Json.get · "arguments")).bind Json.asStr).getD "" }

def callFragments (toolCalls : Json) : List CallFragment :=
  (toolCalls.asArray.getD []).map callFragment

/-- The calls of a completion. -/
def completionCalls (completion : Json) : List ReadCall :=
  ((((chunkChoices completion).head?.bind (Json.get · "message")).bind (Json.get · "tool_calls")).map
    fun toolCalls => (callFragments toolCalls).map CallFragment.call).getD []

/-- The calls of the deltas of a text, one for each delta that has any. -/
def streamDeltas (sse : String) : List Json := deltaCalls ((lines sse).filterMap payloadChunk)

/-- The fragments of a text, in order. -/
def streamFragments (sse : String) : List CallFragment := (streamDeltas sse).flatMap callFragments

/-- A fragment goes on with the arguments of the call with its index, or opens a call. -/
def addFragment (calls : List CallFragment) (fragment : CallFragment) : List CallFragment :=
  if fragment.index ∈ calls.map CallFragment.index then
    calls.map fun open_ =>
      if open_.index = fragment.index then
        { open_ with call := { open_.call with args := open_.call.args ++ fragment.call.args } }
      else open_
  else calls ++ [fragment]

/-- All fragments of a text, assembled. -/
def assembledCalls (sse : String) : List ReadCall :=
  ((streamFragments sse).foldl addFragment []).map CallFragment.call

/-- Fragments as they are streamed: the first of an index has an identifier and a name, the
others only go on with the arguments. -/
def StreamedFragments : (known : List Nat) → List CallFragment → Prop
  | _, [] => True
  | known, fragment :: rest =>
    if fragment.index ∈ known then
      fragment.call.id = none ∧ fragment.call.name = none ∧ StreamedFragments known rest
    else
      fragment.call.id ≠ none ∧ fragment.call.name ≠ none ∧
        StreamedFragments (known ++ [fragment.index]) rest

/-- No call is spread: only the last delta with calls has any, and each of them is opened there. -/
def Unspread (sse : String) : Prop :=
  (∀ toolCalls ∈ (streamDeltas sse).dropLast, callFragments toolCalls = []) ∧
    ∀ fragment ∈ streamFragments sse, fragment.call.id ≠ none

/-! ## What is left of the calls -/

theorem takeLine_payload (stream : CollapsedStream) (line : String) :
    stream.takeLine line = match payloadChunk line with
      | some chunk => stream.takeChunk chunk
      | none => stream := by
  unfold CollapsedStream.takeLine payloadChunk
  cases ssePayloadFromLine line with
  | none => rfl
  | some payload =>
    by_cases done : payload = "[DONE]"
    · simp only [done, if_true]
    · simp only [done, if_false]

private theorem takeChunk_toolCalls (stream : CollapsedStream) (chunk : Json) :
    (stream.takeChunk chunk).toolCalls =
      (((chunkChoices chunk).head?.bind (Json.get · "delta")).bind (Json.get · "tool_calls")).or
        stream.toolCalls := by
  have finish : ∀ (stream : CollapsedStream) reason,
      (stream.takeFinish reason).toolCalls = stream.toolCalls := by
    intro stream reason
    unfold CollapsedStream.takeFinish
    split
    · split <;> rfl
    · rfl
  unfold CollapsedStream.takeChunk
  cases (chunkChoices chunk).head? with
  | none => rfl
  | some choice =>
    simp only [CollapsedStream.takeChoice, finish, Option.bind_some]
    cases choice.get "delta" <;> rfl

/-- The calls that are kept are those of the last delta that has any. -/
theorem foldl_takeLine_toolCalls (sseLines : List String) (stream : CollapsedStream) :
    (sseLines.foldl CollapsedStream.takeLine stream).toolCalls =
      (deltaCalls (sseLines.filterMap payloadChunk)).getLast?.or stream.toolCalls := by
  induction sseLines generalizing stream with
  | nil => rfl
  | cons line rest ih =>
    rw [List.foldl_cons, ih, takeLine_payload, List.filterMap_cons]
    cases payloadChunk line with
    | none => rfl
    | some chunk =>
      simp only [takeChunk_toolCalls]
      rw [deltaCalls, deltaCalls, List.filterMap_cons]
      cases ((chunkChoices chunk).head?.bind (Json.get · "delta")).bind (Json.get · "tool_calls") with
      | none => rfl
      | some calls =>
        simp only [Option.some_or]
        rw [List.getLast?_cons]
        cases (List.filterMap _ (rest.filterMap payloadChunk)).getLast? <;> rfl

/-- The calls of the completion are those of the last delta. -/
theorem completionCalls_collapsed (sse : String) :
    completionCalls (sseBytesToCompletion sse) =
      (((streamDeltas sse).getLast?.map callFragments).getD []).map CallFragment.call := by
  have kept := foldl_takeLine_toolCalls (lines sse) .start
  rw [show CollapsedStream.start.toolCalls = none from rfl, Option.or_none] at kept
  have whole : ∀ stream : CollapsedStream, completionCalls stream.completion =
      ((stream.toolCalls.map callFragments).getD []).map CallFragment.call := by
    rintro ⟨accumulated, toolCalls, finish⟩
    cases toolCalls <;> rfl
  rw [sseBytesToCompletion, whole, kept, streamDeltas]

/-! ## Assembling -/

private theorem addFragment_known {calls : List CallFragment} {fragment : CallFragment}
    (known : fragment.index ∈ calls.map CallFragment.index) :
    (addFragment calls fragment).map CallFragment.index = calls.map CallFragment.index ∧
      (addFragment calls fragment).map (·.call.id) = calls.map (·.call.id) := by
  rw [addFragment, if_pos known]
  refine ⟨?_, ?_⟩
  · rw [List.map_map]
    apply List.map_congr_left
    intro open_ _
    simp only [Function.comp_apply]
    split <;> rfl
  · rw [List.map_map]
    apply List.map_congr_left
    intro open_ _
    simp only [Function.comp_apply]
    split <;> rfl

private theorem addFragment_fresh {calls : List CallFragment} {fragment : CallFragment}
    (fresh : fragment.index ∉ calls.map CallFragment.index) :
    addFragment calls fragment = calls ++ [fragment] :=
  if_neg fresh

/-- The identifiers of the assembled calls are those of the fragments that open one. -/
private theorem foldl_addFragment_ids (fragments calls : List CallFragment)
    (streamed : StreamedFragments (calls.map CallFragment.index) fragments) :
    (fragments.foldl addFragment calls).map (·.call.id) =
      calls.map (·.call.id) ++ (fragments.map (·.call.id)).filter (· ≠ none) := by
  induction fragments generalizing calls with
  | nil => simp
  | cons fragment rest ih =>
    rw [List.foldl_cons, List.map_cons]
    unfold StreamedFragments at streamed
    by_cases known : fragment.index ∈ calls.map CallFragment.index
    · rw [if_pos known] at streamed
      obtain ⟨same, ids⟩ := addFragment_known known
      rw [ih _ (by rw [same]; exact streamed.2.2), ids,
        List.filter_cons_of_neg (by simp [streamed.1])]
    · rw [if_neg known] at streamed
      have opened : (calls ++ [fragment]).map CallFragment.index =
          calls.map CallFragment.index ++ [fragment.index] := by
        simp
      rw [addFragment_fresh known, ih _ (by rw [opened]; exact streamed.2.2),
        List.filter_cons_of_pos (by simpa using streamed.1)]
      simp

/-- Fragments that each open a call are the calls. -/
private theorem foldl_addFragment_opening (fragments calls : List CallFragment)
    (streamed : StreamedFragments (calls.map CallFragment.index) fragments)
    (opening : ∀ fragment ∈ fragments, fragment.call.id ≠ none) :
    fragments.foldl addFragment calls = calls ++ fragments := by
  induction fragments generalizing calls with
  | nil => simp
  | cons fragment rest ih =>
    unfold StreamedFragments at streamed
    have fresh : fragment.index ∉ calls.map CallFragment.index := by
      intro known
      rw [if_pos known] at streamed
      exact opening fragment List.mem_cons_self streamed.1
    rw [if_neg fresh] at streamed
    have opened : (calls ++ [fragment]).map CallFragment.index =
        calls.map CallFragment.index ++ [fragment.index] := by
      simp
    rw [List.foldl_cons, addFragment_fresh fresh, ih _ (by rw [opened]; exact streamed.2.2)
      fun other member => opening other (List.mem_cons_of_mem fragment member)]
    simp

/-- The first fragment opens a call. -/
private theorem streamed_first {fragments : List CallFragment}
    (streamed : StreamedFragments [] fragments) :
    fragments = [] ∨ ∃ fragment ∈ fragments, fragment.call.id ≠ none := by
  cases fragments with
  | nil => exact .inl rfl
  | cons fragment rest =>
    unfold StreamedFragments at streamed
    rw [if_neg (by simp)] at streamed
    exact .inr ⟨fragment, List.mem_cons_self, streamed.1⟩

private theorem streamed_front (front back : List CallFragment) {known : List Nat}
    (streamed : StreamedFragments known (front ++ back)) : StreamedFragments known front := by
  induction front generalizing known with
  | nil => trivial
  | cons fragment rest ih =>
    rw [List.cons_append] at streamed
    unfold StreamedFragments at streamed ⊢
    by_cases member : fragment.index ∈ known
    · rw [if_pos member] at streamed ⊢
      exact ⟨streamed.1, streamed.2.1, ih streamed.2.2⟩
    · rw [if_neg member] at streamed ⊢
      exact ⟨streamed.1, streamed.2.1, ih streamed.2.2⟩

/-- The last fragments are all the calls exactly if they are all there is and each opens one. -/
private theorem assembled_last_iff {front last : List CallFragment}
    (streamed : StreamedFragments [] (front ++ last)) :
    ((front ++ last).foldl addFragment []).map CallFragment.call = last.map CallFragment.call ↔
      front = [] ∧ ∀ fragment ∈ last, fragment.call.id ≠ none := by
  constructor
  · intro same
    have ids := foldl_addFragment_ids (front ++ last) [] streamed
    have given := congrArg (List.map ReadCall.id) same
    rw [List.map_map, List.map_map] at given
    rw [List.map_nil, List.nil_append, List.map_append, List.filter_append] at ids
    -- the identifiers that are there, of all fragments, are those of the last ones
    have whole : (front.map (·.call.id)).filter (· ≠ none) ++ (last.map (·.call.id)).filter (· ≠ none) =
        last.map (·.call.id) := ids.symm.trans given
    have opening : ∀ id ∈ last.map (·.call.id), id ≠ none := by
      intro id member
      rw [← whole] at member
      rcases List.mem_append.mp member with mine | mine
      · simpa using (List.mem_filter.mp mine).2
      · simpa using (List.mem_filter.mp mine).2
    have all : (last.map (·.call.id)).filter (· ≠ none) = last.map (·.call.id) :=
      List.filter_eq_self.mpr fun id member => decide_eq_true (opening id member)
    rw [all] at whole
    have none_ := List.filter_eq_nil_iff.mp (List.append_left_eq_self.mp whole)
    refine ⟨?_, fun fragment member => opening _ (List.mem_map_of_mem member)⟩
    rcases streamed_first (streamed_front front last streamed) with empty | ⟨fragment, member, some_⟩
    · exact empty
    · exact absurd (none_ _ (List.mem_map_of_mem member)) (by simpa using some_)
  · rintro ⟨rfl, opening⟩
    rw [List.nil_append, foldl_addFragment_opening last [] streamed opening, List.nil_append]

/-- A stream of calls is collapsed into what its fragments make up exactly where no call is
spread. -/
theorem collapsed_assembled_iff {sse : String} (streamed : StreamedFragments [] (streamFragments sse)) :
    completionCalls (sseBytesToCompletion sse) = assembledCalls sse ↔ Unspread sse := by
  rw [completionCalls_collapsed, eq_comm, assembledCalls, Unspread]
  unfold streamFragments at streamed ⊢
  generalize streamDeltas sse = deltas at streamed ⊢
  rcases List.eq_nil_or_concat deltas with rfl | ⟨front, last, rfl⟩
  · simp
  · rw [List.concat_eq_append] at streamed ⊢
    rw [List.flatMap_append, List.flatMap_singleton] at streamed ⊢
    rw [List.getLast?_concat, Option.map_some, Option.getD_some, assembled_last_iff streamed,
      List.dropLast_concat, List.flatMap_eq_nil_iff]
    constructor
    · rintro ⟨bare, opening⟩
      rw [List.flatMap_eq_nil_iff.mpr bare, List.nil_append]
      exact ⟨bare, opening⟩
    · rintro ⟨bare, opening⟩
      exact ⟨bare, fun fragment member => opening fragment (List.mem_append_right _ member)⟩

/-! ## The stream of calls that is sent -/

/-- The lines of a stream as text, each with its newline and some blank lines. -/
def eventText (blanks : Nat) (sent : List String) : String :=
  String.ofList (sent.flatMap fun line => line.toList ++ List.replicate (blanks + 1) '\n')

/-- The calls of a list, as they are sent. -/
def sentCalls (toolCalls : List Json) : List ReadCall :=
  (toolCalls.map toolCallFields).map fun call => ⟨some call.id, some call.name, call.args⟩

private theorem ssePayload_dataText {payload : List Char} (trimmed : Trimmed payload)
    (some_ : payload ≠ []) : ssePayloadFromLine (dataText payload) = some (String.ofList payload) := by
  simp only [ssePayloadFromLine, trim_dataText trimmed some_, dataText_chars, stripPrefix_data,
    trim_space trimmed]

private theorem payloadChunk_dataLine {fields : List (String × Json)} (valid : (Json.obj fields).Valid)
    (shallow : (Json.obj fields).depth < Json.recursionLimit) :
    payloadChunk (dataLine (.obj fields)) = some (.obj fields) := by
  obtain ⟨middle, braces⟩ := write_obj fields
  have some_ : Json.write (.obj fields) ≠ [] := by
    rw [braces]
    exact List.cons_ne_nil _ _
  have unmarked : String.ofList (Json.write (.obj fields)) ≠ "[DONE]" := by
    intro same
    have chars := congrArg String.toList same
    rw [String.toList_ofList, braces] at chars
    simp at chars
  rw [payloadChunk, dataLine_text, ssePayload_dataText (trimmed_obj fields) some_]
  simp only [if_neg unmarked]
  exact Json.fromText_toText _ valid shallow

private theorem payloadChunk_blank : payloadChunk "" = none := by decide

/-- Reading the text of a stream gives its events back. -/
private theorem events_eventText (blanks : Nat) {events : List Json}
    (silent : ∀ event ∈ events, Silent event) :
    (lines (eventText blanks (events.map dataLine))).filterMap payloadChunk = events := by
  have text : eventText blanks (events.map dataLine) = String.ofList
      ((events.flatMap fun event =>
        (dataLine event).toList :: List.replicate blanks []).flatMap (· ++ ['\n'])) := by
    have gap : (List.replicate blanks ([] : List Char)).flatMap (· ++ ['\n']) =
        List.replicate blanks '\n' := by
      induction blanks with
      | zero => rfl
      | succ blanks ih => rw [List.replicate_succ, List.flatMap_cons, ih]; rfl
    rw [eventText, List.flatMap_map, List.flatMap_assoc]
    congr 1
    apply List.flatMap_congr
    intro event _
    rw [List.flatMap_cons, gap, List.replicate_succ, List.append_assoc]
    rfl
  have each : ∀ line ∈ events.flatMap fun event =>
      (dataLine event).toList :: List.replicate blanks [], '\n' ∉ line ∧ line.getLast? ≠ some '\r' := by
    intro line member
    obtain ⟨event, mine, made⟩ := List.mem_flatMap.mp member
    rcases List.mem_cons.mp made with rfl | blank
    · obtain ⟨fields, rfl, valid, -, -⟩ := silent event mine
      rw [dataLine_text, dataText_chars]
      refine ⟨?_, ?_⟩
      · rw [List.mem_append, not_or]
        exact ⟨by decide, Json.newline_notMem_write _ valid⟩
      · obtain ⟨middle, braces⟩ := write_obj fields
        rw [braces, ← List.cons_append, ← List.append_assoc, List.getLast?_concat]
        decide
    · rw [(List.mem_replicate.mp blank).2]
      exact ⟨List.not_mem_nil, by simp⟩
  rw [text, lines_flatMap (fun line member => (each line member).1) fun line member =>
    (each line member).2, List.map_flatMap, List.filterMap_flatMap]
  clear text each
  induction events with
  | nil => rfl
  | cons event rest ih =>
    rw [List.flatMap_cons, ih fun other member => silent other (List.mem_cons_of_mem event member)]
    obtain ⟨fields, rfl, valid, shallow, -⟩ := silent event List.mem_cons_self
    have blank : (List.replicate blanks "").filterMap payloadChunk = [] :=
      List.filterMap_eq_nil_iff.mpr fun line member => by
        rw [(List.mem_replicate.mp member).2, payloadChunk_blank]
    rw [List.map_cons, List.map_replicate, String.ofList_toList, List.filterMap_cons,
      payloadChunk_dataLine valid shallow]
    simp only [show String.ofList [] = "" from rfl, blank, List.singleton_append]

private theorem deltaCalls_chunk (ambient : Ambient) (state : SseTransformState) (delta finish : Json)
    (rest : List Json) :
    deltaCalls (chatStreamChunk ambient state (chunkChoice delta finish) :: rest) =
      (delta.get "tool_calls").toList ++ deltaCalls rest := by
  rw [deltaCalls, deltaCalls, List.filterMap_cons]
  have read : ((chunkChoices (chatStreamChunk ambient state (chunkChoice delta finish))).head?.bind
      (Json.get · "delta")).bind (Json.get · "tool_calls") = delta.get "tool_calls" := rfl
  rw [read]
  cases delta.get "tool_calls" <;> rfl

private theorem deltaCalls_append (front back : List Json) :
    deltaCalls (front ++ back) = deltaCalls front ++ deltaCalls back := List.filterMap_append ..

/-- Nothing in the Responses format is a delta. -/
private theorem deltaCalls_responses (ambient : Ambient) (toolCalls : List Json) :
    deltaCalls (responsesStreamFromToolCalls ambient toolCalls) = [] := by
  apply List.filterMap_eq_nil_iff.mpr
  intro event member
  rcases List.mem_append.mp member with one | last
  · obtain ⟨⟨call, i⟩, -, mine⟩ := List.mem_flatMap.mp one
    simp only [responsesCallEvents, List.mem_cons, List.not_mem_nil, or_false] at mine
    rcases mine with rfl | rfl
    · rfl
    · rfl
  · obtain rfl := List.mem_singleton.mp last
    rfl

/-- The last delta of a call: its arguments if it has any, else its opening. -/
private theorem deltaCalls_last (ambient : Ambient) (state : SseTransformState) (call : ToolCallFields) :
    ∃ front, deltaCalls (chatCallEvents ambient state call) = front ++
      [.arr [if call.args = "" then
          .obj [("function", .obj [("arguments", .str ""), ("name", .str call.name)]),
            ("id", .str call.id), ("index", Json.ofNat call.index), ("type", .str "function")]
        else .obj [("function", .obj [("arguments", .str call.args)]),
          ("index", Json.ofNat call.index)]]] := by
  rw [chatCallEvents, deltaCalls_chunk]
  by_cases bare : call.args = ""
  · rw [if_pos bare, if_pos bare]
    exact ⟨[], rfl⟩
  · rw [if_neg bare, if_neg bare, deltaCalls_chunk]
    exact ⟨[_], rfl⟩

/-- What a completion keeps of the calls that are sent: of the last one its opening, or its
arguments alone. -/
private theorem sent_collapsed {ambient : Ambient} {state : SseTransformState} (blanks : Nat)
    (chat : state.responseFormat = .chatCompletions) (front : List Json) (last : Json) :
    completionCalls (sseBytesToCompletion
        (eventText blanks (streamingToolCallSseLines ambient state (front ++ [last])))) =
      [if (toolCallFields last).args = "" then
          ⟨some (toolCallFields last).id, some (toolCallFields last).name, ""⟩
        else ⟨none, none, (toolCallFields last).args⟩] := by
  rw [completionCalls_collapsed, streamDeltas, streamingToolCallSseLines,
    events_eventText blanks (streamingToolCallEvents_silent ambient state _),
    streamingToolCallEvents, if_neg (by rw [chat]; decide), List.cons_append, deltaCalls_chunk,
    deltaCalls_append, deltaCalls_chunk, List.map_append, List.map_singleton, List.flatMap_append,
    List.flatMap_singleton, deltaCalls_append]
  obtain ⟨before, ends⟩ := deltaCalls_last ambient state (toolCallFields last)
  have closing : ((Json.obj []).get "tool_calls").toList ++ deltaCalls [] = [] := rfl
  rw [ends, closing, List.append_nil, ← List.append_assoc, ← List.append_assoc,
    List.getLast?_concat]
  by_cases bare : (toolCallFields last).args = ""
  · rw [if_pos bare, if_pos bare]
    rfl
  · rw [if_neg bare, if_neg bare]
    rfl

/-- The calls that are sent come back only where there are none, or one without arguments. -/
theorem sent_collapsed_iff (ambient : Ambient) (state : SseTransformState) (blanks : Nat)
    (toolCalls : List Json) :
    completionCalls (sseBytesToCompletion
        (eventText blanks (streamingToolCallSseLines ambient state toolCalls))) = sentCalls toolCalls ↔
      toolCalls = [] ∨ state.responseFormat = .chatCompletions ∧
        ∃ tc, toolCalls = [tc] ∧ (toolCallFields tc).args = "" := by
  cases format : state.responseFormat with
  | responsesApi =>
    rw [completionCalls_collapsed, streamDeltas, streamingToolCallSseLines,
      events_eventText blanks (streamingToolCallEvents_silent ambient state _),
      streamingToolCallEvents, if_pos format, deltaCalls_responses]
    cases toolCalls <;> simp [sentCalls]
  | chatCompletions =>
    rcases List.eq_nil_or_concat toolCalls with rfl | ⟨front, last, rfl⟩
    · refine iff_of_true ?_ (.inl rfl)
      rw [completionCalls_collapsed, streamDeltas, streamingToolCallSseLines,
        events_eventText blanks (streamingToolCallEvents_silent ambient state _),
        streamingToolCallEvents, if_neg (by rw [format]; decide), List.cons_append,
        deltaCalls_chunk]
      rfl
    · rw [List.concat_eq_append, sent_collapsed blanks format, sentCalls, List.map_append,
        List.map_append, List.map_singleton, List.map_singleton]
      constructor
      · intro same
        have one : front = [] := by
          have lengths := congrArg List.length same
          rw [List.length_append, List.length_map, List.length_map] at lengths
          simpa using lengths
        subst one
        refine .inr ⟨rfl, last, rfl, by_contra fun some_ => ?_⟩
        rw [if_neg some_] at same
        simp at same
      · rintro (none_ | ⟨-, tc, single, bare⟩)
        · simp at none_
        · have one : front = [] := by simpa using congrArg List.length single
          subst one
          obtain rfl := List.singleton_inj.mp single
          rw [if_pos bare, bare]
          rfl

/-- Collapsing undoes streaming exactly where no call is spread: of the calls sent here, where
there are none or one without arguments; of calls that are streamed in fragments, where the last
delta with calls opens them all. -/
theorem collapsing_undoes_streaming_iff (ambient : Ambient) (state : SseTransformState) (blanks : Nat)
    (toolCalls : List Json) {sse : String} (streamed : StreamedFragments [] (streamFragments sse)) :
    (completionCalls (sseBytesToCompletion
        (eventText blanks (streamingToolCallSseLines ambient state toolCalls))) = sentCalls toolCalls ↔
      toolCalls = [] ∨ state.responseFormat = .chatCompletions ∧
        ∃ tc, toolCalls = [tc] ∧ (toolCallFields tc).args = "") ∧
      (completionCalls (sseBytesToCompletion sse) = assembledCalls sse ↔ Unspread sse) :=
  ⟨sent_collapsed_iff ambient state blanks toolCalls, collapsed_assembled_iff streamed⟩

private def streamAmbient : Ambient := ⟨fun _ => "u", 0⟩

private def chatState : SseTransformState := .withResponseFormat .chatCompletions

private def listCall : Json := toolCallEntry streamAmbient 0 0 "list" (.obj [("path", .str ".")])

/-- The text of one call that is spread over two deltas. -/
private def spreadText : String :=
  eventText 1 (streamingToolCallSseLines streamAmbient chatState [listCall])

private theorem spreadText_fragments : streamFragments spreadText =
    [⟨0, some "call_u", some "list", ""⟩, ⟨0, none, none, "\x7b\"path\":\".\"\x7d"⟩] := by
  rw [streamFragments, streamDeltas, spreadText, streamingToolCallSseLines,
    events_eventText 1 (streamingToolCallEvents_silent streamAmbient chatState _)]
  decide +kernel

theorem collapsing_undoes_streaming_iff_sample :
    (completionCalls (sseBytesToCompletion
        (eventText 1 (streamingToolCallSseLines streamAmbient chatState [listCall]))) = sentCalls [listCall] ↔
      [listCall] = [] ∨ chatState.responseFormat = .chatCompletions ∧
        ∃ tc, [listCall] = [tc] ∧ (toolCallFields tc).args = "") ∧
      (completionCalls (sseBytesToCompletion spreadText) = assembledCalls spreadText ↔ Unspread spreadText) :=
  collapsing_undoes_streaming_iff streamAmbient chatState 1 [listCall]
    (by rw [spreadText_fragments]; simp [StreamedFragments])

/-- A call with arguments comes back with its arguments, without its identifier and name; the
fragments together have all three. -/
theorem spread_call_loses_its_name :
    completionCalls (sseBytesToCompletion spreadText) = [⟨none, none, "\x7b\"path\":\".\"\x7d"⟩] ∧
      sentCalls [listCall] = [⟨some "call_u", some "list", "\x7b\"path\":\".\"\x7d"⟩] ∧
      assembledCalls spreadText = [⟨some "call_u", some "list", "\x7b\"path\":\".\"\x7d"⟩] := by
  refine ⟨?_, by decide, ?_⟩
  · rw [spreadText, show [listCall] = [] ++ [listCall] from rfl, sent_collapsed 1 rfl]
    decide
  · rw [assembledCalls, spreadText_fragments]
    decide

end MtrxPeer
