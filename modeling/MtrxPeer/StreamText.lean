import Mathlib.Data.List.TakeWhile
import MtrxPeer.EventLines

/-! The ordinary text of a stream. What the transformer sends never has more content
than what came, and less as soon as a brace in the text made it withhold some: it
keeps the text of a stream exactly when there is no such brace. -/
namespace MtrxPeer

/-! ## The content of lines -/

/-- The content of the first choice's delta. -/
def choiceContent (choice : Json) : String :=
  (((choice.get "delta").bind (Json.get · "content")).bind Json.asStr).getD ""

/-- The choices of a chunk. -/
def chunkChoices (chunk : Json) : List Json := ((chunk.get "choices").bind Json.asArray).getD []

/-- `choices[0].delta.content`. -/
def chunkContent (chunk : Json) : String := ((chunkChoices chunk).head?.map choiceContent).getD ""

/-- Structured calls in the first choice's delta. -/
def chunkCalls (chunk : Json) : Bool :=
  ((chunkChoices chunk).head?.bind fun choice => (choice.get "delta").map hasToolCalls).getD false

/-- The content of the delta a line carries. -/
def lineContent (line : String) : List Char := (((lineChunk line).map chunkContent).getD "").toList

/-- The content deltas of all lines, one after another. -/
def contents (lines : List String) : List Char := lines.flatMap lineContent

/-- A brace in a content delta, outside of deltas with structured calls. -/
def Braced (line : String) : Prop :=
  ∃ chunk, lineChunk line = some chunk ∧ chunkCalls chunk = false ∧ '{' ∈ (chunkContent chunk).toList

@[simp] theorem contents_nil : contents [] = [] := rfl

@[simp] theorem contents_cons (line : String) (rest : List String) :
    contents (line :: rest) = lineContent line ++ contents rest := rfl

theorem contents_append (a b : List String) : contents (a ++ b) = contents a ++ contents b := by
  simp [contents]

theorem lineContent_normalized {line normalized : String}
    (recognised : normalizeSseDataLine line = some normalized) :
    lineContent normalized = lineContent line := by
  rw [lineContent, lineContent, lineChunk_normalized recognised]

theorem lineContent_dataLine {fields : List (String × Json)} (valid : (Json.obj fields).Valid)
    (deep : (Json.obj fields).depth < Json.recursionLimit) :
    lineContent (dataLine (.obj fields)) = (chunkContent (.obj fields)).toList := by
  rw [lineContent, lineChunk_dataLine valid deep]
  rfl

theorem lineContent_done : lineContent "data: [DONE]" = [] := by decide

theorem chunkContent_first {chunk choice : Json} {rest : List Json}
    (choices : chunkChoices chunk = choice :: rest) : chunkContent chunk = choiceContent choice := by
  rw [chunkContent, choices]
  rfl

theorem choiceContent_delta {choice delta : Json} (there : choice.get "delta" = some delta) :
    choiceContent choice = ((delta.get "content").bind Json.asStr).getD "" := by
  rw [choiceContent, there]
  rfl

theorem content_obj (content : String) :
    (((Json.obj [("content", .str content)]).get "content").bind Json.asStr).getD "" = content := rfl

theorem chunkChoices_some {chunk : Json} {choices : List Json}
    (there : (chunk.get "choices").bind Json.asArray = some choices) : chunkChoices chunk = choices := by
  rw [chunkChoices, there]
  rfl

/-! ## Events without content -/

/-- An event that can be read back and carries no content. -/
def Silent (event : Json) : Prop :=
  ∃ fields, event = .obj fields ∧ event.Valid ∧ event.depth < Json.recursionLimit ∧
    chunkContent event = ""

theorem contents_silent {events : List Json} (silent : ∀ event ∈ events, Silent event) :
    contents (events.map dataLine) = [] := by
  induction events with
  | nil => rfl
  | cons event rest ih =>
    obtain ⟨fields, rfl, valid, deep, none_⟩ := silent event List.mem_cons_self
    rw [List.map_cons, contents_cons, lineContent_dataLine valid deep, none_,
      ih fun other member => silent other (List.mem_cons_of_mem _ member)]
    rfl

theorem contents_dataLine {event : Json} (silent : Silent event) : contents [dataLine event] = [] :=
  @contents_silent [event] (by simpa using silent)

private theorem ofNat_valid (n : UInt64) : (Json.ofNat n.toNat).Valid := by
  have small := n.toNat_lt
  refine ⟨?_, ?_⟩ <;> omega

private theorem index_valid {n : Nat} (small : n < 2 ^ 64) : (Json.ofNat n).Valid := by
  refine ⟨?_, ?_⟩ <;> omega

private theorem asU64_lt {json : Json} {n : Nat} (read : json.asU64 = some n) : n < 2 ^ 64 := by
  unfold Json.asU64 at read
  split at read
  · split at read
    · obtain rfl := Option.some.inj read
      omega
    · cases read
  · cases read

theorem toolCallFields_index (tc : Json) : (toolCallFields tc).index < 2 ^ 64 := by
  simp only [toolCallFields]
  cases read : (tc.get "index").bind Json.asU64 with
  | none => simp
  | some n =>
    obtain ⟨value, -, number⟩ := Option.bind_eq_some_iff.mp read
    exact asU64_lt number

/-- A chunk made from a small delta without a content string is silent. -/
theorem chatStreamChunk_silent (ambient : Ambient) (state : SseTransformState)
    {delta finish : Json} (valid : delta.Valid) (reason : finish.Valid)
    (low : delta.depth ≤ 8) (flat : finish.depth ≤ 8)
    (none_ : (delta.get "content").bind Json.asStr = none) :
    Silent (chatStreamChunk ambient state (chunkChoice delta finish)) := by
  have created := ofNat_valid (state.streamMeta.created.getD ambient.unixNowSecs)
  have zero : (Json.ofNat 0).Valid := index_valid (by decide)
  have fields : ["choices", "created", "id", "model", "object"].Pairwise (· < ·) := by decide
  have choiceFields : ["delta", "finish_reason", "index"].Pairwise (· < ·) := by decide
  have choice : (chunkChoice delta finish).Valid := ⟨⟨choiceFields, valid, reason, zero, trivial⟩, trivial⟩
  refine ⟨_, rfl, ?_, ?_, ?_⟩
  · exact ⟨fields, choice, created, trivial, trivial, trivial, trivial⟩
  · simp only [chatStreamChunk, chunkChoice, Json.depth, Json.depth.depthFields,
      Json.depth.depthItems, Json.ofNat, Json.recursionLimit]
    omega
  · have content : chunkContent (chatStreamChunk ambient state (chunkChoice delta finish)) =
        ((delta.get "content").bind Json.asStr).getD "" := rfl
    rw [content, none_]
    rfl

private theorem items_sound (calls : List ToolCallFields) :
    Json.Valid.ValidItems (calls.map responsesCallItem) ∧
      Json.depth.depthItems (calls.map responsesCallItem) ≤ 1 := by
  induction calls with
  | nil => exact ⟨trivial, Nat.zero_le 1⟩
  | cons call rest ih =>
    refine ⟨⟨?_, ih.1⟩, ?_⟩
    · simp +decide [responsesCallItem]
    · simp only [List.map_cons, Json.depth.depthItems, responsesCallItem, Json.depth,
        Json.depth.depthFields]
      have rest_ := ih.2
      omega

private theorem responsesCallEvents_silent (i : Nat) (call : ToolCallFields) :
    ∀ event ∈ responsesCallEvents i call, Silent event := by
  have index : (Json.ofNat (i % 2 ^ 64)).Valid := index_valid (Nat.mod_lt i (by decide))
  intro event member
  simp only [responsesCallEvents, List.mem_cons, List.not_mem_nil, or_false] at member
  rcases member with rfl | rfl
  · refine ⟨_, rfl, ?_, ?_, rfl⟩
    · simp +decide
      exact index
    · simp [Json.depth, Json.depth.depthFields, Json.ofNat, Json.recursionLimit]
  · refine ⟨_, rfl, ?_, ?_, rfl⟩
    · simp +decide
    · simp [Json.depth, Json.depth.depthFields, Json.recursionLimit]

/-- The events of calls are silent in both formats. -/
theorem streamingToolCallEvents_silent (ambient : Ambient) (state : SseTransformState)
    (toolCalls : List Json) :
    ∀ event ∈ streamingToolCallEvents ambient state toolCalls, Silent event := by
  intro event member
  unfold streamingToolCallEvents at member
  split at member
  · rcases List.mem_append.mp member with one | last
    · obtain ⟨⟨call, i⟩, -, mine⟩ := List.mem_flatMap.mp one
      exact responsesCallEvents_silent i call event mine
    · obtain rfl := List.mem_singleton.mp last
      have items := items_sound (toolCalls.map toolCallFields)
      refine ⟨_, rfl, ?_, ?_, rfl⟩
      · simpa +decide using items.1
      · simp only [Json.depth, Json.depth.depthFields, Json.recursionLimit]
        omega
  · rcases List.mem_cons.mp member with first | member
    · subst first
      exact chatStreamChunk_silent ambient state (by simp +decide)
        trivial (by simp [Json.depth, Json.depth.depthFields]) (by simp [Json.depth]) rfl
    · rcases List.mem_append.mp member with one | last
      · obtain ⟨call, place, mine⟩ := List.mem_flatMap.mp one
        obtain ⟨tc, -, rfl⟩ := List.mem_map.mp place
        have index := index_valid (toolCallFields_index tc)
        have opening := @chatStreamChunk_silent ambient state
          (callDelta (toolCallFields tc)) .null
          (by simpa +decide [callDelta] using index)
          trivial (by simp [callDelta, Json.depth, Json.depth.depthFields, Json.depth.depthItems,
            Json.ofNat]) (by simp [Json.depth]) rfl
        have arguments := @chatStreamChunk_silent ambient state
          (argumentsDelta (toolCallFields tc)) .null
          (by simpa +decide [argumentsDelta]
            using index)
          trivial (by simp [argumentsDelta, Json.depth, Json.depth.depthFields,
            Json.depth.depthItems, Json.ofNat]) (by simp [Json.depth]) rfl
        unfold chatCallEvents at mine
        rcases List.mem_cons.mp mine with rfl | mine
        · exact opening
        · split at mine
          · simp at mine
          · obtain rfl := List.mem_singleton.mp mine
            exact arguments
      · obtain rfl := List.mem_singleton.mp last
        exact chatStreamChunk_silent ambient state (by simp +decide)
          trivial (by simp [Json.depth, Json.depth.depthFields]) (by simp [Json.depth]) rfl

/-! ## One line -/

/-- The chunk that closes a text which is no call. -/
theorem closing_silent (ambient : Ambient) (state : SseTransformState) :
    Silent (chatStreamChunk ambient state (chunkChoice (.obj [("content", .null)]) (.str "stop"))) := by
  have content : ((Json.obj [("content", .null)]).get "content").bind Json.asStr = none := rfl
  have valid : (Json.obj [("content", .null)]).Valid := by simp +decide
  exact chatStreamChunk_silent ambient state valid trivial
    (by simp [Json.depth, Json.depth.depthFields]) (by simp [Json.depth]) content

theorem completeSuppressed_content {ambient : Ambient} {state after : SseTransformState}
    {out : List String} (ran : completeSuppressed ambient state = some (after, out)) :
    contents out = [] ∧ after.suppressContent = false := by
  simp only [completeSuppressed] at ran
  split at ran
  · cases ran
  · split at ran
    · obtain ⟨rfl, rfl⟩ := Prod.mk.inj (Option.some.inj ran)
      exact ⟨contents_silent (streamingToolCallEvents_silent _ _ _), rfl⟩
    · obtain ⟨rfl, rfl⟩ := Prod.mk.inj (Option.some.inj ran)
      refine ⟨?_, rfl⟩
      exact contents_dataLine (closing_silent ambient _)

/-- What one line is answered with, against what it carries. -/
structure LineAnswered (line : String) (state after : SseTransformState) (out : List String) : Prop where
  short : (contents out).length ≤ (lineContent line).length
  less : Braced line → (contents out).length < (lineContent line).length
  same : state.suppressContent = false → ¬Braced line →
    after.suppressContent = false ∧ contents out = lineContent line

private theorem takeWhile_short {c : Char} {text : List Char} (member : c ∈ text) :
    (text.takeWhile (· ≠ c)).length < text.length := by
  have whole : (text.takeWhile (· ≠ c)).length + (text.dropWhile (· ≠ c)).length = text.length := by
    rw [← List.length_append, List.takeWhile_append_dropWhile]
  have some_ : (text.dropWhile (· ≠ c)) ≠ [] := by
    intro none_
    have all := List.dropWhile_eq_nil_iff.mp none_ c member
    simp at all
  have positive := List.length_pos_iff.mpr some_
  omega

/-- A brace at the start, after white space, is in the text. -/
theorem mem_of_start {text : List Char} (start : ['{'].isPrefixOf (trimStart text)) :
    '{' ∈ text := by
  obtain ⟨rest, front⟩ := List.isPrefixOf_iff_prefix.mp start
  have member : '{' ∈ trimStart text := by rw [← front]; simp
  exact (List.dropWhile_sublist isWhitespace).subset member

/-- A chunk that was read stays readable when its first delta is replaced. -/
theorem replaced_chunk {text : String} {chunk choice delta : Json} {rest : List Json}
    (read : Json.fromText text = some chunk)
    (there : (chunk.get "choices").bind Json.asArray = some (choice :: rest))
    (object : (choice.get "delta").isSome) (valid : delta.Valid) (low : delta.depth ≤ 1) :
    ∃ fields inner, chunk.insert "choices" (.arr (choice.insert "delta" delta :: rest)) = .obj fields ∧
      (Json.obj fields).Valid ∧ (Json.obj fields).depth < Json.recursionLimit ∧
      chunkChoices (.obj fields) = inner :: rest ∧ inner.get "delta" = some delta := by
  obtain ⟨good, deep⟩ := Json.fromText_valid read
  obtain ⟨value, found, list⟩ := Option.bind_eq_some_iff.mp there
  obtain rfl : value = .arr (choice :: rest) := by
    cases value <;> simp_all [Json.asArray]
  cases chunk with
  | obj fields =>
    have choices := Json.lookup_valid good.2 found
    have level := Json.lookup_depth found
    simp only [Json.depth, Json.depth.depthItems] at level deep
    have newValid : (Json.arr (choice.insert "delta" delta :: rest)).Valid :=
      ⟨Json.insert_valid "delta" choices.1 valid, choices.2⟩
    have newDepth : (choice.insert "delta" delta).depth ≤ max choice.depth 2 :=
      Json.insert_depth "delta" (by omega) (by omega)
    have whole := Json.insert_valid "choices" good newValid
    have wholeDepth := @Json.insert_depth (.obj fields) _ "choices" (Json.recursionLimit - 1)
      (by simp only [Json.depth]; omega)
      (by
        show (Json.arr (choice.insert "delta" delta :: rest)).depth + 1 ≤ _
        simp only [Json.depth, Json.depth.depthItems]
        unfold Json.recursionLimit at deep ⊢
        omega)
    have entry := Json.lookup_insertField_self "choices"
      (.arr (choice.insert "delta" delta :: rest)) fields
    rw [Json.insert_obj] at whole wholeDepth ⊢
    refine ⟨_, choice.insert "delta" delta, rfl, whole,
      by unfold Json.recursionLimit at wholeDepth ⊢; omega, ?_, ?_⟩
    · rw [chunkChoices, Json.get_obj, entry]
      rfl
    · cases choice with
      | obj inner => exact Json.lookup_insertField_self "delta" delta inner
      | _ => simp [Json.get] at object
  | _ => simp [Json.get] at found

/-- A line that is sent on in its normal form is answered with what it carries. -/
private theorem answered_normal {line normalized : String} {state after : SseTransformState}
    (recognised : normalizeSseDataLine line = some normalized)
    (kept : state.suppressContent = false → after.suppressContent = false) (plain : ¬Braced line) :
    LineAnswered line state after [normalized] := by
  have same : contents [normalized] = lineContent line := by
    simp [lineContent_normalized recognised]
  exact ⟨Nat.le_of_eq (congrArg List.length same), fun braced => absurd braced plain,
    fun idle _ => ⟨kept idle, same⟩⟩

/-- A line is answered by nothing that carries content, when it has none itself. -/
private theorem answered_silent {line : String} {state after : SseTransformState}
    {out : List String} (silent : contents out = []) (plain : ¬Braced line)
    (suppressed : state.suppressContent = true) : LineAnswered line state after out := by
  refine ⟨by rw [silent]; exact Nat.zero_le _, fun braced => absurd braced plain, ?_⟩
  intro idle
  rw [idle] at suppressed
  cases suppressed

/-- The delta that is sent of a text before its brace. -/
theorem beforeDelta_sound (content : String) :
    (Json.obj [("content", .str (String.ofList (content.toList.takeWhile (· ≠ '{'))))]).Valid ∧
      (Json.obj [("content", .str (String.ofList (content.toList.takeWhile (· ≠ '{'))))]).depth ≤ 1 := by
  refine ⟨?_, ?_⟩
  · simp +decide
  · simp [Json.depth, Json.depth.depthFields]

private theorem processDelta_answered {ambient : Ambient} {state after : SseTransformState}
    {line normalized : String} {chunk choice : Json} {rest : List Json} {out : List String}
    (recognised : normalizeSseDataLine line = some normalized)
    (read : Json.fromText (linePayload normalized) = some chunk)
    (there : (chunk.get "choices").bind Json.asArray = some (choice :: rest))
    (plain : chunkCalls chunk = false)
    (ran : processDelta ambient state normalized chunk choice rest = some (after, out)) :
    LineAnswered line state after out := by
  have carried : lineChunk line = some chunk := by
    rw [lineChunk, recognised, Option.bind_some, read]
  have content : lineContent line = (choiceContent choice).toList := by
    rw [lineContent, carried, Option.map_some, Option.getD_some, chunkContent,
      chunkChoices_some there]
    rfl
  have braced : Braced line ↔ '{' ∈ lineContent line := by
    refine ⟨?_, ?_⟩
    · rintro ⟨other, found, -, member⟩
      obtain rfl := Option.some.inj (carried.symm.trans found)
      rwa [lineContent, carried]
    · intro member
      refine ⟨chunk, carried, plain, ?_⟩
      rwa [lineContent, carried] at member
  simp only [processDelta] at ran
  rw [show (((choice.get "delta").bind (Json.get · "content")).bind Json.asStr).getD "" =
    choiceContent choice from rfl] at ran
  split at ran
  · rename_i withheld
    obtain ⟨rfl, rfl⟩ := Prod.mk.inj (Option.some.inj ran)
    have some_ : 0 < (lineContent line).length := by
      rw [content, String.length_toList]
      exact Nat.pos_of_ne_zero fun zero => withheld.1 (String.length_eq_zero_iff.mp zero)
    refine ⟨Nat.zero_le _, fun _ => some_, ?_⟩
    intro idle
    rw [idle] at withheld
    exact absurd withheld.2 (by simp)
  · split at ran
    · rename_i start
      obtain ⟨rfl, rfl⟩ := Prod.mk.inj (Option.some.inj ran)
      have member := mem_of_start start
      rw [← content] at member
      exact ⟨Nat.zero_le _, fun _ => List.length_pos_of_mem member,
        fun _ none_ => absurd (braced.mpr member) none_⟩
    · split at ran
      · rename_i member
        obtain ⟨rfl, rfl⟩ := Prod.mk.inj (Option.some.inj ran)
        have fewer := takeWhile_short member
        rw [← content] at member fewer
        have sent : (contents (if (choiceContent choice).toList.takeWhile (· ≠ '{') = [] then []
            else [dataLine (chunk.insert "choices" (.arr (choice.insert "delta" (.obj [("content",
              .str (String.ofList ((choiceContent choice).toList.takeWhile (· ≠ '{'))))]) ::
                rest)))])).length < (lineContent line).length := by
          split
          · exact List.length_pos_of_mem member
          · have object : (choice.get "delta").isSome := by
              cases delta : choice.get "delta" with
              | none => simp [content, choiceContent, delta] at member
              | some value => rfl
            obtain ⟨fields, inner, same, valid, deep, choices, delta⟩ :=
              replaced_chunk read there object (beforeDelta_sound (choiceContent choice)).1
                (beforeDelta_sound (choiceContent choice)).2
            rw [contents_cons, contents_nil, List.append_nil, same, lineContent_dataLine valid deep,
              chunkContent_first choices, choiceContent_delta delta, content_obj, String.toList_ofList,
              ← content]
            exact fewer
        exact ⟨Nat.le_of_lt sent, fun _ => sent, fun _ none_ => absurd (braced.mpr member) none_⟩
      · rename_i none_
        have unbraced : ¬Braced line := by
          rw [braced, content]
          exact none_
        split at ran
        · rename_i finishing
          exact answered_silent (completeSuppressed_content ran).1 unbraced (by simpa using finishing.2)
        · obtain ⟨rfl, rfl⟩ := Prod.mk.inj (Option.some.inj ran)
          exact answered_normal recognised (fun idle => idle) unbraced

@[simp] theorem captureStreamMeta_suppress (state : SseTransformState) (chunk : Json) :
    (captureStreamMeta state chunk).suppressContent = state.suppressContent := by
  unfold captureStreamMeta
  split <;> rfl

/-- A chunk with calls of its own is passed as it is. -/
private theorem answered_structured {line normalized : String} {state : SseTransformState}
    {chunk choice : Json} {rest : List Json} (summary : Option AgentResponseSummary)
    (recognised : normalizeSseDataLine line = some normalized)
    (read : Json.fromText (linePayload normalized) = some chunk)
    (there : (chunk.get "choices").bind Json.asArray = some (choice :: rest))
    (calls : chunkCalls chunk = true) :
    LineAnswered line state { captureStreamMeta state chunk with lastSummary := summary }
      [dataLine chunk] := by
  have carried : lineChunk line = some chunk := by
    rw [lineChunk, recognised, Option.bind_some, read]
  have plain : ¬Braced line := by
    rintro ⟨other, found, none_, -⟩
    rw [carried] at found
    obtain rfl := Option.some.inj found
    rw [calls] at none_
    cases none_
  have same : contents [dataLine chunk] = lineContent line := by
    obtain ⟨valid, deep⟩ := Json.fromText_valid read
    cases chunk with
    | obj fields =>
      rw [contents_cons, contents_nil, List.append_nil, lineContent_dataLine valid deep, lineContent,
        carried]
      rfl
    | _ => simp [Json.get] at there
  exact ⟨Nat.le_of_eq (congrArg List.length same), fun braced => absurd braced plain,
    fun idle _ => ⟨by simpa using idle, same⟩⟩

/-- A chunk without choices has no text. -/
private theorem chunkContent_bare {chunk : Json}
    (bare : ∀ choice rest, (chunk.get "choices").bind Json.asArray ≠ some (choice :: rest)) :
    chunkContent chunk = "" := by
  rw [chunkContent, chunkChoices]
  cases list : (chunk.get "choices").bind Json.asArray with
  | none => rfl
  | some choices =>
    cases choices with
    | nil => rfl
    | cons choice rest => exact absurd list (bare choice rest)

private theorem processChunk_answered {ambient : Ambient} {state after : SseTransformState}
    {line normalized : String} {chunk : Json} {out : List String}
    (recognised : normalizeSseDataLine line = some normalized)
    (read : Json.fromText (linePayload normalized) = some chunk)
    (ran : processChunk ambient state normalized chunk = some (after, out)) :
    LineAnswered line state after out := by
  simp only [processChunk] at ran
  split at ran
  · rename_i choice rest there
    have calls : chunkCalls chunk = ((choice.get "delta").map hasToolCalls).getD false := by
      rw [chunkCalls, chunkChoices_some there]
      rfl
    split at ran
    · rename_i structured
      obtain ⟨rfl, rfl⟩ := Prod.mk.inj (Option.some.inj ran)
      exact answered_structured _ recognised read there (calls.trans structured)
    · rename_i unstructured
      have answered := processDelta_answered recognised read there
        (by rw [calls]; simpa using unstructured) ran
      exact ⟨answered.short, answered.less, fun idle => answered.same (by simpa using idle)⟩
  · rename_i bare
    obtain ⟨rfl, rfl⟩ := Prod.mk.inj (Option.some.inj ran)
    refine answered_normal recognised (fun idle => by simpa using idle) ?_
    rintro ⟨other, found, -, member⟩
    rw [lineChunk, recognised, Option.bind_some, read] at found
    obtain rfl := Option.some.inj found
    simp [chunkContent_bare bare] at member

private theorem processData_answered {ambient : Ambient} {state after : SseTransformState}
    {line normalized : String} {out : List String}
    (recognised : normalizeSseDataLine line = some normalized)
    (ran : processData ambient state normalized = some (after, out)) :
    LineAnswered line state after out := by
  cases read : Json.fromText (linePayload normalized) with
  | none =>
    rw [processData_unread read] at ran
    obtain ⟨rfl, rfl⟩ := Prod.mk.inj (Option.some.inj ran)
    refine answered_normal recognised (fun idle => idle) ?_
    rintro ⟨chunk, found, -⟩
    rw [lineChunk, recognised, Option.bind_some, read] at found
    cases found
  | some chunk =>
    rw [processData_read read] at ran
    exact processChunk_answered recognised read ran

/-- What the end of a stream releases carries no content. -/
theorem flushOnStreamEnd_content {ambient : Ambient} {state after : SseTransformState}
    {out : List String} (ran : flushOnStreamEnd ambient state = some (after, out)) :
    contents out = [] ∧ (state.suppressContent = false → after.suppressContent = false) := by
  simp only [flushOnStreamEnd] at ran
  split at ran
  · obtain ⟨rfl, rfl⟩ := Prod.mk.inj (Option.some.inj ran)
    exact ⟨rfl, fun idle => idle⟩
  · rename_i kept
    have normal : normalizeSseDataLine (dataLine syntheticStop) = some (dataLine syntheticStop) :=
      normalize_dataLine _
    rw [normal] at ran
    have answered := processData_answered normal ran
    have choiceFields : ["delta", "finish_reason"].Pairwise (· < ·) := by decide
    have valid : syntheticStop.Valid :=
      ⟨List.pairwise_singleton _ _, ⟨⟨choiceFields, ⟨.nil, trivial⟩, trivial, trivial⟩, trivial⟩, trivial⟩
    have flat : syntheticStop.depth < Json.recursionLimit := by decide
    have silent : lineContent (dataLine syntheticStop) = [] := lineContent_dataLine valid flat
    refine ⟨?_, fun idle => absurd (.inl idle) kept⟩
    have short := answered.short
    rw [silent] at short
    exact List.length_eq_zero_iff.mp (Nat.le_zero.mp short)

private theorem lineChunk_none {line : String} (blank : normalizeSseDataLine line = none) :
    lineChunk line = none := by
  rw [lineChunk, blank]
  rfl

/-- Every line is answered with at most what it carries. -/
theorem processLine_answered {ambient : Ambient} {state after : SseTransformState} {line : String}
    {out : List String} (ran : processLine ambient state line = some (after, out)) :
    LineAnswered line state after out := by
  simp only [processLine] at ran
  split at ran
  · rename_i blank
    obtain ⟨rfl, rfl⟩ := Prod.mk.inj (Option.some.inj ran)
    have plain : ¬Braced line := by
      rintro ⟨chunk, found, -⟩
      rw [lineChunk_none blank] at found
      cases found
    exact ⟨by simp, fun braced => absurd braced plain, fun idle _ => ⟨idle, by simp⟩⟩
  · rename_i normalized recognised
    split at ran
    · rename_i done
      obtain ⟨⟨flushed, more⟩, flush, same⟩ := Option.map_eq_some_iff.mp ran
      obtain ⟨rfl, rfl⟩ := Prod.mk.inj same
      obtain ⟨silent, kept⟩ := flushOnStreamEnd_content flush
      have out : contents (more ++ ["data: [DONE]"]) = lineContent line := by
        rw [contents_append, silent, ← lineContent_normalized recognised, done]
        simp
      have plain : ¬Braced line := by
        rintro ⟨chunk, found, -, member⟩
        rw [← lineChunk_normalized recognised, done] at found
        revert found
        rw [show lineChunk "data: [DONE]" = none by decide]
        simp
      exact ⟨Nat.le_of_eq (congrArg List.length out), fun braced => absurd braced plain,
        fun idle _ => ⟨kept idle, out⟩⟩
    · exact processData_answered recognised ran

private theorem processDelta_runs (ambient : Ambient) {state : SseTransformState}
    (idle : state.suppressContent = false) (normalized : String) (chunk choice : Json)
    (rest : List Json) :
    ∃ after out, processDelta ambient state normalized chunk choice rest = some (after, out) := by
  simp only [processDelta, idle, Bool.false_eq_true, and_false, if_false]
  split
  · exact ⟨_, _, rfl⟩
  · split
    · exact ⟨_, _, rfl⟩
    · exact ⟨_, _, rfl⟩

private theorem processChunk_runs (ambient : Ambient) {state : SseTransformState}
    (idle : state.suppressContent = false) (normalized : String) (chunk : Json) :
    ∃ after out, processChunk ambient state normalized chunk = some (after, out) := by
  simp only [processChunk]
  split
  · split
    · exact ⟨_, _, rfl⟩
    · exact processDelta_runs ambient (by simpa using idle) normalized chunk _ _
  · exact ⟨_, _, rfl⟩

/-- As long as nothing is withheld no line makes the program panic. -/
theorem processLine_runs (ambient : Ambient) {state : SseTransformState} {line : String}
    (idle : state.suppressContent = false) : ∃ after out, processLine ambient state line = some (after, out) := by
  rw [processLine]
  split
  · exact ⟨_, _, rfl⟩
  · split
    · rw [flushOnStreamEnd, if_pos (.inl idle)]
      exact ⟨_, _, rfl⟩
    · rename_i normalized _ _
      cases read : Json.fromText (linePayload normalized) with
      | none => exact ⟨_, _, processData_unread read⟩
      | some chunk =>
        rw [processData_read read]
        exact processChunk_runs ambient idle normalized chunk

/-! ## All lines -/

/-- A whole stream: every line, and the end. -/
def transformStream (ambients : Nat → Ambient) (format : AgentResponseFormat)
    (lines : List String) (doneSent : Bool) : Option (List String) :=
  (processLines ambients (.withResponseFormat format) lines).bind fun (state, out) =>
    (finalizeStream (ambients lines.length) state doneSent).map fun (_, more) => out ++ more

theorem finalizeStream_content {ambient : Ambient} {state after : SseTransformState}
    {doneSent : Bool} {out : List String}
    (ran : finalizeStream ambient state doneSent = some (after, out)) : contents out = [] := by
  obtain ⟨⟨flushed, more⟩, flush, same⟩ := Option.map_eq_some_iff.mp ran
  obtain ⟨-, rfl⟩ := Prod.mk.inj same
  have silent := (flushOnStreamEnd_content flush).1
  split
  · exact silent
  · simp [contents_append, silent, lineContent_done]

/-- Along a stream the content only shrinks, and it does if a brace came. -/
theorem processLines_content {ambients : Nat → Ambient} {state after : SseTransformState}
    {lines out : List String} (ran : processLines ambients state lines = some (after, out)) :
    (contents out).length ≤ (contents lines).length ∧
      ((∃ line ∈ lines, Braced line) → (contents out).length < (contents lines).length) := by
  induction lines generalizing state out with
  | nil =>
    obtain ⟨-, rfl⟩ := Prod.mk.inj (Option.some.inj ran)
    exact ⟨Nat.le_refl _, by simp⟩
  | cons line rest ih =>
    simp only [processLines] at ran
    split at ran
    · cases ran
    · rename_i between first step
      obtain ⟨⟨last, more⟩, tail, same⟩ := Option.map_eq_some_iff.mp ran
      obtain ⟨rfl, rfl⟩ := Prod.mk.inj same
      have answered := processLine_answered step
      obtain ⟨short, less⟩ := ih tail
      have one := answered.short
      simp only [contents_append, contents_cons, List.length_append]
      refine ⟨by omega, ?_⟩
      rintro ⟨braced, member, brace⟩
      rcases List.mem_cons.mp member with rfl | later
      · have fewer := answered.less brace
        omega
      · have fewer := less ⟨braced, later, brace⟩
        omega

/-- Without a brace a stream is sent on as it came. -/
theorem processLines_plain {ambients : Nat → Ambient} {state : SseTransformState}
    {lines : List String} (idle : state.suppressContent = false)
    (plain : ∀ line ∈ lines, ¬Braced line) :
    ∃ after out, processLines ambients state lines = some (after, out) ∧
      after.suppressContent = false ∧ contents out = contents lines := by
  induction lines generalizing state with
  | nil => exact ⟨state, [], rfl, idle, rfl⟩
  | cons line rest ih =>
    obtain ⟨between, first, step⟩ := @processLine_runs (ambients rest.length) _ line idle
    obtain ⟨quiet, same⟩ := (processLine_answered step).same idle (plain line List.mem_cons_self)
    obtain ⟨after, more, tail, last, content⟩ :=
      ih quiet fun other member => plain other (List.mem_cons_of_mem line member)
    refine ⟨after, first ++ more, ?_, last, ?_⟩
    · simp only [processLines, step, tail, Option.map_some]
    · rw [contents_append, contents_cons, same, content]

/-- A stream with a brace in its text loses content. -/
theorem braced_content_lost (ambients : Nat → Ambient) (format : AgentResponseFormat)
    {lines : List String} (doneSent : Bool) (brace : ∃ line ∈ lines, Braced line) :
    (transformStream ambients format lines doneSent).map contents ≠ some (contents lines) := by
  intro kept
  obtain ⟨out, ran, same⟩ := Option.map_eq_some_iff.mp kept
  obtain ⟨⟨state, sent⟩, lines_, last⟩ := Option.bind_eq_some_iff.mp ran
  obtain ⟨⟨after, more⟩, final, rfl⟩ := Option.map_eq_some_iff.mp last
  rw [contents_append, finalizeStream_content final, List.append_nil] at same
  have fewer := (processLines_content lines_).2 brace
  rw [same] at fewer
  exact Nat.lt_irrefl _ fewer

/-- A transformed stream has all the content of the upstream exactly when no content
delta, outside of those with structured calls, has a brace in it. -/
theorem stream_text_kept_iff (ambients : Nat → Ambient) (format : AgentResponseFormat)
    (lines : List String) (doneSent : Bool) :
    (transformStream ambients format lines doneSent).map contents = some (contents lines) ↔
      ∀ line ∈ lines, ¬Braced line := by
  refine ⟨?_, ?_⟩
  · intro kept line member brace
    exact braced_content_lost ambients format doneSent ⟨line, member, brace⟩ kept
  · intro plain
    obtain ⟨after, out, ran, idle, same⟩ :=
      @processLines_plain ambients (.withResponseFormat format) lines rfl plain
    have flushed : flushOnStreamEnd (ambients lines.length) after = some (after, []) := by
      rw [flushOnStreamEnd, if_pos (.inl idle)]
    obtain ⟨more, final⟩ :
        ∃ more, finalizeStream (ambients lines.length) after doneSent = some (after, more) := by
      rw [finalizeStream, flushed]
      exact ⟨_, rfl⟩
    rw [transformStream, ran, Option.bind_some]
    simp only [final, Option.map_some]
    rw [contents_append, finalizeStream_content final, List.append_nil, same]

/-- A chunk with one content delta, and its line. -/
def contentChunk (content : String) : Json :=
  .obj [("choices", .arr [.obj [("delta", .obj [("content", .str content)]),
    ("finish_reason", .null)]])]

def contentDelta (content : String) : String := dataLine (contentChunk content)

theorem lineChunk_contentDelta (content : String) :
    lineChunk (contentDelta content) = some (contentChunk content) := by
  refine lineChunk_dataLine ?_ ?_
  · simp +decide
  · simp [Json.depth, Json.depth.depthFields, Json.depth.depthItems, Json.recursionLimit]

theorem lineContent_contentDelta (content : String) :
    lineContent (contentDelta content) = content.toList := by
  rw [lineContent, lineChunk_contentDelta]
  rfl

/-- Fixed draws. -/
def plainAmbient : Ambient := ⟨fun _ => "0", 0⟩

/-- Prose with a brace is not a call, and does not come through. -/
theorem braced_prose_lost :
    textContentToToolCalls plainAmbient (String.ofList (contents [contentDelta "if x \x7b y \x7d"])) = none ∧
      (transformStream (fun _ => plainAmbient) .chatCompletions [contentDelta "if x \x7b y \x7d"] false).map
        contents ≠ some (contents [contentDelta "if x \x7b y \x7d"]) := by
  refine ⟨?_, braced_content_lost _ _ _
    ⟨_, List.mem_cons_self, _, lineChunk_contentDelta _, rfl, by decide⟩⟩
  rw [contents_cons, lineContent_contentDelta]
  decide

end MtrxPeer
