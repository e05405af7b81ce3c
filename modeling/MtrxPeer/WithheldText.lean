import MtrxPeer.StreamText

/-! What the transformer of a stream withholds: nothing, or the text from a brace on.
Each line either goes on, adds to that text, or ends it; the transformer follows this
small machine, and panics only where a preview of the text would cut a character. -/
namespace MtrxPeer

/-! ## The machine -/

/-- What a line is to the transformer. -/
inductive LineKind where
  | mark
  | piece (content : String)
  | closing
  | other
  deriving DecidableEq

/-- The first choice says that the answer is finished. -/
def chunkFinished (chunk : Json) : Bool :=
  let finish := ((chunkChoices chunk).head?.bind fun choice =>
    (choice.get "finish_reason").bind Json.asStr).getD ""
  finish == "stop" || finish == "length"

/-- What a chunk is to the transformer. -/
def chunkKind (chunk : Json) : LineKind :=
  if chunkCalls chunk then .other
  else if chunkContent chunk ≠ "" then .piece (chunkContent chunk)
  else if chunkFinished chunk then .closing
  else .other

def lineKind (line : String) : LineKind :=
  if normalizeSseDataLine line = some "data: [DONE]" then .mark
  else match lineChunk line with
    | some chunk => chunkKind chunk
    | none => .other

/-- What is withheld of a piece that has a brace: all of it if only white space comes
first, else the part from the brace on. -/
def withheldPart (piece : List Char) : List Char :=
  if ['{'].isPrefixOf (trimStart piece) then piece else piece.dropWhile (· ≠ '{')

/-- The withheld text after a line. -/
def heldNext (held : Option String) : LineKind → Option String
  | .mark => none
  | .closing => none
  | .piece content =>
    match held with
    | some text => some (text ++ content)
    | none =>
      if '{' ∈ content.toList then some (String.ofList (withheldPart content.toList)) else none
  | .other => held

/-- The transformer withholds just this text. -/
structure Holds (state : SseTransformState) (held : Option String) : Prop where
  suppressed : state.suppressContent = held.isSome
  text : state.accumulated = held.getD ""
  some_ : held ≠ some ""

/-- The preview of a text cuts a character. -/
def PreviewCut (text : String) : Prop := truncatePreview text 200 = none

instance (text : String) : Decidable (PreviewCut text) :=
  inferInstanceAs (Decidable (_ = none))

/-- The lines that end a withheld text: its calls, or a chunk without content. -/
def releaseLines (ambient : Ambient) (state : SseTransformState) (text : String) : List String :=
  match textContentToToolCalls ambient text with
  | some toolCalls => streamingToolCallSseLines ambient state toolCalls
  | none => [dataLine (chatStreamChunk ambient state
      (chunkChoice (.obj [("content", .null)]) (.str "stop")))]

/-! ## The transformer follows it -/

section
variable {ambient : Ambient} {state : SseTransformState} {held : Option String}

/-- Only the format and the stream's own data are read when lines are made. -/
private theorem releaseLines_congr {a b : SseTransformState} (text : String)
    (format : a.responseFormat = b.responseFormat) (data : a.streamMeta = b.streamMeta) :
    releaseLines ambient a text = releaseLines ambient b text := by
  have chunk : ∀ choices, chatStreamChunk ambient a choices = chatStreamChunk ambient b choices := by
    intro choices
    simp only [chatStreamChunk, data]
  have calls : chatCallEvents ambient a = chatCallEvents ambient b := by
    funext call
    simp only [chatCallEvents, chunk]
  simp only [releaseLines, streamingToolCallSseLines, streamingToolCallEvents, chunk, format, calls]

theorem completeSuppressed_cut {text : String} (holds : Holds state (some text))
    (cut : PreviewCut text) : completeSuppressed ambient state = none := by
  have accumulated : state.accumulated = text := holds.text
  rw [PreviewCut] at cut
  simp only [completeSuppressed, accumulated, cut]

/-- The state once a text was released. -/
private def released (state : SseTransformState) (summary : AgentResponseSummary) : SseTransformState :=
  ⟨"", false, some summary, state.responseFormat, state.streamMeta⟩

theorem completeSuppressed_released {text : String} (holds : Holds state (some text))
    (fits : ¬PreviewCut text) :
    ∃ after, completeSuppressed ambient state = some (after, releaseLines ambient state text) ∧
      Holds after none ∧ after.responseFormat = state.responseFormat ∧
      after.streamMeta = state.streamMeta := by
  have accumulated : state.accumulated = text := holds.text
  obtain ⟨preview, made⟩ := Option.ne_none_iff_exists'.mp fits
  have idle (summary : AgentResponseSummary) : Holds (released state summary) none :=
    ⟨rfl, rfl, by simp⟩
  cases calls : textContentToToolCalls ambient text with
  | some toolCalls =>
    refine ⟨released state ⟨true, true, some "tool_calls", some preview⟩, ?_, idle _, rfl, rfl⟩
    rw [releaseLines_congr text (rfl : state.responseFormat =
      (released state ⟨true, true, some "tool_calls", some preview⟩).responseFormat) rfl]
    simp only [completeSuppressed, accumulated, made, calls, releaseLines]
    rfl
  | none =>
    refine ⟨released state ⟨false, false, some "stop", some preview⟩, ?_, idle _, rfl, rfl⟩
    rw [releaseLines_congr text (rfl : state.responseFormat =
      (released state ⟨false, false, some "stop", some preview⟩).responseFormat) rfl]
    simp only [completeSuppressed, accumulated, made, calls, releaseLines]
    rfl

/-! ## One chunk -/

/-- A line that goes on: it carries what came, is no end mark, and is not blank unless
what came is. -/
structure Passed (line sent : String) : Prop where
  chunk : lineChunk sent = lineChunk line
  blank : trim sent = "" ↔ trim line = ""
  unmarked : normalizeSseDataLine sent ≠ some "data: [DONE]"

/-- A line that goes on whatever is withheld, or while nothing is. -/
def GoesOn (held : Option String) : LineKind → Prop
  | .mark => False
  | .other => True
  | .closing => held = none
  | .piece content => held = none ∧ '{' ∉ content.toList

theorem captureStreamMeta_holds (chunk : Json) (holds : Holds state held) :
    Holds (captureStreamMeta state chunk) held := by
  refine ⟨by simpa using holds.suppressed, ?_, holds.some_⟩
  unfold captureStreamMeta
  split
  · exact holds.text
  · exact holds.text

@[simp] theorem captureStreamMeta_format (state : SseTransformState) (chunk : Json) :
    (captureStreamMeta state chunk).responseFormat = state.responseFormat := by
  unfold captureStreamMeta
  split <;> rfl

/-- The first choice of a chunk, as the transformer reads it. -/
private theorem chunk_choice {chunk choice : Json} {rest : List Json}
    (there : (chunk.get "choices").bind Json.asArray = some (choice :: rest)) :
    chunkCalls chunk = ((choice.get "delta").map hasToolCalls).getD false ∧
      chunkContent chunk = choiceContent choice ∧
      (chunkFinished chunk = true ↔
        ((choice.get "finish_reason").bind Json.asStr).getD "" = "stop" ∨
          ((choice.get "finish_reason").bind Json.asStr).getD "" = "length") := by
  have choices := chunkChoices_some there
  refine ⟨?_, ?_, ?_⟩
  · rw [chunkCalls, choices]
    rfl
  · rw [chunkContent, choices]
    rfl
  · rw [chunkFinished, choices]
    simp

private theorem chunkKind_other_of_none {chunk : Json}
    (bare : ∀ choice rest, (chunk.get "choices").bind Json.asArray ≠ some (choice :: rest)) :
    chunkKind chunk = .other := by
  have none_ : chunkChoices chunk = [] := by
    rw [chunkChoices]
    cases list : (chunk.get "choices").bind Json.asArray with
    | none => rfl
    | some choices =>
      cases choices with
      | nil => rfl
      | cons choice rest => exact absurd list (bare choice rest)
  simp [chunkKind, chunkCalls, chunkContent, chunkFinished, none_]

/-- A chunk that goes on is sent in its normal form; with structured calls it is written
again. -/
private theorem processChunk_goesOn {normalized : String} {chunk : Json} (holds : Holds state held)
    (on : GoesOn held (chunkKind chunk)) :
    ∃ after, processChunk ambient state normalized chunk =
        some (after, [if chunkCalls chunk then dataLine chunk else normalized]) ∧
      Holds after held ∧ after.responseFormat = state.responseFormat := by
  have captured := captureStreamMeta_holds chunk holds
  simp only [processChunk]
  split
  · rename_i choice rest there
    obtain ⟨calls, content, finished⟩ := chunk_choice there
    split
    · rename_i structured
      rw [calls, structured, if_pos rfl]
      exact ⟨_, rfl, ⟨captured.suppressed, captured.text, captured.some_⟩,
        captureStreamMeta_format state chunk⟩
    · rename_i unstructured
      have plain : chunkCalls chunk = false := by simpa [calls] using unstructured
      have kind : chunkKind chunk = if chunkContent chunk ≠ "" then .piece (chunkContent chunk)
          else if chunkFinished chunk then .closing else .other := by
        rw [chunkKind, plain, if_neg (by simp)]
      rw [kind] at on
      have stays : processDelta ambient (captureStreamMeta state chunk) normalized chunk choice rest =
          some (captureStreamMeta state chunk, [normalized]) := by
        simp only [processDelta]
        rw [show (((choice.get "delta").bind (Json.get · "content")).bind Json.asStr).getD "" =
          chunkContent chunk from content.symm]
        by_cases empty : chunkContent chunk = ""
        · rw [if_neg (by simp [empty]), if_neg (by rw [empty]; decide), if_neg (by rw [empty]; decide)]
          rw [if_neg (by simp [empty])] at on
          split
          · rename_i closing
            rw [if_pos (finished.mpr closing.1)] at on
            have idle : held = none := on
            rw [captured.suppressed, idle] at closing
            simp at closing
          · rfl
        · rw [if_pos (by simpa using empty)] at on
          obtain ⟨idle, none_⟩ := on
          rw [if_neg (by rw [captured.suppressed, idle]; simp),
            if_neg fun start => none_ (mem_of_start start), if_neg none_,
            if_neg (by rw [captured.suppressed, idle]; simp)]
      rw [plain, if_neg (by simp)]
      exact ⟨_, stays, captured, captureStreamMeta_format state chunk⟩
  · rename_i bare
    have plain : chunkCalls chunk = false := by
      have other := chunkKind_other_of_none bare
      by_contra structured
      rw [Bool.not_eq_false] at structured
      unfold chunkCalls at structured
      cases first : (chunkChoices chunk).head? with
      | none => simp [first] at structured
      | some choice =>
        unfold chunkChoices at first
        cases list : (chunk.get "choices").bind Json.asArray with
        | none => simp [list] at first
        | some choices =>
          cases choices with
          | nil => simp [list] at first
          | cons choice rest => exact bare choice rest list
    rw [plain, if_neg (by simp)]
    exact ⟨_, rfl, captured, captureStreamMeta_format state chunk⟩

/-- A chunk that is neither structured nor plain has a first choice. -/
private theorem chunkKind_choice {chunk : Json} (kind : chunkKind chunk ≠ .other) :
    ∃ choice rest, (chunk.get "choices").bind Json.asArray = some (choice :: rest) ∧
      ((choice.get "delta").map hasToolCalls).getD false = false := by
  cases list : (chunk.get "choices").bind Json.asArray with
  | none => exact absurd (chunkKind_other_of_none (by simp [list])) kind
  | some choices =>
    cases choices with
    | nil => exact absurd (chunkKind_other_of_none (by simp [list])) kind
    | cons choice rest =>
      refine ⟨choice, rest, rfl, ?_⟩
      by_contra structured
      rw [Bool.not_eq_false] at structured
      exact kind (by rw [chunkKind, (chunk_choice list).1, if_pos structured])

private theorem chunkKind_piece {chunk : Json} {content : String}
    (kind : chunkKind chunk = .piece content) : chunkContent chunk = content ∧ content ≠ "" := by
  unfold chunkKind at kind
  split at kind
  · cases kind
  · split at kind
    · rename_i some_
      obtain rfl := LineKind.piece.inj kind
      exact ⟨rfl, some_⟩
    · split at kind <;> cases kind

private theorem chunkKind_closing {chunk : Json} (kind : chunkKind chunk = .closing) :
    chunkContent chunk = "" ∧ chunkFinished chunk = true := by
  unfold chunkKind at kind
  split at kind
  · cases kind
  · split at kind
    · cases kind
    · rename_i empty
      split at kind
      · rename_i finished
        exact ⟨not_not.mp empty, finished⟩
      · cases kind

/-- An unstructured chunk is handled by its first choice. -/
private theorem processChunk_delta {normalized : String} {chunk choice : Json} {rest : List Json}
    (there : (chunk.get "choices").bind Json.asArray = some (choice :: rest))
    (plain : ((choice.get "delta").map hasToolCalls).getD false = false) :
    processChunk ambient state normalized chunk =
      processDelta ambient (captureStreamMeta state chunk) normalized chunk choice rest := by
  simp only [processChunk, there, plain, Bool.false_eq_true, if_false]

/-- A piece is added to the text that is withheld. -/
private theorem processChunk_held {normalized content text : String} {chunk : Json}
    (holds : Holds state (some text)) (kind : chunkKind chunk = .piece content) :
    ∃ after, processChunk ambient state normalized chunk = some (after, []) ∧
      Holds after (some (text ++ content)) ∧ after.responseFormat = state.responseFormat := by
  obtain ⟨choice, rest, there, plain⟩ := chunkKind_choice (by rw [kind]; simp)
  obtain ⟨same, some_⟩ := chunkKind_piece kind
  have captured := captureStreamMeta_holds chunk holds
  have piece : (((choice.get "delta").bind (Json.get · "content")).bind Json.asStr).getD "" =
      content := by
    rw [← same, (chunk_choice there).2.1]
    rfl
  rw [processChunk_delta there plain]
  simp only [processDelta, piece]
  rw [if_pos ⟨some_, by simpa using captured.suppressed⟩]
  refine ⟨_, rfl, ⟨?_, ?_, ?_⟩, captureStreamMeta_format state chunk⟩
  · simpa using captured.suppressed
  · simp [captured.text]
  · simp [some_]

/-- While nothing is withheld, a piece is what the first choice's delta has. -/
private theorem processChunk_piece {normalized content : String} {chunk : Json}
    (holds : Holds state none) (kind : chunkKind chunk = .piece content) :
    ∃ choice rest, (chunk.get "choices").bind Json.asArray = some (choice :: rest) ∧
      (choice.get "delta").isSome ∧
      (((choice.get "delta").bind (Json.get · "content")).bind Json.asStr).getD "" = content ∧
      processChunk ambient state normalized chunk =
        processDelta ambient (captureStreamMeta state chunk) normalized chunk choice rest ∧
      (captureStreamMeta state chunk).suppressContent = false ∧
      (captureStreamMeta state chunk).accumulated = "" := by
  obtain ⟨choice, rest, there, plain⟩ := chunkKind_choice (by rw [kind]; simp)
  obtain ⟨same, some_⟩ := chunkKind_piece kind
  have captured := captureStreamMeta_holds chunk holds
  have piece : (((choice.get "delta").bind (Json.get · "content")).bind Json.asStr).getD "" =
      content := by
    rw [← same, (chunk_choice there).2.1]
    rfl
  refine ⟨choice, rest, there, ?_, piece, processChunk_delta there plain, captured.suppressed,
    captured.text⟩
  cases value : choice.get "delta" with
  | none => exact absurd (by simpa [value] using piece.symm) some_
  | some value => rfl

/-- A piece that begins with a brace, after white space, begins a withheld text. -/
private theorem processChunk_starts {normalized content : String} {chunk : Json}
    (holds : Holds state none) (kind : chunkKind chunk = .piece content)
    (start : ['{'].isPrefixOf (trimStart content.toList)) :
    ∃ after, processChunk ambient state normalized chunk = some (after, []) ∧
      Holds after (some content) ∧ after.responseFormat = state.responseFormat := by
  obtain ⟨choice, rest, -, -, piece, ran, idle, empty⟩ :=
    @processChunk_piece ambient state normalized content chunk holds kind
  rw [ran]
  simp only [processDelta, piece, idle, Bool.false_eq_true, and_false, if_false, if_pos start, empty]
  refine ⟨_, rfl, ⟨rfl, String.empty_append, ?_⟩, captureStreamMeta_format state chunk⟩
  simpa using (chunkKind_piece kind).2

/-- A piece with a later brace begins one too; what comes before the brace is sent. -/
private theorem processChunk_before {normalized content : String} {chunk : Json}
    (holds : Holds state none) (kind : chunkKind chunk = .piece content)
    (brace : '{' ∈ content.toList) (later : ¬['{'].isPrefixOf (trimStart content.toList)) :
    ∃ after choice rest, (chunk.get "choices").bind Json.asArray = some (choice :: rest) ∧
      (choice.get "delta").isSome ∧
      processChunk ambient state normalized chunk = some (after, [dataLine (chunk.insert "choices"
        (.arr (choice.insert "delta" (.obj [("content",
          .str (String.ofList (content.toList.takeWhile (· ≠ '{'))))]) :: rest)))]) ∧
      Holds after (some (String.ofList (content.toList.dropWhile (· ≠ '{')))) ∧
      after.responseFormat = state.responseFormat := by
  obtain ⟨choice, rest, there, delta, piece, ran, idle, empty⟩ :=
    @processChunk_piece ambient state normalized content chunk holds kind
  have before : content.toList.takeWhile (· ≠ '{') ≠ [] := by
    intro none_
    cases list : content.toList with
    | nil => simp [list] at brace
    | cons c more =>
      obtain rfl : c = '{' := by
        by_contra other
        rw [list, List.takeWhile_cons_of_pos (by simpa using other)] at none_
        cases none_
      exact later (by rw [list]; rfl)
  have kept : String.ofList (content.toList.dropWhile (· ≠ '{')) ≠ "" := by
    intro none_
    have list : content.toList.dropWhile (· ≠ '{') = [] := by
      simpa using congrArg String.toList none_
    have all := List.dropWhile_eq_nil_iff.mp list '{' brace
    simp at all
  refine ⟨{ captureStreamMeta state chunk with
      suppressContent := true
      accumulated := String.ofList (content.toList.dropWhile (· ≠ '{')) },
    choice, rest, there, delta, ?_, ⟨rfl, rfl, by simpa using kept⟩,
    captureStreamMeta_format state chunk⟩
  rw [ran]
  simp only [processDelta, piece, idle, Bool.false_eq_true, and_false, if_false, if_neg later,
    if_pos brace, if_neg before, empty, String.empty_append]

/-- A closing chunk completes the text that is withheld. -/
private theorem processChunk_closes {normalized text : String} {chunk : Json}
    (holds : Holds state (some text)) (kind : chunkKind chunk = .closing) :
    processChunk ambient state normalized chunk =
      completeSuppressed ambient (captureStreamMeta state chunk) := by
  obtain ⟨choice, rest, there, plain⟩ := chunkKind_choice (by rw [kind]; simp)
  obtain ⟨empty, finished⟩ := chunkKind_closing kind
  have captured := captureStreamMeta_holds chunk holds
  have piece : (((choice.get "delta").bind (Json.get · "content")).bind Json.asStr).getD "" = "" := by
    have content := (chunk_choice there).2.1
    rw [empty] at content
    exact content.symm
  rw [processChunk_delta there plain]
  simp only [processDelta, piece]
  rw [if_neg (by simp), if_neg (by decide), if_neg (by decide),
    if_pos ⟨(chunk_choice there).2.2.mp finished, captured.suppressed⟩]

/-! ## The end of a stream -/

theorem flushOnStreamEnd_idle (holds : Holds state none) :
    flushOnStreamEnd ambient state = some (state, []) := by
  rw [flushOnStreamEnd, if_pos (.inl holds.suppressed)]

private theorem flushOnStreamEnd_completes {text : String} (holds : Holds state (some text)) :
    flushOnStreamEnd ambient state = completeSuppressed ambient state := by
  have suppressed : state.suppressContent = true := holds.suppressed
  have some_ : state.accumulated ≠ "" := by
    rw [holds.text]
    exact fun none_ => holds.some_ (congrArg some none_)
  have normal : normalizeSseDataLine (dataLine syntheticStop) = some (dataLine syntheticStop) :=
    normalize_dataLine _
  have read : Json.fromText (linePayload (dataLine syntheticStop)) = some syntheticStop := by
    have chunk : lineChunk (dataLine syntheticStop) = some syntheticStop := by
      refine lineChunk_dataLine ?_ ?_
      · simp +decide
      · simp [Json.depth, Json.depth.depthFields, Json.depth.depthItems, Json.recursionLimit]
    rwa [lineChunk, normal, Option.bind_some] at chunk
  have unnamed : captureStreamMeta state syntheticStop = state := by
    unfold captureStreamMeta
    split
    · rfl
    · rename_i none_
      have id : state.streamMeta.id = none := by simpa using none_
      obtain ⟨text, suppress, summary, format, ⟨id_, model, created⟩⟩ := state
      obtain rfl : id_ = none := id
      rfl
  rw [flushOnStreamEnd, if_neg (by simp [suppressed, some_]), normal]
  dsimp only
  rw [processData_read read, processChunk_closes holds rfl, unnamed]

/-- The withheld text at the end: a panic if its preview cuts a character, else its lines. -/
theorem flushOnStreamEnd_held {text : String} (holds : Holds state (some text)) :
    (PreviewCut text → flushOnStreamEnd ambient state = none) ∧
      (¬PreviewCut text →
        ∃ after, flushOnStreamEnd ambient state = some (after, releaseLines ambient state text) ∧
          Holds after none ∧ after.responseFormat = state.responseFormat) := by
  rw [flushOnStreamEnd_completes holds]
  refine ⟨completeSuppressed_cut holds, fun fits => ?_⟩
  obtain ⟨after, ran, idle, format, -⟩ := completeSuppressed_released holds fits
  exact ⟨after, ran, idle, format⟩

/-! ## One line -/

private theorem lineKind_chunk {line : String} {kind : LineKind} (is : lineKind line = kind)
    (notMark : kind ≠ .mark) (notOther : kind ≠ .other) :
    ∃ normalized chunk, normalizeSseDataLine line = some normalized ∧
      normalized ≠ "data: [DONE]" ∧ Json.fromText (linePayload normalized) = some chunk ∧
      chunkKind chunk = kind := by
  unfold lineKind at is
  split at is
  · exact absurd is.symm notMark
  · rename_i unmarked
    split at is
    · rename_i chunk carried
      obtain ⟨normalized, recognised, read⟩ := Option.bind_eq_some_iff.mp carried
      refine ⟨normalized, chunk, recognised, ?_, read, is⟩
      rintro rfl
      exact unmarked recognised
    · exact absurd is.symm notOther

private theorem processLine_chunk {line normalized : String} {chunk : Json}
    (recognised : normalizeSseDataLine line = some normalized) (unmarked : normalized ≠ "data: [DONE]")
    (read : Json.fromText (linePayload normalized) = some chunk) :
    processLine ambient state line = processChunk ambient state normalized chunk := by
  simp only [processLine, recognised, if_neg unmarked, processData_read read]

/-- A line in normal form is not blank. -/
private theorem normalized_solid {line normalized : String}
    (recognised : normalizeSseDataLine line = some normalized) :
    trim normalized ≠ "" ∧ trim line ≠ "" := by
  have solid : ∀ text found, normalizeSseDataLine text = some found → trim text ≠ "" := by
    intro text found some_ blank
    rw [normalizeSseDataLine, if_pos blank] at some_
    cases some_
  exact ⟨solid _ _ (normalize_normalized recognised), solid _ _ recognised⟩

/-- A line as it goes on: in its normal form, and written again with structured calls. -/
def passedLine (line : String) : String :=
  match (lineChunk line).filter chunkCalls with
  | some chunk => dataLine chunk
  | none => (normalizeSseDataLine line).getD line

/-- A line that goes on is sent, and nothing else changes. -/
theorem processLine_passes {line : String} (holds : Holds state held)
    (on : GoesOn held (lineKind line)) :
    ∃ after, processLine ambient state line = some (after, [passedLine line]) ∧ Holds after held ∧
      after.responseFormat = state.responseFormat := by
  cases recognised : normalizeSseDataLine line with
  | none =>
    have bare : lineChunk line = none := by rw [lineChunk, recognised, Option.bind_none]
    refine ⟨state, ?_, holds, rfl⟩
    rw [passedLine, bare, recognised]
    simp only [processLine, recognised, Option.filter_none, Option.getD_none]
  | some normalized =>
    have unmarked : normalized ≠ "data: [DONE]" := by
      rintro rfl
      rw [lineKind, if_pos recognised] at on
      exact on
    have carried : lineChunk line = Json.fromText (linePayload normalized) := by
      rw [lineChunk, recognised, Option.bind_some]
    cases read : Json.fromText (linePayload normalized) with
    | none =>
      refine ⟨state, ?_, holds, rfl⟩
      rw [passedLine, carried, read, recognised]
      simp only [processLine, recognised, if_neg unmarked, processData_unread read,
        Option.filter_none, Option.getD_some]
    | some chunk =>
      have kind : lineKind line = chunkKind chunk := by
        rw [lineKind, if_neg (by simpa [recognised] using unmarked), carried, read]
      rw [kind] at on
      obtain ⟨after, ran, held_, format⟩ :=
        @processChunk_goesOn ambient state held normalized chunk holds on
      refine ⟨after, ?_, held_, format⟩
      rw [processLine_chunk recognised unmarked read, ran, passedLine, carried, read, recognised]
      by_cases structured : chunkCalls chunk = true
      · rw [if_pos structured, Option.filter_some, if_pos structured]
      · rw [if_neg structured, Option.filter_some, if_neg structured]
        rfl

/-- What goes on carries what came. -/
theorem passed_passedLine {line : String} (on : GoesOn held (lineKind line)) :
    Passed line (passedLine line) := by
  cases recognised : normalizeSseDataLine line with
  | none =>
    have bare : lineChunk line = none := by rw [lineChunk, recognised, Option.bind_none]
    have same : passedLine line = line := by rw [passedLine, bare, recognised]; rfl
    rw [same]
    refine ⟨rfl, Iff.rfl, ?_⟩
    rw [recognised]
    simp
  | some normalized =>
    have unmarked : normalized ≠ "data: [DONE]" := by
      rintro rfl
      rw [lineKind, if_pos recognised] at on
      exact on
    have again := normalize_normalized recognised
    have solid := normalized_solid recognised
    cases structured : (lineChunk line).filter chunkCalls with
    | none =>
      have same : passedLine line = normalized := by rw [passedLine, structured, recognised]; rfl
      rw [same]
      refine ⟨lineChunk_normalized recognised, iff_of_false solid.1 solid.2, ?_⟩
      rw [again]
      simpa using unmarked
    | some chunk =>
      have same : passedLine line = dataLine chunk := by rw [passedLine, structured]
      obtain ⟨carried, calls⟩ := Option.filter_eq_some_iff.mp structured
      have read : Json.fromText (linePayload normalized) = some chunk := by
        rw [lineChunk, recognised, Option.bind_some] at carried
        exact carried
      obtain ⟨valid, deep⟩ := Json.fromText_valid read
      rw [same]
      cases chunk with
      | obj fields =>
        have normal := normalize_dataLine fields
        have written := normalized_solid normal
        refine ⟨by rw [lineChunk_dataLine valid deep, carried], iff_of_false written.1 solid.2, ?_⟩
        rw [normal]
        simpa using dataLine_ne_done fields
      | _ => simp [chunkCalls, chunkChoices, Json.get] at calls

/-- A line that goes on is passed, and nothing else changes. -/
theorem processLine_goesOn {line : String} (holds : Holds state held)
    (on : GoesOn held (lineKind line)) :
    ∃ after sent, processLine ambient state line = some (after, [sent]) ∧ Holds after held ∧
      after.responseFormat = state.responseFormat ∧ Passed line sent := by
  obtain ⟨after, ran, held_, format⟩ := @processLine_passes ambient state held line holds on
  exact ⟨after, passedLine line, ran, held_, format, passed_passedLine on⟩

/-- While text is withheld, a piece adds to it. -/
theorem processLine_held {line content text : String} (holds : Holds state (some text))
    (kind : lineKind line = .piece content) :
    ∃ after, processLine ambient state line = some (after, []) ∧
      Holds after (some (text ++ content)) ∧ after.responseFormat = state.responseFormat := by
  obtain ⟨normalized, chunk, recognised, unmarked, read, is⟩ :=
    lineKind_chunk kind (by simp) (by simp)
  rw [processLine_chunk recognised unmarked read]
  exact processChunk_held holds is

/-- What is sent of a piece whose brace begins a withheld text: nothing, or the part
before the brace. -/
def SentBefore (content : String) (out : List String) : Prop :=
  out = [] ∨ ∃ fields, (Json.obj fields).Valid ∧ (Json.obj fields).depth < Json.recursionLimit ∧
    chunkContent (.obj fields) = String.ofList (content.toList.takeWhile (· ≠ '{')) ∧
    chunkCalls (.obj fields) = false ∧ out = [dataLine (.obj fields)]

/-- A piece that begins with a brace is withheld whole. -/
theorem processLine_starts {line content : String} (holds : Holds state none)
    (kind : lineKind line = .piece content) (start : ['{'].isPrefixOf (trimStart content.toList)) :
    ∃ after, processLine ambient state line = some (after, []) ∧ Holds after (some content) ∧
      after.responseFormat = state.responseFormat := by
  obtain ⟨normalized, chunk, recognised, unmarked, read, is⟩ :=
    lineKind_chunk kind (by simp) (by simp)
  rw [processLine_chunk recognised unmarked read]
  exact processChunk_starts holds is start

/-- Of another piece with a brace the part before it is sent, in the chunk it came in. -/
theorem processLine_before {line content : String} (holds : Holds state none)
    (kind : lineKind line = .piece content) (brace : '{' ∈ content.toList)
    (later : ¬['{'].isPrefixOf (trimStart content.toList)) :
    ∃ after chunk fields, processLine ambient state line = some (after, [dataLine (.obj fields)]) ∧
      Holds after (some (String.ofList (content.toList.dropWhile (· ≠ '{')))) ∧
      after.responseFormat = state.responseFormat ∧ (Json.obj fields).Valid ∧
      (Json.obj fields).depth < Json.recursionLimit ∧
      chunkContent (.obj fields) = String.ofList (content.toList.takeWhile (· ≠ '{')) ∧
      chunkCalls (.obj fields) = false ∧ lineChunk line = some chunk ∧
      ∀ key, key ≠ "choices" → (Json.obj fields).get key = chunk.get key := by
  obtain ⟨normalized, chunk, recognised, unmarked, read, is⟩ :=
    lineKind_chunk kind (by simp) (by simp)
  obtain ⟨after, choice, rest, there, delta, ran, held_, format⟩ :=
    @processChunk_before ambient state normalized content chunk holds is brace later
  obtain ⟨fields, inner, same, valid, deep, choices, value⟩ :=
    replaced_chunk read there delta (beforeDelta_sound content).1 (beforeDelta_sound content).2
  refine ⟨after, chunk, fields, ?_, held_, format, valid, deep, ?_, ?_, ?_, ?_⟩
  · rw [processLine_chunk recognised unmarked read, ran, same]
  · rw [chunkContent_first choices, choiceContent_delta value, content_obj]
  · rw [chunkCalls, choices]
    simp only [List.head?_cons, Option.bind_some, value, Option.map_some, Option.getD_some]
    rfl
  · rw [lineChunk, recognised, Option.bind_some, read]
  · intro key other
    rw [← same, Json.get_insert_of_ne other]

theorem processLine_opens {line content : String} (holds : Holds state none)
    (kind : lineKind line = .piece content) (brace : '{' ∈ content.toList) :
    ∃ after out, processLine ambient state line = some (after, out) ∧
      Holds after (some (String.ofList (withheldPart content.toList))) ∧
      after.responseFormat = state.responseFormat ∧ SentBefore content out := by
  by_cases start : ['{'].isPrefixOf (trimStart content.toList)
  · obtain ⟨after, ran, held_, format⟩ := @processLine_starts ambient state _ _ holds kind start
    refine ⟨after, [], ran, ?_, format, .inl rfl⟩
    rwa [withheldPart, if_pos start, String.ofList_toList]
  · obtain ⟨after, -, fields, ran, held_, format, valid, deep, content_, calls, -⟩ :=
      @processLine_before ambient state _ _ holds kind brace start
    refine ⟨after, _, ran, ?_, format, .inr ⟨fields, valid, deep, content_, calls, rfl⟩⟩
    rwa [withheldPart, if_neg start]

/-- A closing chunk ends the withheld text. -/
theorem processLine_closing {line text : String} (holds : Holds state (some text))
    (kind : lineKind line = .closing) :
    (PreviewCut text → processLine ambient state line = none) ∧
      (¬PreviewCut text → ∃ after captured,
        processLine ambient state line = some (after, releaseLines ambient captured text) ∧
          Holds after none ∧ after.responseFormat = state.responseFormat ∧
          captured.responseFormat = state.responseFormat) := by
  obtain ⟨normalized, chunk, recognised, unmarked, read, is⟩ :=
    lineKind_chunk kind (by simp) (by simp)
  have captured := captureStreamMeta_holds chunk holds
  rw [processLine_chunk recognised unmarked read, processChunk_closes holds is]
  refine ⟨completeSuppressed_cut captured, fun fits => ?_⟩
  obtain ⟨after, ran, idle, format, -⟩ := completeSuppressed_released captured fits
  rw [captureStreamMeta_format] at format
  exact ⟨after, _, ran, idle, format, captureStreamMeta_format state chunk⟩

theorem lineKind_mark {line : String} :
    lineKind line = .mark ↔ normalizeSseDataLine line = some "data: [DONE]" := by
  refine ⟨fun kind => ?_, fun mark => by rw [lineKind, if_pos mark]⟩
  by_contra other
  rw [lineKind, if_neg other] at kind
  split at kind
  · unfold chunkKind at kind
    split_ifs at kind
  · cases kind

/-- The end mark ends the withheld text too, and is sent. -/
theorem processLine_mark {line : String} (kind : lineKind line = .mark) :
    processLine ambient state line =
      (flushOnStreamEnd ambient state).map fun (state, out) => (state, out ++ ["data: [DONE]"]) := by
  simp only [processLine, lineKind_mark.mp kind, if_true]

end

end MtrxPeer
