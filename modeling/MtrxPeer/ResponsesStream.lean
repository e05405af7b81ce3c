import MtrxPeer.ToolCallAgreement

/-! Streams in the Responses format. The transformer makes events of that format of a
call in the text alone; everything else goes on as chunks of a chat stream. So a stream
is one of that format exactly when it is nothing but such a call. -/
namespace MtrxPeer

/-! ## Events -/

def eventType (event : Json) : Option String := (event.get "type").bind Json.asStr

/-- The type of an event starts with `response.`. -/
def responseEvent (event : Json) : Bool :=
  (eventType event).any fun type => "response.".toList.isPrefixOf type.toList

def completedEvent (event : Json) : Bool := eventType event == some "response.completed"

/-- The output items of a completed event. -/
def eventOutput (event : Json) : Option Json := (event.get "response").bind (Json.get · "output")

/-- The events are of the format, and the only completed one comes last, with the output
items that the whole answer has in that format, for some draws. -/
def RespondsAs (sent : Option (List String)) (body : Json) : Prop :=
  ∃ out front last, sent = some out ∧ streamEvents out = front ++ [last] ∧
    (∀ event ∈ front ++ [last], responseEvent event = true) ∧
    (∀ event ∈ front, completedEvent event = false) ∧ completedEvent last = true ∧
    ∃ ambient again rewritten, (rewriteChatResponse ambient body).map Prod.fst = some rewritten ∧
      eventOutput last = (chatCompletionToResponses again rewritten).get "output"

/-- A line of a chat stream: the end mark, no data line, or a chunk, which is no event
of the Responses format. -/
def ChatLine (line : String) : Prop :=
  lineKind line = .mark ∨ normalizeSseDataLine line = none ∨
    ∃ chunk, lineChunk line = some chunk ∧ responseEvent chunk = false

/-- The whole answer with the content of a stream: its text, where the stream has no
structured calls. -/
def AnswerOf (lines : List String) (body : Json) : Prop :=
  (∀ line ∈ lines, lineParts line = []) → TextAnswer body (joined (linePieces lines))

/-! ## Streams of one call -/

/-- A line without a chunk. -/
def Bare (line : String) : Prop := lineChunk line = none

/-- A piece that begins with a brace, after white space. -/
def Opening (piece : String) : Prop := ['{'].isPrefixOf (trimStart piece.toList) = true

/-- Once text is withheld, only text comes until something ends it, and no chunk after. -/
def EndsCall : List String → Prop
  | [] => True
  | line :: rest =>
    match lineKind line with
    | .piece _ => EndsCall rest
    | .other => Bare line ∧ EndsCall rest
    | .closing => ∀ other ∈ rest, Bare other
    | .mark => ∀ other ∈ rest, Bare other

/-- The first chunk is text that begins with a brace. -/
def OnlyCall : List String → Prop
  | [] => False
  | line :: rest =>
    match lineKind line with
    | .piece content => Opening content ∧ EndsCall rest
    | _ => Bare line ∧ OnlyCall rest

/-! ## Text that begins with a brace -/

theorem opening_calls (ambient : Ambient) {text : String} (opening : Opening text) :
    textContentToToolCalls ambient text = (firstCall text).map (singleCall ambient) := by
  obtain ⟨rest, found⟩ := List.isPrefixOf_iff_prefix.mp opening
  obtain ⟨tail, same⟩ := trimEnd_braced rest
  have trimmed : (trim text).toList = '{' :: tail := by
    rw [← @String.ofList_toList text, trim_ofList, String.toList_ofList, ← found]
    exact same
  have one : ∀ items, callItems (trim text).toList = some items → OneNamed items := by
    intro items listed
    have plain : "```".toList.isPrefixOf ('{' :: tail) = false := rfl
    rw [trimmed, callItems, arrayItems_braced rfl, plain] at listed
    cases listed
  exact textContentToToolCalls_one ambient text one

theorem opening_append {text : String} (opening : Opening text) (more : String) :
    Opening (text ++ more) := by
  obtain ⟨rest, found⟩ := List.isPrefixOf_iff_prefix.mp opening
  have kept : ¬(text.toList.dropWhile isWhitespace).isEmpty := by
    have some_ : trimStart text.toList ≠ [] := by rw [← found]; simp
    simpa [trimStart] using some_
  rw [Opening, String.toList_append, trimStart, List.dropWhile_append, if_neg kept]
  exact List.isPrefixOf_iff_prefix.mpr ⟨rest ++ more.toList, by rw [← List.append_assoc, found]; rfl⟩

/-! ## Events that are released -/

theorem streamEvents_lines {events : List Json} (silent : ∀ event ∈ events, Silent event) :
    streamEvents (events.map dataLine) = events := by
  induction events with
  | nil => rfl
  | cons event rest ih =>
    obtain ⟨fields, rfl, valid, deep, -⟩ := silent event List.mem_cons_self
    rw [List.map_cons, streamEvents, List.filterMap_cons, lineChunk_dataLine valid deep]
    exact congrArg _ (ih fun other member => silent other (List.mem_cons_of_mem _ member))

theorem chunk_plain (ambient : Ambient) (state : SseTransformState) (choices : Json) :
    responseEvent (chatStreamChunk ambient state choices) = false := by
  simp [responseEvent, eventType, chatStreamChunk, List.lookup_cons]

private theorem callEvents_typed (i : Nat) (call : ToolCallFields) :
    ∀ event ∈ responsesCallEvents i call,
      responseEvent event = true ∧ completedEvent event = false := by
  intro event member
  simp only [responsesCallEvents, List.mem_cons, List.not_mem_nil, or_false] at member
  rcases member with rfl | rfl
  · have type : ∀ item index, eventType (.obj [("item", item), ("output_index", index),
        ("type", .str "response.output_item.added")]) = some "response.output_item.added" := by
      simp [eventType, List.lookup_cons]
    rw [responseEvent, completedEvent, type]
    decide
  · have type : ∀ args id name, eventType (.obj [("arguments", args), ("call_id", id),
        ("name", name), ("type", .str "response.function_call_arguments.done")]) =
          some "response.function_call_arguments.done" := by
      simp [eventType, List.lookup_cons]
    rw [responseEvent, completedEvent, type]
    decide

/-- The events of calls: the last one is the only completed one. -/
theorem callsStream_events (ambient : Ambient) (toolCalls : List Json) :
    ∃ front last, responsesStreamFromToolCalls ambient toolCalls = front ++ [last] ∧
      (∀ event ∈ front ++ [last], responseEvent event = true) ∧
      (∀ event ∈ front, completedEvent event = false) ∧ completedEvent last = true ∧
      eventOutput last = some (.arr ((toolCalls.map toolCallFields).map responsesCallItem)) := by
  have typed : ∀ response, eventType (.obj [("response", response),
      ("type", .str "response.completed")]) = some "response.completed" := by
    simp [eventType, List.lookup_cons]
  have front : ∀ event ∈ (toolCalls.map toolCallFields).zipIdx.flatMap
      (fun entry => responsesCallEvents entry.2 entry.1),
      responseEvent event = true ∧ completedEvent event = false := by
    intro event member
    obtain ⟨⟨call, i⟩, -, mine⟩ := List.mem_flatMap.mp member
    exact callEvents_typed i call event mine
  refine ⟨_, _, rfl, ?_, fun event member => (front event member).2, ?_, ?_⟩
  · intro event member
    rcases List.mem_append.mp member with one | last
    · exact (front event one).1
    · obtain rfl := List.mem_singleton.mp last
      rw [responseEvent, typed]
      decide
  · rw [completedEvent, typed]
    decide
  · simp [eventOutput, List.lookup_cons]

/-- What is released of a text in this format: the events of its calls, or a chunk. -/
theorem release_events (ambient : Ambient) (state : SseTransformState)
    (format : state.responseFormat = .responsesApi) (text : String) :
    (∀ toolCalls, textContentToToolCalls ambient text = some toolCalls →
      streamEvents (releaseLines ambient state text) =
        responsesStreamFromToolCalls ambient toolCalls) ∧
      (textContentToToolCalls ambient text = none →
        ∃ event ∈ streamEvents (releaseLines ambient state text), responseEvent event = false) := by
  refine ⟨fun toolCalls calls => ?_, fun none_ => ?_⟩
  · have silent := streamingToolCallEvents_silent ambient state toolCalls
    have events : streamingToolCallEvents ambient state toolCalls =
        responsesStreamFromToolCalls ambient toolCalls := by
      rw [streamingToolCallEvents, if_pos format]
    rw [releaseLines, calls]
    simp only [streamingToolCallSseLines]
    rw [streamEvents_lines silent, events]
  · rw [releaseLines, none_]
    have only := @streamEvents_lines [chatStreamChunk ambient state
      (chunkChoice (.obj [("content", .null)]) (.str "stop"))]
      (by simpa using closing_silent ambient state)
    rw [List.map_singleton] at only
    exact ⟨_, by rw [only]; exact List.mem_singleton.mpr rfl, chunk_plain ambient state _⟩

/-! ## What one line of a stream can do -/

theorem mark_bare {line : String} (kind : lineKind line = .mark) : Bare line := by
  rw [Bare, lineChunk, lineKind_mark.mp kind]
  decide

/-- A line without a chunk is no text and no finish reason. -/
theorem bare_kind {line : String} (bare : Bare line) :
    lineKind line = .mark ∨ lineKind line = .other := by
  rw [Bare] at bare
  unfold lineKind
  split
  · exact .inl rfl
  · rw [bare]
    exact .inr rfl

section
variable {ambients : Nat → Ambient} {last : Ambient} {state : SseTransformState}
  {doneSent : Bool} {line text : String} {rest out : List String}

private theorem endStream_split (ran : endStream ambients last state (line :: rest) doneSent = some out) :
    ∃ between one more, processLine (ambients rest.length) state line = some (between, one) ∧
      endStream ambients last between rest doneSent = some more ∧ out = one ++ more := by
  rw [endStream_cons] at ran
  obtain ⟨⟨between, one⟩, step, later⟩ := Option.bind_eq_some_iff.mp ran
  obtain ⟨more, tail, rfl⟩ := Option.map_eq_some_iff.mp later
  exact ⟨between, one, more, step, tail, rfl⟩

/-- While nothing is withheld, a line passes, or is text with a brace, which is withheld
from there on; what comes before the brace is sent in the chunk it came in. -/
theorem idle_step (holds : Holds state none)
    (ran : endStream ambients last state (line :: rest) doneSent = some out) :
    ∃ between more, endStream ambients last between rest doneSent = some more ∧
      between.responseFormat = state.responseFormat ∧
      ((Holds between none ∧ (lineKind line = .mark ∨ GoesOn none (lineKind line)) ∧
          streamEvents out = (lineChunk line).toList ++ streamEvents more) ∨
        (∃ content, lineKind line = .piece content ∧ Opening content ∧ Holds between (some content) ∧
          streamEvents out = streamEvents more) ∨
        ∃ text chunk event, lineChunk line = some chunk ∧ Holds between (some text) ∧
          eventType event = eventType chunk ∧ streamEvents out = event :: streamEvents more) := by
  obtain ⟨between, one, more, step, tail, rfl⟩ := endStream_split ran
  have passes (on : lineKind line = .mark ∨ GoesOn none (lineKind line)) :
      between.responseFormat = state.responseFormat ∧ Holds between none ∧
        streamEvents (one ++ more) = (lineChunk line).toList ++ streamEvents more := by
    obtain ⟨after, sent, step', kept, format, events⟩ :=
      @processLine_idle (ambients rest.length) _ _ holds on
    obtain ⟨rfl, rfl⟩ := Prod.mk.inj (Option.some.inj (step.symm.trans step'))
    exact ⟨format, kept, by rw [streamEvents_append, events]⟩
  by_cases on : lineKind line = .mark ∨ GoesOn none (lineKind line)
  · obtain ⟨format, kept, events⟩ := passes on
    exact ⟨between, more, tail, format, .inl ⟨kept, on, events⟩⟩
  · obtain ⟨content, kind, brace⟩ : ∃ content, lineKind line = .piece content ∧ '{' ∈ content.toList := by
      cases kind : lineKind line with
      | piece content => exact ⟨content, rfl, by simpa [kind, GoesOn] using on⟩
      | _ => simp [kind, GoesOn] at on
    by_cases start : Opening content
    · obtain ⟨after, step', kept, format⟩ :=
        @processLine_starts (ambients rest.length) _ _ _ holds kind start
      obtain ⟨rfl, rfl⟩ := Prod.mk.inj (Option.some.inj (step.symm.trans step'))
      exact ⟨between, more, tail, format, .inr (.inl ⟨content, kind, start, kept, rfl⟩)⟩
    · obtain ⟨after, chunk, fields, step', kept, format, valid, deep, -, -, carried, same⟩ :=
        @processLine_before (ambients rest.length) _ _ _ holds kind brace start
      obtain ⟨rfl, rfl⟩ := Prod.mk.inj (Option.some.inj (step.symm.trans step'))
      refine ⟨between, more, tail, format, .inr (.inr ⟨_, chunk, .obj fields, carried, kept, ?_, ?_⟩)⟩
      · rw [eventType, eventType, same "type" (by decide)]
      · rw [streamEvents_append, streamEvents_cons, lineChunk_dataLine valid deep]
        rfl

/-- While text is withheld, more text is added to it, another line passes, and a finish
reason or the end mark releases it. -/
theorem held_step (holds : Holds state (some text))
    (ran : endStream ambients last state (line :: rest) doneSent = some out) :
    ∃ between more, endStream ambients last between rest doneSent = some more ∧
      between.responseFormat = state.responseFormat ∧
      ((∃ content, lineKind line = .piece content ∧ Holds between (some (text ++ content)) ∧
          streamEvents out = streamEvents more) ∨
        (lineKind line = .other ∧ Holds between (some text) ∧
          streamEvents out = (lineChunk line).toList ++ streamEvents more) ∨
        ∃ ambient captured, (lineKind line = .closing ∨ lineKind line = .mark) ∧ ¬PreviewCut text ∧
          captured.responseFormat = state.responseFormat ∧ Holds between none ∧
          streamEvents out =
            streamEvents (releaseLines ambient captured text) ++ streamEvents more) := by
  obtain ⟨between, one, more, step, tail, rfl⟩ := endStream_split ran
  cases kind : lineKind line with
  | piece content =>
    obtain ⟨after, step', kept, format⟩ := @processLine_held (ambients rest.length) _ _ _ _ holds kind
    obtain ⟨rfl, rfl⟩ := Prod.mk.inj (Option.some.inj (step.symm.trans step'))
    exact ⟨between, more, tail, format, .inl ⟨content, rfl, kept, rfl⟩⟩
  | other =>
    obtain ⟨after, sent, step', kept, format, passed⟩ :=
      @processLine_goesOn (ambients rest.length) _ _ line holds (by rw [kind]; trivial)
    obtain ⟨rfl, rfl⟩ := Prod.mk.inj (Option.some.inj (step.symm.trans step'))
    refine ⟨between, more, tail, format, .inr (.inl ⟨rfl, kept, ?_⟩)⟩
    rw [streamEvents_append, streamEvents_passed passed]
  | closing =>
    obtain ⟨cut, fits⟩ := @processLine_closing (ambients rest.length) _ _ _ holds kind
    have fine : ¬PreviewCut text := by
      intro panics
      rw [cut panics] at step
      cases step
    obtain ⟨after, captured, step', idle, format, format'⟩ := fits fine
    obtain ⟨reached, sent⟩ := Prod.mk.inj (Option.some.inj (step.symm.trans step'))
    rw [← reached] at format idle
    rw [sent]
    exact ⟨between, more, tail, format,
      .inr (.inr ⟨_, captured, .inl rfl, fine, format', idle, streamEvents_append _ _⟩)⟩
  | mark =>
    obtain ⟨cut, fits⟩ := @flushOnStreamEnd_held (ambients rest.length) _ _ holds
    rw [processLine_mark kind] at step
    have fine : ¬PreviewCut text := by
      intro panics
      rw [cut panics] at step
      cases step
    obtain ⟨after, flush, idle, format⟩ := fits fine
    rw [flush, Option.map_some] at step
    obtain ⟨rfl, rfl⟩ := Prod.mk.inj (Option.some.inj step)
    refine ⟨after, more, tail, format,
      .inr (.inr ⟨ambients rest.length, state, .inr rfl, fine, rfl, idle, ?_⟩)⟩
    rw [streamEvents_append, streamEvents_append, done_event, List.append_nil]

/-- The end of the stream releases what is withheld. -/
theorem held_nil (holds : Holds state (some text))
    (ran : endStream ambients last state [] doneSent = some out) :
    ¬PreviewCut text ∧ streamEvents out = streamEvents (releaseLines last state text) := by
  obtain ⟨cut, fits⟩ := @flushOnStreamEnd_held last _ _ holds
  have fine : ¬PreviewCut text := by
    intro panics
    simp only [endStream, processLines, Option.bind_some, finalizeStream, cut panics,
      Option.map_none] at ran
    cases ran
  obtain ⟨after, flush, -⟩ := fits fine
  obtain ⟨more, ran', same⟩ := @endStream_nil ambients _ last doneSent _ _ flush
  obtain rfl := Option.some.inj (ran.symm.trans ran')
  exact ⟨fine, same⟩

/-! ## A stream of the format is one call -/

/-- What is released in this format, if all its events are of it: the events of calls. -/
private theorem release_typed {ambient : Ambient} (format : state.responseFormat = .responsesApi)
    (typed : ∀ event ∈ streamEvents (releaseLines ambient state text), responseEvent event = true) :
    (∃ toolCalls, textContentToToolCalls ambient text = some toolCalls) ∧
      0 < (streamEvents (releaseLines ambient state text)).countP completedEvent := by
  obtain ⟨calls, chunk⟩ := release_events ambient state format text
  cases found : textContentToToolCalls ambient text with
  | none =>
    obtain ⟨event, member, plain⟩ := chunk found
    rw [typed event member] at plain
    cases plain
  | some toolCalls =>
    obtain ⟨front, last, events, -, -, completed, -⟩ := callsStream_events ambient toolCalls
    refine ⟨⟨toolCalls, rfl⟩, List.countP_pos_iff.mpr ⟨last, ?_, completed⟩⟩
    rw [calls toolCalls found, events]
    simp

/-- A withheld text is completed in the end. -/
private theorem held_completes {lines : List String} (holds : Holds state (some text))
    (format : state.responseFormat = .responsesApi)
    (ran : endStream ambients last state lines doneSent = some out)
    (typed : ∀ event ∈ streamEvents out, responseEvent event = true) :
    0 < (streamEvents out).countP completedEvent := by
  induction lines generalizing state text out with
  | nil =>
    obtain ⟨-, events⟩ := held_nil holds ran
    rw [events] at typed ⊢
    exact (release_typed format typed).2
  | cons line rest ih =>
    obtain ⟨between, more, tail, same, ⟨content, -, kept, events⟩ | ⟨-, kept, events⟩ |
      ⟨ambient, captured, -, -, format', -, events⟩⟩ := held_step holds ran
    · rw [events] at typed ⊢
      exact ih kept (same.trans format) tail typed
    · rw [events] at typed ⊢
      have later := ih kept (same.trans format) tail
        fun event member => typed event (List.mem_append_right _ member)
      rw [List.countP_append]
      omega
    · rw [events] at typed ⊢
      have released := (release_typed (format'.trans format)
        fun event member => typed event (List.mem_append_left _ member)).2
      rw [List.countP_append]
      omega

/-- A chunk of a chat stream is no event of the format. -/
private theorem chatLine_chunk {chunk : Json} (chat : ChatLine line)
    (carried : lineChunk line = some chunk) : responseEvent chunk = false := by
  rcases chat with mark | blank | ⟨other, found, plain⟩
  · rw [mark_bare mark] at carried
    cases carried
  · rw [lineChunk, blank] at carried
    cases carried
  · rw [carried] at found
    rwa [Option.some.inj found]

private theorem typed_bare {more : List Json} (chat : ChatLine line)
    (typed : ∀ event ∈ (lineChunk line).toList ++ more, responseEvent event = true) : Bare line := by
  cases carried : lineChunk line with
  | none => exact carried
  | some chunk =>
    have yes := typed chunk (by rw [carried]; exact List.mem_cons_self)
    rw [chatLine_chunk chat carried] at yes
    cases yes

/-- Once nothing is withheld, events of the format without a completed one are none. -/
private theorem idle_bare {lines : List String} (holds : Holds state none)
    (format : state.responseFormat = .responsesApi) (chat : ∀ line ∈ lines, ChatLine line)
    (ran : endStream ambients last state lines doneSent = some out)
    (typed : ∀ event ∈ streamEvents out, responseEvent event = true)
    (none_ : (streamEvents out).countP completedEvent = 0) : ∀ line ∈ lines, Bare line := by
  induction lines generalizing state out with
  | nil => simp
  | cons line rest ih =>
    obtain ⟨between, more, tail, same, ⟨kept, -, events⟩ | ⟨content, -, -, kept, events⟩ |
      ⟨text, chunk, event, carried, -, type, events⟩⟩ := idle_step holds ran
    · rw [events] at typed none_
      have first := typed_bare (chat line List.mem_cons_self) typed
      rw [List.countP_append] at none_
      have later := ih kept (same.trans format)
        (fun other member => chat other (List.mem_cons_of_mem line member)) tail
        (fun event member => typed event (List.mem_append_right _ member)) (by omega)
      exact List.forall_mem_cons.mpr ⟨first, later⟩
    · rw [events] at typed none_
      have completed := held_completes kept (same.trans format) tail typed
      omega
    · rw [events] at typed
      have yes := typed event List.mem_cons_self
      have no := chatLine_chunk (chat line List.mem_cons_self) carried
      rw [responseEvent, type, ← responseEvent, no] at yes
      cases yes

private theorem linePieces_piece {content : String} (kind : lineKind line = .piece content) :
    linePieces (line :: rest) = content :: linePieces rest := by
  simp only [linePieces, List.filterMap_cons, linePiece, kind]

private theorem linePieces_bare (bare : Bare line) : linePieces (line :: rest) = linePieces rest := by
  rcases bare_kind bare with kind | kind <;> simp only [linePieces, List.filterMap_cons, linePiece, kind]

private theorem linePieces_bares {lines : List String} (bare : ∀ line ∈ lines, Bare line) :
    linePieces lines = [] := by
  induction lines with
  | nil => rfl
  | cons line rest ih =>
    rw [linePieces_bare (bare line List.mem_cons_self)]
    exact ih fun other member => bare other (List.mem_cons_of_mem line member)

private theorem joined_cons (content : String) (more : List String) :
    joined (content :: more) = content ++ joined more := by
  rw [joined, joined, List.flatMap_cons, String.ofList_append, String.ofList_toList]

private theorem linePieces_stop (kind : lineKind line = .closing ∨ lineKind line = .mark)
    (bare : ∀ other ∈ rest, Bare other) : linePieces (line :: rest) = [] := by
  have later := linePieces_bares bare
  rw [linePieces] at later
  rcases kind with kind | kind <;> simp only [linePieces, List.filterMap_cons, linePiece, kind, later]

/-- With one completed event, a withheld text is a call, and nothing else follows. -/
private theorem held_ends {lines : List String} (holds : Holds state (some text))
    (format : state.responseFormat = .responsesApi) (chat : ∀ line ∈ lines, ChatLine line)
    (ran : endStream ambients last state lines doneSent = some out)
    (typed : ∀ event ∈ streamEvents out, responseEvent event = true)
    (one : (streamEvents out).countP completedEvent ≤ 1) :
    EndsCall lines ∧ ¬PreviewCut (text ++ joined (linePieces lines)) ∧
      ∃ ambient toolCalls,
        textContentToToolCalls ambient (text ++ joined (linePieces lines)) = some toolCalls := by
  induction lines generalizing state text out with
  | nil =>
    obtain ⟨fine, events⟩ := held_nil holds ran
    rw [events] at typed
    have empty : text ++ joined (linePieces []) = text := by simp [linePieces, joined]
    rw [empty]
    exact ⟨trivial, fine, last, (release_typed format typed).1⟩
  | cons line rest ih =>
    have chats : ∀ other ∈ rest, ChatLine other :=
      fun other member => chat other (List.mem_cons_of_mem line member)
    obtain ⟨between, more, tail, same, ⟨content, kind, kept, events⟩ | ⟨kind, kept, events⟩ |
      ⟨ambient, captured, kind, fine, format', idle, events⟩⟩ := held_step holds ran
    · rw [events] at typed one
      obtain ⟨ends, fits, calls⟩ := ih kept (same.trans format) chats tail typed one
      rw [linePieces_piece kind, joined_cons, ← String.append_assoc]
      exact ⟨by simpa only [EndsCall, kind] using ends, fits, calls⟩
    · rw [events] at typed one
      have first := typed_bare (chat line List.mem_cons_self) typed
      rw [List.countP_append] at one
      obtain ⟨ends, fits, calls⟩ := ih kept (same.trans format) chats tail
        (fun event member => typed event (List.mem_append_right _ member)) (by omega)
      rw [linePieces_bare first]
      exact ⟨by simpa only [EndsCall, kind] using ⟨first, ends⟩, fits, calls⟩
    · rw [events] at typed one
      obtain ⟨calls, completed⟩ := release_typed (format'.trans format)
        fun event member => typed event (List.mem_append_left _ member)
      rw [List.countP_append] at one
      have bare := idle_bare idle (same.trans format) chats tail
        (fun event member => typed event (List.mem_append_right _ member)) (by omega)
      have empty : text ++ joined (linePieces (line :: rest)) = text := by
        rw [linePieces_stop kind bare]
        simp [joined]
      rw [empty]
      refine ⟨?_, fine, ambient, calls⟩
      rcases kind with kind | kind <;> simpa only [EndsCall, kind] using bare

private theorem idle_only {lines : List String} (holds : Holds state none)
    (format : state.responseFormat = .responsesApi) (chat : ∀ line ∈ lines, ChatLine line)
    (ran : endStream ambients last state lines doneSent = some out)
    (typed : ∀ event ∈ streamEvents out, responseEvent event = true)
    (one : (streamEvents out).countP completedEvent = 1) :
    OnlyCall lines ∧ ¬PreviewCut (joined (linePieces lines)) ∧
      ∃ ambient toolCalls, textContentToToolCalls ambient (joined (linePieces lines)) = some toolCalls := by
  induction lines generalizing state out with
  | nil =>
    obtain ⟨more, ran', same⟩ :=
      @endStream_nil ambients _ last doneSent _ _ (@flushOnStreamEnd_idle last _ holds)
    obtain rfl := Option.some.inj (ran.symm.trans ran')
    rw [same] at one
    cases one
  | cons line rest ih =>
    have chats : ∀ other ∈ rest, ChatLine other :=
      fun other member => chat other (List.mem_cons_of_mem line member)
    obtain ⟨between, more, tail, same, ⟨kept, -, events⟩ | ⟨content, kind, opening, kept, events⟩ |
      ⟨text, chunk, event, carried, -, type, events⟩⟩ := idle_step holds ran
    · rw [events] at typed one
      have first := typed_bare (chat line List.mem_cons_self) typed
      have empty : (lineChunk line).toList = [] := by
        rw [show lineChunk line = none from first]
        rfl
      rw [empty, List.nil_append] at one
      obtain ⟨only, fits, calls⟩ := ih kept (same.trans format) chats tail
        (fun event member => typed event (List.mem_append_right _ member)) one
      rw [linePieces_bare first]
      refine ⟨?_, fits, calls⟩
      rcases bare_kind first with kind | kind <;> simpa only [OnlyCall, kind] using ⟨first, only⟩
    · rw [events] at typed one
      obtain ⟨ends, fits, calls⟩ :=
        held_ends kept (same.trans format) chats tail typed (Nat.le_of_eq one)
      rw [linePieces_piece kind, joined_cons]
      exact ⟨by simpa only [OnlyCall, kind] using ⟨opening, ends⟩, fits, calls⟩
    · rw [events] at typed
      have yes := typed event List.mem_cons_self
      have no := chatLine_chunk (chat line List.mem_cons_self) carried
      rw [responseEvent, type, ← responseEvent, no] at yes
      cases yes

/-! ## One call is a stream of the format -/

/-- A stream ends with the release of the text: nothing else of it is an event. -/
def Releases (format : AgentResponseFormat) (sent : Option (List String)) (text : String) : Prop :=
  ∃ ambient captured out, sent = some out ∧ captured.responseFormat = format ∧
    streamEvents out = streamEvents (releaseLines ambient captured text)

private theorem releases_cons {between : SseTransformState} {one : List String}
    {format : AgentResponseFormat}
    (step : processLine (ambients rest.length) state line = some (between, one))
    (silent : streamEvents one = [])
    (later : Releases format (endStream ambients last between rest doneSent) text) :
    Releases format (endStream ambients last state (line :: rest) doneSent) text := by
  obtain ⟨ambient, captured, more, ran, same, events⟩ := later
  refine ⟨ambient, captured, one ++ more, ?_, same, ?_⟩
  · rw [endStream_cons]
    simp only [step, Option.bind_some, ran, Option.map_some]
  · rw [streamEvents_append, silent, List.nil_append, events]

private theorem releases_stop {between captured : SseTransformState} {one : List String}
    {ambient : Ambient} (bare : ∀ other ∈ rest, Bare other) (idle : Holds between none)
    (step : processLine (ambients rest.length) state line = some (between, one))
    (events : streamEvents one = streamEvents (releaseLines ambient captured text)) :
    Releases captured.responseFormat (endStream ambients last state (line :: rest) doneSent) text := by
  have on : ∀ other ∈ rest, lineKind other = .mark ∨ GoesOn none (lineKind other) := by
    intro other member
    rcases bare_kind (bare other member) with mark | kind
    · exact .inl mark
    · exact .inr (by rw [kind]; trivial)
  obtain ⟨more, ran, same⟩ := @endStream_idle ambients _ last doneSent _ idle on
  have none_ : streamEvents rest = [] := List.filterMap_eq_nil_iff.mpr bare
  refine ⟨ambient, captured, one ++ more, ?_, rfl, ?_⟩
  · rw [endStream_cons]
    simp only [step, Option.bind_some, ran, Option.map_some]
  · rw [streamEvents_append, same, none_, List.append_nil, events]

private theorem held_releases {lines : List String} (holds : Holds state (some text))
    (ends : EndsCall lines) (fits : ¬PreviewCut (text ++ joined (linePieces lines))) :
    Releases state.responseFormat (endStream ambients last state lines doneSent)
      (text ++ joined (linePieces lines)) := by
  induction lines generalizing state text with
  | nil =>
    have empty : text ++ joined (linePieces []) = text := by simp [linePieces, joined]
    rw [empty] at fits ⊢
    obtain ⟨after, flush, -⟩ := (@flushOnStreamEnd_held last _ _ holds).2 fits
    obtain ⟨more, ran, same⟩ := @endStream_nil ambients _ last doneSent _ _ flush
    exact ⟨last, state, more, ran, rfl, same⟩
  | cons line rest ih =>
    cases kind : lineKind line with
    | piece content =>
      simp only [EndsCall, kind] at ends
      rw [linePieces_piece kind, joined_cons, ← String.append_assoc] at fits ⊢
      obtain ⟨between, step, kept, format⟩ :=
        @processLine_held (ambients rest.length) _ _ _ _ holds kind
      have later := ih kept ends fits
      rw [format] at later
      exact releases_cons step rfl later
    | other =>
      simp only [EndsCall, kind] at ends
      obtain ⟨bare, ends⟩ := ends
      rw [linePieces_bare bare] at fits ⊢
      obtain ⟨between, sent, step, kept, format, passed⟩ :=
        @processLine_goesOn (ambients rest.length) _ _ line holds (by rw [kind]; trivial)
      have later := ih kept ends fits
      rw [format] at later
      refine releases_cons step ?_ later
      rw [streamEvents_passed passed, show lineChunk line = none from bare]
      rfl
    | closing =>
      simp only [EndsCall, kind] at ends
      have empty : text ++ joined (linePieces (line :: rest)) = text := by
        rw [linePieces_stop (.inl kind) ends]
        simp [joined]
      rw [empty] at fits ⊢
      obtain ⟨between, captured, step, idle, -, format⟩ :=
        (@processLine_closing (ambients rest.length) _ _ _ holds kind).2 fits
      rw [← format]
      exact releases_stop ends idle step rfl
    | mark =>
      simp only [EndsCall, kind] at ends
      have empty : text ++ joined (linePieces (line :: rest)) = text := by
        rw [linePieces_stop (.inr kind) ends]
        simp [joined]
      rw [empty] at fits ⊢
      obtain ⟨between, flush, idle, -⟩ :=
        (@flushOnStreamEnd_held (ambients rest.length) _ _ holds).2 fits
      have step := @processLine_mark (ambients rest.length) state line kind
      rw [flush, Option.map_some] at step
      refine @releases_stop ambients last state doneSent line text rest between state _
        (ambients rest.length) ends idle step ?_
      rw [streamEvents_append, done_event, List.append_nil]

private theorem idle_releases {lines : List String} (holds : Holds state none)
    (only : OnlyCall lines) (fits : ¬PreviewCut (joined (linePieces lines))) :
    Releases state.responseFormat (endStream ambients last state lines doneSent)
      (joined (linePieces lines)) := by
  induction lines generalizing state with
  | nil => exact absurd only id
  | cons line rest ih =>
    have skips (bare : Bare line) (only : OnlyCall rest) :
        Releases state.responseFormat (endStream ambients last state (line :: rest) doneSent)
          (joined (linePieces (line :: rest))) := by
      have on : lineKind line = .mark ∨ GoesOn none (lineKind line) := by
        rcases bare_kind bare with mark | kind
        · exact .inl mark
        · exact .inr (by rw [kind]; trivial)
      rw [linePieces_bare bare] at fits ⊢
      obtain ⟨between, one, step, kept, format, events⟩ :=
        @processLine_idle (ambients rest.length) _ _ holds on
      have later := ih kept only fits
      rw [format] at later
      refine releases_cons step ?_ later
      rw [events, show lineChunk line = none from bare]
      rfl
    cases kind : lineKind line with
    | piece content =>
      simp only [OnlyCall, kind] at only
      rw [linePieces_piece kind, joined_cons] at fits ⊢
      obtain ⟨between, step, kept, format⟩ :=
        @processLine_starts (ambients rest.length) _ _ _ holds kind only.1
      have later := @held_releases ambients last between doneSent content rest kept only.2 fits
      rw [format] at later
      exact releases_cons step rfl later
    | other =>
      simp only [OnlyCall, kind] at only
      exact skips only.1 only.2
    | closing =>
      simp only [OnlyCall, kind] at only
      exact skips only.1 only.2
    | mark =>
      simp only [OnlyCall, kind] at only
      exact skips only.1 only.2

end

/-- The text of a stream that is one call begins with its brace, and comes without
structured calls. -/
private theorem onlyCall_text {lines : List String} (only : OnlyCall lines) :
    Opening (joined (linePieces lines)) ∧ ∀ line ∈ lines, lineParts line = [] := by
  have bare_ {line : String} (bare : Bare line) : lineParts line = [] := by
    rw [lineParts, show lineChunk line = none from bare]
    rfl
  have ends : ∀ {lines : List String}, EndsCall lines → ∀ line ∈ lines, lineParts line = [] := by
    intro lines
    induction lines with
    | nil => simp
    | cons line rest ih =>
      intro ends
      refine List.forall_mem_cons.mpr ?_
      cases kind : lineKind line with
      | other =>
        simp only [EndsCall, kind] at ends
        exact ⟨bare_ ends.1, ih ends.2⟩
      | piece content =>
        simp only [EndsCall, kind] at ends
        exact ⟨lineParts_plain (by rw [kind]; simp), ih ends⟩
      | closing =>
        simp only [EndsCall, kind] at ends
        exact ⟨lineParts_plain (by rw [kind]; simp), fun other member => bare_ (ends other member)⟩
      | mark =>
        simp only [EndsCall, kind] at ends
        exact ⟨lineParts_plain (by rw [kind]; simp), fun other member => bare_ (ends other member)⟩
  induction lines with
  | nil => exact absurd only id
  | cons line rest ih =>
    have skips (bare : Bare line) (only : OnlyCall rest) :
        Opening (joined (linePieces (line :: rest))) ∧ ∀ other ∈ line :: rest, lineParts other = [] := by
      rw [linePieces_bare bare]
      exact ⟨(ih only).1, List.forall_mem_cons.mpr ⟨bare_ bare, (ih only).2⟩⟩
    cases kind : lineKind line with
    | piece content =>
      simp only [OnlyCall, kind] at only
      rw [linePieces_piece kind, joined_cons]
      exact ⟨opening_append only.1 _, List.forall_mem_cons.mpr
        ⟨lineParts_plain (by rw [kind]; simp), ends only.2⟩⟩
    | other =>
      simp only [OnlyCall, kind] at only
      exact skips only.1 only.2
    | closing =>
      simp only [OnlyCall, kind] at only
      exact skips only.1 only.2
    | mark =>
      simp only [OnlyCall, kind] at only
      exact skips only.1 only.2

/-- The output items of an answer whose text was a call. -/
private theorem rewritten_output {ambient : Ambient} (again : Ambient) {body : Json} {text : String}
    {toolCalls : List Json} (answer : TextAnswer body text) (fits : ¬PreviewCut text)
    (calls : textContentToToolCalls ambient text = some toolCalls) :
    ∃ rewritten, (rewriteChatResponse ambient body).map Prod.fst = some rewritten ∧
      (chatCompletionToResponses again rewritten).get "output" =
        some (.arr ((toolCalls.map toolCallFields).map responsesCallItem)) := by
  obtain ⟨rewritten, choice, rest, message, ran, choices, there, empty, listed⟩ :=
    rewriteChatResponse_message answer fits calls
  have first : (((rewritten.get "choices").bind Json.asArray).bind List.head?).bind
      (Json.get · "message") = some message := by
    rw [chunkChoices] at choices
    cases found : (rewritten.get "choices").bind Json.asArray with
    | none => simp [found] at choices
    | some list =>
      rw [found, Option.getD_some] at choices
      rw [choices, Option.bind_some, List.head?_cons, Option.bind_some, there]
  have items : responsesItems message = (toolCalls.map toolCallFields).map responsesCallItem := by
    simp only [responsesItems, empty, if_true, listed, Option.bind_some, List.nil_append,
      List.map_map]
    rfl
  refine ⟨rewritten, ran, ?_⟩
  simp only [chatCompletionToResponses, first, Option.map_some, Option.getD_some, items]
  simp [List.lookup_cons]

/-- What is sent in the format is one call. -/
private theorem responses_only (ambients : Nat → Ambient) (doneSent : Bool) {lines : List String}
    {body : Json} (chat : ∀ line ∈ lines, ChatLine line) :
    RespondsAs (transformStream ambients .responsesApi lines doneSent) body →
      OnlyCall lines ∧ (firstCall (joined (linePieces lines))).isSome ∧
        ¬PreviewCut (joined (linePieces lines)) := by
  have idle : Holds (.withResponseFormat .responsesApi) none := ⟨rfl, rfl, by simp⟩
  rintro ⟨out, front, final, ran, events, typed, before, completed, -⟩
  have one : (streamEvents out).countP completedEvent = 1 := by
    have none_ : front.countP completedEvent = 0 :=
      List.countP_eq_zero.mpr fun event member => by simp [before event member]
    rw [events, List.countP_append, none_, List.countP_singleton, if_pos completed]
  rw [← events] at typed
  obtain ⟨only, fits, ambient, toolCalls, calls⟩ := idle_only idle rfl chat ran typed one
  refine ⟨only, ?_, fits⟩
  rw [opening_calls ambient (onlyCall_text only).1] at calls
  obtain ⟨call, found, -⟩ := Option.map_eq_some_iff.mp calls
  rw [found]
  rfl

/-- A chat stream is sent in the Responses format exactly when its chunks are nothing but
the text of one call, from its brace to a finish reason, the end mark or the end of the
stream, and its preview cuts no character. -/
theorem responses_stream_iff (ambients : Nat → Ambient) (doneSent : Bool) {lines : List String}
    {body : Json} (chat : ∀ line ∈ lines, ChatLine line) (whole : AnswerOf lines body) :
    RespondsAs (transformStream ambients .responsesApi lines doneSent) body ↔
      OnlyCall lines ∧ (firstCall (joined (linePieces lines))).isSome ∧
        ¬PreviewCut (joined (linePieces lines)) := by
  have idle : Holds (.withResponseFormat .responsesApi) none := ⟨rfl, rfl, by simp⟩
  constructor
  · exact responses_only ambients doneSent chat
  · rintro ⟨only, call, fits⟩
    obtain ⟨opening, plain⟩ := onlyCall_text only
    obtain ⟨call, found⟩ := Option.isSome_iff_exists.mp call
    obtain ⟨ambient, captured, out, ran, format, events⟩ :=
      @idle_releases ambients (ambients lines.length) _ doneSent lines idle only fits
    have calls : textContentToToolCalls ambient (joined (linePieces lines)) =
        some (singleCall ambient call) := by
      rw [opening_calls ambient opening, found, Option.map_some]
    rw [(release_events ambient captured format _).1 _ calls] at events
    obtain ⟨front, final, listed, typed, before, completed, output⟩ :=
      callsStream_events ambient (singleCall ambient call)
    obtain ⟨rewritten, written, items⟩ := rewritten_output ambient (whole plain) fits calls
    exact ⟨out, front, final, ran, events.trans listed, typed, before, completed, ambient, ambient,
      rewritten, written, output.trans items.symm⟩

private theorem contentDelta_chat (content : String) : ChatLine (contentDelta content) := by
  have plain : responseEvent (contentChunk content) = false := by
    simp [responseEvent, eventType, contentChunk, List.lookup_cons]
  exact .inr (.inr ⟨_, lineChunk_contentDelta content, plain⟩)

private theorem piece_chat (content : String) :
    ∀ line ∈ [contentDelta content, "data: [DONE]"], ChatLine line := by
  intro line member
  simp only [List.mem_cons, List.not_mem_nil, or_false] at member
  rcases member with rfl | rfl
  · exact contentDelta_chat content
  · exact .inl (lineKind_mark.mpr (by decide))

private theorem piece_text {content : String} (some_ : content ≠ "") :
    joined (linePieces [contentDelta content, "data: [DONE]"]) = content := by
  have mark : lineKind "data: [DONE]" = .mark := lineKind_mark.mpr (by decide)
  simp only [linePieces, List.filterMap_cons, linePiece, lineKind_contentDelta some_, mark,
    List.filterMap_nil, joined, List.flatMap_cons, List.flatMap_nil, List.append_nil,
    String.ofList_toList]

theorem responses_stream_iff_sample :
    RespondsAs (transformStream (fun _ => plainAmbient) .responsesApi
        [contentDelta "\x7b\"name\":\"ls\"\x7d", "data: [DONE]"] true)
        (textCompletion "\x7b\"name\":\"ls\"\x7d") ↔
      OnlyCall [contentDelta "\x7b\"name\":\"ls\"\x7d", "data: [DONE]"] ∧
        (firstCall (joined (linePieces [contentDelta "\x7b\"name\":\"ls\"\x7d",
          "data: [DONE]"]))).isSome ∧
        ¬PreviewCut (joined (linePieces [contentDelta "\x7b\"name\":\"ls\"\x7d", "data: [DONE]"])) :=
  responses_stream_iff _ true (piece_chat _) fun _ => by
    rw [piece_text (by decide)]
    exact textCompletion_answer _

/-- Text that does not begin with a brace is no call. -/
private theorem prose_not_call {ambients : Nat → Ambient} {line content : String} {rest : List String}
    {body : Json} (chat : ∀ other ∈ line :: rest, ChatLine other) (kind : lineKind line = .piece content)
    (prose : ¬Opening content) :
    ¬RespondsAs (transformStream ambients .responsesApi (line :: rest) true) body := by
  intro sent
  obtain ⟨only, -⟩ := responses_only _ true chat sent
  rw [OnlyCall, kind] at only
  exact prose only.1

/-- Prose goes on as chunks of a chat stream. -/
theorem prose_sent_as_chunk :
    ¬RespondsAs (transformStream (fun _ => plainAmbient) .responsesApi
      [contentDelta "hello", "data: [DONE]"] true) (textCompletion "hello") :=
  prose_not_call (piece_chat "hello") (lineKind_contentDelta (by decide)) (by unfold Opening; decide)

end MtrxPeer
