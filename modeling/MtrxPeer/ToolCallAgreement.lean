import MtrxPeer.TextCalls
import MtrxPeer.WithheldText

/-! Calls of tools in a text, rewritten in a whole answer and in a stream. A client
reads the same calls of both, unless a later item of an array stands for one, or the
preview of a text cuts a character. -/
namespace MtrxPeer

/-! ## What a client reads -/

/-- A call, or a part of one. -/
structure ClientCall where
  index : Option Int
  name : String
  args : String
  deriving DecidableEq, Repr

def clientCall (tc : Json) : ClientCall where
  index := (tc.get "index").bind Json.asI64
  name := (((tc.get "function").bind (Json.get · "name")).bind Json.asStr).getD ""
  args := (((tc.get "function").bind (Json.get · "arguments")).bind Json.asStr).getD ""

/-- The calls in a message, or their parts in a delta. -/
def messageCalls (message : Json) : List ClientCall :=
  (((message.get "tool_calls").bind Json.asArray).getD []).map clientCall

/-- The calls of a whole answer. -/
def answerCalls (body : Json) : List ClientCall :=
  (((chunkChoices body).head?.bind (Json.get · "message")).map messageCalls).getD []

/-- The parts of calls in a chunk. -/
def chunkParts (chunk : Json) : List ClientCall :=
  (((chunkChoices chunk).head?.bind (Json.get · "delta")).map messageCalls).getD []

/-- The parts of calls in a line of a stream. -/
def lineParts (line : String) : List ClientCall := ((lineChunk line).map chunkParts).getD []

/-- The events of a stream; the end mark is none. -/
def streamEvents (out : List String) : List Json := out.filterMap lineChunk

/-- A part continues the call with its index, or begins one. -/
def joinPart (calls : List ClientCall) (part : ClientCall) : List ClientCall :=
  if calls.any (·.index == part.index) then
    calls.map fun call =>
      if call.index = part.index then
        { call with name := call.name ++ part.name, args := call.args ++ part.args }
      else call
  else calls ++ [part]

/-- The calls of a stream. -/
def streamCalls (out : List String) : List ClientCall := (out.flatMap lineParts).foldl joinPart []

/-- The indices are 0, 1, 2 and so on. -/
def Counted (calls : List ClientCall) : Prop :=
  calls.map (·.index) = (List.range calls.length).map fun i => some (Int.ofNat i)

/-- Both rewritings run; the stream has the calls of the answer, in order, and has none
exactly when the answer stays as it was. -/
def CallsAgree (sent : Option (List String)) (body : Json)
    (rewritten : Option (Json × AgentResponseSummary)) : Prop :=
  ∃ out answer, sent = some out ∧ rewritten.map Prod.fst = some answer ∧
    streamCalls out = answerCalls answer ∧ Counted (streamCalls out) ∧
    (streamCalls out = [] ↔ answer = body)

/-- A whole answer whose message is a text. -/
def TextAnswer (body : Json) (text : String) : Prop :=
  ∃ choice rest message, (body.get "choices").bind Json.asArray = some (choice :: rest) ∧
    choice.get "message" = some message ∧ hasToolCalls message = false ∧
    messageTextContent message = text

/-! ## The text of a stream -/

/-- The content delta of a line. -/
def linePiece (line : String) : Option String :=
  match lineKind line with
  | .piece content => some content
  | _ => none

/-- The content deltas of lines. -/
def linePieces (lines : List String) : List String := lines.filterMap linePiece

def joined (texts : List String) : String := String.ofList (texts.flatMap String.toList)

/-- A line that is no text, no end and no call. -/
def NeutralLine (line : String) : Prop := lineKind line = .other ∧ lineParts line = []

/-- A line before the end. -/
def Spoken (line : String) : Prop := (∃ content, lineKind line = .piece content) ∨ NeutralLine line

/-- A line from the end on: the finish reason, the end mark, or nothing that counts. -/
def Ended (line : String) : Prop := lineKind line = .closing ∨ lineKind line = .mark ∨ NeutralLine line

/-- What is withheld of a text that comes in pieces: everything from the first piece with
a brace on, which loses what is before the brace unless that is white space. -/
def withheld : List String → Option String
  | [] => none
  | piece :: rest =>
    if '{' ∈ piece.toList then
      some (String.ofList (withheldPart piece.toList ++ rest.flatMap String.toList))
    else withheld rest

/-! ## Lines without calls -/

private theorem hasToolCalls_false {message : Json} (none_ : hasToolCalls message = false) :
    messageCalls message = [] := by
  unfold hasToolCalls at none_
  unfold messageCalls
  split at none_
  · cases none_
  · rename_i other
    cases list : (message.get "tool_calls").bind Json.asArray with
    | none => rfl
    | some calls =>
      cases calls with
      | nil => rfl
      | cons call rest => exact absurd list (other call rest)

theorem lineParts_chunk {line : String} {chunk : Json} (carried : lineChunk line = some chunk)
    (plain : chunkCalls chunk = false) : lineParts line = [] := by
  rw [lineParts, carried, Option.map_some, Option.getD_some, chunkParts]
  unfold chunkCalls at plain
  cases first : (chunkChoices chunk).head? with
  | none => rfl
  | some choice =>
    rw [first, Option.bind_some] at plain
    rw [Option.bind_some]
    cases delta : choice.get "delta" with
    | none => rfl
    | some delta =>
      rw [delta] at plain
      exact hasToolCalls_false plain

theorem streamEvents_append (a b : List String) :
    streamEvents (a ++ b) = streamEvents a ++ streamEvents b := List.filterMap_append ..

theorem streamEvents_cons (line : String) (rest : List String) :
    streamEvents (line :: rest) = (lineChunk line).toList ++ streamEvents rest := by
  rw [streamEvents, List.filterMap_cons]
  cases lineChunk line <;> rfl

/-- The parts are those of the events. -/
theorem parts_events (out : List String) :
    out.flatMap lineParts = (streamEvents out).flatMap chunkParts := by
  induction out with
  | nil => rfl
  | cons line rest ih =>
    rw [List.flatMap_cons, streamEvents_cons, List.flatMap_append, ih, lineParts]
    cases lineChunk line <;> simp

theorem lineParts_passed {line sent : String} (passed : Passed line sent) :
    lineParts sent = lineParts line := by
  rw [lineParts, lineParts, passed.chunk]

/-- Text and the finish reason come without calls. -/
theorem lineParts_plain {line : String} (plain : lineKind line ≠ .other) : lineParts line = [] := by
  unfold lineKind at plain
  split at plain
  · rename_i mark
    rw [lineParts, lineChunk, mark]
    decide
  · split at plain
    · rename_i chunk carried
      refine lineParts_chunk carried ?_
      by_contra calls
      rw [Bool.not_eq_false] at calls
      exact plain (by rw [chunkKind, if_pos calls])
    · exact absurd rfl plain

private theorem lineParts_before {content : String} {out : List String}
    (sent : SentBefore content out) : out.flatMap lineParts = [] := by
  rcases sent with rfl | ⟨fields, valid, deep, -, plain, rfl⟩
  · rfl
  · rw [List.flatMap_cons, lineParts_chunk (lineChunk_dataLine valid deep) plain]
    rfl

/-! ## Before the end -/

section
variable {ambient : Ambient} {ambients : Nat → Ambient} {state : SseTransformState}
  {held : Option String}

/-- The withheld text after more pieces. -/
def heldAfter (held : Option String) (more : List String) : Option String :=
  more.foldl (fun held piece => heldNext held (.piece piece)) held

/-- Before the end nothing panics and no call is sent. -/
theorem processLine_spoken {line : String} (holds : Holds state held) (spoken : Spoken line) :
    ∃ after out, processLine ambient state line = some (after, out) ∧
      Holds after (heldNext held (lineKind line)) ∧ after.responseFormat = state.responseFormat ∧
      out.flatMap lineParts = [] := by
  have passes (on : GoesOn held (lineKind line)) (none_ : lineParts line = [])
      (same : heldNext held (lineKind line) = held) :
      ∃ after out, processLine ambient state line = some (after, out) ∧
        Holds after (heldNext held (lineKind line)) ∧
        after.responseFormat = state.responseFormat ∧ out.flatMap lineParts = [] := by
    obtain ⟨after, sent, ran, kept, format, passed⟩ := processLine_goesOn holds on
    refine ⟨after, [sent], ran, by rwa [same], format, ?_⟩
    rw [List.flatMap_cons, lineParts_passed passed, none_]
    rfl
  rcases spoken with ⟨content, kind⟩ | ⟨kind, none_⟩
  · have plain := @lineParts_plain line (by rw [kind]; simp)
    cases held with
    | some text =>
      obtain ⟨after, ran, kept, format⟩ := processLine_held holds kind
      exact ⟨after, [], ran, by rw [kind]; exact kept, format, rfl⟩
    | none =>
      by_cases brace : '{' ∈ content.toList
      · obtain ⟨after, out, ran, kept, format, sent⟩ := processLine_opens holds kind brace
        refine ⟨after, out, ran, ?_, format, lineParts_before sent⟩
        rw [kind, heldNext]
        simpa only [if_pos brace] using kept
      · exact passes (by rw [kind]; exact ⟨rfl, brace⟩) plain
          (by rw [kind, heldNext]; simp only [if_neg brace])
  · exact passes (by rw [kind]; trivial) none_ (by rw [kind]; rfl)

theorem processLines_spoken {lines : List String} (holds : Holds state held)
    (spoken : ∀ line ∈ lines, Spoken line) :
    ∃ after out, processLines ambients state lines = some (after, out) ∧
      Holds after (heldAfter held (linePieces lines)) ∧
      after.responseFormat = state.responseFormat ∧ out.flatMap lineParts = [] := by
  induction lines generalizing state held with
  | nil => exact ⟨state, [], rfl, holds, rfl, rfl⟩
  | cons line rest ih =>
    have first := spoken line List.mem_cons_self
    obtain ⟨between, one, step, kept, format, none_⟩ :=
      @processLine_spoken (ambients rest.length) _ _ _ holds first
    obtain ⟨after, more, ran, last, format', none'⟩ :=
      ih kept fun other member => spoken other (List.mem_cons_of_mem line member)
    refine ⟨after, one ++ more, ?_, ?_, format'.trans format, ?_⟩
    · simp only [processLines, step, ran, Option.map_some]
    · have text : heldAfter held (linePieces (line :: rest)) =
          heldAfter (heldNext held (lineKind line)) (linePieces rest) := by
        rcases first with ⟨content, kind⟩ | ⟨kind, -⟩
        · simp only [linePieces, List.filterMap_cons, linePiece, kind]
          rfl
        · simp only [linePieces, List.filterMap_cons, linePiece, kind]
          rfl
      rw [text]
      exact last
    · rw [List.flatMap_append, none_, none']
      rfl

theorem processLines_append (front back : List String) :
    processLines ambients state (front ++ back) =
      (processLines (fun n => ambients (n + back.length)) state front).bind fun (state, out) =>
        (processLines ambients state back).map fun (after, more) => (after, out ++ more) := by
  induction front generalizing state with
  | nil => simp [processLines]
  | cons line rest ih =>
    simp only [List.cons_append, processLines, List.length_append]
    cases processLine (ambients (rest.length + back.length)) state line with
    | none => rfl
    | some step =>
      obtain ⟨between, one⟩ := step
      simp only [ih]
      cases processLines (fun n => ambients (n + back.length)) between rest with
      | none => rfl
      | some step =>
        simp only [Option.bind_some, Option.map_some, Option.map_map]
        refine congrFun (congrArg Option.map (funext fun last => ?_)) _
        simp

/-! ## From the end on -/

/-- Some lines, and the end of the stream. -/
def endStream (ambients : Nat → Ambient) (last : Ambient) (state : SseTransformState)
    (lines : List String) (doneSent : Bool) : Option (List String) :=
  (processLines ambients state lines).bind fun (state, out) =>
    (finalizeStream last state doneSent).map fun (_, more) => out ++ more

variable {last : Ambient} {doneSent : Bool}

theorem endStream_cons (line : String) (rest : List String) :
    endStream ambients last state (line :: rest) doneSent =
      (processLine (ambients rest.length) state line).bind fun (state, out) =>
        (endStream ambients last state rest doneSent).map (out ++ ·) := by
  simp only [endStream, processLines]
  cases processLine (ambients rest.length) state line with
  | none => rfl
  | some step =>
    obtain ⟨between, one⟩ := step
    simp only [Option.bind_some]
    cases processLines ambients between rest with
    | none => rfl
    | some step =>
      simp only [Option.map_some, Option.bind_some, Option.map_map]
      refine congrFun (congrArg Option.map (funext fun after => ?_)) _
      simp

theorem done_event : streamEvents ["data: [DONE]"] = [] := by decide

/-- The end adds at most its mark to what is released. -/
theorem finalizeStream_events {after : SseTransformState} {out : List String}
    (flush : flushOnStreamEnd last state = some (after, out)) :
    ∃ more, (finalizeStream last state doneSent).map (·.2) = some more ∧
      streamEvents more = streamEvents out := by
  rw [finalizeStream, flush, Option.map_some, Option.map_some]
  refine ⟨_, rfl, ?_⟩
  simp only
  split
  · rfl
  · rw [streamEvents_append, done_event, List.append_nil]

theorem endStream_nil {after : SseTransformState} {out : List String}
    (flush : flushOnStreamEnd last state = some (after, out)) :
    ∃ more, endStream ambients last state [] doneSent = some more ∧
      streamEvents more = streamEvents out := by
  obtain ⟨more, ran, same⟩ := @finalizeStream_events _ last doneSent _ _ flush
  obtain ⟨pair, final, rfl⟩ := Option.map_eq_some_iff.mp ran
  refine ⟨pair.2, ?_, same⟩
  simp only [endStream, processLines, Option.bind_some, final, Option.map_some, List.nil_append]

theorem streamEvents_passed {line sent : String} (passed : Passed line sent) :
    streamEvents [sent] = (lineChunk line).toList := by
  rw [streamEvents_cons, passed.chunk]
  exact List.append_nil _

/-- While nothing is withheld a line that starts nothing is passed on. -/
theorem processLine_idle {line : String} (holds : Holds state none)
    (on : lineKind line = .mark ∨ GoesOn none (lineKind line)) :
    ∃ after out, processLine ambient state line = some (after, out) ∧ Holds after none ∧
      after.responseFormat = state.responseFormat ∧ streamEvents out = (lineChunk line).toList := by
  rcases on with kind | on
  · have bare : lineChunk line = none := by
      rw [lineChunk, lineKind_mark.mp kind]
      decide
    refine ⟨state, ["data: [DONE]"], ?_, holds, rfl, ?_⟩
    · simp only [processLine_mark kind, flushOnStreamEnd_idle holds, Option.map_some,
        List.nil_append]
    · rw [bare, done_event]
      rfl
  · obtain ⟨after, sent, step, kept, format, passed⟩ := @processLine_goesOn ambient _ _ _ holds on
    exact ⟨after, [sent], step, kept, format, streamEvents_passed passed⟩

/-- So are all lines, where none starts anything. -/
theorem endStream_idle {lines : List String} (holds : Holds state none)
    (on : ∀ line ∈ lines, lineKind line = .mark ∨ GoesOn none (lineKind line)) :
    ∃ out, endStream ambients last state lines doneSent = some out ∧
      streamEvents out = streamEvents lines := by
  induction lines generalizing state with
  | nil =>
    obtain ⟨more, ran, same⟩ :=
      @endStream_nil ambients _ last doneSent _ _ (@flushOnStreamEnd_idle last _ holds)
    exact ⟨more, ran, same⟩
  | cons line rest ih =>
    obtain ⟨between, one, step, kept, -, same⟩ :=
      @processLine_idle (ambients rest.length) _ _ holds (on line List.mem_cons_self)
    obtain ⟨out, ran, events⟩ :=
      ih kept fun other member => on other (List.mem_cons_of_mem line member)
    refine ⟨one ++ out, ?_, ?_⟩
    · rw [endStream_cons]
      simp only [step, Option.bind_some, ran, Option.map_some]
    · rw [streamEvents_append, streamEvents_cons, same, events]

/-- The end of a stream has no calls of its own. -/
private theorem endStream_ended {lines : List String} (holds : Holds state none)
    (ended : ∀ line ∈ lines, Ended line) :
    ∃ out, endStream ambients last state lines doneSent = some out ∧
      out.flatMap lineParts = [] := by
  have on : ∀ line ∈ lines, lineKind line = .mark ∨ GoesOn none (lineKind line) := by
    intro line member
    rcases ended line member with kind | kind | ⟨kind, -⟩
    · exact .inr (by rw [kind]; rfl)
    · exact .inl kind
    · exact .inr (by rw [kind]; trivial)
  obtain ⟨out, ran, same⟩ := @endStream_idle ambients _ last doneSent _ holds on
  refine ⟨out, ran, ?_⟩
  rw [parts_events, same, ← parts_events]
  refine List.flatMap_eq_nil_iff.mpr fun line member => ?_
  rcases ended line member with kind | kind | ⟨-, none_⟩
  · exact lineParts_plain (by rw [kind]; simp)
  · exact lineParts_plain (by rw [kind]; simp)
  · exact none_

/-- The calls of a withheld text are sent at the end, whatever ends it, or its preview
cuts a character and nothing more comes. -/
theorem endStream_held {lines : List String} {text : String} (holds : Holds state (some text))
    (ended : ∀ line ∈ lines, Ended line) :
    (PreviewCut text → endStream ambients last state lines doneSent = none) ∧
      (¬PreviewCut text → ∃ ambient captured out,
        endStream ambients last state lines doneSent = some out ∧
          captured.responseFormat = state.responseFormat ∧
          out.flatMap lineParts = (releaseLines ambient captured text).flatMap lineParts) := by
  induction lines generalizing state with
  | nil =>
    obtain ⟨cut, fits⟩ := @flushOnStreamEnd_held last _ _ holds
    refine ⟨fun panics => ?_, fun fine => ?_⟩
    · simp only [endStream, processLines, Option.bind_some, finalizeStream, cut panics,
        Option.map_none]
    · obtain ⟨after, flush, -⟩ := fits fine
      obtain ⟨more, ran, same⟩ := @endStream_nil ambients _ last doneSent _ _ flush
      exact ⟨last, state, more, ran, rfl, by rw [parts_events, same, ← parts_events]⟩
  | cons line rest ih =>
    have later : ∀ other ∈ rest, Ended other :=
      fun other member => ended other (List.mem_cons_of_mem line member)
    rw [endStream_cons]
    rcases ended line List.mem_cons_self with kind | kind | ⟨kind, none_⟩
    · obtain ⟨cut, fits⟩ := @processLine_closing (ambients rest.length) _ _ _ holds kind
      refine ⟨fun panics => by simp only [cut panics, Option.bind_none], fun fine => ?_⟩
      obtain ⟨between, captured, step, idle, -, format⟩ := fits fine
      obtain ⟨out, ran, parts⟩ := @endStream_ended ambients between last doneSent _ idle later
      refine ⟨ambients rest.length, captured,
        releaseLines (ambients rest.length) captured text ++ out, ?_, format, ?_⟩
      · simp only [step, Option.bind_some, ran, Option.map_some]
      · rw [List.flatMap_append, parts, List.append_nil]
    · obtain ⟨cut, fits⟩ := @flushOnStreamEnd_held (ambients rest.length) _ _ holds
      rw [processLine_mark kind]
      refine ⟨fun panics => by simp only [cut panics, Option.map_none, Option.bind_none],
        fun fine => ?_⟩
      obtain ⟨between, flush, idle, -⟩ := fits fine
      obtain ⟨out, ran, parts⟩ := @endStream_ended ambients between last doneSent _ idle later
      refine ⟨ambients rest.length, state,
        (releaseLines (ambients rest.length) state text ++ ["data: [DONE]"]) ++ out, ?_, rfl, ?_⟩
      · simp only [flush, Option.map_some, Option.bind_some, ran]
      · rw [List.flatMap_append, List.flatMap_append, parts, parts_events ["data: [DONE]"],
          done_event]
        simp
    · obtain ⟨between, sent, step, kept, format, passed⟩ :=
        @processLine_goesOn (ambients rest.length) _ _ line holds (by rw [kind]; trivial)
      obtain ⟨cut, fits⟩ := ih kept later
      refine ⟨fun panics => ?_, fun fine => ?_⟩
      · simp only [step, Option.bind_some, cut panics, Option.map_none]
      · obtain ⟨ambient, captured, out, ran, format', parts⟩ := fits fine
        refine ⟨ambient, captured, [sent] ++ out, ?_, format'.trans format, ?_⟩
        · simp only [step, Option.bind_some, ran, Option.map_some]
        · rw [List.flatMap_append, parts, List.flatMap_cons, lineParts_passed passed, none_,
            List.flatMap_nil, List.nil_append, List.nil_append]

end

/-! ## What is withheld of a text -/

theorem trimEnd_append (front : List Char) {back : List Char}
    (solid : ∃ c ∈ back, isWhitespace c = false) : trimEnd (front ++ back) = front ++ trimEnd back := by
  obtain ⟨c, member, black⟩ := solid
  have kept : ¬(back.reverse.dropWhile isWhitespace).isEmpty := by
    intro none_
    have white := List.dropWhile_eq_nil_iff.mp (List.isEmpty_iff.mp none_) c
      (List.mem_reverse.mpr member)
    rw [black] at white
    cases white
  rw [trimEnd, List.reverse_append, List.dropWhile_append, if_neg kept, List.reverse_append,
    List.reverse_reverse, trimEnd]

private theorem brace_solid : isWhitespace '{' = false := by decide

/-- The trimming of the end stops at a character that is no white space. -/
theorem trimEnd_cons {c : Char} (solid : isWhitespace c = false) (rest : List Char) :
    trimEnd (c :: rest) = c :: trimEnd rest := by
  by_cases blank : ∀ d ∈ rest, isWhitespace d = true
  · have none_ : rest.reverse.dropWhile isWhitespace = [] :=
      List.dropWhile_eq_nil_iff.mpr fun d member => blank d (List.mem_reverse.mp member)
    rw [trimEnd, trimEnd, List.reverse_cons, List.dropWhile_append, none_]
    simp [solid]
  · obtain ⟨d, member, black⟩ : ∃ d ∈ rest, isWhitespace d = false := by simpa using blank
    exact trimEnd_append [c] ⟨d, member, black⟩

theorem trimEnd_solid {c : Char} (solid : isWhitespace c = false) (rest : List Char) :
    ∃ more, trimEnd (c :: rest) = c :: more := ⟨_, trimEnd_cons solid rest⟩

/-- Nothing is cut off in front of the last character that is no white space. -/
theorem trimEnd_closed {front : List Char} {c : Char} (last : front.getLast? = some c)
    (solid : isWhitespace c = false) (back : List Char) : trimEnd (front ++ back) = front ++ trimEnd back := by
  obtain ⟨start, rfl⟩ := List.getLast?_eq_some_iff.mp last
  rw [List.append_assoc, List.singleton_append, trimEnd_append _ ⟨c, List.mem_cons_self, solid⟩, trimEnd_cons solid,
    List.append_assoc, List.singleton_append]

theorem trimEnd_braced (rest : List Char) : ∃ more, trimEnd ('{' :: rest) = '{' :: more :=
  trimEnd_solid brace_solid rest

/-- The trimmed text from its first brace on. -/
theorem trim_from_brace {front : List Char} (none_ : '{' ∉ front) (rest : List Char) :
    (trim (String.ofList (front ++ '{' :: rest))).toList.dropWhile (· ≠ '{') =
      trimEnd ('{' :: rest) := by
  have start : trimStart (front ++ '{' :: rest) = trimStart front ++ '{' :: rest := by
    have stop : ('{' :: rest).dropWhile isWhitespace = '{' :: rest :=
      List.dropWhile_cons_of_neg (by simp [brace_solid])
    rw [trimStart, List.dropWhile_append, trimStart]
    split
    · rename_i empty
      rw [List.isEmpty_iff.mp empty, stop]
      rfl
    · rfl
  have before : ∀ c ∈ trimStart front, decide (c ≠ '{') = true := by
    intro c member
    have there := (List.dropWhile_sublist isWhitespace).subset member
    exact decide_eq_true fun same => none_ (same ▸ there)
  rw [trim_ofList, String.toList_ofList, start, trimEnd_append _ ⟨'{', List.mem_cons_self, brace_solid⟩,
    List.dropWhile_append_of_pos before]
  obtain ⟨more, same⟩ := trimEnd_braced rest
  rw [same, List.dropWhile_cons_of_neg (by simp)]

/-- White space in front is cut off. -/
theorem trim_spaced {space : List Char} (white : ∀ c ∈ space, isWhitespace c = true) {c : Char}
    (solid : isWhitespace c = false) (rest : List Char) :
    (trim (String.ofList (space ++ c :: rest))).toList = trimEnd (c :: rest) := by
  have start : trimStart (space ++ c :: rest) = c :: rest := by
    rw [trimStart, List.dropWhile_append_of_pos white]
    exact List.dropWhile_cons_of_neg (by simp [solid])
  rw [trim_ofList, String.toList_ofList, start]

/-- A piece with a brace, and what is withheld of it. -/
private theorem withheldPart_split {piece : List Char} (brace : '{' ∈ piece) :
    ∃ front space rest, piece = front ++ '{' :: rest ∧ '{' ∉ front ∧
      withheldPart piece = space ++ '{' :: rest ∧ ∀ c ∈ space, isWhitespace c = true := by
  unfold withheldPart
  split
  · rename_i start
    obtain ⟨rest, found⟩ := List.isPrefixOf_iff_prefix.mp start
    have whole : piece = piece.takeWhile isWhitespace ++ '{' :: rest := by
      conv_lhs => rw [← @List.takeWhile_append_dropWhile _ isWhitespace piece]
      rw [show piece.dropWhile isWhitespace = '{' :: rest from found.symm]
    have white : ∀ c ∈ piece.takeWhile isWhitespace, isWhitespace c = true :=
      fun c member => List.mem_takeWhile_imp member
    refine ⟨_, _, rest, whole, fun member => ?_, whole, white⟩
    have blank := white '{' member
    rw [brace_solid] at blank
    cases blank
  · have before : '{' ∉ piece.takeWhile (· ≠ '{') := by
      intro member
      have other := List.mem_takeWhile_imp member
      simp at other
    cases found : piece.dropWhile (· ≠ '{') with
    | nil =>
      have other := List.dropWhile_eq_nil_iff.mp found '{' brace
      simp at other
    | cons c rest =>
      obtain rfl := dropWhile_head_brace found
      refine ⟨piece.takeWhile (· ≠ '{'), [], rest, ?_, before, rfl, by simp⟩
      rw [← found, List.takeWhile_append_dropWhile]

private theorem withheld_split {more : List String} {held : String}
    (kept : withheld more = some held) :
    ∃ front space rest, more.flatMap String.toList = front ++ '{' :: rest ∧ '{' ∉ front ∧
      held = String.ofList (space ++ '{' :: rest) ∧ ∀ c ∈ space, isWhitespace c = true := by
  induction more with
  | nil => cases kept
  | cons piece later ih =>
    rw [withheld] at kept
    split at kept
    · rename_i brace
      obtain ⟨front, space, rest, whole, before, part, white⟩ := withheldPart_split brace
      obtain rfl := Option.some.inj kept
      refine ⟨front, space, rest ++ later.flatMap String.toList, ?_, before, ?_, white⟩
      · rw [List.flatMap_cons, whole]
        simp only [List.append_assoc, List.cons_append]
      · rw [part]
        simp only [List.append_assoc, List.cons_append]
    · rename_i plain
      obtain ⟨front, space, rest, whole, before, part, white⟩ := ih kept
      refine ⟨piece.toList ++ front, space, rest, ?_, ?_, part, white⟩
      · rw [List.flatMap_cons, whole, List.append_assoc]
      · intro member
        rcases List.mem_append.mp member with here | there
        · exact plain here
        · exact before there

private theorem withheld_none {more : List String} (none_ : withheld more = none) :
    '{' ∉ more.flatMap String.toList := by
  induction more with
  | nil => simp
  | cons piece later ih =>
    rw [withheld] at none_
    split at none_
    · cases none_
    · rename_i plain
      intro member
      rcases List.mem_append.mp (by rwa [List.flatMap_cons] at member) with here | there
      · exact plain here
      · exact ih none_ there

private theorem heldAfter_some (text : String) (more : List String) :
    heldAfter (some text) more = some (text ++ joined more) := by
  induction more generalizing text with
  | nil => simp [heldAfter, joined]
  | cons piece rest ih =>
    have step : heldAfter (some text) (piece :: rest) = heldAfter (some (text ++ piece)) rest := rfl
    rw [step, ih, joined, joined, List.flatMap_cons, String.ofList_append, String.ofList_toList,
      String.append_assoc]

/-- The machine withholds just that. -/
theorem heldAfter_none (more : List String) : heldAfter none more = withheld more := by
  induction more with
  | nil => rfl
  | cons piece rest ih =>
    have step : heldAfter none (piece :: rest) = heldAfter (heldNext none (.piece piece)) rest := rfl
    rw [step, withheld, heldNext]
    by_cases brace : '{' ∈ piece.toList
    · simp only [if_pos brace]
      rw [heldAfter_some, joined, String.ofList_append]
    · simp only [if_neg brace]
      exact ih

/-- The call that counts in a text that comes in pieces. -/
def firstCall (text : String) : Option (String × Json) :=
  objectCall ((trim text).toList.dropWhile (· ≠ '{'))

/-- What is withheld stands for the call from the first brace of the whole text. -/
theorem withheld_call (ambient : Ambient) {more : List String} {held : String}
    (kept : withheld more = some held) :
    textContentToToolCalls ambient held =
      (firstCall (joined more)).map (singleCall ambient) := by
  obtain ⟨front, space, rest, whole, before, rfl, white⟩ := withheld_split kept
  have text := trim_spaced white brace_solid rest
  obtain ⟨tail, same⟩ := trimEnd_braced rest
  have nothing : callItems (trim (String.ofList (space ++ '{' :: rest))).toList = none := by
    have plain : "```".toList.isPrefixOf ('{' :: tail) = false := rfl
    rw [text, same, callItems, arrayItems_braced rfl, plain]
    rfl
  have one : ∀ items, callItems (trim (String.ofList (space ++ '{' :: rest))).toList = some items →
      OneNamed items := by
    intro items found
    rw [nothing] at found
    cases found
  rw [textContentToToolCalls_one ambient _ one, text, firstCall, joined, whole,
    trim_from_brace before rest, same, List.dropWhile_cons_of_neg (by simp)]

theorem withheld_none_call {more : List String} (none_ : withheld more = none) :
    firstCall (joined more) = none := by
  have plain := withheld_none none_
  have empty : (trim (joined more)).toList.dropWhile (· ≠ '{') = [] := by
    refine List.dropWhile_eq_nil_iff.mpr fun c member => decide_eq_true fun same => plain ?_
    rw [joined, trim_ofList, String.toList_ofList, trimEnd] at member
    have inside := (List.dropWhile_sublist isWhitespace).subset (List.mem_reverse.mp member)
    exact same ▸ (List.dropWhile_sublist isWhitespace).subset (List.mem_reverse.mp inside)
  rw [firstCall, empty, objectCall_nil]

/-! ## The calls that are sent -/

def argsText : Json → String
  | .str text => text
  | other => other.toText

/-- The one call of a named object, to a client. -/
def foundCall (call : String × Json) : ClientCall := ⟨some 0, call.1, argsText call.2⟩

theorem clientCall_entry (ambient : Ambient) (draw index : Nat) (name : String) (args : Json) :
    clientCall (toolCallEntry ambient draw index name args) =
      ⟨(Json.ofNat index).asI64, name, argsText args⟩ := by
  have place : (toolCallEntry ambient draw index name args).get "index" = some (Json.ofNat index) := by
    simp [toolCallEntry, List.lookup_cons]
  have called : (toolCallEntry ambient draw index name args).get "function" =
      some (.obj [("arguments", .str (argsText args)), ("name", .str name)]) := by
    cases args <;> simp [toolCallEntry, List.lookup_cons, argsText]
  rw [clientCall, place, called, Option.bind_some]
  simp [List.lookup_cons]

theorem toolCallFields_entry (ambient : Ambient) (name : String) (args : Json) :
    toolCallFields (toolCallEntry ambient 0 0 name args) =
      ⟨0, "call_" ++ ambient.uuid 0, name, argsText args⟩ := by
  have zero : (Json.ofNat 0).asU64 = some 0 := by decide
  cases args <;> simp [toolCallFields, toolCallEntry, List.lookup_cons, argsText, zero]

private theorem lineParts_event {ambient : Ambient} {state : SseTransformState} {delta finish : Json}
    (silent : Silent (chatStreamChunk ambient state (chunkChoice delta finish))) :
    lineParts (dataLine (chatStreamChunk ambient state (chunkChoice delta finish))) =
      messageCalls delta := by
  obtain ⟨fields, same, valid, deep, -⟩ := silent
  rw [same] at valid deep
  rw [lineParts, same, lineChunk_dataLine valid deep, ← same]
  rfl

private theorem call_events (ambient : Ambient) (state : SseTransformState)
    (chat : state.responseFormat = .chatCompletions) (call : String × Json) :
    ((streamingToolCallSseLines ambient state (singleCall ambient call)).flatMap lineParts).foldl
      joinPart [] = [foundCall call] := by
  have silent := streamingToolCallEvents_silent ambient state (singleCall ambient call)
  have events : streamingToolCallEvents ambient state (singleCall ambient call) =
      chatStreamChunk ambient state (chunkChoice (.obj [("role", .str "assistant")]) .null) ::
        (chatCallEvents ambient state ⟨0, "call_" ++ ambient.uuid 0, call.1, argsText call.2⟩ ++
          [chatStreamChunk ambient state (chunkChoice (.obj []) (.str "tool_calls"))]) := by
    rw [streamingToolCallEvents, if_neg (by rw [chat]; simp), singleCall, List.map_singleton,
      toolCallFields_entry, List.flatMap_singleton]
    rfl
  rw [events] at silent
  rw [streamingToolCallSseLines, events]
  by_cases bare : argsText call.2 = ""
  · simp only [chatCallEvents, bare, if_true, List.cons_append, List.nil_append, List.mem_cons,
      List.not_mem_nil, or_false, forall_eq_or_imp, forall_eq] at silent ⊢
    simp only [List.map_cons, List.map_nil, List.flatMap_cons, List.flatMap_nil,
      lineParts_event silent.1, lineParts_event silent.2.1, lineParts_event silent.2.2]
    simp [foundCall, bare, messageCalls, callDelta, clientCall, Json.get, List.lookup_cons, Json.asArray,
      Json.asI64, Json.ofNat, joinPart]
  · simp only [chatCallEvents, if_neg bare, List.cons_append, List.nil_append, List.mem_cons,
      List.not_mem_nil, or_false, forall_eq_or_imp, forall_eq] at silent ⊢
    simp only [List.map_cons, List.map_nil, List.flatMap_cons, List.flatMap_nil,
      lineParts_event silent.1, lineParts_event silent.2.1, lineParts_event silent.2.2.1,
      lineParts_event silent.2.2.2]
    simp [foundCall, messageCalls, callDelta, argumentsDelta, clientCall, Json.get, List.lookup_cons,
      Json.asArray, Json.asI64, Json.ofNat, joinPart]

/-- What is released of a text, to a client of chat streams: its one call, or none. -/
theorem release_calls (ambient : Ambient) (state : SseTransformState)
    (chat : state.responseFormat = .chatCompletions) {text : String} {call : Option (String × Json)}
    (calls : textContentToToolCalls ambient text = call.map (singleCall ambient)) :
    streamCalls (releaseLines ambient state text) = (call.map foundCall).toList := by
  rw [streamCalls, releaseLines, calls]
  cases call with
  | some call => exact call_events ambient state chat call
  | none =>
    have silent := closing_silent ambient state
    simp only [Option.map_none, List.flatMap_cons, List.flatMap_nil, lineParts_event silent]
    rfl

/-! ## The whole answer -/

section
variable {ambient : Ambient} {body : Json} {text : String}

theorem rewriteChatResponse_cut (answer : TextAnswer body text) (cut : PreviewCut text) :
    rewriteChatResponse ambient body = none := by
  obtain ⟨choice, rest, message, choices, there, plain, content⟩ := answer
  rw [PreviewCut] at cut
  simp only [rewriteChatResponse, choices, there, plain, content, cut, Bool.false_eq_true, if_false]

theorem rewriteChatResponse_text (answer : TextAnswer body text) (fits : ¬PreviewCut text)
    (none_ : textContentToToolCalls ambient text = none) :
    (rewriteChatResponse ambient body).map Prod.fst = some body ∧ answerCalls body = [] := by
  obtain ⟨choice, rest, message, choices, there, plain, content⟩ := answer
  obtain ⟨preview, made⟩ := Option.ne_none_iff_exists'.mp fits
  refine ⟨?_, ?_⟩
  · simp only [rewriteChatResponse, choices, there, plain, content, made, none_, Bool.false_eq_true,
      if_false, Option.map_some]
  · rw [answerCalls, chunkChoices_some choices]
    simp only [List.head?_cons, Option.bind_some, there, Option.map_some, Option.getD_some]
    exact hasToolCalls_false plain

/-- An answer that is rewritten has the calls of its text in place of the text. -/
theorem rewriteChatResponse_message (answer : TextAnswer body text) (fits : ¬PreviewCut text)
    {toolCalls : List Json} (calls : textContentToToolCalls ambient text = some toolCalls) :
    ∃ rewritten choice rest message, (rewriteChatResponse ambient body).map Prod.fst = some rewritten ∧
      chunkChoices rewritten = choice :: rest ∧ choice.get "message" = some message ∧
      messageTextContent message = "" ∧ message.get "tool_calls" = some (.arr toolCalls) := by
  obtain ⟨choice, rest, message, choices, there, plain, content⟩ := answer
  obtain ⟨preview, made⟩ := Option.ne_none_iff_exists'.mp fits
  obtain ⟨value, found, -⟩ := Option.bind_eq_some_iff.mp choices
  cases body with
  | obj bodyFields =>
    cases choice with
    | obj choiceFields =>
      cases message with
      | obj messageFields =>
        let newMessage := Json.insertField "tool_calls" (.arr toolCalls)
          (Json.insertField "content" .null messageFields)
        let newChoice := Json.insertField "finish_reason" (.str "tool_calls")
          (Json.insertField "message" (.obj newMessage) choiceFields)
        refine ⟨.obj (Json.insertField "choices" (.arr (.obj newChoice :: rest)) bodyFields),
          .obj newChoice, rest, .obj newMessage, ?_, ?_, ?_, ?_, ?_⟩
        · simp only [rewriteChatResponse, choices, there, plain, content, made, calls,
            Bool.false_eq_true, if_false, Option.map_some, Json.insert_obj]
          rfl
        · rw [chunkChoices, Json.get_obj, Json.lookup_insertField_self]
          rfl
        · rw [Json.get_obj, Json.lookup_insertField_of_ne (by decide), Json.lookup_insertField_self]
        · rw [messageTextContent, Json.get_obj, Json.lookup_insertField_of_ne (by decide),
            Json.lookup_insertField_self]
        · rw [Json.get_obj, Json.lookup_insertField_self]
      | _ =>
        have none_ : text = "" := content.symm
        rw [none_] at calls
        cases calls
    | _ => cases there
  | _ => cases found

/-- So it has the calls of its text, and is another one. -/
theorem rewriteChatResponse_calls (answer : TextAnswer body text) (fits : ¬PreviewCut text)
    {toolCalls : List Json} (calls : textContentToToolCalls ambient text = some toolCalls) :
    ∃ rewritten, (rewriteChatResponse ambient body).map Prod.fst = some rewritten ∧
      answerCalls rewritten = toolCalls.map clientCall ∧ rewritten ≠ body := by
  obtain ⟨rewritten, choice, rest, message, ran, choices, there, empty, listed⟩ :=
    rewriteChatResponse_message answer fits calls
  refine ⟨rewritten, ran, ?_, ?_⟩
  · rw [answerCalls, choices, List.head?_cons, Option.bind_some, there, Option.map_some,
      Option.getD_some, messageCalls, listed]
    rfl
  · rintro rfl
    obtain ⟨choice', rest', message', choices', there', -, content⟩ := answer
    rw [chunkChoices_some choices'] at choices
    obtain ⟨rfl, -⟩ := List.cons.inj choices
    obtain rfl := Option.some.inj (there.symm.trans there')
    rw [empty] at content
    rw [← content] at calls
    cases calls

end

/-! ## Agreement -/

theorem itemCalls_later (ambient : Ambient) {items : List Json} (later : ¬OneNamed items) :
    ∃ toolCalls, itemCalls ambient items = some toolCalls ∧
      ∃ tc ∈ toolCalls, (clientCall tc).index ≠ some 0 := by
  have counted : ∀ (items : List Json) draw i, 0 < i → (∃ item ∈ items, namedCall item ≠ none) →
      ∃ tc ∈ arrayCalls ambient draw i items, (clientCall tc).index ≠ some 0 := by
    intro items
    induction items with
    | nil => simp
    | cons item rest ih =>
      intro draw i positive named
      by_cases here : namedCall item = none
      · obtain ⟨other, member, some_⟩ := named
        have there : other ∈ rest := by
          rcases List.mem_cons.mp member with rfl | there
          · exact absurd here some_
          · exact there
        obtain ⟨tc, found, index⟩ := ih draw (i + 1) (by omega) ⟨other, there, some_⟩
        refine ⟨tc, ?_, index⟩
        cases item with
        | obj map =>
          have name : (map.lookup "name").bind Json.asStr = none := by simpa [namedCall] using here
          simpa only [arrayCalls, name] using found
        | _ => simpa only [arrayCalls] using found
      · cases item with
        | obj map =>
          cases name : (map.lookup "name").bind Json.asStr with
          | none => exact absurd (by simp [namedCall, name]) here
          | some name' =>
            simp only [arrayCalls, name]
            refine ⟨_, List.mem_cons_self, ?_⟩
            rw [clientCall_entry]
            simp only [Json.ofNat, Json.asI64]
            split
            · simpa using by omega
            · simp
        | _ => exact absurd rfl here
  simp only [OneNamed, not_forall] at later
  obtain ⟨item, member, named⟩ := later
  cases items with
  | nil => simp at member
  | cons first rest =>
    have found : ∀ draw, ∃ tc ∈ arrayCalls ambient draw 1 rest, (clientCall tc).index ≠ some 0 :=
      fun draw => counted rest draw 1 (by decide) ⟨item, by simpa using member, named⟩
    have whole : ∃ tc ∈ arrayCalls ambient 0 0 (first :: rest), (clientCall tc).index ≠ some 0 := by
      cases first with
      | obj map =>
        cases name : (map.lookup "name").bind Json.asStr with
        | none => simpa only [arrayCalls, name] using found 0
        | some name' =>
          obtain ⟨tc, there, index⟩ := found 1
          exact ⟨tc, by simpa only [arrayCalls, name] using List.mem_cons_of_mem _ there, index⟩
      | _ => simpa only [arrayCalls] using found 0
    obtain ⟨tc, there, index⟩ := whole
    refine ⟨arrayCalls ambient 0 0 (first :: rest), ?_, tc, there, index⟩
    unfold itemCalls
    split
    · rename_i none_
      rw [none_] at there
      cases there
    · rfl

/-- No later item of the array that a text is, by itself or in a code fence, is named. -/
def NoLaterCall (text : String) : Prop :=
  ∀ items, callItems (trim text).toList = some items → OneNamed items

private theorem later_calls (ambient : Ambient) {text : String} (later : ¬NoLaterCall text) :
    ∃ toolCalls, textContentToToolCalls ambient text = some toolCalls ∧
      ∃ tc ∈ toolCalls, (clientCall tc).index ≠ some 0 := by
  simp only [NoLaterCall, not_forall] at later
  obtain ⟨items, found, named⟩ := later
  obtain ⟨toolCalls, calls, tc, member, index⟩ := itemCalls_later ambient named
  refine ⟨toolCalls, ?_, tc, member, index⟩
  rw [textContentToToolCalls_eq, found, Option.bind_some, calls, Option.some_or]

/-- The withheld text of a stream fits, if there is one. -/
def WithheldFits (more : List String) : Prop := ∀ held, withheld more = some held → ¬PreviewCut held

section
variable {ambients : Nat → Ambient} {body ending : List String} {doneSent : Bool}

/-- A stream is cut where its withheld text is, and else has the first call of its text. -/
theorem transformStream_calls (spoken : ∀ line ∈ body, Spoken line)
    (ended : ∀ line ∈ ending, Ended line) :
    (¬WithheldFits (linePieces body) →
      transformStream ambients .chatCompletions (body ++ ending) doneSent = none) ∧
      (WithheldFits (linePieces body) → ∃ out,
        transformStream ambients .chatCompletions (body ++ ending) doneSent = some out ∧
          streamCalls out = ((firstCall (joined (linePieces body))).map foundCall).toList) := by
  have idle : Holds (.withResponseFormat .chatCompletions) none := ⟨rfl, rfl, by simp⟩
  obtain ⟨between, out, ran, kept, format, quiet⟩ :=
    @processLines_spoken (fun n => ambients (n + ending.length)) _ _ _ idle spoken
  rw [heldAfter_none] at kept
  have whole : transformStream ambients .chatCompletions (body ++ ending) doneSent =
      (endStream ambients (ambients (body ++ ending).length) between ending doneSent).map
        (out ++ ·) := by
    rw [transformStream, processLines_append, ran, endStream]
    simp only [Option.bind_some]
    cases processLines ambients between ending with
    | none => rfl
    | some step =>
      simp only [Option.map_some, Option.bind_some, Option.map_map]
      refine congrFun (congrArg Option.map (funext fun last => ?_)) _
      simp
  rw [whole]
  cases held : withheld (linePieces body) with
  | none =>
    rw [held] at kept
    refine ⟨fun cut => absurd (fun text found => by rw [held] at found; cases found) cut, fun _ => ?_⟩
    obtain ⟨more, rest, parts⟩ :=
      @endStream_ended ambients _ (ambients (body ++ ending).length) doneSent _ kept ended
    rw [rest]
    refine ⟨out ++ more, rfl, ?_⟩
    rw [streamCalls, List.flatMap_append, quiet, parts, withheld_none_call held]
    rfl
  | some text =>
    rw [held] at kept
    obtain ⟨cut, fits⟩ :=
      @endStream_held ambients _ (ambients (body ++ ending).length) doneSent _ _ kept ended
    refine ⟨fun panics => ?_, fun fine => ?_⟩
    · have long : PreviewCut text := by
        by_contra fine
        refine panics fun other found => ?_
        rw [held] at found
        exact Option.some.inj found ▸ fine
      rw [cut long]
      rfl
    · obtain ⟨ambient, captured, more, rest, same, parts⟩ := fits (fine text held)
      rw [rest]
      refine ⟨out ++ more, rfl, ?_⟩
      rw [streamCalls, List.flatMap_append, quiet, parts, List.nil_append]
      have calls := release_calls ambient captured (same.trans format) (withheld_call ambient held)
      rw [streamCalls] at calls
      exact calls

/-- Where the two agree nothing is cut and there is no later call. -/
private theorem calls_agree_only (ambient : Ambient) {answer : Json}
    (spoken : ∀ line ∈ body, Spoken line) (ended : ∀ line ∈ ending, Ended line)
    (whole : TextAnswer answer (joined (linePieces body)))
    (agree : CallsAgree (transformStream ambients .chatCompletions (body ++ ending) doneSent) answer
      (rewriteChatResponse ambient answer)) :
    NoLaterCall (joined (linePieces body)) ∧ ¬PreviewCut (joined (linePieces body)) ∧
      WithheldFits (linePieces body) := by
  obtain ⟨cut, sent⟩ := @transformStream_calls ambients _ _ doneSent spoken ended
  obtain ⟨out, rewritten, ran, written, same, -, -⟩ := agree
  have fits : ¬PreviewCut (joined (linePieces body)) := by
    intro long
    rw [rewriteChatResponse_cut whole long] at written
    cases written
  have held : WithheldFits (linePieces body) := by
    by_contra long
    rw [cut long] at ran
    cases ran
  refine ⟨?_, fits, held⟩
  by_contra later
  obtain ⟨toolCalls, calls, tc, member, index⟩ := later_calls ambient later
  obtain ⟨other, written', listed, -⟩ := rewriteChatResponse_calls whole fits calls
  obtain rfl := Option.some.inj (written.symm.trans written')
  obtain ⟨out', ran', streamed⟩ := sent held
  obtain rfl := Option.some.inj (ran.symm.trans ran')
  have there : clientCall tc ∈ streamCalls out := by
    rw [same, listed]
    exact List.mem_map_of_mem member
  rw [streamed] at there
  obtain ⟨call, -, found⟩ := Option.map_eq_some_iff.mp (Option.mem_toList.mp there)
  exact index (by rw [← found]; rfl)

/-- A text that comes in pieces and then ends, by a finish reason, the end mark or the end
of the stream, has the calls of the same text as a whole answer exactly when no later item
of an array stands for a call and neither the text nor what is withheld of it is cut by
its preview. -/
theorem calls_agree_iff (ambient : Ambient) {answer : Json} (spoken : ∀ line ∈ body, Spoken line)
    (ended : ∀ line ∈ ending, Ended line) (whole : TextAnswer answer (joined (linePieces body))) :
    CallsAgree (transformStream ambients .chatCompletions (body ++ ending) doneSent) answer
        (rewriteChatResponse ambient answer) ↔
      NoLaterCall (joined (linePieces body)) ∧ ¬PreviewCut (joined (linePieces body)) ∧
        WithheldFits (linePieces body) := by
  obtain ⟨-, sent⟩ := @transformStream_calls ambients _ _ doneSent spoken ended
  constructor
  · exact calls_agree_only ambient spoken ended whole
  · rintro ⟨single, fits, held⟩
    obtain ⟨out, ran, streamed⟩ := sent held
    have calls := textContentToToolCalls_one ambient _ single
    cases found : firstCall (joined (linePieces body)) with
    | none =>
      rw [firstCall] at found
      rw [found, Option.map_none] at calls
      obtain ⟨written, none_⟩ := rewriteChatResponse_text whole fits calls
      rw [firstCall, found] at streamed
      have empty : streamCalls out = [] := streamed
      refine ⟨out, answer, ran, written, by rw [empty, none_], ?_, by simp [empty]⟩
      rw [empty]
      rfl
    | some call =>
      have one : streamCalls out = [foundCall call] := by
        rw [streamed, found]
        rfl
      rw [firstCall] at found
      rw [found, Option.map_some] at calls
      obtain ⟨rewritten, written, listed, other⟩ := rewriteChatResponse_calls whole fits calls
      refine ⟨out, rewritten, ran, written, ?_, ?_, ?_⟩
      · rw [one, listed, singleCall, List.map_singleton, clientCall_entry]
        rfl
      · rw [one]
        rfl
      · rw [one]
        exact iff_of_false (by simp) other

end

/-! ## A text in one piece -/

theorem lineKind_contentDelta {content : String} (some_ : content ≠ "") :
    lineKind (contentDelta content) = .piece content := by
  have unmarked : normalizeSseDataLine (contentDelta content) ≠ some "data: [DONE]" := by
    rw [contentDelta, contentChunk, normalize_dataLine]
    simpa using dataLine_ne_done _
  have text : chunkContent (contentChunk content) = content := rfl
  have plain : chunkCalls (contentChunk content) = false := rfl
  rw [lineKind, if_neg unmarked, lineChunk_contentDelta]
  simp only [chunkKind, plain, text, Bool.false_eq_true, if_false]
  rw [if_pos some_]

/-- A whole answer with a text. -/
def textCompletion (text : String) : Json :=
  .obj [("choices", .arr [.obj [("finish_reason", .str "stop"),
    ("message", .obj [("content", .str text), ("role", .str "assistant")])]])]

theorem textCompletion_answer (text : String) : TextAnswer (textCompletion text) text :=
  ⟨_, _, _, rfl, rfl, rfl, rfl⟩

private theorem one_piece {content : String} (some_ : content ≠ "") :
    (∀ line ∈ [contentDelta content], Spoken line) ∧
      joined (linePieces [contentDelta content]) = content := by
  have kind := lineKind_contentDelta some_
  refine ⟨?_, ?_⟩
  · intro line member
    obtain rfl := List.mem_singleton.mp member
    exact .inl ⟨content, kind⟩
  · simp only [linePieces, List.filterMap_cons, linePiece, kind, List.filterMap_nil, joined,
      List.flatMap_cons, List.flatMap_nil, List.append_nil, String.ofList_toList]

private theorem mark_ended : ∀ line ∈ ["data: [DONE]"], Ended line := by
  intro line member
  obtain rfl := List.mem_singleton.mp member
  exact .inr (.inl (lineKind_mark.mpr (by decide)))

theorem calls_agree_iff_sample :
    CallsAgree (transformStream (fun _ => plainAmbient) .chatCompletions
        ([contentDelta "\x7b\"name\":\"ls\"\x7d"] ++ ["data: [DONE]"]) false) (textCompletion "\x7b\"name\":\"ls\"\x7d")
        (rewriteChatResponse plainAmbient (textCompletion "\x7b\"name\":\"ls\"\x7d")) ↔
      NoLaterCall (joined (linePieces [contentDelta "\x7b\"name\":\"ls\"\x7d"])) ∧
        ¬PreviewCut (joined (linePieces [contentDelta "\x7b\"name\":\"ls\"\x7d"])) ∧
        WithheldFits (linePieces [contentDelta "\x7b\"name\":\"ls\"\x7d"]) := by
  obtain ⟨spoken, text⟩ := @one_piece "\x7b\"name\":\"ls\"\x7d" (by decide)
  exact calls_agree_iff plainAmbient spoken mark_ended
    (by rw [text]; exact textCompletion_answer "\x7b\"name\":\"ls\"\x7d")

/-- Of two calls in an array a stream has only the first. -/
theorem second_call_lost :
    ¬CallsAgree (transformStream (fun _ => plainAmbient) .chatCompletions
        ([contentDelta "[\x7b\"name\":\"a\"\x7d,\x7b\"name\":\"b\"\x7d]"] ++ ["data: [DONE]"]) false)
      (textCompletion "[\x7b\"name\":\"a\"\x7d,\x7b\"name\":\"b\"\x7d]")
      (rewriteChatResponse plainAmbient
        (textCompletion "[\x7b\"name\":\"a\"\x7d,\x7b\"name\":\"b\"\x7d]")) := by
  obtain ⟨spoken, text⟩ :=
    @one_piece "[\x7b\"name\":\"a\"\x7d,\x7b\"name\":\"b\"\x7d]" (by decide)
  intro agree
  obtain ⟨single, -⟩ := calls_agree_only plainAmbient spoken mark_ended
    (by rw [text]; exact textCompletion_answer _) agree
  rw [text] at single
  have second : ((callItems (trim "[\x7b\"name\":\"a\"\x7d,\x7b\"name\":\"b\"\x7d]").toList).map
      fun items => (items.drop 1).all fun item => (namedCall item).isNone) = some false := by
    decide
  obtain ⟨items, found, named⟩ := Option.map_eq_some_iff.mp second
  have all := single items found
  have none_ : ((items.drop 1).all fun item => (namedCall item).isNone) = true := by
    simpa [OneNamed] using all
  rw [named] at none_
  cases none_

end MtrxPeer
