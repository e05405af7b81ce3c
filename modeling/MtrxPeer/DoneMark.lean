import MtrxPeer.AgentStream

/-! The end mark of the streams an agent client is sent. It is sent once, with nothing
but blank lines after it, exactly when the upstream says nothing after its own mark,
and when the local stream, besides, notices that mark. -/
namespace MtrxPeer

/-! ## Marks -/

/-- A line that is the end mark, in any spelling. -/
def EndMark (line : String) : Prop := normalizeSseDataLine line = some "data: [DONE]"

instance (line : String) : Decidable (EndMark line) := inferInstanceAs (Decidable (_ = _))

def Blank (line : String) : Prop := trim line = ""

/-- The end mark is there once, and only blank lines come after it. -/
def DoneOnce (out : List String) : Prop :=
  ∃ front back, out = front ++ "data: [DONE]" :: back ∧ (∀ line ∈ front, ¬EndMark line) ∧
    ∀ line ∈ back, Blank line

/-- The lines that are read, each with whether the stream notices a mark in it. -/
abbrev Flagged := List (String × Bool)

/-- After a mark there are only blank lines, and the mark is noticed. -/
def EndsOnce (lines : Flagged) : Prop :=
  ∀ front line noticed back, lines = front ++ (line, noticed) :: back → EndMark line →
    noticed = true ∧ ∀ later ∈ back, Blank later.1

/-- No preview of a withheld text cuts a character, when the text is ended by a mark, by
a closing chunk or by the end of the stream. -/
def PreviewsFit : Option String → List String → Prop
  | held, [] => ∀ text ∈ held, ¬PreviewCut text
  | held, line :: rest =>
    (lineKind line = .mark ∨ lineKind line = .closing → ∀ text ∈ held, ¬PreviewCut text) ∧
      PreviewsFit (heldNext held (lineKind line)) rest

theorem done_mark : EndMark "data: [DONE]" := by decide

theorem blank_not_mark {line : String} (blank : Blank line) : ¬EndMark line := by
  intro mark
  rw [EndMark, normalize_blank blank] at mark
  cases mark

theorem blank_other {line : String} (blank : Blank line) : lineKind line = .other := by
  have none_ := normalize_blank blank
  rw [lineKind, lineChunk, none_]
  rfl

theorem dataLine_solid (fields : List (String × Json)) :
    ¬Blank (dataLine (.obj fields)) ∧ ¬EndMark (dataLine (.obj fields)) := by
  have normal := normalize_dataLine fields
  refine ⟨?_, ?_⟩
  · intro blank
    rw [normalize_blank blank] at normal
    cases normal
  · rw [EndMark, normal]
    simpa using dataLine_ne_done fields

/-- The lines that end a withheld text are neither blank nor marks, and there are some. -/
theorem releaseLines_solid (ambient : Ambient) (state : SseTransformState) (text : String) :
    releaseLines ambient state text ≠ [] ∧
      ∀ line ∈ releaseLines ambient state text, ¬Blank line ∧ ¬EndMark line := by
  have events : ∃ events : List Json, releaseLines ambient state text = events.map dataLine ∧
      events ≠ [] ∧ ∀ event ∈ events, ∃ fields, event = .obj fields := by
    unfold releaseLines
    split
    · rename_i toolCalls _
      refine ⟨streamingToolCallEvents ambient state toolCalls, rfl, ?_, ?_⟩
      · unfold streamingToolCallEvents responsesStreamFromToolCalls
        split <;> simp
      · intro event member
        obtain ⟨fields, same, -⟩ := streamingToolCallEvents_silent ambient state toolCalls event member
        exact ⟨fields, same⟩
    · exact ⟨[_], rfl, by simp, fun event member => ⟨_, List.mem_singleton.mp member⟩⟩
  obtain ⟨events, same, some_, objects⟩ := events
  rw [same]
  refine ⟨by simpa using some_, ?_⟩
  intro line member
  obtain ⟨event, mine, rfl⟩ := List.mem_map.mp member
  obtain ⟨fields, rfl⟩ := objects event mine
  exact dataLine_solid fields

/-! ## Lines with flags -/

/-- A run over lines: each is handled, and sets `doneSent` where its flag says so. -/
def flaggedLines (ambients : Nat → Ambient) (s : AgentStream) : Flagged →
    Option (AgentStream × List String)
  | [] => some (s, [])
  | (line, noticed) :: rest =>
    match processLine (ambients s.handled) s.sseState line with
    | none => none
    | some (sseState, out) =>
      (flaggedLines ambients ⟨sseState, s.doneSent || noticed, s.handled + 1⟩ rest).map
        fun (s, more) => (s, out ++ more)

/-- A run over lines, and the end of the stream. -/
def flaggedStream (ambients : Nat → Ambient) (s : AgentStream) (lines : Flagged) :
    Option (List String) :=
  (flaggedLines ambients s lines).bind fun (s, out) =>
    (finalizeStream (ambients s.handled) s.sseState s.doneSent).map fun (_, last) => out ++ last

section
variable {ambients : Nat → Ambient} {s : AgentStream} {held : Option String}

/-- What one line is answered with, in the terms of the machine. -/
structure Stepped (held : Option String) (line : String) (after : SseTransformState)
    (out : List String) : Prop where
  holds : Holds after (heldNext held (lineKind line))
  marked : EndMark line → ∃ front, out = front ++ ["data: [DONE]"] ∧ ∀ sent ∈ front, ¬EndMark sent
  unmarked : ¬EndMark line → ∀ sent ∈ out, ¬EndMark sent
  silent : ¬EndMark line → (∀ sent ∈ out, Blank sent) →
    Blank line ∧ heldNext held (lineKind line) = held ∨ heldNext held (lineKind line) ≠ none
  blank : Blank line → ∀ sent ∈ out, Blank sent

/-- What a line that goes on is answered with. -/
private theorem stepped_goesOn {line sent : String} {after : SseTransformState}
    (on : GoesOn held (lineKind line)) (holds : Holds after held) (passed : Passed line sent) :
    Stepped held line after [sent] := by
  have same : heldNext held (lineKind line) = held := by
    revert on
    cases lineKind line with
    | mark => exact False.elim
    | other => exact fun _ => rfl
    | closing => exact fun idle => idle.symm
    | piece content =>
      rintro ⟨idle, none_⟩
      subst idle
      simp only [heldNext, if_neg none_]
  have unmarked : ¬EndMark line := by
    intro mark
    rw [lineKind_mark.mpr mark] at on
    exact on
  refine ⟨by rw [same]; exact holds, fun mark => absurd mark unmarked, ?_, ?_, ?_⟩
  · intro _ other member
    rw [List.mem_singleton.mp member]
    exact passed.unmarked
  · intro _ silent
    exact .inl ⟨passed.blank.mp (silent sent (by simp)), same⟩
  · intro blank other member
    rw [List.mem_singleton.mp member]
    exact passed.blank.mpr blank

/-- What ends a withheld text is answered with its lines. -/
private theorem stepped_released {ambient : Ambient} {state after : SseTransformState} {line : String}
    (kind : lineKind line = .mark ∨ lineKind line = .closing) (text : String)
    (holds : Holds after none) :
    Stepped held line after (releaseLines ambient state text ++
      if lineKind line = .mark then ["data: [DONE]"] else []) := by
  obtain ⟨some_, solid⟩ := releaseLines_solid ambient state text
  have next : heldNext held (lineKind line) = none := by
    rcases kind with is | is <;> rw [is] <;> rfl
  have loud : ¬Blank line := by
    intro blank
    rw [blank_other blank] at kind
    simp at kind
  refine ⟨by rw [next]; exact holds, ?_, ?_, ?_, fun blank => absurd blank loud⟩
  · intro mark
    rw [if_pos (lineKind_mark.mpr mark)]
    exact ⟨_, rfl, fun sent member => (solid sent member).2⟩
  · intro unmarked sent member
    rw [if_neg fun mark => unmarked (lineKind_mark.mp mark), List.append_nil] at member
    exact (solid sent member).2
  · intro _ silent
    obtain ⟨first, rest, front⟩ := List.exists_cons_of_ne_nil some_
    exact absurd (silent first (by simp [front])) (solid first (by simp [front])).1

/-- A line is answered as the machine says, or the program panics where a preview cuts. -/
theorem processLine_stepped {ambient : Ambient} {state : SseTransformState} (line : String)
    (holds : Holds state held) :
    ((lineKind line = .mark ∨ lineKind line = .closing) ∧ (∃ text ∈ held, PreviewCut text) ∧
        processLine ambient state line = none) ∨
      (lineKind line = .mark ∨ lineKind line = .closing → ∀ text ∈ held, ¬PreviewCut text) ∧
        ∃ after out, processLine ambient state line = some (after, out) ∧ Stepped held line after out := by
  have passes (on : GoesOn held (lineKind line))
      (fits : lineKind line = .mark ∨ lineKind line = .closing → ∀ text ∈ held, ¬PreviewCut text) :
      (lineKind line = .mark ∨ lineKind line = .closing → ∀ text ∈ held, ¬PreviewCut text) ∧
        ∃ after out, processLine ambient state line = some (after, out) ∧ Stepped held line after out := by
    obtain ⟨after, sent, ran, held_, -, passed⟩ := @processLine_goesOn ambient state held line holds on
    exact ⟨fits, after, [sent], ran, stepped_goesOn on held_ passed⟩
  cases kind : lineKind line with
  | other =>
    right
    rw [kind] at passes
    exact passes trivial (by simp)
  | closing =>
    cases held with
    | none =>
      right
      rw [kind] at passes
      exact passes rfl (by simp)
    | some text =>
      obtain ⟨panics, releases⟩ := @processLine_closing ambient state line text holds kind
      by_cases cut : PreviewCut text
      · exact .inl ⟨.inr rfl, ⟨text, rfl, cut⟩, panics cut⟩
      · obtain ⟨after, captured, ran, idle, -⟩ := releases cut
        refine .inr ⟨fun _ => by simpa using cut, after, _, ran, ?_⟩
        have stepped := @stepped_released (some text) ambient captured after line (.inr kind)
          text idle
        rw [if_neg (by rw [kind]; simp), List.append_nil] at stepped
        exact stepped
  | mark =>
    have ran := @processLine_mark ambient state line kind
    cases held with
    | none =>
      rw [flushOnStreamEnd_idle holds] at ran
      refine .inr ⟨by simp, state, _, ran, ?_⟩
      have mark := lineKind_mark.mp kind
      refine ⟨by rw [kind]; exact holds, fun _ => ⟨[], rfl, by simp⟩, fun other => absurd mark other,
        fun other => absurd mark other, fun blank => absurd mark (blank_not_mark blank)⟩
    | some text =>
      obtain ⟨panics, releases⟩ := @flushOnStreamEnd_held ambient state text holds
      by_cases cut : PreviewCut text
      · rw [panics cut] at ran
        exact .inl ⟨.inl rfl, ⟨text, rfl, cut⟩, ran⟩
      · obtain ⟨after, flushed, idle, -⟩ := releases cut
        rw [flushed] at ran
        refine .inr ⟨fun _ => by simpa using cut, after, _, ran, ?_⟩
        have stepped := @stepped_released (some text) ambient state after line (.inl kind)
          text idle
        rw [if_pos kind] at stepped
        exact stepped
  | piece content =>
    have unmarked : ¬EndMark line := by
      intro mark
      rw [lineKind_mark.mpr mark] at kind
      cases kind
    have loud : ¬Blank line := by
      intro blank
      rw [blank_other blank] at kind
      cases kind
    right
    cases held with
    | none =>
      by_cases brace : '{' ∈ content.toList
      · obtain ⟨after, out, ran, held_, -, sent⟩ := @processLine_opens ambient state line content holds kind brace
        have next : heldNext none (lineKind line) =
            some (String.ofList (withheldPart content.toList)) := by
          rw [kind]
          simp only [heldNext, if_pos brace]
        refine ⟨by simp, after, out, ran, by rw [next]; exact held_, fun mark => absurd mark unmarked,
          ?_, fun _ _ => .inr (by rw [next]; simp), fun blank => absurd blank loud⟩
        intro _ one member
        rcases sent with rfl | ⟨fields, -, -, -, -, rfl⟩
        · cases member
        · rw [List.mem_singleton.mp member]
          exact (dataLine_solid fields).2
      · rw [kind] at passes
        exact passes ⟨rfl, brace⟩ (by simp)
    | some text =>
      obtain ⟨after, ran, held_, -⟩ := @processLine_held ambient state line content text holds kind
      have next : heldNext (some text) (lineKind line) = some (text ++ content) := by
        rw [kind]
        rfl
      exact ⟨by simp, after, [], ran, by rw [next]; exact held_, fun mark => absurd mark unmarked,
        by simp, fun _ _ => .inr (by rw [next]; simp), fun blank => absurd blank loud⟩

/-! ## Runs -/

private theorem flaggedStream_cons {line : String} {noticed : Bool} {rest : Flagged}
    {after : SseTransformState} {out : List String}
    (ran : processLine (ambients s.handled) s.sseState line = some (after, out)) :
    flaggedStream ambients s ((line, noticed) :: rest) =
      (flaggedStream ambients ⟨after, s.doneSent || noticed, s.handled + 1⟩ rest).map (out ++ ·) := by
  simp only [flaggedStream, flaggedLines, ran]
  cases flaggedLines ambients ⟨after, s.doneSent || noticed, s.handled + 1⟩ rest with
  | none => rfl
  | some step =>
    simp only [Option.map_some, Option.bind_some, Option.map_map]
    congr 1
    funext last
    simp [List.append_assoc]

private theorem flaggedStream_panic {line : String} {noticed : Bool} {rest : Flagged}
    (panic : processLine (ambients s.handled) s.sseState line = none) :
    flaggedStream ambients s ((line, noticed) :: rest) = none := by
  simp only [flaggedStream, flaggedLines, panic, Option.bind_none]

/-- The end of a stream: what is withheld is ended, and the mark is sent if none was. -/
private theorem flaggedStream_nil (holds : Holds s.sseState held) :
    ((∃ text ∈ held, PreviewCut text) ∧ flaggedStream ambients s [] = none) ∨
      (∀ text ∈ held, ¬PreviewCut text) ∧ ∃ released,
        flaggedStream ambients s [] =
          some (released ++ if s.doneSent then [] else ["data: [DONE]"]) ∧
        (held ≠ none → released ≠ []) ∧ (held = none → released = []) ∧
        ∀ line ∈ released, ¬Blank line ∧ ¬EndMark line := by
  have finished {after : SseTransformState} {out : List String}
      (flushed : flushOnStreamEnd (ambients s.handled) s.sseState = some (after, out))
      (solid : ∀ line ∈ out, ¬Blank line ∧ ¬EndMark line) :
      flaggedStream ambients s [] = some (out ++ if s.doneSent then [] else ["data: [DONE]"]) := by
    have unsent : (out.any fun line => decide (trim line = "data: [DONE]")) = false := by
      rw [List.any_eq_false]
      intro line member
      simp only [decide_eq_true_eq]
      intro spelled
      refine (solid line member).2 ?_
      rw [EndMark, normalizeSseDataLine, spelled]
      decide
    simp only [flaggedStream, flaggedLines, Option.bind_some, finalizeStream, flushed,
      Option.map_some, List.nil_append, unsent, Bool.or_false]
    cases s.doneSent <;> simp
  cases held with
  | none =>
    refine .inr ⟨by simp, [], finished (flushOnStreamEnd_idle holds) (by simp), by simp, by simp, by simp⟩
  | some text =>
    obtain ⟨panics, releases⟩ := @flushOnStreamEnd_held (ambients s.handled) s.sseState text holds
    by_cases cut : PreviewCut text
    · left
      refine ⟨⟨text, rfl, cut⟩, ?_⟩
      simp only [flaggedStream, flaggedLines, Option.bind_some, finalizeStream, panics cut,
        Option.map_none]
    · right
      obtain ⟨after, flushed, -⟩ := releases cut
      obtain ⟨some_, solid⟩ := releaseLines_solid (ambients s.handled) s.sseState text
      exact ⟨by simpa using cut, _, finished flushed solid, fun _ => some_, by simp, solid⟩

/-- Only marks are noticed. -/
def NoticesMarks (lines : Flagged) : Prop := ∀ line ∈ lines, line.2 = true → EndMark line.1

/-- If all that is sent is blank, so is all that came, nothing was withheld, and the mark
had been sent. -/
private theorem quiet_stream {lines : Flagged} {out : List String} (holds : Holds s.sseState held)
    (notices : NoticesMarks lines) (ran : flaggedStream ambients s lines = some out)
    (quiet : ∀ line ∈ out, Blank line) :
    held = none ∧ (∀ line ∈ lines, Blank line.1) ∧ s.doneSent = true := by
  have loud : ¬Blank "data: [DONE]" := by unfold Blank; decide
  induction lines generalizing s held out with
  | nil =>
    rcases @flaggedStream_nil ambients s held holds with ⟨-, panic⟩ | ⟨-, released, sent, some_, -, solid⟩
    · rw [panic] at ran
      cases ran
    · obtain rfl := Option.some.inj (sent.symm.trans ran)
      refine ⟨?_, by simp, ?_⟩
      · by_contra kept
        obtain ⟨first, rest, front⟩ := List.exists_cons_of_ne_nil (some_ kept)
        exact (solid first (by simp [front])).1 (quiet first (by simp [front]))
      · by_contra unsent
        exact loud (quiet "data: [DONE]" (by simp [unsent]))
  | cons first rest ih =>
    obtain ⟨line, noticed⟩ := first
    rcases @processLine_stepped held (ambients s.handled) s.sseState line holds with
      ⟨-, -, panic⟩ | ⟨-, after, sent, step, stepped⟩
    · rw [flaggedStream_panic panic] at ran
      cases ran
    · rw [flaggedStream_cons step] at ran
      obtain ⟨more, tail, rfl⟩ := Option.map_eq_some_iff.mp ran
      have unmarked : ¬EndMark line := by
        intro mark
        obtain ⟨front, rfl, -⟩ := stepped.marked mark
        exact loud (quiet "data: [DONE]" (by simp))
      obtain ⟨idle, others, done⟩ := ih stepped.holds
        (fun one member => notices one (List.mem_cons_of_mem _ member)) tail
        (fun one member => quiet one (List.mem_append_right _ member))
      have unnoticed : noticed = false := by
        by_contra flagged
        exact unmarked (notices (line, noticed) List.mem_cons_self (by simpa using flagged))
      rcases stepped.silent unmarked (fun one member => quiet one (List.mem_append_left _ member)) with
        ⟨blank, same⟩ | kept
      · refine ⟨same.symm.trans idle, ?_, by simpa [unnoticed] using done⟩
        intro one member
        rcases List.mem_cons.mp member with rfl | later
        · exact blank
        · exact others one later
      · exact absurd idle kept

/-- Blank lines after a mark that was sent are answered with blank lines. -/
private theorem blank_stream {lines : Flagged} (holds : Holds s.sseState none)
    (done : s.doneSent = true) (blank : ∀ line ∈ lines, Blank line.1) :
    ∃ out, flaggedStream ambients s lines = some out ∧ ∀ line ∈ out, Blank line := by
  induction lines generalizing s with
  | nil =>
    rcases @flaggedStream_nil ambients s none holds with
      ⟨⟨text, member, -⟩, -⟩ | ⟨-, released, sent, -, none_, -⟩
    · cases member
    · exact ⟨_, sent, by simp [none_ rfl, done]⟩
  | cons first rest ih =>
    obtain ⟨line, noticed⟩ := first
    have white := blank _ List.mem_cons_self
    have kind := blank_other white
    rcases @processLine_stepped none (ambients s.handled) s.sseState line holds with
      ⟨-, ⟨text, member, -⟩, -⟩ | ⟨-, after, sent, step, stepped⟩
    · cases member
    · have idle : Holds after none := by simpa [kind, heldNext] using stepped.holds
      obtain ⟨more, tail, quiet⟩ := @ih ⟨after, s.doneSent || noticed, s.handled + 1⟩ idle
        (by simp [done]) fun one member => blank one (List.mem_cons_of_mem _ member)
      refine ⟨sent ++ more, by rw [flaggedStream_cons step, tail]; rfl, ?_⟩
      intro one member
      rcases List.mem_append.mp member with early | late
      · exact stepped.blank white one early
      · exact quiet one late

private theorem previewsFit_blank {lines : List String} (blank : ∀ line ∈ lines, Blank line) :
    PreviewsFit none lines := by
  induction lines with
  | nil => simp [PreviewsFit]
  | cons line rest ih =>
    refine ⟨by simp, ?_⟩
    rw [blank_other (blank line List.mem_cons_self)]
    exact ih fun other member => blank other (List.mem_cons_of_mem _ member)

/-- Lines that are no marks do not change where the mark is. -/
private theorem doneOnce_append {front more : List String} (unmarked : ∀ line ∈ front, ¬EndMark line) :
    DoneOnce (front ++ more) ↔ DoneOnce more := by
  constructor
  · rintro ⟨before, back, same, none_, blank⟩
    rcases List.append_eq_append_iff.mp same with ⟨part, first, rest⟩ | ⟨part, first, rest⟩
    · exact ⟨part, back, rest, fun line member => none_ line (by simp [first, member]), blank⟩
    · cases part with
      | nil => exact ⟨[], back, by simpa using rest.symm, by simp, blank⟩
      | cons mark part =>
        obtain ⟨rfl, -⟩ := List.cons.inj rest
        exact absurd done_mark (unmarked "data: [DONE]" (by simp [first]))
  · rintro ⟨before, back, rfl, none_, blank⟩
    refine ⟨front ++ before, back, by simp, ?_, blank⟩
    intro line member
    rcases List.mem_append.mp member with early | late
    · exact unmarked line early
    · exact none_ line late

/-- A mark ends the stream once where only blank lines follow it. -/
private theorem doneOnce_marked {front back : List String} (unmarked : ∀ line ∈ front, ¬EndMark line) :
    DoneOnce (front ++ "data: [DONE]" :: back) ↔ ∀ line ∈ back, Blank line := by
  rw [doneOnce_append unmarked]
  constructor
  · rintro ⟨before, rest, same, none_, blank⟩
    cases before with
    | nil => simpa [(List.cons.inj same).2] using blank
    | cons first before =>
      obtain ⟨rfl, -⟩ := List.cons.inj same
      exact absurd done_mark (none_ _ List.mem_cons_self)
  · exact fun blank => ⟨[], back, rfl, by simp, blank⟩

/-- A stream ends once exactly when no preview cuts and the upstream ends once. -/
theorem flaggedStream_once {lines : Flagged} (holds : Holds s.sseState held)
    (unsent : s.doneSent = false) (notices : NoticesMarks lines) :
    (∃ out, flaggedStream ambients s lines = some out ∧ DoneOnce out) ↔
      PreviewsFit held (lines.map Prod.fst) ∧ EndsOnce lines := by
  induction lines generalizing s held with
  | nil =>
    have nothing : EndsOnce [] := fun front line noticed back same => by simp at same
    rcases @flaggedStream_nil ambients s held holds with
      ⟨⟨text, member, cut⟩, panic⟩ | ⟨fits, released, sent, -, -, solid⟩
    · rw [panic]
      refine iff_of_false (by simp) fun right => right.1 text member cut
    · refine iff_of_true ⟨_, sent, ?_⟩ ⟨fits, nothing⟩
      rw [unsent, if_neg (by simp), doneOnce_marked fun line member => (solid line member).2]
      simp
  | cons first rest ih =>
    obtain ⟨line, noticed⟩ := first
    have others : NoticesMarks rest := fun one member => notices one (List.mem_cons_of_mem _ member)
    rcases @processLine_stepped held (ambients s.handled) s.sseState line holds with
      ⟨kind, ⟨text, member, cut⟩, panic⟩ | ⟨fits, after, sent, step, stepped⟩
    · rw [flaggedStream_panic panic]
      exact iff_of_false (by simp) fun right => right.1.1 kind text member cut
    · have run : (∃ out, flaggedStream ambients s ((line, noticed) :: rest) = some out ∧ DoneOnce out) ↔
          ∃ more, flaggedStream ambients ⟨after, s.doneSent || noticed, s.handled + 1⟩ rest = some more ∧
            DoneOnce (sent ++ more) := by
        rw [flaggedStream_cons step]
        constructor
        · rintro ⟨out, ran, once⟩
          obtain ⟨more, tail, rfl⟩ := Option.map_eq_some_iff.mp ran
          exact ⟨more, tail, once⟩
        · rintro ⟨more, tail, once⟩
          exact ⟨_, by rw [tail]; rfl, once⟩
      rw [run, unsent, Bool.false_or]
      by_cases mark : EndMark line
      · have idle : Holds after none := by simpa [lineKind_mark.mpr mark, heldNext] using stepped.holds
        obtain ⟨front, rfl, none_⟩ := stepped.marked mark
        have heads : EndsOnce ((line, noticed) :: rest) ↔
            noticed = true ∧ ∀ later ∈ rest, Blank later.1 := by
          constructor
          · exact fun ends => ends [] line noticed rest rfl mark
          · rintro ⟨flagged, blank⟩ before other flag back same marked
            cases before with
            | nil =>
              obtain ⟨pair, rfl⟩ := List.cons.inj same
              obtain ⟨rfl, rfl⟩ := Prod.mk.inj pair
              exact ⟨flagged, blank⟩
            | cons pair before =>
              obtain ⟨-, rfl⟩ := List.cons.inj same
              exact absurd marked (blank_not_mark (blank (other, flag) (by simp)))
        rw [heads]
        constructor
        · rintro ⟨more, tail, once⟩
          rw [List.append_assoc, List.singleton_append, doneOnce_marked none_] at once
          obtain ⟨-, blank, done⟩ := quiet_stream idle others tail once
          refine ⟨⟨fits, ?_⟩, done, blank⟩
          rw [lineKind_mark.mpr mark]
          refine previewsFit_blank fun other member => ?_
          obtain ⟨pair, mine, rfl⟩ := List.mem_map.mp member
          exact blank pair mine
        · rintro ⟨-, flagged, blank⟩
          obtain ⟨more, tail, quiet⟩ := @blank_stream ambients
            ⟨after, noticed, s.handled + 1⟩ rest idle flagged blank
          refine ⟨more, tail, ?_⟩
          rw [List.append_assoc, List.singleton_append, doneOnce_marked none_]
          exact quiet
      · have unnoticed : noticed = false := by
          by_contra flagged
          exact mark (notices (line, noticed) List.mem_cons_self (by simpa using flagged))
        have tails : EndsOnce ((line, noticed) :: rest) ↔ EndsOnce rest := by
          constructor
          · intro ends before other flag back same
            exact ends ((line, noticed) :: before) other flag back (by rw [same]; rfl)
          · intro ends before other flag back same marked
            cases before with
            | nil =>
              obtain ⟨pair, -⟩ := List.cons.inj same
              obtain ⟨rfl, -⟩ := Prod.mk.inj pair
              exact absurd marked mark
            | cons pair before => exact ends before other flag back (List.cons.inj same).2 marked
        have next := @ih ⟨after, noticed, s.handled + 1⟩ _ stepped.holds unnoticed others
        simp only [doneOnce_append (stepped.unmarked mark)]
        rw [next, tails, List.map_cons, PreviewsFit, and_assoc]
        exact ⟨fun right => ⟨fits, right⟩, fun right => right.2⟩

/-! ## The two streams -/

/-- A line as the transformer gets it. -/
def trimmedLine (line : List Char) : String := String.ofList (trimEnd line)

/-- A mark that a stream notices, by the line itself or by what is sent for it. -/
def noticesMark (compares watches : Bool) (line : String) : Bool :=
  (compares && line = "data: [DONE]") || (watches && decide (EndMark line))

private theorem noticesMark_marks (compares watches : Bool) {line : String}
    (noticed : noticesMark compares watches line = true) : EndMark line := by
  simp only [noticesMark, Bool.or_eq_true, Bool.and_eq_true, decide_eq_true_eq] at noticed
  rcases noticed with ⟨-, rfl⟩ | ⟨-, mark⟩
  · exact done_mark
  · exact mark

/-- What is sent for a line has the mark in it exactly when the line is one. -/
private theorem sent_marks {line : String} {after : SseTransformState} {out : List String}
    (stepped : Stepped held line after out) :
    (out.any fun outLine => decide (trim outLine = "data: [DONE]")) = decide (EndMark line) := by
  by_cases mark : EndMark line
  · obtain ⟨front, rfl, -⟩ := stepped.marked mark
    have spelled : trim "data: [DONE]" = "data: [DONE]" := by decide
    simp [mark, spelled]
  · rw [decide_eq_false mark, List.any_eq_false]
    intro sent member
    simp only [decide_eq_true_eq]
    intro spelled
    refine stepped.unmarked mark sent member ?_
    rw [EndMark, normalizeSseDataLine, spelled]
    decide

private theorem agentLine_flagged {compares watches : Bool} (line : String)
    (holds : Holds s.sseState held) :
    agentLine ambients compares watches s line =
      flaggedLines ambients s [(line, noticesMark compares watches line)] := by
  simp only [agentLine, flaggedLines]
  rcases @processLine_stepped held (ambients s.handled) s.sseState line holds with
    ⟨-, -, panic⟩ | ⟨-, after, sent, step, stepped⟩
  · rw [panic]
    rfl
  · rw [step]
    simp only [Option.map_some, sent_marks stepped, noticesMark, List.append_nil, Bool.or_assoc]

private theorem flaggedLines_append (front back : Flagged) :
    flaggedLines ambients s (front ++ back) =
      (flaggedLines ambients s front).bind fun (s, out) =>
        (flaggedLines ambients s back).map fun (s, more) => (s, out ++ more) := by
  induction front generalizing s with
  | nil =>
    simp only [List.nil_append, flaggedLines, Option.bind_some, List.nil_append, Option.map_id']
  | cons first rest ih =>
    obtain ⟨line, noticed⟩ := first
    simp only [List.cons_append, flaggedLines]
    cases processLine (ambients s.handled) s.sseState line with
    | none => rfl
    | some step =>
      simp only [ih]
      cases flaggedLines ambients ⟨step.1, s.doneSent || noticed, s.handled + 1⟩ rest with
      | none => rfl
      | some later =>
        simp only [Option.map_some, Option.bind_some, Option.map_map]
        congr 1
        funext last
        simp [List.append_assoc]

/-- Lines keep the transformer on the machine. -/
private theorem flaggedLines_holds {lines : Flagged} {after : AgentStream} {out : List String}
    (holds : Holds s.sseState held) (ran : flaggedLines ambients s lines = some (after, out)) :
    ∃ held, Holds after.sseState held := by
  induction lines generalizing s held out with
  | nil =>
    obtain ⟨rfl, -⟩ := Prod.mk.inj (Option.some.inj ran)
    exact ⟨held, holds⟩
  | cons first rest ih =>
    obtain ⟨line, noticed⟩ := first
    simp only [flaggedLines] at ran
    rcases @processLine_stepped held (ambients s.handled) s.sseState line holds with
      ⟨-, -, panic⟩ | ⟨-, between, sent, step, stepped⟩
    · rw [panic] at ran
      cases ran
    · rw [step] at ran
      obtain ⟨⟨last, more⟩, tail, same⟩ := Option.map_eq_some_iff.mp ran
      obtain ⟨rfl, -⟩ := Prod.mk.inj same
      exact @ih ⟨between, s.doneSent || noticed, s.handled + 1⟩ _ _ stepped.holds tail

/-- Complete lines with the tests that are made of them. -/
def flagLines (compares watches : Bool) (complete : List (List Char)) : Flagged :=
  complete.map fun line => (trimmedLine line, noticesMark compares watches (trimmedLine line))

private theorem flagLines_append (compares watches : Bool) (front back : List (List Char)) :
    flagLines compares watches (front ++ back) =
      flagLines compares watches front ++ flagLines compares watches back := List.map_append

private theorem agentLines_flagged {compares watches : Bool} (complete : List (List Char))
    (holds : Holds s.sseState held) :
    agentLines ambients compares watches s complete =
      flaggedLines ambients s (flagLines compares watches complete) := by
  induction complete generalizing s held with
  | nil => rfl
  | cons line rest ih =>
    have one := @agentLine_flagged ambients s held compares watches (trimmedLine line) holds
    have split_ : flagLines compares watches (line :: rest) =
        [(trimmedLine line, noticesMark compares watches (trimmedLine line))] ++
          flagLines compares watches rest := rfl
    rw [split_, flaggedLines_append, ← one]
    simp only [agentLines]
    rw [show String.ofList (trimEnd line) = trimmedLine line from rfl]
    cases step : agentLine ambients compares watches s (trimmedLine line) with
    | none => rfl
    | some after =>
      rw [step] at one
      obtain ⟨held', holds'⟩ := flaggedLines_holds holds one.symm
      simp only [Option.bind_some, ih holds']

/-- The lines of a stream, with the tests that are made of them: of the complete ones
and of an open last one. -/
def streamFlags (compares watches : Bool) (text : List Char) : Flagged :=
  flagLines true watches (cutLines text).1 ++
    if trim (String.ofList (cutLines text).2) = "" then []
    else [(trimmedLine (cutLines text).2, noticesMark compares watches (trimmedLine (cutLines text).2))]

/-- Where the upstream cuts its text does not matter. -/
private theorem agentChunks_ok {watches : Bool} {onError : String → List (Except String String)}
    (buf : List Char) (chunks : List (List Char)) (quiet : '\n' ∉ buf)
    (holds : Holds s.sseState held) :
    agentChunks ambients watches onError s buf (chunks.map .ok) =
      (flaggedLines ambients s (flagLines true watches (cutLines (buf ++ chunks.flatten)).1)).map
        fun (s, out) => (s, (cutLines (buf ++ chunks.flatten)).2, out.map sentLine) := by
  induction chunks generalizing s held buf with
  | nil =>
    rw [List.flatten_nil, List.append_nil, cutLines_rest quiet]
    rfl
  | cons chunk rest ih =>
    rw [List.map_cons, List.flatten_cons, ← List.append_assoc, cutLines_append]
    simp only [agentChunks, agentLines_flagged _ holds]
    rw [flagLines_append, flaggedLines_append]
    cases first : flaggedLines ambients s (flagLines true watches (cutLines (buf ++ chunk)).1) with
    | none => rfl
    | some step =>
      obtain ⟨held', holds'⟩ := flaggedLines_holds holds first
      simp only [Option.bind_some]
      rw [ih _ (newline_notMem_cutLines (buf ++ chunk)) holds']
      simp only [Option.map_map]
      congr 1
      funext last
      simp

private theorem agentStream_flagged {compares watches : Bool}
    {onError : String → List (Except String String)} (format : AgentResponseFormat)
    (chunks : List (List Char)) :
    agentStream ambients compares watches onError format (chunks.map .ok) =
      (flaggedStream ambients (.initial format) (streamFlags compares watches chunks.flatten)).map
        (·.map sentLine) := by
  have start : Holds (AgentStream.initial format).sseState none := ⟨rfl, rfl, by simp⟩
  rw [agentStream, agentChunks_ok [] chunks (by simp) start, List.nil_append, flaggedStream,
    streamFlags, flaggedLines_append]
  cases complete : flaggedLines ambients (.initial format)
      (flagLines true watches (cutLines chunks.flatten).1) with
  | none => rfl
  | some step =>
    obtain ⟨held', holds'⟩ := flaggedLines_holds start complete
    simp only [Option.map_some, Option.bind_some, agentRest]
    by_cases blank : trim (String.ofList (cutLines chunks.flatten).2) = ""
    · simp only [if_pos blank, flaggedLines, Option.map_some, Option.bind_some, Option.map_map]
      congr 1
      funext last
      simp
    · have one := @agentLine_flagged ambients step.1 held' compares watches
        (trimmedLine (cutLines chunks.flatten).2) holds'
      rw [if_neg blank, if_neg blank, show String.ofList (trimEnd (cutLines chunks.flatten).2) =
        trimmedLine (cutLines chunks.flatten).2 from rfl, one]
      cases flaggedLines ambients step.1 [(trimmedLine (cutLines chunks.flatten).2,
          noticesMark compares watches (trimmedLine (cutLines chunks.flatten).2))] with
      | none => rfl
      | some last =>
        simp only [Option.map_some, Option.bind_some, Option.map_map]
        refine congrFun (congrArg Option.map (funext fun final => ?_)) _
        simp only [Function.comp_apply, List.map_append, List.append_assoc]

/-- A stream ends with its mark: every line went through, and the mark was sent once,
with nothing but blank lines after it. -/
def StreamDone (sent : Option (List (Except String String))) : Prop :=
  ∃ out, sent = some (out.map sentLine) ∧ DoneOnce out

/-- The text that the local stream reads, and the one that comes from elsewhere. -/
def localText (chunks : List Bytes) : List Char := (chunks.map fromUtf8Lossy).flatten

def remoteText (chunks : List String) : List Char := (chunks.map String.toList).flatten

/-- A line is sent with a newline, which only it ends in. -/
private theorem sentLine_inj {a b : List String} (same : a.map sentLine = b.map sentLine) : a = b := by
  refine List.map_injective_iff.mpr ?_ same
  intro x y equal
  have texts := congrArg String.toList (Except.ok.inj equal)
  rw [String.toList_append, String.toList_append] at texts
  exact String.toList_inj.mp (List.append_cancel_right texts)

private theorem agentStream_done {compares watches : Bool}
    {onError : String → List (Except String String)} (format : AgentResponseFormat)
    (chunks : List (List Char)) :
    StreamDone (agentStream ambients compares watches onError format (chunks.map .ok)) ↔
      PreviewsFit none ((streamFlags compares watches chunks.flatten).map Prod.fst) ∧
        EndsOnce (streamFlags compares watches chunks.flatten) := by
  have start : Holds (AgentStream.initial format).sseState none := ⟨rfl, rfl, by simp⟩
  have notices : NoticesMarks (streamFlags compares watches chunks.flatten) := by
    intro line member noticed
    rcases List.mem_append.mp member with complete | open_
    · obtain ⟨text, -, rfl⟩ := List.mem_map.mp complete
      exact noticesMark_marks true watches noticed
    · split at open_
      · cases open_
      · obtain rfl := List.mem_singleton.mp open_
        exact noticesMark_marks compares watches noticed
  rw [← @flaggedStream_once ambients (.initial format) none _ start rfl notices, StreamDone,
    agentStream_flagged]
  constructor
  · rintro ⟨out, ran, once⟩
    obtain ⟨lines_, sent, same⟩ := Option.map_eq_some_iff.mp ran
    exact ⟨lines_, sent, sentLine_inj same ▸ once⟩
  · rintro ⟨out, ran, once⟩
    exact ⟨out, by rw [ran]; rfl, once⟩

private theorem local_done (format : AgentResponseFormat) (chunks : List Bytes) :
    StreamDone (forwardAgentLocal ambients format (chunks.map .ok)) ↔
      PreviewsFit none ((streamFlags false false (localText chunks)).map Prod.fst) ∧
        EndsOnce (streamFlags false false (localText chunks)) := by
  have items : (chunks.map .ok).map (Except.map fromUtf8Lossy) =
      (chunks.map fromUtf8Lossy).map (Except.ok : List Char → Except String (List Char)) := by
    rw [List.map_map, List.map_map]
    rfl
  rw [forwardAgentLocal, items]
  exact agentStream_done format (chunks.map fromUtf8Lossy)

/-- Both streams end with one mark and nothing after it exactly when no preview of a
withheld text cuts a character and the upstream says nothing after its own mark; the
local stream notices that mark only on a complete line that is spelled `data: [DONE]`,
the remote one in every spelling. -/
theorem done_once_iff (ambients : Nat → Ambient) (format : AgentResponseFormat)
    (chunks : List Bytes) (texts : List String) :
    (StreamDone (forwardAgentLocal ambients format (chunks.map .ok)) ↔
      PreviewsFit none ((streamFlags false false (localText chunks)).map Prod.fst) ∧
        EndsOnce (streamFlags false false (localText chunks))) ∧
    (StreamDone (forwardAgentRemote ambients format (texts.map .ok)) ↔
      PreviewsFit none ((streamFlags true true (remoteText texts)).map Prod.fst) ∧
        EndsOnce (streamFlags true true (remoteText texts))) := by
  refine ⟨local_done format chunks, ?_⟩
  have items : (texts.map .ok).map (Except.map String.toList) =
      (texts.map String.toList).map (Except.ok : List Char → Except String (List Char)) := by
    rw [List.map_map, List.map_map]
    rfl
  rw [forwardAgentRemote, items]
  exact agentStream_done format (texts.map String.toList)

/-- A mark that is spelled without its space is sent twice by the local stream. -/
theorem unspaced_mark_doubled :
    ¬StreamDone (forwardAgentLocal (fun _ => plainAmbient) .chatCompletions
      [.ok (utf8 "data:[DONE]\n")]) := by
  have flags : streamFlags false false (localText [utf8 "data:[DONE]\n"]) =
      [("data:[DONE]", false)] := by decide
  have done := @local_done (fun _ => plainAmbient) .chatCompletions [utf8 "data:[DONE]\n"]
  rw [flags] at done
  refine fun once => absurd (done.mp once).2 ?_
  intro ends
  have noticed := (ends [] "data:[DONE]" false [] rfl (by decide)).1
  cases noticed

end

end MtrxPeer
