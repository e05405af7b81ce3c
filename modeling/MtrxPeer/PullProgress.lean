import MtrxPeer.JsonReading
import MtrxPeer.LossyText
import MtrxPeer.StreamAssembly

/-! The progress that a backend streams while it pulls a model, one JSON object a line.
Each network chunk is split into lines of its own, and the end of the stream is a success. -/
namespace MtrxPeer

/-! ## The pull -/

/-- `((completed as f64 / total as f64) * 100.0).floor() as u8`. -/
def progressPercent (completed total : Nat) : Nat :=
  ((completed.toUInt64.toFloat / total.toUInt64.toFloat) * 100.0).floor.toUInt8.toNat

/-- `val.get(key).and_then(as_u64).unwrap_or(0)`. -/
def progressCount (val : Json) (key : String) : Nat := ((val.get key).bind Json.asU64).getD 0

/-- The percentage of a record that is above the last one. -/
def newPercent (lastPct : Nat) (val : Json) : Option Nat :=
  let completed := progressCount val "completed"
  let total := progressCount val "total"
  if 0 < total then
    let pct := progressPercent completed total
    if lastPct < pct then some pct else none
  else none

/-- The record on a line; a blank line or one that is not JSON has none. -/
def progressRecord (line : String) : Option Json :=
  let line := trim line
  if line = "" then none else Json.fromText line

/-- What a turn of the loops comes to: the last percentage, or the result of the pull. -/
abbrev PullTurn := List Nat × (Nat ⊕ Except String Unit)

/-- One line: what is reported, then the last percentage or the end of the pull. -/
def pullLine (lastPct : Nat) (line : String) : PullTurn :=
  match progressRecord line with
  | none => ([], .inl lastPct)
  | some val =>
    match val.get "error" with
    | some error => ([], .inr (.error error.toText))
    | none =>
      let newer := newPercent lastPct val
      if (val.get "status").bind Json.asStr = some "success" then (newer.toList ++ [100], .inr (.ok ()))
      else (newer.toList, .inl (newer.getD lastPct))

/-- The lines of one chunk. -/
def pullLines : (lastPct : Nat) → List String → PullTurn
  | lastPct, [] => ([], .inl lastPct)
  | lastPct, line :: rest =>
    match pullLine lastPct line with
    | (reports, .inr result) => (reports, .inr result)
    | (reports, .inl lastPct) =>
      let (later, left) := pullLines lastPct rest
      (reports ++ later, left)

/-- The chunks of the stream, each with the lines of its own text. -/
def pullChunks : (lastPct : Nat) → List (Except String Bytes) → List Nat × Except String Unit
  | _, [] => ([], .ok ())
  | _, .error e :: _ => ([], .error e)
  | lastPct, .ok chunk :: rest =>
    match pullLines lastPct (lines (String.ofList (fromUtf8Lossy chunk))) with
    | (reports, .inr result) => (reports, result)
    | (reports, .inl lastPct) =>
      let (later, result) := pullChunks lastPct rest
      (reports ++ later, result)

/-- The answer to `POST /api/pull`: its status, and its body as one text or as it arrives. -/
structure PullResponse where
  status : Nat
  text : Except String String
  chunks : List (Except String Bytes)

/-- What `pull_model_with_progress` reports, and its result. -/
def pullModelWithProgress (sent : Except String PullResponse) : List Nat × Except String Unit :=
  match sent with
  | .error e => ([], .error e)
  | .ok res =>
    if 200 ≤ res.status ∧ res.status < 300 then pullChunks 0 res.chunks
    else ([], .error ("pull failed: " ++ (match res.text with | .ok text => text | .error _ => "")))

/-! ## What is asked of a pull -/

/-- A pull whose stream arrives in these chunks. -/
def pulled (chunks : List Bytes) : List Nat × Except String Unit :=
  pullModelWithProgress (.ok ⟨200, .ok "", chunks.map .ok⟩)

/-- The lines of a stream. -/
def streamLines (stream : Bytes) : List String := lines (String.ofList (fromUtf8Lossy stream))

/-- A line that tells an error. -/
def ErrorLine (line : String) : Prop := ∃ val, progressRecord line = some val ∧ (val.get "error").isSome

/-- A line that tells success. -/
def SuccessLine (line : String) : Prop :=
  ∃ val, progressRecord line = some val ∧ (val.get "status").bind Json.asStr = some "success"

instance (line : String) : Decidable (ErrorLine line) :=
  decidable_of_iff (((progressRecord line).bind (Json.get · "error")).isSome = true)
    (by cases record : progressRecord line <;> simp [ErrorLine, record])

instance (line : String) : Decidable (SuccessLine line) :=
  decidable_of_iff (((progressRecord line).bind (Json.get · "status")).bind Json.asStr = some "success")
    (by cases record : progressRecord line <;> simp [SuccessLine, record])

/-- The pull does as if the stream had arrived at once, succeeds only if success was
told, and fails if any line tells an error. -/
structure PullKept (chunks : List Bytes) : Prop where
  whole : pulled chunks = pulled [chunks.flatten]
  succeeds : (pulled chunks).2 = .ok () → ∃ line ∈ streamLines chunks.flatten, SuccessLine line
  fails : (∃ line ∈ streamLines chunks.flatten, ErrorLine line) → ∃ e, (pulled chunks).2 = .error e

/-- Every chunk but the last is empty or ends a line. -/
def WholeLines : List Bytes → Prop
  | [] => True
  | [_] => True
  | chunk :: rest => (chunk = [] ∨ ∃ front, chunk = front ++ [10]) ∧ WholeLines rest

/-- The first line that tells an error or success tells an error, or no later line does. -/
def Concludes : List String → Prop
  | [] => False
  | line :: rest =>
    ErrorLine line ∨ (SuccessLine line ∧ ∀ other ∈ rest, ¬ErrorLine other) ∨
      (¬SuccessLine line ∧ Concludes rest)

/-! ## Line by line -/

/-- What a pull comes to when its stream ends. -/
def atEnd : PullTurn → List Nat × Except String Unit
  | (reports, .inl _) => (reports, .ok ())
  | (reports, .inr result) => (reports, result)

private theorem pullLines_append (lastPct : Nat) (front back : List String) :
    pullLines lastPct (front ++ back) =
      match pullLines lastPct front with
      | (reports, .inr result) => (reports, .inr result)
      | (reports, .inl lastPct) => (reports ++ (pullLines lastPct back).1, (pullLines lastPct back).2) := by
  induction front generalizing lastPct with
  | nil => rfl
  | cons line rest ih =>
    rw [List.cons_append, pullLines, pullLines]
    rcases pullLine lastPct line with ⟨reports, lastPct | result⟩
    · dsimp only
      rw [ih lastPct]
      rcases pullLines lastPct rest with ⟨later, last | result⟩
      · simp only [List.append_assoc]
      · rfl
    · rfl

private theorem pullChunks_lines (lastPct : Nat) (chunks : List Bytes) :
    pullChunks lastPct (chunks.map .ok) = atEnd (pullLines lastPct (chunks.flatMap streamLines)) := by
  induction chunks generalizing lastPct with
  | nil => rfl
  | cons chunk rest ih =>
    rw [List.flatMap_cons, pullLines_append, List.map_cons, pullChunks, streamLines]
    rcases pullLines lastPct (lines (String.ofList (fromUtf8Lossy chunk))) with
      ⟨reports, lastPct | result⟩
    · dsimp only
      rw [ih lastPct]
      rcases pullLines lastPct (rest.flatMap streamLines) with ⟨later, last | result⟩ <;> rfl
    · rfl

/-- A pull is decided by the lines of its chunks. -/
theorem pulled_lines (chunks : List Bytes) :
    pulled chunks = atEnd (pullLines 0 (chunks.flatMap streamLines)) :=
  pullChunks_lines 0 chunks

private theorem pulled_whole (stream : Bytes) :
    pulled [stream] = atEnd (pullLines 0 (streamLines stream)) := by
  rw [pulled_lines, List.flatMap_cons, List.flatMap_nil, List.append_nil]

private theorem streamLines_line (front rest : Bytes) :
    streamLines (front ++ 10 :: rest) = streamLines (front ++ [10]) ++ streamLines rest := by
  have cut := fun more => cutLines_append (fromUtf8Lossy front) ('\n' :: more)
  have tail := newline_notMem_cutLines (fromUtf8Lossy front)
  simp only [streamLines, lines, String.toList_ofList, fromUtf8Lossy_line, cut,
    cutLines_line tail, List.map_append, List.map_cons, List.append_assoc, List.cons_append]
  rfl

/-- Chunks of whole lines have the lines of the stream. -/
private theorem streamLines_chunks {chunks : List Bytes} (wholeLines : WholeLines chunks) :
    chunks.flatMap streamLines = streamLines chunks.flatten := by
  match chunks, wholeLines with
  | [], _ => rfl
  | [chunk], _ => simp
  | chunk :: next :: rest, ⟨ends, later⟩ =>
    rw [List.flatMap_cons, streamLines_chunks later, List.flatten_cons]
    rcases ends with rfl | ⟨front, rfl⟩
    · have empty : streamLines [] = [] := rfl
      rw [empty, List.nil_append, List.flatten_cons, List.flatten_cons, List.nil_append]
    · rw [← streamLines_line, List.flatten_cons, List.flatten_cons, List.append_assoc,
        List.singleton_append]

/-! ## How a pull ends -/

private theorem pullLine_error {line : String} (lastPct : Nat) (error : ErrorLine line) :
    ∃ e, pullLine lastPct line = ([], .inr (.error e)) := by
  obtain ⟨val, record, told⟩ := error
  obtain ⟨error, told⟩ := Option.isSome_iff_exists.mp told
  refine ⟨error.toText, ?_⟩
  simp only [pullLine, record, told]

private theorem error_none {line : String} {val : Json} (noError : ¬ErrorLine line)
    (record : progressRecord line = some val) : val.get "error" = none := by
  cases said : val.get "error" with
  | none => rfl
  | some error => exact absurd ⟨val, record, by rw [said]; rfl⟩ noError

private theorem pullLine_success {line : String} (lastPct : Nat) (noError : ¬ErrorLine line)
    (success : SuccessLine line) :
    ∃ reports, pullLine lastPct line = (reports ++ [100], .inr (.ok ())) := by
  obtain ⟨val, record, told⟩ := success
  refine ⟨(newPercent lastPct val).toList, ?_⟩
  simp only [pullLine, record, error_none noError record]
  rw [if_pos told]

private theorem pullLine_quiet {line : String} (lastPct : Nat) (noError : ¬ErrorLine line)
    (noSuccess : ¬SuccessLine line) :
    ∃ reports last, pullLine lastPct line = (reports, .inl last) := by
  unfold pullLine
  cases record : progressRecord line with
  | none => exact ⟨_, _, rfl⟩
  | some val =>
    have other : ¬(val.get "status").bind Json.asStr = some "success" := fun same =>
      noSuccess ⟨val, record, same⟩
    simp only [error_none noError record]
    rw [if_neg other]
    exact ⟨_, _, rfl⟩

/-- The result of the lines of a stream that then ends. -/
private def ends (lastPct : Nat) (texts : List String) : Except String Unit :=
  (atEnd (pullLines lastPct texts)).2

private theorem atEnd_quiet {lastPct last : Nat} {line : String} {reports : List Nat}
    (ran : pullLine lastPct line = (reports, .inl last)) (rest : List String) :
    atEnd (pullLines lastPct (line :: rest)) =
      (reports ++ (atEnd (pullLines last rest)).1, (atEnd (pullLines last rest)).2) := by
  simp only [pullLines, ran]
  rcases pullLines last rest with ⟨later, final | result⟩ <;> rfl

private theorem ends_kept_iff (lastPct : Nat) (texts : List String) :
    ((ends lastPct texts = .ok () → ∃ line ∈ texts, SuccessLine line) ∧
        ((∃ line ∈ texts, ErrorLine line) → ∃ e, ends lastPct texts = .error e)) ↔
      Concludes texts := by
  induction texts generalizing lastPct with
  | nil =>
    have ended : ends lastPct [] = .ok () := rfl
    simp [ended, Concludes]
  | cons line rest ih =>
    simp only [List.mem_cons, exists_eq_or_imp, Concludes]
    by_cases error : ErrorLine line
    · obtain ⟨e, told⟩ := pullLine_error lastPct error
      have ended : ends lastPct (line :: rest) = .error e := by
        simp only [ends, pullLines, told, atEnd]
      simp [ended, error]
    · by_cases success : SuccessLine line
      · obtain ⟨reports, told⟩ := pullLine_success lastPct error success
        have ended : ends lastPct (line :: rest) = .ok () := by
          simp only [ends, pullLines, told, atEnd]
        simp [ended, error, success]
      · obtain ⟨reports, last, ran⟩ := pullLine_quiet lastPct error success
        have ended : ends lastPct (line :: rest) = ends last rest := by
          rw [ends, atEnd_quiet ran, ends]
        rw [ended]
        simp only [error, success, false_or, false_and, not_false_eq_true, true_and]
        exact ih last

/-- A stream that tells success is reported on, or the pull fails. -/
private theorem success_reported (lastPct : Nat) {texts : List String}
    (told : ∃ line ∈ texts, SuccessLine line) :
    atEnd (pullLines lastPct texts) ≠ ([], .ok ()) := by
  induction texts generalizing lastPct with
  | nil => simp at told
  | cons line rest ih =>
    intro silent
    by_cases error : ErrorLine line
    · obtain ⟨e, told⟩ := pullLine_error lastPct error
      simp [pullLines, told, atEnd] at silent
    · by_cases success : SuccessLine line
      · obtain ⟨reports, told⟩ := pullLine_success lastPct error success
        simp [pullLines, told, atEnd] at silent
      · obtain ⟨reports, last, ran⟩ := pullLine_quiet lastPct error success
        rw [atEnd_quiet ran] at silent
        obtain ⟨none_, ended⟩ := Prod.mk.inj silent
        have later : ∃ line ∈ rest, SuccessLine line := by simpa [success] using told
        exact ih last later (Prod.ext (List.append_eq_nil_iff.mp none_).2 ended)

/-! ## Chunks of one byte -/

private theorem skipSpace_single (c : Char) :
    Json.skipSpace [c] = [c] ∨ Json.skipSpace [c] = [] := by
  unfold Json.skipSpace
  split <;> simp_all [Json.skipSpace]

/-- One character is no object. -/
private theorem fromChars_single {c : Char} {val : Json} (read : Json.fromChars [c] = some val)
    (key : String) : val.get key = none := by
  obtain ⟨rest, ran, -⟩ := Json.fromChars_some read
  have step := Json.read_step ran
  have short : (Json.skipSpace [c]).length ≤ 1 := by
    rcases skipSpace_single c with same | same <;> rw [same] <;> simp
  generalize Json.skipSpace [c] = shown at step short
  cases step with
  | noFields room close =>
    obtain rfl := List.length_eq_zero_iff.mp (Nat.le_zero.mp (Nat.le_of_succ_le_succ short))
    cases close
  | fields room keyed first more =>
    obtain rfl := List.length_eq_zero_iff.mp (Nat.le_zero.mp (Nat.le_of_succ_le_succ short))
    cases keyed
  | _ => rfl

private theorem pullLine_bare (lastPct : Nat) {line : String}
    (bare : ∀ val, progressRecord line = some val → ∀ key, val.get key = none) :
    pullLine lastPct line = ([], .inl lastPct) := by
  unfold pullLine
  cases record : progressRecord line with
  | none => rfl
  | some val =>
    have none_ := bare val record
    simp [none_, newPercent, progressCount]

private theorem streamLines_single (byte : UInt8) :
    streamLines [byte] = [""] ∨ ∃ c, streamLines [byte] = [String.ofList [c]] := by
  have one : ∃ c, fromUtf8Lossy [byte] = [c] := by
    simp only [fromUtf8Lossy, List.length_singleton, lossyChars]
    split
    · exact ⟨_, rfl⟩
    · exact ⟨_, rfl⟩
  obtain ⟨c, same⟩ := one
  rw [streamLines, same, lines, String.toList_ofList]
  by_cases newline : c = '\n'
  · subst newline
    exact .inl rfl
  · exact .inr ⟨c, by simp [cutLines, newline]⟩

private theorem progressRecord_single (c : Char) {val : Json}
    (record : progressRecord (String.ofList [c]) = some val) (key : String) : val.get key = none := by
  by_cases space : isWhitespace c = true
  · simp [progressRecord, trim, space] at record
  · have trimmed : trim (String.ofList [c]) = String.ofList [c] := by simp [trim, space]
    rw [progressRecord, trimmed] at record
    split at record
    · cases record
    · rw [Json.fromText, String.toList_ofList] at record
      exact fromChars_single record key

private theorem pullLines_single (lastPct : Nat) (byte : UInt8) :
    pullLines lastPct (streamLines [byte]) = ([], .inl lastPct) := by
  rcases streamLines_single byte with same | ⟨c, same⟩
  · rw [same]
    rfl
  · have bare := pullLine_bare lastPct fun _ record => progressRecord_single c record
    simp only [same, pullLines, bare, List.append_nil]

/-- A stream that arrives byte by byte is a success without a word. -/
private theorem pulled_singles (stream : Bytes) : pulled (stream.map ([·])) = ([], .ok ()) := by
  have silent : pullLines 0 ((stream.map ([·])).flatMap streamLines) = ([], .inl 0) := by
    induction stream with
    | nil => rfl
    | cons byte rest ih =>
      rw [List.map_cons, List.flatMap_cons, pullLines_append, pullLines_single]
      simp only [ih, List.append_nil]
  rw [pulled_lines, silent]
  rfl

/-! ## The pull kept -/

/-- No stream is pulled alike whatever chunks it arrives in; in chunks of whole lines it
is, and then it is the stream that has to conclude. -/
theorem pull_kept_iff (stream : Bytes) :
    (¬∀ chunks, chunks.flatten = stream → PullKept chunks) ∧
      ∀ chunks, chunks.flatten = stream → WholeLines chunks →
        (PullKept chunks ↔ Concludes (streamLines stream)) := by
  constructor
  · intro kept
    have singles : (stream.map ([·])).flatten = stream := by
      rw [← List.flatMap_def, List.flatMap_singleton']
    obtain ⟨whole, succeeds, -⟩ := kept _ singles
    rw [singles, pulled_singles] at whole succeeds
    rw [pulled_whole] at whole
    exact success_reported 0 (succeeds rfl) whole.symm
  · rintro chunks rfl wholeLines
    have ran : pulled chunks = atEnd (pullLines 0 (streamLines chunks.flatten)) := by
      rw [pulled_lines, streamLines_chunks wholeLines]
    rw [← ends_kept_iff 0, ends, ← ran]
    constructor
    · exact fun kept => ⟨kept.succeeds, kept.fails⟩
    · exact fun ⟨succeeds, fails⟩ => ⟨by rw [ran, pulled_whole], succeeds, fails⟩

/-! ## Two pulls -/

private theorem streamLines_text (text : String) : streamLines (utf8 text) = lines text := by
  have decoded := fromUtf8Lossy_utf8 text.toList
  rw [String.ofList_toList] at decoded
  rw [streamLines, decoded, String.ofList_toList]

private def pulling : String := "\x7b\"status\":\"pulling\"\x7d"

private def success : String := "\x7b\"status\":\"success\"\x7d"

theorem pull_kept_iff_sample : PullKept [utf8 (pulling ++ "\n"), utf8 success] := by
  have wholeLines : WholeLines [utf8 (pulling ++ "\n"), utf8 success] :=
    ⟨.inr ⟨utf8 pulling, utf8_append pulling "\n"⟩, trivial⟩
  have cut : lines (pulling ++ "\n" ++ success) = [pulling, success] := by decide
  have concludes : Concludes [pulling, success] :=
    .inr (.inr ⟨by decide, .inr (.inl ⟨by decide, by simp⟩)⟩)
  rw [← cut, ← streamLines_text, utf8_append] at concludes
  exact ((pull_kept_iff (utf8 (pulling ++ "\n") ++ utf8 success)).2 _ (by simp) wholeLines).mpr concludes

/-- An error that arrives in two chunks is a success. -/
theorem split_error_succeeds :
    ¬PullKept [utf8 "\x7b\"error\":\"disk", utf8 " full\"\x7d\n"] := by
  intro kept
  have told : ∃ line ∈ streamLines (utf8 "\x7b\"error\":\"disk full\"\x7d\n"), ErrorLine line := by
    rw [streamLines_text]
    exact ⟨"\x7b\"error\":\"disk full\"\x7d", by decide, by decide⟩
  have ran : pulled [utf8 "\x7b\"error\":\"disk", utf8 " full\"\x7d\n"] = ([], .ok ()) := by
    have front : lines "\x7b\"error\":\"disk" = ["\x7b\"error\":\"disk"] := by decide
    have back : lines " full\"\x7d\n" = [" full\"\x7d"] := by decide
    have cut : progressRecord "\x7b\"error\":\"disk" = none := by decide
    have rest : progressRecord " full\"\x7d" = none := by decide
    simp [pulled_lines, streamLines_text, front, back, pullLines, pullLine, cut, rest, atEnd]
  obtain ⟨e, failed⟩ := kept.fails told
  rw [ran] at failed
  cases failed

end MtrxPeer
