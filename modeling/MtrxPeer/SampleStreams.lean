import MtrxPeer.IntelGpuTop
import MtrxPeer.ObjectTexts
import MtrxPeer.ToolCallAgreement

/-! When a sample is found in a stream of samples. Only the first one is looked for, and its end
is taken to be the first brace at the end of a line, or where the braces are even, in strings or
not; a block that ends elsewhere is no JSON. -/
namespace MtrxPeer.IntelGpuTop

/-! ## Streams -/

/-- Space, and commas in an array. -/
def Between (array : Bool) (c : Char) : Prop := JsonSpace c ∨ array = true ∧ c = ','

/-- What separates two samples. -/
def Separator (array : Bool) (text : List Char) : Prop :=
  if array then ∃ before after, text = before ++ ',' :: after ∧ JsonBlank before ∧ JsonBlank after
  else JsonBlank text

/-- What stands behind the last whole sample: it may be the start of another one. -/
def Unfinished (array : Bool) (tail : List Char) : Prop :=
  ∃ gap part, ∃ next : ObjectText, tail = gap ++ part ∧ (∀ c ∈ gap, Between array c) ∧
    part <+: next.text ∧ part ≠ next.text

/-- The samples as the tool prints them, one after the other or as an array that is never closed,
up to where the output was taken. -/
structure SampleStream where
  array : Bool
  lead : List Char
  inner : List Char
  first : ObjectText
  later : List (List Char × ObjectText)
  tail : List Char
  lead_blank : JsonBlank lead
  inner_blank : JsonBlank inner
  separated : ∀ p ∈ later, Separator array p.1
  unfinished : Unfinished array tail

def laterText (later : List (List Char × ObjectText)) : List Char := later.flatMap fun p => p.1 ++ p.2.text

namespace SampleStream

def text (stream : SampleStream) : String :=
  String.ofList (stream.lead ++ (if stream.array then ['['] else []) ++ stream.inner ++ stream.first.text ++
    laterText stream.later ++ stream.tail)

/-- The samples that are complete. -/
def samples (stream : SampleStream) : List ObjectText := stream.first :: stream.later.map Prod.snd

/-- What stands behind the first sample, but for white space at the end. -/
def behind (stream : SampleStream) : List Char := laterText stream.later ++ trimEnd stream.tail

end SampleStream

/-- No closing brace is at the end of a line. -/
def NoBrokenLine (text : List Char) : Prop := ¬ ['}', '\n'] <:+: text

/-- How many more braces are opened than closed, in strings or not. -/
def balance (text : List Char) : Int := text.count '{' - text.count '}'

/-- The braces are even at the end of the text and not before. -/
def CountsOut (text : List Char) : Prop :=
  balance text = 0 ∧ ∀ part, part <+: text → part ≠ [] → part ≠ text → 0 < balance part

/-- The end of the first sample is found: it is all there is; or its last brace is the first one at
the end of a line; or no brace is at the end of a line, and the braces are even there first. -/
inductive FindsFirst (stream : SampleStream) : Prop where
  | alone (open_ : stream.array = false) (last : stream.behind = [])
  | line (inside : NoBrokenLine stream.first.text) (after : stream.behind.head? = some '\n')
  | count (lines : NoBrokenLine (stream.first.text ++ stream.behind)) (even : CountsOut stream.first.text)

/-! ## Ends of blocks -/

theorem noBrokenLine_cons {c : Char} {rest : List Char} :
    NoBrokenLine (c :: rest) ↔ ¬ (c = '}' ∧ rest.head? = some '\n') ∧ NoBrokenLine rest := by
  rw [NoBrokenLine, NoBrokenLine, List.infix_cons_iff, not_or]
  refine and_congr_left' (not_congr ?_)
  rw [List.cons_prefix_cons]
  refine and_congr eq_comm ?_
  cases rest with
  | nil => simp
  | cons d rest => simp [List.cons_prefix_cons, eq_comm]

theorem throughBrokenLine_eq_none {text : List Char} : throughBrokenLine text = none ↔ NoBrokenLine text := by
  induction text with
  | nil => exact iff_of_true rfl (by simp [NoBrokenLine])
  | cons c rest ih =>
    rw [throughBrokenLine, noBrokenLine_cons, ← ih]
    split
    · rename_i broken
      exact iff_of_false (by simp) fun both => both.1 broken
    · rename_i whole
      rw [Option.map_eq_none_iff]
      exact (and_iff_right whole).symm

/-- The block ends at the first brace at the end of a line. -/
theorem throughBrokenLine_eq_some {text block : List Char} : throughBrokenLine text = some block ↔
    (∃ rest, text = block ++ '\n' :: rest) ∧ block.getLast? = some '}' ∧ NoBrokenLine block := by
  induction text generalizing block with
  | nil => exact iff_of_false (by simp [throughBrokenLine]) (by simp)
  | cons c text ih =>
    rw [throughBrokenLine]
    split
    · rename_i broken
      constructor
      · intro same
        obtain rfl := Option.some.inj same
        obtain ⟨rest, rfl⟩ := List.head?_eq_some_iff.mp broken.2
        exact ⟨⟨rest, rfl⟩, congrArg some broken.1, noBrokenLine_cons.mpr ⟨by simp, by simp [NoBrokenLine]⟩⟩
      · rintro ⟨⟨rest, whole⟩, last, lines⟩
        match block with
        | [] => cases last
        | [d] => rw [(List.cons.inj whole).1]
        | d :: e :: block =>
          obtain ⟨rfl, rfl⟩ := List.cons.inj whole
          exact absurd broken (noBrokenLine_cons.mp lines).1
    · rename_i other
      rw [Option.map_eq_some_iff]
      constructor
      · rintro ⟨block, found, rfl⟩
        obtain ⟨⟨rest, rfl⟩, last, lines⟩ := ih.mp found
        obtain ⟨d, more, rfl⟩ : ∃ d more, block = d :: more := List.exists_cons_of_ne_nil (by rintro rfl; cases last)
        exact ⟨⟨rest, rfl⟩, last, noBrokenLine_cons.mpr ⟨other, lines⟩⟩
      · rintro ⟨⟨rest, whole⟩, last, lines⟩
        match block with
        | [] => cases last
        | [d] =>
          obtain ⟨rfl, rfl⟩ := List.cons.inj whole
          exact absurd ⟨Option.some.inj last, rfl⟩ other
        | d :: e :: block =>
          obtain ⟨rfl, rfl⟩ := List.cons.inj whole
          exact ⟨e :: block, ih.mpr ⟨⟨rest, rfl⟩, last, (noBrokenLine_cons.mp lines).2⟩, rfl⟩

@[simp] theorem balance_nil : balance [] = 0 := rfl

/-- How much a character adds to the depth. -/
def braceStep (c : Char) : Int := if c = '{' then 1 else if c = '}' then -1 else 0

theorem balance_cons (c : Char) (rest : List Char) : balance (c :: rest) = braceStep c + balance rest := by
  simp only [balance, braceStep, List.count_cons, beq_iff_eq]
  split
  · rename_i brace
    subst brace
    simp
    omega
  · split <;> simp
    omega

/-- The depth stays positive up to the end of the text. -/
def Opened (depth : Int) (text : List Char) : Prop :=
  ∀ part, part <+: text → part ≠ text → 0 < depth + balance part

theorem opened_cons {depth : Int} (opened : 0 < depth) (c : Char) (text : List Char) :
    Opened depth (c :: text) ↔ Opened (depth + braceStep c) text := by
  constructor
  · intro all part start less
    have positive := all (c :: part) (List.cons_prefix_cons.mpr ⟨rfl, start⟩) fun same => less (List.cons.inj same).2
    rw [balance_cons] at positive
    omega
  · rintro all part start less
    cases part with
    | nil => simpa using opened
    | cons d part =>
      obtain ⟨rfl, inner⟩ := List.cons_prefix_cons.mp start
      have positive := all part inner fun same => less (by rw [same])
      rw [balance_cons]
      omega

/-- The block ends where the braces are even first. -/
theorem throughCount_eq_some {depth : Int} (opened : 0 < depth) {block rest : List Char} :
    throughCount depth (block ++ rest) = some block ↔ depth + balance block = 0 ∧ Opened depth block := by
  induction block generalizing depth with
  | nil =>
    refine iff_of_false ?_ (by simp; omega)
    cases rest with
    | nil => simp [throughCount]
    | cons c rest => rw [List.nil_append, throughCount]; split_ifs <;> simp
  | cons c block ih =>
    rw [opened_cons opened, balance_cons, ← add_assoc, List.cons_append, throughCount]
    have again {next : Int} (positive : 0 < next) :
        (throughCount next (block ++ rest)).map (c :: ·) = some (c :: block) ↔ next + balance block = 0 ∧ Opened next block := by
      rw [← ih positive, Option.map_eq_some_iff]
      simp
    split
    · rename_i brace
      rw [braceStep, if_pos brace]
      exact again (by omega)
    · rename_i plain
      split
      · rename_i brace
        have step : depth + braceStep c = depth - 1 := by rw [braceStep, if_neg plain, if_pos brace]; rfl
        rw [step]
        split
        · rename_i closed
          rw [closed]
          constructor
          · intro same
            obtain rfl := (List.cons.inj (Option.some.inj same)).2
            exact ⟨rfl, fun part start less => absurd (List.prefix_nil.mp start) less⟩
          · rintro ⟨-, all⟩
            by_cases none_ : block = []
            · rw [none_]
            · exact absurd (all [] (List.nil_prefix) (Ne.symm none_)) (by simp)
        · exact again (by omega)
      · rename_i other
        rw [braceStep, if_neg plain, if_neg other, add_zero]
        exact again opened

/-- The block that is cut out by counting, from the brace on that the sample starts with. -/
theorem throughCount_whole {block rest : List Char} (brace : block.head? = some '{') :
    throughCount 0 (block ++ rest) = some block ↔ CountsOut block := by
  obtain ⟨inner, rfl⟩ := List.head?_eq_some_iff.mp brace
  have parts : Opened 1 inner ↔
      ∀ part, part <+: '{' :: inner → part ≠ [] → part ≠ '{' :: inner → 0 < balance part := by
    constructor
    · intro all part start some_ less
      obtain ⟨c, part, rfl⟩ := List.exists_cons_of_ne_nil some_
      obtain ⟨rfl, inside⟩ := List.cons_prefix_cons.mp start
      rw [balance_cons]
      exact all part inside fun same => less (by rw [same])
    · intro all part start less
      have positive := all ('{' :: part) (List.cons_prefix_cons.mpr ⟨rfl, start⟩) (List.cons_ne_nil _ _)
        fun same => less (List.cons.inj same).2
      rwa [balance_cons] at positive
  rw [CountsOut, ← parts, balance_cons, show braceStep '{' = 1 from rfl, List.cons_append, throughCount, if_pos rfl, Option.map_eq_some_iff]
  simpa using @throughCount_eq_some 1 (by omega) inner rest

theorem throughCount_ends {depth : Int} {text block : List Char} (found : throughCount depth text = some block) :
    block <+: text ∧ block.getLast? = some '}' := by
  induction text generalizing depth block with
  | nil => cases found
  | cons c text ih =>
    have inside {next : Int} (later : (throughCount next text).map (c :: ·) = some block) :
        block <+: c :: text ∧ block.getLast? = some '}' := by
      obtain ⟨more, ran, rfl⟩ := Option.map_eq_some_iff.mp later
      obtain ⟨start, last⟩ := ih ran
      obtain ⟨front, rfl⟩ := List.getLast?_eq_some_iff.mp last
      exact ⟨List.cons_prefix_cons.mpr ⟨rfl, start⟩, by rw [← List.cons_append, List.getLast?_concat]⟩
    rw [throughCount] at found
    split at found
    · exact inside found
    · split at found
      · rename_i brace
        split at found
        · obtain rfl := Option.some.inj found
          exact ⟨List.cons_prefix_cons.mpr ⟨rfl, List.nil_prefix⟩, congrArg some brace⟩
        · exact inside found
      · exact inside found

/-! ## An array that is not closed -/

theorem between_split {gap : List Char} (between : ∀ c ∈ gap, Between true c) :
    JsonBlank gap ∨ ∃ before after, gap = before ++ ',' :: after ∧ JsonBlank before ∧ ∀ c ∈ after, Between true c := by
  induction gap with
  | nil => exact .inl fun _ member => absurd member List.not_mem_nil
  | cons c gap ih =>
    have later := fun d member => between d (List.mem_cons_of_mem c member)
    rcases between c List.mem_cons_self with space | ⟨-, rfl⟩
    · rcases ih later with blank | ⟨before, after, rfl, blank, rest⟩
      · exact .inl (List.forall_mem_cons.mpr ⟨space, blank⟩)
      · exact .inr ⟨c :: before, after, rfl, List.forall_mem_cons.mpr ⟨space, blank⟩, rest⟩
    · exact .inr ⟨[], gap, rfl, fun _ member => absurd member List.not_mem_nil, later⟩

private theorem comma_solid : ¬JsonSpace ',' := by decide

theorem skipSpace_comma {before : List Char} (blank : JsonBlank before) (after : List Char) :
    Json.skipSpace (before ++ ',' :: after) = ',' :: after := skipSpace_solid blank comma_solid after

/-- What is cut off of the end of an unfinished tail leaves an unfinished tail. -/
theorem Unfinished.of_prefix {array : Bool} {tail part : List Char} (unfinished : Unfinished array tail)
    (start : part <+: tail) : Unfinished array part := by
  obtain ⟨gap, begun, next, rfl, between, begins, less⟩ := unfinished
  obtain ⟨more, whole⟩ := start
  rcases List.append_eq_append_iff.mp whole with ⟨left, rfl, -⟩ | ⟨inside, rfl, rest⟩
  · refine ⟨part, [], next, (List.append_nil part).symm, fun c member => between c (List.mem_append_left left member),
      List.nil_prefix, fun none_ => ?_⟩
    have brace := next.opens
    rw [← none_] at brace
    cases brace
  · have shorter : inside <+: begun := ⟨more, rest.symm⟩
    refine ⟨gap, inside, next, rfl, between, shorter.trans begins, ?_⟩
    rintro rfl
    exact less (begins.eq_of_length (Nat.le_antisymm begins.length_le shorter.length_le))

section
variable {fuel depth : Nat}

/-- No value is read of an unfinished tail. -/
theorem read_unfinished (limit : depth ≤ Json.recursionLimit) {tail : List Char} (unfinished : Unfinished true tail) :
    Json.read fuel depth tail = none := by
  obtain ⟨gap, part, next, rfl, between, begins, less⟩ := unfinished
  rcases between_split between with blank | ⟨before, after, rfl, blank, -⟩
  · exact ObjectText.read_part blank limit begins less
  · cases ran : Json.read fuel depth (before ++ ',' :: after ++ part) with
    | none => rfl
    | some read =>
      obtain ⟨json, rest⟩ := read
      cases fuel with
      | zero => cases ran
      | succ fuel =>
        have step := Json.read_step ran
        rw [List.append_assoc, List.cons_append, skipSpace_comma blank] at step
        cases step with
        | num number => exact absurd number (Json.readNumber_other (by decide))

theorem readItems_unfinished (limit : depth ≤ Json.recursionLimit) {tail : List Char} (unfinished : Unfinished true tail) :
    Json.readItems fuel depth tail = none := by
  cases ran : Json.readItems fuel depth tail with
  | none => rfl
  | some read =>
    obtain ⟨items, rest⟩ := read
    cases fuel with
    | zero => cases ran
    | succ fuel =>
      have step := Json.readItems_step ran
      obtain ⟨gap, part, next, rfl, between, begins, less⟩ := unfinished
      rcases between_split between with blank | ⟨before, after, rfl, blank, later⟩
      · rw [skipSpace_space blank] at step
        cases part with
        | nil => cases step
        | cons c part =>
          obtain ⟨more, whole⟩ := begins
          have brace := next.opens
          rw [← whole] at brace
          obtain rfl := Option.some.inj brace
          rw [Json.skipSpace_cons '{' part (by decide)] at step
          cases step
      · rw [List.append_assoc, List.cons_append, skipSpace_comma blank] at step
        cases step with
        | item first more =>
          rw [read_unfinished limit ⟨after, part, next, rfl, later, begins, less⟩] at first
          cases first

/-- The items behind the first one are never closed; the induction is on the samples. -/
theorem readItems_open (limit : depth ≤ Json.recursionLimit) {later : List (List Char × ObjectText)}
    (separated : ∀ p ∈ later, Separator true p.1) {tail : List Char} (unfinished : Unfinished true tail) :
    Json.readItems fuel depth (laterText later ++ tail) = none := by
  induction later generalizing fuel with
  | nil => exact readItems_unfinished limit unfinished
  | cons p later ih =>
    cases ran : Json.readItems fuel depth (laterText (p :: later) ++ tail) with
    | none => rfl
    | some read =>
      obtain ⟨json, rest⟩ := read
      cases fuel with
      | zero => cases ran
      | succ fuel =>
        obtain ⟨before, after, gap, blank, blank'⟩ := separated p List.mem_cons_self
        have step := Json.readItems_step ran
        rw [laterText, List.flatMap_cons, gap, List.append_assoc, List.append_assoc, List.append_assoc, List.cons_append,
          skipSpace_comma blank] at step
        cases step with
        | item first more =>
          obtain rfl := ObjectText.read_rest blank' limit first
          rw [← laterText, ih fun q member => separated q (List.mem_cons_of_mem p member)] at more
          cases more

end

/-! ## The text as a whole -/

private theorem brace_solid : isWhitespace '{' = false ∧ isWhitespace '}' = false ∧ isWhitespace '[' = false := by decide

namespace SampleStream

variable {stream : SampleStream} {json : Json} {block : List Char}

/-- What stands before the first sample, but for white space in front. -/
def opening (stream : SampleStream) : List Char := if stream.array then '[' :: stream.inner else []

theorem behind_trimmed (stream : SampleStream) (front : List Char) :
    trimEnd (front ++ stream.first.text ++ laterText stream.later ++ stream.tail) =
      front ++ (stream.first.text ++ stream.behind) := by
  have last : (front ++ stream.first.text ++ laterText stream.later).getLast? = some '}' := by
    rcases List.eq_nil_or_concat' stream.later with none_ | ⟨others, p, same⟩
    · rw [none_, laterText, List.flatMap_nil, List.append_nil, List.getLast?_append, stream.first.closes]
      rfl
    · rw [same, laterText, List.flatMap_append, List.flatMap_singleton, List.getLast?_append, List.getLast?_append,
        List.getLast?_append, p.2.closes]
      rfl
  rw [trimEnd_closed last brace_solid.2.1, behind]
  simp only [List.append_assoc]

theorem trimmed_text (stream : SampleStream) :
    (trim stream.text).toList = stream.opening ++ (stream.first.text ++ stream.behind) := by
  have white {space : List Char} (blank : JsonBlank space) : ∀ c ∈ space, isWhitespace c = true :=
    fun c member => space_whitespace (blank c member)
  rw [opening, text]
  cases stream.array with
  | true =>
    have trimmed := trim_spaced (white stream.lead_blank) brace_solid.2.2
      (stream.inner ++ stream.first.text ++ laterText stream.later ++ stream.tail)
    simp only [List.append_assoc, List.cons_append, List.nil_append, if_true] at trimmed ⊢
    rw [trimmed]
    simpa only [List.append_assoc, List.cons_append] using stream.behind_trimmed ('[' :: stream.inner)
  | false =>
    obtain ⟨inside, object⟩ := List.head?_eq_some_iff.mp stream.first.opens
    have spaces : ∀ c ∈ stream.lead ++ stream.inner, isWhitespace c = true :=
      white fun c member => (List.mem_append.mp member).elim (stream.lead_blank c) (stream.inner_blank c)
    have trimmed := trim_spaced spaces brace_solid.1 (inside ++ laterText stream.later ++ stream.tail)
    rw [← List.cons_append, ← List.cons_append, ← object] at trimmed
    simp only [List.append_assoc, List.nil_append, if_false, Bool.false_eq_true] at trimmed ⊢
    rw [trimmed]
    simpa only [List.append_assoc, List.nil_append] using stream.behind_trimmed []

theorem unfinished_behind (stream : SampleStream) : Unfinished stream.array (trimEnd stream.tail) :=
  stream.unfinished.of_prefix (List.reverse_suffix.mp (by
    rw [trimEnd, List.reverse_reverse]
    exact List.dropWhile_suffix isWhitespace))

/-- An array that is not closed is no JSON. -/
theorem array_unread (array : stream.array = true) :
    Json.fromChars (stream.opening ++ (stream.first.text ++ stream.behind)) = none := by
  have separated : ∀ p ∈ stream.later, Separator true p.1 := array ▸ stream.separated
  have unfinished : Unfinished true (trimEnd stream.tail) := array ▸ stream.unfinished_behind
  rw [opening, if_pos array, List.cons_append]
  cases ran : Json.fromChars ('[' :: (stream.inner ++ (stream.first.text ++ stream.behind))) with
  | none => rfl
  | some json =>
    obtain ⟨rest, whole, -⟩ := fromChars_rest ran
    have step := Json.read_step whole
    rw [Json.skipSpace_cons '[' _ (by decide)] at step
    cases step with
    | noItems room close =>
      obtain ⟨inside, object⟩ := List.head?_eq_some_iff.mp stream.first.opens
      rw [object, List.cons_append, skipSpace_solid stream.inner_blank (by decide)] at close
      cases close
    | items room first more =>
      have limit : Json.recursionLimit - 1 ≤ Json.recursionLimit := Nat.sub_le _ _
      obtain rfl := ObjectText.read_rest stream.inner_blank limit first
      rw [behind, readItems_open limit separated unfinished] at more
      cases more
    | num number => exact absurd number (Json.readNumber_other (by decide))

/-- Of samples one after the other only a single one is JSON. -/
theorem objects_unread (open_ : stream.array = false) (more : stream.behind ≠ []) :
    Json.fromChars (stream.opening ++ (stream.first.text ++ stream.behind)) = none := by
  have none_ : stream.opening = [] := if_neg (by simp [open_])
  have trimmed := (trimmed_of_trim stream.text).2
  rw [stream.trimmed_text, none_, List.nil_append, List.getLast?_append_of_ne_nil _ more] at trimmed
  rw [none_, List.nil_append]
  cases ran : Json.fromChars (stream.first.text ++ stream.behind) with
  | none => rfl
  | some json =>
    have blank := ObjectText.fromChars_append ran
    have last := List.getLast?_eq_some_getLast more
    have solid := trimmed _ last
    rw [space_whitespace (blank _ (List.mem_of_getLast? last))] at solid
    cases solid

/-- The text is read as a whole only if it is a single object. -/
theorem text_read (stream : SampleStream) : Json.fromChars (stream.opening ++ (stream.first.text ++ stream.behind)) =
    if stream.array = false ∧ stream.behind = [] then some (.obj stream.first.fields) else none := by
  cases array : stream.array with
  | true => rw [array_unread array, if_neg (by simp)]
  | false =>
    by_cases last : stream.behind = []
    · rw [if_pos ⟨rfl, last⟩, last, List.append_nil, opening, if_neg (by simp [array]), List.nil_append, stream.first.reads]
    · rw [objects_unread array last, if_neg (by simp [last])]

theorem firstBlock_eq (stream : SampleStream) :
    firstBlock (stream.opening ++ (stream.first.text ++ stream.behind)) =
      (throughBrokenLine (stream.first.text ++ stream.behind)).or (throughCount 0 (stream.first.text ++ stream.behind)) := by
  obtain ⟨inside, object⟩ := List.head?_eq_some_iff.mp stream.first.opens
  have before : ∀ c ∈ stream.opening, decide (c ≠ '{') = true := by
    intro c member
    rw [decide_eq_true_eq]
    rintro rfl
    rw [opening] at member
    split at member
    · rcases List.mem_cons.mp member with same | inner
      · cases same
      · exact absurd (stream.inner_blank _ inner) (by decide)
    · cases member
  have start : (stream.opening ++ (stream.first.text ++ stream.behind)).dropWhile (· ≠ '{') =
      stream.first.text ++ stream.behind := by
    rw [List.dropWhile_append_of_pos before, object]
    exact List.dropWhile_cons_of_neg (by simp)
  rw [firstBlock, start]
  exact if_neg (by simp [object])

/-- A block that can be read is the first sample. -/
theorem block_read (start : block <+: stream.first.text ++ stream.behind) (last : block.getLast? = some '}')
    (ran : Json.fromChars block = some json) : block = stream.first.text := by
  obtain ⟨rest, whole⟩ := start
  rcases List.append_eq_append_iff.mp whole with ⟨left, same, -⟩ | ⟨more, rfl, -⟩
  · exact ObjectText.fromChars_part (by rintro rfl; cases last) ⟨left, same.symm⟩ ran
  · by_cases none_ : more = []
    · rw [none_, List.append_nil]
    · have blank := ObjectText.fromChars_append ran
      rw [List.getLast?_append_of_ne_nil _ none_] at last
      exact absurd (blank _ (List.mem_of_getLast? last)) (by decide)

/-- The block that is tried is the first sample if its end is found. -/
theorem firstBlock_iff (stream : SampleStream) :
    firstBlock (stream.opening ++ (stream.first.text ++ stream.behind)) = some stream.first.text ↔
      (NoBrokenLine stream.first.text ∧ stream.behind.head? = some '\n') ∨
      (NoBrokenLine (stream.first.text ++ stream.behind) ∧ CountsOut stream.first.text) := by
  rw [firstBlock_eq, Option.or_eq_some_iff, throughBrokenLine_eq_some, throughBrokenLine_eq_none,
    throughCount_whole stream.first.opens]
  refine or_congr_left ?_
  constructor
  · rintro ⟨⟨rest, whole⟩, -, inside⟩
    exact ⟨inside, by rw [List.append_cancel_left whole]; rfl⟩
  · rintro ⟨inside, after⟩
    obtain ⟨rest, same⟩ := List.head?_eq_some_iff.mp after
    exact ⟨⟨rest, by rw [same]⟩, stream.first.closes, inside⟩

theorem firstBlock_read (found : firstBlock (stream.opening ++ (stream.first.text ++ stream.behind)) = some block)
    (ran : Json.fromChars block = some json) : block = stream.first.text := by
  rw [firstBlock_eq, Option.or_eq_some_iff] at found
  rcases found with line | ⟨-, count⟩
  · obtain ⟨⟨rest, whole⟩, last, -⟩ := throughBrokenLine_eq_some.mp line
    exact block_read ⟨_, whole.symm⟩ last ran
  · obtain ⟨start, last⟩ := throughCount_ends count
    exact block_read start last ran

end SampleStream

open SampleStream

variable {stream : SampleStream}

/-- Where the end of the first sample is found, that sample is read. -/
theorem sampleBody_finds (finds : FindsFirst stream) : sampleBody stream.text = some (.obj stream.first.fields) := by
  rw [sampleBody, stream.trimmed_text]
  simp only [stream.text_read]
  by_cases alone : stream.array = false ∧ stream.behind = []
  · simp only [if_pos alone]
  · have found : firstBlock (stream.opening ++ (stream.first.text ++ stream.behind)) = some stream.first.text := by
      rw [firstBlock_iff]
      cases finds with
      | alone open_ last => exact absurd ⟨open_, last⟩ alone
      | line inside after => exact .inl ⟨inside, after⟩
      | count lines even => exact .inr ⟨lines, even⟩
    simp only [if_neg alone, found, Option.bind_some, stream.first.reads]

/-- What is read is the first sample, of which the end was found. -/
theorem finds_of_sampleBody {json : Json} (ran : sampleBody stream.text = some json) : FindsFirst stream := by
  rw [sampleBody, stream.trimmed_text] at ran
  simp only [stream.text_read] at ran
  by_cases alone : stream.array = false ∧ stream.behind = []
  · exact .alone alone.1 alone.2
  · simp only [if_neg alone] at ran
    obtain ⟨block, found, read⟩ := Option.bind_eq_some_iff.mp ran
    obtain rfl := firstBlock_read found read
    rcases stream.firstBlock_iff.mp found with ⟨inside, after⟩ | ⟨lines, even⟩
    · exact .line inside after
    · exact .count lines even

section
variable {F : Type} (ops : F64Ops F) (unixNow : Nat)

/-- A complete sample of the stream is returned exactly if the end of the first one is found. -/
theorem sample_found_iff (stream : SampleStream) :
    (∃ s ∈ stream.samples, parseIntelGpuTopJson ops unixNow stream.text = some (sampleStatus ops unixNow (.obj s.fields))) ↔
      FindsFirst stream := by
  constructor
  · rintro ⟨s, -, parsed⟩
    obtain ⟨json, ran, -⟩ := Option.map_eq_some_iff.mp parsed
    exact finds_of_sampleBody ran
  · intro finds
    refine ⟨stream.first, List.mem_cons_self, ?_⟩
    rw [parseIntelGpuTopJson, sampleBody_finds finds]
    rfl

end

/-- The arithmetic on whole numbers. -/
def wholeOps : F64Ops Nat where
  ofNumber
    | .int value => value.toNat
    | .float _ => 0
  parse text := parseU32 text.toList
  zero := 0
  add := (· + ·)
  roundQuotient total count := (2 * total + count) / (2 * count)
  roundText value := toString value

/-- A sample in which an inner object ends at the end of a line. -/
def nestedSample : ObjectText where
  text := "\x7b\"engines\":\x7b\"Render/3D\":\x7b\"busy\":50\x7d\x7d\n\x7d".toList
  fields := [("engines", .obj [("Render/3D", .obj [("busy", .num (.int 50))])])]
  opens := by decide
  closes := by decide
  reads := by rfl

private theorem newline_blank : JsonBlank ['\n'] :=
  fun _ member => .inr (.inl (List.mem_singleton.mp member))

def nestedSamples : SampleStream where
  array := false
  lead := []
  inner := []
  first := nestedSample
  later := [(['\n'], nestedSample)]
  tail := ['\n']
  lead_blank := fun _ member => absurd member List.not_mem_nil
  inner_blank := fun _ member => absurd member List.not_mem_nil
  separated := List.forall_mem_singleton.mpr newline_blank
  unfinished := ⟨['\n'], [], nestedSample, rfl, fun c member => .inl (newline_blank c member), List.nil_prefix, by decide⟩

theorem nested_sample_lost : ¬∃ s ∈ nestedSamples.samples, parseIntelGpuTopJson wholeOps 0 nestedSamples.text =
    some (sampleStatus wholeOps 0 (.obj s.fields)) := by
  have none_ : sampleBody nestedSamples.text = none := by rfl
  rintro ⟨s, -, parsed⟩
  rw [parseIntelGpuTopJson, none_] at parsed
  cases parsed

end MtrxPeer.IntelGpuTop
