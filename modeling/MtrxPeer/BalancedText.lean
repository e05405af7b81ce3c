import MtrxPeer.AgentCompat

/-! The reader of JSON and the counting of braces agree: the text of an object that can
be read is the balanced text from its brace, and reads the same by itself. -/
namespace MtrxPeer

/-! ## Scanning -/

/-- Some text is passed over by the scan, outside of strings and inside of braces. -/
def Scans (text : List Char) : Prop :=
  ∀ depth tail, balancedPrefix (depth + 1) false false (text ++ tail) =
    (balancedPrefix (depth + 1) false false tail).map (text ++ ·)

theorem scans_nil : Scans [] := by
  intro depth tail
  simp

theorem scans_append {a b : List Char} (first : Scans a) (second : Scans b) : Scans (a ++ b) := by
  intro depth tail
  rw [List.append_assoc, first, second, Option.map_map]
  simp [Function.comp_def]

/-- A character that neither opens a string nor counts. -/
def PlainChar (c : Char) : Prop := c ≠ '"' ∧ c ≠ '{' ∧ c ≠ '}'

theorem scans_plain {text : List Char} (plain : ∀ c ∈ text, PlainChar c) : Scans text := by
  induction text with
  | nil => exact scans_nil
  | cons c rest ih =>
    intro depth tail
    obtain ⟨quote, open_, close⟩ := plain c List.mem_cons_self
    have later := ih (fun d member => plain d (List.mem_cons_of_mem c member)) depth tail
    rw [List.cons_append, balancedPrefix, if_neg quote, if_neg open_, if_neg close, later,
      Option.map_map]
    rfl

/-- The inside of a string, up to its quote. -/
def ScansString (text : List Char) : Prop :=
  ∀ depth tail, balancedPrefix depth true false (text ++ tail) =
    (balancedPrefix depth false false tail).map (text ++ ·)

/-- A character of a string that stands for itself. -/
private theorem scansString_cons {c : Char} {text : List Char} (slash : c ≠ '\\') (quote : c ≠ '"')
    (rest : ScansString text) : ScansString (c :: text) := by
  intro depth tail
  rw [List.cons_append, balancedPrefix, if_neg slash, if_neg quote, rest, Option.map_map]
  rfl

private theorem scansString_escape {c : Char} {text : List Char} (rest : ScansString text) :
    ScansString ('\\' :: c :: text) := by
  intro depth tail
  rw [List.cons_append, List.cons_append, balancedPrefix, if_pos rfl, balancedPrefix, rest,
    Option.map_map, Option.map_map]
  rfl

private theorem hexValue_plain {c : Char} (digit : (hexValue c).isSome) : c ≠ '\\' ∧ c ≠ '"' := by
  refine ⟨?_, ?_⟩ <;> rintro rfl <;> revert digit <;> decide

private theorem hex4_plain {a b c d : Char} {n : Nat} (digits : Json.hex4 a b c d = some n) :
    (a ≠ '\\' ∧ a ≠ '"') ∧ (b ≠ '\\' ∧ b ≠ '"') ∧ (c ≠ '\\' ∧ c ≠ '"') ∧ (d ≠ '\\' ∧ d ≠ '"') := by
  simp only [Json.hex4, Option.bind_eq_bind, Option.bind_eq_some_iff] at digits
  obtain ⟨_, first, _, second, _, third, _, fourth, -⟩ := digits
  exact ⟨hexValue_plain (by simp [first]), hexValue_plain (by simp [second]),
    hexValue_plain (by simp [third]), hexValue_plain (by simp [fourth])⟩

private theorem scansString_hex {a b c d : Char} {n : Nat} {text : List Char}
    (digits : Json.hex4 a b c d = some n) (rest : ScansString text) :
    ScansString ('\\' :: 'u' :: a :: b :: c :: d :: text) := by
  obtain ⟨first, second, third, fourth⟩ := hex4_plain digits
  exact scansString_escape (scansString_cons first.1 first.2 (scansString_cons second.1 second.2
    (scansString_cons third.1 third.2 (scansString_cons fourth.1 fourth.2 rest))))

/-- What the reader of a string consumed. -/
structure StringText (consumed s : List Char) : Prop where
  scans : ScansString consumed
  again : ∀ tail, Json.readString (consumed ++ tail) = some (s, tail)

private theorem pushChar_some {c : Char} {read : Option (List Char × List Char)} {s rest : List Char}
    (pushed : Json.pushChar c read = some (s, rest)) :
    ∃ more, read = some (more, rest) ∧ s = c :: more := by
  cases read with
  | none => cases pushed
  | some step =>
    obtain ⟨rfl, rfl⟩ := Prod.mk.inj (Option.some.inj pushed)
    exact ⟨step.1, rfl, rfl⟩

theorem readString_consumed {text s rest : List Char} (ran : Json.readString text = some (s, rest)) :
    ∃ consumed, text = consumed ++ rest ∧ StringText consumed s := by
  fun_induction Json.readString text generalizing s rest with
  | case2 more =>
    obtain ⟨rfl, rfl⟩ := Prod.mk.inj (Option.some.inj ran)
    refine ⟨['"'], rfl, ?_, fun tail => by simp [Json.readString]⟩
    intro depth tail
    rw [List.singleton_append, balancedPrefix, if_neg (by decide), if_pos rfl]
    rfl
  | case5 a b c d n first high e f g h tail m second low ih =>
    -- a pair of surrogates
    obtain ⟨more, read, rfl⟩ := pushChar_some ran
    obtain ⟨consumed, rfl, inner⟩ := ih read
    refine ⟨'\\' :: 'u' :: a :: b :: c :: d :: '\\' :: 'u' :: e :: f :: g :: h :: consumed, rfl,
      scansString_hex first (scansString_hex second inner.scans), fun tail => ?_⟩
    simp only [List.cons_append, Json.readString, first, high, second, low, and_self, if_true,
      inner.again, Json.pushChar]
  | case9 a b c d more n first high low ih =>
    obtain ⟨rest_, read, rfl⟩ := pushChar_some ran
    obtain ⟨consumed, rfl, inner⟩ := ih read
    refine ⟨'\\' :: 'u' :: a :: b :: c :: d :: consumed, rfl, scansString_hex first inner.scans,
      fun tail => ?_⟩
    simp only [List.cons_append, Json.readString, first, high, low, if_false, inner.again,
      Json.pushChar]
  | case10 c more _ plain short ih =>
    obtain ⟨rest_, read, rfl⟩ := pushChar_some ran
    obtain ⟨consumed, rfl, inner⟩ := ih read
    refine ⟨'\\' :: c :: consumed, rfl, scansString_escape inner.scans, fun tail => ?_⟩
    have other : c ≠ 'u' := by
      rintro rfl
      simp [Json.shortEscape] at short
    rw [List.cons_append, List.cons_append, Json.readString]
    · simp only [short, inner.again, Json.pushChar]
    · intro a b c' d rest' same
      exact absurd same other
  | case13 c more quote _ slash control ih =>
    obtain ⟨rest_, read, rfl⟩ := pushChar_some ran
    have solid : c ≠ '\\' := by
      rintro rfl
      cases more with
      | nil => simp [Json.readString] at read
      | cons d tail => exact slash d tail rfl rfl
    obtain ⟨consumed, rfl, inner⟩ := ih read
    refine ⟨c :: consumed, rfl, scansString_cons solid quote inner.scans, fun tail => ?_⟩
    rw [List.cons_append, Json.readString]
    · simp only [control, if_false, inner.again, Json.pushChar]
    · exact quote
    · exact fun a b c' d rest' same => absurd same solid
    · exact fun d rest' same => absurd same solid
  | case1 => cases ran
  | case3 => cases ran
  | case4 => cases ran
  | case6 => cases ran
  | case7 => cases ran
  | case8 => cases ran
  | case11 => cases ran
  | case12 => cases ran

/-! ## Values -/

/-- A white space character of JSON. -/
def JsonSpace (c : Char) : Prop := c = ' ' ∨ c = '\n' ∨ c = '\t' ∨ c = '\r'

instance (c : Char) : Decidable (JsonSpace c) :=
  inferInstanceAs (Decidable (c = ' ' ∨ c = '\n' ∨ c = '\t' ∨ c = '\r'))

theorem space_plain {c : Char} (space : JsonSpace c) : PlainChar c := by
  rcases space with rfl | rfl | rfl | rfl <;> exact ⟨by decide, by decide, by decide⟩

theorem space_whitespace {c : Char} (space : JsonSpace c) : isWhitespace c = true := by
  rcases space with rfl | rfl | rfl | rfl <;> decide

private theorem numeric_plain {c : Char} (numeric : Json.Numeric c) : PlainChar c := by
  refine ⟨?_, ?_, ?_⟩ <;> rintro rfl <;> simp [Json.Numeric, Char.isDigit] at numeric

theorem skipSpace_split (text : List Char) :
    ∃ space, text = space ++ Json.skipSpace text ∧ ∀ c ∈ space, JsonSpace c := by
  induction text with
  | nil => exact ⟨[], rfl, by simp⟩
  | cons c rest ih =>
    by_cases space : c = ' ' ∨ c = '\n' ∨ c = '\t' ∨ c = '\r'
    · obtain ⟨front, split, all⟩ := ih
      refine ⟨c :: front, ?_, ?_⟩
      · rw [List.cons_append, Json.skipSpace, if_pos space, ← split]
      · exact List.forall_mem_cons.mpr ⟨space, all⟩
    · refine ⟨[], ?_, by simp⟩
      rw [List.nil_append, Json.skipSpace, if_neg space]

/-- Leading space is skipped whatever follows it. -/
theorem skipSpace_space {space : List Char} (all : ∀ c ∈ space, JsonSpace c) (text : List Char) :
    Json.skipSpace (space ++ text) = Json.skipSpace text := by
  induction space with
  | nil => rfl
  | cons c rest ih =>
    obtain ⟨first, others⟩ := List.forall_mem_cons.mp all
    unfold JsonSpace at first
    rw [List.cons_append, Json.skipSpace, if_pos first]
    exact ih others

theorem skipSpace_solid {space : List Char} (all : ∀ c ∈ space, JsonSpace c) {c : Char}
    (solid : ¬JsonSpace c) (rest : List Char) : Json.skipSpace (space ++ c :: rest) = c :: rest := by
  rw [skipSpace_space all]
  exact Json.skipSpace_cons c rest solid

theorem scans_space {space : List Char} (all : ∀ c ∈ space, JsonSpace c) : Scans space :=
  scans_plain fun c member => space_plain (all c member)

theorem scans_string {consumed s : List Char} (text : StringText consumed s) :
    Scans ('"' :: consumed) := by
  intro depth tail
  rw [List.cons_append, balancedPrefix, if_pos rfl, text.scans, Option.map_map]
  rfl

theorem scans_braces {inner : List Char} (inside : Scans inner) :
    Scans ('{' :: (inner ++ ['}'])) := by
  intro depth tail
  rw [List.cons_append, balancedPrefix, if_neg (by decide), if_pos rfl, List.append_assoc, inside,
    List.singleton_append, balancedPrefix, if_neg (by decide), if_neg (by decide), if_pos rfl,
    if_neg (by omega), if_neg (by omega), Option.map_map, Option.map_map]
  simp [Function.comp_def]

/-- The scan from an opening brace ends at the brace that closes it. -/
theorem balancedPrefix_braces {inner : List Char} (inside : Scans inner) (tail : List Char) :
    balancedPrefix 0 false false ('{' :: (inner ++ '}' :: tail)) = some ('{' :: (inner ++ ['}'])) := by
  rw [balancedPrefix, if_neg (by decide), if_pos rfl, inside, balancedPrefix, if_neg (by decide),
    if_neg (by decide), if_pos rfl, if_neg (by omega), if_pos rfl]
  rfl

/-- What the reader consumed of a value: it is passed over, does not start like the end
of an array, and is read again before anything that does not continue a number. -/
structure ValueText (depth : Nat) (consumed : List Char) (v : Json) : Prop where
  scans : Scans consumed
  starts : ∀ tail more, Json.skipSpace (consumed ++ tail) ≠ ']' :: more
  braces : ∀ fields, v = .obj fields → ∃ space inner,
    consumed = space ++ '{' :: (inner ++ ['}']) ∧ (∀ c ∈ space, JsonSpace c) ∧ Scans inner
  again : ∀ fuel depth' tail, consumed.length < fuel → depth ≤ depth' → Json.NumberEnd tail →
    Json.read fuel depth' (consumed ++ tail) = some (v, tail)

structure ItemsText (depth : Nat) (consumed : List Char) (items : List Json) : Prop where
  scans : Scans consumed
  ends : ∀ tail, Json.NumberEnd (consumed ++ tail)
  again : ∀ fuel depth' tail, consumed.length < fuel → depth ≤ depth' →
    Json.readItems fuel depth' (consumed ++ tail) = some (items, tail)

structure FieldsText (depth : Nat) (consumed : List Char) (fields fields' : List (String × Json)) :
    Prop where
  scans : ∃ inner, consumed = inner ++ ['}'] ∧ Scans inner
  ends : ∀ tail, Json.NumberEnd (consumed ++ tail)
  again : ∀ fuel depth' tail, consumed.length < fuel → depth ≤ depth' →
    Json.readFields fuel depth' fields (consumed ++ tail) = some (fields', tail)

/-- What the reader consumed of a key with its colon. -/
structure KeyText (consumed : List Char) (key : String) : Prop where
  scans : Scans consumed
  again : ∀ tail, Json.readKey (consumed ++ tail) = some (key, tail)
  starts : ∀ tail more, Json.skipSpace (consumed ++ tail) ≠ '}' :: more

private theorem numberEnd_cons {c : Char} (ends : c.isDigit = false ∧ c ≠ '.' ∧ c ≠ 'e' ∧ c ≠ 'E')
    (rest : List Char) : Json.NumberEnd (c :: rest) := by
  intro d member
  obtain rfl : c = d := by simpa using member
  exact ends

private theorem numberEnd_space {space : List Char} (all : ∀ c ∈ space, JsonSpace c)
    {rest : List Char} (ends : Json.NumberEnd rest) : Json.NumberEnd (space ++ rest) := by
  cases space with
  | nil => exact ends
  | cons c more =>
    refine numberEnd_cons ?_ _
    rcases all c List.mem_cons_self with rfl | rfl | rfl | rfl <;> decide

private theorem readKey_consumed {text rest : List Char} {key : String}
    (ran : Json.readKey text = some (key, rest)) :
    ∃ consumed, text = consumed ++ rest ∧ KeyText consumed key := by
  obtain ⟨space, split, all⟩ := skipSpace_split text
  unfold Json.readKey at ran
  split at ran
  · rename_i quoted front
    split at ran
    · rename_i s left string
      obtain ⟨consumed, rfl, inside⟩ := readString_consumed string
      obtain ⟨space', split', all'⟩ := skipSpace_split left
      split at ran
      · rename_i after colon
        obtain ⟨rfl, rfl⟩ := Prod.mk.inj (Option.some.inj ran)
        rw [front] at split
        rw [colon] at split'
        have text (tail : List Char) : space ++ '"' :: (consumed ++ (space' ++ [':'])) ++ tail =
            space ++ '"' :: (consumed ++ (space' ++ ':' :: tail)) := by simp
        refine ⟨space ++ '"' :: (consumed ++ (space' ++ [':'])), ?_, ?_, ?_, ?_⟩
        · rw [text, split, split']
        · exact scans_append (scans_space all) (scans_append (scans_string inside)
            (scans_append (scans_space all') (scans_plain (by simp [PlainChar]))))
        · intro tail
          rw [text, Json.readKey, skipSpace_solid all (by decide)]
          simp only [inside.again, skipSpace_solid all' (by decide : ¬JsonSpace ':')]
        · intro tail more
          rw [text, skipSpace_solid all (by decide)]
          simp
      · cases ran
    · cases ran
  · cases ran

section
variable {depth : Nat} {space : List Char} (all : ∀ c ∈ space, JsonSpace c)
include all

/-- A value that starts with a character of its own, after some space. -/
private theorem valueText_solid {body : List Char} {c : Char} {v : Json} (solid : ¬JsonSpace c)
    (other : c ≠ ']') (scans : Scans (c :: body))
    (braces : ∀ fields, v = .obj fields → ∃ inner, c :: body = '{' :: (inner ++ ['}']) ∧ Scans inner)
    (again : ∀ fuel depth' tail, (c :: body).length ≤ fuel → depth ≤ depth' → Json.NumberEnd tail →
      Json.read (fuel + 1) depth' (c :: (body ++ tail)) = some (v, tail)) :
    ValueText depth (space ++ c :: body) v := by
  have head : ∀ tail, Json.skipSpace (space ++ c :: body ++ tail) = c :: (body ++ tail) := by
    intro tail
    rw [List.append_assoc]
    exact skipSpace_solid all solid _
  refine ⟨scans_append (scans_space all) scans, ?_, ?_, ?_⟩
  · intro tail more same
    rw [head] at same
    exact other (List.cons.inj same).1
  · intro fields is
    obtain ⟨inner, same, inside⟩ := braces fields is
    exact ⟨space, inner, by rw [same], all, inside⟩
  · intro fuel depth' tail enough deep stop
    cases fuel with
    | zero => omega
    | succ fuel =>
      have bare : Json.skipSpace (c :: (body ++ tail)) = c :: (body ++ tail) :=
        Json.skipSpace_cons c _ solid
      rw [← again fuel depth' tail (by simp at enough ⊢; omega) deep stop]
      simp only [Json.read, head, bare]

/-- A value without quotes, brackets and braces. -/
private theorem valueText_plain {body : List Char} {c : Char} {v : Json} (solid : ¬JsonSpace c)
    (other : c ≠ ']') (plain : ∀ d ∈ c :: body, PlainChar d) (bare : ∀ fields, v ≠ .obj fields)
    (again : ∀ fuel depth' tail, Json.NumberEnd tail →
      Json.read (fuel + 1) depth' (c :: (body ++ tail)) = some (v, tail)) :
    ValueText depth (space ++ c :: body) v := by
  apply valueText_solid all solid other (scans_plain plain)
  · intro fields is
    exact absurd is (bare fields)
  · intro fuel depth' tail _ _ stop
    exact again fuel depth' tail stop

private theorem valueText_noItems {inner : List Char} (blank : ∀ c ∈ inner, JsonSpace c)
    (room : ¬depth ≤ 1) : ValueText depth (space ++ '[' :: (inner ++ [']'])) (.arr []) := by
  apply valueText_solid all (by decide) (by decide)
  · exact scans_append (scans_plain (by simp [PlainChar] : ∀ c ∈ ['['], PlainChar c))
      (scans_append (scans_space blank) (scans_plain (by simp [PlainChar])))
  · simp
  · intro fuel depth' tail _ low _
    have room' : ¬depth' ≤ 1 := by omega
    have head : Json.skipSpace (inner ++ [']'] ++ tail) = ']' :: tail := by
      rw [List.append_assoc]
      exact skipSpace_solid blank (by decide) tail
    simp only [Json.read, Json.skipSpace_cons '[' _ (by decide), if_neg room', head]

private theorem valueText_items {first more : List Char} {item : Json} {others : List Json}
    (room : ¬depth ≤ 1) (one : ValueText (depth - 1) first item)
    (later : ItemsText (depth - 1) more others) :
    ValueText depth (space ++ '[' :: (first ++ more)) (.arr (item :: others)) := by
  apply valueText_solid all (by decide) (by decide)
  · exact scans_append (scans_plain (by simp [PlainChar] : ∀ c ∈ ['['], PlainChar c))
      (scans_append one.scans later.scans)
  · simp
  · intro fuel depth' tail enough low _
    have room' : ¬depth' ≤ 1 := by omega
    simp only [List.length_cons, List.length_append] at enough
    have value := one.again fuel (depth' - 1) (more ++ tail) (by omega) (by omega) (later.ends tail)
    have items := later.again fuel (depth' - 1) tail (by omega) (by omega)
    simp only [Json.read, Json.skipSpace_cons '[' _ (by decide), if_neg room', List.append_assoc]
    split
    · rename_i close
      exact absurd close (one.starts _ _)
    · rw [value]
      simp only [items, Option.map_some]

private theorem valueText_noFields {inner : List Char} (blank : ∀ c ∈ inner, JsonSpace c)
    (room : ¬depth ≤ 1) : ValueText depth (space ++ '{' :: (inner ++ ['}'])) (.obj []) := by
  apply valueText_solid all (by decide) (by decide) (scans_braces (scans_space blank))
  · exact fun fields _ => ⟨inner, rfl, scans_space blank⟩
  · intro fuel depth' tail _ low _
    have room' : ¬depth' ≤ 1 := by omega
    have head : Json.skipSpace (inner ++ ['}'] ++ tail) = '}' :: tail := by
      rw [List.append_assoc]
      exact skipSpace_solid blank (by decide) tail
    simp only [Json.read, Json.skipSpace_cons '{' _ (by decide), if_neg room', head]

private theorem valueText_fields {keyed first more : List Char} {key : String} {value : Json}
    {others : List (String × Json)} (room : ¬depth ≤ 1) (name : KeyText keyed key)
    (one : ValueText (depth - 1) first value)
    (later : FieldsText (depth - 1) more [(key, value)] others) :
    ValueText depth (space ++ '{' :: (keyed ++ (first ++ more))) (.obj others) := by
  obtain ⟨inner, rfl, inside⟩ := later.scans
  have scans : Scans (keyed ++ (first ++ inner)) :=
    scans_append name.scans (scans_append one.scans inside)
  have text : keyed ++ (first ++ (inner ++ ['}'])) = keyed ++ (first ++ inner) ++ ['}'] := by simp
  apply valueText_solid all (by decide) (by decide)
  · rw [text]
    exact scans_braces scans
  · exact fun fields _ => ⟨_, congrArg ('{' :: ·) text, scans⟩
  · intro fuel depth' tail enough low _
    have room' : ¬depth' ≤ 1 := by omega
    simp only [List.length_cons, List.length_append, List.length_nil] at enough
    have read := one.again fuel (depth' - 1) (inner ++ ['}'] ++ tail) (by omega) (by omega)
      (later.ends tail)
    have fields := later.again fuel (depth' - 1) tail
      (by simp only [List.length_append, List.length_cons, List.length_nil]; omega) (by omega)
    simp only [List.append_assoc] at read fields
    simp only [Json.read, Json.skipSpace_cons '{' _ (by decide), if_neg room', List.append_assoc]
    split
    · rename_i close
      exact absurd close (name.starts _ _)
    · simp only [name.again, read, fields, Option.map_some]

private theorem itemsText_close : ItemsText depth (space ++ [']']) [] := by
  refine ⟨?_, ?_, ?_⟩
  · exact scans_append (scans_space all) (scans_plain (by simp [PlainChar]))
  · intro tail
    rw [List.append_assoc]
    exact numberEnd_space all (numberEnd_cons (by decide) _)
  · intro fuel depth' tail enough _
    cases fuel with
    | zero => omega
    | succ fuel =>
      simp only [Json.readItems, List.append_assoc, List.cons_append, List.nil_append,
        skipSpace_solid all (by decide : ¬JsonSpace ']')]

private theorem itemsText_item {first more : List Char} {item : Json} {others : List Json}
    (one : ValueText depth first item) (later : ItemsText depth more others) :
    ItemsText depth (space ++ ',' :: (first ++ more)) (item :: others) := by
  refine ⟨?_, ?_, ?_⟩
  · exact scans_append (scans_space all)
      (scans_append (scans_plain (by simp [PlainChar] : ∀ c ∈ [','], PlainChar c))
        (scans_append one.scans later.scans))
  · intro tail
    rw [List.append_assoc]
    exact numberEnd_space all (numberEnd_cons (by decide) _)
  · intro fuel depth' tail enough deep
    cases fuel with
    | zero => omega
    | succ fuel =>
      simp only [List.length_cons, List.length_append] at enough
      have value := one.again fuel depth' (more ++ tail) (by omega) deep (later.ends tail)
      have items := later.again fuel depth' tail (by omega) deep
      simp only [Json.readItems, List.append_assoc, List.cons_append,
        skipSpace_solid all (by decide : ¬JsonSpace ','), value, items, Option.map_some]

private theorem fieldsText_close (map : List (String × Json)) :
    FieldsText depth (space ++ ['}']) map map := by
  refine ⟨⟨space, rfl, scans_space all⟩, ?_, ?_⟩
  · intro tail
    rw [List.append_assoc]
    exact numberEnd_space all (numberEnd_cons (by decide) _)
  · intro fuel depth' tail enough _
    cases fuel with
    | zero => omega
    | succ fuel =>
      simp only [Json.readFields, List.append_assoc, List.cons_append, List.nil_append,
        skipSpace_solid all (by decide : ¬JsonSpace '}')]

private theorem fieldsText_field {keyed first more : List Char} {key : String} {value : Json}
    {map map' : List (String × Json)} (name : KeyText keyed key) (one : ValueText depth first value)
    (later : FieldsText depth more (Json.insertField key value map) map') :
    FieldsText depth (space ++ ',' :: (keyed ++ (first ++ more))) map map' := by
  obtain ⟨inner, rfl, inside⟩ := later.scans
  refine ⟨⟨space ++ ',' :: (keyed ++ (first ++ inner)), by simp, ?_⟩, ?_, ?_⟩
  · exact scans_append (scans_space all)
      (scans_append (scans_plain (by simp [PlainChar] : ∀ c ∈ [','], PlainChar c))
        (scans_append name.scans (scans_append one.scans inside)))
  · intro tail
    rw [List.append_assoc]
    exact numberEnd_space all (numberEnd_cons (by decide) _)
  · intro fuel depth' tail enough deep
    cases fuel with
    | zero => omega
    | succ fuel =>
      simp only [List.length_cons, List.length_append, List.length_nil] at enough
      have read := one.again fuel depth' (inner ++ ['}'] ++ tail) (by omega) deep (later.ends tail)
      have fields := later.again fuel depth' tail
        (by simp only [List.length_append, List.length_cons, List.length_nil]; omega) deep
      simp only [List.append_assoc, List.cons_append, List.nil_append] at read fields
      simp only [Json.readFields, List.append_assoc, List.cons_append, List.nil_append,
        skipSpace_solid all (by decide : ¬JsonSpace ','), name.again, read, fields]

end

/-- Whatever is read with this fuel has consumed its text. -/
private structure ReadsConsumed (fuel : Nat) : Prop where
  values : ∀ {depth text v rest}, Json.read fuel depth text = some (v, rest) →
    ∃ consumed, text = consumed ++ rest ∧ ValueText depth consumed v
  items : ∀ {depth text items rest}, Json.readItems fuel depth text = some (items, rest) →
    ∃ consumed, text = consumed ++ rest ∧ ItemsText depth consumed items
  fields : ∀ {depth map text map' rest}, Json.readFields fuel depth map text = some (map', rest) →
    ∃ consumed, text = consumed ++ rest ∧ FieldsText depth consumed map map'

section
variable {fuel depth : Nat} {space shown rest : List Char}

private theorem readStep_consumed (reads : ReadsConsumed fuel) (all : ∀ c ∈ space, JsonSpace c)
    {v : Json} (step : Json.ReadStep fuel depth shown v rest) :
    ∃ consumed, space ++ shown = consumed ++ rest ∧ ValueText depth consumed v := by
  cases step with
  | null =>
    refine ⟨space ++ ['n', 'u', 'l', 'l'], by simp, ?_⟩
    exact valueText_plain all (by decide) (by decide) (by simp [PlainChar]) (by simp)
      fun fuel depth' tail _ => by simp [Json.read, Json.skipSpace]
  | yes =>
    refine ⟨space ++ ['t', 'r', 'u', 'e'], by simp, ?_⟩
    exact valueText_plain all (by decide) (by decide) (by simp [PlainChar]) (by simp)
      fun fuel depth' tail _ => by simp [Json.read, Json.skipSpace]
  | no =>
    refine ⟨space ++ ['f', 'a', 'l', 's', 'e'], by simp, ?_⟩
    exact valueText_plain all (by decide) (by decide) (by simp [PlainChar]) (by simp)
      fun fuel depth' tail _ => by simp [Json.read, Json.skipSpace]
  | str quoted =>
    obtain ⟨consumed, rfl, inside⟩ := readString_consumed quoted
    refine ⟨space ++ '"' :: consumed, by simp, ?_⟩
    exact valueText_solid all (by decide) (by decide) (scans_string inside) (by simp)
      fun fuel depth' tail _ _ _ => by simp [Json.read, Json.skipSpace, inside.again]
  | @noItems text _ room close =>
    obtain ⟨inner, split, blank⟩ := skipSpace_split text
    rw [close] at split
    exact ⟨space ++ '[' :: (inner ++ [']']), by simp [split], valueText_noItems all blank room⟩
  | items room first more =>
    obtain ⟨one, rfl, value⟩ := reads.values first
    obtain ⟨others, rfl, later⟩ := reads.items more
    exact ⟨space ++ '[' :: (one ++ others), by simp, valueText_items all room value later⟩
  | @noFields text _ room close =>
    obtain ⟨inner, split, blank⟩ := skipSpace_split text
    rw [close] at split
    exact ⟨space ++ '{' :: (inner ++ ['}']), by simp [split], valueText_noFields all blank room⟩
  | fields room keyed first more =>
    obtain ⟨key, rfl, name⟩ := readKey_consumed keyed
    obtain ⟨one, rfl, value⟩ := reads.values first
    obtain ⟨others, rfl, later⟩ := reads.fields more
    exact ⟨space ++ '{' :: (key ++ (one ++ others)), by simp,
      valueText_fields all room name value later⟩
  | num number =>
    obtain ⟨consumed, split, numeric, again⟩ := Json.readNumber_consumed number
    obtain ⟨c, body, rfl, start⟩ : ∃ c body, consumed = c :: body ∧ (c = '-' ∨ c.isDigit = true) := by
      have alone := again [] (by simp [Json.NumberEnd])
      rw [List.append_nil] at alone
      exact Json.readNumber_head alone
    have solid : ¬JsonSpace c := by
      rintro (rfl | rfl | rfl | rfl) <;> simp [Char.isDigit] at start
    have other : c ≠ ']' := by
      rintro rfl
      simp [Char.isDigit] at start
    refine ⟨space ++ c :: body, by rw [split, List.append_assoc], ?_⟩
    exact valueText_plain all solid other (fun d member => numeric_plain (numeric d member)) (by simp)
      fun fuel depth' tail stop => Json.read_number fuel depth' start (again tail stop)

private theorem itemsStep_consumed (reads : ReadsConsumed fuel) (all : ∀ c ∈ space, JsonSpace c)
    {items : List Json} (step : Json.ItemsStep fuel depth shown items rest) :
    ∃ consumed, space ++ shown = consumed ++ rest ∧ ItemsText depth consumed items := by
  cases step with
  | close => exact ⟨space ++ [']'], by simp, itemsText_close all⟩
  | item first more =>
    obtain ⟨one, rfl, value⟩ := reads.values first
    obtain ⟨others, rfl, later⟩ := reads.items more
    exact ⟨space ++ ',' :: (one ++ others), by simp, itemsText_item all value later⟩

private theorem fieldsStep_consumed (reads : ReadsConsumed fuel) (all : ∀ c ∈ space, JsonSpace c)
    {map map' : List (String × Json)} (step : Json.FieldsStep fuel depth map shown map' rest) :
    ∃ consumed, space ++ shown = consumed ++ rest ∧ FieldsText depth consumed map map' := by
  cases step with
  | close => exact ⟨space ++ ['}'], by simp, fieldsText_close all map⟩
  | field keyed first more =>
    obtain ⟨key, rfl, name⟩ := readKey_consumed keyed
    obtain ⟨one, rfl, value⟩ := reads.values first
    obtain ⟨others, rfl, later⟩ := reads.fields more
    exact ⟨space ++ ',' :: (key ++ (one ++ others)), by simp, fieldsText_field all name value later⟩

end

private theorem reads_consumed (fuel : Nat) : ReadsConsumed fuel := by
  induction fuel with
  | zero => constructor <;> simp [Json.read, Json.readItems, Json.readFields]
  | succ fuel ih =>
    constructor
    · intro depth text v rest ran
      obtain ⟨space, split, all⟩ := skipSpace_split text
      rw [split]
      exact readStep_consumed ih all (Json.read_step ran)
    · intro depth text items rest ran
      obtain ⟨space, split, all⟩ := skipSpace_split text
      rw [split]
      exact itemsStep_consumed ih all (Json.readItems_step ran)
    · intro depth map text map' rest ran
      obtain ⟨space, split, all⟩ := skipSpace_split text
      rw [split]
      exact fieldsStep_consumed ih all (Json.readFields_step ran)

theorem Json.read_space {space : List Char} (all : ∀ c ∈ space, JsonSpace c) (fuel depth : Nat)
    (text : List Char) : Json.read fuel depth (space ++ text) = Json.read fuel depth text := by
  cases fuel with
  | zero => simp only [Json.read]
  | succ fuel => simp only [Json.read, skipSpace_space all]

/-- A text whose whole is an object reads the same from its brace on, whatever follows
the brace that closes it: the counting of braces finds just that text. -/
theorem extractBalanced_object {depth fuel : Nat} {text rest : List Char}
    {fields : List (String × Json)} (limit : depth ≤ Json.recursionLimit)
    (ran : Json.read fuel depth text = some (.obj fields, rest)) :
    ∃ space object, text = space ++ (object ++ rest) ∧ (∀ c ∈ space, JsonSpace c) ∧
      object.head? = some '{' ∧ Json.fromChars object = some (.obj fields) ∧
      ∀ tail, extractBalancedJsonObject (object ++ tail) = some object := by
  obtain ⟨consumed, rfl, value⟩ := (reads_consumed fuel).values ran
  obtain ⟨space, inner, rfl, all, inside⟩ := value.braces fields rfl
  rw [List.append_assoc, Json.read_space all] at ran
  obtain ⟨object, same, value⟩ := (reads_consumed fuel).values ran
  obtain rfl := List.append_cancel_right same
  refine ⟨space, '{' :: (inner ++ ['}']), by simp, all, rfl, ?_, ?_⟩
  · have again := value.again ('{' :: (inner ++ ['}'])).length.succ Json.recursionLimit []
      (Nat.lt_succ_self _) limit (by simp [Json.NumberEnd])
    rw [List.append_nil] at again
    simp only [Json.fromChars, again]
    rfl
  · intro tail
    have text : '{' :: (inner ++ ['}']) ++ tail = '{' :: (inner ++ '}' :: tail) := by simp
    have start : trimStart ('{' :: (inner ++ '}' :: tail)) = '{' :: (inner ++ '}' :: tail) := by
      have brace : isWhitespace '{' = false := by decide
      rw [trimStart, List.dropWhile_cons_of_neg (by simp [brace])]
    rw [text, extractBalancedJsonObject, start]
    exact balancedPrefix_braces inside tail

end MtrxPeer
