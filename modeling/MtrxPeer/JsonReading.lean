import MtrxPeer.JsonRoundTrip

/-! What the reader makes of a text is a value that can be written and read again. -/
namespace MtrxPeer.Json

/-! ## Values that were built -/

/-- The keys of an object, in order. -/
def KeysSorted (keys : List String) : Prop := keys.Pairwise (· < ·)

instance (keys : List String) : Decidable (KeysSorted keys) :=
  inferInstanceAs (Decidable (List.Pairwise _ _))

@[simp] theorem valid_null : Valid .null := trivial

@[simp] theorem valid_bool (value : Bool) : (bool value).Valid := trivial

@[simp] theorem valid_str (value : String) : (str value).Valid := trivial

@[simp] theorem valid_arr (items : List Json) : (arr items).Valid ↔ Valid.ValidItems items := Iff.rfl

@[simp] theorem valid_obj (fields : List (String × Json)) :
    (obj fields).Valid ↔ KeysSorted (fields.map Prod.fst) ∧ Valid.ValidFields fields := Iff.rfl

@[simp] theorem validItems_nil : Valid.ValidItems [] := trivial

@[simp] theorem validItems_cons (item : Json) (rest : List Json) :
    Valid.ValidItems (item :: rest) ↔ item.Valid ∧ Valid.ValidItems rest := Iff.rfl

@[simp] theorem validFields_nil : Valid.ValidFields [] := trivial

@[simp] theorem validFields_cons (key : String) (value : Json) (rest : List (String × Json)) :
    Valid.ValidFields ((key, value) :: rest) ↔ value.Valid ∧ Valid.ValidFields rest := Iff.rfl

/-! ## Numbers -/

private theorem takeDigits_of {text digits rest : List Char}
    (ran : takeDigits text = (digits, rest)) :
    (∀ c ∈ digits, c.isDigit = true) ∧ ∀ c ∈ rest.head?, c.isDigit = false := by
  obtain ⟨-, all, stop⟩ := takeDigits_spec text
  rw [ran] at all stop
  exact ⟨all, stop⟩

private theorem readInteger_some {text digits rest : List Char} :
    readInteger text = some (digits, rest) ↔
      takeDigits text = (digits, rest) ∧ digits ≠ [] ∧ ∀ d more, digits ≠ '0' :: d :: more := by
  unfold readInteger
  cases taken : takeDigits text with
  | mk front left =>
    match front with
    | [] => simp_all
    | [c] =>
      simp only [Option.some.injEq, Prod.mk.injEq]
      constructor
      · rintro ⟨rfl, rfl⟩
        exact ⟨⟨rfl, rfl⟩, by simp, by simp⟩
      · exact fun parts => parts.1
    | c :: d :: more =>
      by_cases zero : c = '0'
      · subst zero
        simp only [reduceCtorEq, false_iff, Prod.mk.injEq, not_and, ne_eq]
        rintro ⟨rfl, rfl⟩ - plain
        exact plain d more rfl
      · split
        · simp_all
        · simp_all
        · rename_i same
          obtain ⟨rfl, rfl⟩ := Prod.mk.inj same
          simp only [Option.some.injEq, Prod.mk.injEq]
          constructor
          · rintro ⟨rfl, rfl⟩
            refine ⟨⟨rfl, rfl⟩, by simp, ?_⟩
            intro e rest_ lead
            exact zero (List.cons.inj lead).1
          · exact fun parts => parts.1

/-- An integer part reads the same before anything but a digit. -/
private theorem readInteger_again {text digits rest tail : List Char}
    (ran : readInteger text = some (digits, rest)) (stop : ∀ c ∈ tail.head?, c.isDigit = false) :
    readInteger (digits ++ tail) = some (digits, tail) := by
  obtain ⟨taken, nonempty, plain⟩ := readInteger_some.mp ran
  exact readInteger_some.mpr
    ⟨takeDigits_append digits tail (takeDigits_of taken).1 stop, nonempty, plain⟩

private theorem readFraction_point (text : List Char) :
    readFraction ('.' :: text) =
      if (takeDigits text).1 = [] then none
      else some ('.' :: (takeDigits text).1, (takeDigits text).2) := by
  simp only [readFraction]
  cases takeDigits text with
  | mk front left => cases front <;> simp

private theorem readFraction_other {text : List Char} (other : ∀ c ∈ text.head?, c ≠ '.') :
    readFraction text = some ([], text) := by
  unfold readFraction
  split <;> simp_all

/-- A fraction reads the same before an exponent or the end. -/
private theorem readFraction_again {text fraction rest tail : List Char}
    (ran : readFraction text = some (fraction, rest))
    (stop : ∀ c ∈ tail.head?, c.isDigit = false ∧ c ≠ '.') :
    readFraction (fraction ++ tail) = some (fraction, tail) ∧
      ∀ c ∈ (fraction ++ tail).head?, c.isDigit = false := by
  by_cases point : ∃ more, text = '.' :: more
  · obtain ⟨more, rfl⟩ := point
    rw [readFraction_point] at ran
    split at ran
    · cases ran
    · rename_i some_
      obtain ⟨rfl, rfl⟩ := Prod.mk.inj (Option.some.inj ran)
      have taken := takeDigits_append _ tail (takeDigits_of (rfl : takeDigits more = _)).1
        fun c member => (stop c member).1
      refine ⟨?_, by simp⟩
      rw [List.cons_append, readFraction_point, taken, if_neg some_]
  · have other : ∀ c ∈ text.head?, c ≠ '.' := by
      rintro c member rfl
      cases text with
      | nil => simp at member
      | cons d more => exact point ⟨more, by simpa using member⟩
    rw [readFraction_other other] at ran
    obtain ⟨rfl, rfl⟩ := Prod.mk.inj (Option.some.inj ran)
    exact ⟨readFraction_other fun c member => (stop c member).2, fun c member => (stop c member).1⟩

/-- A sign reads the same before a digit. -/
private theorem readSign_again (text digits : List Char)
    (all : ∀ c ∈ digits, c.isDigit = true) :
    readSign ((readSign text).1 ++ digits) = ((readSign text).1, digits) := by
  have plain : readSign digits = ([], digits) := by
    unfold readSign
    split
    · exact absurd (all '+' List.mem_cons_self) (by decide)
    · exact absurd (all '-' List.mem_cons_self) (by decide)
    · rfl
  match text with
  | '+' :: _ => rfl
  | '-' :: _ => rfl
  | [] => exact plain
  | c :: more =>
    by_cases plus : c = '+'
    · subst plus; rfl
    · by_cases minus : c = '-'
      · subst minus; rfl
      · have none_ : (readSign (c :: more)).1 = [] := by
          unfold readSign
          split <;> simp_all
        rw [none_]
        exact plain

private theorem readExponent_mark {c : Char} (mark : c = 'e' ∨ c = 'E') (text : List Char) :
    readExponent (c :: text) =
      if (takeDigits (readSign text).2).1 = [] then none
      else some (c :: ((readSign text).1 ++ (takeDigits (readSign text).2).1),
        (takeDigits (readSign text).2).2) := by
  simp only [readExponent, mark, if_true]
  cases takeDigits (readSign text).2 with
  | mk front left => cases front <;> simp

/-- An exponent reads the same at the end. -/
private theorem readExponent_again {text exponent rest : List Char}
    (ran : readExponent text = some (exponent, rest)) :
    readExponent exponent = some (exponent, []) ∧
      ∀ c ∈ exponent.head?, c.isDigit = false ∧ c ≠ '.' := by
  cases text with
  | nil =>
    obtain ⟨rfl, rfl⟩ := Prod.mk.inj (Option.some.inj ran)
    exact ⟨rfl, by simp⟩
  | cons c more =>
    by_cases mark : c = 'e' ∨ c = 'E'
    · rw [readExponent_mark mark] at ran
      split at ran
      · cases ran
      · rename_i some_
        obtain ⟨rfl, rfl⟩ := Prod.mk.inj (Option.some.inj ran)
        have all := (takeDigits_of (rfl : takeDigits (readSign more).2 = _)).1
        have again : takeDigits (takeDigits (readSign more).2).1 =
            ((takeDigits (readSign more).2).1, []) := by
          simpa using takeDigits_append _ [] all (by simp)
        refine ⟨?_, ?_⟩
        · rw [readExponent_mark mark, readSign_again more _ all, again, if_neg some_]
        · intro d member
          obtain rfl : c = d := by simpa using member
          rcases mark with rfl | rfl <;> decide
    · simp only [readExponent, mark, if_false] at ran
      obtain ⟨rfl, rfl⟩ := Prod.mk.inj (Option.some.inj ran)
      exact ⟨rfl, by simp⟩

/-- A character of a number. -/
def Numeric (c : Char) : Prop :=
  c.isDigit = true ∨ c = '-' ∨ c = '+' ∨ c = '.' ∨ c = 'e' ∨ c = 'E'

private theorem readInteger_consumed {text digits rest : List Char}
    (ran : readInteger text = some (digits, rest)) :
    text = digits ++ rest ∧ ∀ c ∈ digits, Numeric c := by
  obtain ⟨taken, -⟩ := readInteger_some.mp ran
  have split := (takeDigits_spec text).1
  rw [taken] at split
  exact ⟨split, fun c member => .inl ((takeDigits_of taken).1 c member)⟩

private theorem readFraction_consumed {text fraction rest : List Char}
    (ran : readFraction text = some (fraction, rest)) :
    text = fraction ++ rest ∧ ∀ c ∈ fraction, Numeric c := by
  by_cases point : ∃ more, text = '.' :: more
  · obtain ⟨more, rfl⟩ := point
    rw [readFraction_point] at ran
    split at ran
    · cases ran
    · obtain ⟨rfl, rfl⟩ := Prod.mk.inj (Option.some.inj ran)
      obtain ⟨split, all, -⟩ := takeDigits_spec more
      refine ⟨by rw [List.cons_append, ← split], ?_⟩
      intro c member
      rcases List.mem_cons.mp member with rfl | digit
      · simp [Numeric]
      · exact .inl (all c digit)
  · have other : ∀ c ∈ text.head?, c ≠ '.' := by
      rintro c member rfl
      cases text with
      | nil => simp at member
      | cons d more => exact point ⟨more, by simpa using member⟩
    rw [readFraction_other other] at ran
    obtain ⟨rfl, rfl⟩ := Prod.mk.inj (Option.some.inj ran)
    exact ⟨rfl, by simp⟩

private theorem readSign_consumed (text : List Char) :
    text = (readSign text).1 ++ (readSign text).2 ∧ ∀ c ∈ (readSign text).1, Numeric c := by
  unfold readSign
  split <;> simp [Numeric]

private theorem readExponent_consumed {text exponent rest : List Char}
    (ran : readExponent text = some (exponent, rest)) :
    text = exponent ++ rest ∧ ∀ c ∈ exponent, Numeric c := by
  cases text with
  | nil =>
    obtain ⟨rfl, rfl⟩ := Prod.mk.inj (Option.some.inj ran)
    exact ⟨rfl, by simp⟩
  | cons c more =>
    by_cases mark : c = 'e' ∨ c = 'E'
    · rw [readExponent_mark mark] at ran
      split at ran
      · cases ran
      · obtain ⟨rfl, rfl⟩ := Prod.mk.inj (Option.some.inj ran)
        obtain ⟨signed, plain⟩ := readSign_consumed more
        obtain ⟨split, all, -⟩ := takeDigits_spec (readSign more).2
        refine ⟨by rw [List.cons_append, List.append_assoc, ← split, ← signed], ?_⟩
        intro d member
        rcases List.mem_cons.mp member with rfl | member
        · rcases mark with rfl | rfl <;> simp [Numeric]
        · rcases List.mem_append.mp member with sign | digit
          · exact plain d sign
          · exact .inl (all d digit)
    · simp only [readExponent, mark, if_false] at ran
      obtain ⟨rfl, rfl⟩ := Prod.mk.inj (Option.some.inj ran)
      exact ⟨rfl, by simp⟩

/-- The text of a number read after its sign reads as that number. -/
private theorem readUnsigned_again {negative : Bool} {text rest : List Char} {n : Number}
    (ran : readUnsigned negative text = some (n, rest)) :
    ∃ digits fraction exponent, n = classify negative digits fraction exponent ∧
      (∃ c more, digits = c :: more ∧ c.isDigit = true) ∧
      readUnsigned negative (digits ++ (fraction ++ exponent)) = some (n, []) ∧
      text = digits ++ (fraction ++ exponent) ++ rest ∧
      ∀ c ∈ digits ++ (fraction ++ exponent), Numeric c := by
  simp only [readUnsigned, Option.bind_eq_bind, Option.bind_eq_some_iff, Prod.exists] at ran
  obtain ⟨digits, left, integer, fraction, left', point, exponent, left'', power, same⟩ := ran
  obtain ⟨rfl, rfl⟩ := Prod.mk.inj (Option.some.inj same)
  obtain ⟨powerAgain, powerHead⟩ := readExponent_again power
  obtain ⟨pointAgain, pointHead⟩ := readFraction_again point powerHead
  have integerAgain := readInteger_again integer pointHead
  obtain ⟨rfl, integerPlain⟩ := readInteger_consumed integer
  obtain ⟨rfl, pointPlain⟩ := readFraction_consumed point
  obtain ⟨rfl, powerPlain⟩ := readExponent_consumed power
  refine ⟨digits, fraction, exponent, rfl, ?_, ?_, by simp, ?_⟩
  · obtain ⟨taken, nonempty, -⟩ := readInteger_some.mp integer
    cases digits with
    | nil => exact absurd rfl nonempty
    | cons c more => exact ⟨c, more, rfl, (takeDigits_of taken).1 c List.mem_cons_self⟩
  · simp [readUnsigned, integerAgain, pointAgain, powerAgain]
  · intro c member
    rcases List.mem_append.mp member with integer_ | member
    · exact integerPlain c integer_
    · rcases List.mem_append.mp member with point_ | power_
      · exact pointPlain c point_
      · exact powerPlain c power_

/-- A number is read of its own characters, whatever ends it. -/
theorem readNumber_consumed {text rest : List Char} {n : Number}
    (ran : readNumber text = some (n, rest)) :
    ∃ consumed, text = consumed ++ rest ∧ (∀ c ∈ consumed, Numeric c) ∧
      ∀ tail, NumberEnd tail → readNumber (consumed ++ tail) = some (n, tail) := by
  unfold readNumber at ran
  split at ran
  · rename_i more
    obtain ⟨digits, fraction, exponent, -, -, again, rfl, plain⟩ := readUnsigned_again ran
    refine ⟨'-' :: (digits ++ (fraction ++ exponent)), by simp, ?_, ?_⟩
    · intro c member
      rcases List.mem_cons.mp member with rfl | member
      · simp [Numeric]
      · exact plain c member
    · exact fun tail stop => readUnsigned_extend stop again
  · obtain ⟨digits, fraction, exponent, -, ⟨c, more, front, digit⟩, again, rfl, plain⟩ :=
      readUnsigned_again ran
    refine ⟨_, rfl, plain, ?_⟩
    intro tail stop
    have extended := readUnsigned_extend stop again
    rw [front, List.cons_append, List.cons_append] at extended ⊢
    rw [readNumber_digit digit]
    exact extended

theorem readNumber_valid {text rest : List Char} {n : Number}
    (ran : readNumber text = some (n, rest)) : n.Valid := by
  have unsigned : ∃ negative more, readUnsigned negative more = some (n, rest) := by
    unfold readNumber at ran
    split at ran
    · exact ⟨_, _, ran⟩
    · exact ⟨_, _, ran⟩
  obtain ⟨negative, more, ran⟩ := unsigned
  obtain ⟨digits, fraction, exponent, kind, ⟨c, tail, front, digit⟩, again, -, -⟩ :=
    readUnsigned_again ran
  by_cases natural : fraction = [] ∧ exponent = [] ∧ negative = false ∧
      Nat.ofDigitChars 10 digits 0 < 2 ^ 64
  · have small := natural.2.2.2
    simp only [classify, if_pos natural] at kind
    subst kind
    refine ⟨by omega, by omega⟩
  · by_cases below : fraction = [] ∧ exponent = [] ∧ negative = true ∧
        0 < Nat.ofDigitChars 10 digits 0 ∧ Nat.ofDigitChars 10 digits 0 ≤ 2 ^ 63
    · have bound := below.2.2.2
      simp only [classify, if_neg natural, if_pos below] at kind
      subst kind
      refine ⟨by omega, by omega⟩
    · simp only [classify, if_neg natural, if_neg below] at kind
      subst kind
      show readNumber _ = _
      rw [String.toList_ofList]
      cases negative with
      | true => simpa [readNumber] using again
      | false =>
        subst front
        simpa [readNumber_digit digit] using again

/-! ## Fields -/

private theorem insertField_keys (key : String) (value : Json) (fields : List (String × Json)) :
    ∀ probe ∈ (insertField key value fields).map Prod.fst,
      probe = key ∨ probe ∈ fields.map Prod.fst := by
  induction fields with
  | nil => simp [insertField]
  | cons field rest ih =>
    obtain ⟨k, v⟩ := field
    intro probe member
    by_cases same : key = k
    · simp only [insertField, same, if_true, List.map_cons, List.mem_cons] at member ⊢
      exact .inr member
    · by_cases before : key < k
      · simpa [insertField, same, before] using member
      · simp only [insertField, same, before, if_false, List.map_cons, List.mem_cons] at member ⊢
        rcases member with first | later
        · exact .inr (.inl first)
        · rcases ih probe later with new | old
          · exact .inl new
          · exact .inr (.inr old)

/-- A written field keeps the keys of a map strictly sorted. -/
theorem insertField_sorted (key : String) (value : Json) (fields : List (String × Json))
    (sorted : (fields.map Prod.fst).Pairwise (· < ·)) :
    ((insertField key value fields).map Prod.fst).Pairwise (· < ·) := by
  induction fields with
  | nil => simp [insertField]
  | cons field rest ih =>
    obtain ⟨k, v⟩ := field
    obtain ⟨first, later⟩ := List.pairwise_cons.mp sorted
    by_cases same : key = k
    · simpa [insertField, same] using sorted
    · by_cases before : key < k
      · simp only [insertField, same, before, if_true, if_false, List.map_cons, List.pairwise_cons]
        refine ⟨?_, first, later⟩
        intro probe member
        rcases List.mem_cons.mp member with rfl | member
        · exact before
        · exact String.lt_trans before (first probe member)
      · simp only [insertField, same, before, if_false, List.map_cons, List.pairwise_cons]
        refine ⟨?_, ih later⟩
        intro probe member
        rcases insertField_keys key value rest probe member with rfl | old
        · by_contra below
          exact same (String.le_antisymm (String.not_lt.mp below) (String.not_lt.mp before))
        · exact first probe old

theorem insertField_valid (key : String) (value : Json) (fields : List (String × Json))
    (good : value.Valid) (others : Valid.ValidFields fields) :
    Valid.ValidFields (insertField key value fields) := by
  induction fields with
  | nil => exact ⟨good, others⟩
  | cons field rest ih =>
    obtain ⟨k, v⟩ := field
    by_cases same : key = k
    · simp only [insertField, same, if_true]
      exact ⟨good, others.2⟩
    · by_cases before : key < k
      · simp only [insertField, same, before, if_true, if_false]
        exact ⟨good, others⟩
      · simp only [insertField, same, before, if_false]
        exact ⟨others.1, ih others.2⟩

theorem insertField_depth (key : String) (value : Json) (fields : List (String × Json))
    {bound : Nat} (shallow : value.depth ≤ bound) (others : depth.depthFields fields ≤ bound) :
    depth.depthFields (insertField key value fields) ≤ bound := by
  induction fields with
  | nil => simpa [insertField, depth.depthFields] using shallow
  | cons field rest ih =>
    obtain ⟨k, v⟩ := field
    simp only [depth.depthFields, max_le_iff] at others
    by_cases same : key = k
    · simpa [insertField, same, depth.depthFields] using ⟨shallow, others.2⟩
    · by_cases before : key < k
      · simpa [insertField, same, before, depth.depthFields] using ⟨shallow, others⟩
      · simpa [insertField, same, before, depth.depthFields] using ⟨others.1, ih others.2⟩

theorem lookup_valid {key : String} {value : Json} {fields : List (String × Json)}
    (good : Valid.ValidFields fields) (found : fields.lookup key = some value) : value.Valid := by
  induction fields with
  | nil => simp at found
  | cons field rest ih =>
    obtain ⟨k, v⟩ := field
    rw [List.lookup_cons] at found
    split at found
    · obtain rfl := Option.some.inj found
      exact good.1
    · exact ih good.2 found

theorem lookup_depth {key : String} {value : Json} {fields : List (String × Json)}
    (found : fields.lookup key = some value) : value.depth ≤ depth.depthFields fields := by
  induction fields with
  | nil => simp at found
  | cons field rest ih =>
    obtain ⟨k, v⟩ := field
    rw [List.lookup_cons] at found
    simp only [depth.depthFields]
    split at found
    · obtain rfl := Option.some.inj found
      omega
    · have deeper := ih found
      omega

theorem insert_valid {json value : Json} (key : String) (good : json.Valid) (new : value.Valid) :
    (json.insert key value).Valid := by
  cases json with
  | obj fields =>
    exact ⟨insertField_sorted key value fields good.1, insertField_valid key value fields new good.2⟩
  | _ => exact good

theorem insert_depth {json value : Json} (key : String) {bound : Nat} (low : json.depth ≤ bound)
    (shallow : value.depth + 1 ≤ bound) : (json.insert key value).depth ≤ bound := by
  cases json with
  | obj fields =>
    simp only [depth] at low
    have fits := @insertField_depth key value fields (bound - 1) (by omega) (by omega)
    simp only [insert_obj, depth]
    omega
  | _ => exact low

/-! ## One step of the reader -/

/-- What is read of a text that starts with no space, and what it leaves. -/
inductive ReadStep (fuel depth : Nat) : List Char → Json → List Char → Prop where
  | null (rest : List Char) : ReadStep fuel depth ('n' :: 'u' :: 'l' :: 'l' :: rest) .null rest
  | yes (rest : List Char) : ReadStep fuel depth ('t' :: 'r' :: 'u' :: 'e' :: rest) (.bool true) rest
  | no (rest : List Char) :
    ReadStep fuel depth ('f' :: 'a' :: 'l' :: 's' :: 'e' :: rest) (.bool false) rest
  | str {text s rest : List Char} (quoted : readString text = some (s, rest)) :
    ReadStep fuel depth ('"' :: text) (.str (String.ofList s)) rest
  | noItems {text rest : List Char} (room : ¬depth ≤ 1) (close : skipSpace text = ']' :: rest) :
    ReadStep fuel depth ('[' :: text) (.arr []) rest
  | items {text left rest : List Char} {item : Json} {others : List Json} (room : ¬depth ≤ 1)
    (first : read fuel (depth - 1) text = some (item, left))
    (more : readItems fuel (depth - 1) left = some (others, rest)) :
    ReadStep fuel depth ('[' :: text) (.arr (item :: others)) rest
  | noFields {text rest : List Char} (room : ¬depth ≤ 1) (close : skipSpace text = '}' :: rest) :
    ReadStep fuel depth ('{' :: text) (.obj []) rest
  | fields {text left later rest : List Char} {key : String} {value : Json}
    {others : List (String × Json)} (room : ¬depth ≤ 1) (keyed : readKey text = some (key, left))
    (first : read fuel (depth - 1) left = some (value, later))
    (more : readFields fuel (depth - 1) [(key, value)] later = some (others, rest)) :
    ReadStep fuel depth ('{' :: text) (.obj others) rest
  | num {text rest : List Char} {n : Number} (number : readNumber text = some (n, rest)) :
    ReadStep fuel depth text (.num n) rest

/-- The same for the items after the first one, from the comma or the bracket on. -/
inductive ItemsStep (fuel depth : Nat) : List Char → List Json → List Char → Prop where
  | close (rest : List Char) : ItemsStep fuel depth (']' :: rest) [] rest
  | item {text left rest : List Char} {item : Json} {others : List Json}
    (first : read fuel depth text = some (item, left))
    (more : readItems fuel depth left = some (others, rest)) :
    ItemsStep fuel depth (',' :: text) (item :: others) rest

/-- The same for the fields that are entered into a map. -/
inductive FieldsStep (fuel depth : Nat) (map : List (String × Json)) :
    List Char → List (String × Json) → List Char → Prop where
  | close (rest : List Char) : FieldsStep fuel depth map ('}' :: rest) map rest
  | field {text left later rest : List Char} {key : String} {value : Json}
    {map' : List (String × Json)} (keyed : readKey text = some (key, left))
    (first : read fuel depth left = some (value, later))
    (more : readFields fuel depth (insertField key value map) later = some (map', rest)) :
    FieldsStep fuel depth map (',' :: text) map' rest

section
variable {fuel depth : Nat} {text rest : List Char}

theorem read_step {json : Json} (ran : read (fuel + 1) depth text = some (json, rest)) :
    ReadStep fuel depth (skipSpace text) json rest := by
  rw [read] at ran
  generalize skipSpace text = shown at ran ⊢
  split at ran
  · cases ran
    exact .null rest
  · cases ran
    exact .yes rest
  · cases ran
    exact .no rest
  · obtain ⟨⟨s, left⟩, quoted, same⟩ := Option.map_eq_some_iff.mp ran
    cases same
    exact .str quoted
  · split at ran
    · cases ran
    · rename_i room
      split at ran
      · rename_i close
        cases ran
        exact .noItems room close
      · split at ran
        · rename_i first
          obtain ⟨⟨others, left⟩, more, same⟩ := Option.map_eq_some_iff.mp ran
          cases same
          exact .items room first more
        · cases ran
  · split at ran
    · cases ran
    · rename_i room
      split at ran
      · rename_i close
        cases ran
        exact .noFields room close
      · split at ran
        · rename_i keyed
          split at ran
          · rename_i first
            obtain ⟨⟨others, left⟩, more, same⟩ := Option.map_eq_some_iff.mp ran
            cases same
            exact .fields room keyed first more
          · cases ran
        · cases ran
  · obtain ⟨⟨n, left⟩, number, same⟩ := Option.map_eq_some_iff.mp ran
    cases same
    exact .num number

theorem readItems_step {items : List Json}
    (ran : readItems (fuel + 1) depth text = some (items, rest)) :
    ItemsStep fuel depth (skipSpace text) items rest := by
  rw [readItems] at ran
  generalize skipSpace text = shown at ran ⊢
  split at ran
  · cases ran
    exact .close rest
  · split at ran
    · rename_i first
      obtain ⟨⟨others, left⟩, more, same⟩ := Option.map_eq_some_iff.mp ran
      cases same
      exact .item first more
    · cases ran
  · cases ran

theorem readFields_step {map fields : List (String × Json)}
    (ran : readFields (fuel + 1) depth map text = some (fields, rest)) :
    FieldsStep fuel depth map (skipSpace text) fields rest := by
  rw [readFields] at ran
  generalize skipSpace text = shown at ran ⊢
  split at ran
  · cases ran
    exact .close rest
  · split at ran
    · rename_i keyed
      split at ran
      · rename_i first
        exact .field keyed first ran
      · cases ran
    · cases ran
  · cases ran

/-- A text that starts with a brace reads as an object or not at all. -/
theorem read_brace {json : Json} (ran : read fuel depth ('{' :: text) = some (json, rest)) :
    ∃ fields, json = .obj fields := by
  cases fuel with
  | zero => cases ran
  | succ fuel =>
    have step := read_step ran
    rw [skipSpace_cons '{' text (by decide)] at step
    cases step with
    | noFields => exact ⟨[], rfl⟩
    | fields => exact ⟨_, rfl⟩
    | num number => exact absurd number (readNumber_other (by decide))

/-- What is read of a text as a whole: one value, and only space is left. -/
theorem fromChars_some {json : Json} (ran : fromChars text = some json) :
    ∃ rest, read (text.length + 1) recursionLimit text = some (json, rest) ∧ skipSpace rest = [] := by
  rw [fromChars] at ran
  split at ran
  · rename_i value rest first
    split at ran
    · rename_i none_
      obtain rfl := Option.some.inj ran
      exact ⟨rest, first, none_⟩
    · cases ran
  · cases ran

theorem fromChars_brace {json : Json} (ran : fromChars ('{' :: text) = some json) :
    ∃ fields, json = .obj fields := by
  obtain ⟨rest, first, -⟩ := fromChars_some ran
  exact read_brace first

end

/-! ## Values -/

/-- Whatever is read with this fuel can be written and read again. -/
private structure ReadsSound (fuel : Nat) : Prop where
  values : ∀ {depth_ text json rest}, 0 < depth_ → read fuel depth_ text = some (json, rest) →
    json.Valid ∧ json.depth < depth_
  items : ∀ {depth_ text items rest}, 0 < depth_ → readItems fuel depth_ text = some (items, rest) →
    Valid.ValidItems items ∧ depth.depthItems items < depth_
  fields : ∀ {depth_ fields text fields' rest}, 0 < depth_ →
    KeysSorted (fields.map Prod.fst) → Valid.ValidFields fields →
      depth.depthFields fields < depth_ → readFields fuel depth_ fields text = some (fields', rest) →
        KeysSorted (fields'.map Prod.fst) ∧ Valid.ValidFields fields' ∧
          depth.depthFields fields' < depth_

section
variable {fuel depth_ : Nat} {text rest : List Char}

private theorem readStep_sound (sound : ReadsSound fuel) {json : Json} (positive : 0 < depth_)
    (step : ReadStep fuel depth_ text json rest) : json.Valid ∧ json.depth < depth_ := by
  cases step with
  | null | yes | no | str => exact ⟨trivial, positive⟩
  | num number => exact ⟨readNumber_valid number, positive⟩
  | noItems room =>
    refine ⟨trivial, ?_⟩
    simp only [depth, depth.depthItems]
    omega
  | items room first more =>
    obtain ⟨good, low⟩ := sound.values (by omega) first
    obtain ⟨goods, lows⟩ := sound.items (by omega) more
    refine ⟨⟨good, goods⟩, ?_⟩
    simp only [depth, depth.depthItems]
    omega
  | noFields room =>
    refine ⟨⟨List.Pairwise.nil, trivial⟩, ?_⟩
    simp only [depth, depth.depthFields]
    omega
  | @fields _ _ _ _ key value _ room keyed first more =>
    obtain ⟨good, low⟩ := sound.values (by omega) first
    have one : KeysSorted ([(key, value)].map Prod.fst) := List.pairwise_singleton _ _
    have goodOne : Valid.ValidFields [(key, value)] := ⟨good, trivial⟩
    have lowOne : depth.depthFields [(key, value)] < depth_ - 1 := by
      simpa [depth.depthFields] using low
    obtain ⟨sorted, goods, lows⟩ := sound.fields (by omega) one goodOne lowOne more
    refine ⟨⟨sorted, goods⟩, ?_⟩
    simp only [depth]
    omega

private theorem itemsStep_sound (sound : ReadsSound fuel) {items : List Json} (positive : 0 < depth_)
    (step : ItemsStep fuel depth_ text items rest) :
    Valid.ValidItems items ∧ depth.depthItems items < depth_ := by
  cases step with
  | close => exact ⟨trivial, positive⟩
  | item first more =>
    obtain ⟨good, low⟩ := sound.values positive first
    obtain ⟨goods, lows⟩ := sound.items positive more
    refine ⟨⟨good, goods⟩, ?_⟩
    simp only [depth.depthItems]
    omega

private theorem fieldsStep_sound (sound : ReadsSound fuel) {map map' : List (String × Json)}
    (positive : 0 < depth_) (sorted : KeysSorted (map.map Prod.fst)) (goods : Valid.ValidFields map)
    (low : depth.depthFields map < depth_) (step : FieldsStep fuel depth_ map text map' rest) :
    KeysSorted (map'.map Prod.fst) ∧ Valid.ValidFields map' ∧ depth.depthFields map' < depth_ := by
  cases step with
  | close => exact ⟨sorted, goods, low⟩
  | @field _ _ _ _ key value _ keyed first more =>
    obtain ⟨good, shallow⟩ := sound.values positive first
    have bound := insertField_depth key value map
      (Nat.le_sub_one_of_lt shallow) (Nat.le_sub_one_of_lt low)
    exact sound.fields positive (insertField_sorted key value map sorted)
      (insertField_valid key value map good goods) (by omega) more

end

private theorem reads_sound (fuel : Nat) : ReadsSound fuel := by
  induction fuel with
  | zero => constructor <;> simp [read, readItems, readFields]
  | succ fuel ih =>
    constructor
    · intro depth_ text json rest positive ran
      exact readStep_sound ih positive (read_step ran)
    · intro depth_ text items rest positive ran
      exact itemsStep_sound ih positive (readItems_step ran)
    · intro depth_ map text map' rest positive sorted goods low ran
      exact fieldsStep_sound ih positive sorted goods low (readFields_step ran)

/-- Every value that was read can be written and read again. -/
theorem fromText_valid {text : String} {json : Json} (ran : fromText text = some json) :
    json.Valid ∧ json.depth < recursionLimit := by
  obtain ⟨rest, first, -⟩ := fromChars_some ran
  exact (reads_sound _).values (by decide) first

theorem fromText_toText_read {text : String} {json : Json} (ran : fromText text = some json) :
    fromText json.toText = some json :=
  fromText_toText json (fromText_valid ran).1 (fromText_valid ran).2

/-! ## One line -/

/-- A character that is no control character. -/
def Printable (c : Char) : Prop := 32 ≤ c.toNat

instance (c : Char) : Decidable (Printable c) := inferInstanceAs (Decidable (32 ≤ c.toNat))

private theorem printable_of_all {chars : List Char} (all : chars.all (Printable ·) = true) :
    ∀ c ∈ chars, Printable c := by
  simpa using all

private theorem escapeChar_printable (c : Char) : ∀ d ∈ escapeChar c, Printable d := by
  have form := escapeChar_form c
  generalize escapeChar c = written at form ⊢
  cases form with
  | letter short other plain =>
    simp only [List.forall_mem_cons]
    exact ⟨by decide, plain, List.forall_mem_nil _⟩
  | code control =>
    have digit : ∀ n < 32, 32 ≤ (hexDigit (n / 16)).toNat ∧ 32 ≤ (hexDigit (n % 16)).toNat := by decide
    obtain ⟨high, low⟩ := digit c.toNat control
    simp only [List.forall_mem_cons]
    exact ⟨by decide, by decide, by decide, by decide, high, low, List.forall_mem_nil _⟩
  | itself quote slash plain =>
    intro d member
    rw [List.mem_singleton.mp member]
    exact Nat.le_of_not_lt plain

theorem writeString_printable (text : String) : ∀ c ∈ writeString text, Printable c := by
  intro c member
  simp only [writeString, List.mem_cons, List.mem_append, List.mem_flatMap, List.not_mem_nil,
    or_false] at member
  rcases member with rfl | ⟨d, -, escaped⟩ | rfl
  · decide
  · exact escapeChar_printable d c escaped
  · decide

private theorem writeNumber_printable {n : Number} (valid : n.Valid) :
    ∀ c ∈ writeNumber n, Printable c := by
  have again := readNumber_writeNumber n valid [] (by simp [NumberEnd])
  obtain ⟨consumed, same, plain, -⟩ := readNumber_consumed again
  rw [List.append_nil, List.append_nil] at same
  rw [same]
  intro c member
  rcases plain c member with digit | rfl | rfl | rfl | rfl | rfl
  · have above : 48 ≤ c.toNat := by simpa using (Char.isDigit_iff_toNat.mp digit).1
    exact Nat.le_trans (by decide) above
  all_goals decide

mutual

/-- The text of a value has no control character. -/
theorem write_printable (json : Json) (writable : json.Writable) : ∀ c ∈ write json, Printable c := by
  match json with
  | .null => exact printable_of_all (by decide)
  | .bool true => exact printable_of_all (by decide)
  | .bool false => exact printable_of_all (by decide)
  | .num n => exact writeNumber_printable writable
  | .str s => exact writeString_printable s
  | .arr [] => exact printable_of_all (by decide)
  | .arr (item :: items) =>
    have first := write_printable item writable.1
    have others := writeItems_printable items writable.2
    rw [write, List.forall_mem_cons, List.forall_mem_append]
    exact ⟨by decide, first, others⟩
  | .obj [] => exact printable_of_all (by decide)
  | .obj ((key, value) :: fields) =>
    have name := writeString_printable key
    have first := write_printable value writable.1
    have others := writeFields_printable fields writable.2
    rw [write, List.forall_mem_cons, List.forall_mem_append, List.forall_mem_cons,
      List.forall_mem_append]
    exact ⟨by decide, name, by decide, first, others⟩

private theorem writeItems_printable (items : List Json) (writable : Writable.WritableItems items) :
    ∀ c ∈ writeItems items, Printable c := by
  match items with
  | [] => exact printable_of_all (by decide)
  | item :: items =>
    have first := write_printable item writable.1
    have others := writeItems_printable items writable.2
    rw [writeItems, List.forall_mem_cons, List.forall_mem_append]
    exact ⟨by decide, first, others⟩

private theorem writeFields_printable (fields : List (String × Json))
    (writable : Writable.WritableFields fields) : ∀ c ∈ writeFields fields, Printable c := by
  match fields with
  | [] => exact printable_of_all (by decide)
  | (key, value) :: fields =>
    have name := writeString_printable key
    have first := write_printable value writable.1
    have others := writeFields_printable fields writable.2
    rw [writeFields, List.forall_mem_cons, List.forall_mem_append, List.forall_mem_cons,
      List.forall_mem_append]
    exact ⟨by decide, name, by decide, first, others⟩

end

private theorem newline_notMem {text : List Char} (printable : ∀ c ∈ text, Printable c) :
    '\n' ∉ text := by
  intro member
  have control := printable '\n' member
  revert control
  decide

theorem newline_notMem_writeString (text : String) : '\n' ∉ writeString text :=
  newline_notMem (writeString_printable text)

/-- A value is written on one line. -/
theorem newline_notMem_write (json : Json) (valid : json.Valid) : '\n' ∉ write json :=
  newline_notMem (write_printable json (writable_of_valid valid))

end MtrxPeer.Json
