import Mathlib.Tactic.Common
import Mathlib.Tactic.IntervalCases
import MtrxPeer.JsonText
import Std.Data.String.ToInt

/-! Reading back what was written. A value the writer can be given (`Valid`:
numbers in range, strictly sorted object keys) and that is not nested past the
recursion limit is read back exactly, so distinct values have distinct texts. -/
namespace MtrxPeer.Json

/-- What follows a number in a text: nothing that could continue it. -/
def NumberEnd (rest : List Char) : Prop :=
  ∀ c ∈ rest.head?, c.isDigit = false ∧ c ≠ '.' ∧ c ≠ 'e' ∧ c ≠ 'E'

end Json

/-- A number the reader can produce. -/
def Number.Valid : Number → Prop
  | .int value => -2 ^ 63 ≤ value ∧ value < 2 ^ 64
  | .float text => Json.readNumber text.toList = some (.float text, [])

namespace Json

/-- A value the reader can produce: every number is one, and the keys of every
object are strictly sorted. -/
def Valid : Json → Prop
  | .num n => n.Valid
  | .arr items => ValidItems items
  | .obj fields => (fields.map Prod.fst).Pairwise (· < ·) ∧ ValidFields fields
  | _ => True
where
  ValidItems : List Json → Prop
    | [] => True
    | item :: rest => Valid item ∧ ValidItems rest
  ValidFields : List (String × Json) → Prop
    | [] => True
    | (_, value) :: rest => Valid value ∧ ValidFields rest

/-- A value whose numbers the reader can produce; the keys of its objects may be in any order. -/
def Writable : Json → Prop
  | .num n => n.Valid
  | .arr items => WritableItems items
  | .obj fields => WritableFields fields
  | _ => True
where
  WritableItems : List Json → Prop
    | [] => True
    | item :: rest => Writable item ∧ WritableItems rest
  WritableFields : List (String × Json) → Prop
    | [] => True
    | (_, value) :: rest => Writable value ∧ WritableFields rest

/-- Fields entered into a map, one after another. -/
def enterFields (done fields : List (String × Json)) : List (String × Json) :=
  fields.foldl (fun map field => insertField field.1 field.2 map) done

/-- What the reader makes of a written value: the keys of every object sorted. -/
def normal : Json → Json
  | .arr items => .arr (normalItems items)
  | .obj fields => .obj (enterFields [] (normalFields fields))
  | json => json
where
  normalItems : List Json → List Json
    | [] => []
    | item :: rest => normal item :: normalItems rest
  normalFields : List (String × Json) → List (String × Json)
    | [] => []
    | (key, value) :: rest => (key, normal value) :: normalFields rest

/-! ## Space and digits -/

theorem skipSpace_cons (c : Char) (rest : List Char)
    (solid : ¬ (c = ' ' ∨ c = '\n' ∨ c = '\t' ∨ c = '\r')) :
    skipSpace (c :: rest) = c :: rest := by
  simp [skipSpace, solid]

theorem takeDigits_append (digits rest : List Char)
    (all : ∀ c ∈ digits, c.isDigit = true) (stop : ∀ c ∈ rest.head?, c.isDigit = false) :
    takeDigits (digits ++ rest) = (digits, rest) := by
  induction digits with
  | nil =>
    cases rest with
    | nil => rfl
    | cons c tail => simp [takeDigits, stop c (by simp)]
  | cons c digits ih =>
    simp [takeDigits, all c (by simp), ih (fun d member => all d (by simp [member]))]

theorem takeDigits_spec (text : List Char) :
    text = (takeDigits text).1 ++ (takeDigits text).2 ∧
      (∀ c ∈ (takeDigits text).1, c.isDigit = true) ∧
      ∀ c ∈ (takeDigits text).2.head?, c.isDigit = false := by
  induction text with
  | nil => simp [takeDigits]
  | cons c rest ih =>
    obtain ⟨split, digits, stop⟩ := ih
    by_cases digit : c.isDigit = true
    · simp only [takeDigits, digit, ↓reduceIte, List.cons_append]
      refine ⟨congrArg (c :: ·) split, ?_, stop⟩
      intro d member
      rcases List.mem_cons.mp member with rfl | member
      · exact digit
      · exact digits d member
    · simp [takeDigits, digit]

/-- Reading digits is insensitive to a tail that does not start with one. -/
private theorem takeDigits_extend (text : List Char) {tail : List Char}
    (stop : ∀ c ∈ tail.head?, c.isDigit = false) :
    takeDigits (text ++ tail) = ((takeDigits text).1, (takeDigits text).2 ++ tail) := by
  obtain ⟨split, digits, ends⟩ := takeDigits_spec text
  conv_lhs => rw [split, List.append_assoc]
  refine takeDigits_append _ _ digits ?_
  intro c member
  cases rest : (takeDigits text).2 with
  | nil => exact stop c (by simpa [rest] using member)
  | cons d more =>
    rw [rest] at ends member
    exact ends c (by simpa using member)

/-! ## Numbers -/

private theorem readInteger_extend {text digits rest tail : List Char} (stop : NumberEnd tail)
    (ran : readInteger text = some (digits, rest)) :
    readInteger (text ++ tail) = some (digits, rest ++ tail) := by
  have extended := takeDigits_extend text (fun c member => (stop c member).1)
  unfold readInteger at ran ⊢
  rw [extended]
  cases split : takeDigits text with
  | mk taken left =>
    rw [split] at ran
    match taken, ran with
    | [c], ran =>
      obtain ⟨rfl, rfl⟩ : [c] = digits ∧ left = rest := by split at ran <;> simp_all
      split <;> simp_all
    | c :: d :: more, ran =>
      by_cases zero : c = '0'
      · subst zero
        simp at ran
      · split at ran <;> simp_all

private theorem readFraction_extend {text fraction rest tail : List Char} (stop : NumberEnd tail)
    (ran : readFraction text = some (fraction, rest)) :
    readFraction (text ++ tail) = some (fraction, rest ++ tail) := by
  cases text with
  | nil =>
    obtain ⟨rfl, rfl⟩ : [] = fraction ∧ [] = rest := by simpa [readFraction] using ran
    cases tail with
    | nil => rfl
    | cons c more =>
      have notPoint : c ≠ '.' := (stop c (by simp)).2.1
      unfold readFraction
      split <;> simp_all
  | cons c more =>
    by_cases point : c = '.'
    · subst point
      have extended := takeDigits_extend more (fun c member => (stop c member).1)
      simp only [readFraction, List.cons_append, extended] at ran ⊢
      cases split : takeDigits more with
      | mk taken left =>
        rw [split] at ran
        cases taken with
        | nil => simp at ran
        | cons d digits =>
          obtain ⟨rfl, rfl⟩ : '.' :: d :: digits = fraction ∧ left = rest := by simpa using ran
          rfl
    · obtain ⟨rfl, rfl⟩ : [] = fraction ∧ c :: more = rest := by
        unfold readFraction at ran
        split at ran <;> simp_all
      unfold readFraction
      split <;> simp_all

private theorem readExponent_extend {text exponent rest tail : List Char} (stop : NumberEnd tail)
    (ran : readExponent text = some (exponent, rest)) :
    readExponent (text ++ tail) = some (exponent, rest ++ tail) := by
  cases text with
  | nil =>
    obtain ⟨rfl, rfl⟩ : [] = exponent ∧ [] = rest := by simpa [readExponent] using ran
    cases tail with
    | nil => rfl
    | cons c more =>
      have ends := stop c (by simp)
      simp [readExponent, ends.2.2.1, ends.2.2.2]
  | cons c more =>
    by_cases mark : c = 'e' ∨ c = 'E'
    · have signed : ∀ tail, (readSign more).2 ≠ [] →
          readSign (more ++ tail) = ((readSign more).1, (readSign more).2 ++ tail) := by
        intro tail nonempty
        cases more with
        | nil => simp [readSign] at nonempty
        | cons d more => unfold readSign; split <;> simp_all
      have extended := takeDigits_extend (readSign more).2
        (fun c member => (stop c member).1)
      have nonempty : (readSign more).2 ≠ [] := by
        intro empty
        simp [readExponent, mark, empty, takeDigits] at ran
      simp only [readExponent, List.cons_append, mark, ↓reduceIte, signed tail nonempty,
        extended] at ran ⊢
      cases split : takeDigits (readSign more).2 with
      | mk taken left =>
        rw [split] at ran
        cases taken with
        | nil => simp at ran
        | cons d digits =>
          obtain ⟨rfl, rfl⟩ : c :: ((readSign more).1 ++ d :: digits) = exponent ∧ left = rest := by
            simpa using ran
          rfl
    · obtain ⟨rfl, rfl⟩ : [] = exponent ∧ c :: more = rest := by
        simpa [readExponent, mark] using ran
      simp [readExponent, mark]

/-- A number reads the same in front of a tail that ends it. -/
theorem readUnsigned_extend {negative : Bool} {text rest tail : List Char} {n : Number}
    (stop : NumberEnd tail) (ran : readUnsigned negative text = some (n, rest)) :
    readUnsigned negative (text ++ tail) = some (n, rest ++ tail) := by
  simp only [readUnsigned, Option.bind_eq_bind, Option.bind_eq_some_iff, Prod.exists] at ran ⊢
  obtain ⟨digits, left, integer, fraction, left', point, exponent, left'', power, same⟩ := ran
  refine ⟨digits, left ++ tail, readInteger_extend stop integer, fraction, left' ++ tail,
    readFraction_extend stop point, exponent, left'' ++ tail, readExponent_extend stop power, ?_⟩
  simp_all

private theorem toDigits_head (n : Nat) (positive : 0 < n) (tail : List Char) :
    Nat.toDigits 10 n ≠ '0' :: tail := by
  induction n using Nat.strongRecOn generalizing tail with
  | ind n ih =>
    by_cases small : n < 10
    · rw [Nat.toDigits_of_lt_base small]
      interval_cases n <;> simp [Nat.digitChar]
    · rw [Nat.toDigits_of_base_le (by decide) (by omega)]
      have shorter := ih (n / 10) (by omega) (by omega)
      cases front : Nat.toDigits 10 (n / 10) with
      | nil => exact absurd front Nat.toDigits_ne_nil
      | cons c more =>
        intro same
        simp only [List.cons_append, List.cons.injEq] at same
        exact shorter more (by rw [front, same.1])

/-- The decimal digits of a natural number are an integer literal. -/
private theorem readUnsigned_toDigits (negative : Bool) (n : Nat) (rest : List Char)
    (stop : NumberEnd rest) :
    readUnsigned negative (Nat.toDigits 10 n ++ rest) =
      some (classify negative (Nat.toDigits 10 n) [] [], rest) := by
  have digits : takeDigits (Nat.toDigits 10 n ++ rest) = (Nat.toDigits 10 n, rest) :=
    takeDigits_append _ _ (fun c member => Nat.isDigit_of_mem_toDigits (by decide) (by decide) member)
      (fun c member => (stop c member).1)
  have integer : readInteger (Nat.toDigits 10 n ++ rest) = some (Nat.toDigits 10 n, rest) := by
    simp only [readInteger, digits]
    cases front : Nat.toDigits 10 n with
    | nil => exact absurd front Nat.toDigits_ne_nil
    | cons c more =>
      cases more with
      | nil => split <;> simp_all
      | cons d more =>
        have nonzero : c ≠ '0' := by
          rintro rfl
          rcases Nat.eq_zero_or_pos n with rfl | positive
          · simp [Nat.toDigits_zero] at front
          · exact toDigits_head n positive _ front
        split <;> simp_all
  have fraction : readFraction rest = some ([], rest) := by
    cases rest with
    | nil => rfl
    | cons c tail =>
      have notPoint : c ≠ '.' := (stop c (by simp)).2.1
      unfold readFraction
      split <;> simp_all
  have exponent : readExponent rest = some ([], rest) := by
    cases rest with
    | nil => rfl
    | cons c tail =>
      have ends := stop c (by simp)
      simp [readExponent, ends.2.2.1, ends.2.2.2]
  simp [readUnsigned, integer, fraction, exponent]

theorem readNumber_head {text rest : List Char} {n : Number}
    (ran : readNumber text = some (n, rest)) :
    ∃ c tail, text = c :: tail ∧ (c = '-' ∨ c.isDigit = true) := by
  cases text with
  | nil => simp [readNumber, readUnsigned, readInteger, takeDigits] at ran
  | cons c tail =>
    refine ⟨c, tail, rfl, ?_⟩
    by_cases minus : c = '-'
    · exact .inl minus
    · right
      by_contra digit
      unfold readNumber at ran
      split at ran
      · simp_all
      · simp [readUnsigned, readInteger, takeDigits, digit] at ran

/-- Any other character begins no number. -/
theorem readNumber_other {c : Char} (other : ¬(c = '-' ∨ c.isDigit = true)) {text rest : List Char} {n : Number} :
    readNumber (c :: text) ≠ some (n, rest) := by
  intro ran
  obtain ⟨d, tail, same, start⟩ := readNumber_head ran
  obtain ⟨rfl, -⟩ := List.cons.inj same
  exact other start

theorem readNumber_digit {c : Char} (digit : c.isDigit = true) (tail : List Char) :
    readNumber (c :: tail) = readUnsigned false (c :: tail) := by
  unfold readNumber
  split
  · rename_i same
    obtain ⟨rfl, -⟩ := List.cons.inj same
    simp [Char.isDigit] at digit
  · rfl

private theorem readNumber_toDigits (n : Nat) (rest : List Char) (stop : NumberEnd rest) :
    readNumber (Nat.toDigits 10 n ++ rest) =
      some (classify false (Nat.toDigits 10 n) [] [], rest) := by
  have read := readUnsigned_toDigits false n rest stop
  cases front : Nat.toDigits 10 n with
  | nil => exact absurd front Nat.toDigits_ne_nil
  | cons c more =>
    have digit : c.isDigit = true :=
      Nat.isDigit_of_mem_toDigits (b := 10) (n := n) (by decide) (by decide) (by simp [front])
    rw [front] at read
    rw [List.cons_append, readNumber_digit digit]
    simpa using read

/-- A written number is read back, whatever ends it. -/
theorem readNumber_writeNumber (n : Number) (valid : n.Valid) (rest : List Char)
    (stop : NumberEnd rest) : readNumber (writeNumber n ++ rest) = some (n, rest) := by
  cases n with
  | int value =>
    obtain ⟨low, high⟩ := valid
    cases value with
    | ofNat m =>
      have text : writeNumber (.int (Int.ofNat m)) = Nat.toDigits 10 m := Nat.toList_repr
      rw [text, readNumber_toDigits m rest stop]
      have fits : (m : Int) < 2 ^ 64 := high
      simp only [classify, Nat.ofDigitChars_ten_toDigits]
      rw [if_pos ⟨trivial, trivial, trivial, by omega⟩]
      rfl
    | negSucc m =>
      have text : writeNumber (.int (Int.negSucc m)) = '-' :: Nat.toDigits 10 (m + 1) := by
        simp [writeNumber, Int.repr, Nat.toList_repr]
      rw [text, List.cons_append, readNumber, readUnsigned_toDigits true (m + 1) rest stop]
      have fits : m + 1 ≤ 2 ^ 63 := by omega
      simp only [classify, Nat.ofDigitChars_ten_toDigits]
      rw [if_neg (by simp), if_pos ⟨trivial, trivial, trivial, by omega, fits⟩]
      rfl
  | float text =>
    obtain ⟨c, tail, front, start⟩ := readNumber_head valid
    have parsed : readNumber (c :: tail) = some (.float text, []) := by rw [← front]; exact valid
    rw [writeNumber, front, List.cons_append]
    rcases start with rfl | digit
    · exact readUnsigned_extend stop parsed
    · rw [readNumber_digit digit] at parsed ⊢
      exact readUnsigned_extend stop parsed

/-! ## Strings -/

private theorem hex4_control (n : Nat) (control : n < 32) :
    hex4 '0' '0' (hexDigit (n / 16)) (hexDigit (n % 16)) = some n := by
  revert n
  decide

/-- How a character is written in a string: by a letter, by its code, or as itself. -/
inductive EscapeForm (c : Char) : List Char → Prop where
  | letter {e : Char} (short : shortEscape e = some c) (other : e ≠ 'u') (plain : 32 ≤ e.toNat)
    (narrow : e.utf8Size = 1) : EscapeForm c ['\\', e]
  | code (control : c.toNat < 32) :
    EscapeForm c ['\\', 'u', '0', '0', hexDigit (c.toNat / 16), hexDigit (c.toNat % 16)]
  | itself (quote : c ≠ '"') (slash : c ≠ '\\') (plain : ¬c.toNat < 32) : EscapeForm c [c]

theorem escapeChar_form (c : Char) : EscapeForm c (escapeChar c) := by
  unfold escapeChar
  split_ifs with quote slash newline return_ tab back feed control
  · subst quote
    exact .letter rfl (by decide) (by decide) (by decide)
  · subst slash
    exact .letter rfl (by decide) (by decide) (by decide)
  · subst newline
    exact .letter rfl (by decide) (by decide) (by decide)
  · subst return_
    exact .letter rfl (by decide) (by decide) (by decide)
  · subst tab
    exact .letter rfl (by decide) (by decide) (by decide)
  · have same : c = Char.ofNat 8 := by rw [← back, Char.ofNat_toNat]
    exact .letter (same ▸ rfl) (by decide) (by decide) (by decide)
  · have same : c = Char.ofNat 12 := by rw [← feed, Char.ofNat_toNat]
    exact .letter (same ▸ rfl) (by decide) (by decide) (by decide)
  · exact .code control
  · exact .itself quote slash control

private theorem readString_escape (c : Char) (tail : List Char) :
    readString (escapeChar c ++ tail) = pushChar c (readString tail) := by
  have form := escapeChar_form c
  generalize escapeChar c = written at form ⊢
  cases form with
  | letter short other => simp [readString, short, other]
  | code control =>
    simp only [List.cons_append, List.nil_append, readString, hex4_control c.toNat control]
    rw [if_neg (by omega), if_neg (by omega), Char.ofNat_toNat]
  | itself quote slash plain => simp [readString, slash, plain]

private theorem readString_flatMap (text rest : List Char) :
    readString (text.flatMap escapeChar ++ '"' :: rest) = some (text, rest) := by
  induction text with
  | nil => rfl
  | cons c text ih =>
    rw [List.flatMap_cons, List.append_assoc, readString_escape, ih]
    rfl

private theorem readKey_writeString (key : String) (rest : List Char) :
    readKey (writeString key ++ ':' :: rest) = some (key, rest) := by
  have quoted : readString (key.toList.flatMap escapeChar ++ '"' :: ':' :: rest) =
      some (key.toList, ':' :: rest) := readString_flatMap _ _
  simp [readKey, writeString, skipSpace, quoted]

/-! ## Values -/

/-- A field that sorts after all others is appended. -/
private theorem insertField_last {key : String} {fields : List (String × Json)}
    (after : ∀ k ∈ fields.map Prod.fst, k < key) (value : Json) :
    insertField key value fields = fields ++ [(key, value)] := by
  induction fields with
  | nil => rfl
  | cons field rest ih =>
    obtain ⟨k, v⟩ := field
    have before : k < key := after k (by simp)
    have differs : key ≠ k := by
      rintro rfl
      exact String.lt_irrefl _ before
    simp only [insertField, differs, ↓reduceIte, String.lt_asymm before, List.cons_append]
    rw [ih fun other member => after other (by simp only [List.map_cons, List.mem_cons, member, or_true])]

/-- Sorted fields stay in their order. -/
private theorem enterFields_sorted (done fields : List (String × Json))
    (sorted : ((done ++ fields).map Prod.fst).Pairwise (· < ·)) :
    enterFields done fields = done ++ fields := by
  induction fields generalizing done with
  | nil => exact (List.append_nil done).symm
  | cons field rest ih =>
    obtain ⟨key, value⟩ := field
    have after : ∀ k ∈ done.map Prod.fst, k < key := by
      intro k member
      rw [List.map_append, List.pairwise_append] at sorted
      exact sorted.2.2 k member key (by simp)
    rw [enterFields, List.foldl_cons, insertField_last after]
    have others := ih (done ++ [(key, value)]) (by simpa using sorted)
    rw [enterFields] at others
    rw [others, List.append_assoc, List.singleton_append]

/-- A character that can start a written value. -/
private def Starts (c : Char) : Prop :=
  ¬ (c = ' ' ∨ c = '\n' ∨ c = '\t' ∨ c = '\r') ∧ c ≠ ']' ∧ c ≠ '}'

private theorem writeNumber_head (n : Number) (valid : n.Valid) :
    ∃ c tail, writeNumber n = c :: tail ∧ (c = '-' ∨ c.isDigit = true) := by
  have ran := readNumber_writeNumber n valid [] (by simp [NumberEnd])
  rw [List.append_nil] at ran
  exact readNumber_head ran

private theorem numberStart_starts {c : Char} (start : c = '-' ∨ c.isDigit = true) : Starts c := by
  rcases start with rfl | digit
  · simp [Starts]
  · refine ⟨?_, ?_, ?_⟩
    · rintro (rfl | rfl | rfl | rfl) <;> simp [Char.isDigit] at digit
    · rintro rfl
      simp [Char.isDigit] at digit
    · rintro rfl
      simp [Char.isDigit] at digit

private theorem write_head (json : Json) (writable : json.Writable) :
    ∃ c tail, write json = c :: tail ∧ Starts c := by
  cases json with
  | null => exact ⟨_, _, rfl, by simp [Starts]⟩
  | bool b => cases b <;> exact ⟨_, _, rfl, by simp [Starts]⟩
  | num n =>
    obtain ⟨c, tail, front, start⟩ := writeNumber_head n (by simpa [Writable] using writable)
    exact ⟨c, tail, front, numberStart_starts start⟩
  | str s => exact ⟨_, _, rfl, by simp [Starts]⟩
  | arr items => cases items <;> exact ⟨_, _, rfl, by simp [Starts]⟩
  | obj fields => cases fields <;> exact ⟨_, _, rfl, by simp [Starts]⟩

theorem read_number {c : Char} {tail rest : List Char} {n : Number} (fuel depth : Nat)
    (start : c = '-' ∨ c.isDigit = true) (ran : readNumber (c :: tail) = some (n, rest)) :
    read (fuel + 1) depth (c :: tail) = some (.num n, rest) := by
  have solid := skipSpace_cons c tail (numberStart_starts start).1
  rw [read, solid]
  split
  all_goals first
    | rename_i same
      obtain ⟨rfl, -⟩ := List.cons.inj same
      simp [Char.isDigit] at start
    | simp [ran]

private theorem numberEnd_writeItems (items : List Json) (rest : List Char) :
    NumberEnd (writeItems items ++ rest) := by
  cases items <;> simp [NumberEnd, writeItems]

private theorem numberEnd_writeFields (fields : List (String × Json)) (rest : List Char) :
    NumberEnd (writeFields fields ++ rest) := by
  cases fields <;> simp [NumberEnd, writeFields]

private theorem writeItems_length (items : List Json) : 0 < (writeItems items).length := by
  cases items <;> simp [writeItems]

private theorem writeFields_length (fields : List (String × Json)) :
    0 < (writeFields fields).length := by
  cases fields <;> simp [writeFields]

mutual

theorem writable_of_valid {json : Json} (valid : json.Valid) : json.Writable := by
  match json with
  | .null | .bool _ | .str _ => trivial
  | .num n => exact valid
  | .arr items => exact writableItems_of_valid items valid
  | .obj fields => exact writableFields_of_valid fields valid.2

private theorem writableItems_of_valid (items : List Json) (valid : Valid.ValidItems items) :
    Writable.WritableItems items := by
  match items with
  | [] => trivial
  | item :: rest => exact ⟨writable_of_valid valid.1, writableItems_of_valid rest valid.2⟩

private theorem writableFields_of_valid (fields : List (String × Json)) (valid : Valid.ValidFields fields) :
    Writable.WritableFields fields := by
  match fields with
  | [] => trivial
  | (key, value) :: rest => exact ⟨writable_of_valid valid.1, writableFields_of_valid rest valid.2⟩

end

mutual

/-- A value with sorted keys is read as it is. -/
theorem normal_of_valid {json : Json} (valid : json.Valid) : json.normal = json := by
  match json with
  | .null | .bool _ | .num _ | .str _ => rfl
  | .arr items => rw [normal, normalItems_of_valid items valid]
  | .obj fields =>
    rw [normal, normalFields_of_valid fields valid.2,
      enterFields_sorted [] fields (by simpa using valid.1), List.nil_append]

private theorem normalItems_of_valid (items : List Json) (valid : Valid.ValidItems items) :
    normal.normalItems items = items := by
  match items with
  | [] => rfl
  | item :: rest =>
    rw [normal.normalItems, normal_of_valid valid.1, normalItems_of_valid rest valid.2]

private theorem normalFields_of_valid (fields : List (String × Json)) (valid : Valid.ValidFields fields) :
    normal.normalFields fields = fields := by
  match fields with
  | [] => rfl
  | (key, value) :: rest =>
    rw [normal.normalFields, normal_of_valid valid.1, normalFields_of_valid rest valid.2]

end

section
variable {fuel depth : Nat} {rest : List Char}

/-- Nothing that opens a bracket or a brace is read where nothing may be inside. -/
private theorem read_no_room {text : List Char} {c : Char} (opens : c = '[' ∨ c = '{')
    (room : depth ≤ 1) : read (fuel + 1) depth (c :: text) = none := by
  rcases opens with rfl | rfl <;> simp [read, skipSpace, room]

private theorem read_items {item : Json} {items : List Json} (first : item.Writable)
    (room : ¬depth ≤ 1)
    (head : read fuel (depth - 1) (write item ++ (writeItems items ++ rest)) =
      if item.depth < depth - 1 then some (item.normal, writeItems items ++ rest) else none)
    (tail : readItems fuel (depth - 1) (writeItems items ++ rest) =
      if Json.depth.depthItems items < depth - 1 then some (normal.normalItems items, rest) else none) :
    read (fuel + 1) depth (write (.arr (item :: items)) ++ rest) =
      if (Json.arr (item :: items)).depth < depth then
        some ((Json.arr (item :: items)).normal, rest)
      else none := by
  obtain ⟨c, more, front, starts⟩ := write_head item first
  have both : (Json.arr (item :: items)).depth < depth ↔
      item.depth < depth - 1 ∧ Json.depth.depthItems items < depth - 1 := by
    simp only [Json.depth, Json.depth.depthItems]
    omega
  have opened : read (fuel + 1) depth (write (.arr (item :: items)) ++ rest) =
      (read fuel (depth - 1) (write item ++ (writeItems items ++ rest))).bind fun first =>
        (readItems fuel (depth - 1) first.2).map fun later => (.arr (first.1 :: later.1), later.2) := by
    simp only [write, List.cons_append, List.append_assoc, front, read,
      skipSpace_cons '[' _ (by simp), room, ↓reduceIte, skipSpace_cons c _ starts.1]
    split
    · rename_i same
      exact absurd (List.cons.inj same).1 starts.2.1
    · split
      · rename_i first
        rw [first]
        rfl
      · rename_i none_
        rw [none_]
        rfl
  rw [opened, head]
  by_cases low : item.depth < depth - 1
  · simp only [low, ↓reduceIte, Option.bind_some, tail, both, true_and]
    split <;> rfl
  · simp only [low, ↓reduceIte, Option.bind_none, both, false_and]

private theorem read_fields {key : String} {value : Json} {fields : List (String × Json)}
    (room : ¬depth ≤ 1)
    (head : read fuel (depth - 1) (write value ++ (writeFields fields ++ rest)) =
      if value.depth < depth - 1 then some (value.normal, writeFields fields ++ rest) else none)
    (tail : readFields fuel (depth - 1) [(key, value.normal)] (writeFields fields ++ rest) =
      if Json.depth.depthFields fields < depth - 1 then
        some (enterFields [(key, value.normal)] (normal.normalFields fields), rest)
      else none) :
    read (fuel + 1) depth (write (.obj ((key, value) :: fields)) ++ rest) =
      if (Json.obj ((key, value) :: fields)).depth < depth then
        some ((Json.obj ((key, value) :: fields)).normal, rest)
      else none := by
  have named := readKey_writeString key (write value ++ (writeFields fields ++ rest))
  simp only [writeString, List.cons_append, List.append_assoc, List.nil_append] at named
  have both : (Json.obj ((key, value) :: fields)).depth < depth ↔
      value.depth < depth - 1 ∧ Json.depth.depthFields fields < depth - 1 := by
    simp only [Json.depth, Json.depth.depthFields]
    omega
  have entered : enterFields [] (normal.normalFields ((key, value) :: fields)) =
      enterFields [(key, value.normal)] (normal.normalFields fields) := rfl
  simp only [write, writeString, List.cons_append, List.append_assoc, read,
    skipSpace_cons '\x7b' _ (by simp), room, ↓reduceIte, skipSpace_cons '"' _ (by simp)]
  by_cases low : value.depth < depth - 1
  · rw [if_pos low] at head
    by_cases lower : Json.depth.depthFields fields < depth - 1
    · rw [if_pos lower] at tail
      simp [named, head, tail, both, low, lower, normal, entered]
    · rw [if_neg lower] at tail
      simp [named, head, tail, both, lower]
  · rw [if_neg low] at head
    simp [named, head, both, low]

end

mutual

/-- A written value is read, given enough fuel, unless it is nested as deep as the reader may go. -/
theorem read_text (json : Json) (writable : json.Writable) (fuel depth : Nat) (rest : List Char)
    (enough : (write json).length < fuel) (some_ : 0 < depth) (stop : NumberEnd rest) :
    read fuel depth (write json ++ rest) =
      if json.depth < depth then some (json.normal, rest) else none := by
  obtain ⟨fuel, rfl⟩ := Nat.exists_eq_add_of_lt (Nat.zero_lt_of_lt enough)
  simp only [Nat.zero_add] at enough ⊢
  match json with
  | .null => simp [write, read, skipSpace, Json.depth, normal, some_]
  | .bool true => simp [write, read, skipSpace, Json.depth, normal, some_]
  | .bool false => simp [write, read, skipSpace, Json.depth, normal, some_]
  | .num n =>
    have good : n.Valid := by simpa [Writable] using writable
    obtain ⟨c, tail, front, start⟩ := writeNumber_head n good
    have ran := readNumber_writeNumber n good rest stop
    rw [front, List.cons_append] at ran
    have shallow : (Json.num n).depth < depth := some_
    rw [if_pos shallow, write, front, List.cons_append]
    exact read_number fuel depth start ran
  | .str s =>
    have quoted := readString_flatMap s.toList rest
    simp [write, writeString, read, skipSpace, quoted, Json.depth, normal, some_]
  | .arr [] =>
    by_cases room : depth ≤ 1
    · simp [write, read, skipSpace, room, Json.depth, Json.depth.depthItems]
    · simp [write, read, skipSpace, room, Json.depth, Json.depth.depthItems, normal, normal.normalItems]
  | .arr (item :: items) =>
    obtain ⟨first, others⟩ : item.Writable ∧ Writable.WritableItems items := by
      simpa [Writable, Writable.WritableItems] using writable
    simp only [write, List.length_cons, List.length_append] at enough
    have nonempty := writeItems_length items
    by_cases room : depth ≤ 1
    · have deep : ¬ (Json.arr (item :: items)).depth < depth := by
        simp only [Json.depth]
        omega
      rw [if_neg deep, write, List.cons_append]
      exact read_no_room (.inl rfl) room
    · apply read_items first room
      · exact read_text item first fuel (depth - 1) (writeItems items ++ rest) (by omega) (by omega)
          (numberEnd_writeItems items rest)
      · exact readItems_text items others fuel (depth - 1) rest (by omega) (by omega)
  | .obj [] =>
    by_cases room : depth ≤ 1
    · simp [write, read, skipSpace, room, Json.depth, Json.depth.depthFields]
    · simp [write, read, skipSpace, room, Json.depth, Json.depth.depthFields, normal,
        normal.normalFields, enterFields]
  | .obj ((key, value) :: fields) =>
    obtain ⟨first, others⟩ : value.Writable ∧ Writable.WritableFields fields := by
      simpa [Writable, Writable.WritableFields] using writable
    simp only [write, List.length_cons, List.length_append] at enough
    have nonempty := writeFields_length fields
    by_cases room : depth ≤ 1
    · have deep : ¬ (Json.obj ((key, value) :: fields)).depth < depth := by
        simp only [Json.depth]
        omega
      rw [if_neg deep, write, List.cons_append]
      exact read_no_room (.inr rfl) room
    · apply read_fields room
      · exact read_text value first fuel (depth - 1) (writeFields fields ++ rest) (by omega) (by omega)
          (numberEnd_writeFields fields rest)
      · exact readFields_text fields others fuel (depth - 1) [(key, value.normal)] rest (by omega)
          (by omega)

private theorem readItems_text (items : List Json) (writable : Writable.WritableItems items)
    (fuel depth : Nat) (rest : List Char) (enough : (writeItems items).length ≤ fuel)
    (some_ : 0 < depth) :
    readItems fuel depth (writeItems items ++ rest) =
      if Json.depth.depthItems items < depth then some (normal.normalItems items, rest) else none := by
  obtain ⟨fuel, rfl⟩ := Nat.exists_eq_add_of_lt (Nat.lt_of_lt_of_le (writeItems_length items) enough)
  simp only [Nat.zero_add] at enough ⊢
  match items with
  | [] => simp [writeItems, readItems, skipSpace, Json.depth.depthItems, normal.normalItems, some_]
  | item :: items =>
    obtain ⟨first, others⟩ : item.Writable ∧ Writable.WritableItems items := by
      simpa [Writable.WritableItems] using writable
    simp only [writeItems, List.length_cons, List.length_append] at enough
    have nonempty := writeItems_length items
    have head := read_text item first fuel depth (writeItems items ++ rest) (by omega) some_
      (numberEnd_writeItems items rest)
    have tail := readItems_text items others fuel depth rest (by omega) some_
    have both : Json.depth.depthItems (item :: items) < depth ↔
        item.depth < depth ∧ Json.depth.depthItems items < depth := by
      simp only [Json.depth.depthItems]
      omega
    by_cases low : item.depth < depth
    · rw [if_pos low] at head
      by_cases lower : Json.depth.depthItems items < depth
      · rw [if_pos lower] at tail
        simp [writeItems, readItems, skipSpace, head, tail, both, low, lower, normal.normalItems]
      · rw [if_neg lower] at tail
        simp [writeItems, readItems, skipSpace, head, tail, both, lower]
    · rw [if_neg low] at head
      simp [writeItems, readItems, skipSpace, head, both, low]

private theorem readFields_text (fields : List (String × Json))
    (writable : Writable.WritableFields fields) (fuel depth : Nat) (done : List (String × Json))
    (rest : List Char) (enough : (writeFields fields).length ≤ fuel) (some_ : 0 < depth) :
    readFields fuel depth done (writeFields fields ++ rest) =
      if Json.depth.depthFields fields < depth then
        some (enterFields done (normal.normalFields fields), rest)
      else none := by
  obtain ⟨fuel, rfl⟩ :=
    Nat.exists_eq_add_of_lt (Nat.lt_of_lt_of_le (writeFields_length fields) enough)
  simp only [Nat.zero_add] at enough ⊢
  match fields with
  | [] =>
    simp [writeFields, readFields, skipSpace, Json.depth.depthFields, normal.normalFields, enterFields,
      some_]
  | (key, value) :: fields =>
    obtain ⟨first, others⟩ : value.Writable ∧ Writable.WritableFields fields := by
      simpa [Writable.WritableFields] using writable
    simp only [writeFields, List.length_cons, List.length_append] at enough
    have nonempty := writeFields_length fields
    have head := read_text value first fuel depth (writeFields fields ++ rest) (by omega) some_
      (numberEnd_writeFields fields rest)
    have tail := readFields_text fields others fuel depth (insertField key value.normal done) rest
      (by omega) some_
    have named := readKey_writeString key (write value ++ (writeFields fields ++ rest))
    have entered : enterFields done (normal.normalFields ((key, value) :: fields)) =
        enterFields (insertField key value.normal done) (normal.normalFields fields) := rfl
    have both : Json.depth.depthFields ((key, value) :: fields) < depth ↔
        value.depth < depth ∧ Json.depth.depthFields fields < depth := by
      simp only [Json.depth.depthFields]
      omega
    simp only [writeFields, List.cons_append, List.append_assoc, readFields,
      skipSpace_cons ',' _ (by simp), named, head]
    by_cases low : value.depth < depth
    · simp only [low, ↓reduceIte, tail, entered, both, true_and]
    · simp only [low, ↓reduceIte, both, false_and]

end

/-- A written value is read back, given enough fuel and depth. -/
theorem read_write (json : Json) (valid : json.Valid) (fuel depth : Nat) (rest : List Char)
    (enough : (write json).length < fuel) (deep : json.depth < depth) (stop : NumberEnd rest) :
    read fuel depth (write json ++ rest) = some (json, rest) := by
  rw [read_text json (writable_of_valid valid) fuel depth rest enough (by omega) stop, if_pos deep,
    normal_of_valid valid]

/-- The reader on the text of a value whose keys are in any order. -/
theorem fromText_written (json : Json) (writable : json.Writable) :
    fromText json.toText = if json.depth < recursionLimit then some json.normal else none := by
  have ran := read_text json writable ((write json).length + 1) recursionLimit [] (by omega) (by decide)
    (by simp [NumberEnd])
  rw [List.append_nil] at ran
  rw [fromText, toText, String.toList_ofList, fromChars, ran]
  by_cases shallow : json.depth < recursionLimit
  · rw [if_pos shallow, if_pos shallow]
    rfl
  · rw [if_neg shallow, if_neg shallow]

/-- `from_str` inverts `to_string` on every value that is not nested past the
recursion limit. -/
theorem fromText_toText (json : Json) (valid : json.Valid) (deep : json.depth < recursionLimit) :
    fromText json.toText = some json := by
  rw [fromText_written json (writable_of_valid valid), if_pos deep, normal_of_valid valid]

end MtrxPeer.Json
