import MtrxPeer.BalancedText

/-! Texts of JSON objects in any layout. The reader ends at the brace that closes an object, so
no such text is the start of another one, and what stands behind it is left. -/
namespace MtrxPeer

/-- The text of a JSON object, from its brace to the brace that closes it. -/
structure ObjectText where
  text : List Char
  fields : List (String × Json)
  opens : text.head? = some '{'
  closes : text.getLast? = some '}'
  reads : Json.fromChars text = some (.obj fields)

def JsonBlank (text : List Char) : Prop := ∀ c ∈ text, JsonSpace c

theorem skipSpace_blank {text : List Char} (blank : JsonBlank text) : Json.skipSpace text = [] := by
  have skipped := skipSpace_space blank []
  rwa [List.append_nil] at skipped

theorem blank_of_skipSpace {text : List Char} (none_ : Json.skipSpace text = []) : JsonBlank text := by
  obtain ⟨space, whole, blank⟩ := skipSpace_split text
  rw [none_, List.append_nil] at whole
  rwa [whole]

/-- What is read from a brace on is a part of the text that the counting of braces finds as well. -/
private theorem read_object {fuel depth : Nat} {space text rest : List Char} {json : Json} (blank : JsonBlank space)
    (brace : text.head? = some '{') (limit : depth ≤ Json.recursionLimit)
    (ran : Json.read fuel depth (space ++ text) = some (json, rest)) :
    ∃ object, text = object ++ rest ∧ ∀ tail, extractBalancedJsonObject (object ++ tail) = some object := by
  rw [Json.read_space blank] at ran
  obtain ⟨inside, rfl⟩ := List.head?_eq_some_iff.mp brace
  obtain ⟨fields, rfl⟩ := Json.read_brace ran
  obtain ⟨front, object, whole, front_blank, _, _, balanced⟩ := extractBalanced_object limit ran
  refine ⟨object, ?_, balanced⟩
  cases front with
  | nil => exact whole
  | cons c front =>
    have first := front_blank c List.mem_cons_self
    rw [← (List.cons.inj whole).1] at first
    exact absurd rfl (space_plain first).2.1

/-- What is read of a text as a whole, and the space behind it. -/
theorem fromChars_rest {text : List Char} {json : Json} (ran : Json.fromChars text = some json) :
    ∃ rest, Json.read (text.length + 1) Json.recursionLimit text = some (json, rest) ∧ JsonBlank rest := by
  obtain ⟨rest, ran, none_⟩ := Json.fromChars_some ran
  exact ⟨rest, ran, blank_of_skipSpace none_⟩

namespace ObjectText

variable {o : ObjectText} {fuel depth : Nat} {space part tail rest : List Char} {json : Json}

private theorem blank_nil : JsonBlank [] := fun _ member => absurd member List.not_mem_nil

/-- The counting of braces finds the object, whatever stands behind it. -/
theorem balanced (o : ObjectText) (tail : List Char) :
    extractBalancedJsonObject (o.text ++ tail) = some o.text := by
  obtain ⟨rest, ran, blank⟩ := fromChars_rest o.reads
  obtain ⟨object, whole, balanced⟩ := @read_object _ _ [] _ _ _ blank_nil o.opens (Nat.le_refl _) ran
  have none_ : rest = [] := by
    by_contra some_
    have last := o.closes
    rw [whole, List.getLast?_append_of_ne_nil _ some_] at last
    exact absurd rfl (space_plain (blank '}' (List.mem_of_getLast? last))).2.2
  rw [none_, List.append_nil] at whole
  rw [whole]
  exact balanced tail

/-- Behind an object everything is left. -/
theorem read_rest (blank : JsonBlank space) (limit : depth ≤ Json.recursionLimit)
    (ran : Json.read fuel depth (space ++ (o.text ++ tail)) = some (json, rest)) : rest = tail := by
  have brace : (o.text ++ tail).head? = some '{' := by
    rw [List.head?_append, o.opens]
    rfl
  obtain ⟨object, whole, balanced⟩ := read_object blank brace limit ran
  have found := o.balanced tail
  rw [whole, balanced] at found
  obtain rfl := Option.some.inj found
  exact (List.append_cancel_left whole).symm

/-- A start of an object that is read is all of it. -/
private theorem read_start (blank : JsonBlank space) (limit : depth ≤ Json.recursionLimit) (start : part <+: o.text)
    (some_ : part ≠ []) (ran : Json.read fuel depth (space ++ part) = some (json, rest)) : part = o.text := by
  obtain ⟨more, whole⟩ := start
  have brace : part.head? = some '{' := by
    obtain ⟨c, others, rfl⟩ := List.exists_cons_of_ne_nil some_
    rw [← o.opens, ← whole]
    rfl
  obtain ⟨object, rfl, balanced⟩ := read_object blank brace limit ran
  have found := o.balanced []
  rw [List.append_nil, ← whole, List.append_assoc, balanced] at found
  have lengths := congrArg List.length (Option.some.inj found)
  simp only [List.length_append] at lengths
  have none_ : more = [] := List.length_eq_zero_iff.mp (by omega)
  rw [← whole, none_, List.append_nil]

/-- The start of an object is not read. -/
theorem read_part (blank : JsonBlank space) (limit : depth ≤ Json.recursionLimit) (start : part <+: o.text)
    (less : part ≠ o.text) : Json.read fuel depth (space ++ part) = none := by
  cases ran : Json.read fuel depth (space ++ part) with
  | none => rfl
  | some step =>
    by_cases none_ : part = []
    · rw [none_, List.append_nil] at ran
      cases fuel with
      | zero => cases ran
      | succ fuel => simp [Json.read, skipSpace_blank blank, Json.readNumber, Json.readUnsigned, Json.readInteger, Json.takeDigits] at ran
    · exact absurd (read_start blank limit start none_ ran) less

/-- A text that begins with an object is read as a whole only if nothing stands behind it. -/
theorem fromChars_append (ran : Json.fromChars (o.text ++ tail) = some json) : JsonBlank tail := by
  obtain ⟨rest, ran, blank⟩ := fromChars_rest ran
  rwa [@read_rest o _ _ [] _ _ _ blank_nil (Nat.le_refl _) ran] at blank

theorem fromChars_part (some_ : part ≠ []) (start : part <+: o.text) (ran : Json.fromChars part = some json) :
    part = o.text := by
  obtain ⟨rest, ran, -⟩ := fromChars_rest ran
  exact @read_start o _ _ [] _ _ _ blank_nil (Nat.le_refl _) start some_ ran

end ObjectText

end MtrxPeer
