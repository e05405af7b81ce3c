import MtrxPeer.AgentCompat
import MtrxPeer.StreamCutting

/-! Byte positions in a text. A position is a boundary where the text can be cut, and a slice
between two positions fails where one of them is none. -/
namespace MtrxPeer

/-! ## Boundaries and slices -/

/-- `str::is_char_boundary`. -/
def isCharBoundary (text : List Char) (n : Nat) : Bool := (takeBytes n text).isSome

/-- `&s[n..]`, which fails inside a character and after the end. -/
def dropBytes (n : Nat) (text : List Char) : Option (List Char) :=
  (takeBytes n text).map fun front => text.drop front.length

/-- `&s[start..stop]`. -/
def sliceBytes (start stop : Nat) (text : List Char) : Option (List Char) :=
  if stop < start then none else (dropBytes start text).bind (takeBytes (stop - start))

@[simp] theorem takeBytes_zero (text : List Char) : takeBytes 0 text = some [] := by
  cases text with
  | nil => rfl
  | cons c rest => rfl

theorem takeBytes_append (front back : List Char) :
    takeBytes (byteCount front) (front ++ back) = some front := by
  induction front with
  | nil => exact takeBytes_zero back
  | cons c front ih =>
    obtain ⟨n, total⟩ : ∃ n, byteCount (c :: front) = n + 1 :=
      Nat.exists_eq_add_one.mpr (byteCount_cons c front ▸ Nat.add_pos_left c.utf8Size_pos _)
    have size := byteCount_cons c front
    rw [total, List.cons_append, takeBytes, if_pos (by omega), show n + 1 - c.utf8Size = byteCount front by omega, ih]
    rfl

/-- What is cut off is the start of the text, of as many bytes. -/
theorem takeBytes_some {n : Nat} {text front : List Char} (taken : takeBytes n text = some front) :
    ∃ back, text = front ++ back ∧ byteCount front = n := by
  induction text generalizing n front with
  | nil =>
    cases n with
    | zero =>
      cases taken
      exact ⟨[], rfl, rfl⟩
    | succ n => cases taken
  | cons c rest ih =>
    cases n with
    | zero =>
      cases taken
      exact ⟨c :: rest, rfl, rfl⟩
    | succ n =>
      rw [takeBytes] at taken
      split at taken
      · obtain ⟨shorter, front_, rfl⟩ := Option.map_eq_some_iff.mp taken
        obtain ⟨back, rfl, counted⟩ := ih front_
        refine ⟨back, rfl, ?_⟩
        rw [byteCount_cons, counted]
        omega
      · cases taken

/-- A text is cut exactly after as many of its bytes. -/
theorem takeBytes_eq_some_iff {n : Nat} {text front : List Char} :
    takeBytes n text = some front ↔ ∃ back, text = front ++ back ∧ byteCount front = n := by
  constructor
  · exact takeBytes_some
  · rintro ⟨back, rfl, rfl⟩
    exact takeBytes_append front back

theorem takeBytes_isSome_iff (n : Nat) (text : List Char) :
    (takeBytes n text).isSome ↔ ∃ front back, text = front ++ back ∧ byteCount front = n := by
  simp only [Option.isSome_iff_exists, takeBytes_eq_some_iff]

/-- There is nothing to cut off after the end. -/
theorem takeBytes_long {n : Nat} {text : List Char} (long : byteCount text < n) : takeBytes n text = none := by
  rw [← Option.not_isSome_iff_eq_none, takeBytes_isSome_iff]
  rintro ⟨front, back, rfl, counted⟩
  rw [byteCount_append] at long
  omega

theorem dropBytes_append (front back : List Char) :
    dropBytes (byteCount front) (front ++ back) = some back := by
  rw [dropBytes, takeBytes_append, Option.map_some, List.drop_left]

/-- Positions after a start of the text are positions of the rest. -/
theorem takeBytes_beyond (front rest : List Char) (n : Nat) :
    takeBytes (byteCount front + n) (front ++ rest) = (takeBytes n rest).map (front ++ ·) := by
  induction front with
  | nil => simp
  | cons c front ih =>
    have some_ := c.utf8Size_pos
    have first : byteCount (c :: front) + n = (byteCount front + n + c.utf8Size - 1) + 1 := by
      rw [byteCount_cons]
      omega
    have fits : c.utf8Size ≤ (byteCount front + n + c.utf8Size - 1) + 1 := by omega
    have left : (byteCount front + n + c.utf8Size - 1) + 1 - c.utf8Size = byteCount front + n := by omega
    rw [first, List.cons_append, takeBytes, if_pos fits, left, ih, Option.map_map]
    rfl

theorem isCharBoundary_beyond (front rest : List Char) (n : Nat) :
    isCharBoundary (front ++ rest) (byteCount front + n) = isCharBoundary rest n := by
  rw [isCharBoundary, isCharBoundary, takeBytes_beyond, Option.isSome_map]

theorem sliceBytes_append (front part back : List Char) :
    sliceBytes (byteCount front) (byteCount (front ++ part)) (front ++ (part ++ back)) = some part := by
  have later : ¬ byteCount (front ++ part) < byteCount front := by
    rw [byteCount_append]
    omega
  have width : byteCount (front ++ part) - byteCount front = byteCount part := by
    rw [byteCount_append]
    omega
  rw [sliceBytes, if_neg later, dropBytes_append, Option.bind_some, width, takeBytes_append]

/-! ## Finding -/

/-- `str::find` of a character. -/
def findChar (c : Char) (text : List Char) : Option Nat :=
  if c ∈ text then some (byteCount (text.takeWhile (· ≠ c))) else none

/-- `str::rsplit_once` at a character. -/
def rsplitOnce (c : Char) (text : List Char) : Option (List Char × List Char) :=
  if c ∈ text then
    some ((text.reverse.dropWhile (· ≠ c)).tail.reverse, (text.reverse.takeWhile (· ≠ c)).reverse)
  else none

theorem stripPrefix_eq_some_iff {front text rest : List Char} :
    stripPrefix front text = some rest ↔ text = front ++ rest := by
  rw [stripPrefix]
  constructor
  · intro stripped
    split at stripped
    · rename_i starts
      obtain ⟨more, rfl⟩ := List.isPrefixOf_iff_prefix.mp starts
      rw [List.drop_left] at stripped
      rw [Option.some.inj stripped]
    · cases stripped
  · rintro rfl
    rw [if_pos (List.isPrefixOf_iff_prefix.mpr (List.prefix_append front rest)), List.drop_left]

/-- A character is found where it comes first. -/
theorem findChar_append {c : Char} {front : List Char} (none_ : c ∉ front) (back : List Char) :
    findChar c (front ++ c :: back) = some (byteCount front) := by
  have before : ∀ d ∈ front, (decide (d ≠ c)) = true := by
    rintro d member
    exact decide_eq_true fun same => none_ (same ▸ member)
  rw [findChar, if_pos (by simp), List.takeWhile_append_of_pos before]
  simp

theorem findChar_none {c : Char} {text : List Char} (none_ : c ∉ text) : findChar c text = none :=
  if_neg none_

/-- A text is split where the character comes last. -/
theorem rsplitOnce_append {c : Char} (front : List Char) {back : List Char} (none_ : c ∉ back) :
    rsplitOnce c (front ++ c :: back) = some (front, back) := by
  have after : ∀ d ∈ back.reverse, (decide (d ≠ c)) = true := by
    rintro d member
    exact decide_eq_true fun same => none_ (same ▸ List.mem_reverse.mp member)
  have reversed : (front ++ c :: back).reverse = back.reverse ++ c :: front.reverse := by simp
  rw [rsplitOnce, if_pos (by simp), reversed, List.takeWhile_append_of_pos after,
    List.dropWhile_append_of_pos after]
  simp

theorem rsplitOnce_none {c : Char} {text : List Char} (none_ : c ∉ text) : rsplitOnce c text = none :=
  if_neg none_

/-- Every text with the character is split. -/
theorem exists_last {c : Char} {text : List Char} (there : c ∈ text) :
    ∃ front back, text = front ++ c :: back ∧ c ∉ back := by
  obtain ⟨after, before, split_, none_⟩ := List.eq_append_cons_of_mem (List.mem_reverse.mpr there)
  refine ⟨before.reverse, after.reverse, ?_, fun member => none_ (List.mem_reverse.mp member)⟩
  rw [← List.reverse_reverse text, split_]
  simp

theorem rsplitOnce_some {c : Char} {text front back : List Char} (split_ : rsplitOnce c text = some (front, back)) :
    text = front ++ c :: back ∧ c ∉ back := by
  by_cases there : c ∈ text
  · obtain ⟨front', back', rfl, none_⟩ := exists_last there
    rw [rsplitOnce_append _ none_] at split_
    obtain ⟨rfl, rfl⟩ := Prod.mk.inj (Option.some.inj split_)
    exact ⟨rfl, none_⟩
  · rw [rsplitOnce_none there] at split_
    cases split_

end MtrxPeer
