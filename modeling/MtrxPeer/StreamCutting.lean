import MtrxPeer.Wire

/-! Cutting a text that arrives bit by bit: full pieces are cut off as soon as they
are there, at characters. The pieces do not depend on how the text arrives. -/
namespace MtrxPeer

/-- The bytes of a text. -/
def byteCount (text : List Char) : Nat := (String.ofList text).utf8ByteSize

@[simp] theorem byteCount_nil : byteCount [] = 0 := rfl

@[simp] theorem byteCount_cons (c : Char) (rest : List Char) :
    byteCount (c :: rest) = c.utf8Size + byteCount rest := by
  rw [byteCount, byteCount, utf8ByteSize_ofList, utf8ByteSize_ofList, List.map_cons, List.sum_cons]

theorem byteCount_append (text more : List Char) :
    byteCount (text ++ more) = byteCount text + byteCount more := by
  induction text with
  | nil => simp
  | cons c rest ih => rw [List.cons_append, byteCount_cons, ih, byteCount_cons, Nat.add_assoc]

theorem fitting_ne_nil {room : Nat} (wide : 4 ≤ room) {text : List Char} (nonempty : text ≠ []) :
    fitting room text ≠ [] := by
  cases text with
  | nil => exact absurd rfl nonempty
  | cons c rest =>
    rw [fitting, if_pos (Nat.le_trans c.utf8Size_le_four wide)]
    exact List.cons_ne_nil _ _

theorem fitting_size (room : Nat) (text : List Char) : byteCount (fitting room text) ≤ room := by
  induction text generalizing room with
  | nil => exact Nat.zero_le _
  | cons c rest ih =>
    rw [fitting]
    split
    · have others := ih (room - c.utf8Size)
      rw [byteCount_cons]
      omega
    · exact Nat.zero_le _

/-- A character that fits with others fits alone. -/
theorem fitting_width {room : Nat} {text : List Char} {c : Char} (inside : c ∈ fitting room text) :
    c.utf8Size ≤ room := by
  obtain ⟨before, after, split_⟩ := List.append_of_mem inside
  have short := fitting_size room text
  rw [split_, byteCount_append, byteCount_cons] at short
  omega

private theorem piece_size {maxBytes : Nat} (wide : 4 ≤ maxBytes) (text : List Char) :
    byteCount (piece maxBytes text) ≤ maxBytes := by
  unfold piece
  split
  · cases text with
    | nil => exact Nat.zero_le _
    | cons c rest =>
      have narrow := c.utf8Size_le_four
      rw [List.take_succ_cons, List.take_zero, byteCount_cons, byteCount_nil]
      omega
  · exact fitting_size maxBytes text

theorem pieces_size {maxBytes : Nat} (wide : 4 ≤ maxBytes) (text : List Char) :
    ∀ part ∈ pieces maxBytes text, byteCount part ≤ maxBytes := by
  fun_induction pieces maxBytes text with
  | case1 => simp
  | case2 c rest ih =>
    rw [List.forall_mem_cons]
    exact ⟨piece_size wide _, ih⟩

/-- What fits is decided by a text that fills the room. -/
theorem fitting_append_of_full {room : Nat} {text : List Char} (full : room ≤ byteCount text)
    (more : List Char) : fitting room (text ++ more) = fitting room text := by
  induction text generalizing room with
  | nil =>
    obtain rfl : room = 0 := Nat.le_zero.mp full
    cases more with
    | nil => rfl
    | cons c rest => simp [fitting, Nat.pos_iff_ne_zero.mp c.utf8Size_pos]
  | cons c rest ih =>
    rw [byteCount_cons] at full
    rw [List.cons_append, fitting, fitting]
    by_cases fits : c.utf8Size ≤ room
    · rw [if_pos fits, if_pos fits, ih (by omega)]
    · rw [if_neg fits, if_neg fits]

/-- Full pieces cut off a text while there is one, and what is left. `fuel` bounds
the cuts. -/
def cutPieces (maxBytes : Nat) : (fuel : Nat) → List Char → List (List Char) × List Char
  | 0, text => ([], text)
  | fuel + 1, text =>
    if maxBytes ≤ byteCount text then
      let piece := fitting maxBytes text
      let (pieces, rest) := cutPieces maxBytes fuel (text.drop piece.length)
      (piece :: pieces, rest)
    else ([], text)

/-- The full pieces of a text, and what is left. -/
def fullPieces (maxBytes : Nat) (text : List Char) : List (List Char) × List Char :=
  cutPieces maxBytes text.length text

variable {maxBytes : Nat}

@[simp] theorem fullPieces_nil (maxBytes : Nat) : fullPieces maxBytes [] = ([], []) := rfl

private theorem nonempty_of_full (wide : 4 ≤ maxBytes) {text : List Char}
    (full : maxBytes ≤ byteCount text) : text ≠ [] := by
  rintro rfl
  rw [byteCount_nil] at full
  omega

theorem drop_fitting_length (wide : 4 ≤ maxBytes) {text : List Char} (nonempty : text ≠ []) :
    (text.drop (fitting maxBytes text).length).length < text.length := by
  have advances := List.length_pos_iff.mpr (fitting_ne_nil wide nonempty)
  have some_ := List.length_pos_iff.mpr nonempty
  rw [List.length_drop]
  omega

private theorem cutPieces_enough (wide : 4 ≤ maxBytes) {fuel : Nat} (fuel' : Nat) {text : List Char}
    (enough : text.length ≤ fuel) (enough' : text.length ≤ fuel') :
    cutPieces maxBytes fuel text = cutPieces maxBytes fuel' text := by
  have stops : ∀ fuel, cutPieces maxBytes fuel [] = ([], []) := by
    intro fuel
    cases fuel with
    | zero => rfl
    | succ fuel => rw [cutPieces, if_neg (by rw [byteCount_nil]; omega)]
  induction fuel generalizing fuel' text with
  | zero =>
    obtain rfl := List.length_eq_zero_iff.mp (Nat.le_zero.mp enough)
    rw [stops, stops]
  | succ fuel ih =>
    cases fuel' with
    | zero =>
      obtain rfl := List.length_eq_zero_iff.mp (Nat.le_zero.mp enough')
      rw [stops, stops]
    | succ fuel' =>
      rw [cutPieces, cutPieces]
      by_cases full : maxBytes ≤ byteCount text
      · have shorter := drop_fitting_length wide (nonempty_of_full wide full)
        rw [if_pos full, if_pos full]
        dsimp only
        rw [ih fuel' (by omega) (by omega)]
      · rw [if_neg full, if_neg full]

/-- More fuel than there are characters makes no difference. -/
theorem cutPieces_fuel (wide : 4 ≤ maxBytes) {fuel : Nat} {text : List Char}
    (enough : text.length ≤ fuel) : cutPieces maxBytes fuel text = fullPieces maxBytes text :=
  cutPieces_enough wide _ enough (Nat.le_refl _)

/-- A full piece comes first, if there is one. -/
theorem fullPieces_full (wide : 4 ≤ maxBytes) {text : List Char} (full : maxBytes ≤ byteCount text) :
    fullPieces maxBytes text =
      (fitting maxBytes text ::
          (fullPieces maxBytes (text.drop (fitting maxBytes text).length)).1,
        (fullPieces maxBytes (text.drop (fitting maxBytes text).length)).2) := by
  have shorter := drop_fitting_length wide (nonempty_of_full wide full)
  have more : cutPieces maxBytes text.length text = cutPieces maxBytes (text.length + 1) text :=
    cutPieces_enough wide _ (Nat.le_refl _) (Nat.le_succ _)
  rw [fullPieces, more, cutPieces, if_pos full]
  dsimp only
  rw [cutPieces_fuel wide (by omega)]

theorem fullPieces_short {text : List Char} (short : byteCount text < maxBytes) :
    fullPieces maxBytes text = ([], text) := by
  cases text with
  | nil => rfl
  | cons c rest => rw [fullPieces, List.length_cons, cutPieces, if_neg (Nat.not_le.mpr short)]

/-- Induction on a text by its full pieces. -/
theorem fullPieces_induction (wide : 4 ≤ maxBytes) {P : List Char → Prop}
    (short : ∀ text, byteCount text < maxBytes → P text)
    (full : ∀ text, maxBytes ≤ byteCount text → P (text.drop (fitting maxBytes text).length) →
      P text) (text : List Char) : P text := by
  by_cases small : byteCount text < maxBytes
  · exact short text small
  · have large := Nat.le_of_not_lt small
    exact full text large (fullPieces_induction wide short full _)
termination_by text.length
decreasing_by exact drop_fitting_length wide (nonempty_of_full wide large)

/-- Nothing is lost. -/
theorem fullPieces_flatten (wide : 4 ≤ maxBytes) (text : List Char) :
    (fullPieces maxBytes text).1.flatten ++ (fullPieces maxBytes text).2 = text := by
  induction text using fullPieces_induction wide with
  | short text short => rw [fullPieces_short short]; rfl
  | full text full ih =>
    rw [fullPieces_full wide full, List.flatten_cons, List.append_assoc, ih, fitting_append]

/-- Less than a full piece is left. -/
theorem fullPieces_rest (wide : 4 ≤ maxBytes) (text : List Char) :
    byteCount (fullPieces maxBytes text).2 < maxBytes := by
  induction text using fullPieces_induction wide with
  | short text short => rw [fullPieces_short short]; exact short
  | full text full ih => rw [fullPieces_full wide full]; exact ih

/-- The pieces are the same if some were cut off before the rest came. -/
theorem fullPieces_append (wide : 4 ≤ maxBytes) (text more : List Char) :
    fullPieces maxBytes (text ++ more) =
      ((fullPieces maxBytes text).1 ++ (fullPieces maxBytes ((fullPieces maxBytes text).2 ++ more)).1,
        (fullPieces maxBytes ((fullPieces maxBytes text).2 ++ more)).2) := by
  induction text using fullPieces_induction wide with
  | short text short => rw [fullPieces_short short]; rfl
  | full text full ih =>
    have longer : maxBytes ≤ byteCount (text ++ more) := by
      rw [byteCount_append]
      omega
    have fits := fitting_append_of_full full more
    have within : (fitting maxBytes text).length ≤ text.length := by
      have whole := congrArg List.length (fitting_append maxBytes text)
      rw [List.length_append] at whole
      omega
    rw [fullPieces_full wide longer, fits, List.drop_append_of_le_length within, ih,
      fullPieces_full wide full]
    rfl

end MtrxPeer
