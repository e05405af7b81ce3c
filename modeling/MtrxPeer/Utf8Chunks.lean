import MtrxPeer.BytePositions

/-! The loop of `chunk_utf8` over byte positions, in its three copies. Two of them go on past a
character that is wider than a piece; the third one stands still before it. -/
namespace MtrxPeer

/-! ## The loop -/

/-- `while end > start && !s.is_char_boundary(end) { end -= 1; }` -/
def cutBack (text : List Char) (start : Nat) : (stop : Nat) → Nat
  | 0 => 0
  | stop + 1 =>
    if start < stop + 1 ∧ isCharBoundary text (stop + 1) = false then cutBack text start stop else stop + 1

/-- `while end < s.len() && !s.is_char_boundary(end) { end += 1; }`; `fuel` bounds the turns. -/
def cutOn (text : List Char) : (fuel stop : Nat) → Nat
  | 0, stop => stop
  | fuel + 1, stop =>
    if stop < byteCount text ∧ isCharBoundary text stop = false then cutOn text fuel (stop + 1) else stop

/-- Where a piece ends. `goesOn` says whether a copy goes on to the end of the first character
where nothing fits. -/
def chunkEnd (goesOn : Bool) (text : List Char) (maxBytes start : Nat) : Nat :=
  -- the sum does not overflow: a second turn is made only if `maxBytes` is below the length
  let stop := cutBack text start (min (start + maxBytes) (byteCount text))
  if goesOn = true ∧ stop = start then cutOn text (byteCount text) (min (start + 1) (byteCount text)) else stop

/-- The pieces from a position on. Nothing is returned while the turns go on, and where a slice
panics. -/
def chunkLoop (goesOn : Bool) (text : List Char) (maxBytes : Nat) : (fuel start : Nat) → Option (List String)
  | 0, _ => none
  | fuel + 1, start =>
    if start < byteCount text then do
      let stop := chunkEnd goesOn text maxBytes start
      let piece ← sliceBytes start stop text
      let rest ← chunkLoop goesOn text maxBytes fuel stop
      return String.ofList piece :: rest
    else some []

/-- The modules that have a copy. -/
inductive ChunkCopy where
  | webrtcManager
  | clusterDcE2ee
  | p2pManager
  deriving DecidableEq

/-- `chunk_utf8` of a module, for at most `fuel` turns of its loop. -/
def ChunkCopy.chunkUtf8 (s : String) (maxBytes fuel : Nat) : ChunkCopy → Option (List String)
  | .webrtcManager => chunkLoop true s.toList maxBytes fuel 0
  | .clusterDcE2ee => chunkLoop true s.toList maxBytes fuel 0
  | .p2pManager => chunkLoop false s.toList maxBytes fuel 0

/-- The call comes to its end with these pieces. -/
def ChunkCopy.Returns (copy : ChunkCopy) (s : String) (maxBytes : Nat) (pieces : List String) : Prop :=
  ∃ fuel, copy.chunkUtf8 s maxBytes fuel = some pieces

/-- All copies return the same pieces: none is empty, together they are the text, and where any
character fits they are no longer than allowed. -/
def ChunkedAlike (s : String) (maxBytes : Nat) : Prop :=
  ∃ pieces, (∀ copy : ChunkCopy, copy.Returns s maxBytes pieces) ∧ (∀ piece ∈ pieces, piece ≠ "") ∧
    String.join pieces = s ∧ (4 ≤ maxBytes → ∀ piece ∈ pieces, piece.utf8ByteSize ≤ maxBytes)

/-! ## One turn -/

section Turn

variable {maxBytes : Nat}

/-- Where the room ends at a boundary, all before it fits. -/
private theorem fitting_of_taken {n : Nat} {text front : List Char} (taken : takeBytes n text = some front) :
    fitting n text = front := by
  obtain ⟨back, rfl, rfl⟩ := takeBytes_eq_some_iff.mp taken
  induction front with
  | nil =>
    cases back with
    | nil => rfl
    | cons c back => simp [fitting, Nat.pos_iff_ne_zero.mp c.utf8Size_pos]
  | cons c front ih =>
    rw [List.cons_append, fitting, byteCount_cons, if_pos (by omega), Nat.add_sub_cancel_left,
      ih (takeBytes_append _ _)]

/-- A byte more makes no room where the text cannot be cut after it. -/
private theorem fitting_succ {n : Nat} {text : List Char} (inside : takeBytes (n + 1) text = none) :
    fitting (n + 1) text = fitting n text := by
  induction text generalizing n with
  | nil => rfl
  | cons c rest ih =>
    have some_ := c.utf8Size_pos
    rw [takeBytes] at inside
    rw [fitting, fitting]
    by_cases fits : c.utf8Size ≤ n
    · rw [if_pos (by omega), Option.map_eq_none_iff] at inside
      have less : n + 1 - c.utf8Size = (n - c.utf8Size) + 1 := by omega
      rw [less] at inside ⊢
      rw [if_pos (by omega), if_pos fits, ih inside]
    · by_cases last : c.utf8Size ≤ n + 1
      · have whole : n + 1 - c.utf8Size = 0 := by omega
        rw [if_pos last, whole, takeBytes_zero] at inside
        cases inside
      · rw [if_neg last, if_neg fits]

/-- Going back from a position of the rest ends after what fits before it. -/
private theorem cutBack_beyond (front rest : List Char) (n : Nat) :
    cutBack (front ++ rest) (byteCount front) (byteCount front + n) =
      byteCount front + byteCount (fitting n rest) := by
  induction n with
  | zero =>
    have none_ : fitting 0 rest = [] := fitting_of_taken (takeBytes_zero rest)
    rw [none_, byteCount_nil, Nat.add_zero]
    cases byteCount front with
    | zero => rfl
    | succ start => rw [cutBack, if_neg (by omega)]
  | succ n ih =>
    rw [← Nat.add_assoc, cutBack, Nat.add_assoc, isCharBoundary_beyond, isCharBoundary]
    cases taken : takeBytes (n + 1) rest with
    | none =>
      rw [if_pos ⟨by omega, rfl⟩, ih, fitting_succ taken]
    | some part =>
      obtain ⟨-, -, counted⟩ := takeBytes_eq_some_iff.mp taken
      rw [if_neg (by simp), fitting_of_taken taken, counted]

/-- The length of the text is no limit. -/
private theorem fitting_min (n : Nat) (text : List Char) :
    fitting (min n (byteCount text)) text = fitting n text := by
  induction text generalizing n with
  | nil => simp [fitting]
  | cons c rest ih =>
    rw [fitting, fitting, byteCount_cons]
    by_cases fits : c.utf8Size ≤ n
    · have less : min n (c.utf8Size + byteCount rest) - c.utf8Size = min (n - c.utf8Size) (byteCount rest) := by
        omega
      rw [if_pos (by omega), if_pos fits, less, ih]
    · rw [if_neg (by omega), if_neg fits]

/-- Inside the first character of the rest, going on ends after it. -/
private theorem cutOn_first (front : List Char) (c : Char) (rest : List Char) {fuel n : Nat} (some_ : 0 < n)
    (inside : n ≤ c.utf8Size) (enough : c.utf8Size - n ≤ fuel) :
    cutOn (front ++ c :: rest) fuel (byteCount front + n) = byteCount front + c.utf8Size := by
  induction fuel generalizing n with
  | zero =>
    obtain rfl : n = c.utf8Size := by omega
    rfl
  | succ fuel ih =>
    rw [cutOn, isCharBoundary_beyond]
    by_cases last : n = c.utf8Size
    · have boundary : isCharBoundary (c :: rest) c.utf8Size = true := by
        have taken := takeBytes_append [c] rest
        rw [byteCount_cons, byteCount_nil, Nat.add_zero] at taken
        rw [isCharBoundary, ← List.singleton_append, taken]
        rfl
      rw [last, boundary, if_neg (by simp)]
    · have within : isCharBoundary (c :: rest) n = false := by
        obtain ⟨less, rfl⟩ := Nat.exists_eq_add_of_lt some_
        rw [isCharBoundary, Nat.zero_add, takeBytes, if_neg (by omega)]
        rfl
      have shorter : byteCount front + n < byteCount (front ++ c :: rest) := by
        rw [byteCount_append, byteCount_cons]
        omega
      rw [if_pos ⟨shorter, within⟩, Nat.add_assoc, ih (by omega) (by omega) (by omega)]

/-- What one turn cuts off. -/
private def turn (goesOn : Bool) (maxBytes : Nat) (text : List Char) : List Char :=
  if goesOn then piece maxBytes text else fitting maxBytes text

private theorem turn_append (goesOn : Bool) (text : List Char) :
    turn goesOn maxBytes text ++ text.drop (turn goesOn maxBytes text).length = text := by
  cases goesOn with
  | true => exact piece_append maxBytes text
  | false => exact fitting_append maxBytes text

private theorem chunkEnd_beyond (goesOn : Bool) (front : List Char) (c : Char) (rest : List Char) :
    chunkEnd goesOn (front ++ c :: rest) maxBytes (byteCount front) =
      byteCount (front ++ turn goesOn maxBytes (c :: rest)) := by
  have room : min (byteCount front + maxBytes) (byteCount (front ++ c :: rest)) =
      byteCount front + min maxBytes (byteCount (c :: rest)) := by
    rw [byteCount_append]
    omega
  rw [chunkEnd, room, cutBack_beyond, fitting_min, turn, piece]
  cases fits : fitting maxBytes (c :: rest) with
  | nil =>
    cases goesOn with
    | true =>
      have next : min (byteCount front + 1) (byteCount (front ++ c :: rest)) = byteCount front + 1 := by
        have some_ := c.utf8Size_pos
        rw [byteCount_append, byteCount_cons]
        omega
      have first : byteCount (front ++ [c]) = byteCount front + c.utf8Size := by
        rw [byteCount_append, byteCount_cons, byteCount_nil, Nat.add_zero]
      have enough : c.utf8Size - 1 ≤ byteCount (front ++ c :: rest) := by
        rw [byteCount_append, byteCount_cons]
        omega
      rw [byteCount_nil, Nat.add_zero, if_pos ⟨rfl, rfl⟩, if_pos rfl, next,
        cutOn_first front c rest Nat.one_pos c.utf8Size_pos enough]
      exact first.symm
    | false => simp
  | cons d part =>
    have some_ := d.utf8Size_pos
    rw [byteCount_cons, if_neg (by omega), ite_self, byteCount_append, byteCount_cons]

/-- One turn of the loop, at the end of what was cut off before it. -/
private theorem chunkLoop_turn (goesOn : Bool) (front : List Char) (c : Char) (rest : List Char) (fuel : Nat) :
    chunkLoop goesOn (front ++ c :: rest) maxBytes (fuel + 1) (byteCount front) =
      (chunkLoop goesOn (front ++ c :: rest) maxBytes fuel
        (byteCount (front ++ turn goesOn maxBytes (c :: rest)))).map
          (String.ofList (turn goesOn maxBytes (c :: rest)) :: ·) := by
  have inside : byteCount front < byteCount (front ++ c :: rest) := by
    have some_ := c.utf8Size_pos
    rw [byteCount_append, byteCount_cons]
    omega
  have cut : sliceBytes (byteCount front) (byteCount (front ++ turn goesOn maxBytes (c :: rest)))
      (front ++ c :: rest) = some (turn goesOn maxBytes (c :: rest)) := by
    have slice := sliceBytes_append front (turn goesOn maxBytes (c :: rest))
      ((c :: rest).drop (turn goesOn maxBytes (c :: rest)).length)
    rwa [turn_append] at slice
  rw [chunkLoop, if_pos inside, chunkEnd_beyond]
  dsimp only
  rw [cut]
  cases chunkLoop goesOn (front ++ c :: rest) maxBytes fuel
      (byteCount (front ++ turn goesOn maxBytes (c :: rest))) with
  | none => rfl
  | some others => rfl

end Turn

/-! ## Whole runs -/

/-- Every character fits into a piece. -/
def AllFit (text : List Char) (maxBytes : Nat) : Prop := ∀ c ∈ text, c.utf8Size ≤ maxBytes

section Runs

variable {maxBytes : Nat}

private theorem turn_of_fit {goesOn : Bool} {c : Char} {rest : List Char} (fits : goesOn = true ∨ c.utf8Size ≤ maxBytes) :
    turn goesOn maxBytes (c :: rest) = piece maxBytes (c :: rest) := by
  cases goesOn with
  | true => rfl
  | false =>
    have first := fits.resolve_left Bool.false_ne_true
    rw [turn, if_neg Bool.false_ne_true, piece, fitting, if_pos first]

/-- A copy that goes on, and each one where all characters fit, cuts off all pieces. -/
private theorem chunkLoop_pieces {goesOn : Bool} {rest : List Char} (fits : goesOn = true ∨ AllFit rest maxBytes)
    (front : List Char) {fuel : Nat} (enough : rest.length < fuel) :
    chunkLoop goesOn (front ++ rest) maxBytes fuel (byteCount front) =
      some ((pieces maxBytes rest).map String.ofList) := by
  fun_induction pieces maxBytes rest generalizing front fuel with
  | case1 =>
    obtain ⟨fuel, rfl⟩ := Nat.exists_eq_succ_of_ne_zero (Nat.ne_of_gt enough)
    rw [List.append_nil, chunkLoop, if_neg (Nat.lt_irrefl _)]
    rfl
  | case2 c rest ih =>
    obtain ⟨fuel, rfl⟩ := Nat.exists_eq_succ_of_ne_zero (Nat.ne_of_gt (Nat.zero_lt_of_lt enough))
    have first : turn goesOn maxBytes (c :: rest) = piece maxBytes (c :: rest) :=
      turn_of_fit (fits.imp_right fun all => all c List.mem_cons_self)
    have advances := piece_length_pos maxBytes c rest
    have shorter : ((c :: rest).drop (piece maxBytes (c :: rest)).length).length < fuel := by
      rw [List.length_drop]
      simp only [List.length_cons] at enough ⊢
      omega
    have later := ih (fits.imp_right fun all d member => all d (List.mem_of_mem_drop member))
      (front ++ piece maxBytes (c :: rest)) shorter
    rw [List.append_assoc, piece_append] at later
    rw [chunkLoop_turn, first, later, Option.map_some, List.map_cons]

/-- Where a character does not fit, the copy that does not go on never ends. -/
private theorem chunkLoop_stuck {rest : List Char} (wide : ¬ AllFit rest maxBytes) (front : List Char) (fuel : Nat) :
    chunkLoop false (front ++ rest) maxBytes fuel (byteCount front) = none := by
  induction fuel generalizing front rest with
  | zero => rfl
  | succ fuel ih =>
    cases rest with
    | nil => exact absurd (fun c member => absurd member List.not_mem_nil) wide
    | cons c rest =>
      -- the character is not in what fits, so the next turn has it before it still
      have still : ¬ AllFit ((c :: rest).drop (fitting maxBytes (c :: rest)).length) maxBytes := by
        intro later
        refine wide fun d member => ?_
        rw [← fitting_append maxBytes (c :: rest), List.mem_append] at member
        rcases member with inside | behind
        · exact fitting_width inside
        · exact later d behind
      have stuck := ih still (front ++ fitting maxBytes (c :: rest))
      rw [List.append_assoc, fitting_append] at stuck
      rw [chunkLoop_turn]
      simp only [turn, Bool.false_eq_true, if_false, stuck, Option.map_none]

end Runs

/-! ## The pieces -/

private theorem pieces_ne_nil (maxBytes : Nat) (text : List Char) : ∀ part ∈ pieces maxBytes text, part ≠ [] := by
  fun_induction pieces maxBytes text with
  | case1 => simp
  | case2 c rest ih =>
    rw [List.forall_mem_cons]
    exact ⟨List.ne_nil_of_length_pos (piece_length_pos maxBytes c rest), ih⟩

/-- A copy that goes on, and each one where all characters fit, returns the pieces of the text. -/
theorem ChunkCopy.returns_pieces {copy : ChunkCopy} {s : String} {maxBytes : Nat}
    (fits : copy ≠ .p2pManager ∨ AllFit s.toList maxBytes) :
    copy.Returns s maxBytes (MtrxPeer.chunkUtf8 s maxBytes) := by
  refine ⟨s.toList.length + 1, ?_⟩
  cases copy with
  | webrtcManager => exact chunkLoop_pieces (.inl rfl) [] (Nat.lt_succ_self _)
  | clusterDcE2ee => exact chunkLoop_pieces (.inl rfl) [] (Nat.lt_succ_self _)
  | p2pManager =>
    exact chunkLoop_pieces (.inr (fits.resolve_left fun other => other rfl)) [] (Nat.lt_succ_self _)

/-- The third copy never ends where a character does not fit. -/
theorem p2pManager_never_returns {s : String} {maxBytes : Nat} (wide : ¬ AllFit s.toList maxBytes)
    (pieces : List String) : ¬ ChunkCopy.p2pManager.Returns s maxBytes pieces := by
  rintro ⟨fuel, ran⟩
  have stuck := chunkLoop_stuck wide [] fuel
  rw [List.nil_append, byteCount_nil] at stuck
  exact Option.some_ne_none pieces (ran.symm.trans stuck)

end MtrxPeer
