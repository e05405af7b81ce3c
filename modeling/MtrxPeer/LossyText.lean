import MtrxPeer.Bytes
import Mathlib.Tactic.SplitIfs

/-! `String::from_utf8_lossy`: text as it is, and U+FFFD for every longest start of a
character that is not completed. -/
namespace MtrxPeer

/-- The character some bytes begin with. -/
def decodeChar (bytes : Bytes) : Option Char := ByteArray.utf8DecodeChar? bytes.toByteArray 0

/-- A continuation byte. -/
def isContinuation (n : Nat) : Bool := 0x80 ≤ n && n ≤ 0xBF

/-- A second byte that a first one of three or four bytes allows. -/
def allowsSecond (first second : Nat) : Bool :=
  (first = 0xE0 && 0xA0 ≤ second && second ≤ 0xBF) ||
    (0xE1 ≤ first && first ≤ 0xEC && isContinuation second) ||
    (first = 0xED && 0x80 ≤ second && second ≤ 0x9F) ||
    (0xEE ≤ first && first ≤ 0xEF && isContinuation second) ||
    (first = 0xF0 && 0x90 ≤ second && second ≤ 0xBF) ||
    (0xF1 ≤ first && first ≤ 0xF3 && isContinuation second) ||
    (first = 0xF4 && 0x80 ≤ second && second ≤ 0x8F)

/-- How many bytes one replacement stands for. -/
def invalidLength : Bytes → Nat
  | first :: second :: rest =>
    if allowsSecond first.toNat second.toNat then
      if 0xF0 ≤ first.toNat then
        match rest with
        | third :: _ => if isContinuation third.toNat then 3 else 2
        | [] => 2
      else 2
    else 1
  | _ => 1

/-- The loop of `from_utf8_lossy`; every turn takes a byte or more. -/
def lossyChars : (fuel : Nat) → Bytes → List Char
  | 0, _ => []
  | _ + 1, [] => []
  | fuel + 1, byte :: rest =>
    match decodeChar (byte :: rest) with
    | some c => c :: lossyChars fuel ((byte :: rest).drop c.utf8Size)
    | none => Char.ofNat 0xFFFD :: lossyChars fuel ((byte :: rest).drop (invalidLength (byte :: rest)))

/-- `String::from_utf8_lossy`. -/
def fromUtf8Lossy (bytes : Bytes) : List Char := lossyChars bytes.length bytes

theorem utf8_cons (c : Char) (rest : List Char) :
    utf8 (String.ofList (c :: rest)) = String.utf8EncodeChar c ++ utf8 (String.ofList rest) := by
  simp only [utf8, String.toUTF8_eq_toByteArray, String.toByteArray_ofList]
  rw [List.utf8Encode_cons, List.utf8Encode_singleton, ByteArray.data_append, List.data_toByteArray,
    Array.toList_append]

theorem decodeChar_encode (c : Char) (rest : Bytes) :
    decodeChar (String.utf8EncodeChar c ++ rest) = some c := by
  rw [decodeChar, List.toByteArray_append]
  exact ByteArray.utf8DecodeChar?_utf8EncodeChar_append

/-- Text is decoded as it is. -/
theorem fromUtf8Lossy_utf8 (text : List Char) : fromUtf8Lossy (utf8 (String.ofList text)) = text := by
  have enough : ∀ fuel, (utf8 (String.ofList text)).length ≤ fuel →
      lossyChars fuel (utf8 (String.ofList text)) = text := by
    induction text with
    | nil =>
      intro fuel _
      have empty : utf8 (String.ofList []) = [] := rfl
      rw [empty]
      cases fuel <;> rfl
    | cons c rest ih =>
      intro fuel room
      rw [utf8_cons] at room ⊢
      have length := String.length_utf8EncodeChar c
      have positive := c.utf8Size_pos
      rw [List.length_append, length] at room
      cases fuel with
      | zero => omega
      | succ fuel =>
        have decoded := decodeChar_encode c (utf8 (String.ofList rest))
        cases front : String.utf8EncodeChar c ++ utf8 (String.ofList rest) with
        | nil =>
          have none_ := congrArg List.length front
          rw [List.length_append, length] at none_
          simp at none_
          omega
        | cons byte more =>
          rw [front] at decoded
          simp only [lossyChars, decoded]
          rw [← front, ← length, List.drop_left, ih fuel (by omega)]
  exact enough _ (Nat.le_refl _)

/-! ## Text line by line -/

/-- A character of two bytes or more has no ASCII byte. -/
private theorem encoded_high {c : Char} (wide : c.utf8Size ≠ 1) :
    ∀ byte ∈ String.utf8EncodeChar c, 128 ≤ byte.toNat := by
  intro byte member
  unfold String.utf8EncodeChar at member
  dsimp only at member
  split_ifs at member with small <;> simp only [List.mem_cons, List.not_mem_nil, or_false] at member
  · exact absurd (if_pos small) wide
  · rcases member with rfl | rfl <;> rw [UInt8.toNat_ofNat'] <;> omega
  · rcases member with rfl | rfl | rfl <;> rw [UInt8.toNat_ofNat'] <;> omega
  · rcases member with rfl | rfl | rfl | rfl <;> rw [UInt8.toNat_ofNat'] <;> omega

private theorem decodeChar_some {bytes : Bytes} {c : Char} (decoded : decodeChar bytes = some c) :
    ∃ rest, bytes = String.utf8EncodeChar c ++ rest := by
  obtain ⟨rest, same⟩ := ByteArray.exists_of_utf8DecodeChar?_eq_some decoded
  refine ⟨rest.data.toList, ?_⟩
  have lists := congrArg (fun array => array.data.toList) same
  simpa using lists

private theorem invalidLength_pos (bytes : Bytes) : 0 < invalidLength bytes := by
  unfold invalidLength
  grind

private theorem lossyChars_enough (fuel : Nat) {bytes : Bytes} (enough : bytes.length ≤ fuel) :
    lossyChars fuel bytes = fromUtf8Lossy bytes := by
  have agree : ∀ fuel fuel' bytes, bytes.length ≤ fuel → bytes.length ≤ fuel' →
      lossyChars fuel bytes = lossyChars fuel' bytes := by
    intro fuel
    induction fuel with
    | zero =>
      intro fuel' bytes room _
      obtain rfl := List.length_eq_zero_iff.mp (Nat.le_zero.mp room)
      cases fuel' <;> rfl
    | succ fuel ih =>
      intro fuel' bytes room room'
      cases bytes with
      | nil => cases fuel' <;> rfl
      | cons byte rest =>
        cases fuel' with
        | zero => simp at room'
        | succ fuel' =>
          have shorter : ∀ n, 0 < n → ((byte :: rest).drop n).length ≤ rest.length := by
            intro n positive
            rw [List.length_drop, List.length_cons]
            omega
          rw [List.length_cons] at room room'
          cases decoded : decodeChar (byte :: rest) with
          | some c =>
            have fewer := shorter c.utf8Size c.utf8Size_pos
            simp only [lossyChars, decoded]
            rw [ih fuel' _ (by omega) (by omega)]
          | none =>
            have fewer := shorter _ (invalidLength_pos (byte :: rest))
            simp only [lossyChars, decoded]
            rw [ih fuel' _ (by omega) (by omega)]
  exact agree _ _ _ enough (Nat.le_refl _)

private theorem fromUtf8Lossy_some {bytes : Bytes} {c : Char} (decoded : decodeChar bytes = some c) :
    fromUtf8Lossy bytes = c :: fromUtf8Lossy (bytes.drop c.utf8Size) := by
  cases bytes with
  | nil =>
    obtain ⟨more, same⟩ := decodeChar_some decoded
    have length := congrArg List.length same
    have positive := c.utf8Size_pos
    rw [List.length_append, String.length_utf8EncodeChar, List.length_nil] at length
    omega
  | cons byte rest =>
    have positive := c.utf8Size_pos
    rw [fromUtf8Lossy, List.length_cons, lossyChars, decoded]
    dsimp only
    rw [lossyChars_enough _ (by rw [List.length_drop, List.length_cons]; omega)]

private theorem fromUtf8Lossy_none {bytes : Bytes} (some_ : bytes ≠ [])
    (invalid : decodeChar bytes = none) :
    fromUtf8Lossy bytes = Char.ofNat 0xFFFD :: fromUtf8Lossy (bytes.drop (invalidLength bytes)) := by
  obtain ⟨byte, rest, rfl⟩ := List.exists_cons_of_ne_nil some_
  have positive := invalidLength_pos (byte :: rest)
  rw [fromUtf8Lossy, List.length_cons, lossyChars, invalid]
  dsimp only
  rw [lossyChars_enough _ (by rw [List.length_drop, List.length_cons]; omega)]

/-- The character before a newline does not reach over it. -/
private theorem decodeChar_line {front rest : Bytes} {c : Char} (some_ : front ≠ [])
    (decoded : decodeChar (front ++ 10 :: rest) = some c) :
    ∃ more, front = String.utf8EncodeChar c ++ more := by
  obtain ⟨left, same⟩ := decodeChar_some decoded
  rcases List.append_eq_append_iff.mp same.symm with ⟨more, whole, -⟩ | ⟨more, over_, tail⟩
  · exact ⟨more, whole⟩
  · cases more with
    | nil => exact ⟨[], by simpa using over_.symm⟩
    | cons byte more =>
      obtain ⟨rfl, -⟩ := List.cons.inj tail
      have long := congrArg List.length over_
      have positive := List.length_pos_iff.mpr some_
      rw [String.length_utf8EncodeChar, List.length_append, List.length_cons] at long
      have high := encoded_high (c := c) (by omega) 10 (by rw [over_]; simp)
      exact absurd high (by decide)

private theorem invalidLength_line (byte : UInt8) (front rest : Bytes) :
    invalidLength (byte :: front ++ 10 :: rest) ≤ (byte :: front).length ∧
      invalidLength (byte :: front ++ 10 :: rest) = invalidLength (byte :: front) := by
  have first : ∀ n, allowsSecond n 10 = false := by
    intro n
    simp [allowsSecond, isContinuation]
  match front with
  | [] => simp [invalidLength, first]
  | [second] =>
    have third : isContinuation 10 = false := rfl
    simp only [invalidLength, List.cons_append, List.nil_append, List.length_cons, List.length_nil]
    split_ifs <;> simp_all
  | second :: next :: more =>
    simp only [invalidLength, List.cons_append, List.length_cons]
    split_ifs <;> simp

/-- A text is decoded line by line. -/
theorem fromUtf8Lossy_line (front rest : Bytes) :
    fromUtf8Lossy (front ++ 10 :: rest) = fromUtf8Lossy front ++ '\n' :: fromUtf8Lossy rest := by
  induction length : front.length using Nat.strongRecOn generalizing front with
  | ind n ih =>
    subst length
    cases front with
    | nil =>
      have newline : decodeChar (10 :: rest) = some '\n' := decodeChar_encode '\n' rest
      rw [List.nil_append, fromUtf8Lossy_some newline]
      rfl
    | cons byte front =>
      cases decoded : decodeChar (byte :: front ++ 10 :: rest) with
      | some c =>
        obtain ⟨more, same⟩ := decodeChar_line (List.cons_ne_nil _ _) decoded
        have again : decodeChar (byte :: front) = some c := by
          rw [same]
          exact decodeChar_encode c _
        have fewer := congrArg List.length same
        have positive := c.utf8Size_pos
        rw [List.length_append, String.length_utf8EncodeChar] at fewer
        rw [fromUtf8Lossy_some decoded, fromUtf8Lossy_some again, same, List.append_assoc,
          ← String.length_utf8EncodeChar, List.drop_left, List.drop_left,
          ih more.length (by omega) more rfl, List.cons_append]
      | none =>
        have again : decodeChar (byte :: front) = none := by
          cases other : decodeChar (byte :: front) with
          | none => rfl
          | some c =>
            obtain ⟨more, same⟩ := decodeChar_some other
            rw [same, List.append_assoc, decodeChar_encode] at decoded
            cases decoded
        obtain ⟨inside, same⟩ := invalidLength_line byte front rest
        have positive := invalidLength_pos (byte :: front)
        have shorter : ((byte :: front).drop (invalidLength (byte :: front))).length <
            (byte :: front).length := by
          rw [List.length_drop, List.length_cons]
          omega
        rw [same] at inside
        have next := ih _ shorter _ rfl
        rw [← List.drop_append_of_le_length inside] at next
        rw [fromUtf8Lossy_none (by simp) decoded, same, next,
          fromUtf8Lossy_none (List.cons_ne_nil _ _) again, List.cons_append]

end MtrxPeer
