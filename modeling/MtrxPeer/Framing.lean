import MtrxPeer.Bytes
import Mathlib.Data.List.Basic

/-! Frames in a byte stream: a payload behind its length, and one before a mark. What a reader
with a limit makes of a frame is said for every payload, also where the length does not fit. -/
namespace MtrxPeer

/-! ## Numbers of fixed width -/

/-- A number as little-endian bytes; what does not fit is cut off. -/
def littleEndian : (width : Nat) → Nat → Bytes
  | 0, _ => []
  | width + 1, n => UInt8.ofNat (n % 256) :: littleEndian width (n / 256)

def fromLittleEndian : Bytes → Nat
  | [] => 0
  | byte :: rest => byte.toNat + 256 * fromLittleEndian rest

@[simp] theorem littleEndian_length (width n : Nat) : (littleEndian width n).length = width := by
  induction width generalizing n with
  | zero => rfl
  | succ width ih => rw [littleEndian, List.length_cons, ih]

@[simp] theorem fromLittleEndian_littleEndian (width n : Nat) :
    fromLittleEndian (littleEndian width n) = n % 256 ^ width := by
  induction width generalizing n with
  | zero => rw [littleEndian, fromLittleEndian, Nat.pow_zero, Nat.mod_one]
  | succ width ih =>
    have low : (UInt8.ofNat (n % 256)).toNat = n % 256 := by
      rw [UInt8.toNat_ofNat']
      omega
    rw [littleEndian, fromLittleEndian, low, ih, Nat.pow_succ, Nat.mul_comm (256 ^ width) 256,
      Nat.mod_mul]

/-! ## A length before the payload -/

/-- The first bytes, if there are so many. -/
def takeExact (count : Nat) (bytes : Bytes) : Option (Bytes × Bytes) :=
  if count ≤ bytes.length then some (bytes.take count, bytes.drop count) else none

theorem takeExact_append {count : Nat} {front : Bytes} (whole : front.length = count) (rest : Bytes) :
    takeExact count (front ++ rest) = some (front, rest) := by
  subst whole
  rw [takeExact, if_pos (by simp), List.take_left, List.drop_left]

/-- A payload behind its length. -/
def framed (width : Nat) (payload : Bytes) : Bytes := littleEndian width payload.length ++ payload

/-- A frame whose length is at most `limit`. -/
def readFramed (width limit : Nat) (bytes : Bytes) : Option (Bytes × Bytes) :=
  match takeExact width bytes with
  | some (length, rest) =>
    if limit < fromLittleEndian length then none else takeExact (fromLittleEndian length) rest
  | none => none

/-- A reader takes as many bytes as the length says that was written. -/
theorem readFramed_framed (width limit : Nat) (payload rest : Bytes) :
    readFramed width limit (framed width payload ++ rest) =
      if limit < payload.length % 256 ^ width then none
      else takeExact (payload.length % 256 ^ width) (payload ++ rest) := by
  rw [readFramed, framed, List.append_assoc, takeExact_append (littleEndian_length _ _)]
  simp only [fromLittleEndian_littleEndian]

/-- A payload that is no longer than the limit is read. -/
theorem readFramed_of_le {width limit : Nat} (narrow : limit < 256 ^ width) {payload : Bytes}
    (short : payload.length ≤ limit) (rest : Bytes) :
    readFramed width limit (framed width payload ++ rest) = some (payload, rest) := by
  have whole : payload.length % 256 ^ width = payload.length := Nat.mod_eq_of_lt (by omega)
  rw [readFramed_framed, whole, if_neg (by omega)]
  exact takeExact_append rfl rest

/-- Of a longer payload at most a start is read, and the rest of it is taken for the next frame. -/
theorem readFramed_of_lt {width limit : Nat} {payload : Bytes} (long : limit < payload.length)
    {rest read left : Bytes}
    (ran : readFramed width limit (framed width payload ++ rest) = some (read, left)) :
    ∃ more, more ≠ [] ∧ payload = read ++ more ∧ left = more ++ rest := by
  rw [readFramed_framed] at ran
  split at ran
  · cases ran
  · rename_i under
    rw [takeExact] at ran
    split at ran
    · obtain ⟨rfl, rfl⟩ := Prod.mk.inj (Option.some.inj ran)
      have inside : payload.length % 256 ^ width < payload.length := by omega
      refine ⟨payload.drop (payload.length % 256 ^ width), ?_, ?_, ?_⟩
      · rw [ne_eq, List.drop_eq_nil_iff]
        omega
      · rw [List.take_append_of_le_length (Nat.le_of_lt inside), List.take_append_drop]
      · rw [List.drop_append_of_le_length (Nat.le_of_lt inside)]
    · cases ran

/-! ## A mark behind the payload -/

/-- The bytes up to a mark; a limit is checked as they are taken in. -/
def readTerminated (mark : UInt8) (limit : Option Nat) : (buffer bytes : Bytes) → Option (Bytes × Bytes)
  | _, [] => none
  | buffer, byte :: rest =>
    if byte = mark then some (buffer, rest)
    else if limit.any (· < buffer.length + 1) then none
    else readTerminated mark limit (buffer ++ [byte]) rest

private theorem readTerminated_buffer {mark : UInt8} {limit : Option Nat} {payload : Bytes}
    (absent : mark ∉ payload) (buffer rest : Bytes) (so_far : limit.any (· < buffer.length) = false) :
    readTerminated mark limit buffer (payload ++ mark :: rest) =
      if limit.any (· < buffer.length + payload.length) then none else some (buffer ++ payload, rest) := by
  induction payload generalizing buffer with
  | nil => simp [readTerminated, so_far]
  | cons byte payload ih =>
    obtain ⟨other, later⟩ := not_or.mp (mt List.mem_cons.mpr absent)
    rw [List.cons_append, readTerminated, if_neg (Ne.symm other)]
    by_cases beyond : limit.any (· < buffer.length + 1) = true
    · have still : limit.any (· < buffer.length + (byte :: payload).length) = true := by
        cases limit with
        | none => cases beyond
        | some limit =>
          simp only [Option.any_some, decide_eq_true_eq, List.length_cons] at beyond ⊢
          omega
      rw [if_pos beyond, if_pos still]
    · have counted : buffer.length + (byte :: payload).length = (buffer ++ [byte]).length + payload.length := by
        rw [List.length_append, List.length_cons, List.length_singleton]
        omega
      rw [if_neg beyond, ih later _ (by simpa using beyond), counted, List.append_assoc,
        List.singleton_append]

/-- A payload without the mark is read unless it is beyond the limit. -/
theorem readTerminated_append {mark : UInt8} {limit : Option Nat} {payload : Bytes}
    (absent : mark ∉ payload) (rest : Bytes) :
    readTerminated mark limit [] (payload ++ mark :: rest) =
      if limit.any (· < payload.length) then none else some (payload, rest) := by
  have none_ : limit.any (· < ([] : Bytes).length) = false := by cases limit <;> simp
  rw [readTerminated_buffer absent [] rest none_, List.length_nil, Nat.zero_add, List.nil_append]

end MtrxPeer
