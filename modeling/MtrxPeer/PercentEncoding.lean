import MtrxPeer.LossyText

/-! Percent-encoding. A byte is written as a percent sign and two digits, and read back from
them; what is no such escape stands for its own UTF-8. -/
namespace MtrxPeer

/-! ## Writing and reading -/

/-- One upper-case hexadecimal digit. -/
def upperHexDigit (n : Nat) : Char := "0123456789ABCDEF".toList.getD n '0'

/-- `format!("%{:02X}", byte)`. -/
def percentByte (byte : UInt8) : List Char :=
  ['%', upperHexDigit (byte.toNat / 16), upperHexDigit (byte.toNat % 16)]

/-- The byte of an escape. -/
def escapedByte (sign high low : Char) : Option UInt8 :=
  if sign = '%' then do
    let high ← hexValue high
    let low ← hexValue low
    return UInt8.ofNat (high * 16 + low)
  else none

/-- Percent-decoding. -/
def percentDecode : List Char → Bytes
  | c :: high :: low :: rest =>
    match escapedByte c high low with
    | some byte => byte :: percentDecode rest
    | none => String.utf8EncodeChar c ++ percentDecode (high :: low :: rest)
  | c :: rest => String.utf8EncodeChar c ++ percentDecode rest
  | [] => []

/-- Percent-decoding as UTF-8. -/
def decodeComponent (component : String) : Option String := fromUtf8 (percentDecode component.toList)

/-! ## Reading what was written -/

private theorem hexValue_upper : ∀ n < 16, hexValue (upperHexDigit n) = some n := by decide

theorem percentDecode_percentByte (byte : UInt8) (rest : List Char) :
    percentDecode (percentByte byte ++ rest) = byte :: percentDecode rest := by
  have small := byte.toNat_lt
  have escape : escapedByte '%' (upperHexDigit (byte.toNat / 16)) (upperHexDigit (byte.toNat % 16)) =
      some byte := by
    have value : byte.toNat / 16 * 16 + byte.toNat % 16 = byte.toNat := by omega
    simp only [escapedByte, if_true, hexValue_upper (byte.toNat / 16) (by omega),
      hexValue_upper (byte.toNat % 16) (by omega), Option.bind_eq_bind, Option.bind_some, value]
    exact congrArg some UInt8.ofNat_toNat
  rw [percentByte, List.cons_append, List.cons_append, List.cons_append, List.nil_append, percentDecode,
    escape]

/-- A character other than the percent sign stands for itself. -/
theorem percentDecode_plain {c : Char} (plain : c ≠ '%') (rest : List Char) :
    percentDecode (c :: rest) = String.utf8EncodeChar c ++ percentDecode rest := by
  match rest with
  | [] => rfl
  | [d] => rfl
  | high :: low :: rest => rw [percentDecode, escapedByte, if_neg plain]

/-! ## ASCII -/

/-- A character of one byte. -/
def AsciiChar (c : Char) : Prop := c.toNat < 128

/-- A text of ASCII characters only. -/
def AsciiText (text : String) : Prop := ∀ c ∈ text.toList, AsciiChar c

theorem asciiChar_iff {c : Char} : AsciiChar c ↔ c.utf8Size = 1 := by
  rw [Char.utf8Size_eq_one_iff, AsciiChar, UInt32.le_iff_toNat_le]
  exact Nat.lt_succ_iff

theorem encode_ascii {c : Char} (ascii : AsciiChar c) : String.utf8EncodeChar c = [UInt8.ofNat c.toNat] :=
  String.utf8EncodeChar_eq_singleton (asciiChar_iff.mp ascii)

/-- The bytes of an ASCII text are its characters. -/
theorem utf8_ascii {text : List Char} (ascii : ∀ c ∈ text, AsciiChar c) :
    utf8 (String.ofList text) = text.map fun c => UInt8.ofNat c.toNat := by
  induction text with
  | nil => rfl
  | cons c rest ih =>
    rw [List.forall_mem_cons] at ascii
    rw [utf8_cons, encode_ascii ascii.1, ih ascii.2]
    rfl

/-- A text with a byte for each of its characters is ASCII. -/
theorem ascii_of_length {text : List Char} (short : (utf8 (String.ofList text)).length ≤ text.length) :
    ∀ c ∈ text, AsciiChar c := by
  have more : ∀ text : List Char, text.length ≤ (utf8 (String.ofList text)).length := by
    intro text
    induction text with
    | nil => exact Nat.zero_le _
    | cons c rest ih =>
      have some_ := c.utf8Size_pos
      rw [utf8_cons, List.length_append, String.length_utf8EncodeChar, List.length_cons]
      omega
  induction text with
  | nil => simp
  | cons c rest ih =>
    have others := more rest
    have some_ := c.utf8Size_pos
    rw [utf8_cons, List.length_append, String.length_utf8EncodeChar, List.length_cons] at short
    rw [List.forall_mem_cons]
    exact ⟨asciiChar_iff.mpr (by omega), ih (by omega)⟩

end MtrxPeer
