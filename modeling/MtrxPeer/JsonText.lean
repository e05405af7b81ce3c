import MtrxPeer.Bytes
import MtrxPeer.Json

/-! JSON text as `serde_json` writes and reads it: the compact writer
(`to_string`) and the reader (`from_str`) with its recursion limit. Text is a
character list, so the reader is structural and both sides run. -/
namespace MtrxPeer.Json

/-! ## Writing -/

/-- The escapes of the compact writer; a control character without a short
form becomes `\u00xx`. -/
def escapeChar (c : Char) : List Char :=
  if c = '"' then ['\\', '"']
  else if c = '\\' then ['\\', '\\']
  else if c = '\n' then ['\\', 'n']
  else if c = '\r' then ['\\', 'r']
  else if c = '\t' then ['\\', 't']
  else if c.toNat = 8 then ['\\', 'b']
  else if c.toNat = 12 then ['\\', 'f']
  else if c.toNat < 32 then
    ['\\', 'u', '0', '0', hexDigit (c.toNat / 16), hexDigit (c.toNat % 16)]
  else [c]

def writeString (s : String) : List Char :=
  '"' :: (s.toList.flatMap escapeChar ++ ['"'])

def writeNumber : Number → List Char
  | .int value => value.repr.toList
  | .float text => text.toList

mutual

/-- `serde_json::to_string`. -/
def write : Json → List Char
  | .null => ['n', 'u', 'l', 'l']
  | .bool true => ['t', 'r', 'u', 'e']
  | .bool false => ['f', 'a', 'l', 's', 'e']
  | .num n => writeNumber n
  | .str s => writeString s
  | .arr [] => ['[', ']']
  | .arr (item :: rest) => '[' :: (write item ++ writeItems rest)
  | .obj [] => ['{', '}']
  | .obj ((key, value) :: rest) =>
    '{' :: (writeString key ++ ':' :: (write value ++ writeFields rest))

/-- The items after the first one, each behind its comma, and the bracket. -/
def writeItems : List Json → List Char
  | [] => [']']
  | item :: rest => ',' :: (write item ++ writeItems rest)

def writeFields : List (String × Json) → List Char
  | [] => ['}']
  | (key, value) :: rest => ',' :: (writeString key ++ ':' :: (write value ++ writeFields rest))

end

/-- `serde_json::to_string`, as a string. -/
def toText (json : Json) : String := String.ofList (write json)

/-! ## Reading -/

def skipSpace : List Char → List Char
  | c :: rest => if c = ' ' ∨ c = '\n' ∨ c = '\t' ∨ c = '\r' then skipSpace rest else c :: rest
  | [] => []

def hex4 (a b c d : Char) : Option Nat := do
  let a ← hexValue a
  let b ← hexValue b
  let c ← hexValue c
  let d ← hexValue d
  return ((a * 16 + b) * 16 + c) * 16 + d

/-- The escapes that stand for one character. -/
def shortEscape (c : Char) : Option Char :=
  if c = '"' then some '"'
  else if c = '\\' then some '\\'
  else if c = '/' then some '/'
  else if c = 'n' then some '\n'
  else if c = 'r' then some '\r'
  else if c = 't' then some '\t'
  else if c = 'b' then some (Char.ofNat 8)
  else if c = 'f' then some (Char.ofNat 12)
  else none

def pushChar (c : Char) : Option (List Char × List Char) → Option (List Char × List Char)
  | some (text, rest) => some (c :: text, rest)
  | none => none

/-- The characters of a string up to its closing quote. A lone surrogate, a
raw control character and an unknown escape are errors. -/
def readString : List Char → Option (List Char × List Char)
  | [] => none
  | '"' :: rest => some ([], rest)
  | '\\' :: 'u' :: a :: b :: c :: d :: rest =>
    match hex4 a b c d with
    | none => none
    | some n =>
      if 0xD800 ≤ n ∧ n < 0xDC00 then
        match rest with
        | '\\' :: 'u' :: e :: f :: g :: h :: tail =>
          match hex4 e f g h with
          | none => none
          | some m =>
            if 0xDC00 ≤ m ∧ m < 0xE000 then
              pushChar (Char.ofNat (0x10000 + (n - 0xD800) * 0x400 + (m - 0xDC00))) (readString tail)
            else none
        | _ => none
      else if 0xDC00 ≤ n ∧ n < 0xE000 then none
      else pushChar (Char.ofNat n) (readString rest)
  | '\\' :: c :: rest =>
    match shortEscape c with
    | some plain => pushChar plain (readString rest)
    | none => none
  | c :: rest => if c.toNat < 32 then none else pushChar c (readString rest)

def takeDigits : List Char → List Char × List Char
  | c :: rest => if c.isDigit then let (digits, tail) := takeDigits rest; (c :: digits, tail)
    else ([], c :: rest)
  | [] => ([], [])

/-- The integer part: a lone zero, or digits without a leading zero. -/
def readInteger (text : List Char) : Option (List Char × List Char) :=
  match takeDigits text with
  | ([], _) => none
  | ('0' :: _ :: _, _) => none
  | (digits, rest) => some (digits, rest)

/-- The fraction: nothing, or a point and at least one digit. -/
def readFraction : List Char → Option (List Char × List Char)
  | '.' :: rest =>
    match takeDigits rest with
    | ([], _) => none
    | (digits, tail) => some ('.' :: digits, tail)
  | rest => some ([], rest)

def readSign : List Char → List Char × List Char
  | '+' :: rest => (['+'], rest)
  | '-' :: rest => (['-'], rest)
  | rest => ([], rest)

/-- The exponent: nothing, or `e` with an optional sign and a digit. -/
def readExponent : List Char → Option (List Char × List Char)
  | c :: rest =>
    if c = 'e' ∨ c = 'E' then
      let (sign, tail) := readSign rest
      match takeDigits tail with
      | ([], _) => none
      | (digits, final) => some (c :: (sign ++ digits), final)
    else some ([], c :: rest)
  | [] => some ([], [])

/-- An integer literal in range is an integer; `-0`, an integer out of range
and every literal with a point or an exponent are floats. -/
def classify (negative : Bool) (digits fraction exponent : List Char) : Number :=
  let value := Nat.ofDigitChars 10 digits 0
  if fraction = [] ∧ exponent = [] ∧ negative = false ∧ value < 2 ^ 64 then .int value
  else if fraction = [] ∧ exponent = [] ∧ negative = true ∧ 0 < value ∧ value ≤ 2 ^ 63 then
    .int (-value)
  else .float (String.ofList ((if negative then ['-'] else []) ++ digits ++ fraction ++ exponent))

/-- A number after its optional minus sign. -/
def readUnsigned (negative : Bool) (text : List Char) : Option (Number × List Char) := do
  let (digits, rest) ← readInteger text
  let (fraction, rest) ← readFraction rest
  let (exponent, rest) ← readExponent rest
  return (classify negative digits fraction exponent, rest)

def readNumber : List Char → Option (Number × List Char)
  | '-' :: rest => readUnsigned true rest
  | text => readUnsigned false text

/-- `key: value` of an object, up to the colon. -/
def readKey (text : List Char) : Option (String × List Char) :=
  match skipSpace text with
  | '"' :: rest =>
    match readString rest with
    | some (key, rest) =>
      match skipSpace rest with
      | ':' :: rest => some (String.ofList key, rest)
      | _ => none
    | none => none
  | _ => none

mutual

/-- A value. `fuel` bounds the calls (the text's length is enough); `depth` is
what is left of the recursion limit, and a container needs more than one. -/
def read : (fuel depth : Nat) → List Char → Option (Json × List Char)
  | 0, _, _ => none
  | fuel + 1, depth, text =>
    match skipSpace text with
    | 'n' :: 'u' :: 'l' :: 'l' :: rest => some (.null, rest)
    | 't' :: 'r' :: 'u' :: 'e' :: rest => some (.bool true, rest)
    | 'f' :: 'a' :: 'l' :: 's' :: 'e' :: rest => some (.bool false, rest)
    | '"' :: rest => (readString rest).map fun (s, rest) => (.str (String.ofList s), rest)
    | '[' :: rest =>
      if depth ≤ 1 then none
      else match skipSpace rest with
        | ']' :: rest => some (.arr [], rest)
        | _ => match read fuel (depth - 1) rest with
          | some (item, rest) =>
            (readItems fuel (depth - 1) rest).map fun (items, rest) => (.arr (item :: items), rest)
          | none => none
    | '{' :: rest =>
      if depth ≤ 1 then none
      else match skipSpace rest with
        | '}' :: rest => some (.obj [], rest)
        | _ => match readKey rest with
          | some (key, rest) =>
            match read fuel (depth - 1) rest with
            | some (value, rest) =>
              (readFields fuel (depth - 1) [(key, value)] rest).map
                fun (fields, rest) => (.obj fields, rest)
            | none => none
          | none => none
    | text => (readNumber text).map fun (n, rest) => (.num n, rest)

def readItems : (fuel depth : Nat) → List Char → Option (List Json × List Char)
  | 0, _, _ => none
  | fuel + 1, depth, text =>
    match skipSpace text with
    | ']' :: rest => some ([], rest)
    | ',' :: rest =>
      match read fuel depth rest with
      | some (item, rest) =>
        (readItems fuel depth rest).map fun (items, rest) => (item :: items, rest)
      | none => none
    | _ => none

/-- The remaining fields, entered into the map in the order of the text: a
repeated key keeps its last value. -/
def readFields : (fuel depth : Nat) → List (String × Json) → List Char →
    Option (List (String × Json) × List Char)
  | 0, _, _, _ => none
  | fuel + 1, depth, fields, text =>
    match skipSpace text with
    | '}' :: rest => some (fields, rest)
    | ',' :: rest =>
      match readKey rest with
      | some (key, rest) =>
        match read fuel depth rest with
        | some (value, rest) => readFields fuel depth (insertField key value fields) rest
        | none => none
      | none => none
    | _ => none

end

/-- The recursion limit of `serde_json`. -/
def recursionLimit : Nat := 128

/-- `serde_json::from_str`: one value, surrounded by space only. -/
def fromChars (text : List Char) : Option Json :=
  match read (text.length + 1) recursionLimit text with
  | some (json, rest) => if skipSpace rest = [] then some json else none
  | none => none

def fromText (text : String) : Option Json := fromChars text.toList

end MtrxPeer.Json
