import MtrxPeer.PercentEncoding

/-! How names are written into addresses: as a segment of the catalog's path, character by
character, and as a component of a query, byte by byte. Only the second way keeps all names. -/
namespace MtrxPeer

/-! ## The two writers -/

/-- What `get_models_catalog_entry` makes of a character; `c as u8` drops all but the low byte. -/
def segmentChar (c : Char) : List Char :=
  if c.isAlphanum ∨ c = '-' ∨ c = '_' ∨ c = '.' then [c] else percentByte (UInt8.ofNat c.toNat)

/-- The path segment that `get_models_catalog_entry` asks the lobby for. -/
def catalogSegment (name : String) : String := String.ofList (name.toList.flatMap segmentChar)

def componentByte (b : UInt8) : List Char :=
  let c := Char.ofNat b.toNat
  if c.isAlphanum ∨ c = '-' ∨ c = '_' ∨ c = '.' ∨ c = '~' then [c] else percentByte b

/-- `url_encode_component`. -/
def urlEncodeComponent (s : String) : String := String.ofList ((utf8 s).flatMap componentByte)

/-- The segments of some names decode to these and tell them apart, and the names would have been
written as well as components. -/
structure FaithfulNames (names : Set String) : Prop where
  decoded : ∀ name ∈ names, decodeComponent (catalogSegment name) = some name
  distinct : ∀ name ∈ names, ∀ other ∈ names, name ≠ other → catalogSegment name ≠ catalogSegment other
  agrees : ∀ name ∈ names,
    decodeComponent (catalogSegment name) = decodeComponent (urlEncodeComponent name)

/-! ## Reading them -/

/-- A letter or digit, or one of the marks that stand for themselves. -/
private theorem plain_ascii {c : Char} (plain : c.isAlphanum ∨ c = '-' ∨ c = '_' ∨ c = '.' ∨ c = '~') :
    AsciiChar c ∧ c ≠ '%' := by
  rcases plain with letter | rfl | rfl | rfl | rfl
  · constructor
    · have bounds : (decide (c.val ≥ 'A'.val ∧ c.val ≤ 'Z'.val) ||
          (decide (c.val ≥ 'a'.val) && decide (c.val ≤ 'z'.val)) ||
          (decide (c.val ≥ '0'.val) && decide (c.val ≤ '9'.val))) = true := letter
      simp only [Bool.or_eq_true, Bool.and_eq_true, decide_eq_true_eq, ge_iff_le, UInt32.le_iff_toNat_le, Char.toNat_val,
        Char.reduceToNat] at bounds
      rw [AsciiChar]
      omega
    · rintro rfl
      exact absurd letter (by decide)
  all_goals exact ⟨by rw [AsciiChar]; decide, by decide⟩

private theorem percentDecode_segmentChar (c : Char) (rest : List Char) :
    percentDecode (segmentChar c ++ rest) = UInt8.ofNat c.toNat :: percentDecode rest := by
  rw [segmentChar]
  split
  · rename_i plain
    obtain ⟨ascii, sign⟩ := plain_ascii (plain.imp_right (Or.imp_right (Or.imp_right .inl)))
    rw [List.singleton_append, percentDecode_plain sign, encode_ascii ascii]
    rfl
  · exact percentDecode_percentByte _ rest

/-- A segment is read as the low bytes of the characters. -/
theorem percentDecode_segment (name : List Char) :
    percentDecode (name.flatMap segmentChar) = name.map fun c => UInt8.ofNat c.toNat := by
  induction name with
  | nil => rfl
  | cons c rest ih => rw [List.flatMap_cons, percentDecode_segmentChar, ih, List.map_cons]

private theorem toNat_ofNat_byte : ∀ n < 256, (Char.ofNat n).toNat = n := by decide +kernel

private theorem percentDecode_componentByte (b : UInt8) (rest : List Char) :
    percentDecode (componentByte b ++ rest) = b :: percentDecode rest := by
  have small := b.toNat_lt
  simp only [componentByte]
  split
  · rename_i plain
    obtain ⟨ascii, sign⟩ := plain_ascii plain
    have same : (Char.ofNat b.toNat).toNat = b.toNat := toNat_ofNat_byte b.toNat small
    rw [List.singleton_append, percentDecode_plain sign, encode_ascii ascii, same, UInt8.ofNat_toNat]
    rfl
  · exact percentDecode_percentByte b rest

/-- A component is read as the text it was written for. -/
theorem decodeComponent_urlEncode (s : String) : decodeComponent (urlEncodeComponent s) = some s := by
  have bytes : ∀ bytes : Bytes, percentDecode (bytes.flatMap componentByte) = bytes := by
    intro bytes
    induction bytes with
    | nil => rfl
    | cons b rest ih => rw [List.flatMap_cons, percentDecode_componentByte, ih]
  rw [decodeComponent, urlEncodeComponent, String.toList_ofList, bytes, fromUtf8_utf8]

/-- A segment decodes to its name just where the name is ASCII. -/
theorem decodeComponent_segment_iff (name : String) :
    decodeComponent (catalogSegment name) = some name ↔ AsciiText name := by
  have read : decodeComponent (catalogSegment name) =
      fromUtf8 (name.toList.map fun c => UInt8.ofNat c.toNat) := by
    rw [decodeComponent, catalogSegment, String.toList_ofList, percentDecode_segment]
  rw [read]
  constructor
  · intro decoded
    have bytes := utf8_of_fromUtf8 decoded
    exact ascii_of_length (Nat.le_of_eq (by rw [String.ofList_toList, bytes, List.length_map]))
  · intro ascii
    have bytes := utf8_ascii ascii
    rw [String.ofList_toList] at bytes
    rw [← bytes, fromUtf8_utf8]

/-- The segment of an accented letter is no UTF-8, and letters are written as the signs that share
their low bytes. -/
theorem accented_names_misread :
    decodeComponent (catalogSegment "é") = none ∧ catalogSegment "llama:8b" = catalogSegment "llamaĺ8b" ∧
      decodeComponent (catalogSegment "é") ≠ decodeComponent (urlEncodeComponent "é") := by
  have misread : decodeComponent (catalogSegment "é") = none := by
    rw [decodeComponent, catalogSegment, String.toList_ofList, percentDecode_segment]
    decide
  refine ⟨misread, by decide, ?_⟩
  rw [misread, decodeComponent_urlEncode]
  exact (Option.some_ne_none _).symm

/-- Names are written faithfully just where all of them are ASCII. -/
theorem names_faithful_iff (names : Set String) : FaithfulNames names ↔ ∀ name ∈ names, AsciiText name := by
  constructor
  · exact fun faithful name member => (decodeComponent_segment_iff name).mp (faithful.decoded name member)
  · intro ascii
    have decoded : ∀ name ∈ names, decodeComponent (catalogSegment name) = some name :=
      fun name member => (decodeComponent_segment_iff name).mpr (ascii name member)
    refine ⟨decoded, ?_, ?_⟩
    · intro name member other otherMember differ same
      refine differ (Option.some.inj ?_)
      rw [← decoded name member, same, decoded other otherMember]
    · intro name member
      rw [decoded name member, decodeComponent_urlEncode]

end MtrxPeer
