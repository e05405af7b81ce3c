import MtrxPeer.ToolCallAgreement

/-! What is found of an object that stands in a text. The scan from the first brace on stops
at the brace that closes the object, whatever its strings hold; only a text that is an array
as a whole is read otherwise. -/
namespace MtrxPeer

/-- An object between other text. -/
def embedded (front : String) (object : Json) (back : String) : String :=
  front ++ object.toText ++ back

/-- The text, or the inside of its code fence, is an array with a named item after its first. -/
def ArrayWithLaterCall (content : String) : Prop :=
  ∃ items, callItems (trim content).toList = some items ∧ ¬OneNamed items

private theorem write_brace (fields : List (String × Json)) :
    ∃ more, Json.write (.obj fields) = '{' :: more := by
  obtain ⟨middle, braces⟩ := write_obj fields
  exact ⟨middle ++ ['}'], braces⟩

/-- The scan stops exactly at the end of a written object. -/
theorem extractBalanced_write {fields : List (String × Json)} (valid : (Json.obj fields).Valid)
    (shallow : (Json.obj fields).depth < Json.recursionLimit) (tail : List Char) :
    extractBalancedJsonObject (Json.write (.obj fields) ++ tail) = some (Json.write (.obj fields)) := by
  have ran := Json.read_write (.obj fields) valid ((Json.write (.obj fields)).length + 1)
    Json.recursionLimit [] (Nat.lt_succ_self _) shallow (by simp [Json.NumberEnd])
  rw [List.append_nil] at ran
  obtain ⟨space, object, same, blank, -, -, balanced⟩ := extractBalanced_object (Nat.le_refl _) ran
  have none_ : space = [] := by
    obtain ⟨more, brace⟩ := write_brace fields
    cases space with
    | nil => rfl
    | cons c others =>
      rw [brace, List.cons_append] at same
      have space := blank c List.mem_cons_self
      rw [← (List.cons.inj same).1] at space
      exact absurd rfl (space_plain space).2.1
  rw [none_, List.nil_append, List.append_nil] at same
  rw [same]
  exact balanced tail

/-- The trimmed text, from its first brace on, is the object with what follows it. -/
private theorem embedded_from_brace {front : String} (plain : '{' ∉ front.toList)
    (fields : List (String × Json)) (back : String) :
    ∃ tail, (trim (embedded front (.obj fields) back)).toList.dropWhile (· ≠ '{') =
      Json.write (.obj fields) ++ tail := by
  obtain ⟨middle, braces⟩ := write_obj fields
  have chars : embedded front (.obj fields) back =
      String.ofList (front.toList ++ '{' :: (middle ++ '}' :: back.toList)) := by
    apply String.toList_inj.mp
    rw [embedded, String.toList_append, String.toList_append, String.toList_ofList, Json.toText,
      String.toList_ofList, braces]
    simp
  have ends : '{' :: (middle ++ '}' :: back.toList) = '{' :: middle ++ '}' :: back.toList := rfl
  rw [chars, trim_from_brace plain, ends,
    trimEnd_append _ ⟨'}', List.mem_cons_self, by decide⟩, braces]
  -- the closing brace itself is never trimmed
  obtain ⟨tail, closing⟩ := trimEnd_solid (by decide : isWhitespace '}' = false) back.toList
  exact ⟨tail, by rw [closing]; simp⟩

/-- From the first brace on, exactly the object is read. -/
theorem objectCall_embedded {front : String} (plain : '{' ∉ front.toList)
    {fields : List (String × Json)} (valid : (Json.obj fields).Valid)
    (shallow : (Json.obj fields).depth < Json.recursionLimit) (back : String) :
    (extractBalancedJsonObject
        ((trim (embedded front (.obj fields) back)).toList.dropWhile (· ≠ '{'))).bind Json.fromChars =
      some (.obj fields) := by
  obtain ⟨tail, found⟩ := embedded_from_brace plain fields back
  have again := Json.fromText_toText (.obj fields) valid shallow
  rw [Json.fromText, Json.toText, String.toList_ofList] at again
  rw [found, extractBalanced_write valid shallow, Option.bind_some, again]

private def sampleAmbient : Ambient := ⟨fun _ => "u", 0⟩

/-- A call whose argument has braces, quotes and backslashes in its text. -/
private def trickyCall : List (String × Json) :=
  [("arguments", .obj [("cmd", .str "\"\x7b\\\x7d\x7d")]), ("name", .str "run")]

private theorem trickyCall_valid : (Json.obj trickyCall).Valid := by
  have outer : Json.KeysSorted ["arguments", "name"] := by decide
  have inner : Json.KeysSorted ["cmd"] := by decide
  exact ⟨outer, ⟨inner, trivial, trivial⟩, trivial, trivial⟩

/-- Lists inside lists. -/
private def nested : Nat → Json
  | 0 => .arr []
  | depth + 1 => .arr [nested depth]

private theorem nested_depth (n : Nat) : (nested n).depth = n + 1 := by
  induction n with
  | zero => rfl
  | succ n ih => simp [nested, Json.depth, Json.depth.depthItems, ih]

end MtrxPeer
