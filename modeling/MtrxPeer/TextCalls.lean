import MtrxPeer.BalancedText
import MtrxPeer.EventLines
import Mathlib.Data.List.TakeWhile

/-! Which calls a text stands for. A text that is an array, or a code fence around one,
stands for the calls of its named items; every other text for the one call that is the
first balanced object in it. -/
namespace MtrxPeer

/-! ## Named objects -/

/-- The name and the arguments of an object that stands for a call. -/
def namedCall : Json → Option (String × Json)
  | .obj map => ((map.lookup "name").bind Json.asStr).map fun name =>
      (name, (map.lookup "arguments").getD (.obj []))
  | _ => none

/-- The call that a text begins with: its first balanced object, if that is named. -/
def objectCall (text : List Char) : Option (String × Json) :=
  ((extractBalancedJsonObject text).bind Json.fromChars).bind namedCall

/-- The one call of a named object. -/
def singleCall (ambient : Ambient) (call : String × Json) : List Json :=
  [toolCallEntry ambient 0 0 call.1 call.2]

theorem valueToToolCalls_obj (ambient : Ambient) (map : List (String × Json)) :
    valueToToolCalls ambient (.obj map) = (namedCall (.obj map)).map (singleCall ambient) := by
  simp only [valueToToolCalls, namedCall]
  cases (map.lookup "name").bind Json.asStr <;> rfl

/-- The calls of the named items of an array. -/
def itemCalls (ambient : Ambient) (items : List Json) : Option (List Json) :=
  match arrayCalls ambient 0 0 items with
  | [] => none
  | calls => some calls

/-! ## Reading -/

/-- An object is only read of a text that starts with its brace. -/
private theorem fromChars_object {text : List Char} {fields : List (String × Json)}
    (read : Json.fromChars text = some (.obj fields))
    (solid : ∀ c ∈ text.head?, isWhitespace c = false) :
    text.head? = some '{' ∧
      (extractBalancedJsonObject text).bind Json.fromChars = some (.obj fields) := by
  obtain ⟨rest, ran, -⟩ := Json.fromChars_some read
  obtain ⟨space, object, same, all, brace, again, balanced⟩ :=
    extractBalanced_object (Nat.le_refl _) ran
  have none_ : space = [] := by
    cases space with
    | nil => rfl
    | cons c more =>
      have white := space_whitespace (all c List.mem_cons_self)
      rw [solid c (by simp [same])] at white
      cases white
  subst none_
  rw [List.nil_append] at same
  rw [same, balanced rest, Option.bind_some, again]
  refine ⟨?_, rfl⟩
  cases object with
  | nil => cases brace
  | cons c more => exact brace

/-- From a brace on, only the first balanced object counts. -/
theorem parseToolCallsJson_braced (ambient : Ambient) (text : List Char) :
    parseToolCallsJson ambient ('{' :: text) =
      (objectCall ('{' :: text)).map (singleCall ambient) := by
  have whole : ((extractBalancedJsonObject ('{' :: text)).bind Json.fromChars).bind
      (valueToToolCalls ambient) = (objectCall ('{' :: text)).map (singleCall ambient) := by
    rw [objectCall]
    cases found : extractBalancedJsonObject ('{' :: text) with
    | none => rfl
    | some object =>
      simp only [Option.bind_some]
      cases read : Json.fromChars object with
      | none => rfl
      | some v =>
        obtain ⟨more, rfl⟩ : ∃ more, object = '{' :: more := by
          have start : trimStart ('{' :: text) = '{' :: text := by
            have brace : isWhitespace '{' = false := by decide
            rw [trimStart, List.dropWhile_cons_of_neg (by simp [brace])]
          rw [extractBalancedJsonObject, start] at found
          simp only [balancedPrefix] at found
          rw [if_neg (by decide), if_pos trivial] at found
          obtain ⟨more, -, same⟩ := Option.map_eq_some_iff.mp found
          exact ⟨more, same.symm⟩
        obtain ⟨fields, rfl⟩ := Json.fromChars_brace read
        exact valueToToolCalls_obj ambient fields
  rw [parseToolCallsJson, whole]
  cases read : Json.fromChars ('{' :: text) with
  | none => rfl
  | some v =>
    obtain ⟨fields, rfl⟩ := Json.fromChars_brace read
    have brace : isWhitespace '{' = false := by decide
    have object := (fromChars_object read (by simpa using brace)).2
    rw [Option.bind_some, valueToToolCalls_obj, objectCall, object, Option.bind_some]
    cases (namedCall (.obj fields)).map (singleCall ambient) <;> rfl

/-- A text that starts otherwise counts only if it is an array. -/
theorem parseToolCallsJson_other (ambient : Ambient) {text : List Char}
    (solid : ∀ c ∈ text.head?, isWhitespace c = false) (other : text.head? ≠ some '{') :
    parseToolCallsJson ambient text =
      match Json.fromChars text with
      | some (.arr items) => itemCalls ambient items
      | _ => none := by
  have nothing : extractBalancedJsonObject text = none := by
    have start : trimStart text = text := by
      cases text with
      | nil => rfl
      | cons c rest => simp [trimStart, solid c rfl]
    rw [extractBalancedJsonObject, start]
    cases text with
    | nil => rfl
    | cons c rest =>
      split
      · rename_i same
        exact absurd (by rw [(List.cons.inj same).1]; rfl) other
      · rfl
  rw [parseToolCallsJson, nothing]
  cases read : Json.fromChars text with
  | none => rfl
  | some v =>
    cases v with
    | obj fields => exact absurd (fromChars_object read solid).1 other
    | arr items =>
      simp only [Option.bind_some, valueToToolCalls, Option.bind_none, itemCalls]
      cases arrayCalls ambient 0 0 items <;> rfl
    | _ => rfl

/-! ## Code fences -/

private theorem trimStartMatches_split (front text : List Char) :
    ∃ removed, text = removed ++ trimStartMatches front text ∧ ∀ c ∈ removed, c ∈ front := by
  have fueled : ∀ fuel text, ∃ removed, text = removed ++ trimStartMatchesFuel fuel front text ∧
      ∀ c ∈ removed, c ∈ front := by
    intro fuel
    induction fuel with
    | zero => exact fun text => ⟨[], rfl, by simp⟩
    | succ fuel ih =>
      intro text
      rw [trimStartMatchesFuel]
      by_cases starts : front.isPrefixOf text
      · obtain ⟨rest, rfl⟩ := List.isPrefixOf_iff_prefix.mp starts
        obtain ⟨removed, split_, all⟩ := ih rest
        have stripped : stripPrefix front (front ++ rest) = some rest := by
          rw [stripPrefix, if_pos starts, List.drop_left]
        refine ⟨front ++ removed, ?_, ?_⟩
        · rw [stripped, List.append_assoc, ← split_]
        · intro c member
          rcases List.mem_append.mp member with here | there
          · exact here
          · exact all c there
      · have kept : stripPrefix front text = none := by rw [stripPrefix, if_neg starts]
        rw [kept]
        exact ⟨[], rfl, by simp⟩
  exact fueled text.length text

private theorem trimEndMatches_split (back text : List Char) :
    ∃ removed, text = trimEndMatches back text ++ removed ∧ ∀ c ∈ removed, c ∈ back := by
  obtain ⟨removed, split_, all⟩ := trimStartMatches_split back.reverse text.reverse
  refine ⟨removed.reverse, ?_, fun c member => by simpa using all c (by simpa using member)⟩
  rw [trimEndMatches, ← List.reverse_append, ← split_, List.reverse_reverse]

private theorem trim_split (text : List Char) :
    ∃ before after, text = before ++ ((trim (String.ofList text)).toList ++ after) ∧
      (∀ c ∈ before, isWhitespace c = true) ∧ ∀ c ∈ after, isWhitespace c = true := by
  have all {c : Char} {text : List Char} (member : c ∈ text.takeWhile isWhitespace) :
      isWhitespace c = true := List.mem_takeWhile_imp member
  have start : text = text.takeWhile isWhitespace ++ trimStart text :=
    (List.takeWhile_append_dropWhile).symm
  have end_ : trimStart text = trimEnd (trimStart text) ++
      ((trimStart text).reverse.takeWhile isWhitespace).reverse := by
    rw [trimEnd, ← List.reverse_append, List.takeWhile_append_dropWhile, List.reverse_reverse]
  refine ⟨text.takeWhile isWhitespace, ((trimStart text).reverse.takeWhile isWhitespace).reverse,
    ?_, fun c member => all member, fun c member => all (List.mem_reverse.mp member)⟩
  rw [trim_ofList, String.toList_ofList, ← end_]
  exact start

/-- A fence and white space have no brace and no quote. -/
private def FenceChar (c : Char) : Prop := c ∈ "```json".toList ∨ isWhitespace c = true

private theorem fence_plain {c : Char} (fence : FenceChar c) : PlainChar c := by
  refine ⟨?_, ?_, ?_⟩ <;> rintro rfl <;> revert fence <;> unfold FenceChar <;> decide

/-- A fenced text is its inside between characters of the fence. -/
private theorem fencedInside_split (text : List Char) :
    ∃ before after, text = before ++ (fencedInside text ++ after) ∧
      (∀ c ∈ before, FenceChar c) ∧ ∀ c ∈ after, FenceChar c := by
  have tick : ∀ c ∈ "```".toList, c ∈ "```json".toList := by
    have short : "```".toList = ['`', '`', '`'] := rfl
    have long : "```json".toList = ['`', '`', '`', 'j', 's', 'o', 'n'] := rfl
    simp [short, long]
  obtain ⟨one, first, oneAll⟩ := trimStartMatches_split "```json".toList text
  obtain ⟨two, second, twoAll⟩ :=
    trimStartMatches_split "```".toList (trimStartMatches "```json".toList text)
  obtain ⟨three, third, threeAll⟩ := trimEndMatches_split "```".toList
    (trimStartMatches "```".toList (trimStartMatches "```json".toList text))
  obtain ⟨four, five, fourth, fourAll, fiveAll⟩ := trim_split (trimEndMatches "```".toList
    (trimStartMatches "```".toList (trimStartMatches "```json".toList text)))
  refine ⟨one ++ (two ++ four), five ++ three, ?_, ?_, ?_⟩
  · rw [fencedInside]
    rw [fourth] at third
    rw [third] at second
    rw [second] at first
    simpa only [List.append_assoc] using first
  · intro c member
    simp only [List.mem_append] at member
    rcases member with here | here | here
    · exact .inl (oneAll c here)
    · exact .inl (tick c (twoAll c here))
    · exact .inr (fourAll c here)
  · intro c member
    rcases List.mem_append.mp member with here | here
    · exact .inr (fiveAll c here)
    · exact .inl (tick c (threeAll c here))

/-- A text without braces and quotes closes nothing. -/
private theorem balancedPrefix_plain {text : List Char} (plain : ∀ c ∈ text, PlainChar c)
    (depth : Nat) (inString escape : Bool) : balancedPrefix depth inString escape text = none := by
  induction text generalizing depth inString escape with
  | nil => simp [balancedPrefix]
  | cons c rest ih =>
    obtain ⟨quote, open_, close⟩ := plain c List.mem_cons_self
    have later := ih fun d member => plain d (List.mem_cons_of_mem c member)
    cases inString with
    | false => simp [balancedPrefix, quote, open_, close, later]
    | true => cases escape <;> simp [balancedPrefix, quote, later]

/-- Nor does it change what is closed before it. -/
private theorem balancedPrefix_append {after : List Char} (plain : ∀ c ∈ after, PlainChar c)
    (text : List Char) (depth : Nat) (inString escape : Bool) :
    balancedPrefix depth inString escape (text ++ after) =
      balancedPrefix depth inString escape text := by
  induction text generalizing depth inString escape with
  | nil => simp [balancedPrefix_plain plain, balancedPrefix]
  | cons c rest ih =>
    cases inString with
    | false => simp only [List.cons_append, balancedPrefix, ih]
    | true => cases escape <;> simp only [List.cons_append, balancedPrefix, ih]

private theorem dropWhile_brace {before : List Char} (plain : ∀ c ∈ before, PlainChar c)
    (rest : List Char) :
    (before ++ rest).dropWhile (· ≠ '{') = rest.dropWhile (· ≠ '{') := by
  induction before with
  | nil => rfl
  | cons c more ih =>
    have other := (plain c List.mem_cons_self).2.1
    rw [List.cons_append, List.dropWhile_cons_of_pos (by simpa using other)]
    exact ih fun d member => plain d (List.mem_cons_of_mem c member)

/-- The braces of a text that starts with one are those from the first brace of a text
around it. -/
private theorem objectCall_fenced {text : List Char} (brace : (fencedInside text).head? = some '{') :
    objectCall (fencedInside text) = objectCall (text.dropWhile (· ≠ '{')) := by
  obtain ⟨before, after, same, plainBefore, plainAfter⟩ := fencedInside_split text
  cases inside : fencedInside text with
  | nil => simp [inside] at brace
  | cons c rest =>
    obtain rfl : c = '{' := by simpa [inside] using brace
    have found : text.dropWhile (· ≠ '{') = '{' :: (rest ++ after) := by
      conv_lhs => rw [same]
      rw [dropWhile_brace fun d member => fence_plain (plainBefore d member), inside]
      rfl
    have start (more : List Char) : trimStart ('{' :: more) = '{' :: more := by
      have brace : isWhitespace '{' = false := by decide
      rw [trimStart, List.dropWhile_cons_of_neg (by simp [brace])]
    rw [found, objectCall, objectCall, extractBalancedJsonObject, extractBalancedJsonObject, start,
      start]
    simp only
    rw [← List.cons_append, balancedPrefix_append fun d member => fence_plain (plainAfter d member)]

/-! ## The calls of a text -/

/-- The items of the array that a text is. -/
def arrayItems (text : List Char) : Option (List Json) :=
  match Json.fromChars text with
  | some (.arr items) => some items
  | _ => none

/-- The items of the array that a text is, by itself or inside a code fence. -/
def callItems (text : List Char) : Option (List Json) :=
  (arrayItems text).or
    (if "```".toList.isPrefixOf text then arrayItems (fencedInside text) else none)

theorem arrayItems_braced {text : List Char} (brace : text.head? = some '{') :
    arrayItems text = none := by
  cases text with
  | nil => cases brace
  | cons c rest =>
    obtain rfl : c = '{' := by simpa using brace
    unfold arrayItems
    split
    · rename_i items read
      obtain ⟨fields, same⟩ := Json.fromChars_brace read
      cases same
    · rfl

private theorem parseToolCallsJson_array (ambient : Ambient) {text : List Char}
    (solid : ∀ c ∈ text.head?, isWhitespace c = false) (other : text.head? ≠ some '{') :
    parseToolCallsJson ambient text = (arrayItems text).bind (itemCalls ambient) := by
  rw [parseToolCallsJson_other ambient solid other, arrayItems]
  cases Json.fromChars text with
  | none => rfl
  | some v => cases v <;> rfl

theorem objectCall_nil : objectCall [] = none := rfl

/-- A fence is no value. -/
private theorem fromChars_fence {text : List Char} (fence : "```".toList.isPrefixOf text) :
    arrayItems text = none := by
  obtain ⟨rest, rfl⟩ := List.isPrefixOf_iff_prefix.mp fence
  unfold arrayItems
  split
  · rename_i items read
    obtain ⟨left, ran, -⟩ := Json.fromChars_some read
    have ticks : "```".toList ++ rest = '`' :: '`' :: '`' :: rest := rfl
    rw [ticks] at ran
    have step := Json.read_step ran
    rw [Json.skipSpace_cons '`' _ (by decide)] at step
    cases step
  · rfl

theorem dropWhile_head_brace {text rest : List Char} {c : Char}
    (found : text.dropWhile (· ≠ '{') = c :: rest) : c = '{' := by
  have some_ : text.dropWhile (· ≠ '{') ≠ [] := by
    rw [found]
    exact List.cons_ne_nil c rest
  have brace := List.head_dropWhile_not (· ≠ '{') some_
  have head : (text.dropWhile (· ≠ '{')).head some_ = c := by simp only [found, List.head_cons]
  rw [head] at brace
  simpa using brace

/-- The attempts, one after another. -/
private theorem textContentToToolCalls_steps (ambient : Ambient) (content : String) :
    textContentToToolCalls ambient content =
      if (trim content).toList = [] then none
      else (parseToolCallsJson ambient (trim content).toList).or
        ((if "```".toList.isPrefixOf (trim content).toList then
            parseToolCallsJson ambient (fencedInside (trim content).toList) else none).or
          ((objectCall ((trim content).toList.dropWhile (· ≠ '{'))).map (singleCall ambient))) := by
  simp only [textContentToToolCalls]
  generalize (trim content).toList = text
  split
  · rfl
  · split
    · rename_i whole
      rw [whole, Option.some_or]
    · rename_i whole
      rw [whole, Option.none_or]
      split
      · rename_i fenced
        rw [fenced, Option.some_or]
      · rename_i fenced
        rw [fenced, Option.none_or]
        cases found : text.dropWhile (· ≠ '{') with
        | nil => rfl
        | cons c rest =>
          obtain rfl := dropWhile_head_brace found
          exact parseToolCallsJson_braced ambient rest

/-- The calls of a text: those of the array it is, else the one from its first brace on. -/
theorem textContentToToolCalls_eq (ambient : Ambient) (content : String) :
    textContentToToolCalls ambient content =
      ((callItems (trim content).toList).bind (itemCalls ambient)).or
        ((objectCall ((trim content).toList.dropWhile (· ≠ '{'))).map (singleCall ambient)) := by
  have solid : ∀ c ∈ (trim content).toList.head?, isWhitespace c = false :=
    (trimmed_of_trim content).1
  rw [textContentToToolCalls_steps]
  generalize (trim content).toList = text at solid
  by_cases empty : text = []
  · subst empty
    rfl
  rw [if_neg empty]
  by_cases brace : text.head? = some '{'
  · obtain ⟨rest, rfl⟩ : ∃ rest, text = '{' :: rest := by
      cases text with
      | nil => cases brace
      | cons c rest => exact ⟨rest, by rw [show c = '{' by simpa using brace]⟩
    have plain : "```".toList.isPrefixOf ('{' :: rest) = false := rfl
    have whole : ('{' :: rest).dropWhile (· ≠ '{') = '{' :: rest := by simp
    rw [callItems, arrayItems_braced brace, plain, whole, parseToolCallsJson_braced]
    cases (objectCall ('{' :: rest)).map (singleCall ambient) <;> rfl
  rw [parseToolCallsJson_array ambient solid brace, callItems]
  by_cases fence : "```".toList.isPrefixOf text
  · rw [if_pos fence, if_pos fence, fromChars_fence fence, Option.none_or, Option.bind_none]
    by_cases inside : (fencedInside text).head? = some '{'
    · have same := objectCall_fenced inside
      obtain ⟨rest, found⟩ : ∃ rest, fencedInside text = '{' :: rest := by
        cases list : fencedInside text with
        | nil => simp [list] at inside
        | cons c rest => exact ⟨rest, by rw [show c = '{' by simpa [list] using inside]⟩
      rw [arrayItems_braced inside, found, parseToolCallsJson_braced, ← found, same]
      cases (objectCall (text.dropWhile (· ≠ '{'))).map (singleCall ambient) <;> rfl
    · rw [parseToolCallsJson_array ambient ?_ inside]
      · cases (arrayItems (fencedInside text)).bind (itemCalls ambient) <;> rfl
      · exact (trimmed_of_trim _).1
  · rw [if_neg fence, if_neg fence, Option.or_none]
    cases (arrayItems text).bind (itemCalls ambient) <;> rfl

/-! ## The first item of an array -/

/-- An array whose first item is an object has its text as the first balanced one. -/
private theorem arrayItems_object {text : List Char} {fields : List (String × Json)}
    {rest : List Json} (items : arrayItems text = some (.obj fields :: rest)) :
    ∃ front object more, text = front ++ (object ++ more) ∧ (∀ c ∈ front, PlainChar c) ∧
      object.head? = some '{' ∧ Json.fromChars object = some (.obj fields) ∧
      ∀ tail, extractBalancedJsonObject (object ++ tail) = some object := by
  have read : Json.fromChars text = some (.arr (.obj fields :: rest)) := by
    unfold arrayItems at items
    split at items
    · rename_i found same
      rw [same, Option.some.inj items]
    · cases items
  have plain {space : List Char} (all : ∀ c ∈ space, JsonSpace c) : ∀ c ∈ space, PlainChar c :=
    fun c member => space_plain (all c member)
  obtain ⟨left, ran, -⟩ := Json.fromChars_some read
  obtain ⟨space, same, all⟩ := skipSpace_split text
  simp only [Json.read] at ran
  split at ran
  case h_5 inner opened =>
    rw [opened] at same
    split at ran
    · cases ran
    · rename_i depth
      split at ran
      · cases ran
      · split at ran
        · rename_i item after first
          obtain ⟨⟨others, ending⟩, -, pair⟩ := Option.map_eq_some_iff.mp ran
          obtain ⟨rfl, rfl⟩ := List.cons.inj (Json.arr.inj (Prod.mk.inj pair).1)
          obtain ⟨space', object, rfl, all', brace, again, balanced⟩ :=
            extractBalanced_object (Nat.sub_le _ 1) first
          refine ⟨space ++ '[' :: space', object, after, ?_, ?_, brace, again, balanced⟩
          · rw [same]
            simp only [List.append_assoc, List.cons_append]
          · intro c member
            rcases List.mem_append.mp member with here | there
            · exact plain all c here
            · rcases List.mem_cons.mp there with rfl | later
              · exact ⟨by decide, by decide, by decide⟩
              · exact plain all' c later
        · cases ran
  case h_6 inner opened =>
    -- an object is no array
    split at ran
    · cases ran
    · split at ran
      · cases (Prod.mk.inj (Option.some.inj ran)).1
      · split at ran
        · split at ran
          · obtain ⟨pair, -, same⟩ := Option.map_eq_some_iff.mp ran
            cases (Prod.mk.inj same).1
          · cases ran
        · cases ran
  all_goals simp at ran

/-- So the call from the first brace on is that of the first item. -/
private theorem callItems_object {text : List Char} {fields : List (String × Json)}
    {rest : List Json} (items : callItems text = some (.obj fields :: rest)) :
    objectCall (text.dropWhile (· ≠ '{')) = namedCall (.obj fields) := by
  have found {front object more : List Char} (plain : ∀ c ∈ front, PlainChar c)
      (brace : object.head? = some '{') (read : Json.fromChars object = some (.obj fields))
      (balanced : ∀ tail, extractBalancedJsonObject (object ++ tail) = some object) :
      objectCall ((front ++ (object ++ more)).dropWhile (· ≠ '{')) = namedCall (.obj fields) := by
    have whole : (object ++ more).dropWhile (· ≠ '{') = object ++ more := by
      cases object with
      | nil => cases brace
      | cons c rest =>
        obtain rfl : c = '{' := by simpa using brace
        simp
    rw [dropWhile_brace plain, whole, objectCall, balanced more, Option.bind_some, read,
      Option.bind_some]
  cases whole : arrayItems text with
  | some items' =>
    rw [callItems, whole, Option.some_or] at items
    obtain rfl := Option.some.inj items
    obtain ⟨front, object, more, rfl, plain, brace, read, balanced⟩ := arrayItems_object whole
    exact found plain brace read balanced
  | none =>
    rw [callItems, whole, Option.none_or] at items
    split at items
    · obtain ⟨front, object, more, inside, plain, brace, read, balanced⟩ := arrayItems_object items
      obtain ⟨before, after, same, plainBefore, -⟩ := fencedInside_split text
      rw [inside] at same
      rw [same, dropWhile_brace fun d member => fence_plain (plainBefore d member),
        List.append_assoc, List.append_assoc]
      exact found plain brace read balanced
    · cases items

/-- No item after the first one of an array stands for a call. -/
def OneNamed (items : List Json) : Prop := ∀ item ∈ items.drop 1, namedCall item = none

theorem arrayCalls_unnamed (ambient : Ambient) (draw i : Nat) {items : List Json}
    (unnamed : ∀ item ∈ items, namedCall item = none) : arrayCalls ambient draw i items = [] := by
  induction items generalizing i with
  | nil => rfl
  | cons item rest ih =>
    have later := ih (i + 1) fun other member => unnamed other (List.mem_cons_of_mem item member)
    have none_ := unnamed item List.mem_cons_self
    cases item with
    | obj map =>
      have name : (map.lookup "name").bind Json.asStr = none := by simpa [namedCall] using none_
      simp only [arrayCalls, name, later]
    | _ => simp only [arrayCalls, later]

/-- Where only the first item may stand for a call, only the first brace counts. -/
theorem textContentToToolCalls_one (ambient : Ambient) (content : String)
    (one : ∀ items, callItems (trim content).toList = some items → OneNamed items) :
    textContentToToolCalls ambient content =
      (objectCall ((trim content).toList.dropWhile (· ≠ '{'))).map (singleCall ambient) := by
  rw [textContentToToolCalls_eq]
  generalize (trim content).toList = text at one
  cases items : callItems text with
  | none => rfl
  | some items' =>
    rw [Option.bind_some]
    have unnamed := one items' items
    cases items' with
    | nil => rfl
    | cons first rest =>
      have others : ∀ draw i, arrayCalls ambient draw i rest = [] :=
        fun draw i => arrayCalls_unnamed ambient draw i unnamed
      cases first with
      | obj fields =>
        rw [callItems_object items]
        cases name : (fields.lookup "name").bind Json.asStr with
        | none => simp [itemCalls, arrayCalls, name, others]
        | some name => simp [itemCalls, arrayCalls, name, others, namedCall, singleCall]
      | _ => simp [itemCalls, arrayCalls, others]

end MtrxPeer
