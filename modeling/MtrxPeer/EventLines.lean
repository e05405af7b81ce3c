import MtrxPeer.AgentCompat

/-! The normal form of an event line: `data: ` and a payload without space around it.
A line in normal form is read as the line it was made from. -/
namespace MtrxPeer

/-! ## Trimmed text -/

/-- No white space at either end. -/
def Trimmed (text : List Char) : Prop :=
  (∀ c ∈ text.head?, isWhitespace c = false) ∧ ∀ c ∈ text.getLast?, isWhitespace c = false

theorem trim_ofList (text : List Char) :
    trim (String.ofList text) = String.ofList (trimEnd (trimStart text)) := by
  simp [trim, trimEnd, trimStart]

private theorem dropWhile_head (p : Char → Bool) (text : List Char) :
    ∀ c ∈ (text.dropWhile p).head?, p c = false := by
  induction text with
  | nil => simp
  | cons c rest ih =>
    cases holds : p c with
    | true => simpa [List.dropWhile_cons, holds] using ih
    | false => simp [holds]

private theorem trimEnd_head {text : List Char} (start : ∀ c ∈ text.head?, isWhitespace c = false) :
    ∀ c ∈ (trimEnd text).head?, isWhitespace c = false := by
  intro c member
  obtain ⟨tail, split⟩ : ∃ tail, trimEnd text ++ tail = text := by
    refine ⟨(text.reverse.takeWhile isWhitespace).reverse, ?_⟩
    rw [trimEnd, ← List.reverse_append, List.takeWhile_append_dropWhile, List.reverse_reverse]
  cases front : trimEnd text with
  | nil => simp [front] at member
  | cons d more =>
    rw [front] at member split
    obtain rfl : d = c := by simpa using member
    exact start d (by simp [← split])

theorem trimmed_trim (text : List Char) : Trimmed (trimEnd (trimStart text)) := by
  refine ⟨trimEnd_head (dropWhile_head isWhitespace text), ?_⟩
  intro c member
  rw [trimEnd, List.getLast?_reverse] at member
  exact dropWhile_head isWhitespace _ c member

theorem trimStart_of_trimmed {text : List Char} (trimmed : Trimmed text) :
    trimStart text = text := by
  cases text with
  | nil => rfl
  | cons c rest => simp [trimStart, trimmed.1 c rfl]

theorem trimEnd_of_trimmed {text : List Char} (trimmed : Trimmed text) : trimEnd text = text := by
  have last := trimmed.2
  rw [← List.head?_reverse] at last
  rw [trimEnd]
  cases back : text.reverse with
  | nil => simpa using back.symm
  | cons c rest =>
    rw [back] at last
    rw [List.dropWhile_cons_of_neg (by simp [last c rfl]), ← back, List.reverse_reverse]

theorem trim_of_trimmed {text : List Char} (trimmed : Trimmed text) :
    trim (String.ofList text) = String.ofList text := by
  rw [trim_ofList, trimStart_of_trimmed trimmed, trimEnd_of_trimmed trimmed]

/-- White space before a trimmed text goes. -/
theorem trim_space {text : List Char} (trimmed : Trimmed text) :
    trim (String.ofList (' ' :: text)) = String.ofList text := by
  have space : isWhitespace ' ' = true := by decide
  rw [trim_ofList, trimStart, List.dropWhile_cons_of_pos space]
  rw [show text.dropWhile isWhitespace = trimStart text from rfl, trimStart_of_trimmed trimmed,
    trimEnd_of_trimmed trimmed]

/-! ## The normal form -/

/-- A line in normal form. -/
def dataText (payload : List Char) : String := "data: " ++ String.ofList payload

theorem dataText_chars (payload : List Char) :
    (dataText payload).toList = ['d', 'a', 't', 'a', ':', ' '] ++ payload := by
  simp [dataText]

private theorem data_chars : "data:".toList = ['d', 'a', 't', 'a', ':'] := by decide

/-- Texts with different first characters differ. -/
private theorem ne_of_head {a b : String} (differs : a.toList.head? ≠ b.toList.head?) : a ≠ b :=
  fun same => differs (by rw [same])

theorem trim_dataText {payload : List Char} (trimmed : Trimmed payload)
    (some_ : payload ≠ []) : trim (dataText payload) = dataText payload := by
  have whole : Trimmed (dataText payload).toList := by
    rw [dataText_chars]
    refine ⟨?_, ?_⟩
    · intro c member
      obtain rfl : 'd' = c := by simpa using member
      decide
    · intro c member
      rw [List.getLast?_append_of_ne_nil _ some_] at member
      exact trimmed.2 c member
  simpa using trim_of_trimmed whole

theorem stripPrefix_data (rest : List Char) :
    stripPrefix "data:".toList (['d', 'a', 't', 'a', ':', ' '] ++ rest) = some (' ' :: rest) := by
  rw [data_chars]
  simp [stripPrefix]

theorem normalize_dataText {payload : List Char} (trimmed : Trimmed payload) :
    normalizeSseDataLine (dataText payload) = some (dataText payload) := by
  by_cases empty : payload = []
  · subst empty
    decide
  · have nonempty : dataText payload ≠ "" :=
      ne_of_head (by rw [dataText_chars]; simp)
    have marked : dataText payload ≠ "[DONE]" :=
      ne_of_head (by rw [dataText_chars]; simp)
    simp only [normalizeSseDataLine, trim_dataText trimmed empty, if_neg nonempty, if_neg marked,
      dataText_chars, stripPrefix_data, trim_space trimmed]
    split
    · rename_i done
      rw [dataText, done]
      decide
    · rfl

theorem linePayload_dataText {payload : List Char} (trimmed : Trimmed payload) :
    linePayload (dataText payload) = String.ofList payload := by
  have other : stripPrefix "data:".toList (' ' :: payload) = none := by
    rw [data_chars]
    simp [stripPrefix]
  have matched : trimStartMatches "data:".toList (dataText payload).toList = ' ' :: payload := by
    rw [dataText_chars, trimStartMatches]
    simp only [List.length_append, List.length_cons, List.length_nil, Nat.zero_add, Nat.reduceAdd]
    rw [show 6 + payload.length = 5 + payload.length + 1 by omega, trimStartMatchesFuel,
      stripPrefix_data]
    simp only
    rw [show 5 + payload.length = 4 + payload.length + 1 by omega, trimStartMatchesFuel, other]
  rw [linePayload, matched, trim_space trimmed]

theorem trimmed_of_trim (text : String) : Trimmed (trim text).toList := by
  have same : (trim text).toList = trimEnd (trimStart text.toList) := by
    rw [← String.toList_ofList (l := trimEnd _), ← trim_ofList, String.ofList_toList]
  rw [same]
  exact trimmed_trim text.toList

theorem normalize_blank {line : String} (blank : trim line = "") :
    normalizeSseDataLine line = none := by
  rw [normalizeSseDataLine, if_pos blank]

private theorem trimmed_done : Trimmed ['[', 'D', 'O', 'N', 'E', ']'] := by
  refine ⟨?_, ?_⟩
  · intro c member
    obtain rfl : '[' = c := by simpa using member
    decide
  · intro c member
    obtain rfl : ']' = c := by simpa using member
    decide

/-- Whatever line is recognised, its normal form is one. -/
theorem normalize_shape {line normalized : String}
    (recognised : normalizeSseDataLine line = some normalized) :
    ∃ payload, Trimmed payload ∧ normalized = dataText payload := by
  have done : ∃ payload, Trimmed payload ∧ "data: [DONE]" = dataText payload :=
    ⟨['[', 'D', 'O', 'N', 'E', ']'], trimmed_done, by decide⟩
  have shape : ∀ text : String, ∃ payload, Trimmed payload ∧ "data: " ++ trim text = dataText payload :=
    fun text => ⟨(trim text).toList, trimmed_of_trim text, by rw [dataText, String.ofList_toList]⟩
  simp only [normalizeSseDataLine] at recognised
  by_cases empty : trim line = ""
  · simp [empty] at recognised
  · by_cases bare : trim line = "[DONE]"
    · rw [if_neg empty, if_pos bare] at recognised
      obtain rfl := Option.some.inj recognised
      exact done
    · rw [if_neg empty, if_neg bare] at recognised
      split at recognised
      · split at recognised
        · obtain rfl := Option.some.inj recognised
          exact done
        · obtain rfl := Option.some.inj recognised
          exact shape _
      · split at recognised
        · obtain rfl := Option.some.inj recognised
          exact shape _
        · cases recognised

/-! ## What a line carries -/

/-- The chunk in a line, if there is one. -/
def lineChunk (line : String) : Option Json :=
  (normalizeSseDataLine line).bind fun normalized => Json.fromText (linePayload normalized)

theorem normalize_normalized {line normalized : String}
    (recognised : normalizeSseDataLine line = some normalized) :
    normalizeSseDataLine normalized = some normalized := by
  obtain ⟨payload, trimmed, rfl⟩ := normalize_shape recognised
  exact normalize_dataText trimmed

theorem lineChunk_normalized {line normalized : String}
    (recognised : normalizeSseDataLine line = some normalized) :
    lineChunk normalized = lineChunk line := by
  rw [lineChunk, lineChunk, recognised, normalize_normalized recognised]

/-- An object is written between two braces. -/
theorem write_obj (fields : List (String × Json)) :
    ∃ middle, Json.write (.obj fields) = '{' :: (middle ++ ['}']) := by
  have closes : ∀ rest : List (String × Json), ∃ middle, Json.writeFields rest = middle ++ ['}'] := by
    intro rest
    induction rest with
    | nil => exact ⟨[], by simp [Json.writeFields]⟩
    | cons field rest ih =>
      obtain ⟨key, value⟩ := field
      obtain ⟨middle, ends⟩ := ih
      refine ⟨',' :: (Json.writeString key ++ ':' :: (Json.write value ++ middle)), ?_⟩
      simp [Json.writeFields, ends]
  cases fields with
  | nil => exact ⟨[], by simp [Json.write]⟩
  | cons field rest =>
    obtain ⟨key, value⟩ := field
    obtain ⟨middle, ends⟩ := closes rest
    refine ⟨Json.writeString key ++ ':' :: (Json.write value ++ middle), ?_⟩
    simp [Json.write, ends]

theorem trimmed_obj (fields : List (String × Json)) :
    Trimmed (Json.write (.obj fields)) := by
  obtain ⟨middle, braces⟩ := write_obj fields
  rw [braces]
  refine ⟨?_, ?_⟩
  · intro c member
    obtain rfl : '{' = c := by simpa using member
    decide
  · intro c member
    rw [← List.cons_append, List.getLast?_append_of_ne_nil _ (by simp)] at member
    obtain rfl : '}' = c := by simpa using member
    decide

theorem dataLine_text (json : Json) : dataLine json = dataText json.write := by
  rfl

theorem normalize_dataLine (fields : List (String × Json)) :
    normalizeSseDataLine (dataLine (.obj fields)) = some (dataLine (.obj fields)) := by
  rw [dataLine_text]
  exact normalize_dataText (trimmed_obj fields)

/-- A written object is the chunk its line carries. -/
theorem lineChunk_dataLine {fields : List (String × Json)} (valid : (Json.obj fields).Valid)
    (deep : (Json.obj fields).depth < Json.recursionLimit) :
    lineChunk (dataLine (.obj fields)) = some (.obj fields) := by
  rw [lineChunk, normalize_dataLine, Option.bind_some, dataLine_text,
    linePayload_dataText (trimmed_obj fields)]
  exact Json.fromText_toText _ valid deep

theorem dataLine_ne_done (fields : List (String × Json)) :
    dataLine (.obj fields) ≠ "data: [DONE]" := by
  intro same
  obtain ⟨middle, braces⟩ := write_obj fields
  have chars := congrArg String.toList same
  have mark : "data: [DONE]".toList =
      ['d', 'a', 't', 'a', ':', ' '] ++ ['[', 'D', 'O', 'N', 'E', ']'] := by decide
  rw [dataLine_text, dataText_chars, braces, mark, List.append_cancel_left_eq] at chars
  simp at chars

end MtrxPeer
