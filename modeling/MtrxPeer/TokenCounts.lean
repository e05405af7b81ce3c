import Mathlib.Tactic.SplitIfs
import MtrxPeer.OllamaStream

/-! The token counts that are read from a response, against the numbers that it gives. -/
namespace MtrxPeer

/-! ## The numbers given -/

/-- The numbers of an OpenAI `usage` record; without a total, the sum of the other two. -/
def recordNumbers (usage : Json) : TokenUsage :=
  let prompt := (countField usage "prompt_tokens").getD 0
  let completion := (countField usage "completion_tokens").getD 0
  ⟨prompt, completion, (countField usage "total_tokens").getD (prompt + completion)⟩

/-- The numbers of an Ollama line, which never gives a total. -/
def doneNumbers (value : Json) : TokenUsage :=
  let prompt := (countField value "prompt_eval_count").getD 0
  let completion := (countField value "eval_count").getD 0
  ⟨prompt, completion, prompt + completion⟩

/-- The value is the last line of an Ollama stream. -/
def isDone (value : Json) : Prop := ((value.get "done").bind Json.asBool).getD false = true

/-! ## Checked arithmetic -/

/-- A number that must fit into so many bits. -/
def within (bits number : Nat) : Option Nat := if number < 2 ^ bits then some number else none

theorem within_bind {α : Type} {bits number : Nat} {next : Nat → Option α} {result : α} :
    (within bits number >>= next) = some result ↔ number < 2 ^ bits ∧ next number = some result := by
  unfold within
  split_ifs with fits
  · simp [fits]
  · simp [fits]

/-- `parse_usage_from_value` from its check of `done` on, with each conversion to `u32` and each
addition checked. -/
def checkedDone (value : Json) : Option (Option TokenUsage) :=
  if ((value.get "done").bind Json.asBool).getD false then do
    let prompt ← within 32 ((countField value "prompt_eval_count").getD 0)
    let completion ← within 32 ((countField value "eval_count").getD 0)
    if prompt = 0 ∧ completion = 0 then pure none
    else do
      let total ← within 32 (prompt + completion)
      pure (some ⟨prompt, completion, total⟩)
  else pure none

/-- `parse_usage_from_value` with each conversion to `u32` and each addition checked. The sum
that stands for a total is computed in `u64`, given or not. -/
def checkedUsage (value : Json) : Option (Option TokenUsage) :=
  match value.get "usage" with
  | some usage => do
    let prompt ← within 32 ((countField usage "prompt_tokens").getD 0)
    let completion ← within 32 ((countField usage "completion_tokens").getD 0)
    let sum ← within 64 (prompt + completion)
    let total ← within 32 ((countField usage "total_tokens").getD sum)
    if 0 < prompt ∨ 0 < completion ∨ 0 < total then pure (some ⟨prompt, completion, total⟩)
    else checkedDone value
  | none => checkedDone value

/-! ## Exact counts -/

/-- The counts are those that the value gives, and no arithmetic on the way to them wraps. -/
structure CountsExact (value : Json) : Prop where
  given : ∀ counts, parseUsageFromValue value = some counts →
    (∃ usage, value.get "usage" = some usage ∧ counts = recordNumbers usage) ∨
      (isDone value ∧ counts = doneNumbers value)
  unwrapped : checkedUsage value = some (parseUsageFromValue value)

/-- The counts of a record fit into `u32`. -/
structure TokenUsage.Fits (counts : TokenUsage) : Prop where
  prompt : counts.promptTokens < 2 ^ 32
  completion : counts.completionTokens < 2 ^ 32
  total : counts.totalTokens < 2 ^ 32

/-- The numbers that are read fit: those of the `usage` record, and those of an Ollama line
where there is no such record or it counts no tokens at all. -/
structure NumbersFit (value : Json) : Prop where
  usage : ∀ usage, value.get "usage" = some usage → (recordNumbers usage).Fits
  done : (∀ usage, value.get "usage" = some usage → recordNumbers usage = ⟨0, 0, 0⟩) →
    isDone value → (doneNumbers value).Fits

/-! ## The check succeeds on what fits -/

private theorem usageRecord_fitting {usage : Json} (fits : (recordNumbers usage).Fits) :
    usageRecord usage = recordNumbers usage := by
  obtain ⟨prompt, completion, total⟩ := fits
  simp only [recordNumbers] at prompt completion total
  simp only [usageRecord, recordNumbers, Nat.mod_eq_of_lt prompt, Nat.mod_eq_of_lt completion,
    Nat.mod_eq_of_lt total]

/-- The check of an Ollama line succeeds just when its numbers fit, with what the code reads. -/
theorem checkedDone_some {value : Json} {read : Option TokenUsage} :
    checkedDone value = some read ↔
      (isDone value → (doneNumbers value).Fits) ∧ ollamaCounts value = read := by
  unfold checkedDone ollamaCounts isDone
  by_cases done : ((value.get "done").bind Json.asBool).getD false = true
  · simp only [done, if_true, forall_const, doneNumbers, within_bind]
    generalize (countField value "prompt_eval_count").getD 0 = prompt
    generalize (countField value "eval_count").getD 0 = completion
    constructor
    · rintro ⟨promptFits, completionFits, rest⟩
      rw [Nat.mod_eq_of_lt promptFits, Nat.mod_eq_of_lt completionFits]
      split_ifs at rest with idle
      · obtain ⟨rfl, rfl⟩ := idle
        exact ⟨⟨promptFits, completionFits, by simp⟩, Option.some.inj rest⟩
      · obtain ⟨totalFits, same⟩ := within_bind.mp rest
        rw [if_neg idle, Nat.mod_eq_of_lt totalFits]
        exact ⟨⟨promptFits, completionFits, totalFits⟩, Option.some.inj same⟩
    · rintro ⟨⟨promptFits, completionFits, totalFits⟩, rfl⟩
      refine ⟨promptFits, completionFits, ?_⟩
      rw [Nat.mod_eq_of_lt promptFits, Nat.mod_eq_of_lt completionFits, Nat.mod_eq_of_lt totalFits]
      split_ifs with idle
      · rfl
      · exact within_bind.mpr ⟨totalFits, rfl⟩
  · simp [done]

private theorem numbersFit_bare {value : Json} (bare : value.get "usage" = none) :
    NumbersFit value ↔ (isDone value → (doneNumbers value).Fits) := by
  have none_given : ∀ usage, value.get "usage" ≠ some usage := by simp [bare]
  constructor
  · intro fits
    exact fits.done fun usage given => absurd given (none_given usage)
  · intro fits
    exact ⟨fun usage given => absurd given (none_given usage), fun _ => fits⟩

private theorem numbersFit_record {value usage : Json} (found : value.get "usage" = some usage) :
    NumbersFit value ↔ (recordNumbers usage).Fits ∧
      (recordNumbers usage = ⟨0, 0, 0⟩ → isDone value → (doneNumbers value).Fits) := by
  constructor
  · rintro ⟨fits, done⟩
    refine ⟨fits usage found, fun idle => done ?_⟩
    intro other given
    obtain rfl := Option.some.inj (found.symm.trans given)
    exact idle
  · rintro ⟨fits, done⟩
    refine ⟨?_, fun idle => done (idle usage found)⟩
    intro other given
    obtain rfl := Option.some.inj (found.symm.trans given)
    exact fits

private theorem counted_iff {counts : TokenUsage} :
    (0 < counts.promptTokens ∨ 0 < counts.completionTokens ∨ 0 < counts.totalTokens) ↔
      counts ≠ ⟨0, 0, 0⟩ := by
  obtain ⟨prompt, completion, total⟩ := counts
  simp only [ne_eq, TokenUsage.mk.injEq]
  omega

/-- The check succeeds just when the numbers fit, with what the code reads. -/
theorem checkedUsage_some {value : Json} {read : Option TokenUsage} :
    checkedUsage value = some read ↔ NumbersFit value ∧ parseUsageFromValue value = read := by
  unfold checkedUsage parseUsageFromValue
  cases found : value.get "usage" with
  | none =>
    rw [numbersFit_bare found]
    exact checkedDone_some
  | some usage =>
    rw [numbersFit_record found]
    simp only [within_bind, Option.map_some]
    constructor
    · rintro ⟨promptFits, completionFits, -, totalFits, rest⟩
      have fits : (recordNumbers usage).Fits := ⟨promptFits, completionFits, totalFits⟩
      rw [usageRecord_fitting fits]
      split_ifs at rest with counted
      · exact ⟨⟨fits, fun idle => absurd idle (counted_iff.mp counted)⟩,
          (if_pos counted).trans (Option.some.inj rest)⟩
      · obtain ⟨doneFits, same⟩ := checkedDone_some.mp rest
        exact ⟨⟨fits, fun _ => doneFits⟩, (if_neg counted).trans same⟩
    · rintro ⟨⟨fits, doneFits⟩, same⟩
      rw [usageRecord_fitting fits] at same
      refine ⟨fits.prompt, fits.completion, ?_, fits.total, ?_⟩
      · apply lt_trans (Nat.add_lt_add fits.prompt fits.completion)
        norm_num
      · by_cases counted : recordNumbers usage = ⟨0, 0, 0⟩
        · have idle := mt counted_iff.mp (not_not_intro counted)
          rw [if_neg idle] at same
          exact (if_neg idle).trans (checkedDone_some.mpr ⟨doneFits counted, same⟩)
        · have counted := counted_iff.mpr counted
          rw [if_pos counted] at same
          exact (if_pos counted).trans (congrArg some same)

/-! ## The counts that are read -/

private theorem ollamaCounts_fitting {value : Json} (fits : isDone value → (doneNumbers value).Fits)
    {counts : TokenUsage} (read : ollamaCounts value = some counts) :
    isDone value ∧ counts = doneNumbers value := by
  unfold ollamaCounts at read
  split_ifs at read with done
  obtain ⟨prompt, completion, total⟩ := fits done
  simp only [doneNumbers] at prompt completion total
  simp only [Nat.mod_eq_of_lt prompt, Nat.mod_eq_of_lt completion, Nat.mod_eq_of_lt total] at read
  split_ifs at read
  exact ⟨done, (Option.some.inj read).symm⟩

/-- Where the numbers fit, the counts are theirs. -/
theorem counts_given {value : Json} (fits : NumbersFit value) {counts : TokenUsage}
    (read : parseUsageFromValue value = some counts) :
    (∃ usage, value.get "usage" = some usage ∧ counts = recordNumbers usage) ∨
      (isDone value ∧ counts = doneNumbers value) := by
  unfold parseUsageFromValue at read
  cases found : value.get "usage" with
  | none =>
    rw [found] at read
    exact .inr (ollamaCounts_fitting ((numbersFit_bare found).mp fits) read)
  | some usage =>
    obtain ⟨recordFits, doneFits⟩ := (numbersFit_record found).mp fits
    rw [found, Option.map_some, usageRecord_fitting recordFits] at read
    simp only at read
    split_ifs at read with counted
    · exact .inl ⟨usage, rfl, (Option.some.inj read).symm⟩
    · have idle := not_not.mp (mt counted_iff.mpr counted)
      exact .inr (ollamaCounts_fitting (doneFits idle) read)

/-- The counts read from a record are its numbers, without wrapping on the way, just when its
numbers fit. -/
theorem token_counts_exact_iff (value : Json) : CountsExact value ↔ NumbersFit value := by
  constructor
  · intro exactly
    exact (checkedUsage_some.mp exactly.unwrapped).1
  · intro fits
    exact ⟨fun _ => counts_given fits, checkedUsage_some.mpr ⟨fits, rfl⟩⟩

/-- A last line whose two counts fit and whose sum does not. -/
private def wrappingLine : String :=
  "\x7b\"done\":true,\"prompt_eval_count\":4294967295,\"eval_count\":1\x7d"

theorem count_sum_wraps : ∃ value, parseStreamLine wrappingLine = some value ∧
    parseUsageFromValue value = some ⟨4294967295, 1, 0⟩ ∧ ¬ CountsExact value := by
  have counts : (parseStreamLine wrappingLine).bind parseUsageFromValue =
      some ⟨4294967295, 1, 0⟩ := by decide +kernel
  have bare : ((parseStreamLine wrappingLine).bind (Json.get · "usage")).isNone := by decide +kernel
  have numbers : (parseStreamLine wrappingLine).map doneNumbers =
      some ⟨4294967295, 1, 4294967296⟩ := by decide +kernel
  obtain ⟨value, parsed, read⟩ := Option.bind_eq_some_iff.mp counts
  rw [parsed] at bare numbers
  refine ⟨value, parsed, read, ?_⟩
  intro exactly
  rcases exactly.given _ read with ⟨usage, found, -⟩ | ⟨-, same⟩
  · rw [Option.bind_some, found] at bare
    cases bare
  · rw [Option.map_some, ← same] at numbers
    cases numbers

/-! ## A whole response -/

/-- The values on the lines of a response. -/
def responseRecords (buffer : String) : List Json := (lines buffer).filterMap parseStreamLine

/-- The counts of a response are those of the last value on its lines that has any. -/
theorem parseUsageFromBuffer_latest (buffer : String) :
    parseUsageFromBuffer buffer =
      ((responseRecords buffer).filterMap parseUsageFromValue).getLast? := by
  have folded : ∀ (lines : List String) (latest : Option TokenUsage),
      lines.foldl (fun latest line =>
        ((parseStreamLine line).bind parseUsageFromValue).or latest) latest =
      ((lines.filterMap parseStreamLine).filterMap parseUsageFromValue).getLast?.or latest := by
    intro lines
    induction lines with
    | nil => exact fun _ => rfl
    | cons line rest ih =>
      intro latest
      rw [List.foldl_cons, ih]
      cases parsed : parseStreamLine line with
      | none => rw [List.filterMap_cons_none parsed, Option.bind_none, Option.none_or]
      | some value =>
        rw [List.filterMap_cons_some parsed, Option.bind_some]
        cases read : parseUsageFromValue value with
        | none => rw [List.filterMap_cons_none read, Option.none_or]
        | some counts =>
          rw [List.filterMap_cons_some read, List.getLast?_cons, Option.some_or, Option.some_or]
          cases ((rest.filterMap parseStreamLine).filterMap parseUsageFromValue).getLast? <;> rfl
  rw [parseUsageFromBuffer, folded, Option.or_none, responseRecords]

/-- The counts of a response whose numbers fit are those of a value on one of its lines. -/
theorem response_counts_given {buffer : String}
    (fits : ∀ value ∈ responseRecords buffer, NumbersFit value) {counts : TokenUsage}
    (read : parseUsageFromBuffer buffer = some counts) :
    ∃ value ∈ responseRecords buffer,
      (∃ usage, value.get "usage" = some usage ∧ counts = recordNumbers usage) ∨
        (isDone value ∧ counts = doneNumbers value) := by
  rw [parseUsageFromBuffer_latest] at read
  obtain ⟨value, among, read⟩ := List.mem_filterMap.mp (List.mem_of_getLast? read)
  exact ⟨value, among, counts_given (fits value among) read⟩

end MtrxPeer
