import Mathlib.Data.String.Basic
import Mathlib.Logic.Function.Iterate
import MtrxPeer.LlmProxy

/-! The defaults that are written into a request on every hop: the final usage chunk, the
cap of the output and the window of the context. -/
namespace MtrxPeer

/-! ## Hops -/

/-- A field of the options of a body. -/
def bodyOption (body : Json) (key : String) : Option Json :=
  (body.get "options").bind (·.get key)

def existingPredict (body : Json) : Option Int := (bodyOption body "num_predict").bind Json.asI64

def givenMaxTokens (body : Json) : Option Nat := (body.get "max_tokens").bind Json.asU64

def existingCtx (body : Json) : Option Nat := (bodyOption body "num_ctx").bind Json.asU64

/-- What one hop makes of a body; the proxy of a plain request does not ask for the usage. -/
def normalizeHop (usage : Bool) (predict ctx : Option UInt64) (body : Json) : Json :=
  let body := if usage then ensureStreamUsage body else body
  let body := ensureOllamaPredictOptionsWithDefault body (predict.map UInt64.toNat)
  ensureOllamaCtxOptionsWithDefault body (ctx.map UInt64.toNat)

/-! ## What the hops should keep -/

/-- The client's cap is its `max_tokens`: it has given no cap to the backend. -/
def CapIsMaxTokens (body : Json) (maxTokens : Nat) : Prop :=
  givenMaxTokens body = some maxTokens ∧ ∀ n, existingPredict body = some n → n ≤ 0 ∧ n ≠ -1

/-- Any number of hops makes of a body what the first one does, and none raises the cap over
the `max_tokens` of the client. -/
def StableAcrossHops (usage : Bool) (predict ctx : Option UInt64) (body : Json) : Prop :=
  ∀ hops : Nat,
    (normalizeHop usage predict ctx)^[hops + 1] body = normalizeHop usage predict ctx body ∧
      ∀ maxTokens, CapIsMaxTokens body maxTokens → ∀ cap,
        (bodyOption ((normalizeHop usage predict ctx)^[hops + 1] body) "num_predict").bind Json.asU64 =
          some cap → cap ≤ maxTokens

/-- The options of a body can be written. -/
def WritableOptions (body : Json) : Prop :=
  body.isObject = true ∧ ∀ options, body.get "options" = some options → options.isObject = true

/-- The cap that one hop writes is taken for a low one by the next: a `max_tokens` under the
default; or a default that no `i64` holds, which the `max_tokens` replaces. -/
def CapRewritten (default : Option UInt64) (existing : Option Int) (maxTokens : Option Nat) : Prop :=
  ∃ d given, default = some d ∧ maxTokens = some given ∧
    ((∀ n, existing = some n → n ≤ 0 ∧ n ≠ -1) ∧ 0 < given ∧ given < 2 ^ 63 ∧ given < d.toNat ∨
      ∃ n, existing = some n ∧ 0 < n ∧ n.toNat < d.toNat ∧ 2 ^ 63 ≤ d.toNat ∧ given ≠ d.toNat)

/-! ## Fields of an object -/

section Fields

/-- A field that is written twice has the second value. -/
theorem insertField_again {key : String} (old value : Json) (fields : List (String × Json)) :
    Json.insertField key value (Json.insertField key old fields) = Json.insertField key value fields := by
  induction fields with
  | nil => simp [Json.insertField]
  | cons field rest ih =>
    obtain ⟨k, v⟩ := field
    by_cases same : key = k
    · simp [Json.insertField, same]
    · by_cases before : key < k
      · simp [Json.insertField, same, before]
      · simp [Json.insertField, same, before, ih]

/-- A field is where it was after one of a smaller key is written. -/
theorem insertField_between {key less : String} (smaller : less < key) (value other : Json)
    (fields : List (String × Json)) :
    Json.insertField key value (Json.insertField less other (Json.insertField key value fields)) =
      Json.insertField less other (Json.insertField key value fields) := by
  have differs : less ≠ key := ne_of_lt smaller
  have behind : ¬ key < less := not_lt_of_gt smaller
  induction fields with
  | nil => simp [Json.insertField, smaller, differs, Ne.symm differs, behind]
  | cons field rest ih =>
    obtain ⟨k, v⟩ := field
    by_cases same : key = k
    · subst same
      simp [Json.insertField, smaller, differs, Ne.symm differs, behind]
    · by_cases before : key < k
      · simp [Json.insertField, same, before, smaller, differs, Ne.symm differs, behind]
      · by_cases here : less = k
        · subst here
          simp [Json.insertField, same, before, insertField_again]
        · by_cases ahead : less < k
          · have again : Json.insertField key value (Json.insertField key value rest) =
                Json.insertField key value rest := insertField_again value value rest
            simp [Json.insertField, same, before, here, ahead, Ne.symm differs, behind, again]
          · simp [Json.insertField, same, before, here, ahead, ih]

end Fields

/-! ## The options of a body -/

/-- What is written into the options of a body, if it has an object for them. -/
def writeOption (body : Json) (key : String) (value : Json) : Json :=
  match body with
  | .obj fields => .obj (insertNested "options" key value fields)
  | other => other

/-- The cap that is written goes by the one the body has, the client's `max_tokens` and the
default. -/
def resolveNumPredict (default : Option UInt64) (existing : Option Int) (maxTokens : Option Nat) :
    Option Nat :=
  match existing with
  | some n =>
    if n = -1 then none
    else if n ≤ 0 then maxTokens.or (default.map UInt64.toNat)
    else
      match default with
      | some default => if default.toNat ≤ n.toNat then none else some default.toNat
      | none => none
  | none => maxTokens.or (default.map UInt64.toNat)

theorem ensurePredict_eq (body : Json) (predict : Option UInt64) :
    ensureOllamaPredictOptionsWithDefault body (predict.map UInt64.toNat) =
      match resolveNumPredict predict (existingPredict body) (givenMaxTokens body) with
      | none => body
      | some numPredict => writeOption body "num_predict" (Json.ofNat numPredict) := by
  cases body with
  | obj fields =>
    have same : resolvedNumPredict fields (predict.map UInt64.toNat) =
        resolveNumPredict predict (existingPredict (.obj fields)) (givenMaxTokens (.obj fields)) := by
      simp only [resolvedNumPredict, resolveNumPredict, existingPredict, bodyOption, givenMaxTokens,
        Json.get_obj]
      cases predict <;> rfl
    simp only [ensureOllamaPredictOptionsWithDefault, same]
    cases resolveNumPredict predict (existingPredict (.obj fields)) (givenMaxTokens (.obj fields)) with
    | none => rfl
    | some numPredict => rfl
  | _ =>
    simp only [ensureOllamaPredictOptionsWithDefault]
    split <;> rfl

theorem ensureCtx_eq (body : Json) (ctx : Option UInt64) :
    ensureOllamaCtxOptionsWithDefault body (ctx.map UInt64.toNat) =
      match ctx.filter (0 < ·) with
      | none => body
      | some default =>
        if (existingCtx body).any (default.toNat ≤ ·) then body
        else writeOption body "num_ctx" (Json.ofNat default.toNat) := by
  have set : (ctx.map UInt64.toNat).filter (0 < ·) = (ctx.filter (0 < ·)).map UInt64.toNat := by
    cases ctx with
    | none => rfl
    | some default =>
      simp only [Option.map_some, Option.filter_some, UInt64.lt_iff_toNat_lt, UInt64.toNat_zero]
      split <;> rfl
  simp only [ensureOllamaCtxOptionsWithDefault, set]
  cases ctx.filter (0 < ·) with
  | none => rfl
  | some default =>
    cases body with
    | obj fields => rfl
    | _ => simp [writeOption]

section Options

variable {body : Json} {key : String} {value : Json}

/-- The fields of a body and of its options. -/
private theorem WritableOptions.fields (writable : WritableOptions body) :
    ∃ fields opts, body = .obj fields ∧ (fields.lookup "options").getD (.obj []) = .obj opts := by
  cases body with
  | obj fields =>
    cases found : fields.lookup "options" with
    | none => exact ⟨fields, [], rfl, by rw [found]; rfl⟩
    | some options =>
      have object := writable.2 options found
      cases options with
      | obj opts => exact ⟨fields, opts, rfl, by rw [found]; rfl⟩
      | _ => cases object
  | _ => cases writable.1

private theorem writeOption_writable {fields opts : List (String × Json)}
    (found : (fields.lookup "options").getD (.obj []) = .obj opts) (key : String) (value : Json) :
    writeOption (.obj fields) key value =
      .obj (Json.insertField "options" (.obj (Json.insertField key value opts)) fields) := by
  simp only [writeOption, insertNested, entryOr]
  cases there : fields.lookup "options" with
  | none =>
    rw [there] at found
    cases found
    simp only [Json.lookup_insertField_self, insertField_again]
  | some options =>
    rw [there, Option.getD_some] at found
    simp only [there, found]

private theorem lookup_written (value : Json) (fields : List (String × Json)) :
    ((Json.insertField "options" value fields).lookup "options").getD (.obj []) = value := by
  rw [Json.lookup_insertField_self, Option.getD_some]

theorem writeOption_unwritable (unwritable : ¬ WritableOptions body) (key : String) (value : Json) :
    writeOption body key value = body := by
  cases body with
  | obj fields =>
    cases there : fields.lookup "options" with
    | none =>
      refine absurd ⟨rfl, fun options found => ?_⟩ unwritable
      rw [Json.get_obj, there] at found
      cases found
    | some options =>
      cases options with
      | obj opts =>
        refine absurd ⟨rfl, fun options found => ?_⟩ unwritable
        rw [Json.get_obj, there] at found
        cases found
        rfl
      | _ => simp only [writeOption, insertNested, entryOr, there]
  | _ => rfl

theorem writeOption_isWritable (writable : WritableOptions body) (key : String) (value : Json) :
    WritableOptions (writeOption body key value) := by
  obtain ⟨fields, opts, rfl, found⟩ := writable.fields
  rw [writeOption_writable found]
  refine ⟨rfl, fun options there => ?_⟩
  rw [Json.get_obj, Json.lookup_insertField_self] at there
  obtain rfl := Option.some.inj there
  rfl

theorem bodyOption_writeOption (writable : WritableOptions body) (key : String) (value : Json) :
    bodyOption (writeOption body key value) key = some value := by
  obtain ⟨fields, opts, rfl, found⟩ := writable.fields
  rw [writeOption_writable found, bodyOption, Json.get_obj, Json.lookup_insertField_self]
  exact Json.lookup_insertField_self key value opts

theorem bodyOption_writeOption_ne {other : String} (differs : other ≠ key) :
    bodyOption (writeOption body key value) other = bodyOption body other := by
  by_cases writable : WritableOptions body
  · obtain ⟨fields, opts, rfl, found⟩ := writable.fields
    rw [writeOption_writable found, bodyOption, Json.get_obj, Json.lookup_insertField_self]
    refine (Json.lookup_insertField_of_ne differs value opts).trans ?_
    rw [bodyOption, Json.get_obj]
    cases there : fields.lookup "options" with
    | none =>
      rw [there] at found
      cases found
      rfl
    | some options =>
      rw [there, Option.getD_some] at found
      rw [found]
      rfl
  · rw [writeOption_unwritable writable]

theorem get_writeOption {other : String} (differs : other ≠ "options") :
    (writeOption body key value).get other = body.get other := by
  cases body with
  | obj fields => exact lookup_insertNested_of_ne differs key value fields
  | _ => rfl

private theorem writeOption_again (writable : WritableOptions body) :
    writeOption (writeOption body key value) key value = writeOption body key value := by
  obtain ⟨fields, opts, rfl, found⟩ := writable.fields
  rw [writeOption_writable found, writeOption_writable (lookup_written _ _), insertField_again,
    insertField_again]

private theorem writeOption_between {less : String} (smaller : less < key) (writable : WritableOptions body)
    (other : Json) :
    writeOption (writeOption (writeOption body key value) less other) key value =
      writeOption (writeOption body key value) less other := by
  obtain ⟨fields, opts, rfl, found⟩ := writable.fields
  rw [writeOption_writable found, writeOption_writable (lookup_written _ _),
    writeOption_writable (lookup_written _ _), insertField_between smaller]
  simp only [insertField_again]

end Options

/-! ## What one hop settles -/

section Settled

variable {body : Json} {predict ctx : Option UInt64} {usage : Bool}

/-- The final usage chunk is asked for, if a stream is. -/
def UsageSettled (body : Json) : Prop :=
  ((body.get "stream").bind Json.asBool).getD false = true →
    ∃ options, body.get "stream_options" = some options ∧
      ∀ fields, options = .obj fields → (fields.lookup "include_usage").isSome = true

private theorem lookup_entryOr {key : String} {fallback value : Json} {fields : List (String × Json)}
    (there : fields.lookup key = some value) : entryOr key fallback fields = fields := by
  simp only [entryOr, there]

private theorem ensureStreamUsage_settled (settled : UsageSettled body) : ensureStreamUsage body = body := by
  unfold ensureStreamUsage
  split
  · rename_i stream
    obtain ⟨options, found, asked⟩ := settled stream
    cases body with
    | obj fields =>
      simp only [lookup_entryOr found]
      rw [Json.get_obj] at found
      rw [found]
      cases options with
      | obj opts =>
        obtain ⟨value, there⟩ := Option.isSome_iff_exists.mp (asked opts rfl)
        simp only [there]
      | _ => rfl
    | _ => rfl
  · rfl

private theorem ensureStreamUsage_settles (body : Json) : UsageSettled (ensureStreamUsage body) := by
  intro stream
  rw [ensureStreamUsage_get (by decide)] at stream
  cases body with
  | obj fields =>
    simp only [ensureStreamUsage, stream, if_true]
    split
    · rename_i opts found
      split
      · rename_i value asked
        refine ⟨_, found, fun fields same => ?_⟩
        cases same
        rw [asked]
        rfl
      · refine ⟨_, Json.lookup_insertField_self _ _ _, fun fields same => ?_⟩
        cases same
        rw [Json.lookup_insertField_self]
        rfl
    · rename_i notObject
      cases there : fields.lookup "stream_options" with
      | none =>
        refine absurd ?_ (notObject [])
        simp only [entryOr, there, Json.lookup_insertField_self]
      | some options =>
        rw [lookup_entryOr there] at notObject ⊢
        refine ⟨options, there, fun opts same => ?_⟩
        rw [there, same] at notObject
        exact absurd rfl (notObject opts)
  | _ => cases stream

/-- The window is as large as the default. -/
def CtxSettled (ctx : Option UInt64) (body : Json) : Prop :=
  ∀ default, ctx.filter (0 < ·) = some default → ∃ n, existingCtx body = some n ∧ default.toNat ≤ n

private theorem ensureCtx_settled (settled : CtxSettled ctx body) :
    ensureOllamaCtxOptionsWithDefault body (ctx.map UInt64.toNat) = body := by
  rw [ensureCtx_eq]
  split
  · rfl
  · rename_i default set
    obtain ⟨n, found, enough⟩ := settled default set
    rw [found, if_pos (by simpa using enough)]

private theorem asU64_ofNat (n : UInt64) : (Json.ofNat n.toNat).asU64 = some n.toNat := by
  have := n.toNat_lt
  simp only [Json.ofNat, Json.asU64]
  rw [if_pos (by omega), Int.toNat_natCast]

private theorem ensureCtx_settles (writable : WritableOptions body) :
    CtxSettled ctx (ensureOllamaCtxOptionsWithDefault body (ctx.map UInt64.toNat)) := by
  intro default set
  simp only [ensureCtx_eq, set]
  by_cases enough : (existingCtx body).any (default.toNat ≤ ·) = true
  · rw [if_pos enough]
    obtain ⟨n, found, large⟩ := (Option.any_eq_true ..).mp enough
    exact ⟨n, found, by simpa using large⟩
  · rw [if_neg enough]
    refine ⟨default.toNat, ?_, Nat.le_refl _⟩
    rw [existingCtx, bodyOption_writeOption writable, Option.bind_some, asU64_ofNat]

/-- What the context does to a body is nothing, or to write its option. -/
private theorem ensureCtx_cases (body : Json) (ctx : Option UInt64) :
    ensureOllamaCtxOptionsWithDefault body (ctx.map UInt64.toNat) = body ∨
      ∃ value, ensureOllamaCtxOptionsWithDefault body (ctx.map UInt64.toNat) =
        writeOption body "num_ctx" value := by
  rw [ensureCtx_eq]
  split
  · exact .inl rfl
  · split
    · exact .inl rfl
    · exact .inr ⟨_, rfl⟩

private theorem UsageSettled.written (settled : UsageSettled body) (key : String) (value : Json) :
    UsageSettled (writeOption body key value) := by
  intro stream
  rw [get_writeOption (by decide)] at stream ⊢
  exact settled stream

private theorem CtxSettled.written (settled : CtxSettled ctx body) (value : Json) :
    CtxSettled ctx (writeOption body "num_predict" value) := by
  intro default set
  obtain ⟨n, found, enough⟩ := settled default set
  refine ⟨n, ?_, enough⟩
  rw [existingCtx, bodyOption_writeOption_ne (by decide)]
  exact found

/-- On a body that one hop has settled the next one can only write the cap. -/
private theorem normalizeHop_settled (asked : usage = true → UsageSettled body) (window : CtxSettled ctx body) :
    normalizeHop usage predict ctx body =
      ensureOllamaPredictOptionsWithDefault body (predict.map UInt64.toNat) := by
  have first : (if usage then ensureStreamUsage body else body) = body := by
    cases usage with
    | false => rfl
    | true => rw [if_pos rfl, ensureStreamUsage_settled (asked rfl)]
  rw [normalizeHop, first]
  have kept : CtxSettled ctx (ensureOllamaPredictOptionsWithDefault body (predict.map UInt64.toNat)) := by
    rw [ensurePredict_eq]
    split
    · exact window
    · exact window.written _
  rw [ensureCtx_settled kept]

end Settled

/-! ## One hop after another -/

section Hops

variable {usage : Bool} {predict ctx : Option UInt64} {body : Json}

/-- The body of a hop before its options are looked at. -/
private def afterUsage (usage : Bool) (body : Json) : Json :=
  if usage then ensureStreamUsage body else body

private theorem get_afterUsage {key : String} (other : key ≠ "stream_options") :
    (afterUsage usage body).get key = body.get key := by
  cases usage with
  | false => rfl
  | true => exact ensureStreamUsage_get other body

private theorem afterUsage_settled (usage : Bool) (body : Json) (asked : usage = true) :
    UsageSettled (afterUsage usage body) := by
  rw [afterUsage, if_pos asked]
  exact ensureStreamUsage_settles body

private theorem isObject_ensureStreamUsage (body : Json) :
    (ensureStreamUsage body).isObject = body.isObject := by
  unfold ensureStreamUsage
  cases body with
  | obj fields =>
    split
    · simp only []
      split
      · split <;> rfl
      · rfl
    · rfl
  | _ => split <;> rfl

private theorem afterUsage_writable : WritableOptions (afterUsage usage body) ↔ WritableOptions body := by
  have object : (afterUsage usage body).isObject = body.isObject := by
    cases usage with
    | false => rfl
    | true => exact isObject_ensureStreamUsage body
  rw [WritableOptions, object, get_afterUsage (by decide)]
  exact Iff.rfl

private theorem existingPredict_afterUsage : existingPredict (afterUsage usage body) = existingPredict body := by
  rw [existingPredict, bodyOption, get_afterUsage (by decide)]
  rfl

private theorem givenMaxTokens_afterUsage : givenMaxTokens (afterUsage usage body) = givenMaxTokens body := by
  rw [givenMaxTokens, get_afterUsage (by decide)]
  rfl

/-- Where the options cannot be written, a hop only asks for the usage. -/
private theorem normalizeHop_unwritable (unwritable : ¬ WritableOptions body) :
    normalizeHop usage predict ctx body = afterUsage usage body := by
  have still : ¬ WritableOptions (afterUsage usage body) := fun writable =>
    unwritable (afterUsage_writable.mp writable)
  have predicted : ensureOllamaPredictOptionsWithDefault (afterUsage usage body) (predict.map UInt64.toNat) =
      afterUsage usage body := by
    rw [ensurePredict_eq]
    split
    · rfl
    · rw [writeOption_unwritable still]
  refine Eq.trans ?_ predicted
  rw [show normalizeHop usage predict ctx body = ensureOllamaCtxOptionsWithDefault
    (ensureOllamaPredictOptionsWithDefault (afterUsage usage body) (predict.map UInt64.toNat))
    (ctx.map UInt64.toNat) from rfl, predicted]
  rcases ensureCtx_cases (afterUsage usage body) ctx with kept | ⟨value, written⟩
  · exact kept
  · rw [written, writeOption_unwritable still]

/-- The body after one hop: what was resolved is written, and the rest is settled. -/
private structure Hopped (usage : Bool) (predict ctx : Option UInt64) (body after : Json) : Prop where
  writable : WritableOptions after
  asked : usage = true → UsageSettled after
  window : CtxSettled ctx after
  given : givenMaxTokens after = givenMaxTokens body
  kept : resolveNumPredict predict (existingPredict body) (givenMaxTokens body) = none →
    existingPredict after = existingPredict body
  cap : ∀ r, resolveNumPredict predict (existingPredict body) (givenMaxTokens body) = some r →
    bodyOption after "num_predict" = some (Json.ofNat r) ∧
      writeOption after "num_predict" (Json.ofNat r) = after

private theorem normalizeHop_hopped (writable : WritableOptions body) :
    Hopped usage predict ctx body (normalizeHop usage predict ctx body) := by
  have started : WritableOptions (afterUsage usage body) := afterUsage_writable.mpr writable
  let capped := ensureOllamaPredictOptionsWithDefault (afterUsage usage body) (predict.map UInt64.toNat)
  have hop : normalizeHop usage predict ctx body =
      ensureOllamaCtxOptionsWithDefault capped (ctx.map UInt64.toNat) := rfl
  have capCases : resolveNumPredict predict (existingPredict body) (givenMaxTokens body) = none ∧
      capped = afterUsage usage body ∨
    ∃ r, resolveNumPredict predict (existingPredict body) (givenMaxTokens body) = some r ∧
      capped = writeOption (afterUsage usage body) "num_predict" (Json.ofNat r) := by
    cases resolved : resolveNumPredict predict (existingPredict body) (givenMaxTokens body) with
    | none =>
      refine .inl ⟨rfl, ?_⟩
      simp only [capped, ensurePredict_eq, existingPredict_afterUsage,
        givenMaxTokens_afterUsage, resolved]
    | some r =>
      refine .inr ⟨r, rfl, ?_⟩
      simp only [capped, ensurePredict_eq, existingPredict_afterUsage,
        givenMaxTokens_afterUsage, resolved]
  have cappedWritable : WritableOptions capped := by
    rcases capCases with ⟨-, same⟩ | ⟨r, -, written⟩
    · rw [same]
      exact started
    · rw [written]
      exact writeOption_isWritable started _ _
  have cappedAsked : usage = true → UsageSettled capped := by
    intro asked
    rcases capCases with ⟨-, same⟩ | ⟨r, -, written⟩
    · rw [same]
      exact afterUsage_settled usage body asked
    · rw [written]
      exact (afterUsage_settled usage body asked).written _ _
  have cappedGiven : givenMaxTokens capped = givenMaxTokens body := by
    rcases capCases with ⟨-, same⟩ | ⟨r, -, written⟩
    · rw [same, givenMaxTokens_afterUsage]
    · rw [written, givenMaxTokens, get_writeOption (by decide)]
      exact givenMaxTokens_afterUsage
  rw [hop]
  refine ⟨?_, fun asked => ?_, ensureCtx_settles cappedWritable, ?_, fun none_ => ?_, fun r resolved => ?_⟩
  · rcases ensureCtx_cases capped ctx with same | ⟨value, written⟩
    · rw [same]
      exact cappedWritable
    · rw [written]
      exact writeOption_isWritable cappedWritable _ _
  · rcases ensureCtx_cases capped ctx with same | ⟨value, written⟩
    · rw [same]
      exact cappedAsked asked
    · rw [written]
      exact (cappedAsked asked).written _ _
  · rcases ensureCtx_cases capped ctx with same | ⟨value, written⟩
    · rw [same, cappedGiven]
    · rw [written, givenMaxTokens, get_writeOption (by decide)]
      exact cappedGiven
  · rcases capCases with ⟨-, unchanged⟩ | ⟨r, resolved, -⟩
    · rcases ensureCtx_cases capped ctx with same | ⟨value, written⟩
      · rw [same, unchanged, existingPredict_afterUsage]
      · rw [written, existingPredict, bodyOption_writeOption_ne (by decide), unchanged]
        exact existingPredict_afterUsage
    · rw [resolved] at none_
      cases none_
  · rcases capCases with ⟨none_, -⟩ | ⟨r', resolved', capWritten⟩
    · rw [none_] at resolved
      cases resolved
    · rw [resolved'] at resolved
      obtain rfl := Option.some.inj resolved
      rcases ensureCtx_cases capped ctx with same | ⟨value, written⟩
      · rw [same, capWritten]
        exact ⟨bodyOption_writeOption started _ _, writeOption_again started⟩
      · rw [written, bodyOption_writeOption_ne (by decide), capWritten]
        exact ⟨bodyOption_writeOption started _ _, writeOption_between (by decide) started _⟩

private theorem asI64_ofNat (n : Nat) : (Json.ofNat n).asI64 = if n < 2 ^ 63 then some (n : Int) else none := by
  simp only [Json.ofNat, Json.asI64]
  by_cases small : n < 2 ^ 63
  · rw [if_pos small, if_pos (by omega)]
  · rw [if_neg small, if_neg (by omega)]

private theorem resolveNumPredict_open {existing : Option Int}
    (unset : ∀ n, existing = some n → n ≤ 0 ∧ n ≠ -1) (maxTokens : Option Nat) :
    resolveNumPredict predict existing maxTokens = maxTokens.or (predict.map UInt64.toNat) := by
  cases existing with
  | none => rfl
  | some n =>
    obtain ⟨low, limited⟩ := unset n rfl
    simp only [resolveNumPredict, if_neg limited, if_pos low]

/-- A cap that has been written is resolved once more. -/
private theorem resolveNumPredict_written (r : Nat) (maxTokens : Option Nat) :
    resolveNumPredict predict (Json.ofNat r).asI64 maxTokens =
      if 0 < r ∧ r < 2 ^ 63 then (predict.map UInt64.toNat).filter (r < ·)
      else maxTokens.or (predict.map UInt64.toNat) := by
  rw [asI64_ofNat]
  by_cases small : r < 2 ^ 63
  · rw [if_pos small]
    by_cases positive : 0 < r
    · rw [if_pos ⟨positive, small⟩]
      simp only [resolveNumPredict]
      rw [if_neg (by omega), if_neg (by omega)]
      cases predict with
      | none => rfl
      | some default =>
        simp only [Option.map_some, Option.filter_some, Int.toNat_natCast, decide_eq_true_eq]
        by_cases enough : default.toNat ≤ r
        · rw [if_pos enough, if_neg (by omega)]
        · rw [if_neg enough, if_pos (by omega)]
    · rw [if_neg (by omega)]
      refine resolveNumPredict_open (fun n same => ?_) maxTokens
      obtain rfl := Option.some.inj same
      omega
  · rw [if_neg small, if_neg (by omega)]
    rfl

/-- Without a cap of the client's own, what is resolved again is another one just where a
`max_tokens` below the default was taken for the cap. -/
private theorem resolveNumPredict_again_open {existing : Option Int} {maxTokens : Option Nat} {r : Nat}
    (unset : ∀ n, existing = some n → n ≤ 0 ∧ n ≠ -1)
    (resolved : resolveNumPredict predict existing maxTokens = some r) :
    (∀ r', resolveNumPredict predict (Json.ofNat r).asI64 maxTokens = some r' → r' = r) ↔
      ¬ CapRewritten predict existing maxTokens := by
  rw [resolveNumPredict_written]
  rw [resolveNumPredict_open unset] at resolved
  have rewritten : CapRewritten predict existing maxTokens ↔
      ∃ d given, predict = some d ∧ maxTokens = some given ∧ 0 < given ∧ given < 2 ^ 63 ∧
        given < d.toNat := by
    constructor
    · rintro ⟨d, given, default, tokens, ⟨-, low⟩ | ⟨n, there, positive, -⟩⟩
      · exact ⟨d, given, default, tokens, low⟩
      · have := (unset n there).1
        omega
    · rintro ⟨d, given, default, tokens, low⟩
      exact ⟨d, given, default, tokens, .inl ⟨unset, low⟩⟩
  rw [rewritten]
  cases maxTokens with
  | none =>
    cases predict with
    | none => cases resolved
    | some d =>
      obtain rfl := Option.some.inj resolved
      refine iff_of_true (fun r' same => ?_) ?_
      · simp only [Option.map_some, Option.filter_some, lt_irrefl, decide_false, Option.none_or] at same
        split_ifs at same
        all_goals simp_all
      · rintro ⟨_, _, _, tokens, _⟩
        cases tokens
  | some given =>
    obtain rfl := Option.some.inj resolved
    cases predict with
    | none => simp
    | some d =>
      by_cases small : 0 < given ∧ given < 2 ^ 63
      · rw [if_pos small]
        simp only [Option.map_some, Option.filter_some, decide_eq_true_eq]
        by_cases low : given < d.toNat
        · refine iff_of_false (fun all => ?_) fun never => never ⟨d, given, rfl, rfl, small.1, small.2, low⟩
          have := all d.toNat (if_pos low)
          omega
        · refine iff_of_true (fun r' same => ?_) ?_
          · rw [if_neg low] at same
            cases same
          · rintro ⟨d', given', same, tokens, -, -, low'⟩
            obtain rfl := Option.some.inj same
            obtain rfl := Option.some.inj tokens
            exact low low'
      · rw [if_neg small]
        simp only [Option.some_or, Option.some.injEq]
        constructor
        · rintro - ⟨d', given', -, rfl, positive, below, -⟩
          exact small ⟨positive, below⟩
        · exact fun _ r' same => same.symm

/-- A cap of the client's own is raised to the default; what is resolved again is another one
just where the default is not read as a number and gives way to `max_tokens`. -/
private theorem resolveNumPredict_again_set {n : Int} {maxTokens : Option Nat} {r : Nat}
    (set : ¬ (n ≤ 0 ∧ n ≠ -1)) (resolved : resolveNumPredict predict (some n) maxTokens = some r) :
    (∀ r', resolveNumPredict predict (Json.ofNat r).asI64 maxTokens = some r' → r' = r) ↔
      ¬ CapRewritten predict (some n) maxTokens := by
  rw [resolveNumPredict_written]
  have limited : n ≠ -1 := by
    rintro rfl
    simp [resolveNumPredict] at resolved
  have positive : 0 < n := by omega
  have notLow : ¬ n ≤ 0 := by omega
  simp only [resolveNumPredict, if_neg limited, if_neg notLow] at resolved
  cases predict with
  | none => cases resolved
  | some d =>
    simp only at resolved
    split_ifs at resolved with enough
    obtain rfl := Option.some.inj resolved
    have rewritten : CapRewritten (some d) (some n) maxTokens ↔
        ∃ given, maxTokens = some given ∧ 2 ^ 63 ≤ d.toNat ∧ given ≠ d.toNat := by
      constructor
      · rintro ⟨d', given, same, tokens, ⟨low, -⟩ | ⟨n', -, -, -, large, differs⟩⟩
        · have := low n rfl
          omega
        · obtain rfl := Option.some.inj same
          exact ⟨given, tokens, large, differs⟩
      · rintro ⟨given, tokens, large, differs⟩
        exact ⟨d, given, rfl, tokens, .inr ⟨n, rfl, positive, by omega, large, differs⟩⟩
    rw [rewritten]
    by_cases large : 2 ^ 63 ≤ d.toNat
    · rw [if_neg (by omega)]
      cases maxTokens with
      | none =>
        refine iff_of_true (fun r' same => (Option.some.inj same).symm) ?_
        rintro ⟨_, tokens, _⟩
        cases tokens
      | some given =>
        rw [Option.some_or]
        constructor
        · rintro all ⟨given', tokens, -, differs⟩
          obtain rfl := Option.some.inj tokens
          exact differs (all given rfl)
        · rintro never r' same
          obtain rfl := Option.some.inj same
          by_contra differs
          exact never ⟨given, rfl, large, differs⟩
    · refine iff_of_true (fun r' same => ?_) ?_
      · rw [if_pos (by omega)] at same
        simp only [Option.map_some, Option.filter_some, lt_irrefl, decide_false] at same
        cases same
      · rintro ⟨_, _, large', _⟩
        exact large large'

/-- Whether what was resolved is resolved again, from what was written. -/
private theorem resolveNumPredict_again {existing : Option Int} {maxTokens : Option Nat} {r : Nat}
    (resolved : resolveNumPredict predict existing maxTokens = some r) :
    (∀ r', resolveNumPredict predict (Json.ofNat r).asI64 maxTokens = some r' → r' = r) ↔
      ¬ CapRewritten predict existing maxTokens := by
  by_cases unset : ∀ n, existing = some n → n ≤ 0 ∧ n ≠ -1
  · exact resolveNumPredict_again_open unset resolved
  · obtain ⟨n, rfl, set⟩ : ∃ n, existing = some n ∧ ¬ (n ≤ 0 ∧ n ≠ -1) := by
      simpa using unset
    exact resolveNumPredict_again_set set resolved

private theorem CapRewritten.resolves {existing : Option Int} {maxTokens : Option Nat}
    (rewritten : CapRewritten predict existing maxTokens) :
    resolveNumPredict predict existing maxTokens ≠ none := by
  obtain ⟨d, given, rfl, rfl, ⟨unset, -⟩ | ⟨n, rfl, positive, below, -⟩⟩ := rewritten
  · rw [resolveNumPredict_open unset]
    simp
  · simp only [resolveNumPredict]
    rw [if_neg (by omega), if_neg (by omega), if_neg (by omega)]
    simp

private theorem ofNat_inj {n m : Nat} (same : Json.ofNat n = Json.ofNat m) : n = m := by
  simp only [Json.ofNat, Json.num.injEq, Number.int.injEq] at same
  omega

/-- A second hop makes of the body what the first one did, unless the cap is rewritten. -/
private theorem normalizeHop_twice_iff :
    normalizeHop usage predict ctx (normalizeHop usage predict ctx body) = normalizeHop usage predict ctx body ↔
      ¬ (WritableOptions body ∧ CapRewritten predict (existingPredict body) (givenMaxTokens body)) := by
  by_cases writable : WritableOptions body
  · have hopped : Hopped usage predict ctx body _ := normalizeHop_hopped writable
    rw [normalizeHop_settled hopped.asked hopped.window]
    generalize normalizeHop usage predict ctx body = after at hopped
    simp only [ensurePredict_eq, hopped.given]
    cases resolved : resolveNumPredict predict (existingPredict body) (givenMaxTokens body) with
    | none =>
      rw [hopped.kept resolved, resolved]
      exact iff_of_true rfl fun both => both.2.resolves resolved
    | some r =>
      obtain ⟨cap, written⟩ := hopped.cap r resolved
      have existing : existingPredict after = (Json.ofNat r).asI64 := by
        rw [existingPredict, cap, Option.bind_some]
      have again := resolveNumPredict_again resolved
      have only : ¬ (WritableOptions body ∧ CapRewritten predict (existingPredict body) (givenMaxTokens body)) ↔
          ¬ CapRewritten predict (existingPredict body) (givenMaxTokens body) :=
        not_congr (and_iff_right writable)
      rw [existing, only, ← again]
      cases next : resolveNumPredict predict (Json.ofNat r).asI64 (givenMaxTokens body) with
      | none => exact iff_of_true rfl fun r' same => nomatch same
      | some r' =>
        constructor
        · intro same r'' found
          obtain rfl := Option.some.inj found
          have rewritten := bodyOption_writeOption hopped.writable "num_predict" (Json.ofNat r')
          simp only at same
          rw [same, cap] at rewritten
          exact (ofNat_inj (Option.some.inj rewritten)).symm
        · intro same
          obtain rfl := same r' rfl
          exact written
  · have still : ¬ WritableOptions (afterUsage usage body) := fun there =>
      writable (afterUsage_writable.mp there)
    rw [normalizeHop_unwritable writable, normalizeHop_unwritable still]
    refine iff_of_true ?_ fun both => writable both.1
    cases usage with
    | false => rfl
    | true =>
      simp only [afterUsage, if_true]
      rw [ensureStreamUsage_settled (ensureStreamUsage_settles body)]

/-- Every number of hops gives the same body, and keeps to the client's `max_tokens`, unless
the options can be written and the cap that is written is rewritten by the next hop. -/
theorem hops_stable_iff (usage : Bool) (predict ctx : Option UInt64) (body : Json) :
    StableAcrossHops usage predict ctx body ↔
      ¬ (WritableOptions body ∧ CapRewritten predict (existingPredict body) (givenMaxTokens body)) := by
  have exact_ : normalizeHop usage predict ctx (normalizeHop usage predict ctx body) =
      normalizeHop usage predict ctx body ↔ _ := normalizeHop_twice_iff
  rw [← exact_]
  constructor
  · intro stable
    exact (stable 1).1
  · intro twice hops
    have settled : (normalizeHop usage predict ctx)^[hops + 1] body = normalizeHop usage predict ctx body := by
      induction hops with
      | zero => rfl
      | succ hops ih => rw [Function.iterate_succ_apply', ih, twice]
    refine ⟨settled, ?_⟩
    rintro maxTokens ⟨given, unset⟩ cap found
    rw [settled] at found
    by_cases writable : WritableOptions body
    · have resolved : resolveNumPredict predict (existingPredict body) (givenMaxTokens body) =
          some maxTokens := by
        rw [resolveNumPredict_open unset, given, Option.some_or]
      rw [((normalizeHop_hopped writable).cap maxTokens resolved).1, Option.bind_some] at found
      simp only [Json.ofNat, Json.asU64] at found
      split_ifs at found
      obtain rfl := Option.some.inj found
      omega
    · -- What cannot be written holds no cap.
      rw [normalizeHop_unwritable writable, bodyOption, get_afterUsage (by decide)] at found
      refine absurd ⟨?_, fun options there => ?_⟩ writable
      · cases body with
        | obj fields => rfl
        | _ => cases given
      · rw [there, Option.bind_some] at found
        cases options with
        | obj opts => rfl
        | _ => cases found

/-- A `max_tokens` of 512 is written by the first hop, and raised to the default by the second. -/
theorem max_tokens_raised :
    ¬ StableAcrossHops true (some 8192) (some 16384) (.obj [("max_tokens", Json.ofNat 512)]) := by
  intro stable
  have raised := (stable 1).2 512 ⟨rfl, fun n there => nomatch there⟩ 8192 (by decide)
  omega

end Hops

end MtrxPeer
