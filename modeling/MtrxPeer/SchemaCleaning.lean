import MtrxPeer.RequestNormalizing

/-! What the cleaning of a tool's parameter schema keeps. A key is a keyword only where a
schema stands; among the properties it is a name, and in an enumeration or a default it is data. -/
namespace MtrxPeer

/-! ## Positions -/

/-- The keywords whose object has a schema under each name. -/
def schemasByName : List String :=
  ["properties", "patternProperties", "$defs", "definitions", "dependentSchemas",
    "dependentRequired", "dependencies"]

/-- The keywords whose value is data. -/
def dataKeywords : List String := ["enum", "default", "const", "examples"]

mutual

/-- A schema without the keywords that strict parsers reject, wherever a schema stands in it. -/
def withoutKeywords : Json → Json
  | .obj fields => .obj (withoutKeywordFields fields)
  | .arr items => .arr (withoutKeywordItems items)
  | other => other

def withoutKeywordFields : List (String × Json) → List (String × Json)
  | [] => []
  | (key, value) :: rest =>
    if cleanedField key value then withoutKeywordFields rest
    else if key ∈ schemasByName then (key, namedWithoutKeywords value) :: withoutKeywordFields rest
    else if key ∈ dataKeywords then (key, value) :: withoutKeywordFields rest
    else (key, withoutKeywords value) :: withoutKeywordFields rest

def withoutKeywordItems : List Json → List Json
  | [] => []
  | item :: rest => withoutKeywords item :: withoutKeywordItems rest

/-- Schemas by their names: every name stays. -/
def namedWithoutKeywords : Json → Json
  | .obj fields => .obj (namedFieldsWithoutKeywords fields)
  | .arr items => .arr (withoutKeywordItems items)
  | other => other

def namedFieldsWithoutKeywords : List (String × Json) → List (String × Json)
  | [] => []
  | (name, value) :: rest => (name, withoutKeywords value) :: namedFieldsWithoutKeywords rest

end

mutual

/-- Data in which no object has a field that cleaning leaves out. -/
def Untouched : Json → Prop
  | .obj fields => UntouchedFields fields
  | .arr items => UntouchedItems items
  | _ => True

def UntouchedFields : List (String × Json) → Prop
  | [] => True
  | (key, value) :: rest => cleanedField key value = false ∧ Untouched value ∧ UntouchedFields rest

def UntouchedItems : List Json → Prop
  | [] => True
  | item :: rest => Untouched item ∧ UntouchedItems rest

end

mutual

/-- A schema that uses the keywords as keywords only: no property is named like one, and no
data has a field named like one. -/
def KeywordsOnly : Json → Prop
  | .obj fields => KeywordsOnlyFields fields
  | .arr items => KeywordsOnlyItems items
  | _ => True

def KeywordsOnlyFields : List (String × Json) → Prop
  | [] => True
  | (key, value) :: rest =>
    (cleanedField key value = false →
      if key ∈ schemasByName then NamesKeywordsOnly value
      else if key ∈ dataKeywords then Untouched value
      else KeywordsOnly value) ∧ KeywordsOnlyFields rest

def KeywordsOnlyItems : List Json → Prop
  | [] => True
  | item :: rest => KeywordsOnly item ∧ KeywordsOnlyItems rest

def NamesKeywordsOnly : Json → Prop
  | .obj fields => NamedFieldsKeywordsOnly fields
  | .arr items => KeywordsOnlyItems items
  | _ => True

def NamedFieldsKeywordsOnly : List (String × Json) → Prop
  | [] => True
  | (name, value) :: rest =>
    cleanedField name value = false ∧ KeywordsOnly value ∧ NamedFieldsKeywordsOnly rest

end

/-! ## Lengths -/

theorem cleanFields_length (fields : List (String × Json)) : (cleanFields fields).length ≤ fields.length := by
  induction fields with
  | nil => exact Nat.le_refl 0
  | cons field rest ih =>
    obtain ⟨key, value⟩ := field
    simp only [cleanFields]
    split
    · rw [List.length_cons]
      omega
    · simpa using ih

theorem namedFieldsWithoutKeywords_length (fields : List (String × Json)) :
    (namedFieldsWithoutKeywords fields).length = fields.length := by
  induction fields with
  | nil => rfl
  | cons field rest ih =>
    obtain ⟨name, value⟩ := field
    simp [namedFieldsWithoutKeywords, ih]

/-! ## Data -/

mutual

/-- Data stays as it is exactly where no field of it is left out. -/
theorem cleanSchema_eq_self_iff (data : Json) : cleanSchema data = data ↔ Untouched data := by
  match data with
  | .obj fields => simp only [cleanSchema, Untouched, Json.obj.injEq, cleanFields_eq_self_iff fields]
  | .arr items => simp only [cleanSchema, Untouched, Json.arr.injEq, cleanItems_eq_self_iff items]
  | .null => simp [cleanSchema, Untouched]
  | .bool _ => simp [cleanSchema, Untouched]
  | .num _ => simp [cleanSchema, Untouched]
  | .str _ => simp [cleanSchema, Untouched]

private theorem cleanFields_eq_self_iff (fields : List (String × Json)) :
    cleanFields fields = fields ↔ UntouchedFields fields := by
  match fields with
  | [] => simp [cleanFields, UntouchedFields]
  | (key, value) :: rest =>
    simp only [cleanFields, UntouchedFields]
    by_cases cleaned : cleanedField key value = true
    · -- one field less
      simp only [cleaned, if_true, Bool.true_eq_false, false_and, iff_false]
      intro same
      have shorter := cleanFields_length rest
      have long := congrArg List.length same
      rw [List.length_cons] at long
      omega
    · simp only [cleaned, Bool.false_eq_true, if_false, List.cons.injEq, Prod.mk.injEq, true_and,
        cleanSchema_eq_self_iff value, cleanFields_eq_self_iff rest]

private theorem cleanItems_eq_self_iff (items : List Json) :
    cleanItems items = items ↔ UntouchedItems items := by
  match items with
  | [] => simp [cleanItems, UntouchedItems]
  | item :: rest =>
    simp only [cleanItems, UntouchedItems, List.cons.injEq, cleanSchema_eq_self_iff item,
      cleanItems_eq_self_iff rest]

end

/-! ## Schemas -/

mutual

private theorem cleanSchema_eq_iff (schema : Json) :
    cleanSchema schema = withoutKeywords schema ↔ KeywordsOnly schema := by
  match schema with
  | .obj fields =>
    simp only [cleanSchema, withoutKeywords, KeywordsOnly, Json.obj.injEq, cleanFields_eq_iff fields]
  | .arr items =>
    simp only [cleanSchema, withoutKeywords, KeywordsOnly, Json.arr.injEq, cleanItems_eq_iff items]
  | .null => simp [cleanSchema, withoutKeywords, KeywordsOnly]
  | .bool _ => simp [cleanSchema, withoutKeywords, KeywordsOnly]
  | .num _ => simp [cleanSchema, withoutKeywords, KeywordsOnly]
  | .str _ => simp [cleanSchema, withoutKeywords, KeywordsOnly]

private theorem cleanFields_eq_iff (fields : List (String × Json)) :
    cleanFields fields = withoutKeywordFields fields ↔ KeywordsOnlyFields fields := by
  match fields with
  | [] => simp [cleanFields, withoutKeywordFields, KeywordsOnlyFields]
  | (key, value) :: rest =>
    simp only [cleanFields, withoutKeywordFields, KeywordsOnlyFields]
    by_cases cleaned : cleanedField key value = true
    · simp only [cleaned, if_true, Bool.true_eq_false, false_implies, true_and, cleanFields_eq_iff rest]
    · have keeps : cleanedField key value = false := by simpa using cleaned
      simp only [keeps, Bool.false_eq_true, if_false, true_implies]
      by_cases names : key ∈ schemasByName
      · simp only [names, if_true, List.cons.injEq, Prod.mk.injEq, true_and, cleanFields_eq_iff rest,
          namedSchemas_eq_iff value]
      · by_cases data : key ∈ dataKeywords
        · simp only [names, data, if_true, if_false, List.cons.injEq, Prod.mk.injEq, true_and,
            cleanFields_eq_iff rest, cleanSchema_eq_self_iff value]
        · simp only [names, data, if_false, List.cons.injEq, Prod.mk.injEq, true_and,
            cleanFields_eq_iff rest, cleanSchema_eq_iff value]

private theorem cleanItems_eq_iff (items : List Json) :
    cleanItems items = withoutKeywordItems items ↔ KeywordsOnlyItems items := by
  match items with
  | [] => simp [cleanItems, withoutKeywordItems, KeywordsOnlyItems]
  | item :: rest =>
    simp only [cleanItems, withoutKeywordItems, KeywordsOnlyItems, List.cons.injEq,
      cleanSchema_eq_iff item, cleanItems_eq_iff rest]

private theorem namedSchemas_eq_iff (schemas : Json) :
    cleanSchema schemas = namedWithoutKeywords schemas ↔ NamesKeywordsOnly schemas := by
  match schemas with
  | .obj fields =>
    simp only [cleanSchema, namedWithoutKeywords, NamesKeywordsOnly, Json.obj.injEq, namedFields_eq_iff fields]
  | .arr items =>
    simp only [cleanSchema, namedWithoutKeywords, NamesKeywordsOnly, Json.arr.injEq, cleanItems_eq_iff items]
  | .null => simp [cleanSchema, namedWithoutKeywords, NamesKeywordsOnly]
  | .bool _ => simp [cleanSchema, namedWithoutKeywords, NamesKeywordsOnly]
  | .num _ => simp [cleanSchema, namedWithoutKeywords, NamesKeywordsOnly]
  | .str _ => simp [cleanSchema, namedWithoutKeywords, NamesKeywordsOnly]

private theorem namedFields_eq_iff (fields : List (String × Json)) :
    cleanFields fields = namedFieldsWithoutKeywords fields ↔ NamedFieldsKeywordsOnly fields := by
  match fields with
  | [] => simp [cleanFields, namedFieldsWithoutKeywords, NamedFieldsKeywordsOnly]
  | (name, value) :: rest =>
    simp only [cleanFields, namedFieldsWithoutKeywords, NamedFieldsKeywordsOnly]
    by_cases cleaned : cleanedField name value = true
    · simp only [cleaned, if_true, Bool.true_eq_false, false_and, iff_false]
      intro same
      have shorter := cleanFields_length rest
      have long := congrArg List.length same
      rw [List.length_cons, namedFieldsWithoutKeywords_length] at long
      omega
    · simp only [cleaned, Bool.false_eq_true, if_false, List.cons.injEq, Prod.mk.injEq, true_and,
        cleanSchema_eq_iff value, namedFields_eq_iff rest]

end

/-! ## What the removal of the keywords keeps -/

/-- The names of the properties that a schema declares. -/
def declaredNames (schema : Json) : List String :=
  match schema.get "properties" with
  | some (.obj fields) => fields.map Prod.fst
  | _ => []

/-- The names that a schema requires. -/
def requiredNames (schema : Json) : List String :=
  (((schema.get "required").bind Json.asArray).getD []).filterMap Json.asStr

theorem namedFieldsWithoutKeywords_names (fields : List (String × Json)) :
    (namedFieldsWithoutKeywords fields).map Prod.fst = fields.map Prod.fst := by
  induction fields with
  | nil => rfl
  | cons field rest ih =>
    obtain ⟨name, value⟩ := field
    simp [namedFieldsWithoutKeywords, ih]

/-- The fields that stay are those that are not keywords. -/
theorem withoutKeywordFields_keys (fields : List (String × Json)) :
    (withoutKeywordFields fields).map Prod.fst =
      (fields.filter fun field => !cleanedField field.1 field.2).map Prod.fst := by
  induction fields with
  | nil => rfl
  | cons field rest ih =>
    obtain ⟨key, value⟩ := field
    by_cases cleaned : cleanedField key value = true
    · simp [withoutKeywordFields, cleaned, ih]
    · simp only [withoutKeywordFields, cleaned, Bool.false_eq_true, if_false]
      split_ifs <;> simp [cleaned, ih]

/-- What stands under a key that is never left out. -/
private theorem lookup_withoutKeywordFields {key : String}
    (plain : ∀ value, cleanedField key value = false) (fields : List (String × Json)) :
    (withoutKeywordFields fields).lookup key = (fields.lookup key).map fun value =>
      if key ∈ schemasByName then namedWithoutKeywords value
      else if key ∈ dataKeywords then value else withoutKeywords value := by
  induction fields with
  | nil => rfl
  | cons field rest ih =>
    obtain ⟨other, value⟩ := field
    rw [List.lookup_cons]
    by_cases same : key = other
    · subst same
      simp only [withoutKeywordFields, plain, Bool.false_eq_true, if_false, beq_self_eq_true]
      split_ifs <;> simp
    · have differs : (key == other) = false := by simpa using same
      have later : (withoutKeywordFields ((other, value) :: rest)).lookup key =
          (withoutKeywordFields rest).lookup key := by
        simp only [withoutKeywordFields]
        split_ifs <;> simp [List.lookup_cons, differs]
      rw [later, differs]
      exact ih

private theorem asStr_withoutKeywords (item : Json) : (withoutKeywords item).asStr = item.asStr := by
  cases item with
  | obj fields => simp [withoutKeywords, Json.asStr]
  | arr items => simp [withoutKeywords, Json.asStr]
  | _ => simp [withoutKeywords]

private theorem strings_withoutKeywordItems (items : List Json) :
    (withoutKeywordItems items).filterMap Json.asStr = items.filterMap Json.asStr := by
  induction items with
  | nil => rfl
  | cons item rest ih => simp only [withoutKeywordItems, List.filterMap_cons, asStr_withoutKeywords, ih]

/-- A schema declares the properties it did. -/
theorem withoutKeywords_declared (schema : Json) :
    declaredNames (withoutKeywords schema) = declaredNames schema := by
  cases schema with
  | obj fields =>
    have found := @lookup_withoutKeywordFields "properties" (fun _ => rfl) fields
    simp only [declaredNames, withoutKeywords, Json.get_obj, found]
    cases fields.lookup "properties" with
    | none => rfl
    | some value =>
      have names : "properties" ∈ schemasByName := by decide
      simp only [Option.map_some, names, if_true]
      cases value with
      | obj properties => simp only [namedWithoutKeywords, namedFieldsWithoutKeywords_names]
      | _ => simp [namedWithoutKeywords]
  | arr items => simp [withoutKeywords, declaredNames, Json.get]
  | _ => simp [withoutKeywords]

theorem withoutKeywords_required (schema : Json) :
    requiredNames (withoutKeywords schema) = requiredNames schema := by
  cases schema with
  | obj fields =>
    have found := @lookup_withoutKeywordFields "required" (fun _ => rfl) fields
    simp only [requiredNames, withoutKeywords, Json.get_obj, found]
    cases fields.lookup "required" with
    | none => rfl
    | some value =>
      have neither : "required" ∉ schemasByName ∧ "required" ∉ dataKeywords := by decide
      simp only [Option.map_some, neither.1, neither.2, if_false, Option.bind_some]
      cases value with
      | arr items => simp only [withoutKeywords, Json.asArray, Option.getD_some, strings_withoutKeywordItems]
      | obj properties => simp [withoutKeywords, Json.asArray]
      | _ => simp [withoutKeywords]
  | arr items => simp [withoutKeywords, requiredNames, Json.get]
  | _ => simp [withoutKeywords]

/-- Data is kept as it is. -/
theorem withoutKeywords_data {key : String} (data : key ∈ dataKeywords) (schema : Json) :
    (withoutKeywords schema).get key = schema.get key := by
  cases schema with
  | obj fields =>
    have apart : key ∉ schemasByName ∧ ∀ value, cleanedField key value = false := by
      have all : ∀ key ∈ dataKeywords, key ∉ schemasByName ∧
          key ≠ "$schema" ∧ key ≠ "title" ∧ key ≠ "additionalProperties" := by decide
      obtain ⟨names, schema, title, additional⟩ := all key data
      exact ⟨names, fun value => by simp [cleanedField, schema, title, additional]⟩
    rw [withoutKeywords, Json.get_obj, Json.get_obj, lookup_withoutKeywordFields apart.2]
    simp [apart.1, data]
  | arr items => simp [withoutKeywords, Json.get]
  | _ => simp [withoutKeywords]

/-- At every depth the keywords are gone and nothing else is; so the schema declares and requires
the names it did, and its data is as it was. -/
structure OnlyKeywordsRemoved (schema cleaned : Json) : Prop where
  removed : cleaned = withoutKeywords schema
  declared : declaredNames cleaned = declaredNames schema
  required : requiredNames cleaned = requiredNames schema
  data : ∀ key ∈ dataKeywords, cleaned.get key = schema.get key

/-- Cleaning a schema removes the keywords, and nothing else, exactly where the schema uses them
as keywords only. -/
theorem cleanSchema_only_removes_keywords_iff (schema : Json) :
    OnlyKeywordsRemoved schema (cleanSchema schema) ↔ KeywordsOnly schema := by
  rw [← cleanSchema_eq_iff schema]
  constructor
  · exact OnlyKeywordsRemoved.removed
  · intro same
    rw [same]
    exact ⟨rfl, withoutKeywords_declared schema, withoutKeywords_required schema,
      fun key data => withoutKeywords_data data schema⟩

/-- A tool whose one parameter is called `title`. -/
private def titleSchema : Json :=
  .obj [
    ("properties", .obj [("title", .obj [("type", .str "string")])]),
    ("required", .arr [.str "title"]),
    ("type", .str "object")]

/-- The parameter is still required, but no longer declared. -/
theorem property_named_like_a_keyword_dropped :
    ¬ OnlyKeywordsRemoved titleSchema (cleanSchema titleSchema) ∧
      declaredNames titleSchema = ["title"] ∧ declaredNames (cleanSchema titleSchema) = [] ∧
      requiredNames (cleanSchema titleSchema) = ["title"] := by
  refine ⟨?_, by decide, by decide, by decide⟩
  intro kept
  have declared := kept.declared
  revert declared
  decide

end MtrxPeer
