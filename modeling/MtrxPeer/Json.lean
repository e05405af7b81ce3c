import Mathlib.Algebra.Group.Int.Defs
import Mathlib.Algebra.GroupWithZero.Nat
import Mathlib.Data.List.Basic

/-! JSON values as `serde_json::Value` holds them. An object is the key-sorted
field list of a `BTreeMap`; an integer keeps its value and any other number
keeps its decimal text, so no rounding is ever invented. -/
namespace MtrxPeer

/-- A JSON number: an integer that fits the `i64`/`u64` range, or the text of
any other literal. -/
inductive Number where
  | int (value : Int)
  | float (text : String)
  deriving DecidableEq, Repr

/-- `serde_json::Value`. -/
inductive Json where
  | null
  | bool (value : Bool)
  | num (value : Number)
  | str (value : String)
  | arr (items : List Json)
  | obj (fields : List (String × Json))
  deriving Repr, Inhabited

namespace Json

/-- `BTreeMap::insert` on the sorted field list: an equal key is replaced in
place, a new one goes before the first greater key. -/
def insertField (key : String) (value : Json) : List (String × Json) → List (String × Json)
  | [] => [(key, value)]
  | (k, v) :: rest =>
    if key = k then (key, value) :: rest
    else if key < k then (key, value) :: (k, v) :: rest
    else (k, v) :: insertField key value rest

/-- `Value::get` with a string index. -/
def get (json : Json) (key : String) : Option Json :=
  match json with
  | .obj fields => fields.lookup key
  | _ => none

/-- `Map::insert` on a value already known to be an object; every other value
is left alone, as behind `as_object_mut`. -/
def insert (json : Json) (key : String) (value : Json) : Json :=
  match json with
  | .obj fields => .obj (insertField key value fields)
  | other => other

def asStr : Json → Option String
  | .str value => some value
  | _ => none

def asBool : Json → Option Bool
  | .bool value => some value
  | _ => none

def asArray : Json → Option (List Json)
  | .arr items => some items
  | _ => none

/-- `Value::as_u64`: only integers that a `u64` holds. -/
def asU64 : Json → Option Nat
  | .num (.int value) => if 0 ≤ value ∧ value < 2 ^ 64 then some value.toNat else none
  | _ => none

/-- `Value::as_i64`: only integers that an `i64` holds. -/
def asI64 : Json → Option Int
  | .num (.int value) => if -2 ^ 63 ≤ value ∧ value < 2 ^ 63 then some value else none
  | _ => none

def isObject : Json → Bool
  | .obj _ => true
  | _ => false

/-- `json!(n)` for an unsigned number. -/
def ofNat (value : Nat) : Json := .num (.int value)

@[simp] theorem get_obj (fields : List (String × Json)) (key : String) :
    get (.obj fields) key = fields.lookup key := rfl

@[simp] theorem insert_obj (fields : List (String × Json)) (key : String) (value : Json) :
    insert (.obj fields) key value = .obj (insertField key value fields) := rfl

@[simp] theorem asStr_str (value : String) : asStr (.str value) = some value := rfl

theorem lookup_insertField_self (key : String) (value : Json) (fields : List (String × Json)) :
    (insertField key value fields).lookup key = some value := by
  induction fields with
  | nil => simp [insertField]
  | cons field rest ih =>
    obtain ⟨k, v⟩ := field
    by_cases same : key = k
    · simp [insertField, same]
    · by_cases before : key < k
      · simp [insertField, same, before]
      · have differs : (key == k) = false := by simpa using same
        simp [insertField, same, before, List.lookup_cons, differs, ih]

theorem lookup_insertField_of_ne {key probe : String} (other : probe ≠ key) (value : Json)
    (fields : List (String × Json)) :
    (insertField key value fields).lookup probe = fields.lookup probe := by
  have differs : (probe == key) = false := by simpa using other
  induction fields with
  | nil => simp [insertField, List.lookup_cons, differs]
  | cons field rest ih =>
    obtain ⟨k, v⟩ := field
    by_cases same : key = k
    · subst same
      simp [insertField, List.lookup_cons, differs]
    · by_cases before : key < k
      · simp [insertField, same, before, List.lookup_cons, differs]
      · simp [insertField, same, before, List.lookup_cons, ih]

/-- Writing one field leaves every other field readable as before. -/
theorem get_insert_of_ne {key probe : String} (other : probe ≠ key) (json value : Json) :
    (json.insert key value).get probe = json.get probe := by
  cases json with
  | obj fields => exact lookup_insertField_of_ne other value fields
  | _ => rfl

/-- The nesting depth that `serde_json` counts against its recursion limit. -/
def depth : Json → Nat
  | .arr items => depthItems items + 1
  | .obj fields => depthFields fields + 1
  | _ => 0
where
  depthItems : List Json → Nat
    | [] => 0
    | item :: rest => max (depth item) (depthItems rest)
  depthFields : List (String × Json) → Nat
    | [] => 0
    | (_, value) :: rest => max (depth value) (depthFields rest)

end Json

end MtrxPeer
