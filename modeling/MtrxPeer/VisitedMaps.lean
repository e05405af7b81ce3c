import Mathlib.Data.List.Nodup
import Mathlib.Data.List.Perm.Lattice

/-! Hash maps: the entries in the order in which a loop visits them, each key once. The
order is part of the value, and any other order of the same entries can be put in its place. -/
namespace MtrxPeer

structure VisitedMap (κ α : Type) where
  entries : List (κ × α)
  distinct : (entries.map Prod.fst).Nodup

namespace VisitedMap

variable {κ α : Type} {m : VisitedMap κ α} {k k' : κ} {v v' : α}

def empty : VisitedMap κ α := ⟨[], List.nodup_nil⟩

def keys (m : VisitedMap κ α) : List κ := m.entries.map Prod.fst

def values (m : VisitedMap κ α) : List α := m.entries.map Prod.snd

def retain (keep : κ → α → Bool) (m : VisitedMap κ α) : VisitedMap κ α where
  entries := m.entries.filter fun entry => keep entry.1 entry.2
  distinct := m.distinct.sublist (List.filter_sublist.map Prod.fst)

variable [DecidableEq κ]

def get (m : VisitedMap κ α) (k : κ) : Option α :=
  (m.entries.find? fun entry => entry.1 = k).map Prod.snd

def contains (m : VisitedMap κ α) (k : κ) : Bool := (m.get k).isSome

def remove (m : VisitedMap κ α) (k : κ) : VisitedMap κ α := m.retain fun key _ => key ≠ k

/-- A new value is visited last; `reorder` gives the other orders. -/
def insert (m : VisitedMap κ α) (k : κ) (v : α) : VisitedMap κ α where
  entries := (m.remove k).entries ++ [(k, v)]
  distinct := by
    rw [List.map_append, List.nodup_append]
    refine ⟨(m.remove k).distinct, List.nodup_singleton _, ?_⟩
    intro key member other last same
    obtain ⟨entry, kept, rfl⟩ := List.mem_map.mp member
    obtain rfl : other = k := by simpa using last
    simpa [same] using (List.mem_filter.mp kept).2

omit [DecidableEq κ] in
private theorem keys_filterMap_sublist {α : Type} (value : κ → Option α) (order : List κ) :
    ((order.filterMap fun k => (value k).map (Prod.mk k)).map Prod.fst).Sublist order := by
  induction order with
  | nil => exact .slnil
  | cons k rest ih =>
    cases found : value k with
    | none =>
      rw [List.filterMap_cons_none (by rw [found, Option.map_none])]
      exact ih.cons k
    | some v =>
      rw [List.filterMap_cons_some (b := (k, v)) (by rw [found, Option.map_some]), List.map_cons]
      exact ih.cons_cons k

/-- The same entries, visited in another order. -/
def reorder (m : VisitedMap κ α) (order : List κ) : VisitedMap κ α :=
  if same : order.Perm m.keys then
    ⟨order.filterMap fun k => (m.get k).map (Prod.mk k),
      (same.nodup_iff.mpr m.distinct).sublist (keys_filterMap_sublist m.get order)⟩
  else m

/-! ## Looking up -/

theorem get_eq_some : m.get k = some v ↔ (k, v) ∈ m.entries := by
  have unique : ∀ (entries : List (κ × α)), (entries.map Prod.fst).Nodup →
      ((entries.find? fun entry => entry.1 = k).map Prod.snd = some v ↔ (k, v) ∈ entries) := by
    intro entries distinct
    induction entries with
    | nil => simp
    | cons entry rest ih =>
      rw [List.map_cons, List.nodup_cons] at distinct
      by_cases here : entry.1 = k
      · rw [List.find?_cons_of_pos (by simpa using here), Option.map_some, Option.some.injEq,
          List.mem_cons]
        constructor
        · rintro rfl
          exact .inl (Prod.ext here.symm rfl)
        · rintro (same | later)
          · rw [← same]
          · exact absurd (List.mem_map.mpr ⟨_, later, here.symm⟩) distinct.1
      · rw [List.find?_cons_of_neg (by simpa using here), ih distinct.2, List.mem_cons]
        constructor
        · exact .inr
        · rintro (same | later)
          · exact absurd (congrArg Prod.fst same).symm here
          · exact later
  exact unique m.entries m.distinct

theorem mem_keys : k ∈ m.keys ↔ ∃ v, m.get k = some v := by
  rw [keys, List.mem_map]
  constructor
  · rintro ⟨entry, member, rfl⟩
    exact ⟨entry.2, get_eq_some.mpr member⟩
  · rintro ⟨v, found⟩
    exact ⟨(k, v), get_eq_some.mp found, rfl⟩

theorem contains_eq_false : m.contains k = false ↔ m.get k = none := by
  rw [contains, Option.isSome_eq_false_iff, Option.isNone_iff_eq_none]

@[simp] theorem get_empty : (empty : VisitedMap κ α).get k = none := rfl

theorem get_retain {keep : κ → α → Bool} : (m.retain keep).get k = (m.get k).filter (keep k) := by
  apply Option.ext
  intro v
  rw [get_eq_some, Option.filter_eq_some_iff, get_eq_some, retain, List.mem_filter]

theorem get_remove : (m.remove k).get k' = if k' = k then none else m.get k' := by
  rw [remove, get_retain]
  split
  · rename_i same
    simp [same]
  · rename_i other
    cases m.get k' <;> simp [other]

@[simp] theorem get_remove_self : (m.remove k).get k = none := by rw [get_remove, if_pos rfl]

theorem get_insert : (m.insert k v).get k' = if k' = k then some v else m.get k' := by
  have kept : ∀ v', (k', v') ∈ (m.remove k).entries ↔ k' ≠ k ∧ m.get k' = some v' := by
    intro v'
    rw [← get_eq_some, get_remove]
    split <;> simp_all
  apply Option.ext
  intro v'
  rw [get_eq_some, insert, List.mem_append, kept, List.mem_singleton, Prod.mk.injEq]
  split
  · rename_i same
    simp [same, eq_comm]
  · rename_i other
    simp [other]

@[simp] theorem get_insert_self : (m.insert k v).get k = some v := by rw [get_insert, if_pos rfl]

@[simp] theorem get_reorder {order : List κ} : (m.reorder order).get k = m.get k := by
  rw [reorder]
  split
  · rename_i same
    apply Option.ext
    intro v
    rw [get_eq_some, List.mem_filterMap]
    constructor
    · rintro ⟨key, -, found⟩
      obtain ⟨value, held, entry⟩ := Option.map_eq_some_iff.mp found
      cases entry
      exact held
    · intro found
      exact ⟨k, same.mem_iff.mpr (mem_keys.mpr ⟨v, found⟩), by rw [found, Option.map_some]⟩
  · rfl

end VisitedMap

end MtrxPeer
