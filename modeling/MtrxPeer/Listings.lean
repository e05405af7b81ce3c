import Mathlib.Algebra.BigOperators.Finprod
import Mathlib.Data.List.Nodup
import Mathlib.Logic.Function.Basic

/-! Lists that stand for a map: each entry of the map once, in any order. -/
namespace MtrxPeer

open Function (update update_of_ne update_self)

variable {κ α : Type} [DecidableEq κ] {key : α → κ} {list : List α} {map : κ → Option α} {entry : α}

/-- The list has the entries of the map, each once. -/
structure Listing (key : α → κ) (list : List α) (map : κ → Option α) : Prop where
  distinct : (list.map key).Nodup
  entries : ∀ k entry, map k = some entry ↔ entry ∈ list ∧ key entry = k

omit [DecidableEq κ] in
theorem listing_nil : Listing key [] fun _ => none := ⟨List.nodup_nil, by simp⟩

omit [DecidableEq κ] in
/-- The order does not matter. -/
theorem Listing.perm {other : List α} (listing : Listing key list map) (same : other.Perm list) :
    Listing key other map :=
  ⟨(same.map key).nodup_iff.mpr listing.distinct,
    fun k entry => (listing.entries k entry).trans (and_congr_left' same.symm.mem_iff)⟩

omit [DecidableEq κ] in
/-- A key that no entry has is not in the map. -/
theorem Listing.unlisted {k : κ} (listing : Listing key list map)
    (fresh : ∀ old ∈ list, key old ≠ k) : map k = none := by
  cases found : map k with
  | none => rfl
  | some old =>
    obtain ⟨member, same⟩ := (listing.entries k old).mp found
    exact absurd same (fresh old member)

omit [DecidableEq κ] in
/-- The entries that pass a test. -/
theorem Listing.filter (listing : Listing key list map) (test : α → Bool) :
    Listing key (list.filter test) fun k => (map k).filter test := by
  refine ⟨listing.distinct.sublist (List.filter_sublist.map key), fun k entry => ?_⟩
  rw [Option.filter_eq_some_iff, listing.entries k entry, List.mem_filter, and_right_comm]

omit [DecidableEq κ] in
/-- A sum over the map is the sum over the list. -/
theorem Listing.finsum_eq {M : Type} [AddCommMonoid M] (listing : Listing key list map) (value : α → M) :
    (finsum fun k => (map k).elim 0 value) = (list.map value).sum := by
  classical
  have supported : Function.support (fun k => (map k).elim 0 value) ⊆ (list.map key).toFinset := by
    intro k contributes
    cases found : map k with
    | none => simp [found] at contributes
    | some entry =>
      obtain ⟨member, rfl⟩ := (listing.entries k entry).mp found
      simpa using ⟨entry, member, rfl⟩
  rw [finsum_eq_sum_of_support_subset _ supported, List.sum_toFinset _ listing.distinct, List.map_map]
  refine congrArg List.sum (List.map_congr_left fun entry member => ?_)
  rw [Function.comp_apply, (listing.entries (key entry) entry).mpr ⟨member, rfl⟩, Option.elim_some]

/-- An entry whose key is not listed is added. -/
theorem Listing.push (listing : Listing key list map) (fresh : ∀ old ∈ list, key old ≠ key entry) :
    Listing key (list ++ [entry]) (update map (key entry) (some entry)) := by
  refine ⟨?_, fun k other => ?_⟩
  · rw [List.map_append, List.nodup_append]
    refine ⟨listing.distinct, List.nodup_singleton _, ?_⟩
    intro a member b new same
    obtain ⟨old, member', rfl⟩ := List.mem_map.mp member
    obtain rfl : b = key entry := by simpa using new
    exact fresh old member' same
  · rw [List.mem_append, List.mem_singleton]
    by_cases same : k = key entry
    · subst same
      rw [update_self, Option.some.injEq]
      refine ⟨fun new => ⟨.inr new.symm, by rw [new]⟩, ?_⟩
      rintro ⟨old | rfl, same⟩
      · exact absurd same (fresh other old)
      · rfl
    · rw [update_of_ne same, listing.entries k other]
      refine ⟨fun ⟨member, named⟩ => ⟨.inl member, named⟩, ?_⟩
      rintro ⟨old | rfl, named⟩
      · exact ⟨old, named⟩
      · exact absurd named.symm same

/-- The entries under a key are taken out. -/
theorem Listing.retain (listing : Listing key list map) (removed : κ) :
    Listing key (list.filter fun entry => key entry ≠ removed) (update map removed none) := by
  refine ⟨listing.distinct.sublist (List.filter_sublist.map key), fun k entry => ?_⟩
  rw [List.mem_filter]
  by_cases same : k = removed
  · subst same
    simp
  · rw [update_of_ne same, listing.entries k entry]
    refine ⟨fun ⟨member, named⟩ => ⟨⟨member, ?_⟩, named⟩, fun ⟨member, named⟩ => ⟨member.1, named⟩⟩
    simpa [named] using same

/-- The entries under a key are replaced by one. -/
theorem Listing.retain_push (listing : Listing key list map) (entry : α) :
    Listing key ((list.filter fun old => key old ≠ key entry) ++ [entry])
      (update map (key entry) (some entry)) := by
  have fresh : ∀ old ∈ list.filter fun old => key old ≠ key entry, key old ≠ key entry := by
    intro old member
    simpa using (List.mem_filter.mp member).2
  simpa using (listing.retain (key entry)).push fresh

/-- The first entry under a key is changed. -/
def changeFirst (key : α → κ) (changed : κ) (change : α → α) : List α → List α
  | [] => []
  | entry :: rest =>
    if key entry = changed then change entry :: rest else entry :: changeFirst key changed change rest

/-- A change of the first entry under a key changes nothing where that entry is as it would be. -/
theorem changeFirst_eq_self {changed : κ} {change : α → α} :
    changeFirst key changed change list = list ↔
      ∀ entry, list.find? (fun entry => decide (key entry = changed)) = some entry → change entry = entry := by
  induction list with
  | nil => simp [changeFirst]
  | cons head rest ih =>
    unfold changeFirst
    by_cases same : key head = changed
    · simp [same]
    · rw [if_neg same, List.find?_cons_of_neg (by simpa using same), List.cons.injEq, ih]
      exact and_iff_right rfl

theorem map_changeFirst {changed : κ} {change : α → α}
    (keeps : ∀ entry, key (change entry) = key entry) (list : List α) :
    (changeFirst key changed change list).map key = list.map key := by
  induction list with
  | nil => rfl
  | cons head rest ih =>
    unfold changeFirst
    split
    · rw [List.map_cons, List.map_cons, keeps]
    · rw [List.map_cons, List.map_cons, ih]

theorem mem_changeFirst {change : α → α} (distinct : (list.map key).Nodup) (member : entry ∈ list)
    (other : α) : other ∈ changeFirst key (key entry) change list ↔
      other = change entry ∨ other ∈ list ∧ key other ≠ key entry := by
  induction list with
  | nil => cases member
  | cons head rest ih =>
    obtain ⟨fresh, distinct⟩ := List.nodup_cons.mp distinct
    unfold changeFirst
    by_cases same : key head = key entry
    · have elsewhere : ∀ later ∈ rest, key later ≠ key entry := by
        intro later member' same'
        exact fresh (List.mem_map.mpr ⟨later, member', same'.trans same.symm⟩)
      have here : head = entry := by
        rcases List.mem_cons.mp member with rfl | later
        · rfl
        · exact absurd rfl (elsewhere entry later)
      subst here
      rw [if_pos rfl, List.mem_cons, List.mem_cons]
      refine or_congr_right ⟨fun later => ⟨.inr later, elsewhere other later⟩, ?_⟩
      rintro ⟨rfl | later, apart⟩
      · exact absurd rfl apart
      · exact later
    · rw [if_neg same, List.mem_cons, List.mem_cons]
      have later : entry ∈ rest := by
        rcases List.mem_cons.mp member with rfl | later
        · exact absurd rfl same
        · exact later
      rw [ih distinct later]
      constructor
      · rintro (rfl | rfl | ⟨rest_, apart⟩)
        · exact .inr ⟨.inl rfl, same⟩
        · exact .inl rfl
        · exact .inr ⟨.inr rest_, apart⟩
      · rintro (rfl | ⟨rfl | rest_, apart⟩)
        · exact .inr (.inl rfl)
        · exact .inl rfl
        · exact .inr (.inr ⟨rest_, apart⟩)

theorem Listing.change {change : α → α} (listing : Listing key list map)
    (keeps : ∀ entry, key (change entry) = key entry) (member : entry ∈ list) :
    Listing key (changeFirst key (key entry) change list)
      (update map (key entry) (some (change entry))) := by
  refine ⟨by rw [map_changeFirst keeps]; exact listing.distinct, fun k other => ?_⟩
  rw [mem_changeFirst listing.distinct member]
  by_cases same : k = key entry
  · subst same
    rw [update_self, Option.some.injEq]
    refine ⟨fun here => ⟨.inl here.symm, here ▸ keeps entry⟩, ?_⟩
    rintro ⟨rfl | ⟨-, apart⟩, named⟩
    · rfl
    · exact absurd named apart
  · rw [update_of_ne same, listing.entries k other]
    refine ⟨fun ⟨member, named⟩ => ⟨.inr ⟨member, named.trans_ne same⟩, named⟩, ?_⟩
    rintro ⟨rfl | ⟨member, -⟩, named⟩
    · exact absurd ((keeps entry).symm.trans named).symm same
    · exact ⟨member, named⟩

end MtrxPeer
