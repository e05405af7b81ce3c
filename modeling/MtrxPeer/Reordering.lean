import Mathlib.Data.Nat.Find
import Mathlib.Data.List.Basic
import Mathlib.Data.Finset.Basic
import Mathlib.Data.Fintype.EquivFin

/-! Numbered items that arrive in any order, any number of times: the first number
that is missing, and a buffer that holds back what is ahead of it. -/
namespace MtrxPeer

/-! ## The first number that is missing -/

theorem exists_missing (arrived : List Nat) : ∃ n, n ∉ arrived := by
  obtain ⟨n, missing⟩ := Infinite.exists_notMem_finset arrived.toFinset
  exact ⟨n, fun member => missing (List.mem_toFinset.mpr member)⟩

/-- The first number that has not arrived. -/
def frontier (arrived : List Nat) : Nat := Nat.find (exists_missing arrived)

variable {arrived : List Nat} {n : Nat}

theorem frontier_missing (arrived : List Nat) : frontier arrived ∉ arrived :=
  Nat.find_spec (exists_missing arrived)

theorem arrived_of_lt_frontier (below : n < frontier arrived) : n ∈ arrived :=
  not_not.mp (Nat.find_min (exists_missing arrived) below)

/-- All numbers below one have arrived if the first missing one is not below it. -/
theorem le_frontier_iff : n ≤ frontier arrived ↔ ∀ i < n, i ∈ arrived := by
  constructor
  · intro le i below
    exact arrived_of_lt_frontier (Nat.lt_of_lt_of_le below le)
  · intro all
    by_contra above
    exact frontier_missing arrived (all _ (Nat.lt_of_not_le above))

theorem frontier_eq (passed : ∀ i < n, i ∈ arrived) (missing : n ∉ arrived) :
    frontier arrived = n := by
  refine Nat.le_antisymm ?_ (le_frontier_iff.mpr passed)
  by_contra above
  exact missing (arrived_of_lt_frontier (Nat.lt_of_not_le above))

theorem frontier_le (bound : ∀ i ∈ arrived, i < n) : frontier arrived ≤ n := by
  by_contra above
  exact Nat.lt_irrefl n (bound n (arrived_of_lt_frontier (Nat.lt_of_not_le above)))

theorem frontier_nil : frontier [] = 0 := frontier_eq (by simp) (by simp)

theorem frontier_le_append (arrived later : List Nat) :
    frontier arrived ≤ frontier (arrived ++ later) :=
  le_frontier_iff.mpr fun _ below => List.mem_append_left later (arrived_of_lt_frontier below)

/-- What holds of everything that arrived. -/
theorem forall_mem_snoc {P : Nat → Prop} {i : Nat}
    (sent : ∀ j ∈ arrived, P j) (new : P i) : ∀ j ∈ arrived ++ [i], P j := by
  intro j member
  rcases List.mem_append.mp member with older | same
  · exact sent j older
  · obtain rfl := List.mem_singleton.mp same
    exact new

/-! ## The buffer -/

variable {α : Type} {number : α → Nat} {item : Nat → α} {next : Nat} {buffer : List α}

/-- A buffer from which everything before `next` was taken: it holds what arrived of
the rest, and copies of items that arrived. -/
structure Buffered (number : α → Nat) (item : Nat → α) (arrived : List Nat) (next : Nat)
    (buffer : List α) : Prop where
  passed : ∀ i < next, i ∈ arrived
  kept : ∀ i ∈ arrived, next ≤ i → item i ∈ buffer
  honest : ∀ a ∈ buffer, number a ∈ arrived ∧ a = item (number a)

theorem Buffered.empty (number : α → Nat) (item : Nat → α) : Buffered number item [] 0 [] :=
  ⟨by simp, by simp, by simp⟩

variable (numbered : ∀ i, number (item i) = i)

include numbered

/-- An arrival takes the place of an earlier copy. -/
theorem Buffered.insert (held : Buffered number item arrived next buffer) (i : Nat) :
    Buffered number item (arrived ++ [i]) next (item i :: buffer.filter fun a => number a ≠ i) where
  passed j below := List.mem_append_left [i] (held.passed j below)
  kept := by
    intro j member ahead
    by_cases same : j = i
    · subst same
      exact List.mem_cons_self
    · rcases List.mem_append.mp member with older | new
      · refine List.mem_cons_of_mem _ (List.mem_filter.mpr ⟨held.kept j older ahead, ?_⟩)
        rw [decide_eq_true_eq, numbered]
        exact same
      · exact absurd (List.mem_singleton.mp new) same
  honest := by
    intro a member
    rcases List.mem_cons.mp member with rfl | older
    · rw [numbered]
      exact ⟨List.mem_append_right arrived (List.mem_singleton_self i), rfl⟩
    · obtain ⟨came, same⟩ := held.honest a (List.mem_filter.mp older).1
      exact ⟨List.mem_append_left [i] came, same⟩

/-- The next item is found if it arrived. -/
theorem Buffered.find_next (held : Buffered number item arrived next buffer)
    (came : next ∈ arrived) : (buffer.find? fun a => number a = next) = some (item next) := by
  cases found : buffer.find? fun a => number a = next with
  | none =>
    rw [List.find?_eq_none] at found
    have differs := found (item next) (held.kept next came (Nat.le_refl next))
    simp [numbered] at differs
  | some a =>
    have same : number a = next := by simpa using List.find?_some found
    rw [(held.honest a (List.mem_of_find?_eq_some found)).2, same]

/-- Taking the next item out. -/
theorem Buffered.advance (held : Buffered number item arrived next buffer) (came : next ∈ arrived) :
    Buffered number item arrived (next + 1) (buffer.filter fun a => number a ≠ next) where
  passed := by
    intro i below
    rcases Nat.lt_succ_iff_lt_or_eq.mp below with earlier | rfl
    · exact held.passed i earlier
    · exact came
  kept := by
    intro i member ahead
    refine List.mem_filter.mpr ⟨held.kept i member (Nat.le_of_succ_le ahead), ?_⟩
    rw [decide_eq_true_eq, numbered]
    omega
  honest a member := held.honest a (List.mem_filter.mp member).1

/-- The buffer shrinks. -/
theorem Buffered.advance_length (held : Buffered number item arrived next buffer)
    (came : next ∈ arrived) :
    (buffer.filter fun a => number a ≠ next).length < buffer.length := by
  refine List.length_filter_lt_length_iff_exists.mpr
    ⟨item next, held.kept next came (Nat.le_refl next), ?_⟩
  simp [numbered]

omit numbered

/-- Nothing is found if the next item has not arrived. -/
theorem Buffered.find_missing (held : Buffered number item arrived next buffer)
    (missing : next ∉ arrived) : (buffer.find? fun a => number a = next) = none := by
  rw [List.find?_eq_none]
  intro a member
  rw [decide_eq_true_eq]
  rintro rfl
  exact missing (held.honest a member).1

theorem Buffered.frontier_eq (held : Buffered number item arrived next buffer)
    (missing : next ∉ arrived) : frontier arrived = next :=
  MtrxPeer.frontier_eq held.passed missing

theorem Buffered.next_le (held : Buffered number item arrived next buffer) :
    next ≤ frontier arrived := le_frontier_iff.mpr held.passed

end MtrxPeer
