import Mathlib.Data.List.DropRight

/-! Buffers of a fixed size, which have the last of all that went through them, and picks of a
stream that stand apart in time. -/
namespace MtrxPeer

variable {α : Type}

/-! ## The last items -/

section Last

variable {cap : Nat} {p : α → Bool} {items : List α}

/-- The last `cap` items, when one more is pushed and the oldest one makes room for it. -/
theorem rtake_push (room : 0 < cap) (items : List α) (item : α) :
    (if cap ≤ (items.rtake cap).length then (items.rtake cap).tail else items.rtake cap) ++ [item] =
      (items ++ [item]).rtake cap := by
  obtain ⟨less, rfl⟩ : ∃ less, cap = less + 1 := ⟨cap - 1, by omega⟩
  rw [List.rtake_concat_succ]
  congr 1
  split
  · rename_i full
    rw [List.rtake, List.rtake, List.tail_drop]
    rw [List.rtake, List.length_drop] at full
    congr 1
    omega
  · rename_i room
    rw [List.rtake, List.length_drop] at room
    have all : items.length - (less + 1) = 0 ∧ items.length - less = 0 := by omega
    rw [List.rtake, List.rtake, all.1, all.2]

/-- Items that stay counted from one on are all counted in the last ones, as far as there is
room for them. -/
theorem countP_rtake (stays : items.Pairwise fun a b => p a → p b) :
    (items.rtake cap).countP p = min cap (items.countP p) := by
  induction items using List.reverseRecOn generalizing cap with
  | nil => simp
  | append_singleton older item ih =>
    obtain ⟨before, -, last⟩ := List.pairwise_append.mp stays
    cases cap with
    | zero => simp
    | succ cap =>
      rw [List.rtake_concat_succ, List.countP_append, List.countP_append, ih before]
      cases counted : p item with
      | true =>
        rw [List.countP_singleton, if_pos counted]
        omega
      | false =>
        have none_ : older.countP p = 0 := by
          apply List.countP_eq_zero.mpr
          intro a member holds
          have later := last a member item (List.mem_singleton_self _) holds
          simp [counted] at later
        simp [none_, counted]

end Last

/-! ## Picks -/

/-- Picks of a stream that stand at least `gap` apart, with each item of the stream less than
`gap` after one of them. -/
structure Spaced (time : α → Nat) (gap : Nat) (items picked : List α) : Prop where
  sublist : picked.Sublist items
  apart : picked.Pairwise fun a b => time a + gap ≤ time b
  near : ∀ item ∈ items, ∃ a ∈ picked, time a ≤ time item ∧ time item < time a + gap

namespace Spaced

variable {time : α → Nat} {gap : Nat} {items picked : List α} {item : α}

theorem nil : Spaced time gap [] [] :=
  ⟨.slnil, .nil, fun _ member => absurd member (List.not_mem_nil)⟩

/-- The latest pick is the last one. -/
theorem le_last (spaced : Spaced time gap items picked) {last a : α}
    (latest : picked.getLast? = some last) (member : a ∈ picked) : time a ≤ time last := by
  obtain ⟨older, rfl⟩ := List.getLast?_eq_some_iff.mp latest
  obtain ⟨-, -, after⟩ := List.pairwise_append.mp spaced.apart
  rcases List.mem_append.mp member with old | new
  · have apart := after a old last (List.mem_singleton_self _)
    omega
  · rw [List.mem_singleton.mp new]

/-- An item that is due, or the first one, is picked. -/
theorem pick (spaced : Spaced time gap items picked) (room : 0 < gap)
    (due : ∀ last, picked.getLast? = some last → time last + gap ≤ time item) :
    Spaced time gap (items ++ [item]) (picked ++ [item]) where
  sublist := spaced.sublist.append (List.Sublist.refl _)
  apart := by
    refine List.pairwise_append.mpr ⟨spaced.apart, List.pairwise_singleton _ _, ?_⟩
    intro a member b new
    rw [List.mem_singleton.mp new]
    cases latest : picked.getLast? with
    | none =>
      rw [List.getLast?_eq_none_iff.mp latest] at member
      exact absurd member (List.not_mem_nil)
    | some last =>
      have before := spaced.le_last latest member
      have after := due last latest
      omega
  near := by
    intro other member
    rcases List.mem_append.mp member with old | new
    · obtain ⟨a, held, near⟩ := spaced.near other old
      exact ⟨a, List.mem_append_left _ held, near⟩
    · rw [List.mem_singleton.mp new]
      exact ⟨item, List.mem_append_right _ (List.mem_singleton_self _), Nat.le_refl _, by omega⟩

/-- An item that is not due is passed over. -/
theorem pass (spaced : Spaced time gap items picked) {last : α} (latest : picked.getLast? = some last)
    (later : time last ≤ time item) (early : time item < time last + gap) :
    Spaced time gap (items ++ [item]) picked where
  sublist := spaced.sublist.trans (List.sublist_append_left _ _)
  apart := spaced.apart
  near := by
    intro other member
    rcases List.mem_append.mp member with old | new
    · exact spaced.near other old
    · rw [List.mem_singleton.mp new]
      exact ⟨last, List.mem_of_getLast? latest, later, early⟩

end Spaced

end MtrxPeer
