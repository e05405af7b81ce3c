import Mathlib.Logic.Function.Basic

/-! Two partial maps that are each other's inverse, and the entries that may be put
into both without making them disagree. -/
namespace MtrxPeer

open Function (update update_of_ne update_self)

variable {α β : Type} {f : α → Option β} {g : β → Option α}

/-- Each map has an entry exactly if the other has it the other way round. -/
def MutuallyInverse (f : α → Option β) (g : β → Option α) : Prop :=
  ∀ a b, f a = some b ↔ g b = some a

/-- The pairs of `B` can be entered: no side of one has another partner in the maps
or in `B`. -/
structure Fits (f : α → Option β) (g : β → Option α) (B : α → β → Prop) : Prop where
  left : ∀ a b other, B a b → f a = some other → other = b
  right : ∀ a b other, B a b → g b = some other → other = a
  unique : ∀ a b a' b', B a b → B a' b' → (a = a' ↔ b = b')

theorem mutuallyInverse_empty : MutuallyInverse (fun _ : α => (none : Option β)) fun _ => none := by
  intro a b
  simp

variable [DecidableEq α] [DecidableEq β]

/-- A pair that fits is entered. -/
theorem MutuallyInverse.bind {B : α → β → Prop} (inverse : MutuallyInverse f g) (fits : Fits f g B)
    {a : α} {b : β} (pair : B a b) : MutuallyInverse (update f a (some b)) (update g b (some a)) := by
  intro a' b'
  by_cases sameA : a' = a
  · subst sameA
    by_cases sameB : b' = b
    · subst sameB
      simp
    · rw [update_self, update_of_ne sameB]
      constructor
      · intro same
        exact absurd (Option.some.inj same).symm sameB
      · intro bound
        exact absurd (fits.left a' b b' pair ((inverse a' b').mpr bound)) sameB
  · by_cases sameB : b' = b
    · subst sameB
      rw [update_of_ne sameA, update_self]
      constructor
      · intro bound
        exact absurd (fits.right a b' a' pair ((inverse a' b').mp bound)) sameA
      · intro same
        exact absurd (Option.some.inj same).symm sameA
    · rw [update_of_ne sameA, update_of_ne sameB]
      exact inverse a' b'

/-- The other pairs still fit. -/
theorem Fits.bind {B : α → β → Prop} (fits : Fits f g B) {a : α} {b : β} (pair : B a b) :
    Fits (update f a (some b)) (update g b (some a)) B where
  left a' b' other pair' bound := by
    by_cases same : a' = a
    · subst same
      rw [update_self] at bound
      rw [← Option.some.inj bound]
      exact (fits.unique a' b a' b' pair pair').mp rfl
    · rw [update_of_ne same] at bound
      exact fits.left a' b' other pair' bound
  right a' b' other pair' bound := by
    by_cases same : b' = b
    · subst same
      rw [update_self] at bound
      rw [← Option.some.inj bound]
      exact (fits.unique a b' a' b' pair pair').mpr rfl
    · rw [update_of_ne same] at bound
      exact fits.right a' b' other pair' bound
  unique := fits.unique

/-- A pair is taken out of both. -/
theorem MutuallyInverse.unbind (inverse : MutuallyInverse f g) {a : α} {b : β} (bound : g b = some a) :
    MutuallyInverse (update f a none) (update g b none) := by
  intro a' b'
  by_cases sameA : a' = a
  · subst sameA
    by_cases sameB : b' = b
    · subst sameB
      simp
    · rw [update_self, update_of_ne sameB]
      refine iff_of_false (by simp) fun other => sameB ?_
      have both := (inverse a' b').mpr other
      rw [(inverse a' b).mpr bound] at both
      exact (Option.some.inj both).symm
  · by_cases sameB : b' = b
    · subst sameB
      rw [update_of_ne sameA, update_self]
      refine iff_of_false (fun other => sameA ?_) (by simp)
      have both := (inverse a' b').mp other
      rw [bound] at both
      exact (Option.some.inj both).symm
    · rw [update_of_ne sameA, update_of_ne sameB]
      exact inverse a' b'

end MtrxPeer
