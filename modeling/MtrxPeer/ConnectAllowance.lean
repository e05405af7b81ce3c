import Mathlib.Algebra.GroupWithZero.Nat
import Mathlib.Data.List.Basic
import Mathlib.Logic.Function.Basic

/-! Connection allowances: one-shot grants that let a requester open a session
within a time limit. Time is the monotonic clock, in nanoseconds. -/
namespace MtrxPeer

open Function (update update_self update_of_ne)

structure ConnectionAllowance where
  requesterPeerId : String
  model : String
  expiresAt : Nat
  deriving DecidableEq

/-- The live grants by request id. -/
abbrev ConnectionAllowanceStore := String → Option ConnectionAllowance

/-- Lifetime of a grant, in seconds. -/
def connectionAllowanceTtlSecs : Nat := 60

def connectionAllowanceTtl : Nat := connectionAllowanceTtlSecs * 10 ^ 9

namespace ConnectionAllowanceStore

def purgeExpired (store : ConnectionAllowanceStore) (now : Nat) : ConnectionAllowanceStore :=
  fun reqId => (store reqId).filter fun a => now < a.expiresAt

def grant (store : ConnectionAllowanceStore) (now ttl : Nat) (reqId requesterPeerId model : String) :
    ConnectionAllowanceStore :=
  update (purgeExpired store now) reqId (some ⟨requesterPeerId, model, now + ttl⟩)

/-- A grant is taken out even when it names another requester. -/
def validateAndConsume (store : ConnectionAllowanceStore) (now : Nat)
    (reqId requesterPeerId : String) : Option String × ConnectionAllowanceStore :=
  let purged := purgeExpired store now
  match purged reqId with
  | none => (none, purged)
  | some allowance =>
    let left := update purged reqId none
    if allowance.expiresAt ≤ now then (none, left)
    else if allowance.requesterPeerId ≠ requesterPeerId then (none, left)
    else (some allowance.model, left)

theorem purgeExpired_eq_some {store : ConnectionAllowanceStore} {now : Nat} {reqId : String}
    {a : ConnectionAllowance} :
    purgeExpired store now reqId = some a ↔ store reqId = some a ∧ now < a.expiresAt := by
  simp [purgeExpired, Option.filter_eq_some_iff]

/-- Every grant in the store after granting is the new one or was there before. -/
theorem grant_eq_some {store : ConnectionAllowanceStore} {now ttl : Nat}
    {reqId requesterPeerId model probe : String} {a : ConnectionAllowance}
    (live : grant store now ttl reqId requesterPeerId model probe = some a) :
    (probe = reqId ∧ a = ⟨requesterPeerId, model, now + ttl⟩) ∨
      (probe ≠ reqId ∧ store probe = some a) := by
  by_cases same : probe = reqId
  · subst same
    rw [grant, update_self] at live
    exact .inl ⟨rfl, (Option.some.inj live).symm⟩
  · rw [grant, update_of_ne same] at live
    exact .inr ⟨same, (purgeExpired_eq_some.mp live).1⟩

/-- A successful validation found an unexpired grant for that requester. -/
theorem validateAndConsume_eq_some {store : ConnectionAllowanceStore} {now : Nat}
    {reqId requesterPeerId model : String}
    (valid : (validateAndConsume store now reqId requesterPeerId).1 = some model) :
    ∃ a, store reqId = some a ∧ now < a.expiresAt ∧ a.requesterPeerId = requesterPeerId ∧
      a.model = model := by
  simp only [validateAndConsume] at valid
  cases found : purgeExpired store now reqId with
  | none => simp [found] at valid
  | some a =>
    obtain ⟨stored, fresh⟩ := purgeExpired_eq_some.mp found
    simp only [found, Nat.not_le.mpr fresh, ↓reduceIte] at valid
    by_cases same : a.requesterPeerId = requesterPeerId
    · simp only [same, ne_eq, not_true_eq_false, ↓reduceIte, Option.some.injEq] at valid
      exact ⟨a, stored, fresh, same, valid⟩
    · simp [same] at valid

/-- Validation uses the grant up, whatever it answers. -/
theorem validateAndConsume_consumes (store : ConnectionAllowanceStore) (now : Nat)
    (reqId requesterPeerId : String) :
    (validateAndConsume store now reqId requesterPeerId).2 reqId = none := by
  simp only [validateAndConsume]
  cases found : purgeExpired store now reqId with
  | none => exact found
  | some a => simp only []; split_ifs <;> exact update_self ..

/-- Validation adds no grant. -/
theorem validateAndConsume_store {store left : ConnectionAllowanceStore} {now : Nat}
    {reqId requesterPeerId probe : String} {result : Option String} {a : ConnectionAllowance}
    (ran : validateAndConsume store now reqId requesterPeerId = (result, left))
    (live : left probe = some a) : probe ≠ reqId ∧ store probe = some a := by
  have consumed := validateAndConsume_consumes store now reqId requesterPeerId
  rw [ran] at consumed
  have other : probe ≠ reqId := by
    rintro rfl
    cases live.symm.trans consumed
  refine ⟨other, ?_⟩
  simp only [validateAndConsume] at ran
  have kept : purgeExpired store now probe = some a := by
    cases found : purgeExpired store now reqId with
    | none =>
      obtain ⟨-, rfl⟩ : none = result ∧ purgeExpired store now = left := by simpa [found] using ran
      exact live
    | some b =>
      have same : left = update (purgeExpired store now) reqId none := by
        simp only [found] at ran
        split_ifs at ran <;> exact (Prod.mk.inj ran).2.symm
      rw [same, update_of_ne other] at live
      exact live
  exact (purgeExpired_eq_some.mp kept).1

end ConnectionAllowanceStore

end MtrxPeer
