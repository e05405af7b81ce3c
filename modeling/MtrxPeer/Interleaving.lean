import Mathlib.Data.List.Perm.Basic
import Mathlib.Data.List.Range

/-! Messages sent in parts, several at a time: a start, numbered chunks in any order, and
an end, with those of other messages and other things between them. A table keeps what
came of each message under its key. -/
namespace MtrxPeer

/-- A part of a message. -/
inductive Part where
  | start
  | chunk (i : Nat)
  | finish

/-- A part of the message `k` arrives, or something else happens. -/
inductive Scheduled (ι α ε : Type) where
  | part (k : ι) (part : Part) (info : α)
  | other (event : ε)

variable {ι κ α ε : Type} [DecidableEq ι]

/-- The parts of a message in a schedule, in their order. -/
def partsOf (k : ι) : List (Scheduled ι α ε) → List Part
  | [] => []
  | .part l part _ :: rest => if l = k then part :: partsOf k rest else partsOf k rest
  | .other _ :: rest => partsOf k rest

theorem partsOf_append (k : ι) (first later : List (Scheduled ι α ε)) :
    partsOf k (first ++ later) = partsOf k first ++ partsOf k later := by
  induction first with
  | nil => rfl
  | cons entry rest ih =>
    cases entry with
    | part l part info =>
      simp only [List.cons_append, partsOf, ih]
      split <;> rfl
    | other event => exact ih

/-- What came of a message that is under way: the numbers of its chunks. -/
def received (got : Option (List Nat)) : Part → Option (List Nat)
  | .start => some []
  | .chunk i => got.map (· ++ [i])
  | .finish => none

def collected (parts : List Part) : Option (List Nat) := parts.foldl received none

theorem collected_snoc (parts : List Part) (part : Part) :
    collected (parts ++ [part]) = received (collected parts) part := by
  rw [collected, List.foldl_append]
  rfl

theorem collected_chunks (order : List Nat) :
    collected (.start :: order.map .chunk) = some order := by
  induction order using List.reverseRecOn with
  | nil => rfl
  | append_singleton order i ih =>
    rw [List.map_append, ← List.cons_append, List.map_singleton, collected_snoc, ih]
    rfl

/-- Every message is sent whole, with `count` chunks, its start first and its end last. -/
def Interleaved (count : ι → Nat) (schedule : List (Scheduled ι α ε)) : Prop :=
  ∀ k, ∃ order : List Nat, order.Perm (List.range (count k)) ∧
    partsOf k schedule = .start :: (order.map .chunk ++ [.finish])

/-- No part of a message arrives while another of the same key is under way. -/
def KeysApart (key : ι → κ) (schedule : List (Scheduled ι α ε)) : Prop :=
  ∀ before l part info after, schedule = before ++ .part l part info :: after →
    ∀ k, k ≠ l → key k = key l → collected (partsOf k before) = none

/-- Messages of different keys are apart. -/
theorem keysApart_of_injective {key : ι → κ} (schedule : List (Scheduled ι α ε))
    (distinct : Function.Injective key) : KeysApart key schedule :=
  fun _ _ _ _ _ _ _ differs same => absurd (distinct same) differs

/-- At the end of a message all its chunks came. -/
theorem Interleaved.collected_finish {count : ι → Nat} {schedule before after : List (Scheduled ι α ε)}
    {k : ι} {info : α} (whole : Interleaved count schedule)
    (split : schedule = before ++ .part k .finish info :: after) :
    ∃ order : List Nat, order.Perm (List.range (count k)) ∧
      collected (partsOf k before) = some order := by
  obtain ⟨order, all, parts⟩ := whole k
  refine ⟨order, all, ?_⟩
  have last : (.start :: order.map .chunk) ++ Part.finish :: [] =
      partsOf k before ++ .finish :: partsOf k after := by
    rw [List.cons_append, ← parts, split, partsOf_append, partsOf, if_pos rfl]
  have once : Part.finish ∉ Part.start :: order.map .chunk := by simp
  obtain ⟨same, -, -⟩ := (List.append_cons_inj_of_notMem once (by simp)).mp last
  rw [← same]
  exact collected_chunks order

/-- A table that takes what comes of each message under its key, and is left alone by
the rest, holds what came of a message that is under way, as long as it is `Ready`. -/
theorem KeysApart.held {σ : Type} {key : ι → κ} {schedule : List (Scheduled ι α ε)}
    (apart : KeysApart key schedule) (step : σ → Scheduled ι α ε → σ) {Ready : σ → Prop}
    (Holds : σ → ι → List Nat → Prop)
    (ready : ∀ s entry, entry ∈ schedule → Ready s → Ready (step s entry))
    (starts : ∀ s k info, Ready s → Holds (step s (.part k .start info)) k [])
    (grows : ∀ s k i info order, Holds s k order →
      Holds (step s (.part k (.chunk i) info)) k (order ++ [i]))
    (others : ∀ s k l part info order, key k ≠ key l → Holds s k order →
      Holds (step s (.part l part info)) k order)
    (quiet : ∀ s k event order, .other event ∈ schedule → Holds s k order →
      Holds (step s (.other event)) k order)
    {s : σ} (init : Ready s) {before after : List (Scheduled ι α ε)}
    (split : schedule = before ++ after) :
    Ready (before.foldl step s) ∧ ∀ k order, collected (partsOf k before) = some order →
      Holds (before.foldl step s) k order := by
  induction before using List.reverseRecOn generalizing after with
  | nil => exact ⟨init, fun k order underway => nomatch underway⟩
  | append_singleton before entry ih =>
    obtain ⟨there, earlier⟩ := @ih (entry :: after) (by rw [split, List.append_assoc]; rfl)
    have member : entry ∈ schedule := by
      rw [split]
      simp
    rw [List.foldl_append, List.foldl_cons, List.foldl_nil]
    refine ⟨ready _ entry member there, fun k order underway => ?_⟩
    rw [partsOf_append] at underway
    cases entry with
    | other event =>
      rw [partsOf, partsOf, List.append_nil] at underway
      exact quiet _ k event order member (earlier k order underway)
    | part l part info =>
      by_cases own : l = k
      · subst own
        rw [partsOf, if_pos rfl, partsOf, collected_snoc] at underway
        cases part with
        | start =>
          obtain rfl := Option.some.inj underway
          exact starts _ l info there
        | chunk i =>
          obtain ⟨older, came, rfl⟩ := Option.map_eq_some_iff.mp underway
          exact grows _ l i info older (earlier l older came)
        | finish => cases underway
      · rw [partsOf, if_neg own, partsOf, List.append_nil] at underway
        refine others _ k l part info order ?_ (earlier k order underway)
        intro same
        have none_ := apart before l part info after (by rw [split, List.append_assoc]; rfl) k
          (Ne.symm own) same
        rw [underway] at none_
        cases none_

end MtrxPeer
