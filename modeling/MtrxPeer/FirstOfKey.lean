import Mathlib.Data.List.Induction
import Mathlib.Data.List.Nodup
import Mathlib.Data.List.Perm.Basic
import Mathlib.Tactic.SplitIfs

/-! The items of a list that are the first with their key, and those that come after one
with the same key. -/
namespace MtrxPeer

variable {α κ : Type} [DecidableEq κ] (key : α → κ)

/-- No item before this place has the key of the item there. -/
def isFirst (items : List α) (place : α × Nat) : Bool := key place.1 ∉ (items.take place.2).map key

/-- The items that are the first with their key, or those that are not, in order. -/
def itemsBy (first : Bool) (items : List α) : List α :=
  (items.zipIdx.filter fun place => isFirst key items place = first).map Prod.fst

/-- The items that are the first with their key. -/
abbrev firstItems (items : List α) : List α := itemsBy key true items

/-- The items whose key an earlier item has. -/
abbrev laterItems (items : List α) : List α := itemsBy key false items

variable {key}

@[simp] theorem itemsBy_nil (first : Bool) : itemsBy key first [] = [] := rfl

/-- Either keeps the order of the list. -/
theorem itemsBy_sublist (first : Bool) (items : List α) : (itemsBy key first items).Sublist items := by
  have kept : (items.zipIdx.filter fun place => isFirst key items place = first).Sublist items.zipIdx :=
    List.filter_sublist
  have sublist := kept.map Prod.fst
  rwa [List.zipIdx_map_fst] at sublist

/-- One more item is the first with its key or it is not; the others stay what they are. -/
theorem itemsBy_concat (first : Bool) (items : List α) (item : α) :
    itemsBy key first (items ++ [item]) =
      itemsBy key first items ++ if decide (key item ∉ items.map key) = first then [item] else [] := by
  have before : ∀ place ∈ items.zipIdx,
      decide (isFirst key (items ++ [item]) place = first) = decide (isFirst key items place = first) := by
    rintro ⟨other, i⟩ member
    have inside := List.snd_lt_of_mem_zipIdx member
    rw [Nat.add_zero] at inside
    rw [isFirst, isFirst, List.take_append_of_le_length (Nat.le_of_lt inside)]
  have last : isFirst key (items ++ [item]) (item, items.length) = decide (key item ∉ items.map key) := by
    rw [isFirst, List.take_left]
  rw [itemsBy, List.zipIdx_append, List.filter_append, List.filter_congr before, List.map_append, itemsBy]
  congr 1
  simp only [List.zipIdx_cons, List.zipIdx_nil, Nat.zero_add, List.filter_singleton, last]
  split_ifs <;> simp_all

theorem firstItems_concat (items : List α) (item : α) :
    firstItems key (items ++ [item]) =
      firstItems key items ++ if key item ∈ items.map key then [] else [item] := by
  rw [firstItems, itemsBy_concat]
  split_ifs <;> simp_all

theorem laterItems_concat (items : List α) (item : α) :
    laterItems key (items ++ [item]) =
      laterItems key items ++ if key item ∈ items.map key then [item] else [] := by
  rw [laterItems, itemsBy_concat]
  split_ifs <;> simp_all

/-- Every key that occurs has a first item. -/
theorem mem_firstItems_key {items : List α} {k : κ} :
    k ∈ (firstItems key items).map key ↔ k ∈ items.map key := by
  induction items using List.reverseRecOn with
  | nil => simp
  | append_singleton items item ih =>
    rw [firstItems_concat, List.map_append, List.mem_append, ih, List.map_append, List.mem_append]
    by_cases old : key item ∈ items.map key
    · rw [if_pos old]
      constructor
      · rintro (earlier | none_)
        · exact .inl earlier
        · cases none_
      · rintro (earlier | same)
        · exact .inl earlier
        · obtain rfl := List.mem_singleton.mp same
          exact .inl old
    · rw [if_neg old]

/-- Every item is of one kind or the other. -/
theorem firstItems_perm (items : List α) : (firstItems key items ++ laterItems key items).Perm items := by
  induction items using List.reverseRecOn with
  | nil => exact List.Perm.refl _
  | append_singleton items item ih =>
    rw [firstItems_concat, laterItems_concat]
    by_cases old : key item ∈ items.map key
    · rw [if_pos old, if_pos old, List.append_nil, ← List.append_assoc]
      exact ih.append_right [item]
    · rw [if_neg old, if_neg old, List.append_nil, List.append_assoc]
      refine (List.perm_append_comm.append_left _).trans ?_
      rw [← List.append_assoc]
      exact ih.append_right [item]

/-- A first item stands after items with other keys only. -/
theorem firstItems_split {items : List α} {item : α} (member : item ∈ firstItems key items) :
    ∃ before after, items = before ++ item :: after ∧ key item ∉ before.map key := by
  induction items using List.reverseRecOn with
  | nil => simp at member
  | append_singleton items last ih =>
    rw [firstItems_concat, List.mem_append] at member
    rcases member with earlier | new
    · obtain ⟨before, after, rfl, fresh⟩ := ih earlier
      exact ⟨before, after ++ [last], by simp, fresh⟩
    · split_ifs at new with old
      · cases new
      · obtain rfl := List.mem_singleton.mp new
        exact ⟨items, [], rfl, old⟩

end MtrxPeer
