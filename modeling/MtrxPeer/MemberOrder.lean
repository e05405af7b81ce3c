import Mathlib.Data.List.Sort

/-! Comparisons that are total preorders on the members of a list, whatever they are on
other values, and the stable sort by them. -/
namespace MtrxPeer

variable {α β : Type} {compared second : α → α → Ordering} {items : List α}

/-- The comparison is a total preorder on the members of the list. -/
abbrev OrdersMembers (compared : α → α → Ordering) (items : List α) : Prop :=
  Std.TransCmp fun left right : {item // item ∈ items} => compared left right

/-- What orders all values orders the members of any list. -/
theorem OrdersMembers.of_all (total : Std.TransCmp compared) : OrdersMembers compared items where
  eq_swap := total.eq_swap
  isLE_trans := total.isLE_trans

/-- A comparison of keys in a linear order. -/
theorem OrdersMembers.by_key {κ : Type} [Ord κ] [Std.TransOrd κ] (key : α → κ) :
    OrdersMembers (compareOn key) items :=
  .of_all inferInstance

/-- The comparison the other way round. -/
theorem OrdersMembers.reversed (orders : OrdersMembers compared items) :
    OrdersMembers (fun left right => compared right left) items :=
  @Std.TransCmp.opposite _ _ orders

/-- Where the first comparison finds no difference, the second one decides. -/
theorem OrdersMembers.lex (orders : OrdersMembers compared items)
    (next : OrdersMembers second items) : OrdersMembers (compareLex compared second) items := by
  change Std.TransCmp (compareLex _ _)
  infer_instance

/-- The sort by a comparison leaves no member before one that it should come after. -/
theorem OrdersMembers.pairwise_mergeSort (orders : OrdersMembers compared items) :
    (items.mergeSort fun left right => (compared left right).isLE).Pairwise fun left right =>
      (compared left right).isLE := by
  have total : ∀ left right : {item // item ∈ items},
      (compared left right).isLE || (compared right left).isLE := by
    intro left right
    rw [orders.eq_swap (a := right)]
    cases compared left right <;> rfl
  have sorted := List.pairwise_mergeSort
    (fun left middle right : {item // item ∈ items} =>
      orders.isLE_trans (a := left) (b := middle) (c := right)) total items.attach
  have same : (items.attach.mergeSort fun left right => (compared left right).isLE).map Subtype.val =
      items.mergeSort fun left right => (compared left right).isLE := by
    rw [List.map_mergeSort (s := fun left right => (compared left right).isLE) (fun _ _ _ _ => rfl),
      List.attach_map_subtype_val]
  rw [← same, List.pairwise_map]
  exact sorted

end MtrxPeer
