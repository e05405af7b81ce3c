import Mathlib.Data.List.Sort

/-! Lists that are read page by page while they change: an item that only moves away from the
start is on one of the pages that are read. -/
namespace MtrxPeer

variable {α κ : Type}

/-! ## Pages -/

/-- The `number`-th page of a list. -/
def page (limit number : Nat) (items : List α) : List α := (items.drop (number * limit)).take limit

theorem page_map {β : Type} (f : α → β) (limit number : Nat) (items : List α) :
    page limit number (items.map f) = (page limit number items).map f := by
  rw [page, page, List.map_take, List.map_drop]

variable [DecidableEq κ] {k : κ}

/-- An item is on the page that its position says. -/
theorem mem_page {limit number : Nat} {items : List κ} (member : k ∈ items)
    (first : number * limit ≤ items.idxOf k) (last : items.idxOf k < (number + 1) * limit) :
    k ∈ page limit number items := by
  have inside := List.idxOf_lt_length_of_mem member
  have width : (number + 1) * limit = number * limit + limit := Nat.succ_mul number limit
  rw [page, List.mem_iff_getElem]
  refine ⟨items.idxOf k - number * limit, ?_, ?_⟩
  · rw [List.length_take, List.length_drop]
    omega
  · rw [List.getElem_take, List.getElem_drop]
    have place : number * limit + (items.idxOf k - number * limit) = items.idxOf k := by omega
    simp only [place]
    exact List.getElem_idxOf inside

/-- A reader takes page after page of a list that changes, up to the first page that is not
full. An item that is there all the time and does not move towards the start is found. -/
theorem found_while_paging {limit last : Nat} {listed : Nat → List κ}
    (present : ∀ i ≤ last, k ∈ listed i)
    (later : ∀ i < last, (listed i).idxOf k ≤ (listed (i + 1)).idxOf k)
    (short : (page limit last (listed last)).length < limit) :
    ∃ i ≤ last, k ∈ page limit i (listed i) := by
  by_contra missed
  have ahead : ∀ i ≤ last, i * limit ≤ (listed i).idxOf k := by
    intro i upTo
    induction i with
    | zero => simp
    | succ i ih =>
      have before := ih (Nat.le_of_succ_le upTo)
      have beyond : ¬ (listed i).idxOf k < (i + 1) * limit := fun within =>
        missed ⟨i, Nat.le_of_succ_le upTo, mem_page (present i (Nat.le_of_succ_le upTo)) before within⟩
      exact Nat.le_trans (Nat.le_of_not_lt beyond) (later i upTo)
  have inside := List.idxOf_lt_length_of_mem (present last (Nat.le_refl _))
  rw [page, List.length_take, List.length_drop] at short
  have within : (listed last).idxOf k < (last + 1) * limit := by
    rw [Nat.succ_mul]
    omega
  exact missed ⟨last, Nat.le_refl _,
    mem_page (present last (Nat.le_refl _)) (ahead last (Nat.le_refl _)) within⟩

/-! ## Positions -/

omit [DecidableEq κ] in
/-- A stable sort orders by the comparison, and what it does not tell apart by the order there
was before. -/
theorem pairwise_mergeSort_stable {items : List α} {le : α → α → Bool} {before : α → α → Prop}
    (trans : ∀ a b c, le a b → le b c → le a c) (total : ∀ a b, le a b || le b a)
    (ordered : items.Pairwise before) :
    (items.mergeSort le).Pairwise fun a b => le a b ∧ (le b a → before a b) := by
  apply List.pairwise_iff_forall_sublist.mpr
  intro a b sub
  have sorted := List.pairwise_mergeSort trans total items
  refine ⟨List.pairwise_iff_forall_sublist.mp sorted sub, fun tied => ?_⟩
  have first := List.pairwise_iff_forall_sublist.mp sorted sub
  -- the items that compare equal to `a` keep their order
  let alike := fun x => le a x && le x a
  have kept : (items.filter alike).Sublist (items.mergeSort le) := by
    apply List.sublist_mergeSort trans total _ List.filter_sublist
    apply List.pairwise_of_forall_mem_list
    intro x memberX y memberY
    have fromX : le x a := (Bool.and_eq_true_iff.mp (List.mem_filter.mp memberX).2).2
    have toY : le a y := (Bool.and_eq_true_iff.mp (List.mem_filter.mp memberY).2).1
    exact trans x a y fromX toY
  have same : (items.mergeSort le).filter alike = items.filter alike := by
    have inner : (items.filter alike).Sublist ((items.mergeSort le).filter alike) := by
      simpa only [List.filter_filter, Bool.and_self] using kept.filter alike
    refine (inner.eq_of_length ?_).symm
    exact ((List.mergeSort_perm items le).filter alike).length_eq.symm
  have pair : [a, b].Sublist ((items.mergeSort le).filter alike) := by
    have filtered := sub.filter alike
    have self : alike a = true := by simpa [alike] using total a a
    have other : alike b = true := Bool.and_eq_true_iff.mpr ⟨first, tied⟩
    rwa [List.filter_cons_of_pos self, List.filter_cons_of_pos other, List.filter_nil] at filtered
  rw [same] at pair
  exact List.pairwise_iff_forall_sublist.mp ordered (pair.trans List.filter_sublist)

/-- In a sorted list, the position of an item is the number of items that come before it. -/
theorem idxOf_eq_countP {items : List α} {key : α → κ} {before : α → α → Prop} [DecidableRel before]
    (sorted : items.Pairwise before) (asymm : ∀ a b, before a b → ¬ before b a)
    (distinct : (items.map key).Nodup) {item : α} (member : item ∈ items) :
    (items.map key).idxOf (key item) = items.countP fun other => before other item := by
  have irrefl : ¬ before item item := fun it => asymm item item it it
  induction items with
  | nil => cases member
  | cons first rest ih =>
    rw [List.map_cons, List.nodup_cons] at distinct
    rw [List.pairwise_cons] at sorted
    rcases List.mem_cons.mp member with rfl | later
    · rw [List.map_cons, List.idxOf_cons_self, List.countP_cons_of_neg (by simpa using irrefl)]
      refine (List.countP_eq_zero.mpr fun other among => ?_).symm
      simpa using asymm item other (sorted.1 other among)
    · have differs : key first ≠ key item := fun same =>
        distinct.1 (same ▸ List.mem_map_of_mem later)
      rw [List.map_cons, List.idxOf_cons_ne _ differs, ih sorted.2 distinct.2 later,
        List.countP_cons_of_pos (by simpa using sorted.1 item later)]

omit [DecidableEq κ] in
/-- Items that pass a test are no fewer in a list where each has a counterpart under its key. -/
theorem countP_le_of_key {items items' : List α} {key : α → κ} {test test' : α → Bool}
    (distinct : (items.map key).Nodup)
    (found : ∀ item ∈ items, test item = true →
      ∃ item' ∈ items', key item' = key item ∧ test' item' = true) :
    items.countP test ≤ items'.countP test' := by
  have subset : (items.filter test).map key ⊆ (items'.filter test').map key := by
    intro k member
    obtain ⟨item, among, rfl⟩ := List.mem_map.mp member
    obtain ⟨member, passes⟩ := List.mem_filter.mp among
    obtain ⟨item', member', same, passes'⟩ := found item member passes
    exact List.mem_map.mpr ⟨item', List.mem_filter.mpr ⟨member', passes'⟩, same⟩
  have nodup : ((items.filter test).map key).Nodup := distinct.sublist (List.filter_sublist.map key)
  have fewer := (List.subperm_of_subset nodup subset).length_le
  rwa [List.length_map, List.length_map, ← List.countP_eq_length_filter,
    ← List.countP_eq_length_filter] at fewer

end MtrxPeer
