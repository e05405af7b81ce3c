import Mathlib.Algebra.BigOperators.Finprod
import MtrxPeer.Listings
import MtrxPeer.TransactionRows

/-! The credits earned and consumed in settled exchanges, by model and by counterparty. -/
namespace MtrxPeer

/-! ## The statistics -/

structure CreditBucket where
  consumed : Int
  earned : Int
  deriving DecidableEq

/-- The credits by the name of a model, and by the id of a counterparty. -/
structure TransactionStats where
  byModel : List (String × CreditBucket)
  byPeer : List (String × CreditBucket)

/-- What an `i64` keeps of a number. -/
def toI64 (number : Int) : Int := number.bmod (2 ^ 64)

/-- A credit delta entered into a bucket. -/
def CreditBucket.enter (bucket : CreditBucket) (delta : Int) : CreditBucket :=
  if delta < 0 then
    let spent := toI64 delta.natAbs
    { bucket with consumed := toI64 (bucket.consumed + spent) }
  else { bucket with earned := toI64 (bucket.earned + delta) }

/-- A credit delta entered into the bucket of a key, `entry(key).or_default()`. -/
def enterBucket (key : String) (delta : Int) :
    List (String × CreditBucket) → List (String × CreditBucket)
  | [] => [(key, CreditBucket.enter ⟨0, 0⟩ delta)]
  | (other, bucket) :: rest =>
    if other = key then (other, bucket.enter delta) :: rest
    else (other, bucket) :: enterBucket key delta rest

/-- A settled exchange of the peer, settled (or, with no such time, reported) since the cutoff. -/
def PeerTransaction.countsFor (tx : PeerTransaction) (localPeerId : String) (sinceUnix : Option Nat) :
    Bool :=
  tx.status = "settled" && (tx.consumerPeerId = localPeerId || tx.providerPeerId = localPeerId) &&
    sinceUnix.all fun since =>
      since ≤ if 0 < tx.settledAtUnix then tx.settledAtUnix else tx.reportedAtUnix

/-- The pass over the rows that count. -/
def enterRows (rows : List PeerTransaction) :
    List (String × CreditBucket) × List (String × CreditBucket) :=
  rows.foldl (fun (byModel, byPeer) tx =>
    let delta := tx.localCreditDelta
    if delta = 0 then (byModel, byPeer)
    else (enterBucket tx.model delta byModel, enterBucket tx.counterpartyPeerId delta byPeer)) ([], [])

/-- The buckets of a hash map in the order in which it is gone through. -/
def inHashOrder (order buckets : List (String × CreditBucket)) : List (String × CreditBucket) :=
  if order.Perm buckets then order else buckets

/-- The buckets with the most credits first. -/
def byCredits (buckets : List (String × CreditBucket)) : List (String × CreditBucket) :=
  buckets.mergeSort fun a b =>
    toI64 (b.2.consumed + b.2.earned) ≤ toI64 (a.2.consumed + a.2.earned)

/-- `stats_sync`, with the rows that the scan of the table yields. -/
def statsSync (allTransactions : List PeerTransaction) (localPeerId : String)
    (sinceUnix : Option Nat) (modelOrder peerOrder : List (String × CreditBucket)) :
    TransactionStats :=
  let (byModel, byPeer) :=
    enterRows (allTransactions.filter fun tx => tx.countsFor localPeerId sinceUnix)
  ⟨byCredits (inHashOrder modelOrder byModel), byCredits (inHashOrder peerOrder byPeer)⟩

/-! ## The credits in the table -/

/-- What is taken of each row of the table that counts, over all of them. -/
noncomputable def TxStore.creditSum (store : TxStore) (localPeerId : String)
    (sinceUnix : Option Nat) (credits : Int → Int) : Int :=
  finsum fun reqId => ((store.transactions reqId).filter fun tx =>
    tx.countsFor localPeerId sinceUnix).elim 0 fun tx => credits tx.localCreditDelta

/-- The credits of the positive deltas. -/
noncomputable def TxStore.earned (store : TxStore) (localPeerId : String)
    (sinceUnix : Option Nat) : Int :=
  store.creditSum localPeerId sinceUnix fun delta => max delta 0

/-- The credits of the negative deltas, negated. -/
noncomputable def TxStore.consumed (store : TxStore) (localPeerId : String)
    (sinceUnix : Option Nat) : Int :=
  store.creditSum localPeerId sinceUnix fun delta => max (-delta) 0

/-- The buckets sum to so many credits. -/
structure SumTo (buckets : List (String × CreditBucket)) (earned consumed : Int) : Prop where
  earned : (buckets.map fun bucket => bucket.2.earned).sum = earned
  consumed : (buckets.map fun bucket => bucket.2.consumed).sum = consumed

/-! ## One credit delta -/

private theorem toI64_fitting {number : Int} (positive : 0 ≤ number) (fits : number < 2 ^ 63) :
    toI64 number = number := by
  apply Int.bmod_eq_of_le_mul_two <;> omega

/-- No bucket is below zero. -/
private def NonNegative (buckets : List (String × CreditBucket)) : Prop :=
  ∀ bucket ∈ buckets, 0 ≤ bucket.2.consumed ∧ 0 ≤ bucket.2.earned

private theorem enter_fitting {bucket : CreditBucket} {delta : Int}
    (consumed : 0 ≤ bucket.consumed) (earned : 0 ≤ bucket.earned)
    (earnedFits : bucket.earned + max delta 0 < 2 ^ 63)
    (consumedFits : bucket.consumed + max (-delta) 0 < 2 ^ 63) :
    bucket.enter delta = ⟨bucket.consumed + max (-delta) 0, bucket.earned + max delta 0⟩ := by
  unfold CreditBucket.enter
  by_cases negative : delta < 0
  · have spent : max (-delta) 0 = delta.natAbs := by omega
    have idle : max delta 0 = 0 := by omega
    have narrowed : toI64 delta.natAbs = delta.natAbs := toI64_fitting (by omega) (by omega)
    have summed : toI64 (bucket.consumed + delta.natAbs) = bucket.consumed + delta.natAbs :=
      toI64_fitting (by omega) (by omega)
    simp only [if_pos negative, spent, idle, narrowed, summed, Int.add_zero]
  · have idle : max (-delta) 0 = 0 := by omega
    have gained : max delta 0 = delta := by omega
    have summed : toI64 (bucket.earned + delta) = bucket.earned + delta :=
      toI64_fitting (by omega) (by omega)
    simp only [if_neg negative, idle, gained, summed, Int.add_zero]

/-- The buckets sum to so many credits, and none is below zero. -/
private structure BucketsHold (buckets : List (String × CreditBucket)) (earned consumed : Int) : Prop
    extends SumTo buckets earned consumed where
  nonNegative : NonNegative buckets

private theorem BucketsHold.positive {buckets : List (String × CreditBucket)} {earned consumed : Int}
    (holds : BucketsHold buckets earned consumed) : 0 ≤ earned ∧ 0 ≤ consumed := by
  obtain ⟨⟨rfl, rfl⟩, nonNegative⟩ := holds
  constructor
  · apply List.sum_nonneg
    intro number member
    obtain ⟨bucket, among, rfl⟩ := List.mem_map.mp member
    exact (nonNegative bucket among).2
  · apply List.sum_nonneg
    intro number member
    obtain ⟨bucket, among, rfl⟩ := List.mem_map.mp member
    exact (nonNegative bucket among).1

private theorem bucketsHold_cons {key : String} {bucket : CreditBucket}
    {rest : List (String × CreditBucket)} {earned consumed : Int} :
    BucketsHold ((key, bucket) :: rest) earned consumed ↔ (0 ≤ bucket.consumed ∧ 0 ≤ bucket.earned) ∧
      BucketsHold rest (earned - bucket.earned) (consumed - bucket.consumed) := by
  constructor
  · rintro ⟨⟨earnedSum, consumedSum⟩, nonNegative⟩
    rw [List.map_cons, List.sum_cons] at earnedSum consumedSum
    obtain ⟨first, others⟩ := List.forall_mem_cons.mp nonNegative
    exact ⟨first, ⟨eq_sub_of_add_eq' earnedSum, eq_sub_of_add_eq' consumedSum⟩, others⟩
  · rintro ⟨first, ⟨earnedSum, consumedSum⟩, others⟩
    refine ⟨⟨?_, ?_⟩, List.forall_mem_cons.mpr ⟨first, others⟩⟩
    · rw [List.map_cons, List.sum_cons, earnedSum, add_sub_cancel]
    · rw [List.map_cons, List.sum_cons, consumedSum, add_sub_cancel]

private theorem bucketsHold_nil : BucketsHold [] 0 0 := ⟨⟨rfl, rfl⟩, by simp [NonNegative]⟩

/-- A delta entered is added to the credits, as long as they fit into an `i64`. -/
private theorem BucketsHold.enterBucket {key : String} {delta : Int}
    {buckets : List (String × CreditBucket)} {earned consumed : Int}
    (holds : BucketsHold buckets earned consumed) (earnedFits : earned + max delta 0 < 2 ^ 63)
    (consumedFits : consumed + max (-delta) 0 < 2 ^ 63) :
    BucketsHold (enterBucket key delta buckets) (earned + max delta 0) (consumed + max (-delta) 0) := by
  induction buckets generalizing earned consumed with
  | nil =>
    obtain ⟨⟨rfl, rfl⟩, -⟩ := holds
    rw [MtrxPeer.enterBucket, enter_fitting le_rfl le_rfl earnedFits consumedFits, bucketsHold_cons]
    refine ⟨⟨by simp, by simp⟩, ?_⟩
    simpa using bucketsHold_nil
  | cons head rest ih =>
    obtain ⟨other, bucket⟩ := head
    obtain ⟨⟨consumedFirst, earnedFirst⟩, others⟩ := bucketsHold_cons.mp holds
    obtain ⟨earnedRest, consumedRest⟩ := others.positive
    unfold MtrxPeer.enterBucket
    by_cases same : other = key
    · rw [if_pos same, enter_fitting consumedFirst earnedFirst (by omega) (by omega), bucketsHold_cons]
      refine ⟨⟨add_nonneg consumedFirst (le_max_right _ _),
        add_nonneg earnedFirst (le_max_right _ _)⟩, ?_⟩
      rwa [add_sub_add_right_eq_sub, add_sub_add_right_eq_sub]
    · rw [if_neg same, bucketsHold_cons]
      refine ⟨⟨consumedFirst, earnedFirst⟩, ?_⟩
      rw [add_sub_right_comm, add_sub_right_comm]
      exact ih others (by omega) (by omega)

/-! ## All rows -/

/-- The credits of one sign in a list of rows. -/
private def rowCredits (credits : Int → Int) (rows : List PeerTransaction) : Int :=
  (rows.map fun tx => credits tx.localCreditDelta).sum

private theorem rowCredits_positive {credits : Int → Int} (positive : ∀ delta, 0 ≤ credits delta)
    (rows : List PeerTransaction) : 0 ≤ rowCredits credits rows := by
  apply List.sum_nonneg
  intro number member
  obtain ⟨tx, -, rfl⟩ := List.mem_map.mp member
  exact positive _

/-- One pass of the loop, for the buckets under one kind of key. -/
private def enterRow (key : PeerTransaction → String) (buckets : List (String × CreditBucket))
    (tx : PeerTransaction) : List (String × CreditBucket) :=
  if tx.localCreditDelta = 0 then buckets else enterBucket (key tx) tx.localCreditDelta buckets

/-- The two aggregates are the same pass under two keys. -/
private theorem enterRows_eq (rows : List PeerTransaction) :
    enterRows rows = (rows.foldl (enterRow PeerTransaction.model) [],
      rows.foldl (enterRow PeerTransaction.counterpartyPeerId) []) := by
  have folded : ∀ (rows : List PeerTransaction) (byModel byPeer : List (String × CreditBucket)),
      rows.foldl (fun (byModel, byPeer) tx =>
        let delta := tx.localCreditDelta
        if delta = 0 then (byModel, byPeer)
        else (enterBucket tx.model delta byModel, enterBucket tx.counterpartyPeerId delta byPeer))
          (byModel, byPeer) =
        (rows.foldl (enterRow PeerTransaction.model) byModel,
          rows.foldl (enterRow PeerTransaction.counterpartyPeerId) byPeer) := by
    intro rows
    induction rows with
    | nil => exact fun _ _ => rfl
    | cons tx rest ih =>
      intro byModel byPeer
      rw [List.foldl_cons, List.foldl_cons, List.foldl_cons, ← ih]
      unfold enterRow
      by_cases idle : tx.localCreditDelta = 0
      · simp only [if_pos idle]
      · simp only [if_neg idle]
  exact folded rows [] []

/-- The pass conserves the credits of the rows. -/
private theorem bucketsHold_rows (key : PeerTransaction → String) {rows : List PeerTransaction}
    {buckets : List (String × CreditBucket)} {earned consumed : Int}
    (holds : BucketsHold buckets earned consumed)
    (earnedFits : earned + rowCredits (fun delta => max delta 0) rows < 2 ^ 63)
    (consumedFits : consumed + rowCredits (fun delta => max (-delta) 0) rows < 2 ^ 63) :
    BucketsHold (rows.foldl (enterRow key) buckets)
      (earned + rowCredits (fun delta => max delta 0) rows)
      (consumed + rowCredits (fun delta => max (-delta) 0) rows) := by
  induction rows generalizing buckets earned consumed with
  | nil => simpa [rowCredits] using holds
  | cons tx rest ih =>
    have earnedRest := rowCredits_positive (fun delta => le_max_right delta 0) rest
    have consumedRest := rowCredits_positive (fun delta => le_max_right (-delta) 0) rest
    simp only [rowCredits, List.map_cons, List.sum_cons] at earnedFits consumedFits earnedRest consumedRest ⊢
    rw [← add_assoc] at earnedFits consumedFits ⊢
    rw [← add_assoc]
    refine ih ?_ earnedFits consumedFits
    unfold enterRow
    by_cases idle : tx.localCreditDelta = 0
    · rw [if_pos idle, idle]
      simpa using holds
    · rw [if_neg idle]
      exact holds.enterBucket (by omega) (by omega)

/-! ## Conservation -/

private theorem SumTo.perm {buckets other : List (String × CreditBucket)} {earned consumed : Int}
    (sums : SumTo buckets earned consumed) (same : other.Perm buckets) :
    SumTo other earned consumed :=
  ⟨((same.map _).sum_eq).trans sums.earned, ((same.map _).sum_eq).trans sums.consumed⟩

private theorem byCredits_perm (order buckets : List (String × CreditBucket)) :
    (byCredits (inHashOrder order buckets)).Perm buckets := by
  refine (List.mergeSort_perm _ _).trans ?_
  unfold inHashOrder
  split_ifs with lists
  · exact lists
  · exact List.Perm.refl _

/-- What is summed over the table is summed over the rows that are scanned. -/
private theorem creditSum_eq {store : TxStore} {rows : List PeerTransaction}
    (listing : Listing PeerTransaction.reqId rows store.transactions) (localPeerId : String)
    (sinceUnix : Option Nat) (credits : Int → Int) :
    store.creditSum localPeerId sinceUnix credits =
      rowCredits credits (rows.filter fun tx => tx.countsFor localPeerId sinceUnix) :=
  (listing.filter _).finsum_eq _

/-- Where the credits earned and those consumed fit into an `i64`, both aggregates sum to the
credits of the rows in the table that count. -/
theorem stats_conserve_credits (store : TxStore) (rows : List PeerTransaction)
    (listing : Listing PeerTransaction.reqId rows store.transactions) (localPeerId : String)
    (sinceUnix : Option Nat) (modelOrder peerOrder : List (String × CreditBucket))
    (earnedFits : store.earned localPeerId sinceUnix < 2 ^ 63)
    (consumedFits : store.consumed localPeerId sinceUnix < 2 ^ 63) :
    SumTo (statsSync rows localPeerId sinceUnix modelOrder peerOrder).byModel
        (store.earned localPeerId sinceUnix) (store.consumed localPeerId sinceUnix) ∧
      SumTo (statsSync rows localPeerId sinceUnix modelOrder peerOrder).byPeer
        (store.earned localPeerId sinceUnix) (store.consumed localPeerId sinceUnix) := by
  have holds : ∀ key : PeerTransaction → String,
      SumTo ((rows.filter fun tx => tx.countsFor localPeerId sinceUnix).foldl (enterRow key) [])
        (store.earned localPeerId sinceUnix) (store.consumed localPeerId sinceUnix) := by
    intro key
    rw [TxStore.earned, creditSum_eq listing] at earnedFits ⊢
    rw [TxStore.consumed, creditSum_eq listing] at consumedFits ⊢
    have sums := bucketsHold_rows key bucketsHold_nil (by rwa [zero_add]) (by rwa [zero_add])
    rw [zero_add, zero_add] at sums
    exact sums.toSumTo
  rw [statsSync, enterRows_eq]
  exact ⟨(holds _).perm (byCredits_perm _ _), (holds _).perm (byCredits_perm _ _)⟩

private def creditRow (reqId : String) (delta : Int) : PeerTransaction :=
  ⟨reqId, "local", "remote", "mistral", "remote", "settled", 90, .consumer, 5, 5, 10, delta, -delta,
    delta, false, 100⟩

private def creditStore : TxStore :=
  (TxStore.empty.upsertTransaction (creditRow "req-1" (-25))).upsertTransaction (creditRow "req-2" 40)

private theorem creditStore_listing : Listing PeerTransaction.reqId
    [creditRow "req-1" (-25), creditRow "req-2" 40] creditStore.transactions := by
  have first : Listing PeerTransaction.reqId [creditRow "req-1" (-25)]
      (TxStore.empty.upsertTransaction (creditRow "req-1" (-25))).transactions :=
    listing_nil.push (by simp)
  exact first.push (by simp [creditRow])

theorem stats_conserve_credits_sample :
    let stats := statsSync [creditRow "req-1" (-25), creditRow "req-2" 40] "local" (some 95) [] []
    SumTo stats.byModel (creditStore.earned "local" (some 95)) (creditStore.consumed "local" (some 95)) ∧
      SumTo stats.byPeer (creditStore.earned "local" (some 95))
        (creditStore.consumed "local" (some 95)) := by
  have fits : ∀ credits : Int → Int, credits (-25) + (credits 40 + 0) < 2 ^ 63 →
      creditStore.creditSum "local" (some 95) credits < 2 ^ 63 := by
    intro credits fits
    rw [creditSum_eq creditStore_listing]
    exact fits
  exact stats_conserve_credits _ _ creditStore_listing _ _ _ _ (fits _ (by decide)) (fits _ (by decide))

end MtrxPeer
