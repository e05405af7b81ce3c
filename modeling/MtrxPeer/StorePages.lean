import MtrxPeer.Listings
import MtrxPeer.Paging
import MtrxPeer.TransactionRows

/-! The list of transactions, newest first, as a client reads it page by page while exchanges
are entered. -/
namespace MtrxPeer

open Function (update update_of_ne update_self)

/-! ## The list -/

structure TransactionListItem where
  reqId : String
  role : ExchangeRole
  counterpartyPeerId : String
  consumerPeerId : String
  providerPeerId : String
  model : String
  totalTokens : Nat
  localCreditDelta : Int
  status : String
  reportedAtUnix : Nat
  settledAtUnix : Nat

def PeerTransaction.listItem (tx : PeerTransaction) : TransactionListItem where
  reqId := tx.reqId
  role := tx.role
  counterpartyPeerId := tx.counterpartyPeerId
  consumerPeerId := tx.consumerPeerId
  providerPeerId := tx.providerPeerId
  model := tx.model
  totalTokens := tx.totalTokens
  localCreditDelta := tx.localCreditDelta
  status := tx.status
  reportedAtUnix := tx.reportedAtUnix
  settledAtUnix := tx.settledAtUnix

def newestFirst (rows : List PeerTransaction) : List PeerTransaction :=
  rows.mergeSort fun a b => b.reportedAtUnix ≤ a.reportedAtUnix

/-- `list_transactions_sync`, with the rows that the scan of the table yields. -/
def listTransactions (allTransactions : List PeerTransaction) (limit offset : Nat) :
    List TransactionListItem :=
  (((newestFirst allTransactions).drop offset).take limit).map PeerTransaction.listItem

/-- `limit.clamp(1, 500)`. -/
def pageLimit (limit : Nat) : Nat := min (max 1 limit) 500

/-- `get_transactions`. -/
def getTransactions (allTransactions : List PeerTransaction) (limit offset : Nat) :
    List TransactionListItem :=
  listTransactions allTransactions (pageLimit limit) offset

/-- A scan yields the rows of the table in the order of their keys. -/
structure TxStore.Scan (store : TxStore) (rows : List PeerTransaction) : Prop where
  listing : Listing PeerTransaction.reqId rows store.transactions
  ordered : rows.Pairwise fun a b => a.reqId < b.reqId

/-! ## Entries -/

/-- What enters a row: a report of this peer, or a view of the lobby. -/
inductive StoreEntry where
  | reported (now : Nat) (reqId : String) (role : ExchangeRole) (peerId remotePeerId model : String)
      (usage : TokenUsage)
  | viewed (now : Nat) (view : TransactionView) (localPeerId : String)

def TxStore.enter (store : TxStore) : StoreEntry → TxStore
  | .reported now reqId role peerId remotePeerId model usage =>
    store.recordLocalReport now reqId role peerId remotePeerId model usage
  | .viewed now view localPeerId => store.upsertFromLobby now view localPeerId

/-- The store before the `i`-th page is read, where batches of entries come in between. -/
def TxStore.beforePage (store : TxStore) (batches : Nat → List StoreEntry) : Nat → TxStore
  | 0 => store
  | i + 1 => (batches i).foldl TxStore.enter (store.beforePage batches i)

variable {store : TxStore} {rows rows' : List PeerTransaction}

/-- The row was reported later, or at the same time and comes earlier in the table. -/
def Newer (a b : PeerTransaction) : Prop :=
  b.reportedAtUnix < a.reportedAtUnix ∨ a.reportedAtUnix = b.reportedAtUnix ∧ a.reqId < b.reqId

instance : DecidableRel Newer := fun _ _ => inferInstanceAs (Decidable (_ ∨ _))

theorem Newer.asymm (a b : PeerTransaction) (newer : Newer a b) : ¬ Newer b a := by
  rintro (later | ⟨same, key⟩)
  · obtain later' | ⟨same', -⟩ := newer <;> omega
  · obtain later' | ⟨-, key'⟩ := newer
    · omega
    · exact String.lt_asymm key key'

theorem TxStore.Scan.newer (scan : store.Scan rows) : (newestFirst rows).Pairwise Newer := by
  refine (pairwise_mergeSort_stable ?_ ?_ scan.ordered).imp ?_
  · intro a b c first second
    simp only [decide_eq_true_eq] at first second ⊢
    omega
  · intro a b
    simp only [Bool.or_eq_true, decide_eq_true_eq]
    omega
  · intro a b both
    simp only [decide_eq_true_eq] at both
    by_cases tied : a.reportedAtUnix = b.reportedAtUnix
    · exact .inr ⟨tied, both.2 (Nat.le_of_eq tied)⟩
    · exact .inl (by omega)

/-! ## What entries leave of a row -/

/-- A row stays under its id, and keeps the time of its report unless that is 0. -/
def StaysReported (store store' : TxStore) : Prop :=
  ∀ reqId tx, store.transactions reqId = some tx → ∃ tx', store'.transactions reqId = some tx' ∧
    (tx.reportedAtUnix ≠ 0 → tx'.reportedAtUnix = tx.reportedAtUnix)

theorem StaysReported.refl (store : TxStore) : StaysReported store store :=
  fun _ tx found => ⟨tx, found, fun _ => rfl⟩

theorem StaysReported.trans {store' store'' : TxStore} (first : StaysReported store store')
    (second : StaysReported store' store'') : StaysReported store store'' := by
  intro reqId tx found
  obtain ⟨tx', found', same⟩ := first reqId tx found
  obtain ⟨tx'', found'', same'⟩ := second reqId tx' found'
  refine ⟨tx'', found'', fun timed => ?_⟩
  rw [same' (by rwa [same timed]), same timed]

/-- Writing a row under the id of the one it is made of. -/
theorem staysReported_write {tx : PeerTransaction} (now : Nat)
    (kept : ∀ old, store.transactions tx.reqId = some old → old.reportedAtUnix ≠ 0 →
      tx.reportedAtUnix = old.reportedAtUnix) : StaysReported store (store.write now tx) := by
  intro reqId old found
  rw [write_transactions]
  by_cases same : reqId = tx.reqId
  · rw [same, update_self]
    exact ⟨tx, rfl, kept old (same ▸ found)⟩
  · rw [update_of_ne same]
    exact ⟨old, found, fun _ => rfl⟩

theorem staysReported_enter (keyed : store.Keyed) (entry : StoreEntry) :
    StaysReported store (store.enter entry) ∧ (store.enter entry).Keyed := by
  cases entry with
  | reported now reqId role peerId remotePeerId model usage =>
    refine ⟨staysReported_write now fun old found timed => ?_, keyed.write now⟩
    rw [reportedRow_reqId keyed] at found
    rw [reportedRow, found]
    exact if_neg timed
  | viewed now view localPeerId =>
    rw [TxStore.enter, TxStore.upsertFromLobby]
    split
    · exact ⟨.refl store, keyed⟩
    · refine ⟨staysReported_write now fun old found timed => ?_, keyed.write now⟩
      rw [viewedRow_reqId keyed] at found
      rw [viewedRow, found]
      exact if_neg timed

theorem staysReported_entries (keyed : store.Keyed) (entries : List StoreEntry) :
    StaysReported store (entries.foldl TxStore.enter store) ∧
      (entries.foldl TxStore.enter store).Keyed := by
  induction entries generalizing store with
  | nil => exact ⟨.refl store, keyed⟩
  | cons entry rest ih =>
    obtain ⟨first, keyed'⟩ := staysReported_enter keyed entry
    obtain ⟨others, keyed''⟩ := ih keyed'
    exact ⟨first.trans others, keyed''⟩

/-! ## Positions -/

theorem TxStore.Scan.distinct (scan : store.Scan rows) :
    ((newestFirst rows).map PeerTransaction.reqId).Nodup :=
  ((List.mergeSort_perm rows _).map _).nodup_iff.mpr scan.listing.distinct

theorem TxStore.Scan.mem {reqId : String} {tx : PeerTransaction} (scan : store.Scan rows) :
    store.transactions reqId = some tx ↔ tx ∈ newestFirst rows ∧ tx.reqId = reqId := by
  rw [newestFirst, List.mem_mergeSort]
  exact scan.listing.entries reqId tx

/-- Entries do not move a row with a time towards the start of the list. -/
theorem position_mono {store' : TxStore} (stays : StaysReported store store') (keyed : store.Keyed)
    (keyed' : store'.Keyed) (scan : store.Scan rows) (scan' : store'.Scan rows') {reqId : String}
    {tx : PeerTransaction} (found : store.transactions reqId = some tx) (timed : tx.reportedAtUnix ≠ 0) :
    ((newestFirst rows).map PeerTransaction.reqId).idxOf reqId ≤
      ((newestFirst rows').map PeerTransaction.reqId).idxOf reqId := by
  obtain ⟨tx', found', same⟩ := stays reqId tx found
  have same := same timed
  have id := keyed reqId tx found
  have id' := keyed' reqId tx' found'
  have here := idxOf_eq_countP scan.newer Newer.asymm scan.distinct (scan.mem.mp found).1
  have there := idxOf_eq_countP scan'.newer Newer.asymm scan'.distinct (scan'.mem.mp found').1
  rw [id] at here
  rw [id'] at there
  rw [here, there]
  apply countP_le_of_key scan.distinct
  intro other member newer
  have newer : Newer other tx := of_decide_eq_true newer
  obtain ⟨other', held, same'⟩ := stays other.reqId other (scan.mem.mpr ⟨member, rfl⟩)
  have timed' : other.reportedAtUnix ≠ 0 := by
    obtain later | ⟨tied, -⟩ := newer <;> omega
  refine ⟨other', (scan'.mem.mp held).1, keyed' other.reqId other' held, decide_eq_true ?_⟩
  rw [Newer, same' timed', same, keyed' _ _ held, id', ← id]
  exact newer

private def pagedUsage : TokenUsage := ⟨1, 2, 3⟩

private def pagedRow (reqId : String) (now : Nat) : PeerTransaction :=
  reportedRow none now reqId .consumer "me" "you" "llama3" pagedUsage

private def pagedStore : TxStore := TxStore.empty.write 5 (pagedRow "me:1" 5)

private def pagedBatches (i : Nat) : List StoreEntry :=
  if i = 0 then [.reported 9 "me:2" .consumer "me" "you" "llama3" pagedUsage] else []

private theorem pagedStore_listing : Listing PeerTransaction.reqId [pagedRow "me:1" 5] pagedStore.transactions := by
  rw [pagedStore, write_transactions]
  exact listing_nil.push (by simp)

private theorem beforePage_pagedStore (i : Nat) :
    (pagedStore.beforePage pagedBatches (i + 1)).transactions =
      update pagedStore.transactions "me:2" (some (pagedRow "me:2" 9)) := by
  induction i with
  | zero =>
    have fresh : (pagedStore.beforePage pagedBatches 0).transactions "me:2" = none := by
      rw [TxStore.beforePage, pagedStore, write_transactions]
      rfl
    change ((pagedStore.write 9 _).transactions) = _
    rw [write_transactions, fresh]
    rfl
  | succ i ih => exact ih

private def pagedRows (i : Nat) : List PeerTransaction :=
  match i with
  | 0 => [pagedRow "me:1" 5]
  | _ + 1 => [pagedRow "me:1" 5, pagedRow "me:2" 9]

end MtrxPeer
