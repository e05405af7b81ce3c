import MtrxPeer.PeerPolicy

/-! The rows of exchanges that a peer stores: one under each request id. Reports of this
peer and views of the lobby are entered into the same rows, and the ids are numbered from
one again in each process, or chosen by the peer that is served. -/
namespace MtrxPeer

open Function (update update_of_ne update_self)

/-! ## Rows -/

inductive ExchangeRole where
  | consumer
  | provider
  deriving DecidableEq

structure PeerTransaction where
  reqId : String
  consumerPeerId : String
  providerPeerId : String
  model : String
  counterpartyPeerId : String
  status : String
  reportedAtUnix : Nat
  role : ExchangeRole
  promptTokens : Nat
  completionTokens : Nat
  totalTokens : Nat
  consumerCreditDelta : Int
  providerCreditDelta : Int
  localCreditDelta : Int
  sameService : Bool
  settledAtUnix : Nat

structure PeerRecord where
  peerId : String
  firstSeenUnix : Nat
  lastSeenUnix : Nat

/-- An exchange as the lobby has it. -/
structure TransactionView where
  reqId : String
  consumerPeerId : Option String
  providerPeerId : Option String
  model : Option String
  totalTokens : Option Int
  sameService : Option Bool
  consumerCreditDelta : Option Int
  providerCreditDelta : Option Int
  status : String
  settledAt : Option Int

structure TokenUsage where
  promptTokens : Nat
  completionTokens : Nat
  totalTokens : Nat
  deriving DecidableEq, Repr

/-- The tables of the store that exchanges are entered into, by their keys. -/
structure TxStore where
  transactions : String → Option PeerTransaction
  peers : String → Option PeerRecord

namespace TxStore

def empty : TxStore := ⟨fun _ => none, fun _ => none⟩

/-- `upsert_peer`. -/
def upsertPeer (store : TxStore) (peerId : String) (ts : Nat) : TxStore :=
  if peerId = "" then store
  else
    let record : PeerRecord := match store.peers peerId with
      | some record => { record with lastSeenUnix := ts }
      | none => ⟨peerId, ts, ts⟩
    { store with peers := update store.peers peerId (some record) }

/-- `upsert_transaction`. -/
def upsertTransaction (store : TxStore) (tx : PeerTransaction) : TxStore :=
  { store with transactions := update store.transactions tx.reqId (some tx) }

/-- A row written with the rows of its parties. -/
def write (store : TxStore) (now : Nat) (tx : PeerTransaction) : TxStore :=
  ((store.upsertPeer tx.consumerPeerId now).upsertPeer tx.providerPeerId now).upsertTransaction tx

end TxStore

/-- The row that a report makes of the one there is. The parties of a row that exists are
kept. -/
def reportedRow (row : Option PeerTransaction) (now : Nat) (reqId : String) (role : ExchangeRole)
    (peerId remotePeerId model : String) (usage : TokenUsage) : PeerTransaction :=
  let parties := if role = .consumer then (peerId, remotePeerId) else (remotePeerId, peerId)
  let tx := row.getD
    { reqId, consumerPeerId := parties.1, providerPeerId := parties.2, model
      counterpartyPeerId := remotePeerId, status := "pending", reportedAtUnix := now, role
      promptTokens := usage.promptTokens, completionTokens := usage.completionTokens
      totalTokens := usage.totalTokens, consumerCreditDelta := 0, providerCreditDelta := 0
      localCreditDelta := 0, sameService := false, settledAtUnix := 0 }
  { tx with
    reportedAtUnix := if tx.reportedAtUnix = 0 then now else tx.reportedAtUnix
    role, counterpartyPeerId := remotePeerId, model
    promptTokens := usage.promptTokens, completionTokens := usage.completionTokens
    totalTokens := usage.totalTokens
    status := if tx.status = "" then "pending" else tx.status }

/-- `record_local_report`. -/
def TxStore.recordLocalReport (store : TxStore) (now : Nat) (reqId : String) (role : ExchangeRole)
    (peerId remotePeerId model : String) (usage : TokenUsage) : TxStore :=
  store.write now
    (reportedRow (store.transactions reqId) now reqId role peerId remotePeerId model usage)

/-- The row that the lobby's view makes of the one there is. -/
def viewedRow (row : Option PeerTransaction) (now : Nat) (view : TransactionView)
    (localPeerId : String) : PeerTransaction :=
  let consumer := view.consumerPeerId.getD ""
  let provider := view.providerPeerId.getD ""
  let role := if localPeerId = consumer then ExchangeRole.consumer else .provider
  let counterparty := if localPeerId = consumer then provider else consumer
  let consumerDelta := view.consumerCreditDelta.getD 0
  let providerDelta := view.providerCreditDelta.getD 0
  let localCreditDelta := if localPeerId = consumer then consumerDelta else providerDelta
  let settledAtUnix := (view.settledAt.map fun at_ => (max at_ 0).toNat).getD 0
  let tx := row.getD
    { reqId := view.reqId, consumerPeerId := consumer, providerPeerId := provider
      model := view.model.getD "", counterpartyPeerId := counterparty, status := view.status
      reportedAtUnix := max settledAtUnix now, role, promptTokens := 0, completionTokens := 0
      totalTokens := (max (view.totalTokens.getD 0) 0).toNat
      consumerCreditDelta := consumerDelta, providerCreditDelta := providerDelta, localCreditDelta
      sameService := view.sameService.getD false, settledAtUnix }
  { tx with
    consumerPeerId := consumer, providerPeerId := provider, counterpartyPeerId := counterparty
    model := view.model.getD tx.model
    totalTokens := (view.totalTokens.map fun total => (max total 0).toNat).getD tx.totalTokens
    status := view.status, sameService := view.sameService.getD false
    consumerCreditDelta := consumerDelta, providerCreditDelta := providerDelta, localCreditDelta
    role, settledAtUnix
    reportedAtUnix := if tx.reportedAtUnix = 0 then max settledAtUnix now else tx.reportedAtUnix }

/-- `upsert_from_lobby`, for an exchange that the peer took part in. -/
def TxStore.upsertFromLobby (store : TxStore) (now : Nat) (view : TransactionView)
    (localPeerId : String) : TxStore :=
  if localPeerId ≠ view.consumerPeerId.getD "" ∧ localPeerId ≠ view.providerPeerId.getD "" then store
  else store.write now (viewedRow (store.transactions view.reqId) now view localPeerId)

/-! ## Exchanges of a peer -/

/-- An exchange that this peer asked for. -/
structure AskedExchange where
  remotePeerId : String
  model : String

/-- The store, which outlives the process, and of the process the number of the next
request and the exchanges under way. -/
structure AccountingState where
  store : TxStore
  nextReqId : Nat
  activeExchanges : String → Option AskedExchange
  /-- The ids of the exchanges that were recorded so far, the newest first. -/
  recorded : List String

inductive AccountingEvent where
  /-- A request of any of the clusters is numbered and put to a peer. -/
  | asked (remotePeerId model : String)
  /-- A number is given to something else. -/
  | numbered
  | answered (reqId : String) (usage : TokenUsage) (now : Nat)
  /-- A request of another peer was served. Its id is the other peer's choice. -/
  | served (reqId remotePeerId model : String) (usage : TokenUsage) (now : Nat)
  | lobbyView (view : TransactionView) (now : Nat)
  /-- The process ends, and another one begins. -/
  | restarted

variable (me : String)

/-- `next_proxy_req_id`. -/
def nextProxyReqId (s : AccountingState) : String := me ++ ":" ++ toString s.nextReqId

def accountingStep (s : AccountingState) : AccountingEvent → AccountingState
  | .asked remotePeerId model =>
    { s with
      nextReqId := s.nextReqId + 1
      activeExchanges := update s.activeExchanges (nextProxyReqId me s) (some ⟨remotePeerId, model⟩) }
  | .numbered => { s with nextReqId := s.nextReqId + 1 }
  | .answered reqId usage now =>
    match s.activeExchanges reqId with
    | none => s
    | some meta_ => { s with
        store := s.store.recordLocalReport now reqId .consumer me meta_.remotePeerId meta_.model usage
        activeExchanges := update s.activeExchanges reqId none
        recorded := reqId :: s.recorded }
  | .served reqId remotePeerId model usage now =>
    { s with
      store := s.store.recordLocalReport now reqId .provider me remotePeerId model usage
      recorded := reqId :: s.recorded }
  | .lobbyView view now => { s with store := s.store.upsertFromLobby now view me }
  | .restarted => { s with nextReqId := 1, activeExchanges := fun _ => none }

def accountingMachine : Machine AccountingState AccountingEvent Unit where
  step s e := (accountingStep me s e, [])

def AccountingState.initial : AccountingState := ⟨.empty, 1, fun _ => none, []⟩

/-! ## What is asked of the rows -/

/-- The peer is a party of the row, the consumer exactly in that role, and the counterparty
is the other one. -/
structure PeerTransaction.Consistent (tx : PeerTransaction) : Prop where
  role : tx.consumerPeerId = me ↔ tx.role = .consumer
  other : tx.consumerPeerId = me ∧ tx.counterpartyPeerId = tx.providerPeerId ∨
    tx.providerPeerId = me ∧ tx.counterpartyPeerId = tx.consumerPeerId

/-- Where the lobby has made the row of an exchange, it says who took part. -/
def PartiesAgree (store : TxStore) (reqId consumer provider : String) : Prop :=
  ∀ tx, store.transactions reqId = some tx → tx.consumerPeerId = consumer ∧ tx.providerPeerId = provider

/-- The process does not restart after it has given a number; a peer that is served has
another name than this one, and an id of its own that is not of this peer's form. -/
def KeepsKeys (s : AccountingState) : AccountingEvent → Prop
  | .answered reqId _ _ => ∀ meta_, s.activeExchanges reqId = some meta_ →
    PartiesAgree s.store reqId me meta_.remotePeerId
  | .served reqId remotePeerId _ _ _ => remotePeerId ≠ me ∧ reqId ∉ s.recorded ∧
    (∀ n : Nat, reqId ≠ me ++ ":" ++ toString n) ∧ PartiesAgree s.store reqId remotePeerId me
  | .restarted => s.nextReqId = 1
  | _ => True

/-- The exchange that an event records. -/
def AccountingEvent.records (s : AccountingState) : AccountingEvent → Option String
  | .answered reqId _ _ => (s.activeExchanges reqId).map fun _ => reqId
  | .served reqId _ _ _ _ => some reqId
  | _ => none

variable {me}

/-! ## One report -/

section Report

variable {store : TxStore} {now : Nat} {reqId other peerId remotePeerId model localPeerId : String}
  {role : ExchangeRole} {usage : TokenUsage} {view : TransactionView} {tx : PeerTransaction}

/-- Every row is under its own id. -/
def TxStore.Keyed (store : TxStore) : Prop :=
  ∀ reqId tx, store.transactions reqId = some tx → tx.reqId = reqId

@[simp] theorem upsertPeer_transactions (ts : Nat) :
    (store.upsertPeer peerId ts).transactions = store.transactions := by
  unfold TxStore.upsertPeer
  split <;> rfl

theorem write_transactions (ts : Nat) :
    (store.write ts tx).transactions = update store.transactions tx.reqId (some tx) := by
  simp only [TxStore.write, TxStore.upsertTransaction, upsertPeer_transactions]

theorem TxStore.Keyed.write (keyed : store.Keyed) (ts : Nat) : (store.write ts tx).Keyed := by
  intro reqId row found
  rw [write_transactions] at found
  by_cases same : reqId = tx.reqId
  · rw [same, update_self] at found
    obtain rfl := Option.some.inj found
    exact same.symm
  · rw [update_of_ne same] at found
    exact keyed reqId row found

theorem reportedRow_reqId (keyed : store.Keyed) :
    (reportedRow (store.transactions reqId) now reqId role peerId remotePeerId model usage).reqId =
      reqId := by
  cases found : store.transactions reqId with
  | none => rfl
  | some row => exact keyed reqId row found

theorem viewedRow_reqId (keyed : store.Keyed) :
    (viewedRow (store.transactions view.reqId) now view localPeerId).reqId = view.reqId := by
  cases found : store.transactions view.reqId with
  | none => rfl
  | some row => exact keyed view.reqId row found

/-- The row of the lobby's view is right, whatever was there. -/
theorem viewedRow_consistent {row : Option PeerTransaction}
    (party : ¬ (me ≠ view.consumerPeerId.getD "" ∧ me ≠ view.providerPeerId.getD "")) :
    (viewedRow row now view me).Consistent me := by
  by_cases consumer : me = view.consumerPeerId.getD ""
  · refine ⟨?_, .inl ?_⟩
    · simp [viewedRow, ← consumer]
    · simp [viewedRow, ← consumer]
  · have provider : me = view.providerPeerId.getD "" := by
      by_contra neither
      exact party ⟨consumer, neither⟩
    refine ⟨?_, .inr ?_⟩
    · simp [viewedRow, consumer, Ne.symm consumer]
    · simp [viewedRow, consumer, ← provider]

/-- The row of a report is right if the row that was there agrees on the parties. -/
theorem reportedRow_consumer (agrees : PartiesAgree store reqId me remotePeerId) :
    (reportedRow (store.transactions reqId) now reqId .consumer me remotePeerId model
      usage).Consistent me := by
  cases found : store.transactions reqId with
  | none => exact ⟨by simp [reportedRow], .inl ⟨rfl, rfl⟩⟩
  | some row =>
    obtain ⟨consumer, provider⟩ := agrees row found
    exact ⟨by simp [reportedRow, consumer], .inl ⟨consumer, provider.symm⟩⟩

theorem reportedRow_provider (agrees : PartiesAgree store reqId remotePeerId me)
    (apart : remotePeerId ≠ me) :
    (reportedRow (store.transactions reqId) now reqId .provider me remotePeerId model
      usage).Consistent me := by
  cases found : store.transactions reqId with
  | none => exact ⟨by simp [reportedRow, apart], .inr ⟨rfl, rfl⟩⟩
  | some row =>
    obtain ⟨consumer, provider⟩ := agrees row found
    exact ⟨by simp [reportedRow, consumer, apart], .inr ⟨provider, consumer.symm⟩⟩

/-- Every row is right. -/
def TxStore.Consistent (me : String) (store : TxStore) : Prop :=
  ∀ reqId tx, store.transactions reqId = some tx → tx.Consistent me

theorem TxStore.Consistent.write (consistent : store.Consistent me) (right : tx.Consistent me)
    (ts : Nat) : (store.write ts tx).Consistent me := by
  intro reqId row found
  rw [write_transactions] at found
  by_cases same : reqId = tx.reqId
  · rw [same, update_self] at found
    obtain rfl := Option.some.inj found
    exact right
  · rw [update_of_ne same] at found
    exact consistent reqId row found

theorem upsertFromLobby_keyed (keyed : store.Keyed) :
    (store.upsertFromLobby now view localPeerId).Keyed := by
  unfold TxStore.upsertFromLobby
  split
  · exact keyed
  · exact keyed.write now

theorem upsertFromLobby_consistent (consistent : store.Consistent me) :
    (store.upsertFromLobby now view me).Consistent me := by
  unfold TxStore.upsertFromLobby
  split
  · exact consistent
  · rename_i party
    exact consistent.write (viewedRow_consistent party) now

/-- A report leaves the rows of other ids. -/
theorem recordLocalReport_other (keyed : store.Keyed) (differs : other ≠ reqId) :
    (store.recordLocalReport now reqId role peerId remotePeerId model usage).transactions other =
      store.transactions other := by
  rw [TxStore.recordLocalReport, write_transactions, reportedRow_reqId keyed, update_of_ne differs]

end Report

/-! ## Runs -/

section Runs

variable {s : AccountingState} {e : AccountingEvent} {past : List (Record AccountingState AccountingEvent Unit)}

/-- What a run keeps: the rows are right, ids were recorded once, and the numbers of this
process are beyond those that were recorded or are under way. -/
structure AccountingState.Kept (me : String) (s : AccountingState) : Prop where
  keyed : s.store.Keyed
  consistent : s.store.Consistent me
  distinct : s.recorded.Nodup
  ahead : ∀ n, me ++ ":" ++ toString n ∈ s.recorded → n < s.nextReqId
  active : ∀ reqId meta_, s.activeExchanges reqId = some meta_ →
    reqId ∉ s.recorded ∧ ∃ n < s.nextReqId, reqId = me ++ ":" ++ toString n

theorem accountingState_kept_initial : AccountingState.initial.Kept me where
  keyed _ _ found := by cases found
  consistent _ _ found := by cases found
  distinct := List.nodup_nil
  ahead _ member := by cases member
  active _ _ found := by cases found

theorem accountingStep_kept (kept : s.Kept me) (keeps : KeepsKeys me s e) :
    (accountingStep me s e).Kept me := by
  obtain ⟨keyed, consistent, distinct, ahead, active⟩ := kept
  have later {n : Nat} (below : n < s.nextReqId) : n < s.nextReqId + 1 := Nat.lt_succ_of_lt below
  cases e with
  | asked remotePeerId model =>
    refine ⟨keyed, consistent, distinct, fun n member => later (ahead n member), ?_⟩
    intro reqId meta_ found
    by_cases new : reqId = nextProxyReqId me s
    · refine ⟨fun member => ?_, s.nextReqId, Nat.lt_succ_self _, new⟩
      rw [new] at member
      exact absurd (ahead _ member) (Nat.lt_irrefl _)
    · obtain ⟨fresh, n, below, named⟩ := active reqId meta_ ((update_of_ne new ..).symm.trans found)
      exact ⟨fresh, n, later below, named⟩
  | numbered =>
    refine ⟨keyed, consistent, distinct, fun n member => later (ahead n member), ?_⟩
    intro reqId meta_ found
    obtain ⟨fresh, n, below, named⟩ := active reqId meta_ found
    exact ⟨fresh, n, later below, named⟩
  | answered reqId usage now =>
    simp only [accountingStep]
    split
    · exact ⟨keyed, consistent, distinct, ahead, active⟩
    · rename_i meta_ found
      obtain ⟨fresh, n, below, named⟩ := active reqId meta_ found
      refine ⟨keyed.write now, consistent.write (reportedRow_consumer (keeps meta_ found)) now,
        List.nodup_cons.mpr ⟨fresh, distinct⟩, ?_, ?_⟩
      · intro k member
        rcases List.mem_cons.mp member with new | older
        · rw [numbered_inj (new.trans named)]
          exact below
        · exact ahead k older
      · intro other meta' found'
        by_cases same : other = reqId
        · simp [same] at found'
        · obtain ⟨fresh', numbered⟩ := active other meta' ((update_of_ne same ..).symm.trans found')
          exact ⟨List.not_mem_cons_of_ne_of_not_mem (same) fresh', numbered⟩
  | served reqId remotePeerId model usage now =>
    obtain ⟨apart, fresh, foreign, agrees⟩ := keeps
    refine ⟨keyed.write now, consistent.write (reportedRow_provider agrees apart) now,
      List.nodup_cons.mpr ⟨fresh, distinct⟩, ?_, ?_⟩
    · intro n member
      rcases List.mem_cons.mp member with new | older
      · exact absurd new.symm (foreign n)
      · exact ahead n older
    · intro other meta_ found
      obtain ⟨fresh', n, below, named⟩ := active other meta_ found
      refine ⟨List.not_mem_cons_of_ne_of_not_mem (fun same => foreign n (same.symm.trans named)) fresh', n, below,
        named⟩
  | lobbyView view now =>
    exact ⟨upsertFromLobby_keyed keyed, upsertFromLobby_consistent consistent, distinct, ahead, active⟩
  | restarted =>
    have first : s.nextReqId = 1 := keeps
    refine ⟨keyed, consistent, distinct, fun n member => (ahead n member).trans_eq first, ?_⟩
    intro reqId meta_ found
    cases found

/-- Recording an exchange leaves the rows of those that were recorded before. -/
theorem accountingStep_others {reqId other : String} (kept : s.Kept me) (keeps : KeepsKeys me s e)
    (records : e.records s = some reqId) (older : other ∈ s.recorded) :
    (accountingStep me s e).store.transactions other = s.store.transactions other := by
  cases e with
  | answered reqId' usage now =>
    simp only [accountingStep]
    split
    · rfl
    · rename_i meta_ found
      have fresh := (kept.active reqId' meta_ found).1
      exact recordLocalReport_other kept.keyed fun same => fresh (same ▸ older)
  | served reqId' remotePeerId model usage now =>
    exact recordLocalReport_other kept.keyed fun same => keeps.2.1 (same ▸ older)
  | _ => cases records

/-- In a run in which the numbering does not begin anew and the peers that are served give
ids of their own, no two exchanges are recorded under one id, none changes the row of
another, and every row says what part this peer had and who had the other. -/
theorem rows_distinct_consistent
    (ran : (accountingMachine me).Reaches .initial past s)
    (keeps : ∀ r ∈ past, KeepsKeys me r.before r.event) :
    s.recorded.Nodup ∧
      (∀ r ∈ past, ∀ reqId other, r.event.records r.before = some reqId → other ∈ r.before.recorded →
        (accountingStep me r.before r.event).store.transactions other =
          r.before.store.transactions other) ∧
      ∀ reqId tx, s.store.transactions reqId = some tx → tx.Consistent me := by
  have kept : s.Kept me ∧ ∀ r ∈ past, r.before.Kept me := by
    refine ran.invariant (fun past s => s.Kept me ∧ ∀ r ∈ past, r.before.Kept me)
      (fun r => KeepsKeys me r.before r.event) ⟨accountingState_kept_initial, by simp⟩
      (fun past s e kept keeps => ⟨accountingStep_kept kept.1 keeps, ?_⟩) keeps
    intro r member
    rcases List.mem_cons.mp member with rfl | older
    · exact kept.1
    · exact kept.2 r older
  refine ⟨kept.1.distinct, fun r member reqId other records older => ?_, kept.1.consistent⟩
  exact accountingStep_others (kept.2 r member) (keeps r member) records older

end Runs

private def sampleUsage : TokenUsage := ⟨5, 15, 20⟩

private def sampleAccounts (events : List AccountingEvent) : AccountingState :=
  ((accountingMachine "me").history .initial events).2

/-- A request that is answered, and one that is served. -/
theorem rows_distinct_consistent_sample :
    (sampleAccounts [.asked "a" "llama3", .answered "me:1" sampleUsage 10,
      .served "b:1" "b" "llama3" sampleUsage 20]).recorded.Nodup := by
  refine (@rows_distinct_consistent "me" _ _ (Machine.reaches_history _ _ _) ?_).1
  refine List.forall_mem_cons.mpr ⟨⟨by decide, by decide, fun n same => ?_, ?_⟩,
    List.forall_mem_cons.mpr ⟨fun meta_ _ tx found => ?_, List.forall_mem_cons.mpr ⟨trivial, by simp⟩⟩⟩
  · have first := congrArg (fun text => text.toList.head?) same
    simp at first
  · rintro tx ⟨⟩
  · cases found

/-- The process starts again, and the next exchange is merged into the row of the first. -/
theorem restarted_exchange_merged :
    ∃ past s, (accountingMachine "me").Reaches .initial past s ∧ ¬ s.recorded.Nodup ∧
      ∃ tx, s.store.transactions "me:1" = some tx ∧ ¬ tx.Consistent "me" := by
  let events : List AccountingEvent := [.asked "a" "llama3", .answered "me:1" sampleUsage 10,
    .restarted, .asked "b" "llama3", .answered "me:1" sampleUsage 20]
  refine ⟨_, sampleAccounts events, Machine.reaches_history _ _ _, by decide, _, rfl, ?_⟩
  rintro ⟨-, other⟩
  revert other
  decide

end MtrxPeer
