import Mathlib.Data.List.Induction
import MtrxPeer.TransactionRows

/-! The row of one exchange, into which this peer's own report and the lobby's view of it
are entered, in any order and any number of times. -/
namespace MtrxPeer

/-! ## Arrivals -/

/-- What this peer reports of an exchange, and how the lobby sees it. -/
structure SettledExchange where
  role : ExchangeRole
  remotePeerId : String
  model : String
  usage : TokenUsage
  view : TransactionView

inductive RowArrival where
  | reported
  | viewed
  deriving DecidableEq

variable (me : String) (x : SettledExchange)

def enterArrival (store : TxStore) (arrival : RowArrival × Nat) : TxStore :=
  match arrival.1 with
  | .reported =>
    store.recordLocalReport arrival.2 x.view.reqId x.role me x.remotePeerId x.model x.usage
  | .viewed => store.upsertFromLobby arrival.2 x.view me

/-- The row of the exchange after a number of arrivals, each with its time. -/
def rowAfter (store : TxStore) (arrivals : List (RowArrival × Nat)) : Option PeerTransaction :=
  (arrivals.foldl (enterArrival me x) store).transactions x.view.reqId

/-! ## What is asked of the row -/

/-- The lobby has this peer as one of the two parties. -/
def TakesPart : Prop := me = x.view.consumerPeerId.getD "" ∨ me = x.view.providerPeerId.getD ""

instance : Decidable (TakesPart me x) := inferInstanceAs (Decidable (_ ∨ _))

/-- Both the report and the view arrive. -/
def BothArrive (arrivals : List (RowArrival × Nat)) : Prop :=
  .reported ∈ arrivals.map Prod.fst ∧ .viewed ∈ arrivals.map Prod.fst

/-- The row but for the time at which it was entered first. -/
def untimed (tx : PeerTransaction) : PeerTransaction := { tx with reportedAtUnix := 0 }

/-- The order of arrival and repetitions do not matter to the row. -/
def ArrivalsCommute (store : TxStore) : Prop :=
  ∀ a b, BothArrive a → BothArrive b →
    (rowAfter me x store a).map untimed = (rowAfter me x store b).map untimed

/-- What the lobby has settled of a row is not changed by a report that comes later. -/
def KeepsSettlement (store : TxStore) : Prop :=
  TakesPart me x → ∀ before viewedAt reportedAt settled later,
    rowAfter me x store (before ++ [(.viewed, viewedAt)]) = some settled →
    rowAfter me x store (before ++ [(.viewed, viewedAt), (.reported, reportedAt)]) = some later →
      later.role = settled.role ∧ later.counterpartyPeerId = settled.counterpartyPeerId ∧
        later.status = settled.status ∧ (x.view.model ≠ none → later.model = settled.model) ∧
        (x.view.totalTokens ≠ none → later.totalTokens = settled.totalTokens)

/-- The lobby's view says nothing else than the report does, and has a status. -/
structure ViewAgrees : Prop where
  role : x.role = if me = x.view.consumerPeerId.getD "" then .consumer else .provider
  counterparty : x.remotePeerId =
    if me = x.view.consumerPeerId.getD "" then x.view.providerPeerId.getD ""
    else x.view.consumerPeerId.getD ""
  model : ∀ model, x.view.model = some model → model = x.model
  tokens : ∀ total, x.view.totalTokens = some total → (max total 0).toNat = x.usage.totalTokens
  status : x.view.status ≠ ""

/-- The time of the settlement, as it is stored. -/
def settledTime (view : TransactionView) : Nat := (view.settledAt.map fun at_ => (max at_ 0).toNat).getD 0

/-- The time of the first entry does not depend on what arrives first: it is known, or the
settlement is not ahead of the clock. -/
def FirstEntryAgrees (store : TxStore) (now : Nat) : Prop :=
  (∃ row, store.transactions x.view.reqId = some row ∧ row.reportedAtUnix ≠ 0) ∨ now = 0 ∨
    settledTime x.view ≤ now

/-- Neither does the time of the first entry, when all arrives at one time. -/
def EntryTimeCommutes (store : TxStore) (now : Nat) : Prop :=
  ∀ a b : List RowArrival, BothArrive (a.map (·, now)) → BothArrive (b.map (·, now)) →
    (rowAfter me x store (a.map (·, now))).map PeerTransaction.reportedAtUnix =
      (rowAfter me x store (b.map (·, now))).map PeerTransaction.reportedAtUnix

variable {me x}

/-! ## The row alone -/

section Row

variable {store : TxStore} {row : Option PeerTransaction} {tx : PeerTransaction}

/-- An arrival, as the row of the exchange sees it. -/
def arriveRow (me : String) (x : SettledExchange) (row : Option PeerTransaction)
    (arrival : RowArrival × Nat) : Option PeerTransaction :=
  match arrival.1 with
  | .reported =>
    some (reportedRow row arrival.2 x.view.reqId x.role me x.remotePeerId x.model x.usage)
  | .viewed => if TakesPart me x then some (viewedRow row arrival.2 x.view me) else row

private theorem arrive_keyed (keyed : store.Keyed) (arrival : RowArrival × Nat) :
    (enterArrival me x store arrival).Keyed := by
  obtain ⟨kind, time⟩ := arrival
  cases kind with
  | reported => exact keyed.write time
  | viewed => exact upsertFromLobby_keyed keyed

private theorem arrive_row (keyed : store.Keyed) (arrival : RowArrival × Nat) :
    (enterArrival me x store arrival).transactions x.view.reqId =
      arriveRow me x (store.transactions x.view.reqId) arrival := by
  obtain ⟨kind, time⟩ := arrival
  cases kind with
  | reported =>
    simp only [enterArrival, arriveRow, TxStore.recordLocalReport, write_transactions]
    rw [reportedRow_reqId keyed, Function.update_self]
  | viewed =>
    simp only [enterArrival, arriveRow, TxStore.upsertFromLobby]
    by_cases part : TakesPart me x
    · rw [if_neg (by unfold TakesPart at part; tauto), if_pos part, write_transactions,
        viewedRow_reqId keyed, Function.update_self]
    · rw [if_pos (by unfold TakesPart at part; tauto), if_neg part]

theorem rowAfter_row (keyed : store.Keyed) (arrivals : List (RowArrival × Nat)) :
    rowAfter me x store arrivals =
      arrivals.foldl (arriveRow me x) (store.transactions x.view.reqId) := by
  rw [rowAfter]
  induction arrivals generalizing store with
  | nil => rfl
  | cons arrival rest ih =>
    rw [List.foldl_cons, List.foldl_cons, ih (arrive_keyed keyed arrival), arrive_row keyed]

/-- The row is under its own id. -/
def RowKeyed (x : SettledExchange) (row : Option PeerTransaction) : Prop :=
  ∀ tx, row = some tx → tx.reqId = x.view.reqId

private theorem reportedRow_id (own : RowKeyed x row) (time : Nat) :
    (reportedRow row time x.view.reqId x.role me x.remotePeerId x.model x.usage).reqId =
      x.view.reqId := by
  cases row with
  | none => rfl
  | some tx => exact own tx rfl

private theorem viewedRow_id (own : RowKeyed x row) (time : Nat) :
    (viewedRow row time x.view me).reqId = x.view.reqId := by
  cases row with
  | none => rfl
  | some tx => exact own tx rfl

/-- What a report leaves in the row. -/
structure HasReport (x : SettledExchange) (tx : PeerTransaction) : Prop where
  role : tx.role = x.role
  counterparty : tx.counterpartyPeerId = x.remotePeerId
  model : tx.model = x.model
  prompt : tx.promptTokens = x.usage.promptTokens
  completion : tx.completionTokens = x.usage.completionTokens
  total : tx.totalTokens = x.usage.totalTokens

/-- What a view leaves in the row, whatever is reported. -/
structure HasView (me : String) (x : SettledExchange) (tx : PeerTransaction) : Prop where
  consumer : tx.consumerPeerId = x.view.consumerPeerId.getD ""
  provider : tx.providerPeerId = x.view.providerPeerId.getD ""
  status : tx.status = x.view.status
  consumerDelta : tx.consumerCreditDelta = x.view.consumerCreditDelta.getD 0
  providerDelta : tx.providerCreditDelta = x.view.providerCreditDelta.getD 0
  localDelta : tx.localCreditDelta = if me = x.view.consumerPeerId.getD "" then
    x.view.consumerCreditDelta.getD 0 else x.view.providerCreditDelta.getD 0
  same : tx.sameService = x.view.sameService.getD false
  settled : tx.settledAtUnix = settledTime x.view

private theorem reportedRow_reports (time : Nat) :
    HasReport x (reportedRow row time x.view.reqId x.role me x.remotePeerId x.model x.usage) :=
  ⟨rfl, rfl, rfl, rfl, rfl, rfl⟩

private theorem viewedRow_views (time : Nat) : HasView me x (viewedRow row time x.view me) :=
  ⟨rfl, rfl, rfl, rfl, rfl, rfl, rfl, rfl⟩

/-- A report keeps what was viewed, but for an empty status. -/
private theorem reportedRow_keeps (status : x.view.status ≠ "") (views : HasView me x tx) (time : Nat) :
    HasView me x (reportedRow (some tx) time x.view.reqId x.role me x.remotePeerId x.model x.usage) := by
  have kept : tx.status ≠ "" := views.status ▸ status
  exact ⟨views.consumer, views.provider, by
      simp only [reportedRow, Option.getD_some]
      rw [if_neg kept, views.status],
    views.consumerDelta, views.providerDelta, views.localDelta, views.same, views.settled⟩

/-- A view that agrees keeps what was reported. -/
private theorem viewedRow_keeps (agrees : ViewAgrees me x) (reports : HasReport x tx) (time : Nat) :
    HasReport x (viewedRow (some tx) time x.view me) := by
  refine ⟨agrees.role.symm, agrees.counterparty.symm, ?_, reports.prompt, reports.completion, ?_⟩
  · cases named : x.view.model with
    | none => simp [viewedRow, named, reports.model]
    | some model => simp [viewedRow, named, agrees.model model named]
  · cases counted : x.view.totalTokens with
    | none => simp [viewedRow, counted, reports.total]
    | some total => simpa [viewedRow, counted] using agrees.tokens total counted

/-- A row with a report and a view is known but for its time. -/
private theorem untimed_unique {a b : PeerTransaction} (ids : a.reqId = b.reqId)
    (reportsA : HasReport x a) (viewsA : HasView me x a) (reportsB : HasReport x b)
    (viewsB : HasView me x b) : untimed a = untimed b := by
  simp only [untimed, PeerTransaction.mk.injEq]
  exact ⟨ids, viewsA.consumer.trans viewsB.consumer.symm, viewsA.provider.trans viewsB.provider.symm,
    reportsA.model.trans reportsB.model.symm, reportsA.counterparty.trans reportsB.counterparty.symm,
    viewsA.status.trans viewsB.status.symm, trivial, reportsA.role.trans reportsB.role.symm,
    reportsA.prompt.trans reportsB.prompt.symm, reportsA.completion.trans reportsB.completion.symm,
    reportsA.total.trans reportsB.total.symm, viewsA.consumerDelta.trans viewsB.consumerDelta.symm,
    viewsA.providerDelta.trans viewsB.providerDelta.symm,
    viewsA.localDelta.trans viewsB.localDelta.symm, viewsA.same.trans viewsB.same.symm,
    viewsA.settled.trans viewsB.settled.symm⟩

/-! ## Many arrivals -/

/-- What some arrivals have left in the row. -/
structure Entered (me : String) (x : SettledExchange) (arrivals : List (RowArrival × Nat))
    (row : Option PeerTransaction) : Prop where
  own : RowKeyed x row
  reports : .reported ∈ arrivals.map Prod.fst → ∃ tx, row = some tx ∧ HasReport x tx
  views : TakesPart me x → .viewed ∈ arrivals.map Prod.fst → ∃ tx, row = some tx ∧ HasView me x tx

private theorem entered_step {arrivals : List (RowArrival × Nat)} (agrees : ViewAgrees me x)
    (entered : Entered me x arrivals row) (arrival : RowArrival × Nat) :
    Entered me x (arrivals ++ [arrival]) (arriveRow me x row arrival) := by
  obtain ⟨kind, time⟩ := arrival
  cases kind with
  | reported =>
    refine ⟨?_, fun _ => ⟨_, rfl, reportedRow_reports time⟩, ?_⟩
    · rintro tx same
      obtain rfl := Option.some.inj same
      exact reportedRow_id entered.own time
    · intro part member
      obtain ⟨tx, rfl, views⟩ := entered.views part (by simpa using member)
      exact ⟨_, rfl, reportedRow_keeps agrees.status views time⟩
  | viewed =>
    by_cases part : TakesPart me x
    · simp only [arriveRow, if_pos part]
      refine ⟨?_, ?_, fun _ _ => ⟨_, rfl, viewedRow_views time⟩⟩
      · rintro tx same
        obtain rfl := Option.some.inj same
        exact viewedRow_id entered.own time
      · intro member
        obtain ⟨tx, rfl, reports⟩ := entered.reports (by simpa using member)
        exact ⟨_, rfl, viewedRow_keeps agrees reports time⟩
    · simp only [arriveRow, if_neg part]
      refine ⟨entered.own, ?_, fun takes => absurd takes part⟩
      intro member
      exact entered.reports (by simpa using member)

theorem entered_all (agrees : ViewAgrees me x) (own : RowKeyed x row)
    (arrivals : List (RowArrival × Nat)) :
    Entered me x arrivals (arrivals.foldl (arriveRow me x) row) := by
  induction arrivals using List.reverseRecOn with
  | nil => exact ⟨own, by simp, by simp⟩
  | append_singleton arrivals arrival ih =>
    rw [List.foldl_append]
    exact entered_step agrees ih arrival

/-- A view of another's exchange is left out, and a second report adds nothing. -/
private theorem foldl_reports (apart : ¬TakesPart me x) (arrivals : List (RowArrival × Nat)) :
    (arrivals.foldl (arriveRow me x) row).map untimed =
      if .reported ∈ arrivals.map Prod.fst then
        some (untimed (reportedRow row 0 x.view.reqId x.role me x.remotePeerId x.model x.usage))
      else row.map untimed := by
  have again (before : PeerTransaction) (time : Nat) :
      untimed (reportedRow (some before) time x.view.reqId x.role me x.remotePeerId x.model x.usage) =
        untimed (reportedRow (some (untimed before)) 0 x.view.reqId x.role me x.remotePeerId x.model
          x.usage) := rfl
  have twice : untimed (reportedRow (some (untimed (reportedRow row 0 x.view.reqId x.role me
      x.remotePeerId x.model x.usage))) 0 x.view.reqId x.role me x.remotePeerId x.model x.usage) =
      untimed (reportedRow row 0 x.view.reqId x.role me x.remotePeerId x.model x.usage) := by
    simp only [untimed, reportedRow, Option.getD_some]
    split_ifs <;> simp_all
  induction arrivals using List.reverseRecOn with
  | nil => simp
  | append_singleton arrivals arrival ih =>
    obtain ⟨kind, time⟩ := arrival
    rw [List.foldl_append, List.foldl_cons, List.foldl_nil]
    cases kind with
    | viewed =>
      have same : RowArrival.reported ∈ (arrivals ++ [(RowArrival.viewed, time)]).map Prod.fst ↔
          RowArrival.reported ∈ arrivals.map Prod.fst := by simp
      rw [arriveRow, if_neg apart, ih]
      simp only [same]
    | reported =>
      rw [if_pos (by simp), arriveRow, Option.map_some]
      congr 1
      cases latest : arrivals.foldl (arriveRow me x) row with
      | none =>
        rw [latest] at ih
        split at ih
        · cases ih
        · cases row with
          | none => rfl
          | some _ => cases ih
      | some before =>
        rw [latest] at ih
        rw [again before time]
        split at ih
        · rw [Option.some.inj ih, twice]
        · cases row with
          | none => cases ih
          | some first => rw [Option.some.inj ih, ← again first 0]

end Row

/-! ## Orders of arrival -/

section Orders

variable {store : TxStore}

private theorem rowKeyed_of_keyed (keyed : store.Keyed) : RowKeyed x (store.transactions x.view.reqId) :=
  fun tx found => keyed _ tx found

private theorem commute_of_agrees (keyed : store.Keyed) (part : TakesPart me x)
    (agrees : ViewAgrees me x) : ArrivalsCommute me x store := by
  intro a b bothA bothB
  rw [rowAfter_row keyed, rowAfter_row keyed]
  have enteredA := entered_all agrees (rowKeyed_of_keyed keyed) a
  have enteredB := entered_all agrees (rowKeyed_of_keyed keyed) b
  obtain ⟨txA, foundA, reportsA⟩ := enteredA.reports bothA.1
  obtain ⟨txB, foundB, reportsB⟩ := enteredB.reports bothB.1
  obtain ⟨txA', foundA', viewsA⟩ := enteredA.views part bothA.2
  obtain ⟨txB', foundB', viewsB⟩ := enteredB.views part bothB.2
  obtain rfl := Option.some.inj (foundA.symm.trans foundA')
  obtain rfl := Option.some.inj (foundB.symm.trans foundB')
  rw [foundA, foundB, Option.map_some, Option.map_some]
  have ids : txA.reqId = txB.reqId := (enteredA.own txA foundA).trans (enteredB.own txB foundB).symm
  rw [untimed_unique ids reportsA viewsA reportsB viewsB]

private theorem commute_of_apart (keyed : store.Keyed) (apart : ¬TakesPart me x) :
    ArrivalsCommute me x store := by
  intro a b bothA bothB
  rw [rowAfter_row keyed, rowAfter_row keyed, foldl_reports apart, foldl_reports apart,
    if_pos bothA.1, if_pos bothB.1]

private theorem keeps_of_agrees (keyed : store.Keyed) (agrees : ViewAgrees me x) :
    KeepsSettlement me x store := by
  intro part before viewedAt reportedAt settled later viewed reported
  rw [rowAfter_row keyed, List.foldl_append, List.foldl_cons, List.foldl_nil, arriveRow,
    if_pos part] at viewed
  rw [rowAfter_row keyed, List.foldl_append, List.foldl_cons, List.foldl_cons, List.foldl_nil] at reported
  simp only [arriveRow, if_pos part] at reported
  obtain rfl := Option.some.inj viewed
  obtain rfl := Option.some.inj reported
  refine ⟨agrees.role, agrees.counterparty, ?_, fun names => ?_, fun counts => ?_⟩
  · simp [reportedRow, viewedRow, agrees.status]
  · obtain ⟨model, named⟩ := Option.ne_none_iff_exists'.mp names
    simp [reportedRow, viewedRow, named, agrees.model model named]
  · obtain ⟨total, counted⟩ := Option.ne_none_iff_exists'.mp counts
    simpa [reportedRow, viewedRow, counted] using (agrees.tokens total counted).symm

/-- The two orders of one report and one view tell everything. -/
private theorem agrees_of_commute (keyed : store.Keyed) (part : TakesPart me x)
    (commute : ArrivalsCommute me x store) : ViewAgrees me x := by
  have same := commute [(.reported, 0), (.viewed, 0)] [(.viewed, 0), (.reported, 0)]
    ⟨by simp, by simp⟩ ⟨by simp, by simp⟩
  rw [rowAfter_row keyed, rowAfter_row keyed] at same
  simp only [List.foldl_cons, List.foldl_nil, arriveRow, if_pos part, Option.map_some,
    Option.some.injEq, untimed, PeerTransaction.mk.injEq] at same
  obtain ⟨-, -, -, model, counterparty, status, -, role, -, -, total, -⟩ := same
  refine ⟨role.symm, counterparty.symm, fun name named => ?_, fun count counted => ?_, fun empty => ?_⟩
  · simpa [viewedRow, reportedRow, named] using model
  · simpa [viewedRow, reportedRow, counted] using total
  · simp [viewedRow, reportedRow, empty] at status

/-- The time of the first entry of a row, if it is known. -/
private def entryTime (row : Option PeerTransaction) : Nat := (row.map PeerTransaction.reportedAtUnix).getD 0

private theorem entryTime_arrive (row : Option PeerTransaction) (kind : RowArrival) (now : Nat) :
    entryTime (arriveRow me x row (kind, now)) =
      match kind with
      | .reported => if entryTime row = 0 then now else entryTime row
      | .viewed =>
        if TakesPart me x then
          if entryTime row = 0 then max (settledTime x.view) now else entryTime row
        else entryTime row := by
  cases kind with
  | reported =>
    cases row with
    | none => simp [entryTime, arriveRow, reportedRow]
    | some tx => rfl
  | viewed =>
    by_cases part : TakesPart me x
    · cases row with
      | none =>
        simp only [arriveRow, if_pos part, entryTime, Option.map_some, Option.getD_some, Option.map_none,
          Option.getD_none, if_true, viewedRow, settledTime]
        split <;> rfl
      | some tx =>
        simp only [arriveRow, if_pos part, entryTime, Option.map_some, Option.getD_some, viewedRow,
          settledTime]
        rfl
    · simp only [arriveRow, if_neg part]

/-- Arrivals of which some enter one time, and the others none. -/
private theorem entryTime_fold {now time : Nat} (enters : RowArrival → Bool)
    (step : ∀ row kind, entryTime (arriveRow me x row (kind, now)) =
      if enters kind then (if entryTime row = 0 then time else entryTime row) else entryTime row)
    (row : Option PeerTransaction) (a : List RowArrival) :
    entryTime ((a.map (·, now)).foldl (arriveRow me x) row) =
      if a.any enters then (if entryTime row = 0 then time else entryTime row) else entryTime row := by
  induction a generalizing row with
  | nil => rfl
  | cons kind rest ih =>
    rw [List.map_cons, List.foldl_cons, ih, step, List.any_cons]
    by_cases unknown : entryTime row = 0
    · cases enters kind <;> cases rest.any enters <;> simp [unknown]
    · cases enters kind <;> cases rest.any enters <;> simp [unknown]

private theorem entryTime_some {a : List RowArrival} {now : Nat} (keyed : store.Keyed)
    (both : BothArrive (a.map (·, now))) :
    (rowAfter me x store (a.map (·, now))).map PeerTransaction.reportedAtUnix =
      some (entryTime ((a.map (·, now)).foldl (arriveRow me x) (store.transactions x.view.reqId))) := by
  have some_ (arrivals : List (RowArrival × Nat)) (row : Option PeerTransaction)
      (there : row.isSome ∨ .reported ∈ arrivals.map Prod.fst) :
      (arrivals.foldl (arriveRow me x) row).isSome := by
    induction arrivals generalizing row with
    | nil => simpa using there
    | cons arrival rest ih =>
      obtain ⟨kind, time⟩ := arrival
      refine ih _ ?_
      cases kind with
      | reported => exact .inl rfl
      | viewed =>
        simp only [arriveRow]
        split
        · exact .inl rfl
        · simpa using there
  rw [rowAfter_row keyed]
  obtain ⟨tx, found⟩ := Option.isSome_iff_exists.mp (some_ _ _ (.inr both.1))
  rw [found]
  rfl

private theorem entered_kinds {a : List RowArrival} {now : Nat} (both : BothArrive (a.map (·, now))) :
    .reported ∈ a ∧ .viewed ∈ a := by
  simpa [BothArrive] using both

private theorem entryTime_commutes {now time : Nat} (keyed : store.Keyed) (enters : RowArrival → Bool)
    (one : enters .reported ∨ enters .viewed)
    (step : ∀ row kind, entryTime (arriveRow me x row (kind, now)) =
      if enters kind then (if entryTime row = 0 then time else entryTime row) else entryTime row) :
    EntryTimeCommutes me x store now := by
  intro a b bothA bothB
  have enters_ {a : List RowArrival} (both : BothArrive (a.map (·, now))) : a.any enters = true := by
    obtain ⟨reported, viewed⟩ := entered_kinds both
    rw [List.any_eq_true]
    rcases one with here | here
    · exact ⟨_, reported, here⟩
    · exact ⟨_, viewed, here⟩
  rw [entryTime_some keyed bothA, entryTime_some keyed bothB, entryTime_fold enters step,
    entryTime_fold enters step, enters_ bothA, enters_ bothB]

private theorem entryTime_iff (keyed : store.Keyed) (now : Nat) :
    EntryTimeCommutes me x store now ↔ TakesPart me x → FirstEntryAgrees x store now := by
  constructor
  · intro commutes part
    by_contra differs
    simp only [FirstEntryAgrees, not_or, not_exists, not_and, not_le] at differs
    obtain ⟨unknown, running, ahead⟩ := differs
    have zero : entryTime (store.transactions x.view.reqId) = 0 := by
      cases found : store.transactions x.view.reqId with
      | none => rfl
      | some row => exact not_not.mp (unknown row found)
    have same := commutes [.reported, .viewed] [.viewed, .reported] ⟨by simp, by simp⟩ ⟨by simp, by simp⟩
    rw [entryTime_some keyed ⟨by simp, by simp⟩, entryTime_some keyed ⟨by simp, by simp⟩] at same
    simp only [List.map_cons, List.map_nil, List.foldl_cons, List.foldl_nil, entryTime_arrive, zero,
      if_true, if_pos part, Option.some.injEq] at same
    rw [if_neg running, if_neg (by omega)] at same
    omega
  · intro agrees
    by_cases part : TakesPart me x
    · rcases agrees part with ⟨row, found, known⟩ | stopped | past
      · have kept (kind : RowArrival) (row : Option PeerTransaction) (known : entryTime row ≠ 0) :
            entryTime (arriveRow me x row (kind, now)) = entryTime row := by
          rw [entryTime_arrive]
          cases kind <;> simp [known]
        have whole (a : List RowArrival) (row : Option PeerTransaction) (known : entryTime row ≠ 0) :
            entryTime ((a.map (·, now)).foldl (arriveRow me x) row) = entryTime row := by
          induction a generalizing row with
          | nil => rfl
          | cons kind rest ih =>
            have same := kept kind row known
            rw [List.map_cons, List.foldl_cons, ih _ (by rwa [same]), same]
        intro a b bothA bothB
        rw [entryTime_some keyed bothA, entryTime_some keyed bothB, found, whole a (some row) known,
          whole b (some row) known]
      · refine @entryTime_commutes me x store now (settledTime x.view) keyed (· == .viewed) (.inr rfl) ?_
        intro row kind
        rw [entryTime_arrive, stopped]
        cases kind <;> simp [part]
        omega
      · refine @entryTime_commutes me x store now now keyed (fun _ => true) (.inl rfl) ?_
        intro row kind
        rw [entryTime_arrive]
        cases kind <;> simp [part, past]
    · refine @entryTime_commutes me x store now now keyed (· == .reported) (.inl rfl) ?_
      intro row kind
      rw [entryTime_arrive]
      cases kind <;> simp [part]

/-- A report and a view of an exchange commute, and the report changes nothing that the
lobby has settled, exactly when this peer is not a party in the lobby's view, or the view
says nothing else than the report. The time of the first entry is the same too exactly when
the settlement is not ahead of the clock. -/
theorem report_view_commute_iff (keyed : store.Keyed) :
    (ArrivalsCommute me x store ∧ KeepsSettlement me x store ↔ TakesPart me x → ViewAgrees me x) ∧
      ∀ now, EntryTimeCommutes me x store now ↔ TakesPart me x → FirstEntryAgrees x store now := by
  refine ⟨⟨fun ⟨commute, _⟩ part => agrees_of_commute keyed part commute, fun agrees => ?_⟩,
    entryTime_iff keyed⟩
  by_cases part : TakesPart me x
  · exact ⟨commute_of_agrees keyed part (agrees part), keeps_of_agrees keyed (agrees part)⟩
  · exact ⟨commute_of_apart keyed part, fun takes => absurd takes part⟩

end Orders

private def sampleSettled : SettledExchange where
  role := .consumer
  remotePeerId := "a"
  model := "llama3"
  usage := ⟨5, 20, 25⟩
  view := ⟨"me:1", some "me", some "a", some "llama3", some 20, none, some (-2), some 2, "settled", some 7⟩

theorem report_view_commute_iff_sample :
    EntryTimeCommutes "me" sampleSettled .empty 10 := by
  refine ((@report_view_commute_iff "me" sampleSettled .empty ?_).2 10).mpr fun _ => .inr (.inr (by decide))
  intro reqId tx found
  cases found

/-- The lobby has settled fewer tokens than the peer reports afterwards. -/
theorem late_report_overwrites :
    ¬(ArrivalsCommute "me" sampleSettled .empty ∧ KeepsSettlement "me" sampleSettled .empty) := by
  rintro ⟨commute, -⟩
  have same := commute [(.reported, 10), (.viewed, 11)] [(.viewed, 10), (.reported, 11)]
    ⟨by simp, by simp⟩ ⟨by simp, by simp⟩
  have totals := congrArg (Option.map PeerTransaction.totalTokens) same
  revert totals
  decide

end MtrxPeer
