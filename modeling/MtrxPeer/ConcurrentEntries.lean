import MtrxPeer.LostUpdates
import MtrxPeer.MismatchCounts
import MtrxPeer.StorePages
import MtrxPeer.TaskPools

/-! Reports and views that are entered into the store at the same time. An entry reads the row of
its exchange, writes the records of both parties and then the row, each in a transaction of its
own; other entries may come in between. -/
namespace MtrxPeer

open Function (update update_of_ne update_self)

/-! ## Entering -/

namespace StoreEntry

def reqId : StoreEntry → String
  | .reported _ reqId .. => reqId
  | .viewed _ view _ => view.reqId

def now : StoreEntry → Nat
  | .reported now .. => now
  | .viewed now .. => now

/-- The exchange is one of other peers. -/
def foreign : StoreEntry → Bool
  | .reported .. => false
  | .viewed _ view localPeerId =>
    decide (localPeerId ≠ view.consumerPeerId.getD "" ∧ localPeerId ≠ view.providerPeerId.getD "")

/-- The row that is made of the one that was read. -/
def row (old : Option PeerTransaction) : StoreEntry → PeerTransaction
  | .reported now reqId role peerId remotePeerId model usage =>
    reportedRow old now reqId role peerId remotePeerId model usage
  | .viewed now view localPeerId => viewedRow old now view localPeerId

/-- The peer that one more mismatch is counted of. -/
def mismatched (old : Option PeerTransaction) : StoreEntry → Option String
  | .reported .. => none
  | .viewed _ view localPeerId => newlyMismatched localPeerId old view

end StoreEntry

def PeerTransaction.party (tx : PeerTransaction) : ExchangeRole → String
  | .consumer => tx.consumerPeerId
  | .provider => tx.providerPeerId

/-- The record of a peer that is seen now. -/
def seenRecord (old : Option PeerRecord) (peerId : String) (ts : Nat) : PeerRecord :=
  match old with
  | some record => { record with lastSeenUnix := ts }
  | none => ⟨peerId, ts, ts⟩

/-- What an entry does next. -/
inductive EntryStage where
  | load
  | count (peerId : String) (tx : PeerTransaction)
  | loadParty (party : ExchangeRole) (tx : PeerTransaction)
  | storeParty (party : ExchangeRole) (record : PeerRecord) (tx : PeerTransaction)
  | storeRow (tx : PeerTransaction)
  | returned
  /-- The store could not be written. -/
  | failed

def EntryStage.afterParty (tx : PeerTransaction) : ExchangeRole → EntryStage
  | .consumer => .loadParty .provider tx
  | .provider => .storeRow tx

/-- The store and the counted mismatches, and of what each row is made. -/
structure EntryStore where
  store : TxStore
  mismatches : List String
  logs : String → UpdateLog StoreEntry

structure EntryTask where
  entry : StoreEntry
  stage : EntryStage
  /-- Of what the row was made that it has read. -/
  reading : Reading StoreEntry

def EntryTask.begin (entry : StoreEntry) : EntryTask := ⟨entry, .load, .blank⟩

/-- A step of `record_local_report` or `upsert_from_lobby`; `works` says whether the store can
be read and written. A row or a record that cannot be read is taken for one that is not there. -/
def entryRun (s : EntryStore) (task : EntryTask) (works : Bool) : EntryStore × EntryTask :=
  match task.stage with
  | .load =>
    if task.entry.foreign then (s, { task with stage := .returned })
    else
      let old := if works then s.store.transactions task.entry.reqId else none
      let tx := task.entry.row old
      (s, { task with
        stage := match task.entry.mismatched old with
          | some peerId => .count peerId tx
          | none => .loadParty .consumer tx
        reading := if works then (s.logs task.entry.reqId).read else .blank })
  | .count peerId tx =>
    ({ s with mismatches := s.mismatches ++ [peerId] }, { task with stage := .loadParty .consumer tx })
  | .loadParty party tx =>
    let peerId := tx.party party
    let existing := if works then s.store.peers peerId else none
    (s, { task with stage :=
      if peerId = "" then .afterParty tx party
      else .storeParty party (seenRecord existing peerId task.entry.now) tx })
  | .storeParty party record tx =>
    if works then
      let peers := update s.store.peers record.peerId (some record)
      ({ s with store := { s.store with peers } }, { task with stage := .afterParty tx party })
    else (s, { task with stage := .failed })
  | .storeRow tx =>
    if works then
      let log := (s.logs tx.reqId).write task.reading task.entry
      ({ s with store := s.store.upsertTransaction tx, logs := update s.logs tx.reqId log },
        { task with stage := .returned })
    else (s, { task with stage := .failed })
  | .returned => (s, task)
  | .failed => (s, task)

def entryMachine : Machine (Pool EntryStore EntryTask) (PoolEvent StoreEntry Bool) Unit :=
  Pool.machine EntryTask.begin entryRun

def TxStore.unentered (store : TxStore) : Pool EntryStore EntryTask :=
  ⟨⟨store, [], fun _ => .initial⟩, []⟩

/-! ## What a row is made of -/

/-- The store after the entries of a lineage, one after the other. -/
def TxStore.made (store : TxStore) (lineage : Lineage StoreEntry) : TxStore :=
  lineage.value TxStore.enter store .empty

/-- An entry writes the row that it made of the one it read. -/
def EntryStage.row? : EntryStage → Option PeerTransaction
  | .count _ tx => some tx
  | .loadParty _ tx => some tx
  | .storeParty _ _ tx => some tx
  | .storeRow tx => some tx
  | _ => none

section Rows

variable {store : TxStore} {s : EntryStore} {before after : List EntryTask} {task : EntryTask}
  {stage' : EntryStage} {lineage : Lineage StoreEntry} {entry : StoreEntry} {reqId : String}

@[simp] theorem afterParty_row? (tx : PeerTransaction) (party : ExchangeRole) :
    (EntryStage.afterParty tx party).row? = some tx := by
  cases party <;> rfl

theorem TxStore.Keyed.made (keyed : store.Keyed) (lineage : Lineage StoreEntry) : (store.made lineage).Keyed := by
  refine (staysReported_entries ?_ lineage.updates).2
  split
  · exact keyed
  · intro reqId tx found
    cases found

/-- An entry that is written is made of what it has read. -/
theorem made_write (log : UpdateLog StoreEntry) (reading : Reading StoreEntry) :
    store.made (log.write reading entry).lineage = (store.made reading.lineage).enter entry :=
  UpdateLog.value_write TxStore.enter store .empty

theorem row_reqId (keyed : store.Keyed) (entry : StoreEntry) :
    (entry.row (store.transactions entry.reqId)).reqId = entry.reqId := by
  cases entry with
  | reported => exact reportedRow_reqId keyed
  | viewed => exact viewedRow_reqId keyed

/-- An entry that is not of other peers sets its row, as it is made of the old one. -/
theorem enter_row (keyed : store.Keyed) (own : entry.foreign = false) :
    (store.enter entry).transactions entry.reqId = some (entry.row (store.transactions entry.reqId)) := by
  have id := row_reqId keyed entry
  cases entry with
  | reported now reqId role peerId remotePeerId model usage =>
    rw [TxStore.enter, TxStore.recordLocalReport, write_transactions]
    refine (congrArg (update _ _ _) id.symm).trans ?_
    exact update_self _ _ _
  | viewed now view localPeerId =>
    have own : ¬ (localPeerId ≠ view.consumerPeerId.getD "" ∧ localPeerId ≠ view.providerPeerId.getD "") :=
      of_decide_eq_false own
    rw [TxStore.enter, TxStore.upsertFromLobby, if_neg own, write_transactions]
    refine (congrArg (update _ _ _) id.symm).trans ?_
    exact update_self _ _ _

/-- An entry under way has read a row of the store, and writes what it made of that one. -/
structure EntryTask.Holds (store : TxStore) (s : EntryStore) (task : EntryTask) (tx : PeerTransaction) :
    Prop where
  own : task.entry.foreign = false
  reads : task.reading.Of (s.logs task.entry.reqId)
  row : tx = task.entry.row ((store.made task.reading.lineage).transactions task.entry.reqId)

/-- Each row is what the entries it is made of give. -/
structure RowsMade (store : TxStore) (s : EntryStore) (tasks : List EntryTask) : Prop where
  bounded : ∀ reqId, (s.logs reqId).Bounded
  rows : ∀ reqId, s.store.transactions reqId = (store.made (s.logs reqId).lineage).transactions reqId
  holds : ∀ task ∈ tasks, ∀ tx, task.stage.row? = some tx → task.Holds store s tx

namespace RowsMade

/-- A step that writes no row. -/
private theorem quiet (made : RowsMade store s (before ++ task :: after)) {s' : EntryStore} {task' : EntryTask}
    (rows : s'.store.transactions = s.store.transactions) (logs : s'.logs = s.logs)
    (holds : ∀ tx, task'.stage.row? = some tx → task'.Holds store s tx) :
    RowsMade store s' (before ++ task' :: after) := by
  refine ⟨fun reqId => ?_, fun reqId => ?_, fun other member tx found => ?_⟩
  · rw [logs]
    exact made.bounded reqId
  · rw [rows, logs]
    exact made.rows reqId
  · have old : other.Holds store s tx := by
      rcases Pool.mem_replace task member with rfl | old
      · exact holds tx found
      · exact made.holds other old tx found
    exact ⟨old.own, logs ▸ old.reads, old.row⟩

/-- A step that goes on with the row that was made. -/
private theorem goesOn (made : RowsMade store s (before ++ task :: after)) {s' : EntryStore}
    (rows : s'.store.transactions = s.store.transactions) (logs : s'.logs = s.logs)
    (same : ∀ tx, stage'.row? = some tx → task.stage.row? = some tx) :
    RowsMade store s' (before ++ { task with stage := stage' } :: after) := by
  refine made.quiet rows logs fun tx found => ?_
  have old := made.holds task (List.mem_append_right _ List.mem_cons_self) tx (same tx found)
  exact ⟨old.own, old.reads, old.row⟩

/-- An entry writes its row. -/
private theorem writes (made : RowsMade store s (before ++ task :: after)) (keyed : store.Keyed)
    {tx : PeerTransaction} (stage : task.stage = .storeRow tx) :
    RowsMade store
      { s with
        store := s.store.upsertTransaction tx
        logs := update s.logs tx.reqId ((s.logs tx.reqId).write task.reading task.entry) }
      (before ++ { task with stage := .returned } :: after) := by
  have old := made.holds task (List.mem_append_right _ List.mem_cons_self) tx (by rw [stage]; rfl)
  have id : tx.reqId = task.entry.reqId := by
    rw [old.row]
    exact row_reqId (keyed.made _) task.entry
  refine ⟨fun reqId => ?_, fun reqId => ?_, fun other member tx' found => ?_⟩
  · dsimp only
    by_cases same : reqId = tx.reqId
    · rw [same, update_self, id]
      exact UpdateLog.bounded_write old.reads
    · rw [update_of_ne same]
      exact made.bounded reqId
  · dsimp only [TxStore.upsertTransaction]
    by_cases same : reqId = tx.reqId
    · rw [same, update_self, update_self, id, made_write, enter_row (keyed.made _) old.own, ← old.row]
    · rw [update_of_ne same, update_of_ne same]
      exact made.rows reqId
  · rcases Pool.mem_replace task member with rfl | before_
    · cases found
    · have holds := made.holds other before_ tx' found
      refine ⟨holds.own, ?_, holds.row⟩
      dsimp only
      by_cases same : other.entry.reqId = tx.reqId
      · rw [same, update_self, ← same]
        exact holds.reads.write
      · rw [update_of_ne same]
        exact holds.reads

/-- What one step of an entry keeps. -/
theorem step (made : RowsMade store s (before ++ task :: after)) (keyed : store.Keyed) (works : Bool) :
    RowsMade store (entryRun s task works).1 (before ++ (entryRun s task works).2 :: after) := by
  rw [entryRun]
  cases stage : task.stage with
  | load =>
    dsimp only
    split
    · exact made.goesOn rfl rfl fun tx found => by cases found
    · rename_i own
      refine made.quiet rfl rfl fun tx found => ⟨Bool.eq_false_of_not_eq_true own, ?_, ?_⟩
      · cases works with
        | true => exact UpdateLog.read_of (made.bounded _)
        | false => exact Reading.blank_of _
      · have made_ : tx = task.entry.row (if works then s.store.transactions task.entry.reqId else none) := by
          dsimp only at found
          split at found <;> exact (Option.some.inj found).symm
        cases works with
        | true => rw [made_, if_pos rfl, made.rows]; rfl
        | false => exact made_
  | count peerId tx => exact made.goesOn rfl rfl fun tx' found => by rw [stage]; exact found
  | loadParty party tx =>
    refine made.goesOn rfl rfl fun tx' found => ?_
    rw [stage]
    split at found
    · rwa [afterParty_row?] at found
    · exact found
  | storeParty party record tx =>
    dsimp only
    split
    · refine made.goesOn rfl rfl fun tx' found => ?_
      rw [stage]
      rwa [afterParty_row?] at found
    · exact made.goesOn rfl rfl fun tx found => by cases found
  | storeRow tx =>
    dsimp only
    split
    · exact made.writes keyed stage
    · exact made.goesOn rfl rfl fun tx found => by cases found
  | returned => exact made
  | failed => exact made

theorem initially (store : TxStore) : RowsMade store store.unentered.shared [] where
  bounded _ := UpdateLog.bounded_initial
  rows _ := rfl
  holds _ member := absurd member List.not_mem_nil

theorem join {tasks : List EntryTask} (made : RowsMade store s tasks) (entry : StoreEntry) :
    RowsMade store s (tasks ++ [.begin entry]) := by
  refine ⟨made.bounded, made.rows, fun task member tx found => ?_⟩
  rcases List.mem_append.mp member with old | new
  · exact made.holds task old tx found
  · rw [List.mem_singleton.mp new] at found
    cases found

theorem poolStep {pool : Pool EntryStore EntryTask} (made : RowsMade store pool.shared pool.tasks)
    (keyed : store.Keyed) (e : PoolEvent StoreEntry Bool) :
    RowsMade store (entryMachine.step pool e).1.shared (entryMachine.step pool e).1.tasks :=
  Pool.invariant_after (fun pool => RowsMade store pool.shared pool.tasks)
    (fun _ entry made => made.join entry) (fun _ _ _ _ works made => made.step keyed works) made [e]

end RowsMade

/-! ## Lost entries -/

/-- A row of the exchange is only written over the one that was read for it. -/
def WritesUpToDate (reqId : String) (pool : Pool EntryStore EntryTask) : PoolEvent StoreEntry Bool → Prop
  | .spawn _ => True
  | .step i works => ∀ task, pool.tasks[i]? = some task → ∀ tx, task.stage = .storeRow tx → tx.reqId = reqId →
    works = true → (pool.shared.logs reqId).UpToDate task.reading

/-- Only the writing of a row changes what a row is made of. -/
theorem entryRun_logs (s : EntryStore) (task : EntryTask) (works : Bool) :
    (∃ tx, task.stage = .storeRow tx ∧ works = true ∧ (entryRun s task works).1.logs =
      update s.logs tx.reqId ((s.logs tx.reqId).write task.reading task.entry)) ∨
    (∀ tx, task.stage = .storeRow tx → works = false) ∧ (entryRun s task works).1.logs = s.logs := by
  rw [entryRun]
  cases stage : task.stage with
  | storeRow tx =>
    cases works with
    | true => exact .inl ⟨tx, rfl, rfl, rfl⟩
    | false => exact .inr ⟨fun _ _ => rfl, rfl⟩
  | load =>
    refine .inr ⟨fun tx found => (by cases found), ?_⟩
    dsimp only
    split <;> rfl
  | storeParty party record tx =>
    refine .inr ⟨fun tx found => (by cases found), ?_⟩
    dsimp only
    split <;> rfl
  | _ => exact .inr ⟨fun tx found => (by cases found), rfl⟩

/-- A step loses nothing of a row exactly when nothing was lost before and it writes the row over
the one that was read. -/
theorem complete_step {pool : Pool EntryStore EntryTask} (made : RowsMade store pool.shared pool.tasks)
    (keyed : store.Keyed) (e : PoolEvent StoreEntry Bool) :
    ((entryMachine.step pool e).1.shared.logs reqId).Complete ↔
      (pool.shared.logs reqId).Complete ∧ WritesUpToDate reqId pool e := by
  have next : (entryMachine.step pool e).1 = Pool.poolStep EntryTask.begin entryRun pool e := rfl
  rw [next]
  cases e with
  | spawn entry => exact (and_iff_left trivial).symm
  | step i works =>
    cases found : pool.tasks[i]? with
    | none =>
      simp only [Pool.poolStep, found]
      refine (and_iff_left fun task found' => ?_).symm
      rw [found] at found'
      cases found'
    | some task =>
      simp only [Pool.poolStep, found]
      obtain ⟨tx, stage, rfl, logs⟩ | ⟨idle, logs⟩ := entryRun_logs pool.shared task works
      · have holds := made.holds task (List.mem_of_getElem? found) tx (by rw [stage]; rfl)
        have id : tx.reqId = task.entry.reqId := by
          rw [holds.row]
          exact row_reqId (keyed.made _) task.entry
        rw [logs]
        by_cases same : reqId = tx.reqId
        · rw [same, update_self, id, UpdateLog.complete_write holds.reads]
          refine and_congr_right fun _ => ⟨fun upToDate other found' tx' stage' id' _ => ?_, fun all => ?_⟩
          · rw [← Option.some.inj (found.symm.trans found')]
            exact upToDate
          · exact all task found tx stage id rfl
        · rw [update_of_ne same]
          refine (and_iff_left fun other found' tx' stage' id' _ => ?_).symm
          rw [← Option.some.inj (found.symm.trans found'), stage] at stage'
          rw [← EntryStage.storeRow.inj stage'] at id'
          exact absurd id'.symm same
      · rw [logs]
        refine (and_iff_left fun other found' tx' stage' _ works' => ?_).symm
        rw [← Option.some.inj (found.symm.trans found')] at stage'
        rw [idle tx' stage'] at works'
        cases works'

end Rows

/-- The row of an exchange is always the one that some of the written entries give, one after the
other; and these are all of them exactly when each was written over the row it had read. -/
theorem entries_serializable_iff (store : TxStore) (keyed : store.Keyed)
    (events : List (PoolEvent StoreEntry Bool)) (reqId : String) :
    let s := (entryMachine.after store.unentered events).shared
    let log := s.logs reqId
    s.store.transactions reqId = (store.made log.lineage).transactions reqId ∧
      (log.lineage = ⟨true, log.written⟩ ↔ entryMachine.Along (WritesUpToDate reqId) store.unentered events) := by
  intro s log
  have made : RowsMade store s (entryMachine.after store.unentered events).tasks :=
    Pool.invariant_after (fun pool => RowsMade store pool.shared pool.tasks)
      (fun _ entry made => made.join entry) (fun _ _ _ _ works made => made.step keyed works)
      (RowsMade.initially store) events
  refine ⟨made.rows reqId, ?_⟩
  have exact_ := Machine.after_iff_along (I := fun pool : Pool EntryStore EntryTask =>
      (pool.shared.logs reqId).Complete) (fun pool e (made : RowsMade store pool.shared pool.tasks) =>
      made.poolStep keyed e) (fun _ e made => complete_step made keyed e) (RowsMade.initially store) events
  exact exact_.trans (and_iff_right rfl)

/-- A report and the lobby's view of one exchange: both read that there is no row, and the view is
written first. -/
private def overlappingEntries : List (PoolEvent StoreEntry Bool) :=
  [.spawn (.reported 100 "me:1" .consumer "me" "bob" "llama3" ⟨5, 15, 20⟩),
    .spawn (.viewed 101 ⟨"me:1", some "me", some "bob", some "llama3", some 20, some false, some (-20),
      some 20, "settled", some 101⟩ "me")] ++
    ([0, 1] ++ List.replicate 5 1 ++ List.replicate 5 0).map fun i => .step i true

/-- The settlement is lost. -/
theorem entries_serializable_iff_sample :
    let s := (entryMachine.after TxStore.empty.unentered overlappingEntries).shared
    (s.store.transactions "me:1").map PeerTransaction.status = some "pending" ∧
      (s.logs "me:1").written.length = 2 ∧
      ¬ entryMachine.Along (WritesUpToDate "me:1") TxStore.empty.unentered overlappingEntries := by
  refine ⟨by decide +kernel, by decide +kernel, fun upToDate => ?_⟩
  have keyed : TxStore.empty.Keyed := fun _ _ found => by cases found
  have all := (entries_serializable_iff .empty keyed overlappingEntries "me:1").2.mpr upToDate
  have lengths := congrArg (fun lineage => lineage.updates.length) all
  exact absurd lengths (by decide +kernel)

/-! ## The parties of a row -/

/-- The peer has a record, unless it has no name. -/
def TxStore.Knows (store : TxStore) (peerId : String) : Prop :=
  peerId = "" ∨ (store.peers peerId).isSome = true

/-- What an entry has seen to before it goes on. -/
def EntryStage.Knows (store : TxStore) : EntryStage → Prop
  | .loadParty .provider tx => store.Knows tx.consumerPeerId
  | .storeParty .consumer record tx => record.peerId = tx.consumerPeerId
  | .storeParty .provider record tx => record.peerId = tx.providerPeerId ∧ store.Knows tx.consumerPeerId
  | .storeRow tx => ∀ party, store.Knows (tx.party party)
  | _ => True

/-- Both parties of each row have records, which are under their own names. -/
structure TxStore.KnowsParties (store : TxStore) : Prop where
  named : ∀ peerId record, store.peers peerId = some record → record.peerId = peerId
  rows : ∀ reqId tx, store.transactions reqId = some tx → ∀ party, store.Knows (tx.party party)

section Parties

variable {store store' : TxStore} {tx : PeerTransaction} {record : PeerRecord} {peerId : String}
  {stage : EntryStage} {party : ExchangeRole}

/-- All peers that are known stay so. -/
def TxStore.Remembers (store store' : TxStore) : Prop :=
  ∀ peerId, (store.peers peerId).isSome = true → (store'.peers peerId).isSome = true

theorem TxStore.Knows.later (knows : store.Knows peerId) (remembers : store.Remembers store') :
    store'.Knows peerId :=
  knows.imp_right (remembers peerId)

theorem EntryStage.Knows.later (knows : stage.Knows store) (remembers : store.Remembers store') :
    stage.Knows store' := by
  cases stage with
  | loadParty party tx =>
    cases party with
    | consumer => trivial
    | provider => exact TxStore.Knows.later knows remembers
  | storeParty party record tx =>
    cases party with
    | consumer => exact knows
    | provider => exact ⟨knows.1, knows.2.later remembers⟩
  | storeRow tx => exact fun party => (knows party).later remembers
  | _ => trivial

theorem seenRecord_peerId (old : Option PeerRecord) (named : ∀ record, old = some record → record.peerId = peerId)
    (ts : Nat) : (seenRecord old peerId ts).peerId = peerId := by
  cases old with
  | none => rfl
  | some record => exact named record rfl

/-- A party that is seen to, and after it the other one. -/
theorem afterParty_knows (first : party = .provider → store.Knows tx.consumerPeerId)
    (seen : store.Knows (tx.party party)) : (EntryStage.afterParty tx party).Knows store := by
  cases party with
  | consumer => exact seen
  | provider =>
    intro party
    cases party with
    | consumer => exact first rfl
    | provider => exact seen

/-- What an entry has seen to of the other party is seen to at each of its stages. -/
theorem storeParty_knows (knows : (EntryStage.storeParty party record tx).Knows store) :
    record.peerId = tx.party party ∧ (party = .provider → store.Knows tx.consumerPeerId) := by
  cases party with
  | consumer => exact ⟨knows, fun same => by cases same⟩
  | provider => exact ⟨knows.1, fun _ => knows.2⟩

/-- What one step of an entry does to the rows and to what it has seen to. -/
theorem entryRun_knows {s : EntryStore} {task : EntryTask} (knows : s.store.KnowsParties)
    (seen : task.stage.Knows s.store) (works : Bool) :
    (entryRun s task works).1.store.KnowsParties ∧ s.store.Remembers (entryRun s task works).1.store ∧
      (entryRun s task works).2.stage.Knows (entryRun s task works).1.store := by
  have unchanged : s.store.Remembers s.store := fun _ known => known
  rw [entryRun]
  cases stage : task.stage with
  | load =>
    dsimp only
    split
    · exact ⟨knows, unchanged, trivial⟩
    · refine ⟨knows, unchanged, ?_⟩
      dsimp only
      split <;> trivial
  | count peerId tx => exact ⟨knows, unchanged, trivial⟩
  | loadParty party tx =>
    rw [stage] at seen
    have first : party = .provider → s.store.Knows tx.consumerPeerId := by
      rintro rfl
      exact seen
    refine ⟨knows, unchanged, ?_⟩
    dsimp only
    split
    · rename_i unnamed
      exact afterParty_knows first (.inl unnamed)
    · have id := seenRecord_peerId (if works then s.store.peers (tx.party party) else none)
        (fun record found => by
          cases works with
          | true => exact knows.named _ record found
          | false => cases found) task.entry.now
      cases party with
      | consumer => exact id
      | provider => exact ⟨id, first rfl⟩
  | storeParty party record tx =>
    rw [stage] at seen
    obtain ⟨id, first⟩ := storeParty_knows seen
    dsimp only
    split
    · have remembers : s.store.Remembers { s.store with
          peers := update s.store.peers record.peerId (some record) } := by
        intro peerId known
        dsimp only
        by_cases same : peerId = record.peerId
        · rw [same, update_self]
          rfl
        · rwa [update_of_ne same]
      refine ⟨⟨fun peerId other found => ?_, fun reqId row found party =>
          (knows.rows reqId row found party).later remembers⟩, remembers,
        afterParty_knows (fun last => (first last).later remembers) (.inr ?_)⟩
      · dsimp only at found
        by_cases same : peerId = record.peerId
        · rw [same, update_self] at found
          rw [same, Option.some.inj found]
        · rw [update_of_ne same] at found
          exact knows.named peerId other found
      · rw [← id]
        dsimp only
        rw [update_self]
        rfl
    · exact ⟨knows, unchanged, trivial⟩
  | storeRow tx =>
    rw [stage] at seen
    dsimp only
    split
    · refine ⟨⟨knows.named, fun reqId row found => ?_⟩, unchanged, trivial⟩
      dsimp only [TxStore.upsertTransaction] at found
      by_cases same : reqId = tx.reqId
      · rw [same, update_self] at found
        rw [← Option.some.inj found]
        exact seen
      · rw [update_of_ne same] at found
        exact knows.rows reqId row found
    · exact ⟨knows, unchanged, trivial⟩
  | returned => exact ⟨knows, unchanged, by rw [stage]; trivial⟩
  | failed => exact ⟨knows, unchanged, by rw [stage]; trivial⟩

/-- The rows and the entries under way, over the records there were at first. -/
structure PartiesKept (store : TxStore) (pool : Pool EntryStore EntryTask) : Prop where
  knows : pool.shared.store.KnowsParties
  remembers : store.Remembers pool.shared.store
  seen : ∀ task ∈ pool.tasks, task.stage.Knows pool.shared.store

end Parties

/-- At every moment, with writes that fail in between, both parties of each stored row have a
record, unless they have no name; and no record of a peer goes away. -/
theorem rows_name_known_peers (store : TxStore) (knows : store.KnowsParties)
    (events : List (PoolEvent StoreEntry Bool)) :
    let s := (entryMachine.after store.unentered events).shared
    s.store.KnowsParties ∧ store.Remembers s.store := by
  intro s
  have kept : PartiesKept store (entryMachine.after store.unentered events) := by
    refine Pool.invariant_after (PartiesKept store) (fun pool entry kept => ?_)
      (fun shared before task after works kept => ?_)
      ⟨knows, fun _ known => known, fun _ member => absurd member List.not_mem_nil⟩ events
    · refine ⟨kept.knows, kept.remembers, fun task member => ?_⟩
      rcases List.mem_append.mp member with old | new
      · exact kept.seen task old
      · rw [List.mem_singleton.mp new]
        trivial
    · obtain ⟨knows', remembers', seen'⟩ :=
        entryRun_knows kept.knows (kept.seen task (List.mem_append_right _ List.mem_cons_self)) works
      refine ⟨knows', fun peerId found => remembers' peerId (kept.remembers peerId found),
        fun other member => ?_⟩
      rcases Pool.mem_replace task member with rfl | old
      · exact seen'
      · exact (kept.seen other old).later remembers'
  exact ⟨kept.knows, kept.remembers⟩

/-- A report whose row cannot be written, and one that is entered. -/
private def failingEntries : List (PoolEvent StoreEntry Bool) :=
  [.spawn (.reported 100 "me:1" .consumer "me" "bob" "llama3" ⟨5, 15, 20⟩),
    .spawn (.reported 101 "me:2" .provider "me" "carol" "llama3" ⟨1, 2, 3⟩)] ++
    (List.replicate 5 (.step 0 true) ++ [.step 0 false]) ++ List.replicate 6 (.step 1 true)

theorem rows_name_known_peers_sample :
    let s := (entryMachine.after TxStore.empty.unentered failingEntries).shared
    s.store.KnowsParties ∧ (s.store.transactions "me:1").isNone = true ∧
      (s.store.transactions "me:2").isSome = true ∧ (s.store.peers "bob").isSome = true := by
  have knows : TxStore.empty.KnowsParties := ⟨fun _ _ found => (by cases found), fun _ _ found => (by cases found)⟩
  exact ⟨(rows_name_known_peers .empty knows failingEntries).1, by decide +kernel, by decide +kernel,
    by decide +kernel⟩

end MtrxPeer
