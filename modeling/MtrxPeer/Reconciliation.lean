import MtrxPeer.ManagerRuns

/-! A notification makes a manager stop the tasks of networks that the configuration no longer
wants and start those of networks that have none. Anything else may happen before it is done. -/
namespace MtrxPeer

open Function (update update_of_ne update_self)

variable {M : Type} {kind : ManagerKind M} {desired : List M} {s s' : ManagerState M}

/-! ## The phases of a reconciliation -/

inductive ReconcilePhase (M : Type) where
  | reaping
  | choosing
  | stopping (stops : List String)
  | spawning (rest : List M)
  | finished

/-- The work that is left in a phase. -/
def ReconcilePhase.work (desired : List M) : ReconcilePhase M → List (ManagerWork M)
  | .reaping => ManagerState.reconcileWork desired
  | .choosing => .stopUnwanted desired :: (desired.map .spawn ++ [.syncStatus])
  | .stopping stops => stops.map .stop ++ (desired.map .spawn ++ [.syncStatus])
  | .spawning rest => rest.map .spawn ++ [.syncStatus]
  | .finished => []

/-- Tasks that had ended have been reaped. -/
def ReconcilePhase.Reaped : ReconcilePhase M → Prop
  | .reaping => False
  | _ => True

/-- The networks that are still to be stopped. -/
def ReconcilePhase.stops : ReconcilePhase M → List String
  | .stopping stops => stops
  | _ => []

/-- The networks that are still to be started, once all are stopped. -/
def ReconcilePhase.networks : ReconcilePhase M → List M
  | .spawning rest => rest
  | _ => []

theorem ReconcilePhase.eq_finished {phase : ReconcilePhase M} (none_ : phase.work desired = []) :
    phase = .finished := by
  cases phase with
  | finished => rfl
  | stopping stops => simp [work] at none_
  | spawning rest => simp [work] at none_
  | _ => cases none_

/-- What holds in the phases of a reconciliation, where `allowed` holds of what happens
meanwhile. -/
structure PhaseRules (kind : ManagerKind M) (desired : List M) (allowed : ManagerEvent M → Prop)
    (holds : ReconcilePhase M → ManagerState M → Prop) : Prop where
  anyWork : ∀ {phase s} work, holds phase s → holds phase { s with work := work }
  elsewhere : ∀ {phase s e}, allowed e → holds phase s → holds phase (s.elsewhere kind e)
  reap : ∀ {s}, holds .reaping s → holds .choosing (s.reapFinishedTasks kind)
  choose : ∀ {s}, holds .choosing s →
    holds (.stopping (s.handles.keys.filter (ManagerState.shouldStop kind desired))) s
  stop : ∀ {s id stops}, holds (.stopping (id :: stops)) s →
    holds (.stopping stops) (s.stopNetwork kind id)
  stopped : ∀ {s}, holds (.stopping []) s → holds (.spawning desired) s
  skip : ∀ {s network rest}, kind.isConnected network = false → holds (.spawning (network :: rest)) s →
    holds (.spawning rest) s
  spawn : ∀ {s s' network rest}, kind.isConnected network = true →
    holds (.spawning (network :: rest)) s →
    ManagerState.Spawned kind s (kind.networkId network) s' → holds (.spawning rest) s'
  sync : ∀ {s}, holds (.spawning []) s → holds .finished (s.syncStatusList kind)

namespace PhaseRules

variable {allowed : ManagerEvent M → Prop} {holds : ReconcilePhase M → ManagerState M → Prop}

private theorem goOn (rules : PhaseRules kind desired allowed holds) {phase : ReconcilePhase M}
    (inPhase : holds phase s) (left : s.work = phase.work desired) :
    ∃ next : ReconcilePhase M, (s.goOn kind).work = next.work desired ∧ holds next (s.goOn kind) := by
  have moved : ∀ (next : ReconcilePhase M) {item : ManagerWork M} {rest}, s.work = item :: rest →
      (s.perform kind item).2 ++ rest = next.work desired → holds next (s.perform kind item).1 →
      ∃ next : ReconcilePhase M, (s.goOn kind).work = next.work desired ∧ holds next (s.goOn kind) := by
    intro next item rest begins remains after
    refine ⟨next, ?_, ?_⟩ <;> rw [ManagerState.goOn, begins]
    · exact remains
    · exact rules.anyWork _ after
  have spawning : ∀ {networks : List M}, s.work = networks.map .spawn ++ [.syncStatus] →
      holds (.spawning networks) s →
      ∃ next : ReconcilePhase M, (s.goOn kind).work = next.work desired ∧ holds next (s.goOn kind) := by
    intro networks left inPhase
    cases networks with
    | nil =>
      refine moved .finished left rfl ?_
      exact rules.sync inPhase
    | cons network rest =>
      refine moved (.spawning rest) left rfl ?_
      simp only [ManagerState.perform]
      split
      · rename_i wanted
        exact rules.spawn wanted inPhase (ManagerState.spawnNetwork_spawned network)
      · rename_i unwanted
        exact rules.skip (Bool.not_eq_true _ ▸ unwanted) inPhase
  cases phase with
  | reaping =>
    refine moved .choosing left rfl ?_
    exact rules.reap inPhase
  | choosing =>
    refine moved (.stopping _) left rfl ?_
    exact rules.choose inPhase
  | stopping stops =>
    cases stops with
    | nil => exact spawning left (rules.stopped inPhase)
    | cons id stops =>
      refine moved (.stopping stops) left rfl ?_
      exact rules.stop inPhase
  | spawning rest => exact spawning left inPhase
  | finished =>
    refine ⟨.finished, ?_, ?_⟩ <;> rw [ManagerState.goOn, left]
    · exact left
    · exact inPhase

theorem step (rules : PhaseRules kind desired allowed holds) {phase : ReconcilePhase M}
    {e : ManagerEvent M} (ok : allowed e) (inPhase : holds phase s)
    (left : s.work = phase.work desired) (busy : s.work.isEmpty = false) :
    ∃ next : ReconcilePhase M, ((networkManager kind).step s e).1.work = next.work desired ∧
      holds next ((networkManager kind).step s e).1 := by
  obtain ⟨-, stepped⟩ | ⟨-, stepped⟩ | ⟨-, stepped⟩ := ManagerState.step_cases kind s e
  · rw [stepped]
    exact rules.goOn inPhase left
  · rw [stepped, if_neg (by simpa using busy)]
    exact ⟨phase, left, inPhase⟩
  · rw [stepped]
    exact ⟨phase, (ManagerState.elsewhere_work e).trans left, rules.elsewhere ok inPhase⟩

/-- The rule of a reconciliation: what its phases keep holds when it is finished. -/
theorem finish (rules : PhaseRules kind desired allowed holds) {phase : ReconcilePhase M}
    (between : List (ManagerEvent M)) (ok : ∀ e ∈ between, allowed e) (inPhase : holds phase s)
    (left : s.work = phase.work desired)
    (busy : ∀ n < between.length, ((networkManager kind).after s (between.take n)).work.isEmpty = false)
    (done : ((networkManager kind).after s between).work = []) :
    holds .finished ((networkManager kind).after s between) := by
  induction between generalizing s phase with
  | nil =>
    rw [Machine.after] at done ⊢
    rw [left] at done
    rwa [ReconcilePhase.eq_finished done] at inPhase
  | cons e rest ih =>
    obtain ⟨next, left, inPhase⟩ :=
      rules.step (ok e List.mem_cons_self) inPhase left (busy 0 (Nat.zero_lt_succ _))
    apply ih (fun later member => ok later (List.mem_cons_of_mem _ member)) inPhase left _ done
    intro n lt
    exact busy (n + 1) (Nat.succ_lt_succ lt)

end PhaseRules

/-- A notification that comes to a manager without work, and what happens until the manager
has worked it off. -/
structure WorkedOff (kind : ManagerKind M) (s : ManagerState M) (between : List (ManagerEvent M)) :
    Prop where
  idle : s.work = []
  busy : ∀ n < between.length,
    ((networkManager kind).after s (.notified :: between.take n)).work.isEmpty = false
  done : ((networkManager kind).after s (.notified :: between)).work = []

theorem WorkedOff.finish {between : List (ManagerEvent M)} (worked : WorkedOff kind s between)
    {holds : ReconcilePhase M → ManagerState M → Prop}
    (rules : PhaseRules kind s.configured (· ∈ between) holds) (begins : holds .reaping s) :
    holds .finished ((networkManager kind).after s (.notified :: between)) := by
  have notified : ((networkManager kind).step s .notified).1 =
      { s with work := ManagerState.reconcileWork s.configured } := by
    simp only [networkManager, ManagerEvent.isForLoop, if_true, worked.idle, List.isEmpty_nil]
    rfl
  rw [Machine.after, notified]
  refine rules.finish between (fun _ member => member) (rules.anyWork _ begins) rfl ?_ ?_
  · intro n lt
    have busy := worked.busy n lt
    rwa [Machine.after, notified] at busy
  · have done := worked.done
    rwa [Machine.after, notified] at done

/-! ## What a reconciliation comes to -/

/-- The configuration has the network connected. -/
def Wanted (kind : ManagerKind M) (desired : List M) (id : String) : Prop :=
  ∃ network ∈ desired, kind.isConnected network = true ∧ kind.networkId network = id

theorem wanted_of_kept {id : String} (keeps : ManagerState.shouldStop kind desired id = false) :
    Wanted kind desired id := by
  rw [ManagerState.shouldStop] at keeps
  cases found : desired.find? fun c => kind.networkId c = id with
  | none => simp [found] at keeps
  | some network =>
    refine ⟨network, List.mem_of_find?_eq_some found, by simpa [found] using keeps, ?_⟩
    simpa using List.find?_some found

/-- The network has a task, or an attempt since `since` has failed. -/
def Attempted (kind : ManagerKind M) (since : Attempt) (s : ManagerState M) (id : String) : Prop :=
  (∃ task, s.handles.get id = some task) ∨ ∃ attempt, since ≤ attempt ∧ attempt < s.attempts ∧
    s.networkOf attempt = id ∧ kind.constructs attempt = false

/-- A network may have a task in a phase: it is wanted, or still to be stopped. -/
def ReconcilePhase.MayHold (kind : ManagerKind M) (desired : List M) (id : String) :
    ReconcilePhase M → Prop
  | .reaping | .choosing => True
  | .stopping stops => Wanted kind desired id ∨ id ∈ stops
  | .spawning _ | .finished => Wanted kind desired id

/-- The turn of a network is still to come. -/
def ReconcilePhase.Ahead (network : M) : ReconcilePhase M → Prop
  | .spawning rest => network ∈ rest
  | .finished => False
  | _ => True

/-- Only networks that may have a task have one, which has run since the reaping unless it
`ended`; wanted networks whose turn has come have been attempted. -/
structure Reconciling (kind : ManagerKind M) (desired : List M) (since : Attempt)
    (ended : Attempt → Prop) (phase : ReconcilePhase M) (s : ManagerState M) : Prop where
  ok : s.Supervised kind
  begun : since ≤ s.attempts
  alive : phase.Reaped → ∀ id task, s.handles.get id = some task →
    s.running task = true ∨ ended task
  coming : phase.networks ⊆ desired
  wanted : ∀ id task, s.handles.get id = some task → phase.MayHold kind desired id
  attempted : ∀ network ∈ desired, kind.isConnected network = true →
    phase.Ahead network ∨ Attempted kind since s (kind.networkId network)

namespace ManagerState

/-- A running task that something elsewhere stops has ended by itself. -/
theorem elsewhere_running (e : ManagerEvent M) {task : Attempt} (runs : s.running task = true) :
    (s.elsewhere kind e).running task = true ∨ e = .ended task := by
  cases e with
  | ended attempt =>
    by_cases same : task = attempt
    · exact .inr (same ▸ rfl)
    · exact .inl ((update_of_ne same _ _).trans runs)
  | flagged attempt online =>
    rw [elsewhere]
    split
    · rw [setOnline]
      split <;> exact .inl runs
    · exact .inl runs
  | advertised attempt models =>
    rw [elsewhere]
    split <;> exact .inl runs
  | _ => exact .inl runs

/-- Stopping a network leaves the tasks of the others running. -/
theorem Supervised.stop_running (ok : s.Supervised kind) {id other : String} {task : Attempt}
    (held : s.handles.get other = some task) (differs : other ≠ id) :
    (s.stopNetwork kind id).running task = s.running task := by
  have another : s.handles.get id ≠ some task := fun same =>
    differs ((ok.networkOf_held held).symm.trans (ok.networkOf_held same))
  simp [stopNetwork, syncStatusList, another]

end ManagerState

open ManagerState

variable {since : Attempt} {id : String}

theorem Attempted.same (tried : Attempted kind since s id) (same : SameTasks s s') :
    Attempted kind since s' id := by
  rw [Attempted, same.handles, same.attempts, same.networkOf]
  exact tried

theorem Attempted.spawn (tried : Attempted kind since s id) {network : String}
    (spawned : Spawned kind s network s') : Attempted kind since s' id := by
  cases spawned with
  | held _ => exact tried
  | failed none_ _ =>
    obtain ⟨task, found⟩ | ⟨attempt, late, made, of, fails⟩ := tried
    · exact .inl ⟨task, found⟩
    · refine .inr ⟨attempt, late, Nat.lt_succ_of_lt made, ?_, fails⟩
      exact (update_of_ne (Nat.ne_of_lt made) _ _).trans of
  | ran none_ _ handles running txs attempts networkOf =>
    obtain ⟨task, found⟩ | ⟨attempt, late, made, of, fails⟩ := tried
    · refine .inl ?_
      rw [handles, VisitedMap.get_insert]
      split
      · exact ⟨_, rfl⟩
      · exact ⟨task, found⟩
    · refine .inr ⟨attempt, late, ?_, ?_, fails⟩
      · rw [attempts]
        exact Nat.lt_succ_of_lt made
      · rw [networkOf, update_of_ne (Nat.ne_of_lt made), of]

/-- The network that an attempt is made for has been attempted. -/
theorem attempted_of_spawned (begun : since ≤ s.attempts) (spawned : Spawned kind s id s') :
    Attempted kind since s' id := by
  cases spawned with
  | held has => exact .inl ⟨_, has⟩
  | failed none_ fails =>
    exact .inr ⟨s.attempts, begun, Nat.lt_succ_self _, update_self _ _ _, fails⟩
  | ran none_ _ handles running txs attempts networkOf =>
    refine .inl ⟨s.attempts, ?_⟩
    rw [handles, VisitedMap.get_insert_self]

namespace Reconciling

variable {ended : Attempt → Prop} {phase : ReconcilePhase M}

theorem same (it : Reconciling kind desired since ended phase s) (same : SameTasks s s')
    (ends : ∀ task, s.running task = true → s'.running task = true ∨ ended task) :
    Reconciling kind desired since ended phase s' where
  ok := it.ok.same same
  begun := by
    rw [same.attempts]
    exact it.begun
  alive later other task found := by
    rw [same.handles] at found
    obtain runs | gone := it.alive later other task found
    · exact ends task runs
    · exact .inr gone
  coming := it.coming
  wanted other task found := it.wanted other task (same.handles other ▸ found)
  attempted network member wants :=
    (it.attempted network member wants).imp_right fun tried => tried.same same

theorem rules (between : List (ManagerEvent M)) :
    PhaseRules kind desired (· ∈ between)
      (Reconciling kind desired since fun task => .ended task ∈ between) where
  anyWork _ it := it.same ⟨fun _ => rfl, fun _ _ => rfl, rfl, rfl, fun _ runs => runs⟩
    fun _ runs => .inl runs
  elsewhere := by
    intro phase s e member it
    refine it.same (elsewhere_same e) fun task runs => ?_
    refine (elsewhere_running e runs).imp_right fun same => ?_
    rwa [same] at member
  reap := by
    intro s it
    obtain ⟨-, attempts, -, running, -⟩ := reapFinishedTasks_rest kind s
    refine ⟨it.ok.reap, attempts ▸ it.begun, fun _ other task found => ?_, List.nil_subset _, fun _ _ _ => trivial,
      fun _ _ _ => .inl trivial⟩
    rw [reapFinishedTasks_handles, VisitedMap.get_retain, Option.filter_eq_some_iff] at found
    rw [running]
    exact .inl found.2
  choose := by
    intro s it
    refine ⟨it.ok, it.begun, fun _ => it.alive trivial, List.nil_subset _, fun other task found => ?_,
      fun _ _ _ => .inl trivial⟩
    cases keeps : shouldStop kind desired other with
    | false => exact .inl (wanted_of_kept keeps)
    | true => exact .inr (List.mem_filter.mpr ⟨VisitedMap.mem_keys.mpr ⟨task, found⟩, keeps⟩)
  stop := by
    intro s id stops it
    have kept : ∀ other task, (s.stopNetwork kind id).handles.get other = some task →
        other ≠ id ∧ s.handles.get other = some task := by
      intro other task found
      have found : (s.handles.remove id).get other = some task := found
      rw [VisitedMap.get_remove] at found
      split at found
      · cases found
      · exact ⟨by assumption, found⟩
    refine ⟨it.ok.stop id, it.begun, fun _ other task found => ?_, List.nil_subset _, fun other task found => ?_,
      fun _ _ _ => .inl trivial⟩
    · obtain ⟨differs, before⟩ := kept other task found
      rw [it.ok.stop_running before differs]
      exact it.alive trivial other task before
    · obtain ⟨differs, before⟩ := kept other task found
      exact (it.wanted other task before).imp_right fun member =>
        (List.mem_cons.mp member).resolve_left differs
  stopped it := ⟨it.ok, it.begun, fun _ => it.alive trivial, List.Subset.refl _,
    fun other task found => (it.wanted other task found).resolve_right List.not_mem_nil,
    fun _ member _ => .inl member⟩
  skip := by
    intro s network rest unwanted it
    refine ⟨it.ok, it.begun, fun _ => it.alive trivial, List.subset_of_cons_subset it.coming,
      it.wanted, fun other member wants => ?_⟩
    refine (it.attempted other member wants).imp_left fun left => ?_
    rcases List.mem_cons.mp left with rfl | later
    · rw [unwanted] at wants
      cases wants
    · exact later
  spawn := by
    intro s s' network rest wants it spawned
    have tried : ∀ other ∈ desired, kind.isConnected other = true →
        other ∈ rest ∨ Attempted kind since s' (kind.networkId other) := by
      intro other member wantsIt
      obtain ahead | tried := it.attempted other member wantsIt
      · rcases List.mem_cons.mp ahead with rfl | later
        · exact .inr (attempted_of_spawned it.begun spawned)
        · exact .inl later
      · exact .inr (tried.spawn spawned)
    have ok := it.ok.spawn spawned
    have begun := it.begun
    have coming : rest ⊆ desired := List.subset_of_cons_subset it.coming
    cases spawned with
    | held _ => exact ⟨ok, begun, fun _ => it.alive trivial, coming, it.wanted, tried⟩
    | failed none_ _ =>
      exact ⟨ok, Nat.le_succ_of_le begun, fun _ => it.alive trivial, coming, it.wanted, tried⟩
    | ran none_ _ handles running txs attempts networkOf =>
      refine ⟨ok, by rw [attempts]; exact Nat.le_succ_of_le begun, ?_, coming, ?_, tried⟩
      · intro _ other task found
        rw [handles, VisitedMap.get_insert] at found
        rw [running]
        split at found
        · cases found
          exact .inl (update_self _ _ _)
        · have made := (it.ok.opened .cmd _ _ (it.ok.held other task found)).1
          rw [update_of_ne (Nat.ne_of_lt made)]
          exact it.alive trivial other task found
      · intro other task found
        rw [handles, VisitedMap.get_insert] at found
        split at found
        · rename_i same
          exact ⟨network, it.coming List.mem_cons_self, wants, same.symm⟩
        · exact it.wanted other task found
  sync it := ⟨it.ok.same ⟨fun _ => rfl, fun _ _ => rfl, rfl, rfl, fun _ runs => runs⟩, it.begun,
    fun _ => it.alive trivial, List.nil_subset _, it.wanted,
    fun network member wants => .inr ((it.attempted network member wants).resolve_left List.not_mem_nil)⟩

end Reconciling

/-- In every run, when a notification has been worked off, the networks with a task are those
that the configuration had connected, apart from those for which an attempt made meanwhile has
failed; each of the tasks runs unless it has ended meanwhile. -/
theorem reconciled_tasks (configured : List M) (networkModels peerRegistry isPeerBlocked)
    (events between : List (ManagerEvent M)) :
    let s := (networkManager kind).after
      (newManager configured networkModels peerRegistry isPeerBlocked) events
    let s' := (networkManager kind).after s (.notified :: between)
    WorkedOff kind s between →
    (∀ id task, s'.handles.get id = some task → Wanted kind s.configured id ∧
      (s'.running task = true ∨ .ended task ∈ between)) ∧
    ∀ id, Wanted kind s.configured id → (∃ task, s'.handles.get id = some task) ∨
      ∃ attempt, s.attempts ≤ attempt ∧ attempt < s'.attempts ∧ s'.networkOf attempt = id ∧
        kind.constructs attempt = false := by
  intro s s' worked
  have ok : s.Supervised kind := Supervised.after
    (newManager_supervised configured networkModels peerRegistry isPeerBlocked) events
  have finished := worked.finish (Reconciling.rules between) ⟨ok, Nat.le_refl _, fun reaped => reaped.elim,
    List.nil_subset _, fun _ _ _ => trivial, fun _ _ _ => .inl trivial⟩
  refine ⟨fun id task found => ⟨finished.wanted id task found, finished.alive trivial id task found⟩, ?_⟩
  rintro id ⟨network, member, wants, rfl⟩
  exact (finished.attempted network member wants).resolve_left fun ahead => ahead

def joinedSwarm (id : String) : StoredSwarm := createSwarmMembership id none "t" []

/-- Two swarms that are joined, and what happens before the notification. -/
def joinedSwarms (before : List (ManagerEvent StoredSwarm)) : ManagerState StoredSwarm :=
  (networkManager swarmKind).after (newManager [joinedSwarm "a", joinedSwarm "b"] .empty .empty fun _ => false)
    (List.replicate 4 .work ++ before)

/-- The first of two swarms is left and a third one is joined; meanwhile the task of the second
ends. -/
theorem reconciled_tasks_left_and_joined :
    let s := joinedSwarms [.configured [joinedSwarm "b", joinedSwarm "c"]]
    let s' := (networkManager swarmKind).after s
      (.notified :: [.work, .work, .ended 1, .work, .work, .work, .work])
    s'.handles.entries = [("b", 1), ("c", 2)] ∧ s'.running 1 = false ∧
      ∀ id task, s'.handles.get id = some task → s'.running task = true ∨ task = 1 := by
  refine ⟨by decide +kernel, by decide +kernel, fun id task found => ?_⟩
  have worked : WorkedOff swarmKind (joinedSwarms [.configured [joinedSwarm "b", joinedSwarm "c"]])
      [.work, .work, .ended 1, .work, .work, .work, .work] :=
    ⟨List.isEmpty_iff.mp (by decide +kernel), by decide +kernel, List.isEmpty_iff.mp (by decide +kernel)⟩
  exact ((reconciled_tasks _ _ _ _ _ _ worked).1 id task found).2.imp_right fun member => by
    simpa using member

/-! ## What is forgotten -/

theorem ManagerState.Spawned.others {network : String} (spawned : Spawned kind s network s')
    (differs : id ≠ network) : s'.handles.get id = s.handles.get id ∧
      ∀ channel, (s'.txs channel).get id = (s.txs channel).get id := by
  have opened : ∀ channel, ((s.openChannels kind network).txs channel).get id = (s.txs channel).get id := by
    intro channel
    rw [openChannels_get, if_neg fun both => differs both.2]
  cases spawned with
  | held _ => exact ⟨rfl, fun _ => rfl⟩
  | failed _ _ => exact ⟨rfl, opened⟩
  | ran none_ _ handles running txs attempts networkOf =>
    refine ⟨?_, ?_⟩
    · rw [handles, VisitedMap.get_insert, if_neg differs]
    · rw [txs]
      exact opened

/-- A network that is to be stopped waits for its turn. -/
def ReconcilePhase.Waits (id : String) : ReconcilePhase M → Prop
  | .reaping | .choosing => True
  | .stopping stops => id ∈ stops
  | .spawning _ | .finished => False

/-- A network that is not wanted has its running task until its turn to be stopped, and then
neither a handle nor a sender. -/
structure Forgetting (kind : ManagerKind M) (desired : List M) (id : String) (task : Attempt)
    (phase : ReconcilePhase M) (s : ManagerState M) : Prop where
  ok : s.Supervised kind
  coming : phase.networks ⊆ desired
  forgets : (phase.Waits id ∧ s.handles.get id = some task ∧ s.running task = true) ∨
    s.handles.get id = none ∧ ∀ channel, (s.txs channel).get id = none

/-- A network that is not wanted and whose task has ended has no handle from the reaping on,
so it is not stopped and keeps its senders. -/
structure Keeping (kind : ManagerKind M) (desired : List M) (id : String)
    (senders : TaskChannel → Option Attempt) (phase : ReconcilePhase M) (s : ManagerState M) : Prop where
  coming : phase.networks ⊆ desired
  ended : ∀ task, s.handles.get id = some task → s.running task = false
  reaped : phase.Reaped → s.handles.get id = none
  passed : id ∉ phase.stops
  keeps : ∀ channel, (s.txs channel).get id = senders channel

section Unwanted

variable (unwanted : ¬ Wanted kind desired id)
include unwanted

private theorem Wanted.differs {network : M} (member : network ∈ desired)
    (wants : kind.isConnected network = true) : id ≠ kind.networkId network :=
  fun same => unwanted ⟨network, member, wants, same.symm⟩

theorem Forgetting.rules {task : Attempt} {between : List (ManagerEvent M)}
    (runs : .ended task ∉ between) :
    PhaseRules kind desired (· ∈ between) (Forgetting kind desired id task) where
  anyWork _ it := ⟨it.ok.same ⟨fun _ => rfl, fun _ _ => rfl, rfl, rfl, fun _ runs => runs⟩, it.coming,
    it.forgets⟩
  elsewhere := by
    intro phase s e member it
    have same : SameTasks s (s.elsewhere kind e) := elsewhere_same e
    refine ⟨it.ok.same same, it.coming, ?_⟩
    rw [same.handles]
    obtain ⟨waits, held, alive⟩ | ⟨none_, gone⟩ := it.forgets
    · refine .inl ⟨waits, held, ?_⟩
      have runsOn : (s.elsewhere kind e).running task = true ∨ e = .ended task := elsewhere_running e alive
      obtain alive | gone := runsOn
      · exact alive
      · rw [gone] at member
        exact absurd member runs
    · exact .inr ⟨none_, fun channel => (same.txs channel id).trans (gone channel)⟩
  reap := by
    intro s it
    obtain ⟨txs, -, -, running, -⟩ := reapFinishedTasks_rest kind s
    refine ⟨it.ok.reap, List.nil_subset _, ?_⟩
    rw [reapFinishedTasks_handles, VisitedMap.get_retain, txs, running]
    obtain ⟨waits, held, alive⟩ | ⟨none_, gone⟩ := it.forgets
    · exact .inl ⟨trivial, by rw [held, Option.filter_some, if_pos alive], alive⟩
    · exact .inr ⟨by rw [none_, Option.filter_none], gone⟩
  choose := by
    intro s it
    refine ⟨it.ok, List.nil_subset _, it.forgets.imp_left fun waiting => ⟨?_, waiting.2⟩⟩
    refine List.mem_filter.mpr ⟨VisitedMap.mem_keys.mpr ⟨task, waiting.2.1⟩, ?_⟩
    by_contra keeps
    exact unwanted (wanted_of_kept (Bool.not_eq_true _ ▸ keeps))
  stop := by
    intro s other stops it
    have gone_ : other = id → (s.stopNetwork kind other).handles.get id = none ∧
        ∀ channel, ((s.stopNetwork kind other).txs channel).get id = none := by
      rintro rfl
      exact ⟨VisitedMap.get_remove_self, fun _ => VisitedMap.get_remove_self⟩
    refine ⟨it.ok.stop other, List.nil_subset _, ?_⟩
    by_cases same : other = id
    · exact .inr (gone_ same)
    · have handles : (s.stopNetwork kind other).handles.get id = s.handles.get id :=
        VisitedMap.get_remove.trans (if_neg fun eq => same eq.symm)
      have txs : ∀ channel, ((s.stopNetwork kind other).txs channel).get id = (s.txs channel).get id :=
        fun _ => VisitedMap.get_remove.trans (if_neg fun eq => same eq.symm)
      rw [handles]
      obtain ⟨waits, held, alive⟩ | ⟨none_, gone⟩ := it.forgets
      · refine .inl ⟨(List.mem_cons.mp waits).resolve_left fun eq => same eq.symm, held, ?_⟩
        rw [it.ok.stop_running held fun eq => same eq.symm]
        exact alive
      · exact .inr ⟨none_, fun channel => (txs channel).trans (gone channel)⟩
  stopped := by
    intro s it
    refine ⟨it.ok, List.Subset.refl _, .inr ?_⟩
    exact it.forgets.resolve_left fun waiting => absurd waiting.1 List.not_mem_nil
  skip := by
    intro s network rest _ it
    exact ⟨it.ok, List.subset_of_cons_subset it.coming, it.forgets⟩
  spawn := by
    intro s s' network rest wants it spawned
    have differs := Wanted.differs unwanted (it.coming List.mem_cons_self) wants
    obtain ⟨handles, txs⟩ := spawned.others differs
    obtain ⟨none_, gone⟩ := it.forgets.resolve_left fun waiting => waiting.1
    exact ⟨it.ok.spawn spawned, List.subset_of_cons_subset it.coming,
      .inr ⟨handles.trans none_, fun channel => (txs channel).trans (gone channel)⟩⟩
  sync it := ⟨it.ok.same ⟨fun _ => rfl, fun _ _ => rfl, rfl, rfl, fun _ runs => runs⟩,
    List.nil_subset _, it.forgets⟩

theorem Keeping.rules {senders : TaskChannel → Option Attempt} {allowed : ManagerEvent M → Prop} :
    PhaseRules kind desired allowed (Keeping kind desired id senders) where
  anyWork _ it := ⟨it.coming, it.ended, it.reaped, it.passed, it.keeps⟩
  elsewhere := by
    intro phase s e _ it
    have same : SameTasks s (s.elsewhere kind e) := elsewhere_same e
    refine ⟨it.coming, fun task found => ?_, fun reaped => ?_, it.passed, fun channel => ?_⟩
    · rw [same.handles] at found
      by_contra runs
      have gone := it.ended task found
      rw [same.running task (Bool.not_eq_false _ ▸ runs)] at gone
      cases gone
    · rw [same.handles, it.reaped reaped]
    · rw [same.txs, it.keeps]
  reap := by
    intro s it
    have none_ : (s.reapFinishedTasks kind).handles.get id = none := by
      rw [reapFinishedTasks_handles, VisitedMap.get_retain, Option.filter_eq_none_iff]
      intro task found runs
      rw [it.ended task found] at runs
      cases runs
    refine ⟨List.nil_subset _, fun task found => ?_, fun _ => none_, List.not_mem_nil, ?_⟩
    · rw [none_] at found
      cases found
    · rw [(reapFinishedTasks_rest kind s).1]
      exact it.keeps
  choose := by
    intro s it
    refine ⟨List.nil_subset _, it.ended, fun _ => it.reaped trivial, ?_, it.keeps⟩
    intro member
    obtain ⟨task, found⟩ := VisitedMap.mem_keys.mp (List.mem_filter.mp member).1
    rw [it.reaped trivial] at found
    cases found
  stop := by
    intro s other stops it
    have differs : id ≠ other := fun same => it.passed (same ▸ List.mem_cons_self)
    have handles : (s.stopNetwork kind other).handles.get id = none :=
      (VisitedMap.get_remove.trans (if_neg differs)).trans (it.reaped trivial)
    refine ⟨List.nil_subset _, fun task found => ?_, fun _ => handles,
      fun member => it.passed (List.mem_cons_of_mem _ member), fun channel => ?_⟩
    · rw [handles] at found
      cases found
    · exact (VisitedMap.get_remove.trans (if_neg differs)).trans (it.keeps channel)
  stopped it := ⟨List.Subset.refl _, it.ended, fun _ => it.reaped trivial, List.not_mem_nil, it.keeps⟩
  skip _ it := ⟨List.subset_of_cons_subset it.coming, it.ended, it.reaped, List.not_mem_nil, it.keeps⟩
  spawn := by
    intro s s' network rest wants it spawned
    obtain ⟨handles, txs⟩ :=
      spawned.others (Wanted.differs unwanted (it.coming List.mem_cons_self) wants)
    have none_ := handles.trans (it.reaped trivial)
    refine ⟨List.subset_of_cons_subset it.coming, fun task found => ?_, fun _ => none_,
      List.not_mem_nil, fun channel => (txs channel).trans (it.keeps channel)⟩
    rw [none_] at found
    cases found
  sync it := ⟨List.nil_subset _, it.ended, it.reaped, List.not_mem_nil, it.keeps⟩

end Unwanted

/-- In every run, a notification that has been worked off has taken every sender from a network
that is no longer wanted if its task ran on to the end; if its task had ended before, the
network has kept its senders, into which messages go down. -/
theorem reconciled_senders (configured : List M) (networkModels peerRegistry isPeerBlocked)
    (events between : List (ManagerEvent M)) (id : String) :
    let s := (networkManager kind).after
      (newManager configured networkModels peerRegistry isPeerBlocked) events
    let s' := (networkManager kind).after s (.notified :: between)
    WorkedOff kind s between → ¬ Wanted kind s.configured id →
    (∀ task, s.running task = true → s.networkOf task = id → .ended task ∉ between →
      ∀ channel, (s'.txs channel).get id = none) ∧
    ((∀ task, s.running task = true → s.networkOf task ≠ id) →
      ∀ channel, (s'.txs channel).get id = (s.txs channel).get id) := by
  intro s s' worked unwanted
  have ok : s.Supervised kind := Supervised.after
    (newManager_supervised configured networkModels peerRegistry isPeerBlocked) events
  refine ⟨?_, ?_⟩
  · rintro task runs rfl on channel
    have finished := worked.finish (Forgetting.rules unwanted on)
      ⟨ok, List.nil_subset _, .inl ⟨trivial, (ok.alive task runs).2, runs⟩⟩
    exact (finished.forgets.resolve_left fun waiting => waiting.1).2 channel
  · intro none_
    refine (worked.finish (Keeping.rules unwanted) ⟨List.nil_subset _, fun task found => ?_,
      fun reaped => reaped.elim, List.not_mem_nil, fun _ => rfl⟩).keeps
    by_contra runs
    exact none_ task (Bool.not_eq_false _ ▸ runs) (ok.networkOf_held found)

/-- Two swarms are left, after the task of the second has ended: the first has lost its
senders, and the second has kept them. -/
theorem reconciled_senders_left :
    let s := joinedSwarms [.configured [], .ended 1]
    let s' := (networkManager swarmKind).after s (.notified :: [.work, .work, .work, .work])
    (∀ channel, (s'.txs channel).get "a" = none) ∧
      ∀ channel, (s'.txs channel).get "b" = (s.txs channel).get "b" := by
  have worked : WorkedOff swarmKind (joinedSwarms [.configured [], .ended 1])
      [.work, .work, .work, .work] :=
    ⟨List.isEmpty_iff.mp (by decide +kernel), by decide +kernel, List.isEmpty_iff.mp (by decide +kernel)⟩
  have unwanted : ∀ id, ¬ Wanted swarmKind (joinedSwarms [.configured [], .ended 1]).configured id := by
    rintro id ⟨network, member, -⟩
    have none_ : (joinedSwarms [.configured [], .ended 1]).configured = [] :=
      List.isEmpty_iff.mp (by decide +kernel)
    rw [none_] at member
    cases member
  have ok : (joinedSwarms [.configured [], .ended 1]).Supervised swarmKind :=
    Supervised.after (newManager_supervised _ _ _ _) _
  refine ⟨?_, ?_⟩
  · exact (reconciled_senders _ _ _ _ _ _ "a" worked (unwanted "a")).1 0 (by decide +kernel)
      (by decide +kernel) (by simp)
  · apply (reconciled_senders _ _ _ _ _ _ "b" worked (unwanted "b")).2
    intro task runs of
    have of : (joinedSwarms [.configured [], .ended 1]).networkOf task = "b" := of
    have held : (joinedSwarms [.configured [], .ended 1]).handles.get "b" = some 1 := by decide +kernel
    have own := (ok.alive task runs).2
    rw [of, held] at own
    obtain rfl := Option.some.inj own
    have gone : (joinedSwarms [.configured [], .ended 1]).running 1 = false := by decide +kernel
    exact absurd runs (Bool.eq_false_iff.mp gone)

end MtrxPeer
