import MtrxPeer.NetworkManagers

/-! The tasks that a manager of networks runs: one for a network at most, never without its
handle and its senders, whatever happens between the pieces of the manager's work. -/
namespace MtrxPeer

open Function (update update_of_ne update_self)

variable {M : Type} {kind : ManagerKind M} {s s' : ManagerState M}

/-- A manager that has not begun to run. -/
def newManager (configured : List M) (networkModels : VisitedMap String (List Json))
    (peerRegistry : VisitedMap String DirectedPeer) (isPeerBlocked : String → Bool) :
    ManagerState M where
  configured := configured
  handles := .empty
  txs _ := .empty
  attempts := 0
  networkOf _ := ""
  running _ := false
  online := .empty
  networkModels := networkModels
  peerRegistry := peerRegistry
  isPeerBlocked := isPeerBlocked
  thermalActive := false
  statuses := []
  work := [.start]

theorem NetworkScope.cmd_mem_channels (scope : NetworkScope) : .cmd ∈ scope.channels := by
  cases scope <;> simp [channels]

namespace ManagerState

/-- What the manager knows of its tasks is the same, up to the order of the maps; tasks may
have ended. -/
structure SameTasks (s s' : ManagerState M) : Prop where
  handles : ∀ id, s'.handles.get id = s.handles.get id
  txs : ∀ channel id, (s'.txs channel).get id = (s.txs channel).get id
  attempts : s'.attempts = s.attempts
  networkOf : s'.networkOf = s.networkOf
  running : ∀ task, s'.running task = true → s.running task = true

theorem SameTasks.refl (s : ManagerState M) : SameTasks s s :=
  ⟨fun _ => rfl, fun _ _ => rfl, rfl, rfl, fun _ runs => runs⟩

/-! ## The operations -/

theorem setOnline_same (id : String) (online : Bool) : SameTasks s (s.setOnline kind id online) := by
  rw [setOnline]
  split <;> exact ⟨fun _ => rfl, fun _ _ => rfl, rfl, rfl, fun _ runs => runs⟩

theorem setOnline_work (id : String) (online : Bool) : (s.setOnline kind id online).work = s.work := by
  rw [setOnline]
  split <;> rfl

theorem construct_rest (kind : ManagerKind M) (s : ManagerState M) (id : String) :
    (s.construct kind id).txs = s.txs ∧
    (s.construct kind id).attempts = s.attempts ∧ (s.construct kind id).networkOf = s.networkOf := by
  rw [construct]
  split
  · rw [setOnline]
    split <;> exact ⟨rfl, rfl, rfl⟩
  · exact ⟨rfl, rfl, rfl⟩

/-- A reaping drops the handles of tasks that have ended. -/
theorem reapFinishedTasks_handles :
    (s.reapFinishedTasks kind).handles = s.handles.retain fun _ task => s.running task := by
  rw [reapFinishedTasks]
  split
  · rfl
  · rw [reapFinishedSwarmTasks]
    split <;> rfl

theorem reapFinishedTasks_rest (kind : ManagerKind M) (s : ManagerState M) :
    (s.reapFinishedTasks kind).txs = s.txs ∧
    (s.reapFinishedTasks kind).attempts = s.attempts ∧
    (s.reapFinishedTasks kind).networkOf = s.networkOf ∧
    (s.reapFinishedTasks kind).running = s.running ∧
    (s.reapFinishedTasks kind).configured = s.configured := by
  rw [reapFinishedTasks]
  split
  · exact ⟨rfl, rfl, rfl, rfl, rfl⟩
  · rw [reapFinishedSwarmTasks]
    split <;> exact ⟨rfl, rfl, rfl, rfl, rfl⟩

/-- What an attempt at a network comes to. -/
inductive Spawned (kind : ManagerKind M) (s : ManagerState M) (id : String) : ManagerState M → Prop where
  | held {task : Attempt} (has : s.handles.get id = some task) : Spawned kind s id s
  | failed (none_ : s.handles.get id = none) (fails : kind.constructs s.attempts = false) :
      Spawned kind s id (s.openChannels kind id)
  | ran (none_ : s.handles.get id = none) (constructed : kind.constructs s.attempts = true)
      {s' : ManagerState M} (handles : s'.handles = s.handles.insert id s.attempts)
      (running : s'.running = update s.running s.attempts true)
      (txs : s'.txs = (s.openChannels kind id).txs) (attempts : s'.attempts = s.attempts + 1)
      (networkOf : s'.networkOf = update s.networkOf s.attempts id) : Spawned kind s id s'

theorem spawnNetwork_spawned (network : M) :
    Spawned kind s (kind.networkId network) (s.spawnNetwork kind network) := by
  simp only [spawnNetwork]
  split
  · rename_i has
    obtain ⟨task, found⟩ := Option.isSome_iff_exists.mp has
    exact .held found
  · rename_i absent
    have none_ := VisitedMap.contains_eq_false.mp (Bool.not_eq_true _ ▸ absent)
    split
    · rename_i constructed
      obtain ⟨txs, attempts, networkOf⟩ :=
        construct_rest kind (s.openChannels kind (kind.networkId network)) (kind.networkId network)
      exact .ran none_ constructed rfl rfl txs attempts networkOf
    · rename_i fails
      exact .failed none_ (Bool.not_eq_true _ ▸ fails)

theorem openChannels_get (id : String) (channel : TaskChannel) (other : String) :
    ((s.openChannels kind id).txs channel).get other =
      if channel ∈ kind.scope.channels ∧ other = id then some s.attempts
      else (s.txs channel).get other := by
  simp only [openChannels]
  split
  · rename_i has
    rw [VisitedMap.get_insert]
    simp [has]
  · rename_i hasNot
    simp [hasNot]

/-- Nothing that happens elsewhere changes what the manager knows of its tasks. -/
theorem elsewhere_same (e : ManagerEvent M) : SameTasks s (s.elsewhere kind e) := by
  cases e with
  | ended attempt =>
    refine ⟨fun _ => rfl, fun _ _ => rfl, rfl, rfl, fun task runs => ?_⟩
    simp only [elsewhere] at runs
    by_cases same : task = attempt
    · rw [same, update_self] at runs
      cases runs
    · rwa [update_of_ne same] at runs
  | flagged attempt online =>
    rw [elsewhere]
    split
    · exact setOnline_same _ _
    · exact .refl s
  | advertised attempt models =>
    rw [elsewhere]
    split
    · exact ⟨fun _ => rfl, fun _ _ => rfl, rfl, rfl, fun _ runs => runs⟩
    · exact .refl s
  | reorderedHandles order =>
    exact ⟨fun _ => VisitedMap.get_reorder, fun _ _ => rfl, rfl, rfl, fun _ runs => runs⟩
  | reorderedTxs channel order =>
    refine ⟨fun _ => rfl, fun other id => ?_, rfl, rfl, fun _ runs => runs⟩
    change (update s.txs channel ((s.txs channel).reorder order) other).get id = _
    by_cases same : other = channel
    · rw [same, update_self, VisitedMap.get_reorder]
    · rw [update_of_ne same]
  | _ => exact ⟨fun _ => rfl, fun _ _ => rfl, rfl, rfl, fun _ runs => runs⟩

theorem elsewhere_work (e : ManagerEvent M) : (s.elsewhere kind e).work = s.work := by
  cases e with
  | flagged attempt online =>
    rw [elsewhere]
    split
    · exact setOnline_work _ _
    · rfl
  | advertised attempt models =>
    rw [elsewhere]
    split <;> rfl
  | _ => rfl

/-! ## The invariant -/

/-- Senders belong to attempts at their network, the senders of a network to one attempt; a
handle is that of the attempt the senders belong to, and every task that runs has its handle. -/
structure Supervised (kind : ManagerKind M) (s : ManagerState M) : Prop where
  opened : ∀ channel id task, (s.txs channel).get id = some task →
    task < s.attempts ∧ s.networkOf task = id
  together : ∀ channel ∈ kind.scope.channels, ∀ id,
    (s.txs channel).get id = (s.txs .cmd).get id
  held : ∀ id task, s.handles.get id = some task → (s.txs .cmd).get id = some task
  alive : ∀ task, s.running task = true →
    task < s.attempts ∧ s.handles.get (s.networkOf task) = some task

theorem Supervised.same (ok : Supervised kind s) (same : SameTasks s s') : Supervised kind s' where
  opened channel id task found := by
    rw [same.attempts, same.networkOf]
    exact ok.opened channel id task (same.txs channel id ▸ found)
  together channel has id := by
    rw [same.txs, same.txs]
    exact ok.together channel has id
  held id task found := by
    rw [same.txs]
    exact ok.held id task (same.handles id ▸ found)
  alive task runs := by
    rw [same.attempts, same.networkOf, same.handles]
    exact ok.alive task (same.running task runs)

theorem Supervised.networkOf_held (ok : Supervised kind s) {id : String} {task : Attempt}
    (found : s.handles.get id = some task) : s.networkOf task = id :=
  (ok.opened .cmd id task (ok.held id task found)).2

theorem Supervised.reap (ok : Supervised kind s) : Supervised kind (s.reapFinishedTasks kind) := by
  obtain ⟨txs, attempts, networkOf, running, -⟩ := reapFinishedTasks_rest kind s
  refine ⟨?_, ?_, ?_, ?_⟩
  · rw [txs, attempts, networkOf]
    exact ok.opened
  · rw [txs]
    exact ok.together
  · intro id task found
    rw [reapFinishedTasks_handles, VisitedMap.get_retain, Option.filter_eq_some_iff] at found
    rw [txs]
    exact ok.held id task found.1
  · intro task runs
    rw [running] at runs
    obtain ⟨made, found⟩ := ok.alive task runs
    rw [attempts, networkOf, reapFinishedTasks_handles, VisitedMap.get_retain, found]
    exact ⟨made, by rw [Option.filter_some, if_pos runs]⟩

theorem Supervised.stop (ok : Supervised kind s) (id : String) :
    Supervised kind (s.stopNetwork kind id) := by
  refine ⟨?_, ?_, ?_, ?_⟩
  · intro channel other task found
    have found : ((s.txs channel).remove id).get other = some task := found
    rw [VisitedMap.get_remove] at found
    split at found
    · cases found
    · exact ok.opened channel other task found
  · intro channel has other
    have before := ok.together channel has other
    change ((s.txs channel).remove id).get other = ((s.txs .cmd).remove id).get other
    rw [VisitedMap.get_remove, VisitedMap.get_remove, before]
  · intro other task found
    have found : (s.handles.remove id).get other = some task := found
    change ((s.txs .cmd).remove id).get other = some task
    rw [VisitedMap.get_remove] at found ⊢
    split at found
    · cases found
    · rename_i differs
      rw [if_neg differs]
      exact ok.held other task found
  · intro task runs
    have before : s.running task = true ∧ s.handles.get id ≠ some task := by
      simpa [stopNetwork, syncStatusList] using runs
    obtain ⟨made, found⟩ := ok.alive task before.1
    refine ⟨made, ?_⟩
    change (s.handles.remove id).get (s.networkOf task) = some task
    rw [VisitedMap.get_remove, if_neg, found]
    intro same
    exact before.2 (same ▸ found)

/-- The senders of a new attempt. -/
theorem Supervised.opening (ok : Supervised kind s) (id : String) :
    (∀ channel other task, ((s.openChannels kind id).txs channel).get other = some task →
      task < s.attempts + 1 ∧ update s.networkOf s.attempts id task = other) ∧
    (∀ channel ∈ kind.scope.channels, ∀ other, ((s.openChannels kind id).txs channel).get other =
      ((s.openChannels kind id).txs .cmd).get other) := by
  refine ⟨?_, ?_⟩
  · intro channel other task found
    rw [openChannels_get] at found
    split at found
    · rename_i opened
      cases found
      exact ⟨Nat.lt_succ_self _, by rw [update_self, opened.2]⟩
    · obtain ⟨made, network⟩ := ok.opened channel other task found
      exact ⟨Nat.lt_succ_of_lt made, by rw [update_of_ne (Nat.ne_of_lt made), network]⟩
  · intro channel has other
    rw [openChannels_get, openChannels_get, ok.together channel has other]
    simp [has, kind.scope.cmd_mem_channels]

theorem Supervised.spawn (ok : Supervised kind s) {id : String} (spawned : Spawned kind s id s') :
    Supervised kind s' := by
  cases spawned with
  | held _ => exact ok
  | failed none_ _ =>
    obtain ⟨opened, together⟩ := ok.opening id
    refine ⟨opened, together, ?_, ?_⟩
    · intro other task found
      have before : s.handles.get other = some task := found
      rw [openChannels_get, if_neg, ok.held other task before]
      rintro ⟨-, rfl⟩
      rw [none_] at before
      cases before
    · intro task runs
      obtain ⟨made, found⟩ := ok.alive task runs
      refine ⟨Nat.lt_succ_of_lt made, ?_⟩
      change s.handles.get (update s.networkOf s.attempts id task) = some task
      rw [update_of_ne (Nat.ne_of_lt made), found]
  | ran none_ _ handles running txs attempts networkOf =>
    obtain ⟨opened, together⟩ := ok.opening id
    refine ⟨?_, ?_, ?_, ?_⟩
    · rw [txs, attempts, networkOf]
      exact opened
    · rw [txs]
      exact together
    · intro other task found
      rw [handles, VisitedMap.get_insert] at found
      rw [txs, openChannels_get]
      split at found
      · rename_i same
        rw [if_pos ⟨kind.scope.cmd_mem_channels, same⟩, found]
      · rename_i differs
        rw [if_neg fun both => differs both.2, ok.held other task found]
    · intro task runs
      rw [running] at runs
      rw [attempts, networkOf, handles, VisitedMap.get_insert]
      by_cases new : task = s.attempts
      · rw [new, update_self, if_pos rfl]
        exact ⟨Nat.lt_succ_self _, rfl⟩
      · rw [update_of_ne new] at runs
        obtain ⟨made, found⟩ := ok.alive task runs
        rw [update_of_ne new, if_neg, found]
        · exact ⟨Nat.lt_succ_of_lt made, rfl⟩
        · intro same
          rw [same, none_] at found
          cases found

theorem Supervised.perform (ok : Supervised kind s) (work : ManagerWork M) :
    Supervised kind (s.perform kind work).1 := by
  cases work with
  | reap => exact ok.reap
  | stop id => exact ok.stop id
  | spawn network =>
    simp only [ManagerState.perform]
    split
    · exact ok.spawn (spawnNetwork_spawned network)
    · exact ok
  | _ => exact ok.same ⟨fun _ => rfl, fun _ _ => rfl, rfl, rfl, fun _ runs => runs⟩

/-- A step is work, an event for the loop, which waits while there is work, or happens
elsewhere. -/
theorem step_cases (kind : ManagerKind M) (s : ManagerState M) (e : ManagerEvent M) :
    (e = .work ∧ (networkManager kind).step s e = (s.goOn kind, [])) ∨
    (e.isForLoop = true ∧ (networkManager kind).step s e =
      if s.work.isEmpty then s.takeEvent kind e else (s, [])) ∨
    (e.isForLoop = false ∧ (networkManager kind).step s e = (s.elsewhere kind e, [])) := by
  cases e <;> first
    | exact .inl ⟨rfl, rfl⟩
    | exact .inr (.inl ⟨rfl, rfl⟩)
    | exact .inr (.inr ⟨rfl, rfl⟩)

/-- An event that the loop takes only gives it work. -/
theorem takeEvent_eq (kind : ManagerKind M) (s : ManagerState M) (e : ManagerEvent M) :
    ∃ work, (s.takeEvent kind e).1 = { s with work := work } := by
  cases e with
  | notified | tick => exact ⟨_, rfl⟩
  | _ => exact ⟨s.work, rfl⟩

theorem Supervised.step (ok : Supervised kind s) (e : ManagerEvent M) :
    Supervised kind ((networkManager kind).step s e).1 := by
  obtain ⟨-, stepped⟩ | ⟨-, stepped⟩ | ⟨-, stepped⟩ := step_cases kind s e
  · rw [stepped, goOn]
    split
    · exact ok
    · rename_i next rest _
      exact (ok.perform next).same ⟨fun _ => rfl, fun _ _ => rfl, rfl, rfl, fun _ runs => runs⟩
  · rw [stepped]
    split
    · obtain ⟨work, taken⟩ := takeEvent_eq kind s e
      rw [taken]
      exact ok.same ⟨fun _ => rfl, fun _ _ => rfl, rfl, rfl, fun _ runs => runs⟩
    · exact ok
  · rw [stepped]
    exact ok.same (elsewhere_same e)

theorem newManager_supervised (configured : List M) (networkModels peerRegistry isPeerBlocked) :
    Supervised kind (newManager configured networkModels peerRegistry isPeerBlocked) where
  opened _ _ _ found := by cases found
  together _ _ _ := rfl
  held _ _ found := by cases found
  alive _ runs := by cases runs

theorem Supervised.after (ok : Supervised kind s) (events : List (ManagerEvent M)) :
    Supervised kind ((networkManager kind).after s events) := by
  induction events generalizing s with
  | nil => exact ok
  | cons e rest ih => exact ih (ok.step e)

end ManagerState

open ManagerState

/-- In every run, the tasks that run are of different networks, and the manager has the
handle and every sender of each. -/
theorem running_tasks_supervised (configured : List M) (networkModels peerRegistry isPeerBlocked)
    (events : List (ManagerEvent M)) :
    let s := (networkManager kind).after
      (newManager configured networkModels peerRegistry isPeerBlocked) events
    (∀ task task', s.running task = true → s.running task' = true →
      s.networkOf task = s.networkOf task' → task = task') ∧
    ∀ task, s.running task = true → s.handles.get (s.networkOf task) = some task ∧
      ∀ channel ∈ kind.scope.channels, (s.txs channel).get (s.networkOf task) = some task := by
  intro s
  have ok : Supervised kind s :=
    Supervised.after (newManager_supervised configured networkModels peerRegistry isPeerBlocked) events
  refine ⟨?_, ?_⟩
  · intro task task' runs runs' same
    have found := (ok.alive task runs).2
    rw [same, (ok.alive task' runs').2] at found
    exact (Option.some.inj found).symm
  · intro task runs
    have found := (ok.alive task runs).2
    refine ⟨found, fun channel has => ?_⟩
    rw [ok.together channel has, ok.held _ _ found]

end MtrxPeer
