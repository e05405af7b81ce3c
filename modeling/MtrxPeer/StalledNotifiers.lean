import MtrxPeer.ManagerStarts

/-! Notifications of a manager that is not started. Nobody receives them, so that once their
channel is full each further task that notifies the manager waits, and what comes after its
notification does not happen. -/
namespace MtrxPeer

open Function (update update_of_ne update_self)

/-! ## Full channels -/

/-- An action that waits as long as the channel of a manager is full. -/
def NodeAction.waitsFor : NodeAction → NetworkScope → Bool
  | .notify scope', scope => decide (scope' = scope)
  | _, _ => false

/-- The end of a registration leads to a start too, as far as it is reached. -/
def NodeAction.leads (action : NodeAction) (scope : NetworkScope) : Bool :=
  action.brings scope || match action with
    | .complete => true
    | _ => false

/-- A task comes to the start of a manager without notifying it first. -/
def reaches (scope : NetworkScope) : List NodeAction → Bool
  | [] => false
  | action :: rest => !action.waitsFor scope && (action.leads scope || reaches scope rest)

/-- The manager of a scope is not started, its channel is full, and nothing that could start it
gets by that channel. -/
structure Stalled (scope : NetworkScope) (s : NodeProcess) (tasks : List NodeTask) : Prop where
  unstarted : (s.managers scope).started = []
  full : s.notified scope = (NodeChannel.notify scope).capacity
  queue : s.brings scope = false
  tasks : ∀ task ∈ tasks, reaches scope task.actions = false

/-- A request that ends the setup of a node without notifying the manager. -/
def NodeStart.endsSetup : NodeStart → NetworkScope → Bool
  | .select .., _ => true
  | .attach _, _ => true
  | .register .., .swarm => true
  | _, _ => false

/-- A task waits to notify the manager. -/
def NodeTask.waits (task : NodeTask) (scope : NetworkScope) : Prop :=
  ∃ rest, task.actions = .notify scope :: rest

section Stalls

variable {s : NodeProcess} {scope : NetworkScope} {choice : NodeChoice} {action : NodeAction}
  {rest next : List NodeAction} {cfg : NodeConfig}

theorem reaches_cons (scope : NetworkScope) (action : NodeAction) (rest : List NodeAction) :
    reaches scope (action :: rest) =
      (!action.waitsFor scope && (action.leads scope || reaches scope rest)) := rfl

theorem begin_reaches (start : NodeStart) (scope : NetworkScope) :
    reaches scope start.begin.actions = start.endsSetup scope := by
  cases start with
  | network op => cases op <;> cases scope <;> rfl
  | _ => cases scope <;> rfl

/-- What an action keeps of a stall. -/
structure Stays (scope : NetworkScope) (s : NodeProcess) (done : NodeProcess × List NodeAction) : Prop where
  managers : (done.1.managers scope).started = (s.managers scope).started
  notified : done.1.notified scope = s.notified scope
  queue : done.1.brings scope = s.brings scope
  short : reaches scope done.2 = false

theorem Stays.stored {saves : Bool} (later : reaches scope next = false) :
    Stays scope s (s.store cfg saves next) := by
  rw [NodeProcess.store]
  split
  · exact ⟨rfl, rfl, rfl, later⟩
  · exact ⟨rfl, rfl, rfl, rfl⟩

theorem Stays.refused : Stays scope s (s, []) := ⟨rfl, rfl, rfl, rfl⟩

/-- What a task does that cannot come to the start of the manager. -/
theorem act_stays (full : s.notified scope = (NodeChannel.notify scope).capacity)
    (short : reaches scope (action :: rest) = false) : Stays scope s (s.act choice rest action) := by
  have later : action.waitsFor scope = false → reaches scope rest = false := by
    intro goes
    rw [reaches_cons, goes] at short
    exact (Bool.or_eq_false_iff.mp short).2
  have leads : action.waitsFor scope = false → action.leads scope = false := by
    intro goes
    rw [reaches_cons, goes] at short
    exact (Bool.or_eq_false_iff.mp short).1
  cases action with
  | change op =>
    rw [NodeProcess.act]
    split
    · exact .stored (later rfl)
    · exact .refused
  | select newId entry => exact .stored (later rfl)
  | attach id =>
    rw [NodeProcess.act]
    split
    · exact .stored (later rfl)
    · exact .refused
  | edit change =>
    rw [NodeProcess.act]
    split
    · exact .stored (later rfl)
    · exact .refused
  | register reg => exact .stored (later rfl)
  | syncDeviceKey reg =>
    rw [NodeProcess.act]
    split
    · exact .stored (later rfl)
    · exact ⟨rfl, rfl, rfl, later rfl⟩
  | complete => cases leads rfl
  | checkComplete => cases leads rfl
  | notify scope' =>
    rw [NodeProcess.act]
    split
    · rename_i room
      have other : scope' ≠ scope := by
        rintro rfl
        omega
      exact ⟨rfl, update_of_ne (Ne.symm other) _ _, rfl, later (decide_eq_false other)⟩
    · exact ⟨rfl, rfl, rfl, short⟩
  | tell event =>
    rw [NodeProcess.act]
    split
    · have idle : event.starts scope = false := (Bool.or_eq_false_iff.mp (leads rfl)).1
      refine ⟨rfl, rfl, ?_, later rfl⟩
      simp [NodeProcess.brings, idle]
    · exact ⟨rfl, rfl, rfl, short⟩
  | start scope' =>
    have other : scope' ≠ scope := of_decide_eq_false (Bool.or_eq_false_iff.mp (leads rfl)).1
    refine ⟨?_, rfl, rfl, later rfl⟩
    exact congrArg ManagerPlace.started (update_of_ne (Ne.symm other) _ _)

theorem notifyBoth_reaches (scope : NetworkScope) : reaches scope notifyBoth = false := by
  cases scope <;> rfl

theorem round_stays (unstarted : (s.managers scope).started = []) (queue : s.brings scope = false)
    (duty : NodeDuty) : Stays scope s (s.round choice duty) := by
  have change (op : ConfigOp) : reaches scope (.change op :: notifyBoth) = false := by
    rw [reaches_cons, notifyBoth_reaches]
    rfl
  cases duty with
  | runtime =>
    rw [NodeProcess.round]
    split
    · exact .refused
    · rename_i event later events
      rw [NodeProcess.brings, events, List.any_cons, Bool.or_eq_false_iff] at queue
      have left : s.brings scope = later.any (·.starts scope) := by
        rw [NodeProcess.brings, events, List.any_cons, queue.1, Bool.false_or]
      cases event with
      | setupComplete => cases queue.1
      | setupInvalidated => exact ⟨rfl, rfl, left.symm, rfl⟩
      | swarmsChanged =>
        cases scope with
        | cluster => exact ⟨rfl, rfl, left.symm, rfl⟩
        | swarm => cases queue.1
  | manager scope' =>
    rw [NodeProcess.round]
    split
    · exact .refused
    · rename_i some_
      have other : scope ≠ scope' := by
        rintro rfl
        exact some_ unstarted
      exact ⟨rfl, update_of_ne other _ _, rfl, rfl⟩
  | waiter =>
    refine ⟨?_, rfl, rfl, rfl⟩
    cases scope with
    | cluster => rfl
    | swarm => rfl
  | modelMonitor =>
    refine ⟨rfl, rfl, rfl, ?_⟩
    rw [NodeProcess.round]
    dsimp only
    split
    · exact notifyBoth_reaches scope
    · rfl
  | scheduler => exact ⟨rfl, rfl, rfl, change _⟩
  | gpuMonitor =>
    refine ⟨rfl, rfl, rfl, ?_⟩
    rw [NodeProcess.round]
    dsimp only
    split
    · exact change _
    · rfl
  | handler => exact .refused

/-- A task that waits for a full channel goes on waiting. -/
theorem waits_run {task : NodeTask} (full : s.notified scope = (NodeChannel.notify scope).capacity)
    (waits : task.waits scope) : nodeRun s task choice = (s, task) := by
  obtain ⟨duty, actions⟩ := task
  obtain ⟨rest, rfl⟩ := waits
  have none_ : ¬ s.notified scope < (NodeChannel.notify scope).capacity := by omega
  rw [nodeRun]
  dsimp only
  rw [NodeProcess.act, if_neg none_]

namespace Stalled

theorem run {before after : List NodeTask} {task : NodeTask}
    (stalled : Stalled scope s (before ++ task :: after)) (choice : NodeChoice) :
    Stalled scope (nodeRun s task choice).1 (before ++ (nodeRun s task choice).2 :: after) := by
  have short := stalled.tasks task (List.mem_append_right _ List.mem_cons_self)
  have stays : Stays scope s ((nodeRun s task choice).1, (nodeRun s task choice).2.actions) := by
    obtain ⟨duty, actions⟩ := task
    rw [nodeRun]
    cases actions with
    | nil => exact round_stays stalled.unstarted stalled.queue duty
    | cons action rest => exact act_stays stalled.full short
  refine ⟨stays.managers.trans stalled.unstarted, stays.notified.trans stalled.full,
    stays.queue.trans stalled.queue, fun other member => ?_⟩
  rcases Pool.mem_replace task member with rfl | old
  · exact stays.short
  · exact stalled.tasks other old

theorem join {tasks : List NodeTask} {start : NodeStart} (stalled : Stalled scope s tasks)
    (short : start.endsSetup scope = false) : Stalled scope s (tasks ++ [start.begin]) := by
  refine ⟨stalled.unstarted, stalled.full, stalled.queue, fun task member => ?_⟩
  rcases List.mem_append.mp member with old | new
  · exact stalled.tasks task old
  · rw [List.mem_singleton.mp new, begin_reaches, short]

end Stalled

/-- A step leaves the tasks that wait where they are. -/
theorem waiting_stay {before after : List NodeTask} {task waiting : NodeTask} {i : Nat}
    (full : s.notified scope = (NodeChannel.notify scope).capacity) (waits : waiting.waits scope)
    (found : (before ++ task :: after)[i]? = some waiting) :
    (before ++ (nodeRun s task choice).2 :: after)[i]? = some waiting := by
  by_cases blocked : task.waits scope
  · rwa [waits_run full blocked]
  · have other : before.length ≠ i := by
      rintro rfl
      rw [List.getElem?_append_right Nat.le.refl, Nat.sub_self] at found
      exact blocked (Option.some.inj found ▸ waits)
    rw [← found]
    rcases Nat.lt_or_gt_of_ne other with later | earlier
    · obtain ⟨n, rfl⟩ := Nat.exists_eq_add_of_lt later
      rw [List.getElem?_append_right (by omega), List.getElem?_append_right (by omega),
        show before.length + n + 1 - before.length = n + 1 by omega]
      rfl
    · rw [List.getElem?_append_left earlier, List.getElem?_append_left earlier]

/-- How a stalled node is later: it is stalled still, and the tasks that waited to notify the
manager wait. -/
structure StillStalled (scope : NetworkScope) (pool later : Pool NodeProcess NodeTask) : Prop where
  stalled : Stalled scope later.shared later.tasks
  waiting : ∀ (i : Nat) (task : NodeTask), pool.tasks[i]? = some task → task.waits scope →
    later.tasks[i]? = some task

namespace StillStalled

variable {pool : Pool NodeProcess NodeTask}

theorem join {later : Pool NodeProcess NodeTask} {start : NodeStart}
    (kept : StillStalled scope pool later) (short : start.endsSetup scope = false) :
    StillStalled scope pool ⟨later.shared, later.tasks ++ [start.begin]⟩ where
  stalled := kept.stalled.join short
  waiting i task found waits := by
    have old := kept.waiting i task found waits
    rwa [List.getElem?_append_left (List.getElem?_eq_some_iff.mp old).1]

theorem run {before after : List NodeTask} {task : NodeTask}
    (kept : StillStalled scope pool ⟨s, before ++ task :: after⟩) (choice : NodeChoice) :
    StillStalled scope pool
      ⟨(nodeRun s task choice).1, before ++ (nodeRun s task choice).2 :: after⟩ where
  stalled := kept.stalled.run choice
  waiting i waiting found waits := by
    have old := kept.waiting i waiting found waits
    exact waiting_stay kept.stalled.full waits old

end StillStalled

end Stalls

/-- Once the channel of a manager that is not started is full and nothing that starts it gets by
that channel, the manager is not started and each task that notifies it waits, whatever else the
node does, until a request ends the setup anew: no change of networks helps. -/
theorem stalled_until_setup (scope : NetworkScope) (pool : Pool NodeProcess NodeTask)
    (stalled : Stalled scope pool.shared pool.tasks) (events : List LifecycleEvent)
    (short : ∀ start, .spawn start ∈ events → start.endsSetup scope = false) :
    let later := lifecycleMachine.after pool events
    (later.shared.managers scope).started = [] ∧
      ∀ (i : Nat) (task : NodeTask), pool.tasks[i]? = some task → task.waits scope →
        later.tasks[i]? = some task := by
  intro later
  have kept : StillStalled scope pool later := by
    apply Pool.invariant_while (fun e => e ∈ events) (StillStalled scope pool)
    · intro later start member kept
      exact kept.join (short start member)
    · intro s before task after i choice _ kept
      exact kept.run choice
    · exact ⟨stalled, fun _ _ found _ => found⟩
    · exact fun _ member => member
  exact ⟨kept.stalled.unstarted, kept.waiting⟩

/-- A node with clusters only, whose models change eight times before a swarm is added. -/
private def crowdedLife : NodeLife where
  inputs := ⟨.intact, none, .cluster, none, none, "m", "e", none, none, true, true⟩
  events :=
    let steps (tasks : List Nat) : List LifecycleEvent :=
      tasks.map fun i => .step i ⟨true, true, true, 0, none⟩
    [.spawn (.register ⟨"p2", "s2", by decide⟩ "europe" (.ok ⟨"c1", some "europe", none, none, none⟩)),
      .spawn (.select "srv" ⟨⟨"", "ollama", "http://127.0.0.1:11434", none, 0, true⟩, false, "scan"⟩),
      .spawn (.network (.postSwarmCreate ⟨some "lab", none⟩ "w1" "t1" []))] ++
      steps [6, 6, 6, 6, 7, 7, 7, 7, 0, 0, 0, 3] ++
      steps (List.replicate 8 [1, 1, 1, 3]).flatten ++ steps [8, 8]

/-- All networks are connected, and the models change once more. -/
private def laterEvents : List LifecycleEvent :=
  .spawn (.network .connectAll) :: [9, 9, 9, 1, 1, 1, 0].map fun i => .step i ⟨true, true, true, 0, none⟩

/-- The configuration asks for the manager of the swarms, which is not started; the handler that
added the swarm waits. -/
theorem stalled_until_setup_sample :
    ∃ pool, nodeAfter none crowdedLife = some pool ∧ pool.shared.cfg.runs .swarm = true ∧
      ((lifecycleMachine.after pool laterEvents).shared.managers .swarm).started = [] := by
  obtain ⟨pool, found⟩ :=
    Option.isSome_iff_exists.mp (by decide +kernel : (nodeAfter none crowdedLife).isSome = true)
  have asked : (nodeAfter none crowdedLife).map (·.shared.cfg.runs .swarm) = some true := by decide +kernel
  have unstarted : (nodeAfter none crowdedLife).map (fun pool => (pool.shared.managers .swarm).started) =
      some [] := by decide +kernel
  have full : (nodeAfter none crowdedLife).map (·.shared.notified .swarm) = some 8 := by decide +kernel
  have queue : (nodeAfter none crowdedLife).map (·.shared.brings .swarm) = some false := by decide +kernel
  have tasks : (nodeAfter none crowdedLife).map (·.tasks.any fun task => reaches .swarm task.actions) =
      some false := by decide +kernel
  rw [found] at asked unstarted full queue tasks
  refine ⟨pool, found, Option.some.inj asked, ?_⟩
  have stalled : Stalled .swarm pool.shared pool.tasks := by
    refine ⟨Option.some.inj unstarted, Option.some.inj full, Option.some.inj queue, fun task member => ?_⟩
    have short := List.any_eq_false.mp (Option.some.inj tasks) task member
    exact Bool.eq_false_of_not_eq_true short
  refine (stalled_until_setup .swarm pool stalled laterEvents fun start member => ?_).1
  simp only [laterEvents, List.map_cons, List.map_nil, List.mem_cons, PoolEvent.spawn.injEq, reduceCtorEq,
    or_false, List.not_mem_nil] at member
  rw [member]
  rfl

end MtrxPeer
