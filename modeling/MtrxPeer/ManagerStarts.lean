import MtrxPeer.NodeLifecycle

/-! The start of the managers: a manager that the configuration asks for is started, or what
starts it is on its way. -/
namespace MtrxPeer

open Function (update update_of_ne update_self)

/-! ## What is on its way -/

/-- An action that leads to an attempt to start the manager of a scope. -/
def NodeAction.brings : NodeAction → NetworkScope → Bool
  | .checkComplete, _ => true
  | .tell event, scope => event.starts scope
  | .start scope', scope => decide (scope' = scope)
  | _, _ => false

/-- An action with which a task may end before its time. -/
def NodeAction.mayEnd : NodeAction → Bool
  | .change _ | .select .. | .attach _ | .edit _ | .register _ | .syncDeviceKey _ | .complete => true
  | _ => false

/-- What a task has still to do is sure to bring the start of a manager. -/
def carries (scope : NetworkScope) (actions : List NodeAction) : Bool :=
  actions.all (fun action => !action.mayEnd) && actions.any (·.brings scope)

def NodeProcess.brings (s : NodeProcess) (scope : NetworkScope) : Bool :=
  s.runtimeEvents.any (·.starts scope)

/-- The start of a manager is on its way, as an event or with a task. -/
def StartOnTheWay (scope : NetworkScope) (pool : Pool NodeProcess NodeTask) : Prop :=
  pool.shared.brings scope = true ∨ ∃ task ∈ pool.tasks, carries scope task.actions = true

/-- What can make a node want a manager is followed by what brings its start. -/
def NodeAction.FollowedBy (rest : List NodeAction) : NodeAction → Prop
  | .change op => op.opensSwarm = true → carries .swarm rest = true
  | .select .. | .attach _ => ∀ scope, carries scope rest = true
  | .complete => rest = []
  | _ => True

def Announces : List NodeAction → Prop
  | [] => True
  | action :: rest => action.FollowedBy rest ∧ Announces rest

/-- What an action makes of what is on the way. -/
structure Advances (scope : NetworkScope) (s : NodeProcess) (actions : List NodeAction)
    (done : NodeProcess × List NodeAction) : Prop where
  asked : done.1.cfg.runs scope = true → s.cfg.runs scope = true ∨ carries scope done.2 = true
  handsOn : carries scope actions = true → done.1.cfg.runs scope = true →
    (done.1.managers scope).started ≠ [] ∨ done.1.brings scope = true ∨ carries scope done.2 = true
  queued : s.brings scope = true → done.1.brings scope = true ∨ carries scope done.2 = true
  started : (s.managers scope).started ≠ [] → (done.1.managers scope).started ≠ []

section Starts

variable {s : NodeProcess} {cfg : NodeConfig} {scope : NetworkScope} {choice : NodeChoice}
  {action : NodeAction} {rest next : List NodeAction}

theorem carries_cons (scope : NetworkScope) (action : NodeAction) (rest : List NodeAction) :
    carries scope (action :: rest) =
      (!action.mayEnd &&
        (action.brings scope && rest.all (fun action => !action.mayEnd) || carries scope rest)) := by
  rw [carries, carries, List.all_cons, List.any_cons]
  cases action.mayEnd <;> cases action.brings scope <;>
    cases rest.all (fun action => !action.mayEnd) <;> simp

theorem begin_announces (start : NodeStart) : Announces start.begin.actions := by
  cases start with
  | network op => cases op <;> simp [NodeStart.begin, ConfigOp.announcements, notifyBoth, Announces,
      NodeAction.FollowedBy, ConfigOp.opensSwarm, carries, NodeAction.mayEnd, NodeAction.brings,
      RuntimeEvent.starts]
  | register reg clusterName join =>
    exact ⟨trivial, fun opens => (by cases opens), trivial, rfl, trivial⟩
  | select newId entry => exact ⟨fun _ => rfl, trivial, trivial⟩
  | attach id => exact ⟨fun _ => rfl, trivial, trivial⟩
  | edit change => exact ⟨trivial, trivial⟩
  | syncDeviceKey reg => exact ⟨trivial, trivial⟩
  | gpuMonitor => trivial

theorem store_announces (saves : Bool) (announced : Announces next) :
    Announces (s.store cfg saves next).2 := by
  rw [NodeProcess.store]
  split
  · exact announced
  · trivial

theorem act_announces (announced : Announces (action :: rest)) : Announces (s.act choice rest action).2 := by
  obtain ⟨followed, later⟩ := announced
  have told : Announces (.tell .setupComplete :: rest) := ⟨trivial, later⟩
  cases action with
  | change op =>
    rw [NodeProcess.act]
    split
    · exact store_announces _ later
    · trivial
  | select newId entry => exact store_announces _ ⟨followed, later⟩
  | attach id =>
    rw [NodeProcess.act]
    split
    · exact store_announces _ later
    · trivial
  | edit change =>
    rw [NodeProcess.act]
    split
    · exact store_announces _ later
    · trivial
  | register reg => exact store_announces _ later
  | syncDeviceKey reg =>
    rw [NodeProcess.act]
    split
    · exact store_announces _ later
    · exact later
  | complete =>
    refine store_announces _ ?_
    split
    · exact told
    · exact later
  | checkComplete =>
    rw [NodeProcess.act]
    dsimp only
    split
    · exact told
    · exact later
  | notify scope =>
    rw [NodeProcess.act]
    split
    · exact later
    · exact ⟨trivial, later⟩
  | tell event =>
    rw [NodeProcess.act]
    split
    · exact later
    · exact ⟨trivial, later⟩
  | start scope => exact later

theorem round_announces (duty : NodeDuty) : Announces (s.round choice duty).2 := by
  have both : Announces notifyBoth := ⟨trivial, trivial, trivial⟩
  cases duty with
  | runtime =>
    rw [NodeProcess.round]
    split
    · trivial
    · rename_i event rest _
      cases event with
      | setupComplete => exact ⟨trivial, trivial, trivial⟩
      | setupInvalidated => trivial
      | swarmsChanged => exact ⟨trivial, trivial⟩
  | manager scope =>
    rw [NodeProcess.round]
    split <;> trivial
  | modelMonitor =>
    rw [NodeProcess.round]
    dsimp only
    split
    · exact both
    · trivial
  | scheduler => exact ⟨fun opens => (by cases opens), both⟩
  | gpuMonitor =>
    rw [NodeProcess.round]
    dsimp only
    split
    · exact ⟨fun opens => (by cases opens), both⟩
    · trivial
  | _ => trivial

/-- A peer whose setup is complete has an id that is not empty. -/
theorem NodeConfig.Whole.runs (whole : cfg.Whole) (scope : NetworkScope) :
    cfg.runs scope = (cfg.setupComplete && cfg.networks.p2pMode.has scope) := by
  rw [NodeConfig.runs]
  cases complete : cfg.setupComplete with
  | false => simp
  | true =>
    have registered := whole.registered complete
    rw [NodeConfig.registered, Bool.and_eq_true] at registered
    obtain ⟨peerId, found⟩ := Option.isSome_iff_exists.mp registered.1
    have named : peerId ≠ "" := fun empty => whole.named (found.trans (congrArg some empty))
    simp [found, named]

theorem Advances.same {done : NodeProcess × List NodeAction} (cfg : done.1.cfg = s.cfg)
    (queue : done.1.runtimeEvents = s.runtimeEvents) (managers : done.1.managers = s.managers)
    (handsOn : carries scope (action :: rest) = true → done.1.cfg.runs scope = true →
      carries scope done.2 = true) : Advances scope s (action :: rest) done where
  asked runs := .inl (cfg ▸ runs)
  handsOn carried runs := .inr (.inr (handsOn carried runs))
  queued brings := .inl (by rw [NodeProcess.brings, queue]; exact brings)
  started some_ := by rwa [managers]

/-- A task that may end has not yet anything on the way. -/
theorem Advances.ends {done : NodeProcess × List NodeAction} (ends : action.mayEnd = true)
    (queue : done.1.runtimeEvents = s.runtimeEvents) (managers : done.1.managers = s.managers)
    (asked : done.1.cfg.runs scope = true → s.cfg.runs scope = true ∨ carries scope done.2 = true) :
    Advances scope s (action :: rest) done where
  asked
  handsOn carried := by
    rw [carries_cons, ends] at carried
    cases carried
  queued brings := .inl (by rw [NodeProcess.brings, queue]; exact brings)
  started some_ := by rwa [managers]

/-- A change that is saved. -/
theorem Advances.stored (ends : action.mayEnd = true)
    (asked : cfg.runs scope = true → s.cfg.runs scope = true ∨ carries scope next = true) :
    Advances scope s (action :: rest) (s.store cfg true next) :=
  .ends ends rfl rfl asked

theorem Advances.refused (ends : action.mayEnd = true) : Advances scope s (action :: rest) (s, []) :=
  .ends ends rfl rfl .inl

theorem registered_runs (right : s.Right) (reg : RegisterPeerResponse)
    (runs : (s.cfg.applyRegisterResponse reg).runs scope = true) : s.cfg.runs scope = true := by
  rw [(NodeConfig.Whole.applyRegisterResponse s.cfg reg).runs] at runs
  rw [right.whole.runs]
  exact runs

/-- What the actions of a task do, as long as the file can be written. -/
theorem act_advances (right : s.Right) (saves : choice.saves = true) (announced : Announces (action :: rest))
    (scope : NetworkScope) : Advances scope s (action :: rest) (s.act choice rest action) := by
  have followed := announced.1
  cases action with
  | change op =>
    rw [NodeProcess.act]
    split
    · rename_i networks changed
      rw [saves]
      refine .stored rfl fun runs => ?_
      obtain ⟨peer, same | ⟨opens, off⟩⟩ := draft_changed changed
      · refine .inl ?_
        rwa [NodeConfig.runs, peer, same] at runs
      · cases scope with
        | cluster =>
          refine .inl ?_
          rw [NodeConfig.runs, Bool.and_eq_true, peer] at runs
          rw [NodeConfig.runs, Bool.and_eq_true, off]
          exact ⟨runs.1, rfl⟩
        | swarm => exact .inr (followed opens)
    · exact .refused rfl
  | select newId entry =>
    rw [NodeProcess.act, saves]
    exact .stored rfl .inl
  | attach id =>
    rw [NodeProcess.act]
    split
    · rw [saves]
      exact .stored rfl fun _ => .inr (followed scope)
    · exact .refused rfl
  | edit change =>
    rw [NodeProcess.act]
    split
    · rw [saves]
      exact .stored rfl .inl
    · exact .refused rfl
  | register reg =>
    rw [NodeProcess.act, saves]
    exact .stored rfl fun runs => .inl (registered_runs right reg runs)
  | syncDeviceKey reg =>
    rw [NodeProcess.act]
    split
    · rw [saves]
      exact .stored rfl fun runs => .inl (registered_runs right reg runs)
    · exact .ends rfl rfl rfl .inl
  | complete =>
    rw [NodeProcess.act, saves]
    refine .ends rfl rfl rfl fun runs => .inr ?_
    have ready : s.cfg.ready = true := by
      rw [NodeConfig.runs, Bool.and_eq_true, Bool.and_eq_true] at runs
      exact runs.1.2
    have last : rest = [] := followed
    rw [NodeProcess.store, if_pos rfl, ready, last]
    rfl
  | checkComplete =>
    refine .same rfl rfl rfl fun carried runs => ?_
    have complete : s.cfg.setupComplete = true := by
      rw [NodeConfig.runs, Bool.and_eq_true, Bool.and_eq_true] at runs
      exact runs.1.2
    rw [NodeProcess.act]
    dsimp only
    rw [if_pos complete]
    rw [carries_cons] at carried ⊢
    exact carried
  | notify scope' =>
    rw [NodeProcess.act]
    split
    · refine .same rfl rfl rfl fun carried _ => ?_
      rwa [carries_cons] at carried
    · exact .same rfl rfl rfl fun carried _ => carried
  | tell event =>
    rw [NodeProcess.act]
    split
    · refine ⟨.inl, fun carried _ => ?_, fun brings => .inl ?_, fun some_ => some_⟩
      · rw [carries_cons] at carried
        cases starts : event.starts scope with
        | true =>
          refine .inr (.inl ?_)
          simp [NodeProcess.brings, starts]
        | false =>
          refine .inr (.inr ?_)
          simpa [NodeAction.mayEnd, NodeAction.brings, starts] using carried
      · rw [NodeProcess.brings, List.any_append, Bool.or_eq_true]
        exact .inl brings
    · exact .same rfl rfl rfl fun carried _ => carried
  | start scope' =>
    obtain ⟨-, runs, some_⟩ := (right.places scope').spawn s.cfg scope'
    rw [NodeProcess.act]
    by_cases same : scope' = scope
    · subst same
      refine ⟨.inl, fun _ asked => .inl ?_, .inl, fun started => ?_⟩
      · dsimp only
        rw [update_self]
        exact runs asked
      · dsimp only
        rw [update_self]
        exact some_ started
    · refine ⟨.inl, fun carried _ => .inr (.inr ?_), .inl, fun started => ?_⟩
      · simpa [carries_cons, NodeAction.mayEnd, NodeAction.brings, same] using carried
      · dsimp only
        rwa [update_of_ne (Ne.symm same)]

/-- A round only hands on what is in the queue. -/
theorem round_advances (duty : NodeDuty) (scope : NetworkScope) :
    Advances scope s [] (s.round choice duty) := by
  have nothing : carries scope [] ≠ true := fun carried => (by cases carried)
  cases duty with
  | runtime =>
    rw [NodeProcess.round]
    split
    · exact ⟨.inl, fun carried => absurd carried nothing, .inl, fun some_ => some_⟩
    · rename_i event later queue
      have kept : ({ s with runtimeEvents := later } : NodeProcess).handles event =
          { s with
            runtimeEvents := later
            setupComplete := (({ s with runtimeEvents := later } : NodeProcess).handles event).setupComplete } := by
        cases event <;> rfl
      rw [kept]
      refine ⟨.inl, fun carried => absurd carried nothing, fun brings => ?_, fun some_ => some_⟩
      rw [NodeProcess.brings, queue, List.any_cons, Bool.or_eq_true] at brings
      rcases brings with first | rest
      · refine .inr ?_
        cases event <;> cases scope <;> first | rfl | cases first
      · exact .inl rest
  | manager scope' =>
    rw [NodeProcess.round]
    split <;> exact ⟨.inl, fun carried => absurd carried nothing, .inl, fun some_ => some_⟩
  | waiter =>
    refine ⟨.inl, fun carried => absurd carried nothing, .inl, fun some_ => ?_⟩
    rw [NodeProcess.round]
    dsimp only
    by_cases same : scope = .cluster
    · subst same
      rwa [update_self]
    · rwa [update_of_ne same]
  | _ => exact ⟨.inl, fun carried => absurd carried nothing, .inl, fun some_ => some_⟩

theorem run_advances (right : s.Right) (saves : choice.saves = true) {task : NodeTask}
    (announced : Announces task.actions) (scope : NetworkScope) :
    Advances scope s task.actions ((nodeRun s task choice).1, (nodeRun s task choice).2.actions) ∧
      Announces (nodeRun s task choice).2.actions := by
  obtain ⟨duty, actions⟩ := task
  rw [nodeRun]
  cases actions with
  | nil => exact ⟨round_advances duty scope, round_announces duty⟩
  | cons action rest => exact ⟨act_advances right saves announced scope, act_announces announced⟩

/-- No start of a manager is lost. -/
structure NoneLost (pool : Pool NodeProcess NodeTask) : Prop where
  right : pool.shared.Right
  announced : ∀ task ∈ pool.tasks, Announces task.actions
  onTheWay : ∀ scope, pool.shared.cfg.runs scope = true →
    (pool.shared.managers scope).started ≠ [] ∨ StartOnTheWay scope pool

theorem NoneLost.step {before after : List NodeTask} {task : NodeTask}
    (none_ : NoneLost ⟨s, before ++ task :: after⟩) (saves : choice.saves = true) :
    NoneLost ⟨(nodeRun s task choice).1, before ++ (nodeRun s task choice).2 :: after⟩ := by
  have member : task ∈ before ++ task :: after := List.mem_append_right _ List.mem_cons_self
  have member' : (nodeRun s task choice).2 ∈ before ++ (nodeRun s task choice).2 :: after :=
    List.mem_append_right _ List.mem_cons_self
  have advances := run_advances none_.right saves (none_.announced task member)
  refine ⟨none_.right.run task choice, fun other found => ?_, fun scope runs => ?_⟩
  · rcases Pool.mem_replace task found with rfl | old
    · exact (advances .cluster).2
    · exact none_.announced other old
  · obtain ⟨asked, handsOn, queued, started⟩ := (advances scope).1
    have carried : carries scope (nodeRun s task choice).2.actions = true →
        StartOnTheWay scope ⟨(nodeRun s task choice).1, before ++ (nodeRun s task choice).2 :: after⟩ :=
      fun still => .inr ⟨_, member', still⟩
    rcases asked runs with old | now
    · rcases none_.onTheWay scope old with some_ | queue | ⟨other, found, still⟩
      · exact .inl (started some_)
      · exact .inr ((queued queue).elim .inl carried)
      · by_cases same : carries scope task.actions = true
        · rcases handsOn same runs with some_ | queue | still'
          · exact .inl some_
          · exact .inr (.inl queue)
          · exact .inr (carried still')
        · refine .inr (.inr ⟨other, Pool.mem_replace_of_ne found ?_, still⟩)
          rintro rfl
          exact same still
    · exact .inr (carried now)

theorem NoneLost.boot {file : Option NodeConfig} (whole : cfg.Whole) (kept : ∀ cfg ∈ file, cfg.Whole) :
    NoneLost (bootedNode cfg file) where
  right := .boot whole kept
  announced task member := by
    obtain ⟨duty, -, rfl⟩ := List.mem_map.mp member
    trivial
  onTheWay scope asked := .inl ((ManagerPlace.empty_right.spawn cfg scope).2.1 asked)

end Starts

/-- A peer that is registered, joins a cluster and attaches a server. -/
private def setUpLife : NodeLife where
  inputs := ⟨.intact, none, .cluster, none, none, "m", "e", none, none, true, true⟩
  events :=
    [.spawn (.register ⟨"p1", "s1", by decide⟩ "europe" (.ok ⟨"c1", some "europe", none, none, none⟩)),
      .spawn (.select "srv" ⟨⟨"", "ollama", "http://127.0.0.1:11434", none, 0, true⟩, false, "scan"⟩)] ++
      [6, 6, 6, 6, 7, 7, 7, 7].map fun i => .step i ⟨true, true, false, 0, none⟩

end MtrxPeer
