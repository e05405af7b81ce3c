import MtrxPeer.Runs

/-! Tasks that run side by side over a state they share. Between two steps of a task any of the
others may take theirs, and tasks may be started at any time. -/
namespace MtrxPeer

/-- The shared state and the tasks, in the order they were started in. -/
structure Pool (σ τ : Type) where
  shared : σ
  tasks : List τ

/-- A task is started, or takes a step; `choice` is what it finds outside of the pool. -/
inductive PoolEvent (ι χ : Type) where
  | spawn (start : ι)
  | step (i : Nat) (choice : χ)

namespace Pool

variable {σ τ ι χ : Type} (begins : ι → τ) (run : σ → τ → χ → σ × τ)

def poolStep (pool : Pool σ τ) : PoolEvent ι χ → Pool σ τ
  | .spawn start => { pool with tasks := pool.tasks ++ [begins start] }
  | .step i choice =>
    match pool.tasks[i]? with
    | none => pool
    | some task =>
      let (shared, task) := run pool.shared task choice
      ⟨shared, pool.tasks.set i task⟩

def machine : Machine (Pool σ τ) (PoolEvent ι χ) Unit where
  step pool e := (poolStep begins run pool e, [])

variable {begins run}

/-- A task among the others, which stay as they are when it is replaced. -/
theorem around_task {α : Type} {items : List α} {i : Nat} {item : α} (found : items[i]? = some item) :
    ∃ before after, items = before ++ item :: after ∧
      ∀ item', items.set i item' = before ++ item' :: after := by
  obtain ⟨inside, rfl⟩ := List.getElem?_eq_some_iff.mp found
  refine ⟨items.take i, items.drop (i + 1), ?_, fun item' => ?_⟩
  · rw [List.getElem_cons_drop, List.take_append_drop]
  · rw [List.set_eq_take_append_cons_drop, if_pos inside]

/-- When a task is replaced, the tasks are the new one and old ones, -/
theorem mem_replace {before after : List τ} (task : τ) {task' other : τ}
    (member : other ∈ before ++ task' :: after) : other = task' ∨ other ∈ before ++ task :: after := by
  rcases List.mem_append.mp member with first | rest
  · exact .inr (List.mem_append_left _ first)
  · rcases List.mem_cons.mp rest with new | last
    · exact .inl new
    · exact .inr (List.mem_append_right _ (List.mem_cons_of_mem _ last))

/-- and the other ones stay. -/
theorem mem_replace_of_ne {before after : List τ} {task task' other : τ}
    (member : other ∈ before ++ task :: after) (differs : other ≠ task) :
    other ∈ before ++ task' :: after := by
  rcases mem_replace task' member with same | old
  · exact absurd same differs
  · exact old

/-- How many tasks are of a kind when one of them is replaced. -/
theorem countP_replace (kind : τ → Bool) (before after : List τ) (task task' : τ) :
    (before ++ task' :: after).countP kind + (kind task).toNat =
      (before ++ task :: after).countP kind + (kind task').toNat := by
  simp only [List.countP_append, List.countP_cons]
  cases kind task <;> cases kind task' <;> simp <;> omega

/-- Of a kind that one task at most is of, two tasks are the same. -/
theorem eq_of_countP_le_one {kind : τ → Bool} {tasks : List τ} {a b : τ} (one : tasks.countP kind ≤ 1)
    (first : a ∈ tasks) (second : b ∈ tasks) (isFirst : kind a = true) (isSecond : kind b = true) : a = b := by
  obtain ⟨before, after, rfl⟩ := List.append_of_mem first
  rw [List.countP_append, List.countP_cons_of_pos isFirst] at one
  rcases List.mem_append.mp second with earlier | rest
  · have more := List.countP_pos_iff.mpr ⟨b, earlier, isSecond⟩
    omega
  · rcases List.mem_cons.mp rest with same | later
    · exact same.symm
    · have more := List.countP_pos_iff.mpr ⟨b, later, isSecond⟩
      omega

/-- What an event does: a task joins, or one of them takes a step, or nothing happens. -/
theorem poolStep_cases (pool : Pool σ τ) (e : PoolEvent ι χ) :
    (∃ start, e = .spawn start ∧
      poolStep begins run pool e = ⟨pool.shared, pool.tasks ++ [begins start]⟩) ∨
    (∃ i choice before task after, e = .step i choice ∧ pool.tasks[i]? = some task ∧
      pool.tasks = before ++ task :: after ∧
      poolStep begins run pool e = ⟨(run pool.shared task choice).1,
        before ++ (run pool.shared task choice).2 :: after⟩) ∨
    poolStep begins run pool e = pool := by
  cases e with
  | spawn start => exact .inl ⟨start, rfl, rfl⟩
  | step i choice =>
    cases found : pool.tasks[i]? with
    | none =>
      refine .inr (.inr ?_)
      simp only [poolStep, found]
    | some task =>
      obtain ⟨before, after, tasks, replaced⟩ := around_task found
      refine .inr (.inl ⟨i, choice, before, task, after, rfl, found, tasks, ?_⟩)
      simp only [poolStep, found, replaced]

/-- What holds of the pool, and is kept when a task joins and when one of its tasks takes a
step, holds after every run of such events. -/
theorem invariant_while (Allowed : PoolEvent ι χ → Prop) (Holds : Pool σ τ → Prop)
    (joins : ∀ pool start, Allowed (.spawn start) → Holds pool →
      Holds ⟨pool.shared, pool.tasks ++ [begins start]⟩)
    (steps : ∀ shared before task after i choice, Allowed (.step i choice) →
      Holds ⟨shared, before ++ task :: after⟩ →
      Holds ⟨(run shared task choice).1, before ++ (run shared task choice).2 :: after⟩)
    {pool : Pool σ τ} (init : Holds pool) (events : List (PoolEvent ι χ)) (all : ∀ e ∈ events, Allowed e) :
    Holds ((machine begins run).after pool events) := by
  induction events generalizing pool with
  | nil => exact init
  | cons e rest ih =>
    refine ih ?_ fun e' member => all e' (List.mem_cons_of_mem _ member)
    have allowed := all e List.mem_cons_self
    change Holds (poolStep begins run pool e)
    obtain ⟨start, rfl, next⟩ | ⟨i, choice, before, task, after, rfl, -, tasks, next⟩ | next :=
      poolStep_cases pool e
    · rw [next]
      exact joins pool start allowed init
    · obtain ⟨shared, _⟩ := pool
      subst tasks
      rw [next]
      exact steps shared before task after i choice allowed init
    · rw [next]
      exact init

/-- What every event keeps holds after every run. -/
theorem invariant_after (Holds : Pool σ τ → Prop)
    (joins : ∀ pool start, Holds pool → Holds ⟨pool.shared, pool.tasks ++ [begins start]⟩)
    (steps : ∀ shared before task after choice, Holds ⟨shared, before ++ task :: after⟩ →
      Holds ⟨(run shared task choice).1, before ++ (run shared task choice).2 :: after⟩)
    {pool : Pool σ τ} (init : Holds pool) (events : List (PoolEvent ι χ)) :
    Holds ((machine begins run).after pool events) :=
  invariant_while (fun _ => True) Holds (fun pool start _ => joins pool start)
    (fun shared before task after _ choice _ => steps shared before task after choice) init events
    fun _ _ => trivial

end Pool

end MtrxPeer
