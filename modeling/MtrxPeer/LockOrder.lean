import Mathlib.Data.List.Basic
import Mathlib.Logic.Function.Basic
import Mathlib.Logic.Relation
import MtrxPeer.Runs

/-! Tasks that hold locks to the end of a scope and send on bounded channels:
their programs, their interleavings, and who waits for whom. Tasks that only wait
for what ranks above all they hold wait in no cycle. -/
namespace MtrxPeer

open Function (update)

/-! ## Programs -/

inductive LockMode where
  | shared
  | exclusive
  deriving DecidableEq

/-- Two tasks cannot hold one lock in these modes. -/
def LockMode.conflicts : LockMode → LockMode → Bool
  | .shared, .shared => false
  | _, _ => true

/-- What a task can wait for: a lock, or room in a channel. -/
inductive Resource (ρ κ : Type) where
  | lock (l : ρ)
  | room (c : κ)
  deriving DecidableEq

/-- What a function does with locks and channels. -/
inductive LockProgram (ρ κ : Type) where
  | skip
  | send (channel : κ)
  | seq (first second : LockProgram ρ κ)
  | choice (left right : LockProgram ρ κ)
  | loop (body : LockProgram ρ κ)
  /-- The lock is held while the body runs. -/
  | hold (lock : ρ) (mode : LockMode) (body : LockProgram ρ κ)

namespace LockProgram

variable {ρ κ : Type}

/-- One program after the other. -/
def sequence (programs : List (LockProgram ρ κ)) : LockProgram ρ κ := programs.foldr .seq .skip

def optional (program : LockProgram ρ κ) : LockProgram ρ κ := .choice program .skip

end LockProgram

/-- What a task has left to do. -/
inductive Pending (ρ κ : Type) where
  | run (program : LockProgram ρ κ)
  /-- The lock that was taken last is let go. -/
  | unlock

/-- A task stands in the queue of a resource; tickets are drawn in order. -/
structure Wait (ρ κ : Type) where
  resource : Resource ρ κ
  mode : LockMode
  ticket : Nat

structure LockTask (α ρ κ : Type) where
  role : α
  /-- The locks it holds, the newest first. -/
  held : List (ρ × LockMode)
  rest : List (Pending ρ κ)
  waits : Option (Wait ρ κ)

structure LockState (α ρ κ : Type) where
  tasks : List (LockTask α ρ κ)
  /-- The messages in each channel. -/
  fill : κ → Nat
  nextTicket : Nat

/-- Tasks by role: the channels they receive from, and what the functions that
they run do. -/
structure LockSystem (α φ ρ κ : Type) where
  capacity : κ → Nat
  receives : α → κ → Bool
  program : α → φ → Option (LockProgram ρ κ)

inductive LockEvent (α φ κ : Type) where
  | spawn (role : α)
  /-- An idle task runs a function. -/
  | start (task : Nat) (f : φ)
  /-- An idle task takes a message and runs a function on it. -/
  | receive (task : Nat) (channel : κ) (f : φ)
  /-- A task goes on, at a choice or a loop in the given direction. -/
  | step (task : Nat) (branch : Bool)
  /-- A task gets what it waits for. -/
  | resume (task : Nat)
  /-- A task is stopped and lets go of all it holds. -/
  | abort (task : Nat)

variable {α φ ρ κ : Type} [DecidableEq ρ] [DecidableEq κ]

/-! ## Steps -/

/-- No task holds a lock in a mode that conflicts. -/
def LockState.unlocked (s : LockState α ρ κ) (l : ρ) (mode : LockMode) : Bool :=
  s.tasks.all fun task => task.held.all fun (other, m) => other ≠ l || !mode.conflicts m

/-- The resource is free, and nobody stands before the ticket in its queue. -/
def LockSystem.available (sys : LockSystem α φ ρ κ) (s : LockState α ρ κ) (r : Resource ρ κ)
    (mode : LockMode) (ticket : Nat) : Bool :=
  (match r with
    | .lock l => s.unlocked l mode
    | .room c => s.fill c < sys.capacity c) &&
  s.tasks.all fun task => task.waits.all fun w => w.resource ≠ r || ticket ≤ w.ticket

/-- Task `i`, which is now `task`, gets a resource. -/
def LockState.grant (s : LockState α ρ κ) (i : Nat) (task : LockTask α ρ κ) (r : Resource ρ κ)
    (mode : LockMode) : LockState α ρ κ :=
  match r with
  | .lock l =>
    { s with tasks := s.tasks.set i { task with held := (l, mode) :: task.held, waits := none } }
  | .room c =>
    { s with
      tasks := s.tasks.set i { task with waits := none }
      fill := update s.fill c (s.fill c + 1) }

/-- Task `i`, which is now `task`, asks for a resource: it gets it, or it waits. -/
def LockSystem.request (sys : LockSystem α φ ρ κ) (s : LockState α ρ κ) (i : Nat)
    (task : LockTask α ρ κ) (r : Resource ρ κ) (mode : LockMode) : LockState α ρ κ :=
  if sys.available s r mode s.nextTicket then s.grant i task r mode
  else { s with
    tasks := s.tasks.set i { task with waits := some ⟨r, mode, s.nextTicket⟩ }
    nextTicket := s.nextTicket + 1 }

/-- A task that does not wait goes on. -/
def LockSystem.proceed (sys : LockSystem α φ ρ κ) (s : LockState α ρ κ) (i : Nat)
    (task : LockTask α ρ κ) (branch : Bool) : LockState α ρ κ :=
  let goOn (rest : List (Pending ρ κ)) : LockState α ρ κ :=
    { s with tasks := s.tasks.set i { task with rest } }
  match task.rest with
  | [] => s
  | .unlock :: rest => { s with tasks := s.tasks.set i { task with held := task.held.tail, rest } }
  | .run .skip :: rest => goOn rest
  | .run (.seq first second) :: rest => goOn (.run first :: .run second :: rest)
  | .run (.choice left right) :: rest => goOn (.run (if branch then left else right) :: rest)
  | .run (.loop body) :: rest =>
    goOn (if branch then .run body :: .run (.loop body) :: rest else rest)
  | .run (.send c) :: rest => sys.request s i { task with rest } (.room c) .exclusive
  | .run (.hold l mode body) :: rest =>
    sys.request s i { task with rest := .run body :: .unlock :: rest } (.lock l) mode

/-- A task has nothing left to do. -/
def LockTask.idle (task : LockTask α ρ κ) : Bool := task.rest.isEmpty && task.waits.isNone

def lockStep (sys : LockSystem α φ ρ κ) (s : LockState α ρ κ) :
    LockEvent α φ κ → LockState α ρ κ
  | .spawn role => { s with tasks := s.tasks ++ [⟨role, [], [], none⟩] }
  | .start i f =>
    match s.tasks[i]? with
    | none => s
    | some task =>
      match sys.program task.role f with
      | none => s
      | some program =>
        if task.idle then
          { s with tasks := s.tasks.set i { task with rest := [.run program] } }
        else s
  | .receive i c f =>
    match s.tasks[i]? with
    | none => s
    | some task =>
      match sys.program task.role f with
      | none => s
      | some program =>
        if task.idle && sys.receives task.role c && 0 < s.fill c then
          { s with
            tasks := s.tasks.set i { task with rest := [.run program] }
            fill := update s.fill c (s.fill c - 1) }
        else s
  | .step i branch =>
    match s.tasks[i]? with
    | none => s
    | some task => if task.waits.isSome then s else sys.proceed s i task branch
  | .resume i =>
    match s.tasks[i]? with
    | none => s
    | some task =>
      match task.waits with
      | none => s
      | some w => if sys.available s w.resource w.mode w.ticket then s.grant i task w.resource w.mode
        else s
  | .abort i =>
    match s.tasks[i]? with
    | none => s
    | some task => { s with tasks := s.tasks.set i ⟨task.role, [], [], none⟩ }

def lockMachine (sys : LockSystem α φ ρ κ) :
    Machine (LockState α ρ κ) (LockEvent α φ κ) Empty :=
  ⟨fun s e => (lockStep sys s e, [])⟩

/-- No tasks, and nothing in the channels. -/
def LockState.initial : LockState α ρ κ := ⟨[], fun _ => 0, 0⟩

/-! ## Waiting -/

/-- A task keeps another from what it waits for: it holds the lock, it is to
receive from the channel, or it stands before it in the queue. -/
inductive Blocks (sys : LockSystem α φ ρ κ) (w : Wait ρ κ) (other : LockTask α ρ κ) : Prop where
  | holds {l : ρ} {mode : LockMode} (lock : w.resource = .lock l) (held : (l, mode) ∈ other.held)
      (conflict : w.mode.conflicts mode = true)
  | receives {c : κ} (room : w.resource = .room c) (receiver : sys.receives other.role c = true)
  | ahead {w' : Wait ρ κ} (waits : other.waits = some w') (same : w'.resource = w.resource)
      (before : w'.ticket < w.ticket)

/-- Task `i` waits for task `j`. -/
def WaitsFor (sys : LockSystem α φ ρ κ) (s : LockState α ρ κ) (i j : Nat) : Prop :=
  ∃ task other w, s.tasks[i]? = some task ∧ s.tasks[j]? = some other ∧ task.waits = some w ∧
    Blocks sys w other

def LockTask.locks (task : LockTask α ρ κ) : List ρ := task.held.map (·.1)

/-- Tasks wait for each other in a cycle, or one waits for a lock that it holds. -/
def Deadlocked (sys : LockSystem α φ ρ κ) (s : LockState α ρ κ) : Prop :=
  (∃ i, Relation.TransGen (WaitsFor sys s) i i) ∨
    ∃ task ∈ s.tasks, ∃ w ∈ task.waits, ∃ l ∈ task.locks, w.resource = .lock l

/-! ## Ranked resources -/

/-- A resource ranks above the locks that a task of a role holds and the channels
it receives from. -/
def GoesUp (sys : LockSystem α φ ρ κ) (rank : Resource ρ κ → Nat) (role : α) (locks : List ρ)
    (r : Resource ρ κ) : Prop :=
  (∀ l ∈ locks, rank (.lock l) < rank r) ∧
    ∀ c, sys.receives role c = true → rank (.room c) < rank r

/-- What a task waits for ranks above all it holds. -/
def LockTask.WaitsUp (sys : LockSystem α φ ρ κ) (rank : Resource ρ κ → Nat)
    (task : LockTask α ρ κ) : Prop :=
  ∀ w, task.waits = some w → GoesUp sys rank task.role task.locks w.resource

/-- A wait is for a higher resource, or earlier in the queue of the same. -/
def Wait.Above (rank : Resource ρ κ → Nat) (w w' : Wait ρ κ) : Prop :=
  rank w'.resource < rank w.resource ∨ w.resource = w'.resource ∧ w.ticket < w'.ticket

omit [DecidableEq ρ] [DecidableEq κ] in
theorem Wait.Above.trans {rank : Resource ρ κ → Nat} {w w' w'' : Wait ρ κ}
    (first : w.Above rank w') (second : w'.Above rank w'') : w.Above rank w'' := by
  rcases first with higher | ⟨same, before⟩
  · rcases second with higher' | ⟨same', -⟩
    · exact .inl (Nat.lt_trans higher' higher)
    · exact .inl (same' ▸ higher)
  · rcases second with higher' | ⟨same', before'⟩
    · exact .inl (same ▸ higher')
    · exact .inr ⟨same.trans same', Nat.lt_trans before before'⟩

omit [DecidableEq ρ] [DecidableEq κ] in
theorem Wait.Above.irrefl {rank : Resource ρ κ → Nat} {w : Wait ρ κ} : ¬ w.Above rank w := by
  rintro (higher | ⟨-, before⟩)
  · exact Nat.lt_irrefl _ higher
  · exact Nat.lt_irrefl _ before

variable {sys : LockSystem α φ ρ κ} {rank : Resource ρ κ → Nat} {s : LockState α ρ κ}

omit [DecidableEq ρ] [DecidableEq κ] in
/-- Where tasks wait for what ranks above all they hold, a task waits above those
that it blocks. -/
theorem Blocks.above {w w' : Wait ρ κ} {other : LockTask α ρ κ} (blocks : Blocks sys w other)
    (up : other.WaitsUp sys rank) (waits : other.waits = some w') : w'.Above rank w := by
  obtain ⟨locks, rooms⟩ := up w' waits
  cases blocks with
  | holds lock held conflict =>
    refine .inl ?_
    rw [lock]
    exact locks _ (List.mem_map_of_mem held)
  | receives room receiver =>
    refine .inl ?_
    rw [room]
    exact rooms _ receiver
  | ahead waits' same before =>
    obtain rfl := Option.some.inj (waits'.symm.trans waits)
    exact .inr ⟨same, before⟩

omit [DecidableEq ρ] [DecidableEq κ] in
/-- Along a chain of waiting tasks, the waits go up. -/
theorem waits_climb (up : ∀ task ∈ s.tasks, task.WaitsUp sys rank) {i j : Nat}
    (chain : Relation.TransGen (WaitsFor sys s) i j) {task other : LockTask α ρ κ} {w w' : Wait ρ κ}
    (at_ : s.tasks[i]? = some task) (waits : task.waits = some w)
    (at' : s.tasks[j]? = some other) (waits' : other.waits = some w') : w'.Above rank w := by
  induction chain generalizing other w' with
  | single edge =>
    obtain ⟨_, _, _, first, second, waiting, blocks⟩ := edge
    obtain rfl := Option.some.inj (first.symm.trans at_)
    obtain rfl := Option.some.inj (second.symm.trans at')
    obtain rfl := Option.some.inj (waiting.symm.trans waits)
    exact blocks.above (up _ (List.mem_of_getElem? second)) waits'
  | tail chain edge ih =>
    obtain ⟨middle, _, v, first, second, waiting, blocks⟩ := edge
    obtain rfl := Option.some.inj (second.symm.trans at')
    exact (blocks.above (up _ (List.mem_of_getElem? second)) waits').trans (ih first waiting)

omit [DecidableEq ρ] [DecidableEq κ] in
/-- Tasks that only wait for what ranks above all they hold are in no deadlock. -/
theorem not_deadlocked (rank : Resource ρ κ → Nat)
    (up : ∀ task ∈ s.tasks, task.WaitsUp sys rank) :
    ¬ Deadlocked sys s := by
  rintro (⟨i, cycle⟩ | ⟨task, member, w, waits, l, holds, lock⟩)
  · obtain ⟨j, edge, -⟩ := Relation.TransGen.head'_iff.mp cycle
    obtain ⟨task, _, w, at_, -, waits, -⟩ := edge
    exact Wait.Above.irrefl (waits_climb up cycle at_ waits at_ waits)
  · have above := (up task member w waits).1 l holds
    rw [lock] at above
    exact Nat.lt_irrefl _ above

omit [DecidableEq ρ] [DecidableEq κ] in
/-- A task that holds nothing and receives from nowhere only keeps those waiting
that stand behind it in its queue. -/
theorem WaitsFor.behind {i j : Nat} (edge : WaitsFor sys s i j) {other : LockTask α ρ κ}
    {w : Wait ρ κ} (at_ : s.tasks[j]? = some other) (waits : other.waits = some w)
    (empty : other.held = []) (deaf : ∀ c, sys.receives other.role c = false) :
    ∃ task w', s.tasks[i]? = some task ∧ task.waits = some w' ∧ w'.resource = w.resource := by
  obtain ⟨task, _, w', first, second, waiting, blocks⟩ := edge
  obtain rfl := Option.some.inj (second.symm.trans at_)
  refine ⟨task, w', first, waiting, ?_⟩
  cases blocks with
  | holds lock held conflict =>
    rw [empty] at held
    cases held
  | receives room receiver =>
    rw [deaf] at receiver
    cases receiver
  | ahead waits' same before =>
    obtain rfl := Option.some.inj (waits'.symm.trans waits)
    exact same.symm

/-! ## Checked programs -/

/-- Every resource that a program asks for is allowed with the locks held there. -/
def LockProgram.Respects (allows : List ρ → Resource ρ κ → Prop) (locks : List ρ) :
    LockProgram ρ κ → Prop
  | .skip => True
  | .send c => allows locks (.room c)
  | .seq first second => first.Respects allows locks ∧ second.Respects allows locks
  | .choice left right => left.Respects allows locks ∧ right.Respects allows locks
  | .loop body => body.Respects allows locks
  | .hold l _ body => allows locks (.lock l) ∧ body.Respects allows (l :: locks)

namespace LockProgram

variable {allows allows' : List ρ → Resource ρ κ → Prop} {locks : List ρ}

omit [DecidableEq ρ] [DecidableEq κ] in
@[simp] theorem respects_sequence {programs : List (LockProgram ρ κ)} :
    (sequence programs).Respects allows locks ↔
      ∀ program ∈ programs, program.Respects allows locks := by
  induction programs with
  | nil => simp [sequence, Respects]
  | cons first rest ih =>
    rw [List.forall_mem_cons, ← ih]
    rfl

omit [DecidableEq ρ] [DecidableEq κ] in
@[simp] theorem respects_optional {program : LockProgram ρ κ} :
    (optional program).Respects allows locks ↔ program.Respects allows locks :=
  and_iff_left trivial

omit [DecidableEq ρ] [DecidableEq κ] in
theorem Respects.imp {program : LockProgram ρ κ} (respects : program.Respects allows locks)
    (weaker : ∀ locks r, allows locks r → allows' locks r) : program.Respects allows' locks := by
  induction program generalizing locks with
  | skip => trivial
  | send c => exact weaker _ _ respects
  | seq first second ih ih' => exact ⟨ih respects.1, ih' respects.2⟩
  | choice left right ih ih' => exact ⟨ih respects.1, ih' respects.2⟩
  | loop body ih => exact ih respects
  | hold l mode body ih => exact ⟨weaker _ _ respects.1, ih respects.2⟩

end LockProgram

/-- The same of what a task with these locks has left to do; in the end it holds
none. -/
def RestRespects (allows : List ρ → Resource ρ κ → Prop) : List ρ → List (Pending ρ κ) → Prop
  | locks, [] => locks = []
  | locks, .run program :: rest => program.Respects allows locks ∧ RestRespects allows locks rest
  | locks, .unlock :: rest => RestRespects allows locks.tail rest

/-- The locks held once a resource is granted. -/
def Resource.granted (r : Resource ρ κ) (locks : List ρ) : List ρ :=
  match r with
  | .lock l => l :: locks
  | .room _ => locks

/-- A task only goes on in ways that are allowed. -/
def LockTask.Respects (allows : α → List ρ → Resource ρ κ → Prop) (task : LockTask α ρ κ) : Prop :=
  match task.waits with
  | none => RestRespects (allows task.role) task.locks task.rest
  | some w => RestRespects (allows task.role) (w.resource.granted task.locks) task.rest

/-- Whatever a role runs asks only for what is allowed. -/
def LockSystem.Checked (sys : LockSystem α φ ρ κ) (allows : α → List ρ → Resource ρ κ → Prop) :
    Prop :=
  ∀ role f program, sys.program role f = some program → program.Respects (allows role) []

/-- A task goes on as is allowed, and where it waits is allowed and not bad. -/
structure LockTask.Obeys (allows : α → List ρ → Resource ρ κ → Prop)
    (bad : α → List ρ → Resource ρ κ → Bool) (task : LockTask α ρ κ) : Prop where
  respects : task.Respects allows
  waits : ∀ w ∈ task.waits, allows task.role task.locks w.resource ∧
    bad task.role task.locks w.resource = false

/-- The resource that a task asks for next. -/
def LockTask.asks (task : LockTask α ρ κ) : Option (Resource ρ κ × LockMode) :=
  match task.rest with
  | .run (.send c) :: _ => some (.room c, .exclusive)
  | .run (.hold l mode _) :: _ => some (.lock l, mode)
  | _ => none

/-- A task that asks for a resource where it is bad to wait finds it free. -/
def FreeIfBad (sys : LockSystem α φ ρ κ) (bad : α → List ρ → Resource ρ κ → Bool)
    (s : LockState α ρ κ) (task : LockTask α ρ κ) : Prop :=
  ∀ asked ∈ task.asks, bad task.role task.locks asked.1 = true →
    sys.available s asked.1 asked.2 s.nextTicket = true

instance {bad : α → List ρ → Resource ρ κ → Bool} {sys : LockSystem α φ ρ κ}
    {s : LockState α ρ κ} {task : LockTask α ρ κ} : Decidable (FreeIfBad sys bad s task) :=
  inferInstanceAs (Decidable (∀ asked ∈ task.asks, _))

/-- No task comes to wait where that is bad. -/
def NeverWaitsAt (sys : LockSystem α φ ρ κ) (bad : α → List ρ → Resource ρ κ → Bool)
    (r : Record (LockState α ρ κ) (LockEvent α φ κ) Empty) : Prop :=
  match r.event with
  | .step i _ => ∀ task ∈ r.before.tasks[i]?, FreeIfBad sys bad r.before task
  | _ => True

instance {bad : α → List ρ → Resource ρ κ → Bool} {sys : LockSystem α φ ρ κ}
    {r : Record (LockState α ρ κ) (LockEvent α φ κ) Empty} : Decidable (NeverWaitsAt sys bad r) :=
  match r with
  | ⟨s, .step i _, _⟩ =>
    inferInstanceAs (Decidable (∀ task ∈ s.tasks[i]?, FreeIfBad sys bad s task))
  | ⟨_, .spawn _, _⟩ | ⟨_, .start .., _⟩ | ⟨_, .receive .., _⟩ | ⟨_, .resume _, _⟩
  | ⟨_, .abort _, _⟩ => .isTrue trivial

variable {allows : α → List ρ → Resource ρ κ → Prop} {bad : α → List ρ → Resource ρ κ → Bool}

omit [DecidableEq ρ] [DecidableEq κ] in
private theorem all_set {i : Nat} {changed : LockTask α ρ κ}
    (all : ∀ task ∈ s.tasks, task.Obeys allows bad) (good : changed.Obeys allows bad) :
    ∀ task ∈ s.tasks.set i changed, task.Obeys allows bad := by
  intro task member
  rcases List.mem_or_eq_of_mem_set member with before | rfl
  · exact all task before
  · exact good

omit [DecidableEq ρ] [DecidableEq κ] in
/-- A task that does not wait obeys if what it has left to do is allowed. -/
private theorem obeys_of_rest {task : LockTask α ρ κ} (running : task.waits = none)
    (respects : RestRespects (allows task.role) task.locks task.rest) : task.Obeys allows bad where
  respects := by
    rw [LockTask.Respects, running]
    exact respects
  waits := by
    rw [running]
    rintro w ⟨⟩

omit [DecidableEq ρ] in
private theorem grant_obeys (all : ∀ task ∈ s.tasks, task.Obeys allows bad) {i : Nat}
    {asking : LockTask α ρ κ} {r : Resource ρ κ} {mode : LockMode}
    (rest : RestRespects (allows asking.role) (r.granted asking.locks) asking.rest) :
    ∀ task ∈ (s.grant i asking r mode).tasks, task.Obeys allows bad := by
  cases r with
  | lock l =>
    refine all_set all ?_
    exact obeys_of_rest rfl rest
  | room c =>
    refine all_set all ?_
    exact obeys_of_rest rfl rest

/-- A task that asks for a resource gets it, or it waits where that is not bad. -/
private theorem request_obeys (all : ∀ task ∈ s.tasks, task.Obeys allows bad) {i : Nat}
    {asking : LockTask α ρ κ} {r : Resource ρ κ} {mode : LockMode}
    (allowed : allows asking.role asking.locks r)
    (rest : RestRespects (allows asking.role) (r.granted asking.locks) asking.rest)
    (free : bad asking.role asking.locks r = true → sys.available s r mode s.nextTicket = true) :
    ∀ task ∈ (sys.request s i asking r mode).tasks, task.Obeys allows bad := by
  unfold LockSystem.request
  split
  · exact grant_obeys all rest
  · rename_i taken
    refine all_set all ⟨?_, ?_⟩
    · exact rest
    · rintro w ⟨⟩
      refine ⟨allowed, ?_⟩
      by_contra isBad
      exact taken (free (eq_true_of_ne_false isBad))

/-- A task that goes on still obeys if it does not come to wait where that is bad. -/
private theorem proceed_obeys (all : ∀ task ∈ s.tasks, task.Obeys allows bad) {i : Nat}
    {going : LockTask α ρ κ} {branch : Bool} (running : going.waits = none)
    (good : going.Obeys allows bad) (free : FreeIfBad sys bad s going) :
    ∀ task ∈ (sys.proceed s i going branch).tasks, task.Obeys allows bad := by
  have respects := good.respects
  rw [LockTask.Respects, running] at respects
  unfold FreeIfBad LockTask.asks at free
  unfold LockSystem.proceed
  generalize going.rest = rest at respects free ⊢
  cases rest with
  | nil => exact all
  | cons next later =>
    cases next with
    | unlock =>
      refine all_set all (obeys_of_rest running ?_)
      change RestRespects _ (going.held.tail.map (·.1)) later
      rw [List.map_tail]
      exact respects
    | run program =>
      obtain ⟨asked, rest⟩ := respects
      cases program with
      | skip => exact all_set all (obeys_of_rest running rest)
      | seq first second => exact all_set all (obeys_of_rest running ⟨asked.1, asked.2, rest⟩)
      | choice left right =>
        refine all_set all (obeys_of_rest running ⟨?_, rest⟩)
        cases branch
        · exact asked.2
        · exact asked.1
      | loop body =>
        refine all_set all (obeys_of_rest running ?_)
        cases branch
        · exact rest
        · exact ⟨asked, asked, rest⟩
      | send c => exact request_obeys all asked rest (free _ rfl)
      | hold l mode body => exact request_obeys all asked.1 ⟨asked.2, rest⟩ (free _ rfl)

variable (checked : sys.Checked allows)

include checked

omit [DecidableEq ρ] [DecidableEq κ] in
/-- An idle task that runs a function of its role still obeys. -/
private theorem started_obeys {task : LockTask α ρ κ} {f : φ} {program : LockProgram ρ κ}
    (idle : task.idle = true) (good : task.Obeys allows bad)
    (runs : sys.program task.role f = some program) :
    ({ task with rest := [.run program] } : LockTask α ρ κ).Obeys allows bad := by
  simp only [LockTask.idle, Bool.and_eq_true, List.isEmpty_iff, Option.isNone_iff_eq_none] at idle
  obtain ⟨done, running⟩ := idle
  have none : task.locks = [] := by
    have respects := good.respects
    rw [LockTask.Respects, running, done] at respects
    exact respects
  refine obeys_of_rest running ⟨?_, none⟩
  change program.Respects _ task.locks
  rw [none]
  exact checked task.role f program runs

/-- After a step in which no task comes to wait where that is bad, all obey. -/
theorem obeys_step (all : ∀ task ∈ s.tasks, task.Obeys allows bad) {e : LockEvent α φ κ}
    (settled : NeverWaitsAt sys bad ((lockMachine sys).record s e)) :
    ∀ task ∈ (lockStep sys s e).tasks, task.Obeys allows bad := by
  cases e with
  | spawn role =>
    intro task member
    rcases List.mem_append.mp member with before | new
    · exact all task before
    · obtain rfl := List.mem_singleton.mp new
      exact obeys_of_rest rfl rfl
  | start i f =>
    simp only [lockStep]
    split
    · exact all
    · rename_i task found
      split
      · exact all
      · rename_i program runs
        split_ifs with idle
        · exact all_set all
            (started_obeys checked idle (all task (List.mem_of_getElem? found)) runs)
        · exact all
  | receive i c f =>
    simp only [lockStep]
    split
    · exact all
    · rename_i task found
      split
      · exact all
      · rename_i program runs
        split_ifs with starts
        · simp only [Bool.and_eq_true] at starts
          exact all_set all
            (started_obeys checked starts.1.1 (all task (List.mem_of_getElem? found)) runs)
        · exact all
  | step i branch =>
    simp only [lockStep]
    split
    · exact all
    · rename_i task found
      split_ifs with waiting
      · exact all
      · exact proceed_obeys all (by simpa using waiting) (all task (List.mem_of_getElem? found))
          (settled task found)
  | resume i =>
    simp only [lockStep]
    split
    · exact all
    · rename_i task found
      split
      · exact all
      · rename_i w waits
        split_ifs
        · have respects := (all task (List.mem_of_getElem? found)).respects
          rw [LockTask.Respects, waits] at respects
          exact grant_obeys all respects
        · exact all
  | abort i =>
    simp only [lockStep]
    split
    · exact all
    · exact all_set all (obeys_of_rest rfl rfl)

/-- In a run in which no task comes to wait where that is bad, tasks only wait where
their programs allow it and it is not bad. -/
theorem always_obeys (events : List (LockEvent α φ κ))
    (settled : ∀ r ∈ ((lockMachine sys).history .initial events).1, NeverWaitsAt sys bad r) :
    Machine.Always (fun _ r => ∀ task ∈ (lockStep sys r.before r.event).tasks, task.Obeys allows bad)
      ((lockMachine sys).history .initial events).1 := by
  refine ((lockMachine sys).reaches_history _ events).always
    (fun _ s => ∀ task ∈ s.tasks, task.Obeys allows bad) (NeverWaitsAt sys bad) ?_
    (fun _ s e all meets => obeys_step checked all meets)
    (fun _ s e all meets => obeys_step checked all meets) settled
  rintro task ⟨⟩

omit checked

/-! ## Programs in order -/

/-- A resource that a program may ask for: it ranks above all that is held, or it
is bad to wait for it there. -/
def UpOrBad (sys : LockSystem α φ ρ κ) (rank : Resource ρ κ → Nat)
    (bad : α → List ρ → Resource ρ κ → Bool) (role : α) (locks : List ρ) (r : Resource ρ κ) : Prop :=
  bad role locks r = true ∨ GoesUp sys rank role locks r

/-- In a run in which no task comes to wait out of order, no state is deadlocked. -/
theorem never_deadlocked (rank : Resource ρ κ → Nat)
    (ordered : sys.Checked (UpOrBad sys rank bad))
    (events : List (LockEvent α φ κ))
    (settled : ∀ r ∈ ((lockMachine sys).history .initial events).1, NeverWaitsAt sys bad r) :
    Machine.Always (fun _ r => ¬ Deadlocked sys (lockStep sys r.before r.event))
      ((lockMachine sys).history .initial events).1 := by
  refine (always_obeys ordered events settled).imp ?_
  intro _ r obeys
  refine not_deadlocked rank fun task member w waits => ?_
  obtain ⟨allowed, notBad⟩ := (obeys task member).waits w waits
  refine allowed.resolve_left ?_
  rw [notBad]
  exact Bool.false_ne_true

end MtrxPeer
