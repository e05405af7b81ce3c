import MtrxPeer.SessionSetup

/-! The mark of a peer that is negotiated with keeps other tasks from negotiating with it, and
so a session from being replaced, where each session is begun with a peer that has none. -/
namespace MtrxPeer

open Function (update update_self update_of_ne)

/-! ## Who sets up a session -/

/-- A task is about to put a connection into the table. -/
def SetupStage.setsUp : SetupStage → Bool
  | .create _ => true
  | .insert .. => true
  | _ => false

/-- The tasks of a peer whose stage is of some kind. -/
def tasksAt (kind : SetupStage → Bool) (tasks : List SetupTask) (peer : String) : Nat :=
  tasks.countP fun task => decide (task.peer = peer) && kind task.stage

def SetupStage.inbound : SetupStage → Bool
  | .create .inbound => true
  | .insert .inbound _ => true
  | _ => false

/-- A task is about to unmark its peer, to close the session. -/
def SetupStage.closes : SetupStage → Bool
  | .unmark _ => true
  | _ => false

/-- The peer of an offer. -/
def offeredBy : PoolEvent SetupStart Bool → Option String
  | .spawn (.offer peer) => some peer
  | _ => none

/-- The task that takes a step. -/
def steppingTask (pool : SetupPool) : PoolEvent SetupStart Bool → Option SetupTask
  | .spawn _ => none
  | .step i _ => pool.tasks[i]?

/-- A step keeps sessions apart: a session is only begun with a peer that has no connection,
and with which the other kind of task is setting none up; and a peer is only unmarked, for a
session to be closed, while no task negotiates with it. -/
def SpacesSessions (r : Record SetupPool (PoolEvent SetupStart Bool) Unit) : Prop :=
  (∀ peer ∈ offeredBy r.event,
    r.before.shared.peers peer = none ∧ tasksAt SetupStage.setsUp r.before.tasks peer = 0) ∧
  ∀ task ∈ steppingTask r.before r.event,
    (task.stage = .tryBegin → r.before.shared.negotiatingPeers task.peer = false →
      r.before.shared.peers task.peer = none ∧ tasksAt SetupStage.inbound r.before.tasks task.peer = 0) ∧
    (task.stage.closes = true → tasksAt SetupStage.negotiates r.before.tasks task.peer = 0)

instance : DecidablePred SpacesSessions := fun _ => inferInstanceAs (Decidable (_ ∧ _))

/-- One task at most sets up a session with a peer, which has no connection then, and the mark
of a peer says whether a task negotiates with it. -/
structure SetApart (s : Sessions) (tasks : List SetupTask) : Prop where
  marked : ∀ peer, tasksAt SetupStage.negotiates tasks peer = if s.negotiatingPeers peer then 1 else 0
  single : ∀ peer, tasksAt SetupStage.setsUp tasks peer ≤ 1
  absent : ∀ peer, 0 < tasksAt SetupStage.setsUp tasks peer → s.peers peer = none
  unreplaced : s.replaced = []

/-- What a step of a task does to the mark and the entry of its peer. -/
inductive Change (s : Sessions) (peer : String) (stage : SetupStage) : Sessions × SetupStage → Prop where
  | stays (s' : Sessions) (stage' : SetupStage) (marks : s'.negotiatingPeers = s.negotiatingPeers)
      (entries : s'.peers = s.peers ∨ s'.peers = update s.peers peer none)
      (replaced : s'.replaced = s.replaced) (same : stage'.negotiates = stage.negotiates)
      (less : stage'.setsUp = true → stage.setsUp = true) : Change s peer stage (s', stage')
  | begins (stage' : SetupStage) (free : s.negotiatingPeers peer = false) (began : stage = .tryBegin)
      (negotiates : stage'.negotiates = true) :
      Change s peer stage ({ s with negotiatingPeers := update s.negotiatingPeers peer true }, stage')
  | inserts (c : Nat) (stage' : SetupStage) (setsUp : stage.setsUp = true) (done : stage'.setsUp = false)
      (same : stage'.negotiates = stage.negotiates) :
      Change s peer stage ({ s with
        peers := update s.peers peer (some c)
        replaced := s.replaced ++ (s.peers peer).toList }, stage')
  | unmarks (stage' : SetupStage) (done : stage'.setsUp = false) (idle : stage'.negotiates = false)
      (why : stage.negotiates = true ∨ stage.closes = true) :
      Change s peer stage ({ s with negotiatingPeers := update s.negotiatingPeers peer false }, stage')

theorem setupStage_change (s : Sessions) (peer : String) (approved choice : Bool) (stage : SetupStage) :
    Change s peer stage (setupStage s peer approved choice stage) := by
  have looks (stage stage' : SetupStage) (same : stage'.negotiates = stage.negotiates)
      (less : stage'.setsUp = true → stage.setsUp = true) : Change s peer stage (s, stage') :=
    .stays s stage' rfl (.inl rfl) rfl same less
  have next (why : ClosedFor) : why.next.negotiates = false ∧ why.next.setsUp = false := by
    cases why <;> exact ⟨rfl, rfl⟩
  cases stage with
  | lookStale | readStale | lookReady | lookNegotiating | lookIncomplete | lookSession | useSession |
    awaitChannel => exact looks _ _ (by split <;> rfl) (by split <;> simp [SetupStage.setsUp])
  | ended => exact looks _ _ rfl id
  | lookFree =>
    by_cases marked : s.negotiatingPeers peer
    · rw [show setupStage s peer approved choice .lookFree = (s, .useSession) by simp [setupStage, marked]]
      exact looks _ _ rfl (by simp [SetupStage.setsUp])
    · cases approved with
      | true =>
        rw [show setupStage s peer true choice .lookFree = (s, .tryBegin) by simp [setupStage, marked]]
        exact looks _ _ rfl (by simp [SetupStage.setsUp])
      | false =>
        rw [show setupStage s peer false choice .lookFree = (s, .ended) by simp [setupStage, marked]]
        exact looks _ _ rfl (by simp [SetupStage.setsUp])
  | tryBegin =>
    rw [setupStage]
    split
    · exact looks _ _ rfl (by simp [SetupStage.setsUp])
    · rename_i free
      exact .begins _ (Bool.eq_false_iff.mpr free) rfl rfl
  | create direction =>
    cases choice with
    | true => exact .stays _ _ rfl (.inl rfl) rfl (by cases direction <;> rfl) (fun _ => rfl)
    | false => exact looks _ _ (by cases direction <;> rfl) (fun _ => rfl)
  | insert direction c =>
    exact .inserts c _ rfl (by cases direction <;> rfl) (by cases direction <;> rfl)
  | endNegotiation sent =>
    cases sent with
    | true => exact .unmarks _ rfl rfl (.inl rfl)
    | false => exact .unmarks _ rfl rfl (.inl rfl)
  | unmark why => exact .unmarks _ rfl rfl (.inr rfl)
  | take why =>
    refine .stays _ _ rfl (.inr rfl) rfl ?_ ?_
    · cases s.peers peer with
      | none => exact (next why).1
      | some c => rfl
    · cases s.peers peer with
      | none => simp [(next why).2]
      | some c => simp [SetupStage.setsUp]
  | shut why c => exact .stays _ _ rfl (.inl rfl) rfl (next why).1 (by simp [(next why).2])

/-! ## What a step keeps -/

section Keeps

variable {s : Sessions} {before after : List SetupTask} {task : SetupTask} {stage' : SetupStage}
  {kind : SetupStage → Bool} {peer : String}

/-- A step of a task counts with its own peer, -/
theorem tasksAt_own (kind : SetupStage → Bool) (before after : List SetupTask) (task : SetupTask)
    (stage' : SetupStage) :
    tasksAt kind (before ++ { task with stage := stage' } :: after) task.peer + (kind task.stage).toNat =
      tasksAt kind (before ++ task :: after) task.peer + (kind stage').toNat := by
  have counts := Pool.countP_replace (fun other => decide (other.peer = task.peer) && kind other.stage)
    before after task { task with stage := stage' }
  simpa [tasksAt] using counts

/-- and not with another one. -/
theorem tasksAt_other (differs : peer ≠ task.peer) :
    tasksAt kind (before ++ { task with stage := stage' } :: after) peer =
      tasksAt kind (before ++ task :: after) peer := by
  simp [tasksAt, List.countP_append, Ne.symm differs]

/-- Where no task negotiates with a peer, and none is there for an offer, none sets up a session. -/
theorem setsUp_eq_zero {tasks : List SetupTask} (idle : tasksAt SetupStage.negotiates tasks peer = 0)
    (none_ : tasksAt SetupStage.inbound tasks peer = 0) : tasksAt SetupStage.setsUp tasks peer = 0 := by
  rw [tasksAt, List.countP_eq_zero] at idle none_ ⊢
  rintro ⟨other, approved, stage⟩ member
  have quiet := idle _ member
  have outside := none_ _ member
  by_cases mine : other = peer
  · simp only [mine, decide_true, Bool.true_and] at quiet outside ⊢
    cases stage with
    | create direction => cases direction <;> simp [SetupStage.negotiates, SetupStage.inbound] at quiet outside
    | insert direction c => cases direction <;> simp [SetupStage.negotiates, SetupStage.inbound] at quiet outside
    | _ => simp [SetupStage.setsUp]
  · simp [mine]

/-- What happens to another peer's tables is nothing. -/
private theorem SetApart.of_own {s' : Sessions} (ok : SetApart s (before ++ task :: after))
    (marks : ∀ other, other ≠ task.peer → s'.negotiatingPeers other = s.negotiatingPeers other)
    (entries : ∀ other, other ≠ task.peer → s'.peers other = s.peers other)
    (replaced : s'.replaced = [])
    (marked : tasksAt SetupStage.negotiates (before ++ { task with stage := stage' } :: after) task.peer =
      if s'.negotiatingPeers task.peer then 1 else 0)
    (single : tasksAt SetupStage.setsUp (before ++ { task with stage := stage' } :: after) task.peer ≤ 1)
    (absent : 0 < tasksAt SetupStage.setsUp (before ++ { task with stage := stage' } :: after) task.peer →
      s'.peers task.peer = none) :
    SetApart s' (before ++ { task with stage := stage' } :: after) := by
  refine ⟨fun peer => ?_, fun peer => ?_, fun peer => ?_, replaced⟩
  · by_cases mine : peer = task.peer
    · rw [mine]
      exact marked
    · rw [tasksAt_other mine, marks peer mine]
      exact ok.marked peer
  · by_cases mine : peer = task.peer
    · rw [mine]
      exact single
    · rw [tasksAt_other mine]
      exact ok.single peer
  · by_cases mine : peer = task.peer
    · rw [mine]
      exact absent
    · rw [tasksAt_other mine, entries peer mine]
      exact ok.absent peer

theorem SetApart.change {s' : Sessions} (ok : SetApart s (before ++ task :: after))
    (change : Change s task.peer task.stage (s', stage'))
    (beginsFree : task.stage = .tryBegin → s.negotiatingPeers task.peer = false →
      s.peers task.peer = none ∧ tasksAt SetupStage.inbound (before ++ task :: after) task.peer = 0)
    (unmarksIdle : task.stage.closes = true →
      tasksAt SetupStage.negotiates (before ++ task :: after) task.peer = 0) :
    SetApart s' (before ++ { task with stage := stage' } :: after) := by
  have marked := ok.marked task.peer
  have single := ok.single task.peer
  have absent := ok.absent task.peer
  cases change with
  | stays s' stage' marks entries replaced same less =>
    have negotiating := tasksAt_own SetupStage.negotiates before after task stage'
    have settingUp := tasksAt_own SetupStage.setsUp before after task stage'
    have fewer : stage'.setsUp.toNat ≤ task.stage.setsUp.toNat := by
      cases sets : stage'.setsUp with
      | true => simp [less sets]
      | false => exact Nat.zero_le _
    rw [same] at negotiating
    refine ok.of_own (fun other _ => by rw [marks]) ?_ (replaced.trans ok.unreplaced) ?_ ?_ ?_
    · intro other differs
      rcases entries with kept | taken
      · rw [kept]
      · rw [taken, update_of_ne differs]
    · rw [marks]
      omega
    · omega
    · intro some_
      have none_ := absent (by omega)
      rcases entries with kept | taken
      · rw [kept, none_]
      · rw [taken, update_self]
  | begins stage' free began negotiates =>
    obtain ⟨none_, outside⟩ := beginsFree began free
    have negotiating := tasksAt_own SetupStage.negotiates before after task stage'
    have settingUp := tasksAt_own SetupStage.setsUp before after task stage'
    have quiet : task.stage.negotiates = false := by rw [began]; rfl
    rw [free, if_neg Bool.false_ne_true] at marked
    have idle := setsUp_eq_zero marked outside
    rw [negotiates, quiet] at negotiating
    refine ok.of_own (fun other differs => update_of_ne differs _ _) (fun _ _ => rfl) ok.unreplaced ?_ ?_ ?_
    · simp only [update_self, if_true]
      simp only [Bool.toNat_true, Bool.toNat_false] at negotiating
      rw [marked] at negotiating
      omega
    · have one := Bool.toNat_le stage'.setsUp
      omega
    · exact fun _ => none_
  | inserts c stage' setsUp done same =>
    have negotiating := tasksAt_own SetupStage.negotiates before after task stage'
    have settingUp := tasksAt_own SetupStage.setsUp before after task stage'
    rw [same] at negotiating
    rw [setsUp, done] at settingUp
    simp only [Bool.toNat_true, Bool.toNat_false] at settingUp
    have none_ := absent (by omega)
    refine ok.of_own (fun _ _ => rfl) (fun other differs => update_of_ne differs _ _) ?_ ?_ ?_ ?_
    · rw [none_, ok.unreplaced]
      rfl
    · dsimp only
      omega
    · omega
    · intro more
      omega
  | unmarks stage' done idle why =>
    have negotiating := tasksAt_own SetupStage.negotiates before after task stage'
    have settingUp := tasksAt_own SetupStage.setsUp before after task stage'
    rw [idle] at negotiating
    rw [done] at settingUp
    simp only [Bool.toNat_false] at negotiating settingUp
    refine ok.of_own (fun other differs => update_of_ne differs _ _) (fun _ _ => rfl) ok.unreplaced ?_ ?_ ?_
    · simp only [update_self, Bool.false_eq_true, if_false]
      rcases why with negotiates | closes
      · rw [negotiates] at negotiating
        simp only [Bool.toNat_true] at negotiating
        split at marked <;> omega
      · have none_ := unmarksIdle closes
        omega
    · omega
    · intro some_
      exact absent (by omega)

/-- An offer of a peer with which there is no session, and none is being set up; or a task that
sets none up yet. -/
theorem SetApart.join (ok : SetApart s before) (start : SetupStart)
    (free : ∀ peer, start = .offer peer → s.peers peer = none ∧ tasksAt SetupStage.setsUp before peer = 0) :
    SetApart s (before ++ [start.task]) := by
  have quiet : start.task.stage.negotiates = false := by cases start <;> rfl
  have count (kind : SetupStage → Bool) (peer : String) : tasksAt kind (before ++ [start.task]) peer =
      tasksAt kind before peer + (decide (start.task.peer = peer) && kind start.task.stage).toNat := by
    rw [tasksAt, List.countP_append, List.countP_singleton]
    cases decide (start.task.peer = peer) && kind start.task.stage <;> rfl
  have same (peer : String) :
      tasksAt SetupStage.negotiates (before ++ [start.task]) peer = tasksAt SetupStage.negotiates before peer := by
    rw [count, quiet, Bool.and_false]
    rfl
  have joins (peer : String) :
      tasksAt SetupStage.setsUp (before ++ [start.task]) peer = tasksAt SetupStage.setsUp before peer ∨
      start = .offer peer := by
    rw [count]
    cases start with
    | offer other =>
      by_cases mine : other = peer
      · exact .inr (by rw [mine])
      · exact .inl (by simp [SetupStart.task, mine])
    | command other approved => exact .inl (by simp [SetupStart.task, SetupStage.setsUp])
    | moderation other => exact .inl (by simp [SetupStart.task, SetupStage.setsUp])
  refine ⟨fun peer => (same peer).trans (ok.marked peer), fun peer => ?_, fun peer some_ => ?_, ok.unreplaced⟩
  · rcases joins peer with kept | offered
    · rw [kept]
      exact ok.single peer
    · rw [count, (free peer offered).2]
      have one := Bool.toNat_le (decide (start.task.peer = peer) && start.task.stage.setsUp)
      omega
  · rcases joins peer with kept | offered
    · rw [kept] at some_
      exact ok.absent peer some_
    · exact (free peer offered).1

end Keeps

/-! ## Runs -/

/-- Two commands for one peer: the second one finds it marked, and the session of the first. -/
private def sharedSession : List (PoolEvent SetupStart Bool) :=
  [.spawn (.command "bob" true), .spawn (.command "bob" true)] ++
    (List.replicate 7 0 ++ List.replicate 5 1 ++ [0, 0, 0, 1]).map fun i => .step i true

end MtrxPeer
