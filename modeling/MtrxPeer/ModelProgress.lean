import Mathlib.Data.List.Perm.Basic
import MtrxPeer.Listings
import MtrxPeer.Runs

/-! The progress of one start of a model. The task that runs it tells of its stages itself,
and starts a task of its own for each progress of the download; what these tell of arrives
whenever they are run. -/
namespace MtrxPeer

/-! ## The start of a model -/

/-- `downloading`, `warming`, `ready` and `failed`. -/
inductive RunStatus where
  | downloading
  | warming
  | ready
  | failed
  deriving DecidableEq, Repr

structure RunProgress where
  status : RunStatus
  progressPct : Option UInt8
  message : Option String
  deriving DecidableEq, Repr

structure LocalModelRunState where
  jobId : String
  model : String
  progress : RunProgress
  updatedAtUnix : Nat
  deriving DecidableEq, Repr

/-- `upsert_local_run`. -/
def upsertLocalRun (runs : List LocalModelRunState) (now : Nat) (jobId model : String)
    (progress : RunProgress) : List LocalModelRunState :=
  if runs.any (·.jobId = jobId) then
    changeFirst (·.jobId) jobId (fun run => { run with progress, updatedAtUnix := now }) runs
  else runs ++ [⟨jobId, model, progress, now⟩]

/-- Where a start is told of: the runs of this peer, or the lobby. -/
inductive RunTarget where
  | localRun
  | lobby
  deriving DecidableEq

def startingText : RunTarget → String
  | .localRun => "Starting local download"
  | .lobby => "Starting model download"

def readyText (embedOnly : Bool) : RunTarget → String
  | .localRun => if embedOnly then "Embedding model ready (embed warmup)" else "Model is ready locally"
  | .lobby => "Model is ready"

/-- One line of a download: an error, or how far it is, in percent, and whether it is done. -/
structure PullLine where
  error : Option String
  pct : Option UInt8
  success : Bool

inductive RunPhase where
  | starting
  | pulling (lastPct : UInt8)
  | pulled
  | warming
  | ended
  deriving DecidableEq

/-- A progress with its place in the order in which they were issued. -/
structure IssuedProgress where
  issue : Nat
  progress : RunProgress
  deriving DecidableEq

structure ModelRunState where
  runs : List LocalModelRunState
  /-- What the lobby was sent, the newest first. -/
  sent : List RunProgress
  phase : RunPhase
  issued : Nat
  /-- The tasks that were started and have not run. -/
  pending : List IssuedProgress
  /-- What was told of, the newest first. -/
  applied : List IssuedProgress

namespace ModelRunState

variable (target : RunTarget) (jobId model : String)

/-- A progress is told of. -/
def apply (s : ModelRunState) (now : Nat) (u : IssuedProgress) : ModelRunState :=
  match target with
  | .localRun =>
    { s with runs := upsertLocalRun s.runs now jobId model u.progress, applied := u :: s.applied }
  | .lobby => { s with sent := u.progress :: s.sent, applied := u :: s.applied }

/-- The task itself tells of a progress. -/
def tell (s : ModelRunState) (now : Nat) (phase : RunPhase) (progress : RunProgress) : ModelRunState :=
  { s with phase, issued := s.issued + 1 }.apply target jobId model now ⟨s.issued, progress⟩

/-- A task is started for a progress of the download. -/
def spawn (s : ModelRunState) (phase : RunPhase) (pct : UInt8) : ModelRunState := { s with
  phase
  issued := s.issued + 1
  pending := s.pending ++ [⟨s.issued, ⟨.downloading, some pct, none⟩⟩] }

/-- A line of the download. -/
def pullLine (s : ModelRunState) (now : Nat) (lastPct : UInt8) (line : PullLine) : ModelRunState :=
  match line.error with
  | some error => s.tell target jobId model now .ended ⟨.failed, none, some error⟩
  | none =>
    match line.pct.filter (lastPct < ·) with
    | some pct =>
      if line.success then (s.spawn (.pulling pct) pct).spawn .pulled 100 else s.spawn (.pulling pct) pct
    | none => if line.success then s.spawn .pulled 100 else s

end ModelRunState

inductive ModelRunEvent where
  | start
  | line (line : PullLine)
  | streamEnd
  | warm
  | ready (embedOnly : Bool)
  | fails (error : String)
  /-- A started task is run. -/
  | runTask (place : Nat)

variable (target : RunTarget) (jobId model : String)

def modelRunStep (s : ModelRunState) (now : Nat) : ModelRunEvent → ModelRunState
  | .start => match s.phase with
    | .starting =>
      s.tell target jobId model now (.pulling 0) ⟨.downloading, some 0, some (startingText target)⟩
    | _ => s
  | .line line => match s.phase with
    | .pulling lastPct => s.pullLine target jobId model now lastPct line
    | _ => s
  | .streamEnd => match s.phase with
    | .pulling _ => { s with phase := .pulled }
    | _ => s
  | .warm => match s.phase with
    | .pulled => s.tell target jobId model now .warming
        ⟨.warming, some 100, some "Download complete; warming model"⟩
    | _ => s
  | .ready embedOnly => match s.phase with
    | .warming => s.tell target jobId model now .ended ⟨.ready, some 100, some (readyText embedOnly target)⟩
    | _ => s
  | .fails error => match s.phase with
    | .ended => s
    | _ => s.tell target jobId model now .ended ⟨.failed, none, some error⟩
  | .runTask place => match s.pending[place]? with
    | some u => { s with pending := s.pending.eraseIdx place }.apply target jobId model now u
    | none => s

def modelRunMachine : Machine ModelRunState (Nat × ModelRunEvent) Unit where
  step s e := (modelRunStep target jobId model s e.1 e.2, [])

abbrev ModelRunRecord := Record ModelRunState (Nat × ModelRunEvent) Unit

def ModelRunState.initial (runs : List LocalModelRunState) : ModelRunState :=
  ⟨runs, [], .starting, 0, [], []⟩

/-! ## Never back -/

def RunStatus.stage : RunStatus → Nat
  | .downloading => 0
  | .warming => 1
  | .ready => 2
  | .failed => 2

def RunStatus.final (status : RunStatus) : Prop := status.stage = 2

instance (status : RunStatus) : Decidable status.final := inferInstanceAs (Decidable (_ = _))

/-- One progress may be followed by another: it is not final, of no later stage, and its
percentage is no higher. -/
structure InOrder (earlier later : RunProgress) : Prop where
  stage : earlier.status.stage ≤ later.status.stage
  open_ : ¬ earlier.status.final
  pct : ∀ p q, earlier.progressPct = some p → later.progressPct = some q → p ≤ q

/-- What is told of one start never goes back: the final progress is the last, and all those
before it were in order. -/
def NeverBack (told : List RunProgress) : Prop :=
  told.Pairwise fun newer older => InOrder older newer

/-- What is shown of a start: the fields of its row, or the last message to the lobby. -/
def ModelRunState.shown (s : ModelRunState) : RunTarget → Option RunProgress
  | .localRun => (s.runs.find? (·.jobId = jobId)).map (·.progress)
  | .lobby => s.sent.head?

/-- A started task is run before anything issued after it is told of, except for a progress of
the same percentage; and a download that succeeds was at most complete. -/
def RunsInTurn (r : ModelRunRecord) : Prop :=
  match r.event.2 with
  | .runTask place => ∀ u, r.before.pending[place]? = some u → ∀ told ∈ r.before.applied,
      u.issue < told.issue →
        told.progress.status = .downloading ∧ told.progress.progressPct = u.progress.progressPct
  | .line line => line.error = none → line.success = true → ∀ lastPct, r.before.phase = .pulling lastPct →
      lastPct ≤ 100 ∧ ∀ pct, line.pct = some pct → pct ≤ 100
  | .streamEnd => ∀ lastPct, r.before.phase = .pulling lastPct → lastPct ≤ 100
  | _ => True

/-! ## What has been issued -/

/-- What has been issued so far, in a phase. -/
def IssuedIn : RunPhase → RunProgress → Prop
  | .starting, _ => False
  | .pulling lastPct, p => p.status = .downloading ∧ ∃ pct, p.progressPct = some pct ∧ pct ≤ lastPct
  | .pulled, p => p.status = .downloading ∧ ∃ pct, p.progressPct = some pct ∧ pct ≤ 100
  | .warming, p => p.status.stage ≤ 1 ∧ ∃ pct, p.progressPct = some pct ∧ pct ≤ 100
  | .ended, _ => True

/-- What has been issued is numbered, and in order of its numbers. -/
structure InIssueOrder (phase : RunPhase) (issued : Nat) (all : List IssuedProgress) : Prop where
  numbered : ∀ u ∈ all, u.issue < issued
  reached : ∀ u ∈ all, IssuedIn phase u.progress
  distinct : (all.map (·.issue)).Nodup
  ordered : ∀ u ∈ all, ∀ v ∈ all, u.issue < v.issue → InOrder u.progress v.progress

section Issue

variable {target jobId model} {phase phase' : RunPhase} {issued : Nat} {all : List IssuedProgress}
  {progress : RunProgress}

private theorem InIssueOrder.perm (order : InIssueOrder phase issued all) {other : List IssuedProgress}
    (perm : all.Perm other) : InIssueOrder phase issued other where
  numbered u member := order.numbered u (perm.mem_iff.mpr member)
  reached u member := order.reached u (perm.mem_iff.mpr member)
  distinct := (perm.map _).nodup_iff.mp order.distinct
  ordered u member v member' := order.ordered u (perm.mem_iff.mpr member) v (perm.mem_iff.mpr member')

private theorem InIssueOrder.moved (order : InIssueOrder phase issued all)
    (moved : ∀ p, IssuedIn phase p → IssuedIn phase' p) : InIssueOrder phase' issued all where
  numbered := order.numbered
  reached u member := moved _ (order.reached u member)
  distinct := order.distinct
  ordered := order.ordered

/-- One more is issued, which may follow all before it. -/
private theorem InIssueOrder.issue (order : InIssueOrder phase issued all)
    (follows : ∀ p, IssuedIn phase p → InOrder p progress)
    (moved : ∀ p, IssuedIn phase p → IssuedIn phase' p) (new : IssuedIn phase' progress) :
    InIssueOrder phase' (issued + 1) (⟨issued, progress⟩ :: all) := by
  constructor
  · intro u member
    rcases List.mem_cons.mp member with rfl | old
    · exact Nat.lt_succ_self _
    · exact Nat.lt_succ_of_lt (order.numbered u old)
  · intro u member
    rcases List.mem_cons.mp member with rfl | old
    · exact new
    · exact moved _ (order.reached u old)
  · refine List.nodup_cons.mpr ⟨fun taken => ?_, order.distinct⟩
    obtain ⟨u, member, same⟩ := List.mem_map.mp taken
    exact absurd same (Nat.ne_of_lt (order.numbered u member))
  · intro u member v member' before
    rcases List.mem_cons.mp member with rfl | old
    · rcases List.mem_cons.mp member' with rfl | old'
      · exact absurd before (Nat.lt_irrefl _)
      · exact absurd (order.numbered v old') (Nat.lt_asymm before)
    · rcases List.mem_cons.mp member' with rfl | old'
      · exact follows _ (order.reached u old)
      · exact order.ordered u old v old' before

/-- A progress of the download follows those of lower percentages. -/
private theorem InOrder.download {p : RunProgress} {pct : UInt8}
    (reached : p.status = .downloading ∧ ∃ old, p.progressPct = some old ∧ old ≤ pct)
    {later : RunProgress} (same : later.progressPct = some pct) : InOrder p later := by
  obtain ⟨status, old, held, below⟩ := reached
  refine ⟨?_, ?_, ?_⟩
  · rw [status]
    exact Nat.zero_le _
  · rw [status]
    decide
  · intro a b first second
    rw [held] at first
    rw [same] at second
    obtain rfl := Option.some.inj first
    obtain rfl := Option.some.inj second
    exact below

end Issue

/-! ## What is told of -/

section Told

variable {target : RunTarget} {jobId model : String} {s : ModelRunState} {now : Nat} {phase : RunPhase}
  {progress : RunProgress}

/-- What was issued is in order, and what was told of never went back. -/
structure KeepsOrder (target : RunTarget) (jobId : String) (s : ModelRunState) : Prop where
  order : InIssueOrder s.phase s.issued (s.pending ++ s.applied)
  downloads : ∀ u ∈ s.pending, u.progress.status = .downloading
  never : NeverBack (s.applied.map (·.progress))
  ended : s.phase = .ended → ∃ u, s.applied.head? = some u ∧ u.progress.status.final
  shown : ∀ u, s.applied.head? = some u → s.shown jobId target = some u.progress

private theorem find_changeFirst {runs : List LocalModelRunState} (there : ∃ run ∈ runs, run.jobId = jobId)
    (change : LocalModelRunState → LocalModelRunState) (keeps : ∀ run, (change run).jobId = run.jobId) :
    ∃ run, (changeFirst (·.jobId) jobId change runs).find? (·.jobId = jobId) = some (change run) := by
  induction runs with
  | nil =>
    obtain ⟨run, member, -⟩ := there
    cases member
  | cons head rest ih =>
    by_cases same : head.jobId = jobId
    · refine ⟨head, ?_⟩
      rw [changeFirst, if_pos same, List.find?_cons_of_pos]
      simpa [keeps] using same
    · obtain ⟨run, member, named⟩ := there
      rcases List.mem_cons.mp member with rfl | later
      · exact absurd named same
      · obtain ⟨found, shown⟩ := ih ⟨run, later, named⟩
        refine ⟨found, ?_⟩
        rw [changeFirst, if_neg same, List.find?_cons_of_neg (by simpa using same)]
        exact shown

private theorem upsertLocalRun_shown (runs : List LocalModelRunState) (now : Nat) (jobId model : String)
    (progress : RunProgress) :
    ((upsertLocalRun runs now jobId model progress).find? (·.jobId = jobId)).map (·.progress) =
      some progress := by
  unfold upsertLocalRun
  split
  · rename_i there
    obtain ⟨run, member, named⟩ := List.any_eq_true.mp there
    obtain ⟨found, shown⟩ := find_changeFirst ⟨run, member, by simpa using named⟩
      (fun run => { run with progress, updatedAtUnix := now }) fun _ => rfl
    rw [shown]
    rfl
  · rename_i absent
    have none_ : runs.find? (·.jobId = jobId) = none := by
      rw [List.find?_eq_none]
      intro run member named
      exact absent (List.any_eq_true.mpr ⟨run, member, named⟩)
    rw [List.find?_append, none_, Option.none_or, List.find?_cons_of_pos (by simp)]
    rfl

private theorem apply_fields (s : ModelRunState) (now : Nat) (u : IssuedProgress) :
    (s.apply target jobId model now u).applied = u :: s.applied ∧
      (s.apply target jobId model now u).pending = s.pending ∧
      (s.apply target jobId model now u).phase = s.phase ∧
      (s.apply target jobId model now u).issued = s.issued ∧
      (s.apply target jobId model now u).shown jobId target = some u.progress := by
  cases target with
  | localRun => exact ⟨rfl, rfl, rfl, rfl, upsertLocalRun_shown _ _ _ _ _⟩
  | lobby => exact ⟨rfl, rfl, rfl, rfl, rfl⟩

/-- A progress is told of that may follow what has been. -/
private theorem KeepsOrder.applied {u : IssuedProgress}
    (order : InIssueOrder s.phase s.issued (s.pending ++ u :: s.applied))
    (downloads : ∀ u ∈ s.pending, u.progress.status = .downloading)
    (never : NeverBack (s.applied.map (·.progress)))
    (follows : ∀ told ∈ s.applied, InOrder told.progress u.progress)
    (ended : s.phase = .ended → u.progress.status.final) :
    KeepsOrder target jobId (s.apply target jobId model now u) := by
  obtain ⟨told, pending, phase, issued, shown⟩ :=
    @apply_fields target jobId model s now u
  constructor
  · rw [told, pending, phase, issued]
    exact order
  · rw [pending]
    exact downloads
  · rw [told, List.map_cons]
    refine List.pairwise_cons.mpr ⟨fun p member => ?_, never⟩
    obtain ⟨older, held, rfl⟩ := List.mem_map.mp member
    exact follows older held
  · rw [told, phase]
    exact fun end_ => ⟨u, rfl, ended end_⟩
  · rw [told, shown]
    intro newest same
    obtain rfl := Option.some.inj same
    rfl

/-- The task tells of a stage that may follow all that has been issued. -/
private theorem KeepsOrder.tell (keeps : KeepsOrder target jobId s)
    (follows : ∀ p, IssuedIn s.phase p → InOrder p progress)
    (moved : ∀ p, IssuedIn s.phase p → IssuedIn phase p) (new : IssuedIn phase progress)
    (final : phase = .ended → progress.status.final) :
    KeepsOrder target jobId (s.tell target jobId model now phase progress) := by
  refine KeepsOrder.applied ?_ keeps.downloads keeps.never (fun told member => ?_) final
  · exact (keeps.order.issue follows moved new).perm List.perm_middle.symm
  · exact follows _ (keeps.order.reached told (List.mem_append_right _ member))

/-- A task is started for a progress that may follow all that has been issued. -/
private theorem KeepsOrder.spawn (keeps : KeepsOrder target jobId s) {pct : UInt8}
    (follows : ∀ p, IssuedIn s.phase p → InOrder p ⟨.downloading, some pct, none⟩)
    (moved : ∀ p, IssuedIn s.phase p → IssuedIn phase p)
    (new : IssuedIn phase ⟨.downloading, some pct, none⟩) (open_ : phase ≠ .ended) :
    KeepsOrder target jobId (s.spawn phase pct) := by
  refine ⟨?_, ?_, keeps.never, fun end_ => absurd end_ open_, keeps.shown⟩
  · refine (keeps.order.issue follows moved new).perm ?_
    simp only [ModelRunState.spawn, List.append_assoc, List.singleton_append]
    exact List.perm_middle.symm
  · intro u member
    rcases List.mem_append.mp member with old | last
    · exact keeps.downloads u old
    · obtain rfl := List.mem_singleton.mp last
      rfl

/-- The download is told of as complete. -/
private theorem KeepsOrder.succeeds (keeps : KeepsOrder target jobId s) {lastPct : UInt8}
    (pulling : s.phase = .pulling lastPct) (most : lastPct ≤ 100) :
    KeepsOrder target jobId (s.spawn .pulled 100) := by
  have below : ∀ p, IssuedIn s.phase p →
      p.status = .downloading ∧ ∃ pct, p.progressPct = some pct ∧ pct ≤ 100 := by
    intro p reached
    rw [pulling] at reached
    obtain ⟨status, pct, held, low⟩ := reached
    exact ⟨status, pct, held, UInt8.le_trans low most⟩
  exact keeps.spawn (fun p reached => InOrder.download (below p reached) rfl) below
    ⟨rfl, 100, rfl, UInt8.le_refl _⟩ (by simp)

/-- A line of the download keeps the order. -/
private theorem KeepsOrder.line (keeps : KeepsOrder target jobId s) {lastPct : UInt8}
    (pulling : s.phase = .pulling lastPct) (line : PullLine)
    (most : line.error = none → line.success = true →
      lastPct ≤ 100 ∧ ∀ pct, line.pct = some pct → pct ≤ 100) :
    KeepsOrder target jobId (s.pullLine target jobId model now lastPct line) := by
  unfold ModelRunState.pullLine
  cases failed : line.error with
  | some error =>
    refine keeps.tell (fun p reached => ?_) (fun _ _ => trivial) trivial fun _ => rfl
    rw [pulling] at reached
    exact ⟨by rw [reached.1]; exact Nat.zero_le _, by rw [reached.1]; decide, fun _ _ _ none_ => nomatch none_⟩
  | none =>
    cases higher : line.pct.filter (lastPct < ·) with
    | none =>
      by_cases success : line.success = true
      · simp only [if_pos success]
        exact keeps.succeeds pulling (most failed success).1
      · simp only [if_neg success]
        exact keeps
    | some pct =>
      obtain ⟨given, above⟩ := Option.filter_eq_some_iff.mp higher
      have below : lastPct ≤ pct := UInt8.le_of_lt (by simpa using above)
      have reached : ∀ p, IssuedIn s.phase p →
          p.status = .downloading ∧ ∃ old, p.progressPct = some old ∧ old ≤ pct := by
        intro p reached
        rw [pulling] at reached
        obtain ⟨status, old, held, low⟩ := reached
        exact ⟨status, old, held, UInt8.le_trans low below⟩
      have next : KeepsOrder target jobId (s.spawn (.pulling pct) pct) :=
        keeps.spawn (fun p issued => InOrder.download (reached p issued) rfl) reached
          ⟨rfl, pct, rfl, UInt8.le_refl _⟩ (by simp)
      by_cases success : line.success = true
      · simp only [if_pos success]
        exact next.succeeds rfl ((most failed success).2 pct given)
      · simp only [if_neg success]
        exact next

/-- A started task is run in its turn. -/
private theorem KeepsOrder.runTask (keeps : KeepsOrder target jobId s) {place : Nat} {u : IssuedProgress}
    (found : s.pending[place]? = some u)
    (turn : ∀ told ∈ s.applied, u.issue < told.issue →
      told.progress.status = .downloading ∧ told.progress.progressPct = u.progress.progressPct) :
    KeepsOrder target jobId ({ s with pending := s.pending.eraseIdx place }.apply target jobId model now u) := by
  obtain ⟨bound, here⟩ := List.getElem?_eq_some_iff.mp found
  have member : u ∈ s.pending := here ▸ List.getElem_mem bound
  have taken : (u :: s.pending.eraseIdx place).Perm s.pending := by
    rw [← here]
    exact List.getElem_cons_eraseIdx_perm bound
  have all : (s.pending ++ s.applied).Perm (s.pending.eraseIdx place ++ u :: s.applied) :=
    (taken.symm.append_right _).trans List.perm_middle.symm
  have inAll : u ∈ s.pending ++ s.applied := List.mem_append_left _ member
  -- What was told of before was issued before, or is a progress of the same percentage.
  have follows : ∀ told ∈ s.applied, InOrder told.progress u.progress := by
    intro told held
    have toldAll : told ∈ s.pending ++ s.applied := List.mem_append_right _ held
    rcases Nat.lt_trichotomy told.issue u.issue with before | same | after
    · exact keeps.order.ordered told toldAll u inAll before
    · have distinct := keeps.order.distinct
      rw [List.map_append, List.nodup_append] at distinct
      exact absurd same.symm
        (distinct.2.2 _ (List.mem_map_of_mem member) _ (List.mem_map_of_mem held))
    · obtain ⟨status, pct⟩ := turn told held after
      refine ⟨?_, ?_, fun p q first second => ?_⟩
      · have same : told.progress.status = u.progress.status := status.trans (keeps.downloads u member).symm
        exact Nat.le_of_eq (congrArg RunStatus.stage same)
      · intro final
        rw [status] at final
        exact absurd final (by decide)
      · rw [pct, second] at first
        obtain rfl := Option.some.inj first
        exact UInt8.le_refl _
  refine KeepsOrder.applied (keeps.order.perm all)
    (fun u held => keeps.downloads u (List.mem_of_mem_eraseIdx held)) keeps.never follows fun ended => ?_
  obtain ⟨last, newest, final⟩ := keeps.ended ended
  exact absurd final (follows last (List.mem_of_mem_head? newest)).open_

/-- What ends a start comes after everything that does not. -/
private theorem InOrder.ends {earlier later : RunProgress} (stage : earlier.status.stage ≤ 1)
    (final : later.status.stage = 2)
    (pct : ∀ p q, earlier.progressPct = some p → later.progressPct = some q → p ≤ q) :
    InOrder earlier later := by
  refine ⟨by omega, fun final' => ?_, pct⟩
  rw [show earlier.status.stage = 2 from final'] at stage
  omega

/-- One step keeps the order, where tasks are run in their turn. -/
theorem modelRunStep_keepsOrder (keeps : KeepsOrder target jobId s) {e : ModelRunEvent}
    (turn : RunsInTurn ((modelRunMachine target jobId model).record s (now, e))) :
    KeepsOrder target jobId (modelRunStep target jobId model s now e) := by
  cases e with
  | start =>
    simp only [modelRunStep]
    split
    · rename_i starting
      refine keeps.tell ?_ ?_ ⟨rfl, 0, rfl, UInt8.le_refl _⟩ fun ended => nomatch ended
      all_goals
        rw [starting]
        exact fun _ reached => reached.elim
    · exact keeps
  | line line =>
    simp only [modelRunStep]
    split
    · rename_i lastPct pulling
      exact keeps.line pulling line fun ok success => turn ok success lastPct pulling
    · exact keeps
  | streamEnd =>
    simp only [modelRunStep]
    split
    · rename_i lastPct pulling
      have most := turn lastPct pulling
      refine ⟨keeps.order.moved fun p reached => ?_, keeps.downloads, keeps.never,
        fun ended => absurd ended (by simp), keeps.shown⟩
      rw [pulling] at reached
      obtain ⟨status, pct, held, low⟩ := reached
      exact ⟨status, pct, held, UInt8.le_trans low most⟩
    · exact keeps
  | warm =>
    simp only [modelRunStep]
    split
    · rename_i pulled
      refine keeps.tell ?_ ?_ ⟨Nat.le_refl _, 100, rfl, UInt8.le_refl _⟩ fun ended => nomatch ended
      all_goals
        rw [pulled]
        rintro p ⟨status, pct⟩
      · exact InOrder.download ⟨status, pct⟩ rfl
      · exact ⟨by rw [status]; exact Nat.zero_le _, pct⟩
    · exact keeps
  | ready embedOnly =>
    simp only [modelRunStep]
    split
    · rename_i warming
      refine keeps.tell ?_ (fun _ _ => trivial) trivial fun _ => rfl
      rw [warming]
      rintro p ⟨stage, pct, held, low⟩
      refine InOrder.ends stage rfl fun a b first second => ?_
      rw [held] at first
      obtain rfl := Option.some.inj first
      obtain rfl := Option.some.inj second
      exact low
    · exact keeps
  | fails error =>
    simp only [modelRunStep]
    split
    · exact keeps
    · rename_i open_
      refine keeps.tell (fun p reached => ?_) (fun _ _ => trivial) trivial fun _ => rfl
      have stage : p.status.stage ≤ 1 := by
        cases phase : s.phase with
        | starting => rw [phase] at reached; exact reached.elim
        | pulling lastPct => rw [phase] at reached; rw [reached.1]; exact Nat.zero_le _
        | pulled => rw [phase] at reached; rw [reached.1]; exact Nat.zero_le _
        | warming => rw [phase] at reached; exact reached.1
        | ended => exact absurd phase open_
      exact InOrder.ends stage rfl fun _ _ _ none_ => nomatch none_
  | runTask place =>
    simp only [modelRunStep]
    split
    · rename_i u found
      exact keeps.runTask found fun told held => turn u found told held
    · exact keeps

/-- In a run whose tasks are run in their turn, what is told of a start never goes back: what
is shown is what was told of last, and when the start has ended it is its final progress. -/
theorem model_run_never_back (target : RunTarget) (jobId model : String) {runs : List LocalModelRunState}
    {past : List ModelRunRecord} (ran : (modelRunMachine target jobId model).Reaches (.initial runs) past s)
    (turn : ∀ r ∈ past, RunsInTurn r) :
    NeverBack (s.applied.map (·.progress)) ∧
      (∀ u, s.applied.head? = some u → s.shown jobId target = some u.progress) ∧
      (s.phase = .ended → ∃ p, s.shown jobId target = some p ∧ p.status.final) := by
  have init : KeepsOrder target jobId (.initial runs) := by
    refine ⟨⟨?_, ?_, List.nodup_nil, ?_⟩, ?_, .nil, ?_, ?_⟩
    · exact fun u member => nomatch member
    · exact fun u member => nomatch member
    · exact fun u member => nomatch member
    · exact fun u member => nomatch member
    · exact fun ended => nomatch ended
    · exact fun u none_ => nomatch none_
  have keeps := ran.invariant (fun _ s => KeepsOrder target jobId s) RunsInTurn init
    (fun _ _ e keeps turn => modelRunStep_keepsOrder keeps turn) turn
  refine ⟨keeps.never, keeps.shown, fun ended => ?_⟩
  obtain ⟨last, newest, final⟩ := keeps.ended ended
  exact ⟨last.progress, keeps.shown last newest, final⟩

end Told

private def modelRun (events : List ModelRunEvent) : List ModelRunRecord × ModelRunState :=
  (modelRunMachine .localRun "job-1" "llama3").history (.initial []) (events.map (100, ·))

/-- A download whose tasks are run before the model is warmed up. -/
theorem model_run_never_back_sample :
    (modelRun [.start, .line ⟨none, some 40, false⟩, .runTask 0, .line ⟨none, none, true⟩, .runTask 0,
      .warm, .ready false]).2.shown "job-1" .localRun =
        some ⟨.ready, some 100, some "Model is ready locally"⟩ := by
  refine ((model_run_never_back .localRun "job-1" "llama3" (Machine.reaches_history _ _ _) ?_).2.1
    ⟨4, ⟨.ready, some 100, some "Model is ready locally"⟩⟩ (by decide))
  intro r member
  simp only [Machine.history, List.map_cons, List.map_nil, List.foldl_cons, List.foldl_nil, List.mem_cons,
    List.not_mem_nil, or_false] at member
  rcases member with rfl | rfl | rfl | rfl | rfl | rfl | rfl
  · trivial
  · trivial
  · intro u found
    cases found
    decide
  · intro _ _ lastPct pulling
    cases pulling
    exact ⟨by decide, fun pct given => nomatch given⟩
  · intro u found
    cases found
    decide
  · intro _ success
    cases success
  · trivial

/-- The task that was started for the last progress is run after the model is ready. -/
theorem late_progress_shown :
    ∃ past s, (modelRunMachine .localRun "job-1" "llama3").Reaches (.initial []) past s ∧
      s.phase = .ended ∧ s.shown "job-1" .localRun = some ⟨.downloading, some 100, none⟩ :=
  ⟨_, (modelRun [.start, .line ⟨none, none, true⟩, .warm, .ready false, .runTask 0]).2,
    Machine.reaches_history _ _ _, by decide, by decide⟩

end MtrxPeer
