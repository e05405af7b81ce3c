import MtrxPeer.ThermalSafety

/-! What a pause of the thermal guard and its resume leave of the configuration. The guard keeps no
record of the flags it overwrites: the resume lets every network accept jobs, also one that the user
had paused. -/
namespace MtrxPeer

/-! ## Pauses and resumes -/

variable {s : ThermalState} {gpu : GpuHostStatus} {settings : GpuThermalSettings} {saves : Bool} {unixNow : Nat}

/-- The evaluation is to pause all networks. -/
structure PausesNow (s : ThermalState) (gpu : GpuHostStatus) (settings : GpuThermalSettings) : Prop where
  enabled : settings.enabled = true
  available : gpu.available = true
  hot : ∃ temp, maxTempC gpu = some temp ∧ settings.thresholdC ≤ temp ∧
    settings.durationSecs ≤ elapsedSecs (startTimer temp s) s.now
  idle : s.tracker.causedPause = false

/-- The evaluation is to resume them. -/
structure ResumesNow (s : ThermalState) (gpu : GpuHostStatus) (settings : GpuThermalSettings) : Prop where
  enabled : settings.enabled = true
  available : gpu.available = true
  cool : ∃ temp, maxTempC gpu = some temp ∧ temp < settings.thresholdC ∧ temp ≤ settings.cooldownC
  caused : s.tracker.causedPause = true
  automatic : settings.autoResume = true

/-- What an event that is an evaluation has of the state before it. -/
def AtEvaluation (holds : ThermalState → GpuHostStatus → GpuThermalSettings → Prop) (s : ThermalState)
    (e : ThermalEvent) : Prop :=
  ∃ saves unixNow gpu settings, e = .evaluate saves unixNow ∧ s.pending = some (gpu, settings) ∧ holds s gpu settings

/-- The guard goes on, and schedules may be applied. -/
def ThermalEvent.NoUserAction : ThermalEvent → Prop
  | .user (.applySchedules _) _ => True
  | .user _ _ => False
  | _ => True

/-! ## The configuration -/

/-- The flags of all networks. -/
def acceptFlags (cfg : StoredConfig) : List (String × Option Bool) × List (String × Option Bool) :=
  (cfg.clusters.map fun c => (c.clusterId, c.acceptingJobs), cfg.swarms.map fun s => (s.swarmId, s.acceptingJobs))

/-- The configuration but for the flags and the connections of the networks. -/
def withoutFlags (cfg : StoredConfig) : StoredConfig :=
  { cfg with
    clusters := cfg.clusters.map fun c => { c with acceptingJobs := none, connected := none }
    swarms := cfg.swarms.map fun s => { s with acceptingJobs := none, connected := none } }

/-- Every network has the flag that a resume sets. -/
def AllAccepting (cfg : StoredConfig) : Prop :=
  (∀ c ∈ cfg.clusters, c.acceptingJobs = some true) ∧ ∀ s ∈ cfg.swarms, s.acceptingJobs = some true

@[simp] theorem withoutFlags_setPauseAll {paused : Bool} {cfg : StoredConfig} :
    withoutFlags (setPauseAll paused cfg) = withoutFlags cfg := by
  simp [withoutFlags, setPauseAll]

@[simp] theorem withoutFlags_applySchedules {nowMins : Nat} {cfg : StoredConfig} :
    withoutFlags (applySchedules nowMins cfg).1 = withoutFlags cfg := by
  simp [withoutFlags, applySchedules]

theorem allAccepting_resumed (cfg : StoredConfig) : AllAccepting (setPauseAll false cfg) := by
  simp [AllAccepting, setPauseAll]

private theorem accepting_flags {cfg : StoredConfig} (accepting : AllAccepting cfg) :
    acceptFlags cfg = ((withoutFlags cfg).clusters.map fun c => (c.clusterId, some true),
      (withoutFlags cfg).swarms.map fun s => (s.swarmId, some true)) := by
  simp only [acceptFlags, withoutFlags, List.map_map, Prod.mk.injEq]
  exact ⟨List.map_congr_left fun c member => by rw [accepting.1 c member]; rfl,
    List.map_congr_left fun s member => by rw [accepting.2 s member]; rfl⟩

private theorem allAccepting_iff_flags {cfg : StoredConfig} :
    AllAccepting cfg ↔ (∀ p ∈ (acceptFlags cfg).1, p.2 = some true) ∧ ∀ p ∈ (acceptFlags cfg).2, p.2 = some true := by
  simp [AllAccepting, acceptFlags]

/-- Of the same networks, where all accept, the flags are those from before if all accepted before. -/
theorem acceptFlags_eq_iff {before after : StoredConfig} (same : withoutFlags after = withoutFlags before)
    (accepting : AllAccepting after) : acceptFlags after = acceptFlags before ↔ AllAccepting before := by
  constructor
  · intro flags
    rw [allAccepting_iff_flags, ← flags, ← allAccepting_iff_flags]
    exact accepting
  · intro first
    rw [accepting_flags accepting, accepting_flags first, same]

/-! ## Steps -/

private theorem pausesNow_iff {temp : UInt8} (enabled : settings.enabled = true) (available : gpu.available = true)
    (read : maxTempC gpu = some temp) : PausesNow s gpu settings ↔ settings.thresholdC ≤ temp ∧
      settings.durationSecs ≤ elapsedSecs (startTimer temp s) s.now ∧ s.tracker.causedPause = false := by
  constructor
  · rintro ⟨-, -, ⟨found, same, hot, long⟩, idle⟩
    obtain rfl := Option.some.inj (read.symm.trans same)
    exact ⟨hot, long, idle⟩
  · rintro ⟨hot, long, idle⟩
    exact ⟨enabled, available, ⟨temp, read, hot, long⟩, idle⟩

private theorem resumesNow_iff {temp : UInt8} (enabled : settings.enabled = true) (available : gpu.available = true)
    (read : maxTempC gpu = some temp) : ResumesNow s gpu settings ↔ ¬settings.thresholdC ≤ temp ∧
      temp ≤ settings.cooldownC ∧ s.tracker.causedPause = true ∧ settings.autoResume = true := by
  rw [UInt8.not_le]
  constructor
  · rintro ⟨-, -, ⟨found, same, below, cool⟩, caused, automatic⟩
    obtain rfl := Option.some.inj (read.symm.trans same)
    exact ⟨below, cool, caused, automatic⟩
  · rintro ⟨below, cool, caused, automatic⟩
    exact ⟨enabled, available, ⟨temp, read, below, cool⟩, caused, automatic⟩

/-- What an evaluation does to the configuration, whether or not it can be saved. -/
theorem evaluate_cases :
    PausesNow s gpu settings ∧ (evaluate gpu settings saves unixNow s).cfg = setPauseAll true s.cfg ∨
    ResumesNow s gpu settings ∧ (evaluate gpu settings saves unixNow s).cfg = setPauseAll false s.cfg ∨
    ¬PausesNow s gpu settings ∧ ¬ResumesNow s gpu settings ∧ (evaluate gpu settings saves unixNow s).cfg = s.cfg := by
  by_cases off : settings.enabled = false ∨ gpu.available = false
  · refine .inr (.inr ⟨fun now => ?_, fun now => ?_, ?_⟩)
    · simp [now.enabled, now.available] at off
    · simp [now.enabled, now.available] at off
    · rw [evaluate, if_pos off, resetIfInactive_cfg]
  · have on : settings.enabled = true ∧ gpu.available = true := by simpa using off
    cases read : maxTempC gpu with
    | none =>
      refine .inr (.inr ⟨fun now => ?_, fun now => ?_, by simp only [evaluate, if_neg off, read]⟩)
      · obtain ⟨temp, found, -⟩ := now.hot
        rw [read] at found
        cases found
      · obtain ⟨temp, found, -⟩ := now.cool
        rw [read] at found
        cases found
    | some temp =>
      rw [pausesNow_iff on.1 on.2 read, resumesNow_iff on.1 on.2 read]
      by_cases hot : settings.thresholdC ≤ temp
      · rw [evaluate_hot on.1 on.2 read hot, overThreshold_cfg]
        by_cases due : settings.durationSecs ≤ elapsedSecs (startTimer temp s) s.now ∧ s.tracker.causedPause = false
        · exact .inl ⟨⟨hot, due⟩, if_pos due⟩
        · exact .inr (.inr ⟨fun now => due now.2, fun now => now.1 hot, if_neg due⟩)
      · simp only [evaluate, if_neg off, read, if_neg hot]
        by_cases cool : temp ≤ settings.cooldownC
        · rw [if_pos cool, cooledDown_cfg]
          by_cases due : s.tracker.causedPause = true ∧ settings.autoResume = true
          · exact .inr (.inl ⟨⟨hot, cool, due⟩, if_pos due⟩)
          · exact .inr (.inr ⟨fun now => hot now.1, fun now => due now.2.2, if_neg due⟩)
        · rw [if_neg cool]
          exact .inr (.inr ⟨fun now => hot now.1, fun now => cool now.2.1, rfl⟩)

/-- A pause of the guard pauses every network. -/
theorem paused_step {e : ThermalEvent} (pauses : AtEvaluation PausesNow s e) :
    (thermalStep s e).cfg = setPauseAll true s.cfg := by
  obtain ⟨saves, unixNow, gpu, settings, rfl, pending, now⟩ := pauses
  rw [thermalStep, pending]
  rcases @evaluate_cases s gpu settings saves unixNow with ⟨-, cfg⟩ | ⟨resumes, -⟩ | ⟨other, -⟩
  · exact cfg
  · have idle := now.idle
    rw [resumes.caused] at idle
    cases idle
  · exact absurd now other

theorem resumed_step {e : ThermalEvent} (resumes : AtEvaluation ResumesNow s e) :
    (thermalStep s e).cfg = setPauseAll false s.cfg := by
  obtain ⟨saves, unixNow, gpu, settings, rfl, pending, now⟩ := resumes
  rw [thermalStep, pending]
  rcases @evaluate_cases s gpu settings saves unixNow with ⟨pauses, -⟩ | ⟨-, cfg⟩ | ⟨-, other, -⟩
  · have idle := pauses.idle
    rw [now.caused] at idle
    cases idle
  · exact cfg
  · exact absurd now other

/-- Without the user only flags and connections change. -/
theorem withoutFlags_step {e : ThermalEvent} (quiet : e.NoUserAction) :
    withoutFlags (thermalStep s e).cfg = withoutFlags s.cfg := by
  cases e with
  | wait nanos => rfl
  | probe gpu => rfl
  | user op saves =>
    cases op with
    | applySchedules nowMins =>
      rw [thermalStep, runOp, draft]
      split
      · rfl
      · rfl
      · rename_i cfg changed
        split at changed
        · cases changed
          exact withoutFlags_applySchedules
        · cases changed
    | _ => exact quiet.elim
  | evaluate saves unixNow =>
    rw [thermalStep]
    split
    · rfl
    · rename_i gpu settings pending
      rcases @evaluate_cases s gpu settings saves unixNow with ⟨-, cfg⟩ | ⟨-, cfg⟩ | ⟨-, -, cfg⟩
      · rw [cfg, withoutFlags_setPauseAll]
      · rw [cfg, withoutFlags_setPauseAll]
      · rw [cfg]

theorem withoutFlags_after {events : List ThermalEvent} (quiet : ∀ e ∈ events, e.NoUserAction) :
    withoutFlags (thermalMachine.after s events).cfg = withoutFlags s.cfg := by
  induction events generalizing s with
  | nil => rfl
  | cons e events ih =>
    rw [Machine.after, ih fun later member => quiet later (List.mem_cons_of_mem e member)]
    exact withoutFlags_step (quiet e List.mem_cons_self)

/-- After a pause of the guard and its resume, with no action of the user in between, all networks
accept jobs by their flags, and nothing else is changed but what the schedules do to connections: the
flags are what they were before the pause just where all of them were those of a resume. -/
theorem resume_accepts_all {pause resume : ThermalEvent} {between : List ThermalEvent}
    (pauses : AtEvaluation PausesNow s pause) (quiet : ∀ e ∈ between, e.NoUserAction)
    (resumes : AtEvaluation ResumesNow (thermalMachine.after (thermalStep s pause) between) resume) :
    let last := thermalStep (thermalMachine.after (thermalStep s pause) between) resume
    AllAccepting last.cfg ∧ withoutFlags last.cfg = withoutFlags s.cfg ∧
      (acceptFlags last.cfg = acceptFlags s.cfg ↔ AllAccepting s.cfg) := by
  intro last
  have accepting : AllAccepting last.cfg := by
    rw [resumed_step resumes]
    exact allAccepting_resumed _
  have same : withoutFlags last.cfg = withoutFlags s.cfg := by
    calc withoutFlags last.cfg
        = withoutFlags (thermalMachine.after (thermalStep s pause) between).cfg := by
          rw [resumed_step resumes, withoutFlags_setPauseAll]
      _ = withoutFlags (thermalStep s pause).cfg := withoutFlags_after quiet
      _ = withoutFlags s.cfg := by rw [paused_step pauses, withoutFlags_setPauseAll]
  exact ⟨accepting, same, acceptFlags_eq_iff same accepting⟩

/-- Of two clusters the user has paused the second one. -/
private def heldCfg : StoredConfig where
  peerId := none
  clusters := [membershipFromResponse ⟨"c1", none, none, none, none⟩ none,
    { membershipFromResponse ⟨"c2", none, none, none, none⟩ none with acceptingJobs := some false }]
  swarms := []
  p2pMode := .cluster
  cluster := none
  settings := ⟨false, false, false, false, none, none, none, none, none, none, none, none, none, none⟩

/-- After a minute of heat. -/
private def heatedState : ThermalState :=
  (thermalMachine.history (.initial 0 heldCfg)
    [.probe ⟨true, some 90, none⟩, .evaluate true 0, .wait (60 * nanosPerSec), .probe ⟨true, some 90, none⟩]).2

private def cooling : List ThermalEvent :=
  [.wait (10 * nanosPerSec), .user (.applySchedules 600) true, .probe ⟨true, some 70, none⟩]

private theorem heated_pauses : AtEvaluation PausesNow heatedState (.evaluate true 60) :=
  ⟨true, 60, ⟨true, some 90, none⟩, _, rfl, rfl, rfl, rfl, ⟨90, rfl, by decide, by decide⟩, rfl⟩

private theorem cooling_quiet : ∀ e ∈ cooling, e.NoUserAction := by
  intro e member
  rcases List.mem_cons.mp member with rfl | member
  · trivial
  · rcases List.mem_cons.mp member with rfl | member
    · trivial
    · rw [List.mem_singleton.mp member]
      trivial

private theorem cooled_resumes : AtEvaluation ResumesNow
    (thermalMachine.after (thermalStep heatedState (.evaluate true 60)) cooling) (.evaluate true 70) :=
  ⟨true, 70, ⟨true, some 70, none⟩, _, rfl, rfl, rfl, rfl, ⟨70, rfl, by decide, by decide⟩, rfl, rfl⟩

theorem resume_accepts_all_cooled : AllAccepting (thermalStep
    (thermalMachine.after (thermalStep heatedState (.evaluate true 60)) cooling) (.evaluate true 70)).cfg :=
  (resume_accepts_all heated_pauses cooling_quiet cooled_resumes).1

/-- The second cluster, which the user had paused, is resumed with the first one. -/
theorem user_pause_undone : ∃ (past : List ThermalRecord) (s : ThermalState) (pause resume : ThermalEvent)
    (between : List ThermalEvent), thermalMachine.Reaches (.initial 0 heldCfg) past s ∧
      AtEvaluation PausesNow s pause ∧ (∀ e ∈ between, e.NoUserAction) ∧
      AtEvaluation ResumesNow (thermalMachine.after (thermalStep s pause) between) resume ∧
      acceptFlags s.cfg = ([("c1", some true), ("c2", some false)], []) ∧
      acceptFlags (thermalStep (thermalMachine.after (thermalStep s pause) between) resume).cfg =
        ([("c1", some true), ("c2", some true)], []) :=
  ⟨_, heatedState, .evaluate true 60, .evaluate true 70, cooling, Machine.reaches_history _ _ _, heated_pauses,
    cooling_quiet, cooled_resumes, by rfl, by rfl⟩

end MtrxPeer
