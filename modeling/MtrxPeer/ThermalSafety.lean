import MtrxPeer.ThermalGuard

/-! When the thermal guard is safe: where the temperature has been at the threshold for the
configured time, an evaluation leaves all networks paused. -/
namespace MtrxPeer

/-! ## Safety -/

/-- No network accepts jobs. -/
def AllPaused (cfg : StoredConfig) : Prop :=
  (∀ c ∈ cfg.clusters, clusterAcceptsJobs c.toClusterMembership = false) ∧
    ∀ s ∈ cfg.swarms, swarmAcceptsJobs s.toSwarmMembership = false

instance (cfg : StoredConfig) : Decidable (AllPaused cfg) :=
  inferInstanceAs (Decidable ((∀ c ∈ cfg.clusters, _ = false) ∧ ∀ s ∈ cfg.swarms, _ = false))

/-- Of every evaluation since one with a reading, which was `nanos` ago or earlier. -/
def HeldFor (holds : ThermalSample → Prop) (nanos now : Nat) (samples : List ThermalSample) : Prop :=
  ∃ newer first older, samples = newer ++ first :: older ∧ first.reading ≠ none ∧
    first.takenAt + nanos ≤ now ∧ ∀ p ∈ newer ++ [first], holds p

/-- What was read, if anything, is at a threshold or above. -/
def ThermalSample.HotFor (thresholdC : UInt8) (p : ThermalSample) : Prop :=
  ∀ t, p.reading = some t → thresholdC ≤ t

/-- The evaluation was of a guard that was enabled, on a GPU that was there, and found the
temperature at the threshold that was then in force, or did not find it. -/
def ThermalSample.Watched (p : ThermalSample) : Prop :=
  p.enabled = true ∧ p.available = true ∧ p.HotFor p.thresholdC

/-- The guard is enabled and reads a temperature, which has been at the threshold or above for
the configured time. -/
structure Overheated (s : ThermalState) (gpu : GpuHostStatus) (settings : GpuThermalSettings) : Prop where
  enabled : settings.enabled = true
  read : maxTempC gpu ≠ none
  stayed : HeldFor (ThermalSample.HotFor settings.thresholdC) (settings.durationSecs * nanosPerSec) s.now
    (sampleOf s gpu settings :: s.samples)

/-- All networks are paused already; or no pause of the guard is in force, and the guard has
itself watched the temperature at the threshold for the configured time. -/
def WillPause (s : ThermalState) (gpu : GpuHostStatus) (settings : GpuThermalSettings) : Prop :=
  AllPaused s.cfg ∨ s.tracker.causedPause = false ∧
    HeldFor ThermalSample.Watched (settings.durationSecs * nanosPerSec) s.now
      (sampleOf s gpu settings :: s.samples)

abbrev ThermalRecord := Record ThermalState ThermalEvent Unit

/-- What a step that is an evaluation, of an overheated GPU, has of the state before it. -/
def AtOverheated (holds : ThermalState → GpuHostStatus → GpuThermalSettings → ThermalState → Prop)
    (r : ThermalRecord) : Prop :=
  ∀ saves unixNow gpu settings, r.event = .evaluate saves unixNow → r.before.pending = some (gpu, settings) →
    Overheated r.before gpu settings → holds r.before gpu settings (thermalStep r.before r.event)

/-- After the step, all networks are paused. -/
def PausesAll : ThermalRecord → Prop := AtOverheated fun _ _ _ after => AllPaused after.cfg

/-- Before the step, the guard is to pause. -/
def PauseIsDue : ThermalRecord → Prop := AtOverheated fun s gpu settings _ => WillPause s gpu settings

/-! ## The timer -/

section Timer

variable {p : ThermalSample} {older samples : List ThermalSample} {holds : ThermalSample → Prop} {nanos now : Nat}

theorem heldFor_cons : HeldFor holds nanos now (p :: older) ↔
    holds p ∧ (p.reading ≠ none ∧ p.takenAt + nanos ≤ now ∨ HeldFor holds nanos now older) := by
  constructor
  · rintro ⟨newer, first, rest, split_, read, long, all⟩
    cases newer with
    | nil =>
      cases split_
      exact ⟨all _ (by simp), .inl ⟨read, long⟩⟩
    | cons q newer =>
      cases split_
      exact ⟨all _ (by simp), .inr ⟨newer, first, rest, rfl, read, long, fun p member => all p (by simp_all)⟩⟩
  · rintro ⟨here, ⟨read, long⟩ | ⟨newer, first, rest, rfl, read, long, all⟩⟩
    · exact ⟨[], p, older, rfl, read, long, fun q member => by simp_all⟩
    · refine ⟨p :: newer, first, rest, rfl, read, long, fun q member => ?_⟩
      rcases List.mem_cons.mp member with rfl | later
      · exact here
      · exact all q later

theorem not_heldFor_nil : ¬ HeldFor holds nanos now [] := by
  rintro ⟨newer, first, rest, split_, _⟩
  simp at split_

/-- The first reading of the evaluations that were watched without a break. -/
def streakStart : List ThermalSample → Option Nat
  | [] => none
  | p :: older =>
    if p.enabled = true ∧ p.available = true then
      match p.reading with
      | none => streakStart older
      | some t => if p.thresholdC ≤ t then (streakStart older).or (some p.takenAt) else none
    else none

theorem streakStart_mem {t : Nat} (start : streakStart samples = some t) : ∃ p ∈ samples, p.takenAt = t := by
  induction samples with
  | nil => cases start
  | cons p older ih =>
    have later : streakStart older = some t → ∃ q ∈ p :: older, q.takenAt = t := by
      intro start
      obtain ⟨q, member, taken⟩ := ih start
      exact ⟨q, List.mem_cons_of_mem _ member, taken⟩
    unfold streakStart at start
    split at start
    · split at start
      · exact later start
      · split at start
        · rcases Option.or_eq_some_iff.mp start with start | ⟨_, here⟩
          · exact later start
          · exact ⟨p, List.mem_cons_self, Option.some.inj here⟩
        · cases start
    · cases start

/-- The temperature was watched for a time just where the streak started that long ago. -/
theorem heldFor_watched (sorted : samples.Pairwise fun newer older => older.takenAt ≤ newer.takenAt) :
    HeldFor ThermalSample.Watched nanos now samples ↔ ∃ t, streakStart samples = some t ∧ t + nanos ≤ now := by
  induction samples with
  | nil => exact iff_of_false not_heldFor_nil (by simp [streakStart])
  | cons p older ih =>
    obtain ⟨newest, sorted⟩ := List.pairwise_cons.mp sorted
    rw [heldFor_cons, ih sorted, streakStart]
    by_cases on : p.enabled = true ∧ p.available = true
    · rw [if_pos on]
      cases read : p.reading with
      | none => simp [ThermalSample.Watched, ThermalSample.HotFor, on, read]
      | some temp =>
        by_cases hot : p.thresholdC ≤ temp
        · have watched : p.Watched := ⟨on.1, on.2, fun t same => by rw [read] at same; cases same; exact hot⟩
          simp only [watched, true_and, if_pos hot, ne_eq, reduceCtorEq, not_false_eq_true]
          cases start : streakStart older with
          | none => simp
          | some first =>
            obtain ⟨q, member, taken⟩ := streakStart_mem start
            have earlier := newest q member
            simp only [Option.some.injEq, exists_eq_left', Option.some_or]
            omega
        · refine iff_of_false (fun held => hot (held.1.2.2 temp read)) ?_
          simp [if_neg hot]
    · rw [if_neg on]
      exact iff_of_false (fun held => on ⟨held.1.1, held.1.2.1⟩) (by simp)

/-! ## A run -/

/-- The samples are in the order of the clock, and while no pause of the guard is in force its
timer started with the streak. -/
structure TimerKept (s : ThermalState) : Prop where
  sorted : s.samples.Pairwise fun newer older => older.takenAt ≤ newer.takenAt
  past : ∀ p ∈ s.samples, p.takenAt ≤ s.now
  timer : s.tracker.causedPause = false → s.tracker.overThresholdSince = streakStart s.samples

variable {s : ThermalState} {gpu : GpuHostStatus} {settings : GpuThermalSettings} {saves : Bool} {unixNow : Nat}

private theorem startTimer_since {temp : UInt8} :
    (startTimer temp s).overThresholdSince = s.tracker.overThresholdSince.or (some s.now) := by
  unfold startTimer
  split
  · rename_i none_
    rw [none_, Option.none_or]
  · rename_i since running
    rw [running, Option.some_or]

private theorem overThreshold_timer {temp : UInt8}
    (idle : (overThreshold settings temp saves unixNow s).tracker.causedPause = false) :
    s.tracker.causedPause = false ∧ (overThreshold settings temp saves unixNow s).tracker.overThresholdSince =
      s.tracker.overThresholdSince.or (some s.now) := by
  simp only [overThreshold] at idle ⊢
  split at idle
  · rename_i due
    rw [startTimer_causedPause] at due
    rw [if_pos (by rwa [startTimer_causedPause])]
    split at idle
    · cases idle
    · rename_i unsaved
      rw [if_neg unsaved]
      exact ⟨due.2, startTimer_since⟩
  · rename_i early
    rw [if_neg early]
    exact ⟨startTimer_causedPause.symm.trans idle, startTimer_since⟩

private theorem cooledDown_timer : (cooledDown settings saves s).tracker.overThresholdSince = none := by
  simp only [cooledDown]
  split
  · split
    · rfl
    · rfl
  · split
    · rfl
    · rfl

/-- An enabled guard with a reading at the threshold. -/
theorem evaluate_hot {temp : UInt8} (enabled : settings.enabled = true) (available : gpu.available = true)
    (read : maxTempC gpu = some temp) (hot : settings.thresholdC ≤ temp) :
    evaluate gpu settings saves unixNow s = overThreshold settings temp saves unixNow s := by
  simp [evaluate, enabled, available, read, hot]

/-- The timer after an evaluation starts with the streak that the evaluation continues. -/
private theorem evaluate_timer
    (timer : s.tracker.causedPause = false → s.tracker.overThresholdSince = streakStart s.samples)
    (idle : (evaluate gpu settings saves unixNow s).tracker.causedPause = false) :
    (evaluate gpu settings saves unixNow s).tracker.overThresholdSince =
      streakStart (sampleOf s gpu settings :: s.samples) := by
  rw [streakStart]
  by_cases off : settings.enabled = false ∨ gpu.available = false
  · have broken : ¬ (settings.enabled = true ∧ gpu.available = true) := by
      rcases off with off | off
      · simp [off]
      · simp [off]
    rw [evaluate, if_pos off, resetIfInactive] at idle ⊢
    rw [sampleOf, if_neg broken]
    by_cases paused : s.tracker.causedPause = true
    · rw [if_pos paused, paused] at idle
      cases idle
    · rw [if_neg paused]
  · have on : settings.enabled = true ∧ gpu.available = true := by simpa using off
    rw [sampleOf, if_pos on]
    cases read : maxTempC gpu with
    | none =>
      simp only [evaluate, if_neg off, read] at idle ⊢
      exact timer idle
    | some temp =>
      by_cases hot : settings.thresholdC ≤ temp
      · rw [evaluate_hot on.1 on.2 read hot] at idle ⊢
        obtain ⟨before, since⟩ := overThreshold_timer idle
        rw [since, timer before]
        exact (if_pos hot).symm
      · simp only [evaluate, if_neg off, read, if_neg hot]
        split
        · exact cooledDown_timer
        · rfl

private theorem thermalStep_timerKept (kept : TimerKept s) (e : ThermalEvent) : TimerKept (thermalStep s e) := by
  cases e with
  | wait nanos =>
    exact ⟨kept.sorted, fun p member => Nat.le_add_right_of_le (kept.past p member), kept.timer⟩
  | probe gpu => exact ⟨kept.sorted, kept.past, kept.timer⟩
  | user op saves => exact ⟨kept.sorted, kept.past, kept.timer⟩
  | evaluate saves unixNow =>
    rw [thermalStep]
    split
    · exact kept
    · refine ⟨List.pairwise_cons.mpr ⟨kept.past, kept.sorted⟩, ?_, evaluate_timer kept.timer⟩
      intro p member
      simp only [evaluate_now]
      rcases List.mem_cons.mp member with rfl | older
      · exact Nat.le_refl _
      · exact kept.past p older

theorem Machine.Reaches.timerKept {now : Nat} {cfg : StoredConfig} {past : List ThermalRecord}
    (ran : thermalMachine.Reaches (.initial now cfg) past s) : TimerKept s :=
  ran.invariant (fun _ s => TimerKept s) (fun _ => True)
    ⟨.nil, fun _ member => absurd member List.not_mem_nil, fun _ => rfl⟩
    (fun _ _ e kept _ => thermalStep_timerKept kept e) fun _ _ => trivial

/-! ## One evaluation -/

private theorem allPaused_setPauseAll (cfg : StoredConfig) : AllPaused (setPauseAll true cfg) := by
  constructor
  · intro c member
    obtain ⟨old, _, rfl⟩ := List.mem_map.mp member
    rfl
  · intro swarm member
    obtain ⟨old, _, rfl⟩ := List.mem_map.mp member
    rfl

/-- The pause is in memory whether or not it could be saved. -/
private theorem overThreshold_paused {temp : UInt8} :
    AllPaused (overThreshold settings temp saves unixNow s).cfg ↔ AllPaused s.cfg ∨
      s.tracker.causedPause = false ∧ settings.durationSecs ≤ elapsedSecs (startTimer temp s) s.now := by
  rw [overThreshold_cfg]
  split
  · rename_i due
    exact iff_of_true (allPaused_setPauseAll _) (.inr ⟨due.2, due.1⟩)
  · rename_i early
    exact ⟨.inl, fun either => either.resolve_right fun due => early ⟨due.2, due.1⟩⟩

/-- The timer has run for the configured seconds just where it was started that long ago. -/
private theorem elapsedSecs_le {tracker : GpuThermalGuardTracker} {first now secs : Nat}
    (since : tracker.overThresholdSince = some first) (earlier : first ≤ now) :
    secs ≤ elapsedSecs tracker now ↔ first + secs * nanosPerSec ≤ now := by
  rw [elapsedSecs, since, Option.map_some, Option.getD_some, Nat.le_div_iff_mul_le (by decide)]
  omega

/-- An evaluation of an overheated GPU leaves all networks paused just where the guard is to pause. -/
private theorem evaluate_paused (kept : TimerKept s) (overheated : Overheated s gpu settings) :
    AllPaused (evaluate gpu settings saves unixNow s).cfg ↔ WillPause s gpu settings := by
  obtain ⟨temp, read⟩ := Option.ne_none_iff_exists'.mp overheated.read
  have hot : settings.thresholdC ≤ temp := (heldFor_cons.mp overheated.stayed).1 temp read
  cases available : gpu.available with
  | false =>
    rw [evaluate, if_pos (.inr available), resetIfInactive_cfg, WillPause]
    refine ⟨.inl, fun either => either.resolve_right fun due => ?_⟩
    have watched : gpu.available = true := (heldFor_cons.mp due.2).1.2.1
    rw [available] at watched
    cases watched
  | true =>
    rw [evaluate_hot overheated.enabled available read hot, overThreshold_paused, WillPause]
    refine or_congr_right (and_congr_right fun idle => ?_)
    have streak : streakStart (sampleOf s gpu settings :: s.samples) =
        (startTimer temp s).overThresholdSince := by
      rw [startTimer_since, kept.timer idle, streakStart, sampleOf, if_pos ⟨overheated.enabled, available⟩]
      simp only [read, if_pos hot]
    obtain ⟨first, since⟩ : ∃ first, (startTimer temp s).overThresholdSince = some first := by
      rw [startTimer_since]
      cases s.tracker.overThresholdSince with
      | none => exact ⟨s.now, rfl⟩
      | some first => exact ⟨first, rfl⟩
    have earlier : first ≤ s.now := by
      obtain ⟨p, member, taken⟩ := streakStart_mem (streak.trans since)
      rcases List.mem_cons.mp member with rfl | older
      · exact Nat.le_of_eq taken.symm
      · have past := kept.past p older
        omega
    rw [heldFor_watched (List.pairwise_cons.mpr ⟨kept.past, kept.sorted⟩), elapsedSecs_le since earlier, streak,
      since]
    simp

private theorem thermalStep_paused (kept : TimerKept s) (pending : s.pending = some (gpu, settings))
    (overheated : Overheated s gpu settings) :
    AllPaused (thermalStep s (.evaluate saves unixNow)).cfg ↔ WillPause s gpu settings := by
  rw [thermalStep, pending]
  exact evaluate_paused kept overheated

/-! ## A guard that is left alone -/

/-- The guard stays enabled on a GPU that is there, its threshold is never lowered and its saves
succeed; and no operation lets a network accept jobs while a pause of the guard is in force. -/
structure LeftAlone (r : ThermalRecord) : Prop where
  evaluation : ∀ saves unixNow gpu settings, r.event = .evaluate saves unixNow →
    r.before.pending = some (gpu, settings) → saves = true ∧ settings.enabled = true ∧ gpu.available = true ∧
      ∀ p ∈ r.before.samples, p.thresholdC ≤ settings.thresholdC
  operation : ∀ op saves, r.event = .user op saves → r.before.tracker.causedPause = true →
    AllPaused r.before.cfg → AllPaused (runOp saves op r.before.cfg).1

private structure PauseHolds (s : ThermalState) : Prop where
  timer : TimerKept s
  paused : s.tracker.causedPause = true → AllPaused s.cfg
  on : ∀ p ∈ s.samples, p.enabled = true ∧ p.available = true

private theorem HeldFor.imp {weaker : ThermalSample → Prop} (held : HeldFor holds nanos now samples)
    (implies : ∀ p ∈ samples, holds p → weaker p) : HeldFor weaker nanos now samples := by
  obtain ⟨newer, first, older, rfl, read, long, all⟩ := held
  refine ⟨newer, first, older, rfl, read, long, fun p member => implies p ?_ (all p member)⟩
  rcases List.mem_append.mp member with newest | here
  · exact List.mem_append_left _ newest
  · rw [List.mem_singleton.mp here]
    exact List.mem_append_right _ List.mem_cons_self

private theorem overThreshold_keepsPause {temp : UInt8} (paused : s.tracker.causedPause = true → AllPaused s.cfg)
    (caused : (overThreshold settings temp saves unixNow s).tracker.causedPause = true) :
    AllPaused (overThreshold settings temp saves unixNow s).cfg := by
  rw [overThreshold_paused]
  simp only [overThreshold] at caused
  split at caused
  · rename_i due
    rw [startTimer_causedPause] at due
    exact .inr due.symm
  · exact .inl (paused (startTimer_causedPause.symm.trans caused))

/-- A resume that is saved ends the guard's own pause. -/
private theorem cooledDown_keepsPause (paused : s.tracker.causedPause = true → AllPaused s.cfg)
    (caused : (cooledDown settings true s).tracker.causedPause = true) :
    AllPaused (cooledDown settings true s).cfg := by
  simp only [cooledDown] at caused ⊢
  by_cases resumes : s.tracker.causedPause ∧ settings.autoResume
  · have saved : (runOp true (.setPauseAll false) s.cfg).2 = .saved := rfl
    rw [if_pos resumes, if_pos saved] at caused
    cases caused
  · rw [if_neg resumes] at caused ⊢
    split at caused
    · rename_i causes
      rw [if_pos causes]
      exact paused caused
    · rename_i causes
      exact absurd caused causes

private theorem evaluate_keepsPause (paused : s.tracker.causedPause = true → AllPaused s.cfg)
    (enabled : settings.enabled = true) (available : gpu.available = true)
    (caused : (evaluate gpu settings true unixNow s).tracker.causedPause = true) :
    AllPaused (evaluate gpu settings true unixNow s).cfg := by
  have on : ¬ (settings.enabled = false ∨ gpu.available = false) := by simp [enabled, available]
  cases read : maxTempC gpu with
  | none =>
    simp only [evaluate, if_neg on, read] at caused ⊢
    exact paused caused
  | some temp =>
    by_cases hot : settings.thresholdC ≤ temp
    · rw [evaluate_hot enabled available read hot] at caused ⊢
      exact overThreshold_keepsPause paused caused
    · simp only [evaluate, if_neg on, read, if_neg hot] at caused ⊢
      split at caused
      · rename_i cool
        rw [if_pos cool]
        exact cooledDown_keepsPause paused caused
      · rename_i warm
        rw [if_neg warm]
        exact paused caused

private theorem thermalStep_pauseHolds {e : ThermalEvent} (kept : PauseHolds s)
    (alone : LeftAlone (thermalMachine.record s e)) : PauseHolds (thermalStep s e) := by
  refine ⟨thermalStep_timerKept kept.timer e, ?_, ?_⟩
  · cases e with
    | wait nanos => exact kept.paused
    | probe gpu => exact kept.paused
    | user op saves => exact fun caused => alone.operation op saves rfl caused (kept.paused caused)
    | evaluate saves unixNow =>
      rw [thermalStep]
      split
      · exact kept.paused
      · rename_i gpu settings pending
        obtain ⟨rfl, enabled, available, _⟩ := alone.evaluation saves unixNow gpu settings rfl pending
        exact evaluate_keepsPause kept.paused enabled available
  · cases e with
    | wait nanos => exact kept.on
    | probe gpu => exact kept.on
    | user op saves => exact kept.on
    | evaluate saves unixNow =>
      rw [thermalStep]
      split
      · exact kept.on
      · rename_i gpu settings pending
        obtain ⟨_, enabled, available, _⟩ := alone.evaluation saves unixNow gpu settings rfl pending
        exact List.forall_mem_cons.mpr ⟨⟨enabled, available⟩, kept.on⟩

end Timer

/-- In every run, an evaluation of an overheated GPU leaves all networks paused just where they
are paused before it, or the guard has caused no pause that is still in force and has itself
watched the temperature at the threshold for the configured time. -/
theorem pauses_all_iff {now : Nat} {cfg : StoredConfig} {s : ThermalState} {past : List ThermalRecord}
    (ran : thermalMachine.Reaches (.initial now cfg) past s) : ∀ r ∈ past, PausesAll r ↔ PauseIsDue r := by
  induction ran with
  | start => exact fun r member => absurd member List.not_mem_nil
  | step ran e ih =>
    rename_i past s
    intro r member
    rcases List.mem_cons.mp member with rfl | older
    · refine forall₄_congr fun saves unixNow gpu settings => forall₃_congr fun event pending overheated => ?_
      obtain rfl : e = .evaluate saves unixNow := event
      exact thermalStep_paused ran.timerKept pending overheated
    · exact ih r older

/-- A guard that is left alone leaves all networks paused whenever the temperature has been at
the threshold for the configured time. -/
theorem left_alone_pauses_all {now : Nat} {cfg : StoredConfig} {s : ThermalState} {past : List ThermalRecord}
    (ran : thermalMachine.Reaches (.initial now cfg) past s) (alone : ∀ r ∈ past, LeftAlone r) :
    Machine.Always (fun _ r => PausesAll r) past := by
  have init : PauseHolds (.initial now cfg) := by
    refine ⟨⟨.nil, ?_, fun _ => rfl⟩, fun caused => ?_, ?_⟩
    · exact fun p member => absurd member List.not_mem_nil
    · cases caused
    · exact fun p member => absurd member List.not_mem_nil
  refine ran.always (fun _ s => PauseHolds s) LeftAlone init
    (fun _ _ _ kept alone => thermalStep_pauseHolds kept alone) ?_ alone
  intro _ s e kept alone saves unixNow gpu settings event pending overheated
  obtain rfl : e = .evaluate saves unixNow := event
  obtain ⟨_, enabled, available, lowest⟩ := alone.evaluation saves unixNow gpu settings rfl pending
  apply (thermalStep_paused kept.timer pending overheated).mpr
  cases caused : s.tracker.causedPause with
  | true => exact .inl (kept.paused caused)
  | false =>
    refine .inr ⟨caused, overheated.stayed.imp fun p member hot => ?_⟩
    rcases List.mem_cons.mp member with rfl | older
    · exact ⟨enabled, available, hot⟩
    · have on := kept.on p older
      exact ⟨on.1, on.2, fun t read => UInt8.le_trans (lowest p older) (hot t read)⟩

private def hotCfg : StoredConfig where
  peerId := none
  clusters := [membershipFromResponse ⟨"c1", none, none, none, none⟩ none]
  swarms := []
  p2pMode := .cluster
  cluster := none
  settings := ⟨false, false, false, false, none, none, none, none, none, none, none, none, none, none⟩

private def hotProbe : GpuHostStatus := ⟨true, some 90, none⟩

private def hotSettings : GpuThermalSettings := effectiveGpuThermalSettings hotCfg.settings

private def hotSample (secs : Nat) : ThermalSample := ⟨secs * nanosPerSec, true, true, some 90, 85⟩

private def minuteOfHeat : List ThermalEvent :=
  [.probe hotProbe, .evaluate true 0, .wait (60 * nanosPerSec), .probe hotProbe]

private def guardRun (events : List ThermalEvent) : List ThermalRecord × ThermalState :=
  thermalMachine.history (.initial 0 hotCfg) events

/-- The guard pauses after a minute of heat. -/
theorem pauses_all_iff_sample :
    AllPaused (thermalStep (guardRun minuteOfHeat).2 (.evaluate true 60)).cfg := by
  have ran := Machine.reaches_history thermalMachine (.initial 0 hotCfg) (minuteOfHeat ++ [.evaluate true 60])
  have held (holds : ThermalSample → Prop) (all : ∀ secs, holds (hotSample secs)) :
      HeldFor holds (60 * nanosPerSec) (60 * nanosPerSec) [hotSample 60, hotSample 0] := by
    refine ⟨[hotSample 60], hotSample 0, [], rfl, by decide, by decide, fun p member => ?_⟩
    rcases List.mem_cons.mp member with rfl | member
    · exact all 60
    · rw [List.mem_singleton.mp member]
      exact all 0
  have hot : ∀ secs, (hotSample secs).HotFor 85 := fun _ t read => by cases read; decide
  refine (pauses_all_iff ran (thermalMachine.record (guardRun minuteOfHeat).2 (.evaluate true 60))
    List.mem_cons_self).mpr ?_ true 60 hotProbe hotSettings rfl rfl ⟨rfl, by decide, held _ hot⟩
  rintro _ _ _ _ ⟨⟩ ⟨⟩ _
  exact .inr ⟨by decide, held _ fun secs => ⟨rfl, rfl, hot secs⟩⟩

/-- Without the automatic resume, the pause of the guard is in force for it even after the GPU
has cooled down and the user has resumed the networks: it does not pause them a second time. -/
theorem second_heat_unnoticed : ∃ past s,
    thermalMachine.Reaches (.initial 0 { hotCfg with settings.gpuThermalAutoResume := some false }) past s ∧
      ∃ r ∈ past, ¬ PausesAll r := by
  have ran := Machine.reaches_history thermalMachine
    (.initial 0 { hotCfg with settings.gpuThermalAutoResume := some false })
    (minuteOfHeat ++ [.evaluate true 60, .wait (10 * nanosPerSec), .probe ⟨true, some 70, none⟩,
      .evaluate true 70, .user (.setPauseAll false) true, .wait (10 * nanosPerSec), .probe hotProbe,
      .evaluate true 80, .wait (60 * nanosPerSec), .probe hotProbe, .evaluate true 140])
  refine ⟨_, _, ran, _, List.mem_cons_self, fun pauses => ?_⟩
  have hot : ∀ secs, (hotSample secs).HotFor 85 := fun _ t read => by cases read; decide
  have held : HeldFor (ThermalSample.HotFor 85) (60 * nanosPerSec) (140 * nanosPerSec)
      [hotSample 140, hotSample 80, ⟨70 * nanosPerSec, true, true, some 70, 85⟩, hotSample 60, hotSample 0] := by
    refine ⟨[hotSample 140], hotSample 80, _, rfl, by decide, by decide, fun p member => ?_⟩
    rcases List.mem_cons.mp member with rfl | member
    · exact hot 140
    · rw [List.mem_singleton.mp member]
      exact hot 80
  exact absurd (pauses true 140 hotProbe { hotSettings with autoResume := false } rfl rfl
    ⟨rfl, by decide, held⟩) (by decide)

end MtrxPeer
