import MtrxPeer.Runs
import MtrxPeer.StoredConfig

/-! The thermal guard. It pauses all networks when the temperature has been at the threshold for
long enough, and resumes them when it has come down, while other tasks change the configuration. -/
namespace MtrxPeer

/-! ## Settings and samples -/

structure GpuThermalSettings where
  enabled : Bool
  thresholdC : UInt8
  durationSecs : Nat
  cooldownC : UInt8
  autoResume : Bool
  deriving DecidableEq

/-- `effective_gpu_thermal_settings`. -/
def effectiveGpuThermalSettings (settings : StoredSettings) : GpuThermalSettings where
  enabled := settings.gpuThermalGuardEnabled.getD true
  thresholdC := settings.gpuThermalThresholdC.getD 85
  durationSecs := settings.gpuThermalDurationSecs.getD 60
  cooldownC := settings.gpuThermalCooldownC.getD 75
  autoResume := settings.gpuThermalAutoResume.getD true

/-- What the guard reads of a probe: `devices` has the temperature of each one. -/
structure GpuHostStatus where
  available : Bool
  temperatureC : Option UInt8
  devices : Option (List (Option UInt8))
  deriving DecidableEq

/-- The higher of two readings. -/
def hotter (max : Option UInt8) : Option UInt8 → Option UInt8
  | none => max
  | some t => some (max.elim t fun m => if m ≤ t then t else m)

/-- `max_temp_c`. -/
def maxTempC (gpu : GpuHostStatus) : Option UInt8 := (gpu.devices.getD []).foldl hotter gpu.temperatureC

/-! ## The guard -/

structure GpuThermalGuardTracker where
  /-- The instant of a steady clock, in nanoseconds. -/
  overThresholdSince : Option Nat
  peakTempC : Option UInt8
  causedPause : Bool
  deriving DecidableEq

structure GpuThermalGuardStatus where
  active : Bool
  triggeredAt : Option Nat
  peakTempC : Option UInt8
  thresholdC : UInt8
  causedPause : Bool
  deriving DecidableEq

/-- One evaluation as it was: when, what was read, and the threshold that was in force. -/
structure ThermalSample where
  takenAt : Nat
  enabled : Bool
  available : Bool
  reading : Option UInt8
  thresholdC : UInt8

structure ThermalState where
  now : Nat
  cfg : StoredConfig
  tracker : GpuThermalGuardTracker
  /-- What the status page shows of the guard. -/
  status : GpuThermalGuardStatus
  /-- The probe that is to be evaluated, with the settings that were read after it. -/
  pending : Option (GpuHostStatus × GpuThermalSettings)
  /-- The evaluations so far, the newest first. -/
  samples : List ThermalSample

def ThermalState.initial (now : Nat) (cfg : StoredConfig) : ThermalState :=
  ⟨now, cfg, ⟨none, none, false⟩, ⟨false, none, none, 0, false⟩, none, []⟩

def nanosPerSec : Nat := 10 ^ 9

/-- `reset_if_inactive`. -/
def resetIfInactive (s : ThermalState) : ThermalState :=
  if s.tracker.causedPause then s
  else
    { s with
      tracker := { s.tracker with overThresholdSince := none, peakTempC := none }
      status := if s.status.active ∧ !s.status.causedPause then ⟨false, none, none, 0, false⟩ else s.status }

/-- The timer runs from the first reading at the threshold. -/
def startTimer (temp : UInt8) (s : ThermalState) : GpuThermalGuardTracker :=
  match s.tracker.overThresholdSince with
  | none => { s.tracker with overThresholdSince := some s.now, peakTempC := some temp }
  | some _ => { s.tracker with peakTempC := hotter s.tracker.peakTempC (some temp) }

/-- `elapsed().as_secs()` of the timer. -/
def elapsedSecs (tracker : GpuThermalGuardTracker) (now : Nat) : Nat :=
  (tracker.overThresholdSince.map fun since => (now - since) / nanosPerSec).getD 0

/-- A reading at the threshold or above. -/
def overThreshold (settings : GpuThermalSettings) (temp : UInt8) (saves : Bool) (unixNow : Nat)
    (s : ThermalState) : ThermalState :=
  let tracker := startTimer temp s
  if settings.durationSecs ≤ elapsedSecs tracker s.now ∧ tracker.causedPause = false then
    let (cfg, result) := runOp saves (.setPauseAll true) s.cfg
    if result = .saved then
      { s with
        cfg
        tracker := { tracker with causedPause := true }
        status := ⟨true, some unixNow, tracker.peakTempC, settings.thresholdC, true⟩ }
    else { s with cfg, tracker }
  else
    { s with
      tracker
      status := if s.status.active then s.status else { s.status with thresholdC := settings.thresholdC } }

/-- A reading at the lower bound or below. -/
def cooledDown (settings : GpuThermalSettings) (saves : Bool) (s : ThermalState) : ThermalState :=
  let tracker := { s.tracker with overThresholdSince := none, peakTempC := none }
  if s.tracker.causedPause ∧ settings.autoResume then
    let (cfg, result) := runOp saves (.setPauseAll false) s.cfg
    if result = .saved then
      { s with cfg, tracker := { tracker with causedPause := false }, status := ⟨false, none, none, 0, false⟩ }
    else { s with cfg, tracker }
  else if s.tracker.causedPause then { s with tracker, status := { s.status with active := false } }
  else { s with tracker }

/-- `evaluate`; `saves` says whether the configuration can be written. -/
def evaluate (gpu : GpuHostStatus) (settings : GpuThermalSettings) (saves : Bool) (unixNow : Nat)
    (s : ThermalState) : ThermalState :=
  if settings.enabled = false ∨ gpu.available = false then resetIfInactive s
  else
    match maxTempC gpu with
    | none => s
    | some temp =>
      if settings.thresholdC ≤ temp then overThreshold settings temp saves unixNow s
      else if temp ≤ settings.cooldownC then cooledDown settings saves s
      else { s with tracker := { s.tracker with overThresholdSince := none } }

/-! ## The machine -/

/-- The monitor probes, reads the settings and evaluates; anything may happen in between. -/
inductive ThermalEvent where
  | wait (nanos : Nat)
  | probe (gpu : GpuHostStatus)
  | evaluate (saves : Bool) (unixNow : Nat)
  | user (op : ConfigOp) (saves : Bool)

def sampleOf (s : ThermalState) (gpu : GpuHostStatus) (settings : GpuThermalSettings) : ThermalSample :=
  ⟨s.now, settings.enabled, gpu.available, maxTempC gpu, settings.thresholdC⟩

def thermalStep (s : ThermalState) : ThermalEvent → ThermalState
  | .wait nanos => { s with now := s.now + nanos }
  | .probe gpu => { s with pending := some (gpu, effectiveGpuThermalSettings s.cfg.settings) }
  | .evaluate saves unixNow =>
    match s.pending with
    | none => s
    | some (gpu, settings) =>
      { evaluate gpu settings saves unixNow s with
        pending := none
        samples := sampleOf s gpu settings :: s.samples }
  | .user op saves => { s with cfg := (runOp saves op s.cfg).1 }

def thermalMachine : Machine ThermalState ThermalEvent Unit where
  step s e := (thermalStep s e, [])

/-! ## What an evaluation leaves alone -/

section Frame

variable {s : ThermalState} {gpu : GpuHostStatus} {settings : GpuThermalSettings} {saves : Bool} {unixNow : Nat}

@[simp] theorem resetIfInactive_now : (resetIfInactive s).now = s.now := by
  unfold resetIfInactive
  split
  · rfl
  · rfl

@[simp] theorem resetIfInactive_cfg : (resetIfInactive s).cfg = s.cfg := by
  unfold resetIfInactive
  split
  · rfl
  · rfl

@[simp] theorem overThreshold_now {temp : UInt8} :
    (overThreshold settings temp saves unixNow s).now = s.now := by
  simp only [overThreshold]
  split
  · split
    · rfl
    · rfl
  · rfl

@[simp] theorem cooledDown_now : (cooledDown settings saves s).now = s.now := by
  simp only [cooledDown]
  split
  · split
    · rfl
    · rfl
  · split
    · rfl
    · rfl

/-- An evaluation takes no time on the clock of the model. -/
@[simp] theorem evaluate_now : (evaluate gpu settings saves unixNow s).now = s.now := by
  unfold evaluate
  split
  · exact resetIfInactive_now
  · split
    · rfl
    · split
      · exact overThreshold_now
      · split
        · exact cooledDown_now
        · rfl

/-! ## What it does to the configuration -/

theorem startTimer_causedPause {temp : UInt8} : (startTimer temp s).causedPause = s.tracker.causedPause := by
  unfold startTimer
  split
  · rfl
  · rfl

/-- A pause is in memory whether or not it could be saved. -/
theorem overThreshold_cfg {temp : UInt8} : (overThreshold settings temp saves unixNow s).cfg =
    if settings.durationSecs ≤ elapsedSecs (startTimer temp s) s.now ∧ s.tracker.causedPause = false then
      setPauseAll true s.cfg
    else s.cfg := by
  simp only [overThreshold, startTimer_causedPause]
  split
  · split
    · rfl
    · rfl
  · rfl

theorem cooledDown_cfg : (cooledDown settings saves s).cfg =
    if s.tracker.causedPause = true ∧ settings.autoResume = true then setPauseAll false s.cfg else s.cfg := by
  simp only [cooledDown]
  split
  · split
    · rfl
    · rfl
  · split
    · rfl
    · rfl

end Frame

end MtrxPeer
