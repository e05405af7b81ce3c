import MtrxPeer.CappedBuffers
import MtrxPeer.IntelGpuTop
import MtrxPeer.PeerStats
import MtrxPeer.ThermalGuard

/-! The history of a GPU: the latest samples, and samples a minute apart for the longer time. -/
namespace MtrxPeer

/-! ## The tracker -/

def shortCap : Nat := 60

def longCap : Nat := 60

def longIntervalSecs : Nat := 60

structure GpuSample where
  tsUnix : Nat
  utilizationPct : UInt8
  memoryUsedMb : Nat
  memoryUtilizationPct : Option UInt8
  temperatureC : Option UInt8
  powerDrawW : Option Nat
  deriving DecidableEq

/-- `sample_from_status`. -/
def sampleFromStatus (unixNow : Nat) (gpu : IntelGpuTop.GpuHostStatus) : GpuSample where
  tsUnix := gpu.sampledAtUnix.getD unixNow
  utilizationPct := gpu.utilizationPct
  memoryUsedMb := gpu.memoryUsedMb
  memoryUtilizationPct := gpu.memoryUtilizationPct
  temperatureC := gpu.temperatureC
  powerDrawW := gpu.powerDrawW

/-- `push_ring`. -/
def pushRing (buf : List GpuSample) (cap : Nat) (sample : GpuSample) : List GpuSample :=
  pushCapped buf cap sample

structure GpuHistoryTracker where
  short : List GpuSample
  long : List GpuSample
  /-- The instant of a steady clock, in nanoseconds. -/
  lastLongAt : Option Nat

structure GpuHistory where
  short : List GpuSample
  long : List GpuSample
  deriving DecidableEq

namespace GpuHistoryTracker

def new : GpuHistoryTracker := ⟨[], [], none⟩

/-- Whether the next sample is one of the long history. -/
def due (tracker : GpuHistoryTracker) (now : Nat) : Bool :=
  (tracker.lastLongAt.map fun t => decide (longIntervalSecs ≤ (now - t) / nanosPerSec)).getD true

/-- `record`. -/
def record (tracker : GpuHistoryTracker) (now unixNow : Nat) (gpu : IntelGpuTop.GpuHostStatus) :
    GpuHistoryTracker :=
  if gpu.available then
    let sample := sampleFromStatus unixNow gpu
    let tracker := { tracker with short := pushRing tracker.short shortCap sample }
    if tracker.due now then
      { tracker with long := pushRing tracker.long longCap sample, lastLongAt := some now }
    else tracker
  else tracker

/-- `snapshot`. -/
def snapshot (tracker : GpuHistoryTracker) : GpuHistory := ⟨tracker.short, tracker.long⟩

end GpuHistoryTracker

/-! ## The monitor -/

structure GpuMonitorState where
  now : Nat
  tracker : GpuHistoryTracker
  /-- What the status page shows. -/
  gpuHistory : GpuHistory

/-- A tick of the monitor, with what its probe finds. -/
structure GpuTick where
  elapsed : Nat
  unixNow : Nat
  gpu : Option IntelGpuTop.GpuHostStatus

/-- The loop of `spawn_gpu_monitor`, as far as it keeps the history. -/
def gpuMonitorStep (s : GpuMonitorState) (tick : GpuTick) : GpuMonitorState :=
  let now := s.now + tick.elapsed
  match tick.gpu with
  | none => { s with now }
  | some gpu =>
    let tracker := s.tracker.record now tick.unixNow gpu
    ⟨now, tracker, tracker.snapshot⟩

def gpuMonitor : Machine GpuMonitorState GpuTick Unit where
  step s tick := (gpuMonitorStep s tick, [])

def newGpuMonitor (now : Nat) : GpuMonitorState := ⟨now, .new, ⟨[], []⟩⟩

/-! ## The history -/

/-- The sample of a tick, with its instant, if the probe finds a GPU that is available. -/
def GpuTick.sample (now : Nat) (tick : GpuTick) : List (Nat × GpuSample) :=
  ((tick.gpu.filter (·.available)).map fun gpu => (now, sampleFromStatus tick.unixNow gpu)).toList

/-- The samples that were taken, with their instants. -/
def takenSamples (now : Nat) : List GpuTick → List (Nat × GpuSample)
  | [] => []
  | tick :: rest => tick.sample (now + tick.elapsed) ++ takenSamples (now + tick.elapsed) rest

/-- A long sample is due a minute after the last one. -/
def longInterval : Nat := longIntervalSecs * nanosPerSec

/-- A monitor that has the samples which were taken. -/
structure GpuMonitorState.Has (s : GpuMonitorState) (taken : List (Nat × GpuSample)) : Prop where
  past : ∀ sample ∈ taken, sample.1 ≤ s.now
  short : s.tracker.short = (taken.map Prod.snd).rtake shortCap
  long : ∃ picked, Spaced Prod.fst longInterval taken picked ∧
    s.tracker.long = (picked.map Prod.snd).rtake longCap ∧
    s.tracker.lastLongAt = picked.getLast?.map Prod.fst
  shown : s.gpuHistory = s.tracker.snapshot

section Steps

variable {s : GpuMonitorState} {taken picked : List (Nat × GpuSample)}

private theorem pushRing_rtake {cap : Nat} (room : 0 < cap) (samples : List (Nat × GpuSample))
    (sample : Nat × GpuSample) :
    pushRing ((samples.map Prod.snd).rtake cap) cap sample.2 =
      ((samples ++ [sample]).map Prod.snd).rtake cap := by
  rw [pushRing, pushCapped, rtake_push room, List.map_append, List.map_singleton]

/-- A long sample is due exactly when a minute has passed since the last pick. -/
private theorem due_iff (tracker : GpuHistoryTracker) {now : Nat}
    (last : tracker.lastLongAt = picked.getLast?.map Prod.fst) :
    tracker.due now = true ↔ ∀ sample, picked.getLast? = some sample → longInterval ≤ now - sample.1 := by
  rw [GpuHistoryTracker.due, last]
  cases latest : picked.getLast? with
  | none => simp
  | some sample =>
    have whole := Nat.le_div_iff_mul_le (show 0 < nanosPerSec by decide) (x := longIntervalSecs)
      (y := now - sample.1)
    simpa [longInterval] using whole

/-- What one tick adds. -/
theorem GpuMonitorState.Has.step (has : s.Has taken) (tick : GpuTick) :
    (gpuMonitorStep s tick).Has (taken ++ tick.sample (s.now + tick.elapsed)) := by
  have earlier : ∀ sample ∈ taken, sample.1 ≤ s.now + tick.elapsed := fun sample member =>
    (has.past sample member).trans (Nat.le_add_right _ _)
  obtain ⟨picked, spaced, long, last⟩ := has.long
  cases probed : tick.gpu with
  | none =>
    simp only [gpuMonitorStep, GpuTick.sample, probed, Option.filter_none, Option.map_none,
      Option.toList_none, List.append_nil]
    exact ⟨earlier, has.short, has.long, has.shown⟩
  | some gpu =>
    cases available : gpu.available with
    | false =>
      simp only [gpuMonitorStep, GpuTick.sample, probed, GpuHistoryTracker.record, available,
        Option.filter_some, Bool.false_eq_true, if_false, Option.map_none, Option.toList_none,
        List.append_nil]
      exact ⟨earlier, has.short, has.long, rfl⟩
    | true =>
      have sampled : tick.sample (s.now + tick.elapsed) =
          [(s.now + tick.elapsed, sampleFromStatus tick.unixNow gpu)] := by
        simp [GpuTick.sample, probed, available]
      rw [sampled]
      have past : ∀ sample ∈ taken ++ [(s.now + tick.elapsed, sampleFromStatus tick.unixNow gpu)],
          sample.1 ≤ s.now + tick.elapsed := by
        intro sample member
        rcases List.mem_append.mp member with old | new
        · exact earlier sample old
        · rw [List.mem_singleton.mp new]
      have short := pushRing_rtake (show 0 < shortCap by decide) taken
        (s.now + tick.elapsed, sampleFromStatus tick.unixNow gpu)
      rw [← has.short] at short
      simp only [gpuMonitorStep, probed, GpuHistoryTracker.record, available, if_true]
      split
      · rename_i due
        refine ⟨past, short, ⟨_, spaced.pick (by decide) fun last' latest => ?_, ?_, ?_⟩, rfl⟩
        · have passed := (due_iff { s.tracker with short := _ } last).mp due last' latest
          have before := earlier last' (spaced.sublist.subset (List.mem_of_getLast? latest))
          omega
        · rw [← pushRing_rtake (by decide), ← long]
        · simp
      · rename_i due
        have early : ∃ last', picked.getLast? = some last' ∧
            ¬ longInterval ≤ s.now + tick.elapsed - last'.1 := by
          simpa using mt (due_iff { s.tracker with short := _ } last).mpr due
        obtain ⟨last', latest, early⟩ := early
        have before := earlier last' (spaced.sublist.subset (List.mem_of_getLast? latest))
        exact ⟨past, short, ⟨picked, spaced.pass latest before (by omega), long, last⟩, rfl⟩

theorem GpuMonitorState.Has.after (has : s.Has taken) (ticks : List GpuTick) :
    (gpuMonitor.after s ticks).Has (taken ++ takenSamples s.now ticks) := by
  induction ticks generalizing s taken with
  | nil =>
    rw [takenSamples, List.append_nil]
    exact has
  | cons tick rest ih =>
    have later := ih (has.step tick)
    have now : (gpuMonitorStep s tick).now = s.now + tick.elapsed := by
      rw [gpuMonitorStep]
      split <;> rfl
    rw [now, List.append_assoc] at later
    exact later

end Steps

/-- After any ticks the short history has the last 60 samples that were taken, and the long one
has the last 60 of samples that are picked a minute apart, so that each sample that was taken is
less than a minute after one of them. -/
theorem gpu_history_exact (start : Nat) (ticks : List GpuTick) :
    let history := (gpuMonitor.after (newGpuMonitor start) ticks).gpuHistory
    let taken := takenSamples start ticks
    history.short = (taken.map Prod.snd).rtake shortCap ∧
      ∃ picked, Spaced Prod.fst longInterval taken picked ∧
        history.long = (picked.map Prod.snd).rtake longCap := by
  intro history taken
  have init : (newGpuMonitor start).Has [] :=
    ⟨fun _ member => absurd member (List.not_mem_nil), rfl, ⟨[], .nil, rfl, rfl⟩, rfl⟩
  have has := init.after ticks
  rw [List.nil_append] at has
  obtain ⟨picked, spaced, long, -⟩ := has.long
  have shown : history = (gpuMonitor.after (newGpuMonitor start) ticks).tracker.snapshot := has.shown
  rw [shown]
  exact ⟨has.short, picked, spaced, long⟩

end MtrxPeer
