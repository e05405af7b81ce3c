import Mathlib.Tactic.SplitIfs
import MtrxPeer.NetworkSchedule

/-! When a scheduled network next connects or disconnects, as a Unix time. -/
namespace MtrxPeer

/-! ## The clock -/

/-- The local clock: the nanoseconds since the epoch and how far the zone is east of UTC. The
last date that it can show is earlier than the bound. -/
structure LocalClock where
  nanos : Nat
  offset : Int
  zone : -86400 < offset ∧ offset < 86400
  bounded : nanos < 2 ^ 53 * 10 ^ 9

/-- The seconds that a wall clock shows since the epoch's midnight. -/
def wallSeconds (offset nanos : Int) : Int := nanos / 10 ^ 9 + offset

/-- `now.hour() * 60 + now.minute()`. -/
def wallMins (seconds : Int) : Nat := (seconds % 86400 / 60).toNat

/-- A cast of an `i64` to `u64`. -/
def asU64 (number : Int) : Nat := (number % 2 ^ 64).toNat

/-- `next_transition_unix`; a date and a time are the seconds from the epoch's midnight. -/
def nextTransitionUnix (clock : LocalClock) (schedule : ResolvedSchedule) : Option Nat :=
  if !schedule.enabled then none
  else
    let now := wallSeconds clock.offset clock.nanos
    let nowMins := wallMins now
    let inside := isInsideWindow schedule.startMins schedule.endMins nowMins
    let targetMins := if inside then schedule.endMins else schedule.startMins
    if 24 * 60 ≤ targetMins then none
    else
      let target := now - now % 86400 + targetMins * 60
      let target := if inside && targetMins ≤ nowMins then target + 86400 else target
      let target :=
        if !inside && targetMins > nowMins then target
        else if !inside && targetMins ≤ nowMins then target + 86400
        else target
      some (asU64 target)

/-! ## The window -/

/-- The window of a schedule is open at an instant, by the clock on the wall. -/
def ResolvedSchedule.openAt (schedule : ResolvedSchedule) (offset nanos : Int) : Bool :=
  isInsideWindow schedule.startMins schedule.endMins (wallMins (wallSeconds offset nanos))

/-- The next transition of a schedule: the first instant after now at which its window opens
or closes, within a day. There is none for a schedule that is not enabled and for one that is
always open. -/
structure TransitionRight (clock : LocalClock) (schedule : ResolvedSchedule)
    (transition : Option Nat) : Prop where
  none_iff : transition = none ↔ schedule.enabled = false ∨ schedule.startMins = schedule.endMins
  later : ∀ t, transition = some t →
    clock.nanos < t * 10 ^ 9 ∧ t * 10 ^ 9 ≤ clock.nanos + 86400 * 10 ^ 9
  constant : ∀ t, transition = some t → ∀ instant, clock.nanos ≤ instant → instant < t * 10 ^ 9 →
    schedule.openAt clock.offset instant = schedule.openAt clock.offset clock.nanos
  opposite : ∀ t, transition = some t →
    schedule.openAt clock.offset (t * 10 ^ 9) ≠ schedule.openAt clock.offset clock.nanos

/-! ## The change of the window -/

theorem isInsideWindow_iff {startMins endMins nowMins : Nat} :
    isInsideWindow startMins endMins nowMins = true ↔ startMins = endMins ∨
      (startMins < endMins ∧ startMins ≤ nowMins ∧ nowMins < endMins) ∨
      (endMins < startMins ∧ (startMins ≤ nowMins ∨ nowMins < endMins)) := by
  unfold isInsideWindow
  split_ifs with same forward
  · simp [same]
  · simp only [ge_iff_le, Bool.and_eq_true, decide_eq_true_eq]
    omega
  · simp only [ge_iff_le, Bool.or_eq_true, decide_eq_true_eq]
    omega

/-- The end of the window that comes next. -/
def ResolvedSchedule.otherEnd (schedule : ResolvedSchedule) (nowMins : Nat) : Nat :=
  if isInsideWindow schedule.startMins schedule.endMins nowMins then schedule.endMins
  else schedule.startMins

/-- The second on the wall at which the window next changes, today or tomorrow. -/
def nextChange (schedule : ResolvedSchedule) (now : Int) : Int :=
  now - now % 86400 + schedule.otherEnd (wallMins now) * 60 +
    if schedule.otherEnd (wallMins now) ≤ wallMins now then 86400 else 0

private theorem wallMins_cast (seconds : Int) : (wallMins seconds : Int) = seconds % 86400 / 60 := by
  unfold wallMins
  omega

/-- A schedule that starts and ends within the day. -/
structure ResolvedSchedule.Daily (schedule : ResolvedSchedule) : Prop where
  start : schedule.startMins < 24 * 60
  finish : schedule.endMins < 24 * 60

section Change

variable {schedule : ResolvedSchedule} (daily : schedule.Daily)

include daily

theorem otherEnd_lt (nowMins : Nat) : schedule.otherEnd nowMins < 24 * 60 := by
  unfold ResolvedSchedule.otherEnd
  split_ifs
  · exact daily.finish
  · exact daily.start

theorem nextChange_later (now : Int) :
    now < nextChange schedule now ∧ nextChange schedule now ≤ now + 86400 := by
  have minute := wallMins_cast now
  have within := otherEnd_lt daily (wallMins now)
  unfold nextChange
  split_ifs <;> omega

theorem wallMins_nextChange (now : Int) :
    wallMins (nextChange schedule now) = schedule.otherEnd (wallMins now) := by
  have minute := wallMins_cast (nextChange schedule now)
  have within := otherEnd_lt daily (wallMins now)
  unfold nextChange at minute ⊢
  split_ifs at minute ⊢ <;> omega

/-- Up to the change the window is as it is now. -/
theorem nextChange_constant {now seconds : Int} (since : now ≤ seconds)
    (before : seconds < nextChange schedule now) :
    isInsideWindow schedule.startMins schedule.endMins (wallMins seconds) =
      isInsideWindow schedule.startMins schedule.endMins (wallMins now) := by
  obtain ⟨startWithin, endWithin⟩ := daily
  have minute := wallMins_cast now
  have minuteThen := wallMins_cast seconds
  rw [Bool.eq_iff_iff]
  unfold nextChange ResolvedSchedule.otherEnd at before
  by_cases inside : isInsideWindow schedule.startMins schedule.endMins (wallMins now) = true
  · simp only [if_pos inside] at before
    rw [isInsideWindow_iff] at inside ⊢
    rw [isInsideWindow_iff]
    split_ifs at before <;> omega
  · simp only [if_neg inside] at before
    rw [isInsideWindow_iff] at inside ⊢
    rw [isInsideWindow_iff]
    split_ifs at before <;> omega

omit daily in
/-- At its other end a window is not what it was before. -/
theorem otherEnd_opposite (changes : schedule.startMins ≠ schedule.endMins) (nowMins : Nat) :
    isInsideWindow schedule.startMins schedule.endMins (schedule.otherEnd nowMins) ≠
      isInsideWindow schedule.startMins schedule.endMins nowMins := by
  unfold ResolvedSchedule.otherEnd
  rw [ne_eq, Bool.eq_iff_iff]
  split_ifs with inside
  · rw [isInsideWindow_iff] at inside
    rw [isInsideWindow_iff, isInsideWindow_iff]
    omega
  · rw [isInsideWindow_iff] at inside
    rw [isInsideWindow_iff, isInsideWindow_iff]
    omega

end Change

/-! ## What is returned -/

/-- The code returns the change on the wall as if the wall showed UTC. -/
theorem nextTransitionUnix_enabled {schedule : ResolvedSchedule} (daily : schedule.Daily)
    (enabled : schedule.enabled = true) (clock : LocalClock) :
    nextTransitionUnix clock schedule =
      some (asU64 (nextChange schedule (wallSeconds clock.offset clock.nanos))) := by
  generalize instant : wallSeconds clock.offset clock.nanos = now
  have within : ¬ 24 * 60 ≤ schedule.otherEnd (wallMins now) := Nat.not_le.mpr (otherEnd_lt daily _)
  unfold nextTransitionUnix nextChange
  simp only [enabled, instant, Bool.not_true, Bool.false_eq_true, if_false]
  rw [← ResolvedSchedule.otherEnd, if_neg within]
  generalize schedule.otherEnd (wallMins now) = target
  -- Inside or not, a target that is not ahead today is tomorrow's.
  by_cases past : target ≤ wallMins now
  · have ahead : ¬ wallMins now < target := Nat.not_lt.mpr past
    cases isInsideWindow schedule.startMins schedule.endMins (wallMins now) <;> simp [past, ahead]
  · have ahead : wallMins now < target := Nat.not_le.mp past
    cases isInsideWindow schedule.startMins schedule.endMins (wallMins now) <;> simp [past, ahead]

private theorem asU64_cast {number : Int} (below : number < 2 ^ 63) (above : -2 ^ 63 ≤ number) :
    (asU64 number : Int) = if number < 0 then number + 2 ^ 64 else number := by
  unfold asU64
  split_ifs <;> omega

private theorem wallSeconds_second (offset second : Int) :
    wallSeconds offset (second * 10 ^ 9) = second + offset := by
  unfold wallSeconds
  omega

section Returned

variable {schedule : ResolvedSchedule} (daily : schedule.Daily) (clock : LocalClock)

include daily

/-- In UTC the change on the wall is the change of the window. -/
private theorem utc_right (changes : schedule.startMins ≠ schedule.endMins)
    (enabled : schedule.enabled = true) (utc : clock.offset = 0) :
    TransitionRight clock schedule (nextTransitionUnix clock schedule) := by
  rw [nextTransitionUnix_enabled daily enabled]
  have now : wallSeconds clock.offset clock.nanos = clock.nanos / 10 ^ 9 := by
    rw [wallSeconds, utc, Int.add_zero]
  have bounded := clock.bounded
  obtain ⟨after, withinDay⟩ := nextChange_later daily (wallSeconds clock.offset clock.nanos)
  have constant := @nextChange_constant _ daily (wallSeconds clock.offset clock.nanos)
  have opposite := otherEnd_opposite changes (wallMins (wallSeconds clock.offset clock.nanos))
  rw [← wallMins_nextChange daily] at opposite
  generalize nextChange schedule (wallSeconds clock.offset clock.nanos) = change at *
  have returned : (asU64 change : Int) = change := by
    rw [asU64_cast (by omega) (by omega), if_neg (by omega)]
  generalize asU64 change = transition at returned
  subst returned
  refine ⟨by simp [enabled, changes], ?_, ?_, ?_⟩
  · rintro t ⟨⟩
    omega
  · rintro t ⟨⟩ instant since before
    apply constant
    · unfold wallSeconds
      omega
    · unfold wallSeconds
      omega
  · rintro t ⟨⟩
    have wall := wallSeconds_second clock.offset transition
    rw [utc, Int.add_zero] at wall
    rw [ResolvedSchedule.openAt, utc, wall]
    rwa [utc] at opposite

/-- Elsewhere the change on the wall, taken for UTC, is not the change of the window. -/
private theorem elsewhere_wrong (changes : schedule.startMins ≠ schedule.endMins)
    (enabled : schedule.enabled = true) (elsewhere : clock.offset ≠ 0) :
    ¬ TransitionRight clock schedule (nextTransitionUnix clock schedule) := by
  rw [nextTransitionUnix_enabled daily enabled]
  rintro ⟨-, later, constant, opposite⟩
  have bounded := clock.bounded
  have zone := clock.zone
  obtain ⟨notBefore, withinDay⟩ := later _ rfl
  replace constant := constant _ rfl
  replace opposite := opposite _ rfl
  obtain ⟨after, soon⟩ := nextChange_later daily (wallSeconds clock.offset clock.nanos)
  have wallConstant := @nextChange_constant _ daily (wallSeconds clock.offset clock.nanos)
  have wallOpposite := otherEnd_opposite changes (wallMins (wallSeconds clock.offset clock.nanos))
  rw [← wallMins_nextChange daily] at wallOpposite
  have now : wallSeconds clock.offset clock.nanos = clock.nanos / 10 ^ 9 + clock.offset := rfl
  generalize nextChange schedule (wallSeconds clock.offset clock.nanos) = change at *
  have cast := asU64_cast (show change < 2 ^ 63 by omega) (show -2 ^ 63 ≤ change by omega)
  generalize asU64 change = transition at *
  by_cases early : change < 0
  · rw [if_pos early] at cast
    omega
  rw [if_neg early] at cast
  subst cast
  -- West of UTC the change comes later than it is said, east of UTC earlier.
  by_cases west : clock.offset < 0
  · apply opposite
    have wall := wallSeconds_second clock.offset transition
    rw [ResolvedSchedule.openAt, wall]
    exact wallConstant (by omega) (by omega)
  · apply wallOpposite
    have same := constant (((transition : Int) - clock.offset) * 10 ^ 9).toNat (by omega) (by omega)
    have wall := wallSeconds_second clock.offset (transition - clock.offset)
    rw [Int.sub_add_cancel] at wall
    rw [ResolvedSchedule.openAt, Int.toNat_of_nonneg (by omega), wall] at same
    exact same

end Returned

/-- An always open window has no transition, and the code returns one. -/
private theorem open_wrong {schedule : ResolvedSchedule} (daily : schedule.Daily) (clock : LocalClock)
    (always : schedule.startMins = schedule.endMins) (enabled : schedule.enabled = true) :
    ¬ TransitionRight clock schedule (nextTransitionUnix clock schedule) := by
  intro right
  have none_ := right.none_iff.mpr (.inr always)
  rw [nextTransitionUnix_enabled daily enabled] at none_
  cases none_

/-- For any schedule that the settings make, any time and any zone: the transition that is
returned is the next one of the window just when the schedule is not enabled, or the window
is not always open and the zone is UTC. -/
theorem next_transition_right_iff (clock : LocalClock) (memberEnabled : Option Bool)
    (memberStart memberEnd : Option String) (defaultEnabled : Option Bool)
    (defaultStart defaultEnd : Option String) :
    let schedule := resolveSchedule memberEnabled memberStart memberEnd defaultEnabled defaultStart
      defaultEnd
    TransitionRight clock schedule (nextTransitionUnix clock schedule) ↔
      schedule.enabled = false ∨ (schedule.startMins ≠ schedule.endMins ∧ clock.offset = 0) := by
  intro schedule
  obtain ⟨start, finish⟩ := resolveSchedule_lt memberEnabled defaultEnabled memberStart memberEnd
    defaultStart defaultEnd
  have daily : schedule.Daily := ⟨start, finish⟩
  cases enabled : schedule.enabled with
  | false =>
    have nothing : nextTransitionUnix clock schedule = none := by simp [nextTransitionUnix, enabled]
    rw [nothing]
    refine iff_of_true ⟨by simp [enabled], ?_, ?_, ?_⟩ (.inl rfl) <;> rintro t ⟨⟩
  | true =>
    constructor
    · intro right
      refine .inr ⟨fun always => open_wrong daily clock always enabled right, ?_⟩
      by_cases changes : schedule.startMins = schedule.endMins
      · exact absurd right (open_wrong daily clock changes enabled)
      · exact Decidable.byContradiction fun elsewhere =>
          elsewhere_wrong daily clock changes enabled elsewhere right
    · rintro (disabled | ⟨changes, utc⟩)
      · cases disabled
      · exact utc_right daily clock changes enabled utc

/-- An hour east of UTC, with the window from nine to five. -/
private def eastClock : LocalClock where
  nanos := 1760000000 * 10 ^ 9
  offset := 3600
  zone := by decide
  bounded := by decide

theorem transition_late_in_the_east :
    let schedule := resolveSchedule (some true) (some "09:00") (some "17:00") none none none
    nextTransitionUnix eastClock schedule = some 1760029200 ∧
      schedule.openAt eastClock.offset (1760025600 * 10 ^ 9) = false ∧
      ¬ TransitionRight eastClock schedule (nextTransitionUnix eastClock schedule) := by
  intro schedule
  have returned : nextTransitionUnix eastClock schedule = some 1760029200 := by decide +kernel
  refine ⟨returned, by decide +kernel, ?_⟩
  intro right
  have constant := right.constant _ returned (1760025600 * 10 ^ 9) (by decide) (by decide)
  exact absurd constant (by decide +kernel)

end MtrxPeer
