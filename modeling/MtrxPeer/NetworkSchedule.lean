import MtrxPeer.Bytes

/-! The daily window in which a scheduled network is connected. -/
namespace MtrxPeer

/-- `str::parse::<u32>`. -/
def parseU32 (text : List Char) : Option Nat :=
  let digits := if text.head? = some '+' then text.tail else text
  if digits ≠ [] ∧ digits.all Char.isDigit ∧ Nat.ofDigitChars 10 digits 0 < 2 ^ 32 then
    some (Nat.ofDigitChars 10 digits 0)
  else none

/-- `"HH:MM"` as minutes since midnight. -/
def parseHhmm (value : String) : Option Nat :=
  let text := (trim value).toList
  if ':' ∈ text then do
    let hour ← parseU32 (text.takeWhile (· ≠ ':'))
    let minute ← parseU32 (text.dropWhile (· ≠ ':')).tail
    if hour > 23 ∨ minute > 59 then none else some (hour * 60 + minute)
  else none

/-- A window that ends before it starts goes past midnight. -/
def isInsideWindow (startMins endMins nowMins : Nat) : Bool :=
  if startMins = endMins then true
  else if startMins < endMins then nowMins ≥ startMins && nowMins < endMins
  else nowMins ≥ startMins || nowMins < endMins

structure ResolvedSchedule where
  enabled : Bool
  startMins : Nat
  endMins : Nat
  deriving DecidableEq

/-- What a member does not say is taken from the defaults. -/
def resolveSchedule (memberEnabled : Option Bool) (memberStart memberEnd : Option String)
    (defaultEnabled : Option Bool) (defaultStart defaultEnd : Option String) : ResolvedSchedule where
  enabled := (memberEnabled.or defaultEnabled).getD false
  startMins := (parseHhmm ((memberStart.or defaultStart).getD "09:00")).getD (9 * 60)
  endMins := (parseHhmm ((memberEnd.or defaultEnd).getD "17:00")).getD (17 * 60)

/-- A time that is read is within the day. -/
theorem parseHhmm_lt {value : String} {mins : Nat} (read : parseHhmm value = some mins) :
    mins < 24 * 60 := by
  simp only [parseHhmm, Option.bind_eq_bind] at read
  split at read
  · simp only [Option.bind_eq_some_iff] at read
    obtain ⟨hour, _, minute, _, read⟩ := read
    split at read
    · cases read
    · cases read
      omega
  · cases read

private theorem getD_parseHhmm_lt (value : String) {default : Nat} (within : default < 24 * 60) :
    (parseHhmm value).getD default < 24 * 60 := by
  cases read : parseHhmm value with
  | none => exact within
  | some mins => exact parseHhmm_lt read

/-- Every schedule starts and ends within the day. -/
theorem resolveSchedule_lt (memberEnabled defaultEnabled : Option Bool)
    (memberStart memberEnd defaultStart defaultEnd : Option String) :
    (resolveSchedule memberEnabled memberStart memberEnd defaultEnabled defaultStart
        defaultEnd).startMins < 24 * 60 ∧
      (resolveSchedule memberEnabled memberStart memberEnd defaultEnabled defaultStart
        defaultEnd).endMins < 24 * 60 := by
  simp only [resolveSchedule]
  constructor
  · apply getD_parseHhmm_lt
    omega
  · apply getD_parseHhmm_lt
    omega

end MtrxPeer
