import Mathlib.Logic.Function.Basic

/-! Values that updates read, change and write back, many of them side by side. An update is lost
when one that had read before it was written is written after it. -/
namespace MtrxPeer

/-- What a value is made of: updates, and whether they began with the value that was there at
first or with a blank one. -/
structure Lineage (ι : Type) where
  whole : Bool
  updates : List ι
  deriving DecidableEq

/-- What a value is made of, beside all updates that were written, in their order. -/
structure UpdateLog (ι : Type) where
  lineage : Lineage ι
  written : List ι

/-- What an update has read: of what the value was made, and how many updates were written then;
it begins with a blank value if it could not read. -/
structure Reading (ι : Type) where
  lineage : Lineage ι
  seen : Option Nat

variable {ι σ : Type}

/-- The value that is made so. -/
def Lineage.value (apply : σ → ι → σ) (initial blank : σ) (lineage : Lineage ι) : σ :=
  lineage.updates.foldl apply (if lineage.whole then initial else blank)

def Reading.blank : Reading ι := ⟨⟨false, []⟩, none⟩

namespace UpdateLog

def initial : UpdateLog ι := ⟨⟨true, []⟩, []⟩

def read (log : UpdateLog ι) : Reading ι := ⟨log.lineage, some log.written.length⟩

/-- An update is written over what is there, and is made of what it has read. -/
def write (log : UpdateLog ι) (reading : Reading ι) (item : ι) : UpdateLog ι :=
  ⟨⟨reading.lineage.whole, reading.lineage.updates ++ [item]⟩, log.written ++ [item]⟩

/-- No update is lost, nor what was there at first. -/
def Complete (log : UpdateLog ι) : Prop := log.lineage = ⟨true, log.written⟩

/-- Nothing was written since a reading. -/
def UpToDate (log : UpdateLog ι) (reading : Reading ι) : Prop := reading.seen = some log.written.length

instance (log : UpdateLog ι) (reading : Reading ι) : Decidable (log.UpToDate reading) :=
  inferInstanceAs (Decidable (_ = _))

/-- A value is made of no more updates than were written. -/
def Bounded (log : UpdateLog ι) : Prop := log.lineage.updates.length ≤ log.written.length

end UpdateLog

/-- What can be said later of a reading of a log. -/
structure Reading.Of (reading : Reading ι) (log : UpdateLog ι) : Prop where
  made : reading.lineage.updates.length ≤ reading.seen.getD 0
  past : reading.seen.getD 0 ≤ log.written.length
  whole : reading.lineage.whole = true → reading.seen ≠ none
  current : log.UpToDate reading → reading.lineage = log.lineage

variable {log : UpdateLog ι} {reading other : Reading ι} {item : ι}

namespace Reading

theorem blank_of (log : UpdateLog ι) : Reading.blank.Of log where
  made := Nat.le_refl 0
  past := Nat.zero_le _
  whole whole := absurd whole Bool.false_ne_true
  current := fun seen => by cases seen

/-- A reading stays one of the log when another update is written. -/
theorem Of.write (of : reading.Of log) : reading.Of (log.write other item) where
  made := of.made
  past := by
    have past := of.past
    simp only [UpdateLog.write, List.length_append]
    omega
  whole := of.whole
  current seen := by
    have past := of.past
    rw [UpdateLog.UpToDate, UpdateLog.write, List.length_append, List.length_singleton] at seen
    rw [seen, Option.getD_some] at past
    omega

/-- A reading of all that was written is up to date. -/
theorem Of.upToDate (of : reading.Of log) (whole : reading.lineage.whole = true)
    (all : reading.lineage.updates.length = log.written.length) : log.UpToDate reading := by
  have made := of.made
  have past := of.past
  cases seen : reading.seen with
  | none => exact absurd seen (of.whole whole)
  | some n =>
    rw [seen, Option.getD_some] at made past
    rw [UpdateLog.UpToDate, seen]
    congr 1
    omega

end Reading

namespace UpdateLog

theorem read_of (bounded : log.Bounded) : log.read.Of log where
  made := bounded
  past := Nat.le_refl _
  whole _ seen := by cases seen
  current _ := rfl

theorem bounded_initial : (initial : UpdateLog ι).Bounded := Nat.le_refl 0

theorem bounded_write (of : reading.Of log) : (log.write reading item).Bounded := by
  have made := of.made
  have past := of.past
  simp only [Bounded, write, List.length_append]
  omega

/-- Nothing is lost once an update is written exactly when nothing was lost before and it is
written over what it has read. What is lost once stays lost. -/
theorem complete_write (of : reading.Of log) :
    (log.write reading item).Complete ↔ log.Complete ∧ log.UpToDate reading := by
  constructor
  · intro complete
    obtain ⟨whole, same⟩ := Lineage.mk.inj complete
    have same := List.append_cancel_right same
    have upToDate := of.upToDate whole (congrArg List.length same)
    refine ⟨?_, upToDate⟩
    rw [Complete, ← of.current upToDate, ← same, ← whole]
  · rintro ⟨complete, upToDate⟩
    rw [Complete] at complete ⊢
    rw [write, of.current upToDate, complete]

theorem value_write (apply : σ → ι → σ) (initial blank : σ) :
    (log.write reading item).lineage.value apply initial blank =
      apply (reading.lineage.value apply initial blank) item := by
  rw [Lineage.value, write, List.foldl_append, List.foldl_cons, List.foldl_nil, Lineage.value]

end UpdateLog

end MtrxPeer
