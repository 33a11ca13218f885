import DistroBallot.Number.Basic

/-!
# Stopwatches

A stopwatch measures the time between its start and its stop in milliseconds, or up to now while it
has not been stopped. The result is cut to whole milliseconds, toward zero. A time that is not a
number, or that is out of range, has no whole milliseconds.
-/

namespace DistroBallot

/-- Why a time has no whole milliseconds. -/
inductive UncountableTime where
  | notANumber
  | outOfRange
deriving DecidableEq, Repr

/-- When a stopwatch was started, and when it was stopped if it was. -/
structure Stopwatch where
  startedAt : Number
  stoppedAt : Option Number
deriving Repr

namespace Stopwatch

/-- A stopwatch that was started at zero. -/
def fresh : Stopwatch := ⟨.real (Binary64.zero false), none⟩

/-- Starts anew. -/
def start (_ : Stopwatch) (now : Number) : Stopwatch := ⟨now, none⟩

/-- Stops. -/
def stop (w : Stopwatch) (now : Number) : Stopwatch := { w with stoppedAt := some now }

/-- The time from the start up to `now`, in milliseconds that need not be whole. -/
def elapsed? (w : Stopwatch) (now : Number) : Option Number :=
  (now.sub? w.startedAt).bind (·.mul? (.int 1000))

/-- The whole milliseconds up to the stop, or up to `now` while the stopwatch runs. -/
def milliseconds (w : Stopwatch) (now : Number) : Except UncountableTime Int :=
  match w.elapsed? (w.stoppedAt.getD now) with
  | none => .error .outOfRange
  | some (.int n) => .ok n
  | some (.real .nan) => .error .notANumber
  | some (.real x) =>
    match x.truncate? with
    | some n => .ok n
    | none => .error .outOfRange

end Stopwatch
end DistroBallot
