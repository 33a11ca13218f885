/-!
# Verdicts

A verdict on freedom is free, non-free or unknown; the last is an abstention.
-/

namespace DistroBallot

/-- The outcome of a check for freedom. -/
inductive Verdict where
  | free
  | nonFree
  | unknown
deriving DecidableEq, Repr, Inhabited

namespace Verdict

/-- The definite verdict of a truth value. -/
def ofBool (b : Bool) : Verdict := if b then .free else .nonFree

/-- Whether the verdict is more than an abstention. -/
def isDefinite : Verdict → Bool
  | .unknown => false
  | _ => true

/-- How the verdict is written. -/
def name : Verdict → String
  | .free => "free"
  | .nonFree => "non-free"
  | .unknown => "unknown"

/-- The verdict that is written so. -/
def ofName? (s : String) : Option Verdict :=
  [free, nonFree, unknown].find? (fun v => v.name == s)

end Verdict
end DistroBallot
