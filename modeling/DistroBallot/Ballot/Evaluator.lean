import DistroBallot.Ballot.Verdict
import DistroBallot.License.Evaluation
import DistroBallot.License.IdentifierCache
import DistroBallot.License.Marker

/-!
# License evaluators

An evaluator gives a verdict on one license text. The evaluators of Arch and openSUSE look for a
marker and are always definite. The evaluator of Gentoo reads the text as an expression; it
abstains when the free identifiers cannot be had.
-/

namespace DistroBallot

/-- A verdict on a license text, by a step on the evaluator's own state. -/
abbrev Evaluator (σ : Type) := Text → Step Fault σ Verdict

namespace Evaluator

variable {σ : Type}

/-- The evaluator that looks for a marker. -/
def ofMarker (marker : License.Marker) : Evaluator σ := fun text =>
  pure (.ofBool (marker.admits (some text)))

/-- The verdict on a license expression, given the free identifiers if they can be had. -/
def ofIdentifiers (identifiers : Option IdentifierSet) : Evaluator σ := fun text =>
  match identifiers with
  | none => do
    Step.tell .abstention
    return .unknown
  | some free =>
    match License.isFree (some text) free with
    | .ok b => pure (.ofBool b)
    | .error e => Step.fail (.foreign e)

/-- The evaluator of license expressions, with its identifiers in a cache. -/
def gentoo (fetch : Option (Step Fault σ (List Text))) :
    Evaluator (License.IdentifierCache σ) := fun text => do
  let identifiers ← License.IdentifierCache.get fetch
  ofIdentifiers identifiers text

/-- The evaluators of the reference repositories. -/
def standard (fetch : Option (Step Fault σ (List Text))) :
    EvaluatorRef → Option (Evaluator (License.IdentifierCache σ))
  | .known .arch => some (ofMarker .arch)
  | .known .opensuse => some (ofMarker .opensuse)
  | .known .gentoo => some (gentoo fetch)
  | .unknown _ => none

end Evaluator
end DistroBallot
