import DistroBallot.Fetch.Url
import DistroBallot.License.Evaluation
import DistroBallot.Registry.Package
import DistroBallot.Registry.Repository

/-!
# Faults

The ways in which a check for freedom can stop, from the record it starts with to the requests it
makes. Faults of the *user*, which a command reports as wrong usage, are told apart from those that
are not expected to happen (`Fault.isUsage`).
-/

namespace DistroBallot

/-- Why the free license identifiers cannot be had. -/
inductive GroupsUnavailable where
  | requestFailed (target : Text) (status : Int)
  | noMembers (categories : List Text)
  | reported (reason : String)
deriving DecidableEq, Repr

/-- The reason in words. -/
def GroupsUnavailable.message : GroupsUnavailable → String
  | .requestFailed target status =>
    s!"license groups request to {String.ofList target} failed (status {status})"
  | .noMembers categories =>
    let names := String.ofList (Text.join ", ".toList categories)
    s!"no members found for categories {names}"
  | .reported reason => reason

/-- Why a check stopped. -/
inductive Fault where
  | record (e : RecordError)
  | unsupported (kind : String)
  | unknownEvaluator (repository : Text) (ref : EvaluatorRef)
  | invalidRule (repository : Text) (content : Value)
  | notText
  | incomparable
  | foreign (e : License.ForeignNode)
  | groups (e : GroupsUnavailable)
  | port (e : PortError)
  | argumentClash
  | notRetried (message : String)
  | overflow
  | hook
deriving Repr

namespace Fault

/-- The message for a fault, if it has words of its own. -/
def message? : Fault → Option String
  | .record e => e.message?
  | .unsupported kind =>
    some s!"check_freedom() expects a Package or a Project, not {kind}"
  | .unknownEvaluator repository ref =>
    some s!"Repository '{String.ofList repository}' uses unknown evaluator {ref.shown}"
  | .invalidRule repository content =>
    some (s!"Repository '{String.ofList repository}' has an invalid rule: " ++
      String.ofList content.quoted)
  | .foreign e => some e.message
  | .groups e => some e.message
  | .port e => some e.message
  | .notRetried message => some message
  | .hook => some "hook failed"
  | .notText => none
  | .incomparable => none
  | .argumentClash => none
  | .overflow => none

/-- Whether the fault lies in what the user gave: a repository without a name, something that is
neither package nor project, a registry that cannot be evaluated, or a port that is none. -/
def isUsage : Fault → Bool
  | .record .emptyRepo => true
  | .unsupported _ => true
  | .unknownEvaluator .. => true
  | .invalidRule .. => true
  | .groups _ => true
  | .port _ => true
  | _ => false

end Fault
end DistroBallot
