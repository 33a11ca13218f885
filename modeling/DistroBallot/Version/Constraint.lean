import DistroBallot.Text.Blank
import DistroBallot.Version.Order

/-!
# Version constraints

A constraint is an operator followed by a version, with blanks allowed around both. The operators
of two characters are tried before those of one.
-/

namespace DistroBallot

/-- The operators of constraints. -/
inductive Operator where
  | atMost
  | atLeast
  | equalTo
  | notEqual
  | before
  | after
  | equal
deriving DecidableEq, Repr

namespace Operator

/-- All operators, in the order in which they are tried. -/
def all : List Operator :=
  [.atMost, .atLeast, .equalTo, .notEqual, .before, .after, .equal]

/-- How the operator is written. -/
def symbol : Operator → String
  | .atMost => "<="
  | .atLeast => ">="
  | .equalTo => "=="
  | .notEqual => "!="
  | .before => "<"
  | .after => ">"
  | .equal => "="

/-- The operator that is written so. -/
def ofSymbol? (s : String) : Option Operator :=
  all.find? (fun op => op.symbol == s)

/-- Whether the operator admits a version that stands in this order to the bound. -/
def accepts : Operator → Ordering → Bool
  | .atMost, o => o != .gt
  | .atLeast, o => o != .lt
  | .equalTo, o => o == .eq
  | .notEqual, o => o != .eq
  | .before, o => o == .lt
  | .after, o => o == .gt
  | .equal, o => o == .eq

end Operator

/-- An operator with the version that bounds. -/
structure Constraint where
  operator : Operator
  version : Text
deriving DecidableEq, Repr

namespace Constraint

/-- Whether a version satisfies the constraint. -/
def admits (c : Constraint) (candidate : Text) : Bool :=
  c.operator.accepts (Version.compare candidate c.version)

/-- The constraint as text. -/
def toText (c : Constraint) : Text :=
  c.operator.symbol.toList ++ c.version

/-- Why a text is no constraint. The text is kept as it was given; it may not have been given. -/
inductive Error where
  | noVersion (text : Option Text) (operator : Operator)
  | noOperator (text : Option Text)
deriving DecidableEq, Repr

/-- The text of a constraint in a message. -/
def shown : Option Text → String
  | none => "None"
  | some t => String.ofList t

/-- The message for an error. -/
def Error.message : Error → String
  | .noVersion text op =>
    s!"Constraint '{shown text}' has no version after '{op.symbol}'"
  | .noOperator text =>
    let symbols := ", ".intercalate (Operator.all.map Operator.symbol)
    s!"Constraint '{shown text}' must start with one of: {symbols}"

/-- The first operator that the text starts with, and the text after it. -/
def splitOperator? (t : Text) : Option (Operator × Text) :=
  Operator.all.findSome? fun op =>
    if op.symbol.toList.isPrefixOf t then some (op, t.drop op.symbol.length) else none

/-- Reads a constraint. A text that is not given reads as an empty one. -/
def parse (text : Option Text) : Except Error Constraint :=
  match splitOperator? (text.getD []).strip with
  | none => .error (.noOperator text)
  | some (op, rest) =>
    if rest.strip.isEmpty then .error (.noVersion text op) else .ok ⟨op, rest.strip⟩

end Constraint

namespace Version

/-- The versions that satisfy a constraint given as text, in their order. -/
def filter (versions : List Text) (constraint : Option Text) :
    Except Constraint.Error (List Text) :=
  (Constraint.parse constraint).map fun c => versions.filter c.admits

end Version
end DistroBallot
