import DistroBallot.License.Expression
import DistroBallot.License.Identifiers

/-!
# Evaluating license expressions

A name is free when its lower case is among the free identifiers; `all` and `any` are decided from
left to right and no further than needed; a group under a flag counts as if the flag were set,
whatever its sign. A foreign value that is reached is an error.

A text is free when it is not blank, is an expression, and evaluates to free.
-/

namespace DistroBallot
namespace License

/-- A value that is no expression was reached. -/
structure ForeignNode where
  content : Value
deriving Repr

/-- The message for the error. -/
def ForeignNode.message (e : ForeignNode) : String :=
  s!"not a license expression node: {String.ofList e.content.quoted}"

namespace Expression

mutual

/-- Whether the expression admits only free licenses. -/
def evaluate (free : IdentifierSet) : Expression → Except ForeignNode Bool
  | .license name => .ok (free.contains name.lower)
  | .all members => evaluateAll free members
  | .any members => evaluateAny free members
  | .conditional _ _ body => evaluate free body
  | .foreign content => .error ⟨content⟩

/-- Whether every member is free, up to the first that is not. -/
def evaluateAll (free : IdentifierSet) : List Expression → Except ForeignNode Bool
  | [] => .ok true
  | e :: rest =>
    match evaluate free e with
    | .ok true => evaluateAll free rest
    | result => result

/-- Whether some member is free, up to the first that is. -/
def evaluateAny (free : IdentifierSet) : List Expression → Except ForeignNode Bool
  | [] => .ok false
  | e :: rest =>
    match evaluate free e with
    | .ok false => evaluateAny free rest
    | result => result

end

end Expression

/-- Whether a text admits only free licenses. Blank texts and texts that are no expression do not;
neither does a text that is not given. -/
def isFree (text : Option Text) (free : IdentifierSet) : Except ForeignNode Bool :=
  match text with
  | none => .ok false
  | some t =>
    if t.isBlankText then .ok false
    else match parse (tokens t) with
      | .ok e => e.evaluate free
      | .error _ => .ok false

end License
end DistroBallot
