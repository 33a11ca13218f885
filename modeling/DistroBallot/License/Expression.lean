import DistroBallot.Document.Value
import DistroBallot.License.Token

/-!
# License expressions

An expression is a tree of license names under `all` and `any`, with groups that stand under a
flag. A tree that was put together by hand may hold something that is no expression; it is kept as
a `foreign` value.

Expressions are read from tokens by a machine that keeps the open groups on a stack. A token either
extends the innermost group, opens one or closes it; a flag and the sign `||` must be followed by
an opening parenthesis. The first token that cannot stand where it stands is the error, and if
there is none, a text that ends inside a group is.
-/

namespace DistroBallot
namespace License

/-- A license expression. -/
inductive Expression where
  | license (name : Text)
  | all (members : List Expression)
  | any (members : List Expression)
  | conditional (flag : Text) (negated : Bool) (body : Expression)
  | foreign (content : Value)
deriving Repr, Inhabited

/-- Why tokens are no expression. -/
inductive SyntaxError where
  | unexpectedEnd
  | unexpected (text : Text)
  | expectedOpening (text : Text)
deriving DecidableEq, Repr

/-- The message for an error. -/
def SyntaxError.message : SyntaxError → String
  | .unexpectedEnd => "unexpected end of expression"
  | .unexpected text => s!"unexpected '{String.ofList text}'"
  | .expectedOpening text => s!"expected '(' but got '{String.ofList text}'"

/-! ## Groups -/

/-- What stands in front of a group. -/
inductive Head where
  | plain
  | either
  | flag (name : Text) (negated : Bool)
deriving DecidableEq, Repr

/-- The head that the text of a flag token makes: the name between the signs around it. -/
def Head.ofParam (text : Text) : Head :=
  .flag ((text.dropWhile (· == '!')).reverse.dropWhile (· == '?')).reverse (text.head? == some '!')

/-- The expression of a group. -/
def Head.group (head : Head) (members : List Expression) : Expression :=
  match head with
  | .plain => .all members
  | .either => .any members
  | .flag name negated => .conditional name negated (.all members)

/-! ## The machine -/

/-- A group that is not closed yet: its head, and the members of the group around it that came
before it, the last one first. -/
structure OpenGroup where
  head : Head
  before : List Expression
deriving Repr

/-- The open groups, the innermost first; the members of the innermost group so far, the last one
first; and the head that waits for its opening parenthesis, if there is one. -/
structure Reader where
  groups : List OpenGroup
  members : List Expression
  pending : Option Head
deriving Repr

namespace Reader

/-- Before the first token. -/
def start : Reader := ⟨[], [], none⟩

/-- Takes one token. -/
def take (r : Reader) (token : Token) : Except SyntaxError Reader :=
  match r.pending with
  | some head =>
    match token.kind with
    | .opening => .ok ⟨⟨head, r.members⟩ :: r.groups, [], none⟩
    | _ => .error (.expectedOpening token.text)
  | none =>
    match token.kind with
    | .identifier => .ok { r with members := .license token.text :: r.members }
    | .param => .ok { r with pending := some (.ofParam token.text) }
    | .either => .ok { r with pending := some .either }
    | .opening => .ok ⟨⟨.plain, r.members⟩ :: r.groups, [], none⟩
    | .closing =>
      match r.groups with
      | [] => .error (.unexpected token.text)
      | g :: outer => .ok ⟨outer, g.head.group r.members.reverse :: g.before, none⟩

/-- Takes tokens up to the first error. -/
def takeAll (r : Reader) : List Token → Except SyntaxError Reader
  | [] => .ok r
  | token :: rest =>
    match r.take token with
    | .ok next => next.takeAll rest
    | .error e => .error e

/-- The members read, when no group is open and no head waits. -/
def finish (r : Reader) : Except SyntaxError (List Expression) :=
  match r.pending, r.groups with
  | none, [] => .ok r.members.reverse
  | _, _ => .error .unexpectedEnd

end Reader

/-- The expression that tokens write: all of the members at the top. -/
def parse (ts : List Token) : Except SyntaxError Expression :=
  match Reader.start.takeAll ts with
  | .ok r => r.finish.map .all
  | .error e => .error e

end License
end DistroBallot
