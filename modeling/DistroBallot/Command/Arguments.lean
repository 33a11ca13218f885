import DistroBallot.Text.Basic
import DistroBallot.Text.Digit

/-!
# Command arguments

Arguments are told apart before any of them is used (`Item`): options, which start with a hyphen,
the divider `--`, behind which everything is an argument, and arguments. A long option may be cut
short as long as one name fits. Options of one letter may stand together. What starts with a hyphen
is still an argument if it is a negative number, has a space in it, or is the hyphen alone.

Positional arguments are taken in their order, as many at a time as stand side by side, and options
where they stand (`readArguments`). The first fault ends the reading, and so does the option that
asks for help.
-/

namespace DistroBallot
namespace Command

/-- An option: the key under which its value is given, its names, whether it takes a value, and the
values it may have. -/
structure OptionSpec where
  key : String
  names : List Text
  takesValue : Bool
  admits : Text → Bool

/-- The option that asks for help. -/
def helpOption : OptionSpec :=
  ⟨"help", ["-h".toList, "--help".toList], false, fun _ => true⟩

/-- A positional argument, or several of them. -/
structure Positional where
  key : String
  several : Bool
deriving DecidableEq, Repr

/-- What is given under a key: the arguments of an option or a position. -/
structure Given where
  key : String
  values : List Text
deriving DecidableEq, Repr

/-- Why the reading of arguments ends early. -/
inductive Stop where
  | help
  | misuse
deriving DecidableEq, Repr

/-- The divider behind which everything is an argument. -/
def dividerText : Text := ['-', '-']

/-! ## Telling arguments apart -/

/-- An argument by what it is. An option has its specification, whether it is written by one
letter, and the text that is joined to it. -/
inductive Item where
  | argument (t : Text)
  | divider
  | option (spec : OptionSpec) (isLetter : Bool) (joined : Option Text)
  | unknown

/-- The names of all options with their specifications. -/
def allNames (specs : List OptionSpec) : List (Text × OptionSpec) :=
  specs.flatMap fun spec => spec.names.map (·, spec)

/-- The option of this name. -/
def named? (specs : List OptionSpec) (name : Text) : Option OptionSpec :=
  (allNames specs).lookup name

/-- A hyphen with digits behind it, and perhaps a point in front of the last of them. -/
def isNegativeNumber (t : Text) : Bool :=
  let isDigit (c : Char) : Bool := (digitValue? c).isSome
  let body := if t.getLast? == some '\n' then t.dropLast else t
  match body with
  | '-' :: digits =>
    match digits.dropWhile isDigit with
    | [] => !digits.isEmpty
    | '.' :: more => !more.isEmpty && more.all isDigit
    | _ => false
  | _ => false

/-- The names that a text starting with a hyphen may stand for, each with the text joined to it. A
text with two hyphens stands for the names that start with it, up to an equals sign; one with a
single hyphen for an option of one letter with a text right behind it. -/
def candidateNames (specs : List OptionSpec) (t : Text) : List (OptionSpec × Option Text) :=
  match t with
  | '-' :: '-' :: _ =>
    let (name, joined) := Text.cutAt '=' t
    ((allNames specs).filter fun e => name.isPrefixOf e.1).map fun e => (e.2, joined)
  | _ =>
    ((allNames specs).filter fun e => e.1 == t.take 2).map fun e => (e.2, some (t.drop 2))

/-- Whether a text with a hyphen in front is written by one letter. -/
def isLetterOption (t : Text) : Bool := t[1]? != some '-'

/-- What a text is, if it is not the divider. A cut name that several names fit is misuse. -/
def classify (specs : List OptionSpec) (t : Text) : Except Stop Item :=
  if t.head? != some '-' then .ok (.argument t)
  else match named? specs t with
    | some spec => .ok (.option spec (isLetterOption t) none)
    | none =>
      if t.length = 1 then .ok (.argument t)
      else
        let (name, joined) := Text.cutAt '=' t
        match joined.bind (fun _ => named? specs name), candidateNames specs t with
        | some spec, _ => .ok (.option spec (isLetterOption t) joined)
        | none, [(spec, text)] => .ok (.option spec (isLetterOption t) text)
        | none, _ :: _ => .error .misuse
        | none, [] =>
          if isNegativeNumber t || t.contains ' ' then .ok (.argument t) else .ok .unknown

/-- The items of the arguments. -/
def items (specs : List OptionSpec) : List Text → Except Stop (List Item)
  | [] => .ok []
  | t :: rest =>
    if t = dividerText then .ok (.divider :: rest.map .argument)
    else do
      let item ← classify specs t
      let more ← items specs rest
      return item :: more

/-! ## Positional arguments -/

namespace Item

/-- Whether the item is the divider. -/
def isDivider : Item → Bool
  | .divider => true
  | _ => false

/-- Whether the item is an argument or the divider. -/
def isPlain : Item → Bool
  | .argument _ => true
  | .divider => true
  | _ => false

/-- The text of an item that is no option. -/
def text : Item → Text
  | .argument t => t
  | _ => dividerText

end Item

/-- The items that a position takes from the front, and the others: one argument, or all that stand
side by side, with the divider around them. None if no argument comes first. -/
def takePosition? (several : Bool) (items : List Item) : Option (List Item × List Item) :=
  let before := items.takeWhile Item.isDivider
  match items.dropWhile Item.isDivider with
  | .argument t :: rest =>
    let more := if several then Item.isPlain else Item.isDivider
    some (before ++ .argument t :: rest.takeWhile more, rest.dropWhile more)
  | _ => none

/-- Values without the first divider among them. -/
def withoutDivider (values : List Text) : List Text :=
  values.erase dividerText

/-- Takes as many positions as there are arguments for: what is given for them, the positions that
are left, and the items that are left. -/
def takePositions : List Positional → List Item → List Given × List Positional × List Item
  | [], items => ([], [], items)
  | p :: rest, items =>
    match takePosition? p.several items with
    | none => ([], p :: rest, items)
    | some (taken, left) =>
      let (given, positions, left) := takePositions rest left
      (⟨p.key, withoutDivider (taken.map Item.text)⟩ :: given, positions, left)

/-! ## Options -/

/-- Options of one letter that stand together: those without a value, and the last one with the
text joined to it, if it takes a value and there is one. -/
def letters (specs : List OptionSpec) (spec : OptionSpec) (isLetter : Bool) :
    Text → Except Stop (List OptionSpec × OptionSpec × Option Text)
  | [] => if spec.takesValue then .ok ([], spec, some []) else .error .misuse
  | c :: rest =>
    if spec.takesValue then .ok ([], spec, some (c :: rest))
    else if !isLetter then .error .misuse
    else match named? specs ['-', c], rest with
      | none, _ => .error .misuse
      | some next, [] => .ok ([spec], next, none)
      | some next, d :: more => do
        let (flags, last, joined) ← letters specs next true (d :: more)
        return (spec :: flags, last, joined)

/-- What is given by an option with these values: a value has to be one that it may have. -/
def given (spec : OptionSpec) (values : List Text) : Except Stop Given :=
  if spec.key = helpOption.key then .error .help
  else if values.all spec.admits then .ok ⟨spec.key, values⟩
  else .error .misuse

/-- What an option gives, and the items left behind it. Its value is joined to it or comes next. -/
def takeOption (specs : List OptionSpec) (spec : OptionSpec) (isLetter : Bool)
    (joined : Option Text) (rest : List Item) : Except Stop (List Given × List Item) := do
  let (flags, last, joined) ← match joined with
    | none => .ok ([], spec, none)
    | some t => letters specs spec isLetter t
  let (values, rest) ← match last.takesValue, joined, rest with
    | false, _, rest => .ok ([], rest)
    | true, some t, rest => .ok ([t], rest)
    | true, none, .argument t :: rest => .ok ([t], rest)
    | true, none, _ => .error .misuse
  let before ← flags.mapM (given · [])
  let final ← given last (withoutDivider values)
  return (before ++ [final], rest)

/-- The outcome of reading: what is given, in order, and whether something was not understood. -/
structure Reading where
  given : List Given
  extra : Bool
deriving Repr

/-- Reads items, at most `fuel` runs of them. -/
def readItems (specs : List OptionSpec) :
    Nat → List Positional → List Item → Except Stop Reading
  | 0, _, _ => .error .misuse
  | _ + 1, positions, [] => if positions.isEmpty then .ok ⟨[], false⟩ else .error .misuse
  | fuel + 1, positions, .option spec isLetter joined :: rest => do
    let (now, rest) ← takeOption specs spec isLetter joined rest
    let later ← readItems specs fuel positions rest
    return { later with given := now ++ later.given }
  | fuel + 1, positions, .unknown :: rest => do
    let later ← readItems specs fuel positions rest
    return { later with extra := true }
  | fuel + 1, positions, item :: rest =>
    match takePositions positions (item :: rest) with
    | ([], _, _) => do
      let later ← readItems specs fuel positions (rest.dropWhile Item.isPlain)
      return { later with extra := true }
    | (now, positions, rest) => do
      let later ← readItems specs fuel positions rest
      return { later with given := now ++ later.given }

/-- Reads arguments: what is given by options and positions. Every position has to be filled and
every argument understood. -/
def readArguments (specs : List OptionSpec) (positions : List Positional)
    (arguments : List Text) : Except Stop (List Given) := do
  let specs := helpOption :: specs
  let items ← items specs arguments
  let reading ← readItems specs (items.length + 1) positions items
  if reading.extra then .error .misuse else return reading.given

end Command
end DistroBallot
