import DistroBallot.Document.Value
import DistroBallot.Document.Yaml.Fault
import DistroBallot.Document.Yaml.Timestamp
import DistroBallot.Text.Digit

/-!
# The values of plain scalars

A plain scalar is null, a truth value, a number or a moment if it is written like one, and else a
text. What is written like a number or a moment but is none is a fault. Integers are decimal, binary, octal after a zero, hexadecimal, or in groups to the base sixty;
low lines may stand between their digits. A real number has a point.
-/

namespace DistroBallot
namespace Yaml

/-- Digits and low lines. -/
def isDigitOrLine (c : Char) : Bool := c.isDigit || c == '_'

/-- A digit, then digits and low lines. -/
def isDecimal : Text → Bool
  | c :: rest => c.isDigit && rest.all isDigitOrLine
  | [] => false

/-- A number below sixty in one or two digits. -/
def isSixtieth : Text → Bool
  | [c] => c.isDigit
  | [c, d] => '0' ≤ c && c ≤ '5' && d.isDigit
  | _ => false

/-- The value of digits to a base. -/
def inBase (base : Nat) (digits : Text) : Nat :=
  digits.foldl (fun v c => base * v + (hexDigit? c).getD 0) 0

/-- The integer that digits write to a base other than ten; low lines alone are no digits. -/
def basedInteger (base : Nat) (digits : Text) : Except ScalarFault Nat :=
  let digits := digits.filter (· != '_')
  if digits.isEmpty then .error (.noDigits base) else .ok (inBase base digits)

/-- The integer that decimal digits write, up to the limit of numerals. -/
def decimalInteger (digits : Text) : Except ScalarFault Nat :=
  let digits := digits.filter (· != '_')
  if Numeral.maxDigits < digits.length then .error (.tooManyDigits digits.length)
  else .ok (Numeral.digitsValue digits)

/-- The value of groups to the base sixty. -/
def sixtiethsInteger (groups : List Text) : Except ScalarFault Nat :=
  groups.foldlM (fun v group => (decimalInteger group).map (60 * v + ·)) 0

/-- The integer that a text without sign writes, if it is written like one. -/
def unsignedInteger? (t : Text) : Option (Except ScalarFault Nat) :=
  match t with
  | ['0'] => some (.ok 0)
  | '0' :: 'b' :: digits =>
    if !digits.isEmpty && digits.all (fun c => c == '0' || c == '1' || c == '_') then
      some (basedInteger 2 digits)
    else none
  | '0' :: 'x' :: digits =>
    if !digits.isEmpty && digits.all (fun c => (hexDigit? c).isSome || c == '_') then
      some (basedInteger 16 digits)
    else none
  | '0' :: digits =>
    if !digits.isEmpty && digits.all (fun c => ('0' ≤ c && c ≤ '7') || c == '_') then
      some (.ok (inBase 8 (digits.filter (· != '_'))))
    else none
  | t =>
    match Text.pieces (· != ':') t with
    | [digits] => if isDecimal digits then some (decimalInteger digits) else none
    | first :: groups =>
      if isDecimal first && groups.all isSixtieth then some (sixtiethsInteger (first :: groups))
      else none
    | [] => none

/-- Whether a text is nothing or an exponent with a sign. -/
def isExponent : Text → Bool
  | [] => true
  | c :: sign :: digits =>
    (c == 'e' || c == 'E') && (sign == '-' || sign == '+') && !digits.isEmpty &&
      digits.all Char.isDigit
  | _ => false

/-- The real number that digits with a point write. -/
def pointedReal? (t : Text) : Option Binary64 :=
  Numeral.readUnsignedReal? false (t.filter (· != '_'))

/-- The sum of the multiples of parts, the first of which stands at `place` to the base sixty, and
what was summed before. The power of sixty has to be in range. -/
def sumSixtieths (place : Nat) (before : Binary64) : List Binary64 → Except ScalarFault Binary64
  | [] => .ok before
  | part :: rest =>
    match Binary64.ofInt? (Nat.pow 60 place) with
    | some power => sumSixtieths (place + 1) (before.add (part.mul power)) rest
    | none => .error .outOfRange

/-- The real number of groups to the base sixty, the last of which has a point: the sum of their
multiples, from the last group on. -/
def sixtiethsReal? (groups : List Text) : Option (Except ScalarFault Binary64) :=
  ((groups.reverse).mapM pointedReal?).map (sumSixtieths 0 (Binary64.zero false))

/-- The real number that a text without sign writes, if it is written like one: digits, a point
and perhaps more, or groups to the base sixty. -/
def unsignedReal? (t : Text) : Option (Except ScalarFault Binary64) :=
  match Text.cutAt '.' t with
  | (_, none) => none
  | (whole, some fraction) =>
    match Text.pieces (· != ':') whole with
    | [digits] =>
      if isDecimal digits && isExponent (fraction.dropWhile isDigitOrLine) then
        (pointedReal? t).map .ok
      else none
    | first :: groups =>
      if isDecimal first && groups.all isSixtieth && fraction.all isDigitOrLine then
        sixtiethsReal? (Text.pieces (· != ':') t)
      else none
    | [] => none

/-- The real number that a text writes, if it is written like one. -/
def real? (t : Text) : Option (Except ScalarFault Binary64) :=
  let (negative, unsigned) := Numeral.splitSign t
  if [".inf", ".Inf", ".INF"].contains (String.ofList unsigned) then some (.ok (.infinite negative))
  else if [".nan", ".NaN", ".NAN"].contains (String.ofList t) then some (.ok .nan)
  else match t with
    | '.' :: fraction =>
      if isDecimal (fraction.takeWhile isDigitOrLine) &&
        isExponent (fraction.dropWhile isDigitOrLine) then (pointedReal? t).map .ok
      else none
    | _ => (unsignedReal? unsigned).map (·.map fun x => if negative then x.neg else x)

/-- The words for truth values. -/
def truthWords : List (String × Bool) :=
  [("yes", true), ("Yes", true), ("YES", true), ("no", false), ("No", false), ("NO", false),
    ("true", true), ("True", true), ("TRUE", true), ("false", false), ("False", false),
    ("FALSE", false), ("on", true), ("On", true), ("ON", true), ("off", false), ("Off", false),
    ("OFF", false)]

/-- The words for null; the empty scalar is one. -/
def nullWords : List String := ["", "~", "null", "Null", "NULL"]

/-- The sign that merges a map into another. -/
def mergeSign : Text := "<<".toList

/-- The sign that stands for itself as a key only. -/
def ownSign : Text := "=".toList

/-- The number that a text writes, if it is written like one. -/
def number? (t : Text) : Option (Except ScalarFault Value) :=
  let (negative, unsigned) := Numeral.splitSign t
  match real? t, unsignedInteger? unsigned with
  | some x, _ => some (x.map .real)
  | none, some n => some (n.map fun n => .int (if negative then -(n : Int) else n))
  | none, none => none

/-- The moment that a text writes, if it is written like one. -/
def moment? (t : Text) : Option (Except ScalarFault Value) :=
  (Timestamp.read? t).map fun m => (m.check.mapError .noMoment).map .moment

/-- The value of a plain scalar. The two signs have none. -/
def plainValue (t : Text) : Except Error Value :=
  if nullWords.contains (String.ofList t) then .ok .null
  else if t = mergeSign ∨ t = ownSign then .error .malformed
  else match truthWords.lookup (String.ofList t), (number? t).or (moment? t) with
    | some b, _ => .ok (.bool b)
    | none, some v => v.mapError .scalar
    | none, none => .ok (.text t)

end Yaml
end DistroBallot
