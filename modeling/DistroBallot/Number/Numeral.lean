import DistroBallot.Number.Binary64
import DistroBallot.Text.Blank
import DistroBallot.Text.Digit

/-!
# Reading numerals

A numeral may have blanks around it, a sign, digits of any script, and single low lines between
digits. The information separators do not count as blanks here. An integer numeral has at most
4300 digits. A real numeral may have a fraction and an exponent, or be a word for an infinity or
for not a number.
-/

namespace DistroBallot
namespace Numeral

/-- The most digits that an integer numeral may have. -/
def maxDigits : Nat := 4300

/-- What is said of an integer numeral with more digits than that. -/
def tooLongMessage (count : Nat) : String :=
  s!"Exceeds the limit ({maxDigits} digits) for integer string conversion: value has " ++
    s!"{count} digits; use sys.set_int_max_str_digits() to increase the limit"

/-- What is said of an integer whose numeral would have more digits than that. -/
def unwritableMessage : String :=
  s!"Exceeds the limit ({maxDigits} digits) for integer string conversion; " ++
    "use sys.set_int_max_str_digits() to increase the limit"

/-- The blanks that may stand around a numeral. -/
def isSurround (c : Char) : Bool :=
  isBlank c && !(28 ≤ c.toNat && c.toNat ≤ 31)

/-- The numeral without the blanks around it, in which every digit of another script is replaced
by the ASCII digit of its value. -/
def plain (t : Text) : Text :=
  let inner := ((t.dropWhile isSurround).reverse.dropWhile isSurround).reverse
  inner.map (fun c => match digitValue? c with
    | some v => Nat.digitChar v
    | none => c)

/-- The numeral that bytes write; all of them have to be ASCII. -/
def ofBytes? (bytes : List UInt8) : Option Text :=
  bytes.mapM fun b => if b.toNat < 0x80 then some (Char.ofNat b.toNat) else none

/-- The sign in front, and the rest. -/
def splitSign : Text → Bool × Text
  | '-' :: rest => (true, rest)
  | '+' :: rest => (false, rest)
  | t => (false, t)

/-- The text without its low lines, if each of them stands between two digits. `previous` is
whether the character before is a digit. -/
def joinDigits (previous : Bool) : Text → Option Text
  | [] => some []
  | '_' :: c :: rest =>
    if previous && c.isDigit then (joinDigits true rest).map (c :: ·) else none
  | '_' :: [] => none
  | c :: rest => (joinDigits c.isDigit rest).map (c :: ·)

/-- The value of a text of ASCII digits. -/
def digitsValue (t : Text) : Nat :=
  t.foldl (fun v c => 10 * v + (c.toNat - 48)) 0

/-- Why a text is not the numeral of an integer. -/
inductive IntError where
  | malformed
  | tooLong
deriving DecidableEq, Repr

/-- The integer that a text writes. -/
def readInt (t : Text) : Except IntError Int :=
  let (negative, unsigned) := splitSign (plain t)
  match joinDigits false unsigned with
  | none => .error .malformed
  | some digits =>
    if digits.isEmpty || !digits.all Char.isDigit then .error .malformed
    else if maxDigits < digits.length then .error .tooLong
    else .ok (if negative then -(digitsValue digits : Int) else digitsValue digits)

/-- The digits at the front of the text and the rest. -/
def takeDigits (t : Text) : Text × Text :=
  (t.takeWhile Char.isDigit, t.dropWhile Char.isDigit)

/-- The exponent that is written after `e`; none if no digits follow. -/
def readExponent? (t : Text) : Option Int :=
  let (negative, digits) := splitSign t
  if digits.isEmpty || !digits.all Char.isDigit then none
  else some (if negative then -(digitsValue digits : Int) else digitsValue digits)

/-- The number written by digits with an optional point and exponent: at least one digit before
the exponent, and at least one in it. -/
def readUnsignedReal? (negative : Bool) (t : Text) : Option Binary64 :=
  let (whole, afterWhole) := takeDigits t
  let (fraction, afterFraction) :=
    match afterWhole with
    | '.' :: rest => takeDigits rest
    | rest => ([], rest)
  if whole.isEmpty && fraction.isEmpty then none
  else
    let build (exponent : Int) : Binary64 :=
      Binary64.ofDecimal negative (digitsValue (whole ++ fraction)) (exponent - fraction.length)
    match afterFraction with
    | [] => some (build 0)
    | c :: rest => if c == 'e' || c == 'E' then (readExponent? rest).map build else none

/-- The double-precision number that a text writes. -/
def readReal? (t : Text) : Option Binary64 :=
  let (negative, unsigned) := splitSign (plain t)
  let word := unsigned.map Char.toLower
  if word == "inf".toList || word == "infinity".toList then some (.infinite negative)
  else if word == "nan".toList then some .nan
  else (joinDigits false unsigned).bind (readUnsignedReal? negative)

end Numeral
end DistroBallot
