import DistroBallot.Document.Moment
import DistroBallot.Number.Numeral

/-!
# Timestamps

A plain scalar can write a moment: a date alone, with two digits for month and day; or a date and a
time, where month, day and hour may have one digit. Between them stands the letter `t` or blanks,
behind the seconds may stand a fraction, and at the end a zone: the letter `Z`, or a sign with hours
and perhaps minutes.

`Timestamp.read?` tells whether a text is written like one; whether there is such a moment is
another matter.
-/

namespace DistroBallot
namespace Yaml
namespace Timestamp

/-- The number at the start of a text, of so many digits, and what follows it. -/
def takeNumber? (least most : Nat) (t : Text) : Option (Nat × Text) :=
  let (digits, rest) := Numeral.takeDigits t
  if least ≤ digits.length && digits.length ≤ most then some (Numeral.digitsValue digits, rest)
  else none

/-- What follows a character at the start of a text. -/
def takeChar? (c : Char) : Text → Option Text
  | d :: rest => if d = c then some rest else none
  | [] => none

/-- The date at the start of a text, with at least so many digits for month and day, and what
follows it. -/
def takeDate? (least : Nat) (t : Text) : Option (Moment × Text) := do
  let (year, t) ← takeNumber? 4 4 t
  let t ← takeChar? '-' t
  let (month, t) ← takeNumber? least 2 t
  let t ← takeChar? '-' t
  let (day, t) ← takeNumber? least 2 t
  return (⟨year, month, day, none⟩, t)

/-- Whether a character is a space or a tabulation. -/
def isBlankChar (c : Char) : Bool := c == ' ' || c == '\t'

/-- What follows the sign between date and time. -/
def takeDivider? : Text → Option Text
  | [] => none
  | c :: rest =>
    if c == 'T' || c == 't' then some rest
    else if isBlankChar c then some (rest.dropWhile isBlankChar)
    else none

/-- The microseconds that the digits of a fraction of a second write, of which six count. -/
def microseconds (digits : Text) : Nat :=
  let first := digits.take 6
  Numeral.digitsValue first * Nat.pow 10 (6 - first.length)

/-- The fraction of a second at the start of a text, and what follows it. -/
def takeFraction (t : Text) : Nat × Text :=
  match t with
  | '.' :: rest =>
    let (digits, more) := Numeral.takeDigits rest
    (microseconds digits, more)
  | _ => (0, t)

/-- The offset that hours and perhaps minutes write, to the end of the text. -/
def readOffset? (t : Text) : Option Int := do
  let (hours, t) ← takeNumber? 1 2 t
  match t with
  | [] => return 60 * hours
  | ':' :: rest =>
    let (minutes, more) ← takeNumber? 2 2 rest
    if more.isEmpty then return 60 * hours + minutes else none
  | _ => none

/-- The zone to the end of the text; the answer in it is none where there is no zone. -/
def readZone? (t : Text) : Option (Option Int) :=
  match t.dropWhile isBlankChar with
  | [] => some none
  | ['Z'] => some (some 0)
  | '+' :: rest => (readOffset? rest).map some
  | '-' :: rest => (readOffset? rest).map fun minutes => some (-minutes)
  | _ => none

/-- The time to the end of the text. -/
def readTime? (t : Text) : Option ClockTime := do
  let (hour, t) ← takeNumber? 1 2 t
  let t ← takeChar? ':' t
  let (minute, t) ← takeNumber? 2 2 t
  let t ← takeChar? ':' t
  let (second, t) ← takeNumber? 2 2 t
  let (microsecond, t) := takeFraction t
  let offset ← readZone? t
  return ⟨hour, minute, second, microsecond, offset⟩

/-- The day that the whole text writes. -/
def readDay? (t : Text) : Option Moment := do
  let (day, rest) ← takeDate? 2 t
  if rest.isEmpty then return day else none

/-- The day and time that the whole text writes. -/
def readDayTime? (t : Text) : Option Moment := do
  let (day, rest) ← takeDate? 1 t
  let rest ← takeDivider? rest
  let time ← readTime? rest
  return { day with time := some time }

/-- The moment that a text is written like. -/
def read? (t : Text) : Option Moment := (readDay? t).or (readDayTime? t)

end Timestamp
end Yaml
end DistroBallot
