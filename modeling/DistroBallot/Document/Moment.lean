import DistroBallot.Text.Basic

/-!
# Moments

A moment is a day of the calendar, and may have a time of day, which may say how far its zone is
ahead of universal time. `Moment.check` says what is wrong with one that cannot be: the offset is
looked at first and then the parts from the year to the second.

`Moment.text` is how a moment stands in a sentence and `Moment.constructed` how it stands where its
kind matters.
-/

namespace DistroBallot

/-- A time of day, with the minutes by which its zone is ahead of universal time if it names a
zone. -/
structure ClockTime where
  hour : Nat
  minute : Nat
  second : Nat
  microsecond : Nat
  offset : Option Int
deriving DecidableEq, Repr

/-- A day, perhaps with a time. -/
structure Moment where
  year : Nat
  month : Nat
  day : Nat
  time : Option ClockTime
deriving DecidableEq, Repr

/-- A number in decimal digits, filled up to a width with zeros. -/
def paddedNumber (width n : Nat) : Text :=
  let digits := Nat.toDigits 10 n
  List.replicate (width - digits.length) '0' ++ digits

namespace Offset

/-- The offset as a span of days and seconds; a span back in time has its days negative only. -/
def span (minutes : Int) : Text :=
  let days := minutes.fdiv 1440
  let seconds := 60 * minutes.fmod 1440
  let parts :=
    (if days = 0 then [] else ["days=".toList ++ (toString days).toList]) ++
      (if seconds = 0 then [] else ["seconds=".toList ++ (toString seconds).toList])
  "datetime.timedelta(".toList ++
    (if parts.isEmpty then ['0'] else Text.join ", ".toList parts) ++ [')']

/-- The offset as a zone. -/
def zone (minutes : Int) : Text :=
  if minutes = 0 then "datetime.timezone.utc".toList
  else "datetime.timezone(".toList ++ span minutes ++ [')']

/-- The offset behind a time: a sign, hours and minutes. -/
def text (minutes : Int) : Text :=
  let n := minutes.natAbs
  (if minutes < 0 then '-' else '+') :: paddedNumber 2 (n / 60) ++ ':' :: paddedNumber 2 (n % 60)

end Offset

/-- Why parts make no moment. -/
inductive MomentError where
  | offset (minutes : Int)
  | year (n : Nat)
  | month
  | day
  | hour
  | minute
  | second
deriving DecidableEq, Repr

/-- The message for an error. -/
def MomentError.message : MomentError → String
  | .offset minutes =>
    "offset must be a timedelta strictly between -timedelta(hours=24) and timedelta(hours=24), " ++
      s!"not {String.ofList (Offset.span minutes)}."
  | .year n => s!"year {n} is out of range"
  | .month => "month must be in 1..12"
  | .day => "day is out of range for month"
  | .hour => "hour must be in 0..23"
  | .minute => "minute must be in 0..59"
  | .second => "second must be in 0..59"

namespace Moment

/-! ## The calendar -/

/-- Whether a year has a 29th of February. -/
def isLeap (year : Nat) : Bool :=
  year % 4 == 0 && (year % 100 != 0 || year % 400 == 0)

/-- The number of days of a month. -/
def daysIn (year month : Nat) : Nat :=
  if month = 2 then if isLeap year then 29 else 28
  else if [4, 6, 9, 11].contains month then 30
  else 31

/-- What is wrong with an offset: it has to be less than a day. -/
def offsetError? (minutes : Int) : Option MomentError :=
  if -1440 < minutes ∧ minutes < 1440 then none else some (.offset minutes)

/-- What is wrong with the day of a moment. -/
def dayError? (m : Moment) : Option MomentError :=
  if m.year = 0 then some (.year m.year)
  else if m.month = 0 ∨ 12 < m.month then some .month
  else if m.day = 0 ∨ daysIn m.year m.month < m.day then some .day
  else none

/-- What is wrong with a time apart from its offset. -/
def timeError? (t : ClockTime) : Option MomentError :=
  if 23 < t.hour then some .hour
  else if 59 < t.minute then some .minute
  else if 59 < t.second then some .second
  else none

/-- The moment, if it can be one. -/
def check (m : Moment) : Except MomentError Moment :=
  let errors := ((m.time.bind ClockTime.offset).bind offsetError?).toList ++
    m.dayError?.toList ++ (m.time.bind timeError?).toList
  match errors with
  | [] => .ok m
  | e :: _ => .error e

/-! ## Texts -/

/-- A time of day; fractions of a second and the offset are written where there are any. -/
def timeText (t : ClockTime) : Text :=
  paddedNumber 2 t.hour ++ ':' :: paddedNumber 2 t.minute ++ ':' :: paddedNumber 2 t.second ++
    (if t.microsecond = 0 then [] else '.' :: paddedNumber 6 t.microsecond) ++
    (match t.offset with
      | none => []
      | some minutes => Offset.text minutes)

/-- The moment as it stands in a sentence. -/
def text (m : Moment) : Text :=
  paddedNumber 4 m.year ++ '-' :: paddedNumber 2 m.month ++ '-' :: paddedNumber 2 m.day ++
    (match m.time with
      | none => []
      | some t => ' ' :: timeText t)

/-- The parts of a time that are written: seconds only if they or what follows are not zero. -/
def timeParts (t : ClockTime) : List Nat :=
  [t.hour, t.minute] ++
    (if t.microsecond ≠ 0 then [t.second, t.microsecond]
      else if t.second ≠ 0 then [t.second]
      else [])

/-- The moment with its kind and the list of its parts. -/
def constructed (m : Moment) : Text :=
  let (kind, more, offset) := match m.time with
    | none => ("datetime.date(".toList, [], none)
    | some t => ("datetime.datetime(".toList, timeParts t, t.offset)
  let numbers := ([m.year, m.month, m.day] ++ more).map (Nat.toDigits 10)
  let zone := match offset with
    | none => []
    | some minutes => ["tzinfo=".toList ++ Offset.zone minutes]
  kind ++ Text.join ", ".toList (numbers ++ zone) ++ [')']

/-- The name of the kind of a moment. -/
def kindName (m : Moment) : String := if m.time.isSome then "datetime" else "date"

end Moment
end DistroBallot
