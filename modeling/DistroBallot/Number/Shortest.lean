import DistroBallot.Number.Binary64
import DistroBallot.Text.Basic

/-!
# The shortest decimal

`Binary64.shortest` gives the decimal of fewest digits that rounds back to a number; of two such
decimals the nearer, and of two equally near the one with the even last digit. For each count of
digits only the two neighbours of the exact value on that decimal grid are tried: if a point of
the grid rounds to the number, one of these two does.

`Binary64.text` writes it: positionally from `10 ^ -4` up to `10 ^ 16`, always with a point, and
otherwise with an exponent of at least two digits.
-/

namespace DistroBallot
namespace Binary64

/-- A decimal `digits * 10 ^ exponent`. -/
structure Decimal where
  digits : Nat
  exponent : Int
deriving DecidableEq, Repr

/-- How many decimal digits a number is written with. -/
def digitCount (n : Nat) : Nat :=
  (Nat.toDigits 10 n).length

/-- The `p` with `10 ^ (p - 1) ≤ num / den < 10 ^ p`, for positive `num` and `den`. -/
def decimalOrder (num den : Nat) : Int :=
  if den ≤ num then digitCount (num / den)
  else 1 - (digitCount ((den - 1) / num) : Int)

/-- Numerator and denominator of a quotient divided by `10 ^ exponent`. -/
def scaleDecimal (num den : Nat) (exponent : Int) : Nat × Nat :=
  if 0 ≤ exponent then (num, den * Nat.pow 10 exponent.toNat)
  else (num * Nat.pow 10 (-exponent).toNat, den)

/-- The decimal in units of `10 ^ exponent` that is nearest to `num / den` among those that round
to `x`. -/
def onGrid? (x : Binary64) (num den : Nat) (exponent : Int) : Option Decimal :=
  let (n, d) := scaleDecimal num den exponent
  let below := n / d
  let rest := n % d
  let readsBack (digits : Nat) : Bool := ofDecimal false digits exponent == x
  let preferAbove : Bool := decide (d < 2 * rest) || (decide (2 * rest = d) && below % 2 == 1)
  let (first, second) := if preferAbove then (below + 1, below) else (below, below + 1)
  if readsBack first then some ⟨first, exponent⟩
  else if readsBack second then some ⟨second, exponent⟩
  else none

/-- The first grid that holds a decimal which reads back, from `count` digits on; seventeen digits
are enough for every number. -/
def searchGrids (x : Binary64) (num den : Nat) (order : Int) : Nat → Nat → Option Decimal
  | 0, _ => none
  | fuel + 1, count =>
    match onGrid? x num den (order - count) with
    | some decimal => some decimal
    | none => searchGrids x num den order fuel (count + 1)

/-- The shortest decimal that rounds to `significand * 2 ^ exponent`. -/
def shortest (significand : Nat) (exponent : Int) : Decimal :=
  if significand = 0 then ⟨0, 0⟩
  else
    let (num, den) := scaleDown significand 1 (-exponent)
    let order := decimalOrder num den
    (searchGrids (.finite false significand exponent) num den order 17 1).getD ⟨0, 0⟩

/-! ## Writing -/

/-- A decimal point put into the digits after the first `point` of them. -/
def positional (digits : Text) (point : Int) : Text :=
  if point ≤ 0 then
    "0.".toList ++ List.replicate (-point).toNat '0' ++ digits
  else if digits.length ≤ point.toNat then
    digits ++ List.replicate (point.toNat - digits.length) '0' ++ ".0".toList
  else digits.take point.toNat ++ '.' :: digits.drop point.toNat

/-- An exponent with its sign and at least two digits. -/
def exponentText (e : Int) : Text :=
  let digits := Nat.toDigits 10 e.natAbs
  'e' :: (if e < 0 then '-' else '+') :: (if digits.length < 2 then '0' :: digits else digits)

/-- One digit before the point, and the exponent. -/
def scientific (digits : Text) (point : Int) : Text :=
  match digits with
  | [] => exponentText (point - 1)
  | [d] => d :: exponentText (point - 1)
  | d :: rest => d :: '.' :: rest ++ exponentText (point - 1)

/-- The digits without the zeros that end them, and the place of the decimal point among them. -/
def Decimal.layout (decimal : Decimal) : Text × Int :=
  let all := Nat.toDigits 10 decimal.digits
  let point : Int := all.length + decimal.exponent
  match (all.reverse.dropWhile (· == '0')).reverse with
  | [] => (['0'], 1)
  | digits => (digits, point)

/-- The shortest decimal of a magnitude as text. -/
def magnitudeText (significand : Nat) (exponent : Int) : Text :=
  let (digits, point) := (shortest significand exponent).layout
  if -4 < point && point ≤ 16 then positional digits point else scientific digits point

/-- The number as text; the special numbers are `inf`, `-inf` and `nan`. -/
def text : Binary64 → Text
  | .nan => "nan".toList
  | .infinite negative => if negative then "-inf".toList else "inf".toList
  | .finite negative significand exponent =>
    if negative then '-' :: magnitudeText significand exponent
    else magnitudeText significand exponent

end Binary64
end DistroBallot
