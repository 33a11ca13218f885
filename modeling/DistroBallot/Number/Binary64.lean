/-!
# Double-precision numbers

A finite number is a sign with a magnitude `significand * 2 ^ exponent`. Numbers are kept
*canonical*: the significand is below `2 ^ 53` and the exponent at least `-1074`, and either the
significand is at least `2 ^ 52` or the exponent is `-1074`. So each number has one form, and both
zeros are kept apart by their signs.

Every operation computes an exact rational and rounds it once, to the nearest number with ties to
the even significand (`Binary64.ofRatio`). Comparison is exact, also with integers of any size.
-/

namespace DistroBallot

/-- A double-precision number: finite, infinite, or not a number. -/
inductive Binary64 where
  | finite (negative : Bool) (significand : Nat) (exponent : Int)
  | infinite (negative : Bool)
  | nan
deriving DecidableEq, Repr, Inhabited

namespace Binary64

/-! ## Rounding -/

/-- The exponent of the least positive number, which is `2 ^ leastExponent`. -/
def leastExponent : Int := -1074

/-- The exponent of the greatest finite numbers. -/
def greatestExponent : Int := 971

/-- Zero with a sign. -/
def zero (negative : Bool) : Binary64 := .finite negative 0 leastExponent

/-- The quotient rounded to the nearest integer, halves to the even one. -/
def roundQuotient (num den : Nat) : Nat :=
  let quotient := num / den
  let rest := num % den
  if 2 * rest < den then quotient
  else if den < 2 * rest then quotient + 1
  else if quotient % 2 = 0 then quotient else quotient + 1

/-- Numerator and denominator of a quotient divided by `2 ^ exponent`. -/
def scaleDown (num den : Nat) (exponent : Int) : Nat × Nat :=
  if 0 ≤ exponent then (num, den * Nat.pow 2 exponent.toNat)
  else (num * Nat.pow 2 (-exponent).toNat, den)

/-- The exponent `e` with `2 ^ e ≤ num / den < 2 ^ (e + 1)`, for positive `num` and `den`. -/
def binaryOrder (num den : Nat) : Int :=
  let guess : Int := (num.log2 : Int) - den.log2
  let (n, d) := scaleDown num den guess
  if d ≤ n then guess else guess - 1

/-- The number nearest to `num / den` with the given sign, ties to the even significand; beyond
the greatest finite number it is infinite. The denominator is positive. -/
def ofRatio (negative : Bool) (num den : Nat) : Binary64 :=
  if num = 0 then zero negative
  else
    let exponent := max (binaryOrder num den - 52) leastExponent
    let (n, d) := scaleDown num den exponent
    let significand := roundQuotient n d
    let (significand, exponent) :=
      if significand = Nat.pow 2 53 then (Nat.pow 2 52, exponent + 1) else (significand, exponent)
    if greatestExponent < exponent then .infinite negative
    else .finite negative significand exponent

/-- The number nearest to `magnitude * 2 ^ exponent`. -/
def ofDyadic (negative : Bool) (magnitude : Nat) (exponent : Int) : Binary64 :=
  let (n, d) := scaleDown magnitude 1 (-exponent)
  ofRatio negative n d

/-- The number nearest to an integer; infinite when the integer is out of range. -/
def ofInt (n : Int) : Binary64 :=
  ofRatio (decide (n < 0)) n.natAbs 1

/-- The number nearest to an integer, if the integer is in range. -/
def ofInt? (n : Int) : Option Binary64 :=
  match ofInt n with
  | .infinite _ => none
  | x => some x

/-- The number nearest to `digits * 10 ^ exponent`. Decimals far out of range are told by their
length alone, so that no great power of ten is computed. -/
def ofDecimal (negative : Bool) (digits : Nat) (exponent : Int) : Binary64 :=
  let order : Int := (Nat.toDigits 10 digits).length + exponent
  if digits = 0 || order < -330 then zero negative
  else if 310 < order then .infinite negative
  else if 0 ≤ exponent then ofRatio negative (digits * Nat.pow 10 exponent.toNat) 1
  else ofRatio negative digits (Nat.pow 10 (-exponent).toNat)

/-! ## Exact values -/

/-- `value * 2 ^ exponent` over `2 ^ unit`, for `unit ≤ exponent`. -/
def inUnits (value exponent unit : Int) : Int :=
  value * Nat.pow 2 (exponent - unit).toNat

/-- Exact order of `a * 2 ^ e` and `b * 2 ^ f`. -/
def compareDyadic (a e b f : Int) : Ordering :=
  compare (inUnits a e (min e f)) (inUnits b f (min e f))

/-- The sign as a comparison with zero: an infinity against any finite value. -/
def infiniteOrder (negative : Bool) : Ordering :=
  if negative then .lt else .gt

/-- The order of two numbers; none where one of them is not a number. -/
def compare? : Binary64 → Binary64 → Option Ordering
  | .nan, _ => none
  | _, .nan => none
  | .infinite a, .infinite b => some (if a = b then .eq else infiniteOrder a)
  | .infinite a, .finite .. => some (infiniteOrder a)
  | .finite .., .infinite b => some (infiniteOrder b).swap
  | .finite na a e, .finite nb b f =>
    some (compareDyadic (if na then -(a : Int) else a) e (if nb then -(b : Int) else b) f)

/-- The order of a number and an integer, without rounding the integer. -/
def compareInt? (x : Binary64) (n : Int) : Option Ordering :=
  match x with
  | .nan => none
  | .infinite negative => some (infiniteOrder negative)
  | .finite negative a e => some (compareDyadic (if negative then -(a : Int) else a) e n 0)

/-- The integer part, toward zero; none for the numbers that are not finite. -/
def truncate? : Binary64 → Option Int
  | .finite negative significand exponent =>
    let (n, d) := scaleDown significand 1 (-exponent)
    let whole : Int := (n / d : Nat)
    some (if negative then -whole else whole)
  | _ => none

/-- Whether the number is a zero of either sign. -/
def isZero : Binary64 → Bool
  | .finite _ significand _ => significand == 0
  | _ => false

/-! ## Arithmetic -/

/-- The number with the other sign. -/
def neg : Binary64 → Binary64
  | .finite negative significand exponent => .finite (!negative) significand exponent
  | .infinite negative => .infinite (!negative)
  | .nan => .nan

/-- The sum, rounded once. A sum of zero is negative only if both terms are negative. -/
def add : Binary64 → Binary64 → Binary64
  | .nan, _ => .nan
  | _, .nan => .nan
  | .infinite a, .infinite b => if a = b then .infinite a else .nan
  | .infinite a, .finite .. => .infinite a
  | .finite .., .infinite b => .infinite b
  | .finite na a e, .finite nb b f =>
    let unit := min e f
    let sum := inUnits (if na then -(a : Int) else a) e unit +
      inUnits (if nb then -(b : Int) else b) f unit
    if sum = 0 then zero (na && nb) else ofDyadic (decide (sum < 0)) sum.natAbs unit

/-- The difference, rounded once. -/
def sub (x y : Binary64) : Binary64 :=
  add x (neg y)

/-- The product, rounded once. -/
def mul : Binary64 → Binary64 → Binary64
  | .nan, _ => .nan
  | _, .nan => .nan
  | .infinite a, .infinite b => .infinite (a != b)
  | .infinite a, .finite nb b _ => if b = 0 then .nan else .infinite (a != nb)
  | .finite na a _, .infinite b => if a = 0 then .nan else .infinite (na != b)
  | .finite na a e, .finite nb b f => ofDyadic (na != nb) (a * b) (e + f)

end Binary64
end DistroBallot
