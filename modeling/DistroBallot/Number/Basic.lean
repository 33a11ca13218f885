import DistroBallot.Number.Binary64

/-!
# Numbers

A number is an integer of any size or a double-precision number. Integers stay integers under
addition, subtraction and multiplication; as soon as one operand is double-precision the other is
rounded to it, and there is no result if it is out of range. Comparison is exact in every case.
-/

namespace DistroBallot

/-- An integer or a double-precision number. -/
inductive Number where
  | int (n : Int)
  | real (x : Binary64)
deriving DecidableEq, Repr, Inhabited

namespace Number

/-- The double-precision number nearest to a number, if the number is in range. -/
def toReal? : Number → Option Binary64
  | .int n => Binary64.ofInt? n
  | .real x => some x

/-- The sum, if there is one. -/
def add? : Number → Number → Option Number
  | .int m, .int n => some (.int (m + n))
  | a, b => do return .real ((← a.toReal?).add (← b.toReal?))

/-- The difference, if there is one. -/
def sub? : Number → Number → Option Number
  | .int m, .int n => some (.int (m - n))
  | a, b => do return .real ((← a.toReal?).sub (← b.toReal?))

/-- The product, if there is one. -/
def mul? : Number → Number → Option Number
  | .int m, .int n => some (.int (m * n))
  | a, b => do return .real ((← a.toReal?).mul (← b.toReal?))

/-- The order of two numbers; none where one of them is not a number. -/
def compare? : Number → Number → Option Ordering
  | .int m, .int n => some (compare m n)
  | .int m, .real y => (y.compareInt? m).map Ordering.swap
  | .real x, .int n => x.compareInt? n
  | .real x, .real y => x.compare? y

/-- Whether the first number is less than the second. -/
def isLess (a b : Number) : Bool :=
  a.compare? b == some .lt

end Number
end DistroBallot
