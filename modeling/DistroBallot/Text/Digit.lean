import DistroBallot.Text.Basic

/-!
# Digits

The decimal digits of Unicode 14 come in rows of ten, a row for each script, in the order of
their values; so the first point of each row says it all. Hexadecimal digits are those of ASCII.
-/

namespace DistroBallot

/-- The digits zero, each followed by the other nine of its row. -/
def zeroDigits : List Nat := [
  48, 1632, 1776, 1984, 2406, 2534, 2662, 2790, 2918, 3046, 3174, 3302, 3430, 3558, 3664, 3792,
  3872, 4160, 4240, 6112, 6160, 6470, 6608, 6784, 6800, 6992, 7088, 7232, 7248, 42528, 43216,
  43264, 43472, 43504, 43600, 44016, 65296, 66720, 68912, 69734, 69872, 69942, 70096, 70384,
  70736, 70864, 71248, 71360, 71472, 71904, 72016, 72784, 73040, 73120, 92768, 92864, 93008,
  120782, 120792, 120802, 120812, 120822, 123200, 123632, 125264, 130032]

/-- The row of digits, given by its zero, in which the point `n` stands. -/
def digitRow? (n : Nat) : Option Nat :=
  zeroDigits.find? (fun first => decide (first ≤ n) && decide (n < first + 10))

/-- The value of a decimal digit of any script. -/
def digitValue? (c : Char) : Option Nat :=
  (digitRow? c.toNat).map (c.toNat - ·)

/-- The value of a hexadecimal digit. -/
def hexDigit? (c : Char) : Option Nat :=
  if c.isDigit then some (c.toNat - 48)
  else if 'a' ≤ c && c ≤ 'f' then some (c.toNat - 87)
  else if 'A' ≤ c && c ≤ 'F' then some (c.toNat - 55)
  else none

end DistroBallot
