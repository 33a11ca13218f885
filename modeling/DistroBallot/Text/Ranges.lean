/-!
# Sets of characters by their boundaries

A set of code points is given by the increasing list of the points where membership changes:
the first member, the first non-member after it, and so on.
-/

namespace DistroBallot

/-- Whether `n` is in the set that starts as `inside` says and changes at every boundary. -/
def changesBefore (inside : Bool) : List Nat → Nat → Bool
  | [], _ => inside
  | b :: rest, n => if n < b then inside else changesBefore (!inside) rest n

/-- Membership in the set with these boundaries. -/
def inBoundaries (boundaries : List Nat) (c : Char) : Bool :=
  changesBefore false boundaries c.toNat

end DistroBallot
