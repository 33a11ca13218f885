import DistroBallot.Version.Component

/-!
# The order of versions

Two versions are compared at the first place where their components differ, the shorter version
being continued by zeros. There the classes decide, then the magnitudes of numbers, and of two
words the first letters without regard to case. Words with the same first letter *tie*: the
versions count as equal and nothing after them is looked at. So being equal is not transitive,
while being older is.
-/

namespace DistroBallot
namespace Component

/-- The first letter of a word as a number, without regard to case. -/
def initial : Text → Nat
  | [] => 0
  | c :: _ => c.toLower.toNat

/-- The order of two digit texts without leading zeros: the longer is greater, and texts of one
length go by their digits. -/
def compareDigits (a b : Text) : Ordering :=
  (compare a.length b.length).then (compareOfLessAndEq a b)

/-- The order of two components at the place where two versions first differ. -/
def order (a b : Component) : Ordering :=
  match a, b with
  | .number x, .number y => compareDigits x y
  | .preRelease x, .preRelease y => compare (initial x) (initial y)
  | .postRelease x, .postRelease y => compare (initial x) (initial y)
  | .letterSuffix x, .letterSuffix y => compare (initial x) (initial y)
  | a, b => compare a.rank.level b.rank.level

end Component

namespace Version

/-- The components side by side, the shorter list continued by zeros. -/
def align : List Component → List Component → List (Component × Component)
  | [], bs => bs.map (fun b => (.zero, b))
  | a :: as, [] => (a :: as).map (fun x => (x, .zero))
  | a :: as, b :: bs => (a, b) :: align as bs

/-- The order of aligned components: that of the first pair that differs. -/
def orderAligned : List (Component × Component) → Ordering
  | [] => .eq
  | (a, b) :: rest => if a = b then orderAligned rest else a.order b

/-- The order of two versions. -/
def compare (v w : Text) : Ordering :=
  orderAligned (align (components v) (components w))

/-- Whether `v` is strictly older than `w`. -/
def isOlder (v w : Text) : Bool :=
  compare v w == .lt

end Version
end DistroBallot
