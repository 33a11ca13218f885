import DistroBallot.Text.Basic

/-!
# Version components

A version is read as segments: gaps, runs of digits and runs of letters (`Version.segments`).
Each run of digits or letters is one component. A run of letters is told by keyword first; an
unknown word that ends its token right after a number is a suffix of that number, and any other
unknown word marks a release that comes before.

Digits stay text without their leading zeros, so that runs of any length are compared exactly.
-/

namespace DistroBallot

/-- The class of a component; an earlier one sorts older. -/
inductive Rank where
  | preRelease
  | zero
  | postRelease
  | number
  | letterSuffix
deriving DecidableEq, Repr

/-- The place of a class among the classes. -/
def Rank.level : Rank → Nat
  | .preRelease => 0
  | .zero => 1
  | .postRelease => 2
  | .number => 3
  | .letterSuffix => 4

/-- A ranked piece of a version. A number holds its digits without leading zeros. -/
inductive Component where
  | preRelease (word : Text)
  | zero
  | postRelease (word : Text)
  | number (digits : Text)
  | letterSuffix (word : Text)
deriving DecidableEq, Repr

/-- The class of a component. -/
def Component.rank : Component → Rank
  | .preRelease _ => .preRelease
  | .zero => .zero
  | .postRelease _ => .postRelease
  | .number _ => .number
  | .letterSuffix _ => .letterSuffix

namespace Version

/-! ## Segments -/

/-- A maximal run of ASCII digits, of ASCII letters, or of other characters. -/
inductive Segment where
  | gap
  | digits (run : Text)
  | letters (run : Text)
deriving DecidableEq, Repr

/-- Puts a character in front of segments. -/
def pushChar (c : Char) (segments : List Segment) : List Segment :=
  if c.isDigit then
    match segments with
    | .digits run :: rest => .digits (c :: run) :: rest
    | rest => .digits [c] :: rest
  else if c.isAlpha then
    match segments with
    | .letters run :: rest => .letters (c :: run) :: rest
    | rest => .letters [c] :: rest
  else
    match segments with
    | .gap :: rest => .gap :: rest
    | rest => .gap :: rest

/-- The segments of a version. -/
def segments (v : Text) : List Segment :=
  v.foldr pushChar []

@[simp] theorem segments_nil : segments [] = [] := rfl

@[simp] theorem segments_cons (c : Char) (v : Text) :
    segments (c :: v) = pushChar c (segments v) := rfl

/-! ## Components -/

/-- The words that mark a release before the one they are attached to. -/
def preReleaseWords : List Text :=
  ["alpha".toList, "beta".toList, "rc".toList, "pre".toList]

/-- The words that mark a release after the one they are attached to. -/
def postReleaseWords : List Text :=
  ["patch".toList, "post".toList, "pl".toList, "errata".toList]

/-- The component of a run of digits. -/
def ofDigits (run : Text) : Component :=
  match run.dropWhile (· == '0') with
  | [] => .zero
  | digits => .number digits

/-- The component of a run of letters. It is a `suffix` when it stands right after a number and
ends its token. -/
def ofLetters (run : Text) (suffix : Bool) : Component :=
  let word := run.map Char.toLower
  if preReleaseWords.contains word then .preRelease run
  else if postReleaseWords.contains word then .postRelease run
  else if suffix then .letterSuffix run
  else .preRelease run

/-- Whether the segments go on with digits. -/
def startsWithDigits : List Segment → Bool
  | .digits _ :: _ => true
  | _ => false

/-- The components of segments, given whether a number stands right before them. -/
def ofSegments (afterNumber : Bool) : List Segment → List Component
  | [] => []
  | .gap :: rest => ofSegments false rest
  | .digits run :: rest => ofDigits run :: ofSegments true rest
  | .letters run :: rest =>
    ofLetters run (afterNumber && !startsWithDigits rest) :: ofSegments false rest

/-- The components of a version. -/
def components (v : Text) : List Component :=
  ofSegments false (segments v)

end Version
end DistroBallot
