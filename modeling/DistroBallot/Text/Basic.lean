/-!
# Text

Text is the list of its characters, so that every operation on it is an operation on lists and
every law about it a law about lists. Strings appear where a message is written for a reader.

The one operation that needs more than the list library is cutting: `Text.pieces` cuts at every
character outside a class and `Text.runs` keeps the pieces that are not empty, the *maximal runs*
of the class.
-/

namespace DistroBallot

/-- Text as the list of its characters. -/
abbrev Text := List Char

namespace Text

/-! ## Cutting into runs -/

/-- The pieces between the characters outside `p`, empty ones included; there is one piece more
than there are such characters. -/
def pieces (p : Char → Bool) : Text → List Text
  | [] => [[]]
  | c :: rest => if p c then (pieces p rest).modifyHead (c :: ·) else [] :: pieces p rest

/-- The maximal runs of characters in `p`, in order. -/
def runs (p : Char → Bool) (t : Text) : List Text :=
  (pieces p t).filter (fun piece => !piece.isEmpty)

@[simp] theorem pieces_nil (p : Char → Bool) : pieces p [] = [[]] := rfl

theorem pieces_ne_nil (p : Char → Bool) (t : Text) : pieces p t ≠ [] := by
  induction t with
  | nil => simp
  | cons c rest ih =>
    rw [pieces]
    split
    · cases h : pieces p rest with
      | nil => exact absurd h ih
      | cons => simp
    · simp

/-- A character outside the class separates: what stands before it and what stands after it are
cut on their own. -/
theorem pieces_append_cons {p : Char → Bool} {c : Char} (h : p c = false) (a b : Text) :
    pieces p (a ++ c :: b) = pieces p a ++ pieces p b := by
  induction a with
  | nil => simp [pieces, h]
  | cons d rest ih =>
    simp only [List.cons_append, pieces, ih]
    split
    · cases hp : pieces p rest with
      | nil => exact absurd hp (pieces_ne_nil p rest)
      | cons => simp
    · rfl

theorem runs_append_cons {p : Char → Bool} {c : Char} (h : p c = false) (a b : Text) :
    runs p (a ++ c :: b) = runs p a ++ runs p b := by
  simp [runs, pieces_append_cons h]

/-! ## Search -/

/-- Whether `needle` stands somewhere in the text. -/
def occursIn (needle : Text) : Text → Bool
  | [] => needle.isEmpty
  | c :: rest => needle.isPrefixOf (c :: rest) || occursIn needle rest

/-- The text before the first `c`, and the text after it if there is one. -/
def cutAt (c : Char) (t : Text) : Text × Option Text :=
  (t.takeWhile (· != c), (t.dropWhile (· != c)).tail?)

/-- The text after the last `c`; all of it when there is none. -/
def afterLast (c : Char) (t : Text) : Text :=
  (t.reverse.takeWhile (· != c)).reverse

/-! ## Joining -/

/-- The texts one after the other with `sep` between them. -/
def join (sep : Text) (ts : List Text) : Text :=
  (ts.intersperse sep).flatten

end Text
end DistroBallot
