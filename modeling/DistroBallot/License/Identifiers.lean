import DistroBallot.Text.Case

/-!
# Sets of license identifiers

A set of identifiers is kept as its list in increasing order, so that two sets with the same
members are equal and the count of members is the length.
-/

namespace DistroBallot

/-- A finite set of texts, listed in increasing order. -/
structure IdentifierSet where
  toList : List Text
deriving DecidableEq, Repr, Inhabited

namespace IdentifierSet

/-- Puts a text at its place in an increasing list, unless it is there already. -/
def insertSorted (x : Text) : List Text → List Text
  | [] => [x]
  | y :: rest => if x < y then x :: y :: rest else if x = y then y :: rest else y :: insertSorted x rest

@[simp] theorem mem_insertSorted {x y : Text} {l : List Text} :
    x ∈ insertSorted y l ↔ x = y ∨ x ∈ l := by
  induction l with
  | nil => simp [insertSorted]
  | cons z rest ih =>
    simp only [insertSorted]
    split
    · simp
    · split
      · next h => simp [h]
      · simp only [List.mem_cons, ih]
        exact ⟨fun h => h.elim (.inr ∘ .inl) (fun h => h.elim .inl (.inr ∘ .inr)),
          fun h => h.elim (.inr ∘ .inl) (fun h => h.elim .inl (.inr ∘ .inr))⟩

/-- The set of the texts of a list. -/
def ofList (l : List Text) : IdentifierSet :=
  ⟨l.foldr insertSorted []⟩

/-- Whether a text is in the set. -/
def contains (s : IdentifierSet) (x : Text) : Bool :=
  s.toList.contains x

/-- The number of members. -/
def size (s : IdentifierSet) : Nat :=
  s.toList.length

/-- Whether the set has no member. -/
def isEmpty (s : IdentifierSet) : Bool :=
  s.toList.isEmpty

@[simp] theorem contains_ofList {x : Text} {l : List Text} :
    (ofList l).contains x = true ↔ x ∈ l := by
  rw [contains, ofList, List.contains_iff_mem]
  induction l with
  | nil => simp
  | cons y rest ih => simp [ih]

/-- The set of the lower-case forms of the texts of a list. -/
def ofLower (l : List Text) : IdentifierSet :=
  ofList (l.map Text.lower)

end IdentifierSet
end DistroBallot
