import DistroBallot.Document.Value

/-!
# Patterns of repository names

A pattern looks for a text at the start of a name, at its end, anywhere in it, or as the whole of
it; any other pattern is given by the names in which it is found. A line feed that ends the name
does not count where the pattern reaches the end. A name that is no text cannot be matched at all,
which is an error and not a mismatch.
-/

namespace DistroBallot

/-- A pattern of names. -/
inductive Pattern where
  | whole (choices : List Text)
  | startsWith (text : Text)
  | endsWith (text : Text)
  | contains (text : Text)
  | satisfying (found : Text → Bool)

/-- Something that is no text was to be matched. -/
structure NotText where
deriving DecidableEq, Repr

namespace Pattern

/-- Whether a name matches. -/
def holds : Pattern → Text → Bool
  | .whole choices, name => choices.any (fun t => name == t || name == t ++ ['\n'])
  | .startsWith t, name => t.isPrefixOf name
  | .endsWith t, name => t.isSuffixOf name || (t ++ ['\n']).isSuffixOf name
  | .contains t, name => Text.occursIn t name
  | .satisfying found, name => found name

/-- Whether a value matches; it has to be a text. -/
def search (p : Pattern) : Value → Except NotText Bool
  | .text name => .ok (p.holds name)
  | _ => .error ⟨⟩

end Pattern
end DistroBallot
