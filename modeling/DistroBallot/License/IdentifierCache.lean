import DistroBallot.Fault
import DistroBallot.License.Identifiers
import DistroBallot.Step

/-!
# The cache of free identifiers

The cache is filled by the first fetch that succeeds and never changes after that. A fetch that
fails is not remembered, so that the next look into the cache tries again.
-/

namespace DistroBallot
namespace License

/-- What the cache holds, and the state that fetches run on. -/
structure IdentifierCache (σ : Type) where
  held : Option IdentifierSet
  source : σ
deriving Repr

namespace IdentifierCache

variable {σ : Type}

/-- A cache that holds nothing. -/
def empty (source : σ) : IdentifierCache σ := ⟨none, source⟩

/-- A cache that holds the lower-case forms of these identifiers. -/
def preloaded (identifiers : List Text) (source : σ) : IdentifierCache σ :=
  ⟨some (.ofLower identifiers), source⟩

/-- Whether the cache is filled. -/
def isLoaded (c : IdentifierCache σ) : Bool := c.held.isSome

/-- Takes the end of a fetch into the cache. If the identifiers are unavailable that is told, and
the cache stays as it was; any other fault passes through. -/
def settle (ended : Ended Fault σ (List Text)) :
    Ended Fault (IdentifierCache σ) (Option IdentifierSet) :=
  match ended with
  | ⟨.ok found, source, events⟩ =>
    ⟨.ok (some (.ofLower found)), ⟨some (.ofLower found), source⟩, events⟩
  | ⟨.error (.groups e), source, events⟩ =>
    ⟨.ok none, ⟨none, source⟩, events ++ [.groupsUnavailable e.message]⟩
  | ⟨.error e, source, events⟩ => ⟨.error e, ⟨none, source⟩, events⟩

/-- The identifiers, fetched when they are not there yet and there is a way to fetch them. -/
def get (fetch : Option (Step Fault σ (List Text))) :
    Step Fault (IdentifierCache σ) (Option IdentifierSet) := fun c =>
  match c.held, fetch with
  | some identifiers, _ => ⟨.ok (some identifiers), c, []⟩
  | none, none => ⟨.ok none, c, []⟩
  | none, some fetch => settle (fetch c.source)

end IdentifierCache
end License
end DistroBallot
