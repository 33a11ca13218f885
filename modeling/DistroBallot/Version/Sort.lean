import DistroBallot.Version.Order

/-!
# Sorting versions

Sorting is stable in both directions: versions that compare equal keep the order in which they
were given. The latest version is found in one pass that gives way only to a strictly newer one.
-/

namespace DistroBallot
namespace Version

/-- Whether `v` may stand before `w` in the asked direction. -/
def mayPrecede (newestFirst : Bool) (v w : Text) : Bool :=
  if newestFirst then !isOlder v w else !isOlder w v

/-- The versions from oldest to newest, or from newest to oldest. -/
def sort (versions : List Text) (newestFirst : Bool) : List Text :=
  versions.mergeSort (mayPrecede newestFirst)

/-- The newer of two versions; the first if neither is. -/
def newer (v w : Text) : Text :=
  if isOlder v w then w else v

/-- The newest version, if there is any. -/
def latest? : List Text → Option Text
  | [] => none
  | v :: rest => some (rest.foldl newer v)

end Version
end DistroBallot
