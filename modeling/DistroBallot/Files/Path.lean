import DistroBallot.Text.Basic

/-!
# Paths

A path is a text of names between slashes. The rules here look at the text of a path alone and not
at what stands under it.
-/

namespace DistroBallot
namespace Path

/-- Whether a path holds the character zero, which no path may. -/
def holdsNull (path : Text) : Bool := path.any (fun c => c.toNat == 0)

/-- The home directories: one's own, and those of the users who have one, by their names. -/
structure Homes where
  own : Text
  ofUser? : Text → Option Text

/-- The home directory that a tilde with a name behind it stands for; without a name it is one's
own. -/
def Homes.directory? (homes : Homes) (name : Text) : Option Text :=
  if name.isEmpty then some homes.own else homes.ofUser? name

/-- The path with a tilde in front, and the name of a user behind it, replaced by the home
directory. A path in front of which there is no tilde, or the name of nobody, stays as it is. -/
def expandHome (homes : Homes) : Text → Text
  | '~' :: rest =>
    match homes.directory? (rest.takeWhile (· != '/')) with
    | none => '~' :: rest
    | some home =>
      let full := (home.reverse.dropWhile (· == '/')).reverse ++ rest.dropWhile (· != '/')
      if full.isEmpty then ['/'] else full
  | path => path

/-- The names of a path from the root, followed one after the other: a point stays and two points
go back by one, or stay at the root. -/
def settle (names : List Text) : List Text :=
  names.foldl (fun place name =>
    if name.isEmpty || name = ['.'] then place
    else if name = ['.', '.'] then place.dropLast
    else place ++ [name]) []

/-- The slashes in front of a path from the root: two stay two, any other number becomes one. -/
def root : Text → Text
  | '/' :: '/' :: '/' :: _ => ['/']
  | '/' :: '/' :: _ => ['/', '/']
  | _ => ['/']

/-- The path from the root that a path leads to from a directory when every name on it is taken for
a directory: without empty names, points and slashes at the end. -/
def absolute (directory path : Text) : Text :=
  let full := if path.head? = some '/' then path else directory ++ '/' :: path
  root full ++ Text.join ['/'] (settle (Text.pieces (· != '/') full))

end Path
end DistroBallot
