import DistroBallot.License.Identifiers
import DistroBallot.Text.Blank

/-!
# License groups

A file of license groups has a group on each line: the name of the group, then its members. What
follows a number sign is a comment, and a member that starts with an at sign refers to another
group and is passed over. `Groups.members` collects the members of the wanted groups in lower case;
group names are matched without regard to case.
-/

namespace DistroBallot
namespace License
namespace Groups

/-- The words of a line before its comment. -/
def lineWords (line : Text) : List Text :=
  Text.words (line.takeWhile (· != '#'))

/-- The members that a line adds when the wanted groups are given in upper case. -/
def lineMembers (wanted : List Text) (line : Text) : List Text :=
  match lineWords line with
  | [] => []
  | group :: members =>
    if wanted.contains group.upper then
      (members.filter (fun m => m.head? != some '@')).map Text.lower
    else []

/-- The members of the groups of these names, in lower case. -/
def members (text : Text) (categories : List Text) : IdentifierSet :=
  .ofList (text.lines.flatMap (lineMembers (categories.map Text.upper)))

end Groups
end License
end DistroBallot
