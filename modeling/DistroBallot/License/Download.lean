import DistroBallot.Fetch.Client
import DistroBallot.License.Groups

/-!
# Downloading the free identifiers

The free identifiers are the members of some groups of a file of license groups, which is fetched.
A status other than 200 and a file without members of these groups are both reasons why the
identifiers cannot be had.
-/

namespace DistroBallot
namespace License
namespace Groups

/-- Where the license groups are fetched from without configuration. -/
def builtinUrl : Text :=
  "https://gitweb.gentoo.org/repo/gentoo.git/plain/profiles/license_groups".toList

/-- The groups whose members are free without configuration. -/
def builtinCategories : List Text :=
  ["GPL-COMPATIBLE".toList, "FSF-APPROVED".toList, "OSI-APPROVED".toList, "MISC-FREE".toList,
    "FREE-DOCUMENTS".toList]

/-- The free identifiers of the file at `url`. -/
def download (url : Text) (categories : List Text) : Step Fault Client IdentifierSet := do
  let (status, body) ← Client.getText url .null []
  match Url.redacted url with
  | .error e => Step.fail (.port e)
  | .ok target =>
    match body with
    | none => Step.fail (.groups (.requestFailed target status))
    | some text =>
      let found := members text categories
      if found.isEmpty then Step.fail (.groups (.noMembers categories))
      else
        Step.tell (.groupsLoaded found.size target)
        return found

end Groups
end License
end DistroBallot
