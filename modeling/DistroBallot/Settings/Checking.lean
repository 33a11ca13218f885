import DistroBallot.Settings.Overrides

/-!
# Checkers under settings

A checker under settings has the reference repositories and their evaluators. Its free identifiers
are downloaded when they are first needed, or cannot be had at all when it works offline.
-/

namespace DistroBallot
namespace Settings

/-- Fetches the free identifiers from a URL, by the groups of these names. Where no URL is given, or
no groups, they are those of the settings; what is empty counts as not given. -/
def fetchGroups (s : Settings) (url : Option Text) (categories : Option (List Text)) :
    Step Fault Client IdentifierSet :=
  License.Groups.download ((url.filter (!·.isEmpty)).getD s.groupsUrl.display)
    ((categories.filter (!·.isEmpty)).getD s.categories)

/-- Fetches the free identifiers under these settings. -/
def fetchIdentifiers (s : Settings) : Step Fault Client (List Text) := do
  let found ← s.fetchGroups none none
  return found.toList

/-- The checker under these settings. -/
def checker (s : Settings) (offline : Bool) (threshold : Value)
    (hook : Option (List VoteReport → Option Fault)) : Checker (License.IdentifierCache Client) :=
  { evaluators := Evaluator.standard (if offline then none else some s.fetchIdentifiers)
    registry := Registry.builtin
    threshold
    hook }

/-- A session before its first check: an empty cache over a client that has done nothing. -/
def session (s : Settings) (clock : Number) (network : List Exchange) :
    Session (License.IdentifierCache Client) :=
  ⟨.empty (Client.fresh s.fetchPolicy clock network), []⟩

end Settings

/-- The checker without configuration. -/
def Checker.builtin : Checker (License.IdentifierCache Client) :=
  Settings.builtin.checker false (.real builtinThreshold) none

end DistroBallot
