import DistroBallot.Ballot.Verdict
import DistroBallot.Registry.Package

/-!
# Vote reports

A report is the vote of one reference repository: on a project through one of its packages, or on
a package that stands alone.
-/

namespace DistroBallot

/-- One repository's vote. -/
structure VoteReport where
  repository : Text
  package : Package
  verdict : Verdict
deriving Repr, Inhabited

/-- The report as an entry of a summary. -/
def VoteReport.toValue (r : VoteReport) : Value :=
  .map [
    (.ofString "repository", .text r.repository),
    (.ofString "repo", .text r.package.repo),
    (.ofString "package", r.package.displayName),
    (.ofString "version", r.package.version),
    (.ofString "verdict", .ofString r.verdict.name)]

end DistroBallot
