import DistroBallot.Ballot.Checker

/-!
# Summaries of votes

The summary of the reports on a project counts definite votes, free votes and abstentions, and
gives the share of free votes, which is missing where no vote is definite.
-/

namespace DistroBallot

/-- The votes on a project in numbers, with the reports they come from. -/
structure Summary where
  votes : Nat
  freeVotes : Nat
  abstentions : Nat
  ratio : Option Binary64
  verdict : Verdict
  details : List VoteReport
deriving Repr

namespace Summary

/-- The summary of reports and the verdict they led to. -/
def ofReports (reports : List VoteReport) (verdict : Verdict) : Summary :=
  let counted := reports.filter (fun r => r.verdict.isDefinite)
  let freeVotes := counted.countP (fun r => r.verdict == .free)
  { votes := counted.length
    freeVotes
    abstentions := reports.length - counted.length
    ratio := if counted.isEmpty then none else some (share freeVotes counted.length)
    verdict
    details := reports }

/-- The fields of a summary. -/
def fields (s : Summary) : List (Value × Value) :=
  [(.ofString "votes", .int s.votes),
    (.ofString "free_votes", .int s.freeVotes),
    (.ofString "abstentions", .int s.abstentions),
    (.ofString "ratio", (s.ratio.map Value.real).getD .null),
    (.ofString "verdict", .ofString s.verdict.name),
    (.ofString "details", .list (s.details.map VoteReport.toValue))]

end Summary
end DistroBallot
