import DistroBallot.Ballot.Evaluator

/-!
# Votes on freedom

A package gets the verdict of the reference repository it belongs to. On a project every reference
repository that has a package in it votes once, through the first of its packages; abstentions do
not count, and the project is free when the share of free votes exceeds the threshold.

Each vote is told to the log and, if there is a hook, reported to it. The hook collects the
reports; it may stop the check by a fault that depends on the reports it has collected.
-/

namespace DistroBallot

/-- What is to be checked. -/
inductive Subject where
  | package (p : Package)
  | project (p : Project)
  | other (content : Value)
deriving Repr

namespace Subject

/-- The subject of a record: a project if it has packages, else a package. What is no record is
left as it is. -/
def ofRecord (record : Value) : Except RecordError Subject :=
  match record with
  | .map _ =>
    if (record.field? "packages").isSome then (Project.ofRecord record).map .project
    else (Package.ofRecord record).map .package
  | v => .ok (.other v)

end Subject

/-- How checks are made: the license evaluators, the registry, the threshold, and the hook if there
is one, which says by the reports collected so far whether to stop. -/
structure Checker (σ : Type) where
  evaluators : EvaluatorRef → Option (Evaluator σ)
  registry : Registry
  threshold : Value
  hook : Option (List VoteReport → Option Fault)

/-- The state of a run of checks: that of the evaluators, and the reports that the hook has
collected. -/
structure Session (σ : Type) where
  evaluation : σ
  reports : List VoteReport
deriving Repr

/-- The threshold without configuration. -/
def builtinThreshold : Binary64 := Binary64.ofDecimal false 5 (-1)

/-- The share of free votes among all definite ones. -/
def share (freeVotes votes : Nat) : Binary64 := Binary64.ofRatio false freeVotes votes

namespace Checker

variable {σ : Type}

/-- Asks an evaluator about licenses one after the other, up to the first that is not free. -/
def firstNotFree (evaluator : Evaluator σ) : List Text → Step Fault σ Verdict
  | [] => pure .free
  | license :: rest => do
    let verdict ← evaluator license
    if verdict = .free then firstNotFree evaluator rest else pure verdict

/-- The verdict of a repository on one of its packages. -/
def vote (checker : Checker σ) (repository : Repository) (package : Package) :
    Step Fault σ Verdict :=
  match repository.rule with
  | .fixed isFree => pure (.ofBool isFree)
  | .evaluator ref =>
    match checker.evaluators ref with
    | some evaluator => firstNotFree evaluator package.licenses
    | none => .fail (.unknownEvaluator repository.name ref)
  | .invalid content => .fail (.invalidRule repository.name content)

/-- Tells a vote to the log and reports it to the hook. -/
def report (checker : Checker σ) (r : VoteReport) : Step Fault (Session σ) Unit := do
  Step.tell (.vote r)
  match checker.hook with
  | none => pure ()
  | some stop =>
    Step.modify fun s => { s with reports := s.reports ++ [r] }
    let s ← Step.state
    match stop s.reports with
    | none => pure ()
    | some fault => Step.fail fault

/-- A step of the evaluators, as a step of the session. -/
def evaluating {α : Type} (x : Step Fault σ α) : Step Fault (Session σ) α :=
  x.within Session.evaluation (fun s e => { s with evaluation := e })

/-- The vote of a repository through a package, with its report. -/
def castVote (checker : Checker σ) (repository : Repository) (package : Package) :
    Step Fault (Session σ) Verdict := do
  let verdict ← evaluating (checker.vote repository package)
  checker.report ⟨repository.name, package, verdict⟩
  return verdict

/-- The repository a package belongs to, with its place in the registry. -/
def repositoryOf (checker : Checker σ) (package : Package) :
    Step Fault (Session σ) (Option (Nat × Repository)) :=
  match checker.registry.find? (.text package.repo) package.subrepo with
  | .ok found => pure found
  | .error _ => .fail .notText

/-- The verdict on a package: that of its repository, and unknown if it has none. -/
def packageVerdict (checker : Checker σ) (package : Package) :
    Step Fault (Session σ) Verdict := do
  match ← checker.repositoryOf package with
  | none => return .unknown
  | some (_, repository) => checker.castVote repository package

/-! ## Projects -/

/-- The votes counted so far, and the places of the repositories that have voted. -/
structure Tally where
  voted : List Nat
  votes : Nat
  freeVotes : Nat
deriving DecidableEq, Repr

/-- The tally before the first vote. -/
def Tally.start : Tally := ⟨[], 0, 0⟩

/-- The tally with a vote of the repository at `place`. -/
def Tally.count (t : Tally) (place : Nat) (verdict : Verdict) : Tally :=
  ⟨place :: t.voted,
    if verdict.isDefinite then t.votes + 1 else t.votes,
    if verdict = .free then t.freeVotes + 1 else t.freeVotes⟩

/-- Polls the repositories of packages that have not voted yet. -/
def poll (checker : Checker σ) (t : Tally) : List Package → Step Fault (Session σ) Tally
  | [] => pure t
  | package :: rest => do
    match ← checker.repositoryOf package with
    | none => checker.poll t rest
    | some (place, repository) =>
      if t.voted.contains place then checker.poll t rest
      else
        let verdict ← checker.castVote repository package
        checker.poll (t.count place verdict) rest

/-- Whether the share of free votes exceeds the threshold, which has to be a number. -/
def exceeds (freeVotes votes : Nat) (threshold : Value) : Except Fault Bool :=
  match threshold.number? with
  | some limit => .ok ((Number.real (share freeVotes votes)).compare? limit == some .gt)
  | none => .error .incomparable

/-- The verdict that a tally comes to. -/
def Tally.verdict (t : Tally) (threshold : Value) : Except Fault Verdict :=
  if t.votes = 0 then .ok .unknown
  else (exceeds t.freeVotes t.votes threshold).map .ofBool

/-- The verdict on a project. -/
def projectVerdict (checker : Checker σ) (project : Project) :
    Step Fault (Session σ) Verdict := do
  let t ← checker.poll .start project.packages
  let verdict ← Step.ofExcept (t.verdict checker.threshold)
  Step.tell (.projectVerdict project.name t.votes t.freeVotes verdict)
  return verdict

/-- The verdict on a package or a project; nothing else can be checked. -/
def check (checker : Checker σ) : Subject → Step Fault (Session σ) Verdict
  | .package p => checker.packageVerdict p
  | .project p => checker.projectVerdict p
  | .other v => .fail (.unsupported v.kindName)

end Checker
end DistroBallot
