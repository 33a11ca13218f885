import DistroBallot.Proofs.Ballot.Voters
import Mathlib

/-!
# Polling the voters of a project

The verdict on a project is computed a second time, without the scan over its packages. Each voter
casts a *ballot*: its verdict is fixed, or it is the first answer about the licenses of its package
that is not free (`Checker.verdictOn`), and the questions that were asked for it are known
(`Checker.questionsOn`). Ballots are cast one after the other, each where the one before it left
the evaluators, up to the first fault (`Checker.ballots`); their verdicts are counted and decide
(`decided`).

Each function of the checker has one equation here that says how it runs, and the equation for the
scan is an induction on the packages with the places that have voted. That no other question is
asked is seen by a checker that writes down what its evaluators are asked (`Checker.recorded`).
-/

namespace DistroBallot

variable {σ : Type}

/-! ## Questions and answers -/

/-- An evaluator and the license that it is asked about. -/
abbrev Question := EvaluatorRef × Text

/-- The answers of an evaluator that is asked about licenses one after the other. -/
def Evaluator.answers (evaluator : Evaluator σ) : σ → List Text → List (Except Fault Verdict)
  | _, [] => []
  | s, license :: rest =>
    ((evaluator license).run s).answer ::
      Evaluator.answers evaluator ((evaluator license).run s).state rest

/-- Whether an answer is that a license is free. -/
def isFreeAnswer : Except Fault Verdict → Bool
  | .ok .free => true
  | _ => false

namespace Checker

/-- The vote of a repository through a package: the verdict of a fixed rule, or the first answer
that is not free over the licenses in their order, and free if there is none. -/
def verdictOn (checker : Checker σ) (s : σ) (repository : Repository) (package : Package) :
    Except Fault Verdict :=
  match repository.rule with
  | .fixed isFree => .ok (if isFree then .free else .nonFree)
  | .evaluator ref =>
    match checker.evaluators ref with
    | some evaluator =>
      ((evaluator.answers s package.licenses).find? (fun a => !isFreeAnswer a)).getD (.ok .free)
    | none => .error (.unknownEvaluator repository.name ref)
  | .invalid content => .error (.invalidRule repository.name content)

/-- The questions for a vote: about the licenses up to and including the first whose answer is not
free. -/
def questionsOn (checker : Checker σ) (s : σ) (repository : Repository) (package : Package) :
    List Question :=
  match repository.rule with
  | .evaluator ref =>
    match checker.evaluators ref with
    | some evaluator =>
      let answers := evaluator.answers s package.licenses
      (package.licenses.take (answers.findIdx (fun a => !isFreeAnswer a) + 1)).map (ref, ·)
    | none => []
  | _ => []

/-- The state that a question leaves, and what is told on the way. -/
def ask (checker : Checker σ) (s : σ) (q : Question) : σ × List Log.Event :=
  match checker.evaluators q.1 with
  | some evaluator => (((evaluator q.2).run s).state, ((evaluator q.2).run s).events)
  | none => (s, [])

/-- The state that questions in a row leave, and what is told on the way. -/
def askAll (checker : Checker σ) : σ → List Question → σ × List Log.Event
  | s, [] => (s, [])
  | s, q :: rest =>
    ((checker.askAll (checker.ask s q).1 rest).1,
      (checker.ask s q).2 ++ (checker.askAll (checker.ask s q).1 rest).2)

theorem firstNotFree_run {checker : Checker σ} {ref : EvaluatorRef} {evaluator : Evaluator σ}
    (h : checker.evaluators ref = some evaluator) (licenses : List Text) (s : σ) :
    (firstNotFree evaluator licenses).run s =
      let answers := evaluator.answers s licenses
      let questions :=
        (licenses.take (answers.findIdx (fun a => !isFreeAnswer a) + 1)).map (ref, ·)
      ⟨(answers.find? (fun a => !isFreeAnswer a)).getD (.ok .free),
        (checker.askAll s questions).1, (checker.askAll s questions).2⟩ := by
  induction licenses generalizing s with
  | nil => rfl
  | cons license rest ih =>
      have hask : checker.ask s (ref, license) =
          (((evaluator license).run s).state, ((evaluator license).run s).events) := by
        simp [ask, h]
      rw [firstNotFree, Evaluator.answers]
      cases hrun : (evaluator license).run s with
      | mk answer t told =>
          rw [hrun] at hask
          cases answer with
          | error fault =>
              -- a fault ends the questions as an answer that is not free does
              rw [Step.run_bind_of_error hrun]
              simp [isFreeAnswer, List.findIdx_cons, askAll, hask]
          | ok verdict =>
              rw [Step.run_bind_of_ok hrun]
              cases verdict with
              | free =>
                  simp [isFreeAnswer, List.findIdx_cons, askAll, hask, ih]
              | nonFree => simp [isFreeAnswer, List.findIdx_cons, askAll, hask]
              | unknown => simp [isFreeAnswer, List.findIdx_cons, askAll, hask]

theorem vote_run (checker : Checker σ) (repository : Repository) (package : Package) (s : σ) :
    (checker.vote repository package).run s =
      ⟨checker.verdictOn s repository package,
        (checker.askAll s (checker.questionsOn s repository package)).1,
        (checker.askAll s (checker.questionsOn s repository package)).2⟩ := by
  unfold vote verdictOn questionsOn
  cases repository.rule with
  | fixed isFree => rfl
  | invalid content => rfl
  | evaluator ref =>
      cases h : checker.evaluators ref with
      | none =>
          simp only [h]
          rfl
      | some evaluator =>
          simp only [h]
          rw [firstNotFree_run h]

/-! ## Ballots -/

/-- The reports that the hook holds after one more. -/
def collect (checker : Checker σ) (reports : List VoteReport) (report : VoteReport) :
    List VoteReport :=
  if checker.hook.isSome then reports ++ [report] else reports

/-- The fault by which the hook stops the check at a report, if it does. -/
def objection? (checker : Checker σ) (reports : List VoteReport) (report : VoteReport) :
    Option Fault :=
  checker.hook.bind fun stop => stop (reports ++ [report])

theorem report_run (checker : Checker σ) (report : VoteReport) (s : Session σ) :
    (checker.report report).run s =
      ⟨match checker.objection? s.reports report with
        | none => .ok ()
        | some fault => .error fault,
        ⟨s.evaluation, checker.collect s.reports report⟩, [.vote report]⟩ := by
  unfold Checker.report objection? collect
  cases checker.hook with
  | none => rfl
  | some stop =>
      rw [Step.run_bind_of_ok (Step.run_tell _ s), Step.run_bind_of_ok (Step.run_modify _ s),
        Step.run_bind_of_ok (Step.run_state _)]
      simp only [Option.bind_some]
      cases stop (s.reports ++ [report]) <;> rfl

end Checker

/-- A ballot: whose it is and through which package, what was asked for it, its verdict or the
fault that stopped it, the session it leaves, and what was told on the way. -/
structure Ballot (σ : Type) where
  repository : Repository
  package : Package
  questions : List Question
  verdict : Except Fault Verdict
  after : Session σ
  events : List Log.Event

namespace Checker

/-- The ballot of a voter. A vote is reported once it is known, and may be stopped by the hook. -/
def ballot (checker : Checker σ) (s : Session σ) (voter : Repository × Package) : Ballot σ :=
  let questions := checker.questionsOn s.evaluation voter.1 voter.2
  let asked := checker.askAll s.evaluation questions
  match checker.verdictOn s.evaluation voter.1 voter.2 with
  | .error fault =>
    ⟨voter.1, voter.2, questions, .error fault, ⟨asked.1, s.reports⟩, asked.2⟩
  | .ok verdict =>
    let report : VoteReport := ⟨voter.1.name, voter.2, verdict⟩
    ⟨voter.1, voter.2, questions,
      match checker.objection? s.reports report with
      | none => .ok verdict
      | some fault => .error fault,
      ⟨asked.1, checker.collect s.reports report⟩, asked.2 ++ [.vote report]⟩

/-- The ballots of voters one after the other, up to the first that ends in a fault. -/
def ballots (checker : Checker σ) : Session σ → List (Repository × Package) → List (Ballot σ)
  | _, [] => []
  | s, voter :: rest =>
    let b := checker.ballot s voter
    match b.verdict with
    | .ok _ => b :: checker.ballots b.after rest
    | .error _ => [b]

theorem castVote_run (checker : Checker σ) (repository : Repository) (package : Package)
    (s : Session σ) : (checker.castVote repository package).run s =
      ⟨(checker.ballot s (repository, package)).verdict,
        (checker.ballot s (repository, package)).after,
        (checker.ballot s (repository, package)).events⟩ := by
  have hvote : (evaluating (checker.vote repository package)).run s =
      ⟨checker.verdictOn s.evaluation repository package,
        ⟨(checker.askAll s.evaluation (checker.questionsOn s.evaluation repository package)).1,
          s.reports⟩,
        (checker.askAll s.evaluation (checker.questionsOn s.evaluation repository package)).2⟩ := by
    rw [evaluating, Step.run_within, vote_run]
  rw [castVote, ballot]
  cases hv : checker.verdictOn s.evaluation repository package with
  | error fault =>
      rw [hv] at hvote
      rw [Step.run_bind_of_error hvote]
  | ok verdict =>
      rw [hv] at hvote
      rw [Step.run_bind_of_ok hvote]
      have hreport := report_run checker ⟨repository.name, package, verdict⟩
        ⟨(checker.askAll s.evaluation (checker.questionsOn s.evaluation repository package)).1,
          s.reports⟩
      cases ho : checker.objection? s.reports ⟨repository.name, package, verdict⟩ with
      | none =>
          simp only [ho] at hreport ⊢
          rw [Step.run_bind_of_ok hreport]
          simp
      | some fault =>
          simp only [ho] at hreport ⊢
          rw [Step.run_bind_of_error hreport]

/-! ## The poll -/

/-- The session after ballots. -/
def sessionAfter (s : Session σ) (bs : List (Ballot σ)) : Session σ :=
  bs.foldl (fun _ b => b.after) s

theorem ballots_cons_of_ok {checker : Checker σ} {s : Session σ} {voter : Repository × Package}
    {verdict : Verdict} (h : (checker.ballot s voter).verdict = .ok verdict)
    (rest : List (Repository × Package)) : checker.ballots s (voter :: rest) =
      checker.ballot s voter :: checker.ballots (checker.ballot s voter).after rest := by
  simp only [ballots, h]

theorem ballots_cons_of_error {checker : Checker σ} {s : Session σ} {voter : Repository × Package}
    {fault : Fault} (h : (checker.ballot s voter).verdict = .error fault)
    (rest : List (Repository × Package)) :
    checker.ballots s (voter :: rest) = [checker.ballot s voter] := by
  simp only [ballots, h]

/-- The verdicts of ballots, or the first fault among them. -/
def verdicts : List (Ballot σ) → Except Fault (List Verdict)
  | [] => .ok []
  | b :: rest =>
    match b.verdict with
    | .ok verdict => (verdicts rest).map (verdict :: ·)
    | .error fault => .error fault

/-- The number of definite verdicts. -/
def definite (vs : List Verdict) : Nat := vs.count .free + vs.count .nonFree

theorem repositoryOf_eq {checker : Checker σ} {p : Package}
    (hp : checker.registry.canPlace p = true) :
    checker.repositoryOf p = pure ((checker.registry.home p).bind checker.registry.placed) := by
  rw [repositoryOf, Registry.find?_eq_home hp]

theorem repositoryOf_eq_fail {checker : Checker σ} {p : Package}
    (hp : checker.registry.canPlace p = false) : checker.repositoryOf p = Step.fail .notText := by
  rw [Registry.canPlace] at hp
  rw [repositoryOf]
  cases h : checker.registry.find? (.text p.repo) p.subrepo with
  | ok found => simp [h] at hp
  | error e => rfl

/-- A scan passes over a package without a home and over one whose home has voted. -/
theorem poll_cons_of_voted {checker : Checker σ} {t : Tally} {p : Package}
    (hp : checker.registry.canPlace p = true)
    (h : ∀ place, checker.registry.home p = some place → place ∈ t.voted)
    (packages : List Package) : checker.poll t (p :: packages) = checker.poll t packages := by
  rw [poll, repositoryOf_eq hp, Step.pure_bind]
  cases hhome : checker.registry.home p with
  | none => rfl
  | some place =>
      obtain ⟨r, hr⟩ := Registry.exists_of_home hhome
      simp [Registry.placed, hr, h place hhome]

/-- A scan lets a repository vote through the first package that has it as home. -/
theorem poll_cons_of_not_voted {checker : Checker σ} {t : Tally} {p : Package} {place : Nat}
    {r : Repository} (hp : checker.registry.canPlace p = true)
    (hhome : checker.registry.home p = some place)
    (hr : checker.registry[place]? = some r) (h : place ∉ t.voted) (packages : List Package) :
    checker.poll t (p :: packages) =
      checker.castVote r p >>= fun verdict => checker.poll (t.count place verdict) packages := by
  rw [poll, repositoryOf_eq hp, Step.pure_bind]
  simp [hhome, Registry.placed, hr, h]

/-- A scan ends at a package whose repository cannot be looked for. -/
theorem poll_cons_of_not_canPlace {checker : Checker σ} {t : Tally} {p : Package}
    (hp : checker.registry.canPlace p = false) (packages : List Package) (s : Session σ) :
    (checker.poll t (p :: packages)).run s = ⟨.error .notText, s, []⟩ := by
  rw [poll, repositoryOf_eq_fail hp, Step.run_bind_of_error (Step.run_fail _ s)]

theorem definite_cons (v : Verdict) (vs : List Verdict) :
    definite (v :: vs) = (if v.isDefinite then 1 else 0) + definite vs := by
  cases v <;> simp [definite, Verdict.isDefinite] <;> omega

/-- The packages that a scan comes to: those before the first one whose repository cannot be looked
for. -/
def reached (checker : Checker σ) (packages : List Package) : List Package :=
  packages.takeWhile checker.registry.canPlace

theorem reached_eq_self {checker : Checker σ} {packages : List Package}
    (h : packages.all checker.registry.canPlace = true) : checker.reached packages = packages :=
  List.takeWhile_eq_self_iff.mpr (List.all_eq_true.mp h)

/-- **The scan over the packages casts the ballots of the voters that have not voted.** -/
theorem poll_run (checker : Checker σ) (packages : List Package) (t : Tally) (s : Session σ) :
    let bs := checker.ballots s (checker.registry.votersFrom t.voted (checker.reached packages))
    ∃ voted, (checker.poll t packages).run s =
      ⟨(verdicts bs).bind fun vs =>
          if packages.all checker.registry.canPlace then
            .ok ⟨voted, t.votes + definite vs, t.freeVotes + vs.count .free⟩
          else .error .notText,
        sessionAfter s bs, bs.flatMap Ballot.events⟩ := by
  induction packages generalizing t s with
  | nil => exact ⟨t.voted, rfl⟩
  | cons p packages ih =>
      cases hp : checker.registry.canPlace p with
      | false =>
          rw [poll_cons_of_not_canPlace hp, reached, List.takeWhile_cons_of_neg (by simp [hp]),
            List.all_cons, hp]
          exact ⟨[], rfl⟩
      | true =>
          rw [reached, List.takeWhile_cons_of_pos hp, List.all_cons, hp, Bool.true_and]
          by_cases hvoted : ∀ place, checker.registry.home p = some place → place ∈ t.voted
          · rw [poll_cons_of_voted hp hvoted, Registry.votersFrom_cons_of_voted hvoted]
            exact ih t s
          · push Not at hvoted
            obtain ⟨place, hhome, hplace⟩ := hvoted
            obtain ⟨r, hr⟩ := Registry.exists_of_home hhome
            rw [poll_cons_of_not_voted hp hhome hr hplace,
              Registry.votersFrom_cons_of_not_voted hhome hr hplace]
            have hcast := castVote_run checker r p s
            cases hv : (checker.ballot s (r, p)).verdict with
            | error fault =>
                rw [hv] at hcast
                rw [Step.run_bind_of_error hcast, ballots_cons_of_error hv]
                exact ⟨[], by simp [verdicts, hv, sessionAfter, Except.bind]⟩
            | ok verdict =>
                rw [hv] at hcast
                rw [Step.run_bind_of_ok hcast, ballots_cons_of_ok hv]
                obtain ⟨voted, hrest⟩ :=
                  ih (t.count place verdict) (checker.ballot s (r, p)).after
                refine ⟨voted, ?_⟩
                -- the vote is counted before the rest here, and in front of the rest there
                have htally : ∀ vs : List Verdict,
                    (⟨voted, (t.count place verdict).votes + definite vs,
                      (t.count place verdict).freeVotes + vs.count .free⟩ : Tally) =
                    ⟨voted, t.votes + definite (verdict :: vs),
                      t.freeVotes + (verdict :: vs).count .free⟩ := by
                  intro vs
                  rw [definite_cons, List.count_cons]
                  cases verdict <;> simp [Tally.count, Verdict.isDefinite] <;> omega
                have hplaces : (t.count place verdict).voted = place :: t.voted := rfl
                rw [hrest]
                simp only [htally, hplaces, verdicts, hv, sessionAfter, List.foldl_cons,
                  List.flatMap_cons, reached]
                cases verdicts (checker.ballots (checker.ballot s (r, p)).after
                  (checker.registry.votersFrom (place :: t.voted)
                    (packages.takeWhile checker.registry.canPlace))) <;> rfl

/-! ## The verdict on a project -/

/-- The verdict that votes come to: unknown when none is definite, and otherwise free just when the
share of the free ones exceeds the threshold, which has to be a number. -/
def decided (vs : List Verdict) (threshold : Value) : Except Fault Verdict :=
  if definite vs = 0 then .ok .unknown
  else match threshold.number? with
    | some limit =>
      .ok (if (Number.real (share (vs.count .free) (definite vs))).compare? limit = some .gt
        then .free else .nonFree)
    | none => .error .incomparable

theorem verdict_eq_decided (voted : List Nat) (vs : List Verdict) (threshold : Value) :
    Tally.verdict ⟨voted, definite vs, vs.count .free⟩ threshold = decided vs threshold := by
  unfold Tally.verdict decided exceeds
  split
  · rfl
  · cases threshold.number? with
    | none => rfl
    | some limit => simp [Except.map, Verdict.ofBool]

/-- What is told at the end of a poll that comes to a verdict. -/
def closing (checker : Checker σ) (project : Project) (bs : List (Ballot σ)) : List Log.Event :=
  match verdicts bs with
  | .error _ => []
  | .ok vs =>
    match decided vs checker.threshold with
    | .error _ => []
    | .ok verdict => [.projectVerdict project.name (definite vs) (vs.count .free) verdict]

/-- A check on a project casts the ballots of the voters among the packages it comes to, and if that
is all of them, decides by their verdicts. -/
theorem projectVerdict_run_reached (checker : Checker σ) (project : Project) (s : Session σ) :
    let bs := checker.ballots s (checker.registry.voters (checker.reached project.packages))
    let complete := project.packages.all checker.registry.canPlace
    (checker.projectVerdict project).run s =
      ⟨(verdicts bs).bind fun vs =>
          if complete then decided vs checker.threshold else .error .notText,
        sessionAfter s bs,
        bs.flatMap Ballot.events ++ if complete then checker.closing project bs else []⟩ := by
  intro bs complete
  obtain ⟨voted, hpoll⟩ : ∃ voted, (checker.poll .start project.packages).run s =
      ⟨(verdicts bs).bind fun vs =>
          if complete then .ok ⟨voted, definite vs, vs.count .free⟩ else .error .notText,
        sessionAfter s bs, bs.flatMap Ballot.events⟩ := by
    simpa only [Tally.start, Registry.votersFrom_nil, Nat.zero_add] using
      poll_run checker project.packages .start s
  unfold projectVerdict closing
  cases hvs : verdicts bs with
  | error fault =>
      simp only [hvs, Except.bind] at hpoll
      rw [Step.run_bind_of_error hpoll]
      simp [Except.bind]
  | ok vs =>
      simp only [hvs, Except.bind] at hpoll
      cases hcomplete : complete with
      | false =>
          rw [hcomplete, if_neg Bool.false_ne_true] at hpoll
          rw [Step.run_bind_of_error hpoll]
          simp [Except.bind]
      | true =>
          rw [hcomplete, if_pos rfl] at hpoll
          rw [Step.run_bind_of_ok hpoll, verdict_eq_decided]
          have hdecide := Step.run_ofExcept (decided vs checker.threshold) (sessionAfter s bs)
          cases hd : decided vs checker.threshold with
          | error fault =>
              rw [hd] at hdecide
              rw [Step.run_bind_of_error hdecide]
              simp [Except.bind, hd]
          | ok verdict =>
              rw [hd] at hdecide
              rw [Step.run_bind_of_ok hdecide, Step.run_bind_of_ok (Step.run_tell _ _)]
              simp [Except.bind, hd]

theorem projectVerdict_run (checker : Checker σ) {project : Project}
    (hsub : ∀ p ∈ project.packages, p.TextSubrepo) (s : Session σ) :
    let bs := checker.ballots s (checker.registry.voters project.packages)
    (checker.projectVerdict project).run s =
      ⟨(verdicts bs).bind fun vs => decided vs checker.threshold,
        sessionAfter s bs, bs.flatMap Ballot.events ++ checker.closing project bs⟩ := by
  have hall := checker.registry.all_canPlace hsub
  have hrun := projectVerdict_run_reached checker project s
  rw [reached_eq_self hall, hall] at hrun
  exact hrun

/-! ## The verdict on a package -/

theorem ballots_singleton (checker : Checker σ) (s : Session σ) (voter : Repository × Package) :
    checker.ballots s [voter] = [checker.ballot s voter] := by
  cases h : (checker.ballot s voter).verdict with
  | ok verdict => exact ballots_cons_of_ok h []
  | error fault => exact ballots_cons_of_error h []

/-- A package on its own is a poll of at most one voter, whose verdict is the answer. -/
theorem packageVerdict_run (checker : Checker σ) (p : Package) (s : Session σ) :
    let bs := checker.ballots s (checker.registry.voters (checker.reached [p]))
    (checker.packageVerdict p).run s =
      ⟨(verdicts bs).bind fun vs =>
          if checker.registry.canPlace p then .ok (vs.headD .unknown) else .error .notText,
        sessionAfter s bs, bs.flatMap Ballot.events⟩ := by
  rw [packageVerdict, reached]
  cases hp : checker.registry.canPlace p with
  | false =>
      rw [repositoryOf_eq_fail hp, Step.run_bind_of_error (Step.run_fail _ s),
        List.takeWhile_cons_of_neg (by simp [hp])]
      rfl
  | true =>
      rw [repositoryOf_eq hp, Step.pure_bind, List.takeWhile_cons_of_pos hp, List.takeWhile_nil,
        Registry.voters_singleton]
      cases (checker.registry.home p).bind checker.registry.placed with
      | none => rfl
      | some found =>
          obtain ⟨place, r⟩ := found
          simp only [Option.toList_some, List.map_cons, List.map_nil, ballots_singleton,
            castVote_run]
          cases hv : (checker.ballot s (r, p)).verdict <;>
            simp [verdicts, hv, sessionAfter, Except.bind, Except.map]

end Checker
end DistroBallot
