import DistroBallot.Proofs.Ballot.Observers
import DistroBallot.Proofs.License.Alternatives
import Mathlib

/-!
# Steady evaluators

A state of the evaluators is *steady* when no question changes it (`Checker.Steady`), such as a
cache that is filled, or one that is empty and cannot be filled. There every repository has an
*opinion* on a package that does not depend on what was asked before, and a poll is the list of the
opinions of its voters (`projectVerdict_of_steady`). Two polls are then compared by their voters
alone.
-/

namespace DistroBallot

variable {σ : Type}

namespace Checker

/-- At this state of the evaluators every rule can be evaluated, and every question is answered and
leaves the state as it is; the hook lets every report pass. -/
structure Steady (checker : Checker σ) (s : σ) : Prop where
  rules : ∀ r ∈ checker.registry, (∃ isFree, r.rule = .fixed isFree) ∨
    ∃ ref, r.rule = .evaluator ref ∧ (checker.evaluators ref).isSome = true
  answering : ∀ ref evaluator, checker.evaluators ref = some evaluator →
    ∀ license, ∃ verdict events, (evaluator license).run s = ⟨.ok verdict, s, events⟩
  passing : ∀ stop, checker.hook = some stop → ∀ reports, stop reports = none

/-- The vote of a repository through a package, if there is one. -/
def opinion (checker : Checker σ) (s : σ) (voter : Repository × Package) : Verdict :=
  (checker.verdictOn s voter.1 voter.2).toOption.getD .unknown

/-- The report of a voter. -/
def reportOf (checker : Checker σ) (s : σ) (voter : Repository × Package) : VoteReport :=
  ⟨voter.1.name, voter.2, checker.opinion s voter⟩

variable {checker : Checker σ} {s : σ}

/-! ## Votes -/

theorem answers_of_steady {evaluator : Evaluator σ}
    (h : ∀ license, ∃ verdict events, (evaluator license).run s = ⟨.ok verdict, s, events⟩)
    (licenses : List Text) : evaluator.answers s licenses =
      licenses.map fun license => ((evaluator license).run s).answer := by
  induction licenses with
  | nil => rfl
  | cons license rest ih =>
      obtain ⟨verdict, events, hrun⟩ := h license
      rw [Evaluator.answers, List.map_cons, hrun, ih]

theorem ask_of_steady (h : checker.Steady s) (q : Question) : (checker.ask s q).1 = s := by
  rw [ask]
  cases hevaluator : checker.evaluators q.1 with
  | none => rfl
  | some evaluator =>
      obtain ⟨verdict, events, hrun⟩ := h.answering q.1 evaluator hevaluator q.2
      exact congrArg Ended.state hrun

theorem askAll_of_steady (h : checker.Steady s) (questions : List Question) :
    (checker.askAll s questions).1 = s := by
  induction questions with
  | nil => rfl
  | cons q rest ih => rw [askAll, ask_of_steady h, ih]

theorem verdictOn_of_steady (h : checker.Steady s) {voter : Repository × Package}
    (hvoter : voter.1 ∈ checker.registry) :
    checker.verdictOn s voter.1 voter.2 = .ok (checker.opinion s voter) := by
  have hsome : ∃ verdict, checker.verdictOn s voter.1 voter.2 = .ok verdict := by
    rcases h.rules voter.1 hvoter with ⟨isFree, hrule⟩ | ⟨ref, hrule, hbound⟩
    · simp only [verdictOn, hrule]
      exact ⟨_, rfl⟩
    · obtain ⟨evaluator, hevaluator⟩ := Option.isSome_iff_exists.mp hbound
      have hanswering := h.answering ref evaluator hevaluator
      simp only [verdictOn, hrule, hevaluator, answers_of_steady hanswering]
      cases hfind : (voter.2.licenses.map fun license => ((evaluator license).run s).answer).find?
          (fun a => !isFreeAnswer a) with
      | none => exact ⟨.free, rfl⟩
      | some a =>
          obtain ⟨license, -, rfl⟩ := List.mem_map.mp (List.mem_of_find?_eq_some hfind)
          obtain ⟨verdict, events, hrun⟩ := hanswering license
          exact ⟨verdict, congrArg Ended.answer hrun⟩
  obtain ⟨verdict, hverdict⟩ := hsome
  rw [opinion, hverdict]
  rfl

/-! ## Polls -/

theorem ballot_of_steady {s : Session σ} (h : checker.Steady s.evaluation)
    {voter : Repository × Package} (hvoter : voter.1 ∈ checker.registry) :
    (checker.ballot s voter).verdict = .ok (checker.opinion s.evaluation voter) ∧
    (checker.ballot s voter).after =
      ⟨s.evaluation, checker.collect s.reports (checker.reportOf s.evaluation voter)⟩ := by
  have hpass : checker.objection? s.reports (checker.reportOf s.evaluation voter) = none := by
    rw [objection?]
    cases hhook : checker.hook with
    | none => rfl
    | some stop => exact h.passing stop hhook _
  rw [reportOf] at hpass ⊢
  simp only [ballot, verdictOn_of_steady h hvoter, askAll_of_steady h, hpass, and_self]

/-- Steady ballots are those of the opinions, each cast at the same state of the evaluators. -/
theorem ballots_of_steady {s : Session σ} (h : checker.Steady s.evaluation)
    {voters : List (Repository × Package)} (hvoters : ∀ v ∈ voters, v.1 ∈ checker.registry) :
    let bs := checker.ballots s voters
    bs.map (fun b => ((b.repository, b.package), b.verdict)) =
      voters.map (fun v => (v, .ok (checker.opinion s.evaluation v))) ∧
    verdicts bs = .ok (voters.map (checker.opinion s.evaluation)) ∧
    (sessionAfter s bs).reports = s.reports ++
      if checker.hook.isSome then voters.map (checker.reportOf s.evaluation) else [] := by
  induction voters generalizing s with
  | nil => simp [ballots, verdicts, sessionAfter]
  | cons voter rest ih =>
      rw [List.forall_mem_cons] at hvoters
      obtain ⟨hverdict, hafter⟩ := ballot_of_steady h hvoters.1
      -- the rest is cast with one report more, and at the same state of the evaluators
      have hsame : (checker.ballot s voter).after.evaluation = s.evaluation := by rw [hafter]
      have hreports : (checker.ballot s voter).after.reports =
          checker.collect s.reports (checker.reportOf s.evaluation voter) := by rw [hafter]
      obtain ⟨hmap, hverdicts, hrest⟩ := ih (hsame.symm ▸ h) hvoters.2
      rw [hsame] at hmap hverdicts hrest
      rw [hreports] at hrest
      rw [ballots_cons_of_ok hverdict]
      refine ⟨?_, ?_, ?_⟩
      · rw [List.map_cons, List.map_cons, hmap, ballot_voter, hverdict]
      · simp only [verdicts, hverdict, hverdicts, Except.map, List.map_cons]
      · rw [sessionAfter, List.foldl_cons]
        refine hrest.trans ?_
        rw [collect]
        split <;> simp

/-- **A steady poll is the opinions of its voters.** -/
theorem projectVerdict_of_steady {s : Session σ} (h : checker.Steady s.evaluation)
    (project : Project) (hsub : ∀ p ∈ project.packages, p.TextSubrepo) :
    let voters := checker.registry.voters project.packages
    let ended := (checker.projectVerdict project).run s
    ended.answer = decided (voters.map (checker.opinion s.evaluation)) checker.threshold ∧
    ended.state.reports = s.reports ++
      if checker.hook.isSome then voters.map (checker.reportOf s.evaluation) else [] := by
  intro voters ended
  have hvoters : ∀ v ∈ voters, v.1 ∈ checker.registry := fun _ hv => mem_registry_of_mem_voters hv
  obtain ⟨-, hverdicts, hreports⟩ := ballots_of_steady h hvoters
  have hrun := projectVerdict_run checker hsub s
  constructor
  · refine (congrArg Ended.answer hrun).trans ?_
    rw [hverdicts]
    rfl
  · exact (congrArg (fun x => x.state.reports) hrun).trans hreports

end Checker

/-! ## Looks into a cache -/

/-- Every rule is a verdict or names one of the evaluators. -/
def Registry.Valid (registry : Registry) : Prop :=
  ∀ r ∈ registry, (∃ isFree, r.rule = .fixed isFree) ∨ ∃ id, r.rule = .evaluator (.known id)

theorem Registry.valid_builtin : builtin.Valid := by
  simp [Valid, builtin]

/-- A filled cache is not asked to fetch, and one that is empty and has no way to fetch stays
empty. -/
theorem cache_run_of_settled {fetch : Option (Step Fault σ (List Text))}
    {c : License.IdentifierCache σ} (h : c.held.isSome = true ∨ fetch = none) :
    (License.IdentifierCache.get fetch).run c = ⟨.ok c.held, c, []⟩ := by
  unfold Step.run License.IdentifierCache.get
  cases hheld : c.held with
  | some identifiers => rfl
  | none =>
      rcases h with h | rfl
      · simp [hheld] at h
      · rfl

/-- An empty cache takes in what comes of the fetch. -/
theorem cache_run_of_empty {fetch : Step Fault σ (List Text)} {c : License.IdentifierCache σ}
    (h : c.held = none) : (License.IdentifierCache.get (some fetch)).run c =
      License.IdentifierCache.settle (fetch.run c.source) := by
  unfold Step.run License.IdentifierCache.get
  rw [h]

theorem ofIdentifiers_run (identifiers : Option IdentifierSet) (license : Text) (s : σ) :
    ∃ verdict events, (Evaluator.ofIdentifiers identifiers license : Step Fault σ Verdict).run s =
      ⟨.ok verdict, s, events⟩ := by
  cases identifiers with
  | none => exact ⟨.unknown, [.abstention], rfl⟩
  | some free =>
      obtain ⟨answer, hanswer⟩ := License.exists_isFree license free
      refine ⟨.ofBool answer, [], ?_⟩
      rw [Evaluator.ofIdentifiers, hanswer]
      rfl

/-- With the identifiers at hand the evaluator of Gentoo does not abstain. -/
theorem gentoo_run_of_held {fetch : Option (Step Fault σ (List Text))}
    {c : License.IdentifierCache σ} {free : IdentifierSet} (h : c.held = some free)
    (license : Text) : (Evaluator.gentoo fetch license).run c =
      ⟨.ok (.ofBool ((License.isFree (some license) free).toOption == some true)), c, []⟩ := by
  have hget : (License.IdentifierCache.get fetch).run c = ⟨.ok c.held, c, []⟩ :=
    cache_run_of_settled (Or.inl (by simp [h]))
  obtain ⟨answer, hanswer⟩ := License.exists_isFree license free
  rw [Evaluator.gentoo, Step.run_bind_of_ok hget, h, Evaluator.ofIdentifiers]
  simp only [hanswer]
  cases answer <;> rfl

/-- The evaluators of the reference repositories are steady at such caches. -/
theorem steady_standard {fetch : Option (Step Fault σ (List Text))}
    {c : License.IdentifierCache σ} (hcache : c.held.isSome = true ∨ fetch = none)
    {registry : Registry} (hrules : registry.Valid) {threshold : Value}
    {hook : Option (List VoteReport → Option Fault)}
    (hpass : ∀ stop, hook = some stop → ∀ reports, stop reports = none) :
    Checker.Steady ⟨Evaluator.standard fetch, registry, threshold, hook⟩ c where
  rules := by
    intro r hr
    rcases hrules r hr with hfixed | ⟨id, hrule⟩
    · exact Or.inl hfixed
    · exact Or.inr ⟨.known id, hrule, by cases id <;> rfl⟩
  answering := by
    intro ref evaluator hevaluator license
    change Evaluator.standard fetch ref = some evaluator at hevaluator
    unfold Evaluator.standard at hevaluator
    split at hevaluator
    · obtain rfl := Option.some.inj hevaluator
      exact ⟨_, [], rfl⟩
    · obtain rfl := Option.some.inj hevaluator
      exact ⟨_, [], rfl⟩
    · obtain rfl := Option.some.inj hevaluator
      rw [Evaluator.gentoo, Step.run_bind_of_ok (cache_run_of_settled hcache)]
      obtain ⟨verdict, events, hrun⟩ := ofIdentifiers_run c.held license c
      rw [hrun]
      exact ⟨verdict, _, rfl⟩
    · cases hevaluator
  passing := hpass

/-- A checker of the reference repositories that has no way to fetch, with a hook that collects the
reports. -/
def Checker.offline (registry : Registry) : Checker (License.IdentifierCache Unit) :=
  ⟨Evaluator.standard none, registry, .real builtinThreshold, some fun _ => none⟩

theorem Checker.offline_passing (stop : List VoteReport → Option Fault)
    (h : (some fun _ => none) = some stop) (reports : List VoteReport) : stop reports = none := by
  obtain rfl := Option.some.inj h
  rfl

theorem Checker.eq_ok_of_toOption {answer : Except Fault Verdict} {verdict : Verdict}
    (h : answer.toOption = some verdict) : answer = .ok verdict := by
  cases answer with
  | error fault => cases h
  | ok given => rw [Option.some.inj h]

end DistroBallot
