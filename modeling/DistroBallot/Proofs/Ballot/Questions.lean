import DistroBallot.Proofs.Ballot.Polling
import Mathlib

/-!
# Which licenses a poll asks about

A checker can be made to write down each question that its evaluators are asked
(`Checker.recorded`). Its ballots are those of the checker itself, and what it has written down in
the end are the questions of the ballots, one ballot after the other (`ballots_recorded`). With the
equation of a poll this says which licenses a poll asks about, in which order, and that it asks
about no other.

A checker whose rules can be evaluated, whose evaluators answer and whose hook lets every report
pass is *sound*; on a project it gets a ballot of every voter.
-/

namespace DistroBallot

variable {σ : Type}

/-! ## Writing down questions -/

/-- The evaluator that writes down, beside its own state, what it is asked. -/
def Evaluator.recorded (ref : EvaluatorRef) (evaluator : Evaluator σ) :
    Evaluator (σ × List Question) := fun license => do
  Step.modify fun t => (t.1, t.2 ++ [(ref, license)])
  (evaluator license).within Prod.fst (fun t s => (s, t.2))

/-- The checker whose evaluators write down what they are asked. -/
def Checker.recorded (checker : Checker σ) : Checker (σ × List Question) where
  evaluators ref := (checker.evaluators ref).map (Evaluator.recorded ref)
  registry := checker.registry
  threshold := checker.threshold
  hook := checker.hook

/-- The session with questions written down. -/
def Session.recording (s : Session σ) (written : List Question) :
    Session (σ × List Question) :=
  ⟨(s.evaluation, written), s.reports⟩

theorem recorded_run (ref : EvaluatorRef) (evaluator : Evaluator σ) (license : Text) (s : σ)
    (written : List Question) : (evaluator.recorded ref license).run (s, written) =
      ⟨((evaluator license).run s).answer,
        (((evaluator license).run s).state, written ++ [(ref, license)]),
        ((evaluator license).run s).events⟩ := rfl

theorem answers_recorded (ref : EvaluatorRef) (evaluator : Evaluator σ) (licenses : List Text)
    (s : σ) (written : List Question) :
    (evaluator.recorded ref).answers (s, written) licenses = evaluator.answers s licenses := by
  induction licenses generalizing s written with
  | nil => rfl
  | cons license rest ih => rw [Evaluator.answers, Evaluator.answers, recorded_run, ih]

namespace Checker

theorem verdictOn_recorded (checker : Checker σ) (s : σ) (written : List Question)
    (r : Repository) (p : Package) :
    checker.recorded.verdictOn (s, written) r p = checker.verdictOn s r p := by
  unfold verdictOn
  cases r.rule with
  | fixed isFree => rfl
  | invalid content => rfl
  | evaluator ref =>
      cases h : checker.evaluators ref with
      | none => simp [recorded, h]
      | some evaluator => simp [recorded, h, answers_recorded]

theorem questionsOn_recorded (checker : Checker σ) (s : σ) (written : List Question)
    (r : Repository) (p : Package) :
    checker.recorded.questionsOn (s, written) r p = checker.questionsOn s r p := by
  unfold questionsOn
  cases r.rule with
  | fixed isFree => rfl
  | invalid content => rfl
  | evaluator ref =>
      cases h : checker.evaluators ref with
      | none => simp [recorded, h]
      | some evaluator => simp [recorded, h, answers_recorded]

/-- Only evaluators that there are get asked. -/
theorem isSome_of_mem_questionsOn {checker : Checker σ} {s : σ} {r : Repository} {p : Package}
    {q : Question} (h : q ∈ checker.questionsOn s r p) : (checker.evaluators q.1).isSome = true := by
  unfold questionsOn at h
  cases hr : r.rule with
  | fixed isFree => simp [hr] at h
  | invalid content => simp [hr] at h
  | evaluator ref =>
      cases he : checker.evaluators ref with
      | none => simp [hr, he] at h
      | some evaluator =>
          simp only [hr, he, List.mem_map] at h
          obtain ⟨license, -, rfl⟩ := h
          simp [he]

theorem askAll_recorded {checker : Checker σ} {questions : List Question}
    (h : ∀ q ∈ questions, (checker.evaluators q.1).isSome = true) (s : σ)
    (written : List Question) : checker.recorded.askAll (s, written) questions =
      (((checker.askAll s questions).1, written ++ questions), (checker.askAll s questions).2) := by
  induction questions generalizing s written with
  | nil => simp [askAll]
  | cons q rest ih =>
      rw [List.forall_mem_cons] at h
      obtain ⟨evaluator, he⟩ := Option.isSome_iff_exists.mp h.1
      have hask : checker.recorded.ask (s, written) q =
          (((checker.ask s q).1, written ++ [q]), (checker.ask s q).2) := by
        simp [ask, recorded, he, recorded_run]
      rw [askAll, askAll, hask, ih h.2]
      simp

end Checker

/-- The ballot with questions written down in its session. -/
def Ballot.recording (b : Ballot σ) (written : List Question) : Ballot (σ × List Question) :=
  ⟨b.repository, b.package, b.questions, b.verdict, b.after.recording written, b.events⟩

namespace Checker

theorem ballot_recorded (checker : Checker σ) (s : Session σ) (written : List Question)
    (voter : Repository × Package) : checker.recorded.ballot (s.recording written) voter =
      (checker.ballot s voter).recording (written ++ (checker.ballot s voter).questions) := by
  have hbound : ∀ q ∈ checker.questionsOn s.evaluation voter.1 voter.2,
      (checker.evaluators q.1).isSome = true := fun _ hq => isSome_of_mem_questionsOn hq
  have hasked := askAll_recorded hbound s.evaluation written
  unfold ballot
  simp only [Session.recording, verdictOn_recorded, questionsOn_recorded, hasked]
  cases checker.verdictOn s.evaluation voter.1 voter.2 <;> rfl

/-- **Recording changes no verdict, and writes down the questions of the ballots.** -/
theorem ballots_recorded (checker : Checker σ) (voters : List (Repository × Package))
    (s : Session σ) (written : List Question) :
    let bs := checker.ballots s voters
    let recorded := checker.recorded.ballots (s.recording written) voters
    verdicts recorded = verdicts bs ∧
    sessionAfter (s.recording written) recorded =
      (sessionAfter s bs).recording (written ++ bs.flatMap Ballot.questions) := by
  induction voters generalizing s written with
  | nil => simp [ballots, verdicts, sessionAfter]
  | cons voter rest ih =>
      have hballot := ballot_recorded checker s written voter
      cases hv : (checker.ballot s voter).verdict with
      | error fault =>
          have hv' : (checker.recorded.ballot (s.recording written) voter).verdict =
              .error fault := by
            rw [hballot]
            exact hv
          rw [ballots_cons_of_error hv, ballots_cons_of_error hv', hballot]
          simp [verdicts, Ballot.recording, hv, sessionAfter]
      | ok verdict =>
          have hv' : (checker.recorded.ballot (s.recording written) voter).verdict =
              .ok verdict := by
            rw [hballot]
            exact hv
          obtain ⟨hverdicts, hafter⟩ := ih (checker.ballot s voter).after
            (written ++ (checker.ballot s voter).questions)
          rw [ballots_cons_of_ok hv, ballots_cons_of_ok hv', hballot]
          constructor
          · simp only [verdicts, Ballot.recording, hv, hverdicts]
          · simpa [sessionAfter, Ballot.recording] using hafter

/-! ## Sound checkers -/

/-- Every rule is a verdict or names an evaluator that there is, the evaluators always answer, and
the hook lets every report pass. -/
structure Sound (checker : Checker σ) : Prop where
  rules : ∀ r ∈ checker.registry, (∃ isFree, r.rule = .fixed isFree) ∨
    ∃ ref, r.rule = .evaluator ref ∧ (checker.evaluators ref).isSome = true
  answering : ∀ ref evaluator, checker.evaluators ref = some evaluator →
    ∀ license s, ∃ verdict, ((evaluator license).run s).answer = .ok verdict
  passing : ∀ stop, checker.hook = some stop → ∀ reports, stop reports = none

theorem ok_of_mem_answers {evaluator : Evaluator σ}
    (h : ∀ license s, ∃ verdict, ((evaluator license).run s).answer = .ok verdict)
    {licenses : List Text} {s : σ} {a : Except Fault Verdict}
    (ha : a ∈ evaluator.answers s licenses) : ∃ verdict, a = .ok verdict := by
  induction licenses generalizing s with
  | nil => simp [Evaluator.answers] at ha
  | cons license rest ih =>
      rw [Evaluator.answers, List.mem_cons] at ha
      rcases ha with rfl | ha
      · exact h license s
      · exact ih ha

theorem verdictOn_of_sound {checker : Checker σ} (h : checker.Sound) {r : Repository}
    (hr : r ∈ checker.registry) (s : σ) (p : Package) :
    ∃ verdict, checker.verdictOn s r p = .ok verdict := by
  rcases h.rules r hr with ⟨isFree, hrule⟩ | ⟨ref, hrule, hbound⟩
  · simp only [verdictOn, hrule]
    exact ⟨_, rfl⟩
  · obtain ⟨evaluator, he⟩ := Option.isSome_iff_exists.mp hbound
    simp only [verdictOn, hrule, he]
    cases hfind : (evaluator.answers s p.licenses).find? (fun a => !isFreeAnswer a) with
    | none => exact ⟨.free, rfl⟩
    | some a =>
        exact ok_of_mem_answers (h.answering ref evaluator he) (List.mem_of_find?_eq_some hfind)

theorem ballot_of_sound {checker : Checker σ} (h : checker.Sound) {r : Repository}
    (hr : r ∈ checker.registry) (s : Session σ) (p : Package) :
    ∃ verdict, (checker.ballot s (r, p)).verdict = .ok verdict := by
  obtain ⟨verdict, hv⟩ := verdictOn_of_sound h hr s.evaluation p
  refine ⟨verdict, ?_⟩
  have hpass : checker.objection? s.reports ⟨r.name, p, verdict⟩ = none := by
    rw [objection?]
    cases hhook : checker.hook with
    | none => rfl
    | some stop => exact h.passing stop hhook _
  simp [ballot, hv, hpass]

theorem ballot_voter (checker : Checker σ) (s : Session σ) (voter : Repository × Package) :
    ((checker.ballot s voter).repository, (checker.ballot s voter).package) = voter := by
  unfold ballot
  cases checker.verdictOn s.evaluation voter.1 voter.2 <;> rfl

theorem ballots_of_sound {checker : Checker σ} (h : checker.Sound)
    {voters : List (Repository × Package)} (hvoters : ∀ v ∈ voters, v.1 ∈ checker.registry)
    (s : Session σ) :
    (checker.ballots s voters).map (fun b => (b.repository, b.package)) = voters ∧
    ∃ vs, verdicts (checker.ballots s voters) = .ok vs := by
  induction voters generalizing s with
  | nil => exact ⟨rfl, [], rfl⟩
  | cons voter rest ih =>
      rw [List.forall_mem_cons] at hvoters
      obtain ⟨verdict, hv⟩ := ballot_of_sound h hvoters.1 s voter.2
      obtain ⟨hmap, vs, hvs⟩ := ih hvoters.2 (checker.ballot s voter).after
      rw [ballots_cons_of_ok hv, List.map_cons, hmap, ballot_voter]
      exact ⟨rfl, verdict :: vs, by simp [verdicts, hv, hvs, Except.map]⟩

theorem mem_registry_of_mem_voters {registry : Registry} {packages : List Package}
    {voter : Repository × Package} (h : voter ∈ registry.voters packages) :
    voter.1 ∈ registry := by
  obtain ⟨place, -, hplace⟩ := List.mem_filterMap.mp h
  rw [Registry.voterAt, Option.bind_eq_some_iff] at hplace
  obtain ⟨r, hr, hvoter⟩ := hplace
  obtain ⟨p, -, rfl⟩ := Option.map_eq_some_iff.mp hvoter
  exact List.mem_of_getElem? hr

theorem exists_decided {threshold : Value} (h : threshold.number?.isSome = true)
    (vs : List Verdict) : ∃ verdict, decided vs threshold = .ok verdict := by
  obtain ⟨limit, hlimit⟩ := Option.isSome_iff_exists.mp h
  unfold decided
  split
  · exact ⟨.unknown, rfl⟩
  · simp only [hlimit]
    exact ⟨_, rfl⟩

/-- **A poll is the ballots of the voters.** The verdict on a project is what the verdicts of its
voters decide, each cast once and in the order in which the repositories appear first; a checker
that writes down questions comes to the same verdict and has written down those of the ballots, in
their order. A sound checker gets a ballot of every voter and, if its threshold is a number, comes
to a verdict. -/
theorem projectVerdict_eq_decided_of_ballots (checker : Checker σ) (project : Project)
    (s : Session σ) (hsub : ∀ p ∈ project.packages, p.TextSubrepo) :
    let voters := checker.registry.voters project.packages
    let bs := checker.ballots s voters
    let ended := (checker.projectVerdict project).run s
    let recorded := (checker.recorded.projectVerdict project).run (s.recording [])
    ended.answer = ((verdicts bs).bind fun vs => decided vs checker.threshold) ∧
    recorded.answer = ended.answer ∧
    recorded.state.evaluation.2 = bs.flatMap Ballot.questions ∧
    (checker.Sound → bs.map (fun b => (b.repository, b.package)) = voters ∧
      ∃ vs, verdicts bs = .ok vs ∧ ended.answer = decided vs checker.threshold ∧
        (checker.threshold.number?.isSome = true → ∃ verdict, ended.answer = .ok verdict)) := by
  intro voters bs ended recorded
  obtain ⟨hverdicts, hafter⟩ := ballots_recorded checker voters s []
  have hrun := projectVerdict_run checker.recorded hsub (s.recording [])
  have hanswer : ended.answer = (verdicts bs).bind fun vs => decided vs checker.threshold :=
    congrArg Ended.answer (projectVerdict_run checker hsub s)
  refine ⟨hanswer, ?_, ?_, ?_⟩
  · rw [hanswer, ← hverdicts]
    exact congrArg Ended.answer hrun
  · have hstate : recorded.state =
        sessionAfter (s.recording []) (checker.recorded.ballots (s.recording []) voters) :=
      congrArg Ended.state hrun
    rw [hstate, hafter]
    rfl
  · intro hsound
    obtain ⟨hmap, vs, hvs⟩ :=
      ballots_of_sound hsound (fun _ hv => mem_registry_of_mem_voters hv) s
    have hdecided : ended.answer = decided vs checker.threshold := by
      rw [hanswer, hvs]
      rfl
    refine ⟨hmap, vs, hvs, hdecided, fun hnumber => ?_⟩
    rw [hdecided]
    exact exists_decided hnumber vs

/-- An evaluator that gives the verdicts of a script in turn, and abstains when it has run out. -/
def playScript : Evaluator (List Verdict) := fun _ script =>
  match script with
  | [] => ⟨.ok .unknown, [], []⟩
  | verdict :: rest => ⟨.ok verdict, rest, []⟩

/-- A checker of the known repositories whose evaluators play one script. -/
def scripted : Checker (List Verdict) where
  evaluators _ := some playScript
  registry := .builtin
  threshold := .real builtinThreshold
  hook := none

theorem sound_scripted : scripted.Sound where
  rules := by simp [scripted, Registry.builtin]
  answering := by
    intro ref evaluator h license s
    obtain rfl := Option.some.inj h
    cases s with
    | nil => exact ⟨.unknown, rfl⟩
    | cons verdict rest => exact ⟨verdict, rfl⟩
  passing := by
    intro stop h
    cases h

/-- A project with five packages of three repositories and one of none. -/
def ported : Project where
  name := "ported".toList
  packages := [
    { repo := "gentoo".toList, licenses := ["MIT".toList, "X".toList, "BSD".toList] },
    { repo := "debian_12".toList, subrepo := .ofString "main" },
    { repo := "gentoo".toList, licenses := ["GPL-2".toList] },
    { repo := "freebsd".toList, licenses := ["BSD".toList] },
    { repo := "arch".toList, licenses := ["custom".toList] },
    { repo := "debian_13".toList, subrepo := .ofString "contrib" }]

/-- The second license of the first package is not free, so that its third one is not asked about,
and no more is its second package; two of three votes are free. -/
theorem projectVerdict_ported : (∀ p ∈ ported.packages, p.TextSubrepo) ∧ scripted.Sound ∧
    ((scripted.projectVerdict ported).run ⟨[.free, .nonFree, .free], []⟩).answer.toOption =
      some .free ∧
    ((scripted.recorded.projectVerdict ported).run
        ⟨([.free, .nonFree, .free], []), []⟩).state.evaluation.2 =
      [(.known .gentoo, "MIT".toList), (.known .gentoo, "X".toList),
        (.known .arch, "custom".toList)] := by
  have hsub : ∀ p ∈ ported.packages, p.TextSubrepo := by
    simp [ported, Package.TextSubrepo, Value.ofString]
  obtain ⟨hanswer, -, hquestions, hsound⟩ := projectVerdict_eq_decided_of_ballots scripted ported
    ⟨[.free, .nonFree, .free], []⟩ hsub
  refine ⟨hsub, sound_scripted, ?_, ?_⟩
  · rw [hanswer]
    decide +kernel
  · refine hquestions.trans ?_
    decide +kernel

end Checker
end DistroBallot
