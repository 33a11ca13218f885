import DistroBallot.Proofs.Ballot.Checks
import DistroBallot.Proofs.Ballot.Observers
import Mathlib

/-!
# Hooks

A hook sees the reports of a check and may stop it, and that is all it can do. The ballots of a
check under a hook are those under a hook that lets every report pass, up to the one at whose report
the hook objects first (`Checker.ballots_withHook`); and those are the ballots without a hook,
except that the reports are collected.

Two checks whose hooks differ are compared by a relation between the reports that the hooks hold: if
the hooks agree along it (`Checker.Agree`), the checks go alike and the relation still holds after
them (`Checker.Agree.check`). So a hook that lets every report pass is compared with none, and a
hook that has seen reports before with one that has not.
-/

namespace DistroBallot

variable {σ : Type}

/-- What a hook is: whether a check is to be stopped, by the reports that have been collected. -/
abbrev Hook := List VoteReport → Option Fault

/-- The report of a ballot, if it comes to a verdict. -/
def Ballot.report? (b : Ballot σ) : Option VoteReport :=
  b.verdict.toOption.map fun verdict => ⟨b.repository.name, b.package, verdict⟩

/-- Whether a fault is one of the registry: a rule that is none, or an evaluator that nobody
knows. -/
def Fault.isRegistry : Fault → Bool
  | .unknownEvaluator .. => true
  | .invalidRule .. => true
  | _ => false

namespace Checker

/-- The checker with another hook, or without one. -/
def withHook (checker : Checker σ) (hook : Option Hook) : Checker σ := { checker with hook }

/-! ## A check as its ballots -/

/-- What a check comes to by the verdicts of its ballots. -/
def conclusion (checker : Checker σ) : Subject → List Verdict → Except Fault Verdict
  | .package p, vs =>
    if checker.registry.canPlace p then .ok (vs.headD .unknown) else .error .notText
  | .project project, vs =>
    if project.packages.all checker.registry.canPlace then decided vs checker.threshold
    else .error .notText
  | .other content, _ => .error (.unsupported content.kindName)

/-- What is told in a check after its ballots. -/
def epilogue (checker : Checker σ) (bs : List (Ballot σ)) : Subject → List Log.Event
  | .project project =>
    if project.packages.all checker.registry.canPlace then checker.closing project bs else []
  | .package _ => []
  | .other _ => []

theorem check_run (checker : Checker σ) (subject : Subject) (s : Session σ) :
    let bs := checker.ballotsOn s subject
    (checker.check subject).run s =
      ⟨(verdicts bs).bind (checker.conclusion subject), sessionAfter s bs,
        bs.flatMap Ballot.events ++ checker.epilogue bs subject⟩ := by
  cases subject with
  | package p =>
      refine (packageVerdict_run checker p s).trans ?_
      rw [epilogue, List.append_nil]
      rfl
  | project project => exact projectVerdict_run_reached checker project s
  | other content => rfl

theorem closing_congr (checker : Checker σ) (project : Project) {bs bs' : List (Ballot σ)}
    (h : verdicts bs = verdicts bs') :
    checker.closing project bs = checker.closing project bs' := by
  rw [closing, closing, h]

theorem epilogue_congr (checker : Checker σ) {bs bs' : List (Ballot σ)}
    (h : verdicts bs = verdicts bs') (subject : Subject) :
    checker.epilogue bs subject = checker.epilogue bs' subject := by
  cases subject with
  | project project => rw [epilogue, epilogue, closing_congr checker project h]
  | _ => rfl

/-- The questions that are asked in a check: which evaluator, and about which license. -/
def asked (checker : Checker σ) (s : Session σ) (subject : Subject) : List Question :=
  ((checker.recorded.check subject).run (s.recording [])).state.evaluation.2

theorem asked_eq (checker : Checker σ) (s : Session σ) (subject : Subject) :
    checker.asked s subject = (checker.ballotsOn s subject).flatMap Ballot.questions := by
  obtain ⟨-, hafter⟩ := ballots_recorded checker
    (checker.registry.voters (checker.reached subject.packages)) s []
  rw [asked, check_state]
  exact congrArg (fun t => t.evaluation.2) hafter

/-! ## Hooks that agree -/

/-- Two hooks that agree on what to stop at, along a relation between the reports they hold. -/
structure Agree (checker : Checker σ) (h h' : Option Hook)
    (R : List VoteReport → List VoteReport → Prop) : Prop where
  objects : ∀ {reports reports'}, R reports reports' → ∀ r,
    (checker.withHook h).objection? reports r = (checker.withHook h').objection? reports' r
  collects : ∀ {reports reports'}, R reports reports' → ∀ r,
    R ((checker.withHook h).collect reports r) ((checker.withHook h').collect reports' r)

variable {checker : Checker σ} {h h' : Option Hook}
  {R : List VoteReport → List VoteReport → Prop}

theorem askAll_withHook (checker : Checker σ) (h : Option Hook) (s : σ)
    (questions : List Question) :
    (checker.withHook h).askAll s questions = checker.askAll s questions := by
  induction questions generalizing s with
  | nil => rfl
  | cons q rest ih =>
      have hask : (checker.withHook h).ask s q = checker.ask s q := rfl
      rw [askAll, askAll, hask, ih]

/-- A vote that ends in a fault is not reported, so that no hook makes a difference. -/
theorem ballot_withHook_of_error {s : Session σ} {voter : Repository × Package} {fault : Fault}
    (hv : checker.verdictOn s.evaluation voter.1 voter.2 = .error fault) (h : Option Hook) :
    let questions := checker.questionsOn s.evaluation voter.1 voter.2
    let asked := checker.askAll s.evaluation questions
    (checker.withHook h).ballot s voter =
      ⟨voter.1, voter.2, questions, .error fault, ⟨asked.1, s.reports⟩, asked.2⟩ := by
  have hv' : (checker.withHook h).verdictOn s.evaluation voter.1 voter.2 = .error fault := hv
  have hquestions : (checker.withHook h).questionsOn s.evaluation voter.1 voter.2 =
      checker.questionsOn s.evaluation voter.1 voter.2 := rfl
  simp only [ballot, hv', hquestions, askAll_withHook]

/-- The hook comes in only when a verdict is reported. -/
theorem ballot_withHook_of_ok {s : Session σ} {voter : Repository × Package} {verdict : Verdict}
    (hv : checker.verdictOn s.evaluation voter.1 voter.2 = .ok verdict) (h : Option Hook) :
    let questions := checker.questionsOn s.evaluation voter.1 voter.2
    let asked := checker.askAll s.evaluation questions
    let report : VoteReport := ⟨voter.1.name, voter.2, verdict⟩
    (checker.withHook h).ballot s voter =
      ⟨voter.1, voter.2, questions,
        match (checker.withHook h).objection? s.reports report with
        | none => .ok verdict
        | some fault => .error fault,
        ⟨asked.1, (checker.withHook h).collect s.reports report⟩, asked.2 ++ [.vote report]⟩ := by
  have hv' : (checker.withHook h).verdictOn s.evaluation voter.1 voter.2 = .ok verdict := hv
  have hquestions : (checker.withHook h).questionsOn s.evaluation voter.1 voter.2 =
      checker.questionsOn s.evaluation voter.1 voter.2 := rfl
  cases hobjection : (checker.withHook h).objection? s.reports ⟨voter.1.name, voter.2, verdict⟩ with
  | none => simp only [ballot, hv', hquestions, askAll_withHook, hobjection]
  | some fault => simp only [ballot, hv', hquestions, askAll_withHook, hobjection]

/-- Ballots that are the same except for the reports, which are related after them. -/
structure Alike (R : List VoteReport → List VoteReport → Prop) (s s' : Session σ)
    (bs bs' : List (Ballot σ)) : Prop where
  verdicts : verdicts bs = verdicts bs'
  questions : bs.flatMap Ballot.questions = bs'.flatMap Ballot.questions
  events : bs.flatMap Ballot.events = bs'.flatMap Ballot.events
  evaluation : (sessionAfter s bs).evaluation = (sessionAfter s' bs').evaluation
  reports : R (sessionAfter s bs).reports (sessionAfter s' bs').reports

theorem Agree.ballot (hagree : checker.Agree h h' R) {s s' : Session σ}
    (he : s.evaluation = s'.evaluation) (hr : R s.reports s'.reports)
    (voter : Repository × Package) :
    let b := (checker.withHook h).ballot s voter
    let b' := (checker.withHook h').ballot s' voter
    b.verdict = b'.verdict ∧ b.questions = b'.questions ∧ b.events = b'.events ∧
      b.after.evaluation = b'.after.evaluation ∧ R b.after.reports b'.after.reports := by
  cases hv : checker.verdictOn s'.evaluation voter.1 voter.2 with
  | error fault =>
      rw [ballot_withHook_of_error hv, ballot_withHook_of_error (he ▸ hv), he]
      exact ⟨rfl, rfl, rfl, rfl, hr⟩
  | ok verdict =>
      have hobjects := hagree.objects hr ⟨voter.1.name, voter.2, verdict⟩
      rw [ballot_withHook_of_ok hv, ballot_withHook_of_ok (he ▸ hv), he, hobjects]
      exact ⟨rfl, rfl, rfl, rfl, hagree.collects hr _⟩

/-- **Under hooks that agree, voters cast the same ballots.** -/
theorem Agree.ballots (hagree : checker.Agree h h' R) {s s' : Session σ}
    (he : s.evaluation = s'.evaluation) (hr : R s.reports s'.reports)
    (voters : List (Repository × Package)) :
    Alike R s s' ((checker.withHook h).ballots s voters)
      ((checker.withHook h').ballots s' voters) := by
  induction voters generalizing s s' with
  | nil => exact ⟨rfl, rfl, rfl, he, hr⟩
  | cons voter rest ih =>
      obtain ⟨hverdict, hquestions, hevents, hevaluation, hreports⟩ := hagree.ballot he hr voter
      cases hv : ((checker.withHook h').ballot s' voter).verdict with
      | error fault =>
          rw [hv] at hverdict
          rw [ballots_cons_of_error hv, ballots_cons_of_error hverdict]
          constructor
          · simp only [verdicts, hverdict, hv]
          · simp only [List.flatMap_cons, List.flatMap_nil, hquestions]
          · simp only [List.flatMap_cons, List.flatMap_nil, hevents]
          · exact hevaluation
          · exact hreports
      | ok verdict =>
          rw [hv] at hverdict
          rw [ballots_cons_of_ok hv, ballots_cons_of_ok hverdict]
          obtain ⟨hverdicts', hquestions', hevents', hevaluation', hreports'⟩ :=
            ih hevaluation hreports
          constructor
          · simp only [verdicts, hverdict, hv, hverdicts']
          · rw [List.flatMap_cons, List.flatMap_cons, hquestions, hquestions']
          · rw [List.flatMap_cons, List.flatMap_cons, hevents, hevents']
          · exact hevaluation'
          · exact hreports'

/-- **Under hooks that agree, checks go alike.** -/
theorem Agree.check (hagree : checker.Agree h h' R) {s s' : Session σ}
    (he : s.evaluation = s'.evaluation) (hr : R s.reports s'.reports) (subject : Subject) :
    let ended := ((checker.withHook h).check subject).run s
    let ended' := ((checker.withHook h').check subject).run s'
    ended.answer = ended'.answer ∧
      (checker.withHook h).asked s subject = (checker.withHook h').asked s' subject ∧
      ended.events = ended'.events ∧ ended.state.evaluation = ended'.state.evaluation ∧
      R ended.state.reports ended'.state.reports := by
  have halike : Alike R s s' ((checker.withHook h).ballotsOn s subject)
      ((checker.withHook h').ballotsOn s' subject) :=
    hagree.ballots he hr (checker.registry.voters (checker.reached subject.packages))
  dsimp only
  rw [check_run, check_run, asked_eq, asked_eq]
  refine ⟨?_, halike.questions, ?_, halike.evaluation, halike.reports⟩
  · exact congrArg (·.bind (checker.conclusion subject)) halike.verdicts
  · exact congrArg₂ (· ++ ·) halike.events (checker.epilogue_congr halike.verdicts subject)

/-- The hook that collects the reports and lets them all pass. -/
def letPass : Hook := fun _ => none

/-- A hook that lets every report pass does what none does, but for the reports. -/
theorem agree_letPass_none (checker : Checker σ) :
    checker.Agree (some letPass) none fun _ _ => True where
  objects _ _ := rfl
  collects _ _ := trivial

/-! ## Objections -/

/-- The reports of ballots. -/
def reportsIn (bs : List (Ballot σ)) : List VoteReport := bs.filterMap Ballot.report?

theorem reportsIn_cons {b : Ballot σ} {r : VoteReport} (h : b.report? = some r)
    (bs : List (Ballot σ)) : reportsIn (b :: bs) = r :: reportsIn bs :=
  List.filterMap_cons_some h

theorem reportsIn_singleton {b : Ballot σ} (h : b.report? = none) : reportsIn [b] = [] :=
  List.filterMap_cons_none h

/-- Ballots up to the one at whose report a hook objects first, which ends in the fault of the
hook. -/
def upTo (stop : Hook) : List (Ballot σ) → List (Ballot σ)
  | [] => []
  | b :: rest =>
    match b.verdict, stop b.after.reports with
    | .error _, _ => [b]
    | .ok _, none => b :: upTo stop rest
    | .ok _, some fault => [{ b with verdict := .error fault }]

variable {stop : Hook} {s : Session σ} {voter : Repository × Package}
  {voters : List (Repository × Package)}

theorem ballot_stop_of_error (stop : Hook) {fault : Fault}
    (hv : ((checker.withHook (some letPass)).ballot s voter).verdict = .error fault) :
    let b := (checker.withHook (some letPass)).ballot s voter
    b.report? = none ∧ b.after.reports = s.reports ∧
    (checker.withHook (some stop)).ballot s voter = b := by
  intro b
  cases hvote : checker.verdictOn s.evaluation voter.1 voter.2 with
  | error fault =>
      have hb : b = _ := ballot_withHook_of_error hvote (some letPass)
      rw [hb, ballot_withHook_of_error hvote]
      exact ⟨rfl, rfl, rfl⟩
  | ok verdict =>
      rw [ballot_withHook_of_ok hvote] at hv
      cases hv

/-- A ballot that is reported leaves its report, at which a hook may object. -/
theorem ballot_stop_of_ok (stop : Hook) {verdict : Verdict}
    (hv : ((checker.withHook (some letPass)).ballot s voter).verdict = .ok verdict) :
    let b := (checker.withHook (some letPass)).ballot s voter
    let report : VoteReport := ⟨voter.1.name, voter.2, verdict⟩
    b.report? = some report ∧ b.after.reports = s.reports ++ [report] ∧
    (checker.withHook (some stop)).ballot s voter =
      { b with verdict := match stop b.after.reports with
          | none => .ok verdict
          | some fault => .error fault } := by
  intro b report
  cases hvote : checker.verdictOn s.evaluation voter.1 voter.2 with
  | error fault =>
      rw [ballot_withHook_of_error hvote] at hv
      cases hv
  | ok given =>
      have hb : b = _ := ballot_withHook_of_ok hvote (some letPass)
      change b.verdict = .ok verdict at hv
      rw [hb] at hv
      obtain rfl : given = verdict := Except.ok.inj hv
      have hreports : b.after.reports = s.reports ++ [report] :=
        congrArg (fun b => b.after.reports) hb
      refine ⟨?_, hreports, ?_⟩
      · exact congrArg Ballot.report? hb
      · rw [hreports, ballot_withHook_of_ok hvote, hb]
        rfl

/-- **Under a hook, voters cast the ballots that they cast under one that lets every report pass,**
up to the first objection. -/
theorem ballots_withHook (checker : Checker σ) (stop : Hook) (s : Session σ)
    (voters : List (Repository × Package)) : (checker.withHook (some stop)).ballots s voters =
      upTo stop ((checker.withHook (some letPass)).ballots s voters) := by
  induction voters generalizing s with
  | nil => rfl
  | cons voter rest ih =>
      cases hv : ((checker.withHook (some letPass)).ballot s voter).verdict with
      | error fault =>
          obtain ⟨-, -, hballot⟩ := ballot_stop_of_error stop hv
          rw [ballots_cons_of_error hv, ballots_cons_of_error (hballot ▸ hv), hballot, upTo, hv]
      | ok verdict =>
          obtain ⟨-, -, hballot⟩ := ballot_stop_of_ok stop hv
          rw [ballots_cons_of_ok hv, upTo, hv]
          cases hstop : stop ((checker.withHook (some letPass)).ballot s voter).after.reports with
          | none =>
              rw [hstop] at hballot
              have hsame : (checker.withHook (some stop)).ballot s voter =
                  (checker.withHook (some letPass)).ballot s voter := by
                rw [hballot, ← hv]
              rw [ballots_cons_of_ok (hsame ▸ hv), hsame, ih]
          | some fault =>
              rw [hstop] at hballot
              have herror : ((checker.withHook (some stop)).ballot s voter).verdict =
                  .error fault := by rw [hballot]
              rw [ballots_cons_of_error herror, hballot]

theorem sessionAfter_cons (s : Session σ) (b : Ballot σ) (bs : List (Ballot σ)) :
    sessionAfter s (b :: bs) = sessionAfter b.after bs := rfl

/-- The hook collects the reports of the ballots one after the other. -/
theorem reports_letPass (checker : Checker σ) (s : Session σ)
    (voters : List (Repository × Package)) :
    (sessionAfter s ((checker.withHook (some letPass)).ballots s voters)).reports =
      s.reports ++ reportsIn ((checker.withHook (some letPass)).ballots s voters) := by
  induction voters generalizing s with
  | nil => exact (List.append_nil _).symm
  | cons voter rest ih =>
      cases hv : ((checker.withHook (some letPass)).ballot s voter).verdict with
      | error fault =>
          obtain ⟨hreport, hreports, -⟩ := ballot_stop_of_error letPass hv
          rw [ballots_cons_of_error hv, reportsIn_singleton hreport]
          exact hreports.trans (List.append_nil _).symm
      | ok verdict =>
          obtain ⟨hreport, hreports, -⟩ := ballot_stop_of_ok letPass hv
          rw [ballots_cons_of_ok hv, reportsIn_cons hreport]
          rw [sessionAfter_cons, ih, hreports, List.append_assoc]
          rfl

/-- The first objection of a hook: to the report with this number, counted from zero. -/
structure Objects (stop : Hook) (seen reports : List VoteReport) (k : ℕ) (fault : Fault) :
    Prop where
  within : k < reports.length
  stops : stop (seen ++ reports.take (k + 1)) = some fault
  passes : ∀ j < k, stop (seen ++ reports.take (j + 1)) = none

/-- No objection of a hook to any of the reports. -/
def Passes (stop : Hook) (seen reports : List VoteReport) : Prop :=
  ∀ k < reports.length, stop (seen ++ reports.take (k + 1)) = none

theorem passes_or_objects (stop : Hook) (seen reports : List VoteReport) :
    Passes stop seen reports ∨ ∃ k fault, Objects stop seen reports k fault := by
  classical
  by_cases h : ∃ k, k < reports.length ∧ stop (seen ++ reports.take (k + 1)) ≠ none
  · obtain ⟨hwithin, hstops⟩ := Nat.find_spec h
    obtain ⟨fault, hfault⟩ := Option.ne_none_iff_exists'.mp hstops
    refine .inr ⟨Nat.find h, fault, hwithin, hfault, ?_⟩
    intro j hj
    by_contra hne
    exact Nat.find_min h hj ⟨hj.trans hwithin, hne⟩
  · left
    intro k hk
    by_contra hne
    exact h ⟨k, hk, hne⟩

/-- A first report that passes is seen before the others. -/
theorem passes_cons {seen : List VoteReport} {r : VoteReport} {reports : List VoteReport} :
    Passes stop seen (r :: reports) ↔
      stop (seen ++ [r]) = none ∧ Passes stop (seen ++ [r]) reports := by
  constructor
  · intro h
    refine ⟨h 0 (Nat.succ_pos _), ?_⟩
    intro k hk
    rw [List.append_assoc]
    exact h (k + 1) (Nat.succ_lt_succ hk)
  · rintro ⟨hfirst, hrest⟩ k hk
    cases k with
    | zero => exact hfirst
    | succ k =>
        have := hrest k (Nat.lt_of_succ_lt_succ hk)
        rwa [List.append_assoc] at this

/-- The first objection is to the first report, or to one of the others, after it has passed. -/
theorem Objects.cons_cases {seen : List VoteReport} {r : VoteReport} {reports : List VoteReport}
    {k : ℕ} {fault : Fault} (h : Objects stop seen (r :: reports) k fault) :
    (k = 0 ∧ stop (seen ++ [r]) = some fault) ∨
      ∃ j, k = j + 1 ∧ stop (seen ++ [r]) = none ∧
        Objects stop (seen ++ [r]) reports j fault := by
  obtain ⟨hwithin, hstops, hpasses⟩ := h
  cases k with
  | zero => exact .inl ⟨rfl, hstops⟩
  | succ j =>
      refine .inr ⟨j, rfl, hpasses 0 (Nat.succ_pos j), Nat.lt_of_succ_lt_succ hwithin, ?_, ?_⟩
      · rw [List.append_assoc]
        exact hstops
      · intro i hi
        rw [List.append_assoc]
        exact hpasses (i + 1) (Nat.succ_lt_succ hi)

theorem upTo_of_passes (h : Passes stop s.reports
      (reportsIn ((checker.withHook (some letPass)).ballots s voters))) :
    upTo stop ((checker.withHook (some letPass)).ballots s voters) =
      (checker.withHook (some letPass)).ballots s voters := by
  induction voters generalizing s with
  | nil => rfl
  | cons voter rest ih =>
      cases hv : ((checker.withHook (some letPass)).ballot s voter).verdict with
      | error fault => rw [ballots_cons_of_error hv, upTo, hv]
      | ok verdict =>
          obtain ⟨hreport, hreports, -⟩ := ballot_stop_of_ok stop hv
          rw [ballots_cons_of_ok hv, reportsIn_cons hreport, passes_cons,
            ← hreports] at h
          rw [ballots_cons_of_ok hv, upTo, hv, h.1]
          dsimp only
          rw [ih h.2]

/-- **An objection cuts the ballots off after the report it is to.** -/
theorem upTo_of_objects {k : ℕ} {fault : Fault}
    (h : Objects stop s.reports
      (reportsIn ((checker.withHook (some letPass)).ballots s voters)) k fault) :
    let bs := (checker.withHook (some letPass)).ballots s voters
    verdicts (upTo stop bs) = .error fault ∧
    (upTo stop bs).flatMap Ballot.questions = (bs.take (k + 1)).flatMap Ballot.questions ∧
    (sessionAfter s (upTo stop bs)).reports = s.reports ++ (reportsIn bs).take (k + 1) := by
  induction voters generalizing s k with
  | nil => cases h.within
  | cons voter rest ih =>
      cases hv : ((checker.withHook (some letPass)).ballot s voter).verdict with
      | error other =>
          obtain ⟨hreport, -, -⟩ := ballot_stop_of_error stop hv
          rw [ballots_cons_of_error hv, reportsIn_singleton hreport] at h
          cases h.within
      | ok verdict =>
          obtain ⟨hreport, hreports, -⟩ := ballot_stop_of_ok stop hv
          dsimp only
          rw [ballots_cons_of_ok hv, reportsIn_cons hreport] at h ⊢
          rcases h.cons_cases with ⟨rfl, hstop⟩ | ⟨j, rfl, hnone, hrest⟩
          · rw [← hreports] at hstop
            rw [upTo, hv, hstop]
            exact ⟨rfl, by simp, hreports⟩
          · rw [← hreports] at hnone hrest
            obtain ⟨hverdicts, hquestions, hafter⟩ := ih hrest
            rw [upTo, hv, hnone]
            dsimp only
            refine ⟨?_, ?_, ?_⟩
            · simp only [verdicts, hv, hverdicts, Except.map]
            · rw [List.flatMap_cons, hquestions, List.take_succ_cons, List.flatMap_cons]
            · rw [sessionAfter_cons, hafter, hreports, List.append_assoc, List.take_succ_cons]
              rfl

/-! ## Votes that end in a fault -/

/-- Why the vote of a repository through a package ends in a fault, when the evaluators are in some
state: its rule cannot be evaluated, or its evaluator stops at a license. -/
inductive Offends (checker : Checker σ) (s : σ) (r : Repository) (p : Package) : Fault → Prop where
  | invalid {content : Value} (rule : r.rule = .invalid content) :
      Offends checker s r p (.invalidRule r.name content)
  | unbound {ref : EvaluatorRef} (rule : r.rule = .evaluator ref)
      (unknown : checker.evaluators ref = none) :
      Offends checker s r p (.unknownEvaluator r.name ref)
  | stopped {ref : EvaluatorRef} {evaluator : Evaluator σ} {fault : Fault}
      (rule : r.rule = .evaluator ref) (known : checker.evaluators ref = some evaluator)
      (answered : .error fault ∈ evaluator.answers s p.licenses) : Offends checker s r p fault

theorem offends_of_verdictOn {s : σ} {r : Repository} {p : Package} {fault : Fault}
    (h : checker.verdictOn s r p = .error fault) : checker.Offends s r p fault := by
  unfold verdictOn at h
  cases hrule : r.rule with
  | fixed isFree =>
      rw [hrule] at h
      cases h
  | invalid content =>
      rw [hrule] at h
      obtain rfl := Except.error.inj h
      exact .invalid hrule
  | evaluator ref =>
      rw [hrule] at h
      dsimp only at h
      cases hevaluator : checker.evaluators ref with
      | none =>
          rw [hevaluator] at h
          obtain rfl := Except.error.inj h
          exact .unbound hrule hevaluator
      | some evaluator =>
          rw [hevaluator] at h
          dsimp only at h
          cases hfind : (evaluator.answers s p.licenses).find? (fun a => !isFreeAnswer a) with
          | none =>
              rw [hfind] at h
              cases h
          | some answer =>
              rw [hfind, Option.getD_some] at h
              rw [h] at hfind
              exact .stopped hrule hevaluator (List.mem_of_find?_eq_some hfind)

/-- Ballots that end in a fault end in that of the last one; those before it have verdicts. -/
theorem exists_of_verdicts_eq_error {fault : Fault}
    (h : verdicts (checker.ballots s voters) = .error fault) :
    ∃ early voter late vs, voters = early ++ voter :: late ∧
      verdicts (checker.ballots s early) = .ok vs ∧
      (checker.ballot (sessionAfter s (checker.ballots s early)) voter).verdict = .error fault ∧
      sessionAfter s (checker.ballots s voters) =
        (checker.ballot (sessionAfter s (checker.ballots s early)) voter).after := by
  induction voters generalizing s with
  | nil => cases h
  | cons voter rest ih =>
      cases hv : (checker.ballot s voter).verdict with
      | error other =>
          rw [ballots_cons_of_error hv] at h ⊢
          simp only [verdicts, hv] at h
          obtain rfl := Except.error.inj h
          exact ⟨[], voter, rest, [], rfl, rfl, hv, rfl⟩
      | ok verdict =>
          rw [ballots_cons_of_ok hv] at h ⊢
          simp only [verdicts, hv] at h
          cases hrest : verdicts (checker.ballots (checker.ballot s voter).after rest) with
          | ok vs =>
              rw [hrest] at h
              cases h
          | error other =>
              rw [hrest] at h
              obtain rfl := Except.error.inj h
              obtain ⟨early, last, late, vs, hsplit, hearly, hlast, hafter⟩ := ih hrest
              refine ⟨voter :: early, last, late, verdict :: vs, by rw [hsplit]; rfl, ?_, ?_, ?_⟩
              · rw [ballots_cons_of_ok hv]
                simp only [verdicts, hv, hearly, Except.map]
              · rw [ballots_cons_of_ok hv]
                exact hlast
              · rw [ballots_cons_of_ok hv]
                exact hafter

/-- A vote that ends in a fault comes after the reports of the packages before that of the vote. -/
theorem offender_of_verdicts {packages : List Package} {fault : Fault}
    (h : verdicts ((checker.withHook (some letPass)).ballots s
      (checker.registry.voters (checker.reached packages))) = .error fault) :
    let calm := checker.withHook (some letPass)
    ∃ before p after r place vs, packages = before ++ p :: after ∧
      checker.registry.home p = some place ∧ checker.registry[place]? = some r ∧
      (∀ q ∈ before, checker.registry.home q ≠ some place) ∧
      checker.Offends
        (sessionAfter s (calm.ballots s (checker.registry.voters before))).evaluation r p fault ∧
      verdicts (calm.ballots s (checker.registry.voters before)) = .ok vs ∧
      (sessionAfter s
          (calm.ballots s (checker.registry.voters (checker.reached packages)))).reports =
        s.reports ++ reportsOf (checker.registry.voters before) vs := by
  intro calm
  obtain ⟨early, voter, late, vs, hsplit, hearly, hlast, hafter⟩ := exists_of_verdicts_eq_error h
  rw [← Registry.votersFrom_nil] at hsplit
  obtain ⟨before, after, place, hreached, hbefore, hhome, hr, -, hothers⟩ :=
    Registry.exists_of_votersFrom hsplit
  rw [Registry.votersFrom_nil] at hbefore
  obtain ⟨rest, hrest⟩ := List.takeWhile_prefix (l := packages) checker.registry.canPlace
  change checker.reached packages ++ rest = packages at hrest
  obtain ⟨-, hreports, -⟩ := ballots_reported (show calm.hook.isSome = true from rfl) hearly
  obtain ⟨-, hkept, -⟩ := ballot_stop_of_error letPass hlast
  refine ⟨before, voter.2, after ++ rest, voter.1, place, vs, ?_, hhome, hr, hothers, ?_, ?_, ?_⟩
  · rw [← hrest, hreached, List.append_assoc, List.cons_append]
  · rw [hbefore]
    apply offends_of_verdictOn
    cases hvote : checker.verdictOn (sessionAfter s (calm.ballots s early)).evaluation
        voter.1 voter.2 with
    | error other =>
        rw [ballot_withHook_of_error hvote] at hlast
        exact hlast
    | ok verdict =>
        rw [ballot_withHook_of_ok hvote] at hlast
        cases hlast
  · rw [hbefore]
    exact hearly
  · rw [hafter, hkept, hbefore]
    exact hreports

/-- What a check comes to by verdicts is no fault of the registry. -/
theorem isRegistry_eq_false_of_conclusion {subject : Subject} {vs : List Verdict} {fault : Fault}
    (h : checker.conclusion subject vs = .error fault) : fault.isRegistry = false := by
  cases subject with
  | package p =>
      rw [conclusion] at h
      split at h
      · cases h
      · obtain rfl := Except.error.inj h
        rfl
  | project project =>
      rw [conclusion, decided] at h
      split at h
      · split at h
        · cases h
        · split at h
          · cases h
          · obtain rfl := Except.error.inj h
            rfl
      · obtain rfl := Except.error.inj h
        rfl
  | other content =>
      obtain rfl := Except.error.inj h
      rfl

theorem verdicts_of_isRegistry {bs : List (Ballot σ)} {subject : Subject} {fault : Fault}
    (h : (verdicts bs).bind (checker.conclusion subject) = .error fault)
    (hregistry : fault.isRegistry = true) : verdicts bs = .error fault := by
  cases hbs : verdicts bs with
  | error other =>
      rw [hbs] at h
      obtain rfl := Except.error.inj h
      rfl
  | ok vs =>
      rw [hbs] at h
      rw [isRegistry_eq_false_of_conclusion h] at hregistry
      cases hregistry

/-! ## Later checks -/

/-- What comes of a check: its answer, the questions asked, the reports added and the events. -/
structure Result where
  answer : Except Fault Verdict
  asked : List Question
  reports : List VoteReport
  events : List Log.Event

/-- What comes of checks one after the other, whether or not they come to a verdict. -/
def results (checker : Checker σ) : Session σ → List Subject → List Result
  | _, [] => []
  | s, subject :: rest =>
    let ended := (checker.check subject).run s
    ⟨ended.answer, checker.asked s subject, ended.state.reports.drop s.reports.length,
      ended.events⟩ :: checker.results ended.state rest

/-- A hook that has seen reports before. -/
def behind (stop : Hook) (seen : List VoteReport) : Hook := fun reports => stop (seen ++ reports)

/-- A hook that holds reports does what it does with them out of sight. -/
theorem agree_behind (checker : Checker σ) (stop : Hook) (seen : List VoteReport) :
    checker.Agree (some stop) (some (behind stop seen))
      fun reports reports' => reports = seen ++ reports' where
  objects := by
    rintro _ reports rfl r
    show stop (seen ++ reports ++ [r]) = stop (seen ++ (reports ++ [r]))
    rw [List.append_assoc]
  collects := by
    rintro _ reports rfl r
    exact List.append_assoc seen reports [r]

theorem results_behind (checker : Checker σ) (stop : Hook) {seen : List VoteReport}
    {s s' : Session σ} (he : s.evaluation = s'.evaluation) (hr : s.reports = seen ++ s'.reports)
    (later : List Subject) : (checker.withHook (some stop)).results s later =
      (checker.withHook (some (behind stop seen))).results s' later := by
  induction later generalizing s s' with
  | nil => rfl
  | cons subject rest ih =>
      obtain ⟨hanswer, hasked, hevents, hevaluation, hreports⟩ :=
        (checker.agree_behind stop seen).check he hr subject
      have hadded : ∀ reports : List VoteReport,
          (seen ++ reports).drop (seen ++ s'.reports).length = reports.drop s'.reports.length := by
        intro reports
        rw [List.length_append, List.drop_append, List.drop_eq_nil_of_le (Nat.le_add_right _ _),
          Nat.add_sub_cancel_left, List.nil_append]
      rw [results, results, hanswer, hasked, hevents, hreports, hr, hadded, ih hevaluation hreports]

/-! ## What a hook can do -/

/-- Under a hook, a check is made of the ballots up to the first objection. -/
theorem check_run_withHook (checker : Checker σ) (stop : Hook) (s : Session σ)
    (subject : Subject) :
    let bs := upTo stop ((checker.withHook (some letPass)).ballotsOn s subject)
    ((checker.withHook (some stop)).check subject).run s =
        ⟨(verdicts bs).bind (checker.conclusion subject), sessionAfter s bs,
          bs.flatMap Ballot.events ++ checker.epilogue bs subject⟩ ∧
      (checker.withHook (some stop)).asked s subject = bs.flatMap Ballot.questions := by
  have hballots : (checker.withHook (some stop)).ballotsOn s subject =
      upTo stop ((checker.withHook (some letPass)).ballotsOn s subject) :=
    checker.ballots_withHook stop s _
  rw [check_run, asked_eq, hballots]
  exact ⟨rfl, rfl⟩

/-- **A hook observes a check or stops it, and does nothing else.** A hook that lets pass the
reports `reports` that a check without objections brings leaves the answer, be it a verdict or a
fault, the questions asked, the evaluators and what logs of any level show as they are without a
hook. A hook that objects to one of them stops the check there: its fault is the answer, that
report is the last, and only the votes up to it are asked for. A fault of the registry that the hook
has not brought itself is the fault of the vote through some package, and the reports are those of
the repositories of the packages before that one. However the check ends, later checks go as those
of a checker that starts with the evaluators as they have been left, under the same hook. -/
theorem hook_observes_or_stops (checker : Checker σ) (stop : Hook) (s : Session σ)
    (subject : Subject) :
    let hooked := checker.withHook (some stop)
    let calm := checker.withHook (some letPass)
    let bare := checker.withHook none
    let ended := (hooked.check subject).run s
    let free := (bare.check subject).run s
    let reports := reportsIn (calm.ballotsOn s subject)
    ((calm.check subject).run s).state.reports = s.reports ++ reports ∧
    bare.asked s subject = (calm.ballotsOn s subject).flatMap Ballot.questions ∧
    (Passes stop s.reports reports → ended.answer = free.answer ∧
      hooked.asked s subject = bare.asked s subject ∧
      ended.state = ⟨free.state.evaluation, s.reports ++ reports⟩ ∧
      ∀ level, Log.visible level ended.events = Log.visible level free.events) ∧
    (∀ k fault, Objects stop s.reports reports k fault → ended.answer = .error fault ∧
      ended.state.reports = s.reports ++ reports.take (k + 1) ∧
      hooked.asked s subject =
        ((calm.ballotsOn s subject).take (k + 1)).flatMap Ballot.questions) ∧
    (∀ fault, ended.answer = .error fault → fault.isRegistry = true →
      (∀ k, ¬Objects stop s.reports reports k fault) →
      ∃ before p after r place vs, subject.packages = before ++ p :: after ∧
        checker.registry.home p = some place ∧ checker.registry[place]? = some r ∧
        (∀ q ∈ before, checker.registry.home q ≠ some place) ∧
        checker.Offends (sessionAfter s
          (calm.ballots s (checker.registry.voters before))).evaluation r p fault ∧
        verdicts (calm.ballots s (checker.registry.voters before)) = .ok vs ∧
        ended.state.reports = s.reports ++ reportsOf (checker.registry.voters before) vs) ∧
    ∀ later, hooked.results ended.state later =
      (checker.withHook (some (behind stop ended.state.reports))).results
        ⟨ended.state.evaluation, []⟩ later := by
  intro hooked calm bare ended free reports
  obtain ⟨hended, hasked⟩ := checker.check_run_withHook stop s subject
  obtain ⟨hanswer, hquestions, hevents, hevaluation, -⟩ :=
    checker.agree_letPass_none.check (s := s) rfl trivial subject
  have hcalm : (calm.check subject).run s = _ := calm.check_run subject s
  have hreports : (sessionAfter s (calm.ballotsOn s subject)).reports = s.reports ++ reports :=
    checker.reports_letPass s _
  -- a hook that lets the reports pass leaves the ballots as they are
  have hpasses : Passes stop s.reports reports → ended = (calm.check subject).run s ∧
      hooked.asked s subject = calm.asked s subject := by
    intro hpass
    have hall : upTo stop (calm.ballotsOn s subject) = calm.ballotsOn s subject :=
      upTo_of_passes hpass
    rw [hall] at hended hasked
    rw [hcalm, asked_eq calm]
    exact ⟨hended, hasked⟩
  have hobjection : ∀ k fault, Objects stop s.reports reports k fault →
      ended.answer = .error fault ∧ ended.state.reports = s.reports ++ reports.take (k + 1) ∧
      hooked.asked s subject =
        ((calm.ballotsOn s subject).take (k + 1)).flatMap Ballot.questions := by
    intro k fault hobjects
    obtain ⟨hverdicts, hkept, hseen⟩ := upTo_of_objects hobjects
    change verdicts (upTo stop (calm.ballotsOn s subject)) = _ at hverdicts
    refine ⟨?_, ?_, hasked.trans hkept⟩
    · refine (congrArg Ended.answer hended).trans ?_
      rw [hverdicts]
      rfl
    · exact (congrArg (fun e => e.state.reports) hended).trans hseen
  refine ⟨?_, ?_, ?_, hobjection, ?_, ?_⟩
  · rw [hcalm]
    exact hreports
  · rw [← asked_eq]
    exact hquestions.symm
  · intro hpass
    obtain ⟨hsame, hall⟩ := hpasses hpass
    refine ⟨?_, hall.trans hquestions, ?_, ?_⟩
    · rw [hsame]
      exact hanswer
    · rw [← hevaluation, hsame, hcalm, ← hreports]
    · intro level
      rw [hsame]
      exact congrArg (Log.visible level) hevents
  · intro fault hfault hregistry hself
    rcases passes_or_objects stop s.reports reports with hpass | ⟨k, other, hobjects⟩
    · obtain ⟨hsame, -⟩ := hpasses hpass
      rw [hsame, hcalm] at hfault
      rw [hsame, hcalm]
      exact offender_of_verdicts (verdicts_of_isRegistry hfault hregistry)
    · -- the hook has objected, so that the fault is its own
      obtain ⟨hother, -, -⟩ := hobjection k other hobjects
      obtain rfl := Except.error.inj (hother.symm.trans hfault)
      exact absurd hobjects (hself k)
  · intro later
    let renewed : Session σ := ⟨ended.state.evaluation, []⟩
    have hsame : ended.state.evaluation = renewed.evaluation := rfl
    have hreported : ended.state.reports = ended.state.reports ++ renewed.reports :=
      (List.append_nil _).symm
    exact checker.results_behind stop hsame hreported later

/-- A checker of the known repositories that knows no evaluator for Arch. -/
def archless : Checker (List Verdict) :=
  { scripted with evaluators := fun ref => if ref = .known .arch then none else some playScript }

/-- A hook that gives up at the second report. -/
def secondStop : Hook := fun reports => if reports.length = 2 then some .hook else none

/-- The second of three votes on the project is the last one that is cast, so that the license of
the package of Arch is not asked about. Where nobody knows the evaluator of Arch, the two reports
are those of the packages before. -/
theorem hook_stops_ported :
    let s : Session (List Verdict) := ⟨[.free, .nonFree, .free], []⟩
    let stopped := ((scripted.withHook (some secondStop)).check (.project ported)).run s
    let broken := ((archless.withHook (some letPass)).check (.project ported)).run s
    stopped.answer = .error .hook ∧
    stopped.state.reports.map VoteReport.verdict = [.nonFree, .free] ∧
    (scripted.withHook (some secondStop)).asked s (.project ported) =
      [(.known .gentoo, "MIT".toList), (.known .gentoo, "X".toList)] ∧
    broken.answer = .error (.unknownEvaluator "arch".toList (.known .arch)) ∧
    broken.state.reports.map VoteReport.verdict = [.nonFree, .free] ∧
    ∃ before p after vs, ported.packages = before ++ p :: after ∧
      broken.state.reports = reportsOf (archless.registry.voters before) vs := by
  intro s stopped broken
  let reports := reportsIn ((scripted.withHook (some letPass)).ballotsOn s (.project ported))
  have hobjects : Objects secondStop s.reports reports 1 .hook := by
    constructor
    · decide +kernel
    · have hlength : (s.reports ++ reports.take 2).length = 2 := by decide +kernel
      exact if_pos hlength
    · intro j hj
      obtain rfl : j = 0 := Nat.lt_one_iff.mp hj
      have hlength : (s.reports ++ reports.take 1).length = 1 := by decide +kernel
      exact if_neg (by rw [hlength]; decide)
  have hbroken : broken.answer = .error (.unknownEvaluator "arch".toList (.known .arch)) := rfl
  obtain ⟨-, -, -, hstops, -, -⟩ := hook_observes_or_stops scripted secondStop s (.project ported)
  obtain ⟨hanswer, -, hasked⟩ := hstops 1 .hook hobjects
  obtain ⟨-, -, -, -, hregistry, -⟩ := hook_observes_or_stops archless letPass s (.project ported)
  obtain ⟨before, p, after, -, -, vs, hsplit, -, -, -, -, -, hreports⟩ :=
    hregistry _ hbroken rfl fun k h => by cases h.stops
  refine ⟨hanswer, by decide +kernel, ?_, hbroken, by decide +kernel,
    before, p, after, vs, hsplit, hreports⟩
  rw [hasked]
  decide +kernel

end Checker
end DistroBallot
