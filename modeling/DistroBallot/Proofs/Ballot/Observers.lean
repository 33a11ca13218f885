import DistroBallot.Ballot.Summary
import DistroBallot.Proofs.Ballot.Questions
import DistroBallot.Proofs.Ballot.Records
import Mathlib

/-!
# The observers of a check

The votes on a project are counted by the scan itself, they are reported to the hook, from whose
reports a summary counts them again, and they are told to the log. These observers agree
(`Agreement`): an abstention, which uses its repository up and is not counted, is a report without a
definite verdict everywhere.

The reports of ballots without fault follow from one induction along the ballots
(`ballots_reported`), together with the log, which is a *journal* of the reports: each record of a
vote after what the evaluators told for it. All numbers are then counts over the reports.
-/

namespace DistroBallot

variable {σ : Type}

/-! ## Journals -/

/-- The log that tells the reports one after the other, each after what was told for it. -/
def journal (told : List (List Log.Event)) (reports : List VoteReport) : List Log.Event :=
  (List.zipWith (fun events r => events ++ [Log.Event.vote r]) told reports).flatten

theorem journal_cons (events : List Log.Event) (told : List (List Log.Event)) (r : VoteReport)
    (reports : List VoteReport) :
    journal (events :: told) (r :: reports) = events ++ .vote r :: journal told reports := by
  simp [journal]

/-- Where a filter keeps nothing of what was told for the reports, it keeps of the journal what it
keeps of the records of votes. -/
theorem filter_journal {told : List (List Log.Event)} {reports : List VoteReport}
    {keep : Log.Event → Bool} (hlength : told.length = reports.length)
    (h : ∀ events ∈ told, ∀ e ∈ events, keep e = false) :
    (journal told reports).filter keep = (reports.map Log.Event.vote).filter keep := by
  induction told generalizing reports with
  | nil =>
      obtain rfl : reports = [] := List.length_eq_zero_iff.mp hlength.symm
      rfl
  | cons events told ih =>
      cases reports with
      | nil => cases hlength
      | cons r reports =>
          rw [List.forall_mem_cons] at h
          have hevents : events.filter keep = [] := by
            rw [List.filter_eq_nil_iff]
            intro e he
            simp [h.1 e he]
          have hrest := ih (Nat.succ.inj hlength) h.2
          rw [journal_cons, List.filter_append, hevents, List.nil_append, List.map_cons,
            List.filter_cons, List.filter_cons, hrest]

/-- Nothing that was told for the reports is a voting record. -/
def Aside (told : List (List Log.Event)) : Prop :=
  ∀ events ∈ told, ∀ e ∈ events, Log.Event.isVoting e = false

theorem filter_journal_vote {told : List (List Log.Event)} {reports : List VoteReport}
    (hlength : told.length = reports.length) (h : Aside told) :
    (journal told reports).filter (Log.Event.isKind "vote") = reports.map Log.Event.vote := by
  have hnone : ∀ events ∈ told, ∀ e ∈ events, e.isKind "vote" = false :=
    fun events hevents e he => (Bool.or_eq_false_iff.mp (h events hevents e he)).1
  rw [filter_journal hlength hnone, List.filter_eq_self]
  intro e he
  obtain ⟨r, -, rfl⟩ := List.mem_map.mp he
  exact Log.Event.isKind_vote r

theorem filter_journal_projectVerdict {told : List (List Log.Event)} {reports : List VoteReport}
    (hlength : told.length = reports.length) (h : Aside told) :
    (journal told reports).filter (Log.Event.isKind "project_verdict") = [] := by
  have hnone : ∀ events ∈ told, ∀ e ∈ events, e.isKind "project_verdict" = false :=
    fun events hevents e he => (Bool.or_eq_false_iff.mp (h events hevents e he)).2
  rw [filter_journal hlength hnone, List.filter_eq_nil_iff]
  intro e he
  obtain ⟨r, -, rfl⟩ := List.mem_map.mp he
  exact Bool.false_ne_true

namespace Checker

/-! ## The reports of ballots -/

/-- A ballot without fault leaves its report with the hook and at the end of what it told. -/
theorem ballot_reported {checker : Checker σ} (hook : checker.hook.isSome = true) {s : Session σ}
    {voter : Repository × Package} {verdict : Verdict}
    (h : (checker.ballot s voter).verdict = .ok verdict) :
    let r : VoteReport := ⟨voter.1.name, voter.2, verdict⟩
    (checker.ballot s voter).after.reports = s.reports ++ [r] ∧
    ∃ told, (checker.ballot s voter).events = told ++ [.vote r] ∧
      (checker.Quiet → ∀ e ∈ told, e.isVoting = false) := by
  unfold ballot at h ⊢
  cases hv : checker.verdictOn s.evaluation voter.1 voter.2 with
  | error fault => simp [hv] at h
  | ok given =>
      simp only [hv] at h ⊢
      obtain rfl : given = verdict := by
        split at h
        · exact Except.ok.inj h
        · cases h
      refine ⟨?_, _, rfl, fun hquiet => quiet_askAll hquiet _ _⟩
      rw [collect, if_pos hook]

/-- The reports of voters, each with the verdict of its ballot. -/
def reportsOf (voters : List (Repository × Package)) (vs : List Verdict) : List VoteReport :=
  List.zipWith (fun voter verdict => ⟨voter.1.name, voter.2, verdict⟩) voters vs

/-- **Ballots without fault leave one report each,** with the hook and in the log. -/
theorem ballots_reported {checker : Checker σ} (hook : checker.hook.isSome = true)
    {voters : List (Repository × Package)} {s : Session σ} {vs : List Verdict}
    (h : verdicts (checker.ballots s voters) = .ok vs) :
    let bs := checker.ballots s voters
    vs.length = voters.length ∧
    (sessionAfter s bs).reports = s.reports ++ reportsOf voters vs ∧
    ∃ told, told.length = voters.length ∧
      bs.flatMap Ballot.events = journal told (reportsOf voters vs) ∧
      (checker.Quiet → Aside told) := by
  induction voters generalizing s vs with
  | nil =>
      obtain rfl : [] = vs := Except.ok.inj h
      exact ⟨rfl, by simp [ballots, sessionAfter, reportsOf], [], rfl, rfl, by simp [Aside]⟩
  | cons voter rest ih =>
      cases hv : (checker.ballot s voter).verdict with
      | error fault =>
          rw [ballots_cons_of_error hv] at h
          simp [verdicts, hv] at h
      | ok verdict =>
          rw [ballots_cons_of_ok hv] at h ⊢
          simp only [verdicts, hv] at h
          cases hvs : verdicts (checker.ballots (checker.ballot s voter).after rest) with
          | error fault => simp [hvs, Except.map] at h
          | ok vs' =>
              rw [hvs] at h
              obtain rfl : verdict :: vs' = vs := Except.ok.inj h
              obtain ⟨hreports, told, htold, hquiet⟩ := ballot_reported hook hv
              obtain ⟨hlength, hrest, rests, hrests, hevents, hquiets⟩ := ih hvs
              -- the other ballots start from the reports with the first one at their end
              refine ⟨by simp [hlength], ?_, told :: rests, by simp [hrests], ?_, ?_⟩
              · simp only [sessionAfter, List.foldl_cons]
                rw [sessionAfter] at hrest
                rw [hrest, hreports, List.append_assoc]
                rfl
              · rw [List.flatMap_cons, hevents, htold]
                simp [journal, reportsOf]
              · intro h
                rw [Aside, List.forall_mem_cons]
                exact ⟨hquiet h, hquiets h⟩

end Checker

/-! ## Where the reports come from -/

namespace Registry

/-- A report is of the repository at a place, through the first of the packages that belong to
it. -/
def ReportedAt (registry : Registry) (packages : List Package) (place : Nat) (r : VoteReport) :
    Prop :=
  ∃ entry, registry.voterAt packages place = some (entry, r.package) ∧ r.repository = entry.name

theorem forall₂_reportedAt {registry : Registry} {packages : List Package} {places : List Nat}
    (h : ∀ place ∈ places, ∃ voter, registry.voterAt packages place = some voter)
    {vs : List Verdict}
    (hlength : vs.length = (places.filterMap (registry.voterAt packages)).length) :
    List.Forall₂ (registry.ReportedAt packages) places
      (Checker.reportsOf (places.filterMap (registry.voterAt packages)) vs) := by
  induction places generalizing vs with
  | nil =>
      rw [List.filterMap_nil, Checker.reportsOf, List.zipWith_nil_left]
      exact .nil
  | cons place rest ih =>
      rw [List.forall_mem_cons] at h
      obtain ⟨voter, hvoter⟩ := h.1
      rw [List.filterMap_cons_some hvoter] at hlength ⊢
      cases vs with
      | nil => cases hlength
      | cons verdict vs =>
          rw [Checker.reportsOf, List.zipWith_cons_cons]
          exact .cons ⟨voter.1, hvoter, rfl⟩ (ih h.2 (Nat.succ.inj hlength))

end Registry

/-! ## Summaries in numbers -/

namespace Summary

theorem votes_ofReports (reports : List VoteReport) (verdict : Verdict) :
    (ofReports reports verdict).votes = Checker.definite (reports.map VoteReport.verdict) := by
  show (reports.filter fun r => r.verdict.isDefinite).length = _
  induction reports with
  | nil => rfl
  | cons r reports ih =>
      rw [List.map_cons, Checker.definite_cons, ← ih, List.filter_cons]
      cases r.verdict.isDefinite
      · simp
      · simp [Nat.add_comm]

theorem freeVotes_ofReports (reports : List VoteReport) (verdict : Verdict) :
    (ofReports reports verdict).freeVotes = (reports.map VoteReport.verdict).count .free := by
  show (reports.filter fun r => r.verdict.isDefinite).countP (fun r => r.verdict == .free) = _
  rw [List.countP_filter, List.count, List.countP_map]
  refine List.countP_congr fun r _ => ?_
  cases hv : r.verdict <;> simp [hv, Verdict.isDefinite]

theorem votes_add_abstentions (reports : List VoteReport) (verdict : Verdict) :
    (ofReports reports verdict).votes + (ofReports reports verdict).abstentions =
      reports.length := by
  have hle : (reports.filter fun r => r.verdict.isDefinite).length ≤ reports.length :=
    List.length_filter_le _ _
  simp only [ofReports]
  omega

theorem ratio_ofReports {reports : List VoteReport} {verdict : Verdict}
    (h : 0 < (ofReports reports verdict).votes) :
    (ofReports reports verdict).ratio =
      some (share (ofReports reports verdict).freeVotes (ofReports reports verdict).votes) := by
  have hcounted : (reports.filter fun r => r.verdict.isDefinite).isEmpty = false := by
    rw [List.isEmpty_eq_false_iff]
    exact List.ne_nil_of_length_pos h
  simp only [ofReports, hcounted, Bool.false_eq_true, if_false]

end Summary

namespace Checker

/-! ## Agreement -/

theorem eq_unknown_iff_of_decided {vs : List Verdict} {threshold : Value} {verdict : Verdict}
    (h : decided vs threshold = .ok verdict) : verdict = .unknown ↔ definite vs = 0 := by
  unfold decided at h
  split at h
  · next hnone => exact iff_of_true (Except.ok.inj h).symm hnone
  · next hsome =>
      refine iff_of_false ?_ hsome
      rintro rfl
      split at h
      · split at h <;> cases h
      · cases h

theorem eq_free_iff_of_decided {vs : List Verdict} {threshold : Value} {verdict : Verdict}
    (h : decided vs threshold = .ok verdict) (hvotes : 0 < definite vs) :
    ∃ limit, threshold.number? = some limit ∧ (verdict = .free ↔
      (Number.real (share (vs.count .free) (definite vs))).compare? limit = some .gt) := by
  rw [decided, if_neg (Nat.pos_iff_ne_zero.mp hvotes)] at h
  cases hlimit : threshold.number? with
  | none => simp [hlimit] at h
  | some limit =>
      rw [hlimit] at h
      refine ⟨limit, rfl, ?_⟩
      rw [← Except.ok.inj h]
      simp

/-- The observers of a check on a project that comes to a verdict: the tally `t` of the scan, the
new reports of the hook with their summary, and the log. -/
structure Agreement (checker : Checker σ) (project : Project) (verdict : Verdict) (t : Tally)
    (reports : List VoteReport) (summary : Summary) (events : List Log.Event) : Prop where
  /-- No repository is reported twice, and the reports are in the order of first appearance. -/
  onePerPlace : (checker.registry.places project.packages).Nodup ∧
    List.Forall₂ (checker.registry.ReportedAt project.packages)
      (checker.registry.places project.packages) reports
  votes_add_abstentions : summary.votes + summary.abstentions = reports.length
  details : summary.details = reports
  votes : summary.votes = t.votes
  freeVotes : summary.freeVotes = t.freeVotes
  unknown_iff : summary.verdict = .unknown ↔ summary.votes = 0
  free_iff : 0 < summary.votes → ∃ ratio limit, summary.ratio = some ratio ∧
    checker.threshold.number? = some limit ∧
    (summary.verdict = .free ↔ (Number.real ratio).compare? limit = some .gt)
  /-- The log is a journal of the reports with the record of the verdict at its end. -/
  journaled : ∃ told, told.length = reports.length ∧ (checker.Quiet → Aside told) ∧
    events = journal told reports ++
      [.projectVerdict project.name summary.votes summary.freeVotes verdict]
  /-- A log of details has one record of a vote for each report. -/
  voteRecords : checker.Quiet →
    List.Forall₂ Log.Event.Shows
      ((Log.visible Log.debugLevel events).filter (Log.Event.isKind "vote")) reports
  /-- A log of information has one record of the verdict. -/
  verdictRecord : checker.Quiet → ∃ record,
    (Log.visible Log.infoLevel events).filter (Log.Event.isKind "project_verdict") = [record] ∧
    record.level = Log.infoLevel ∧
    record.field? "votes" = some (.int summary.votes) ∧
    record.field? "free_votes" = some (.int summary.freeVotes)

/-- The observers of a check on a package that comes to a verdict: the new reports of the hook and
the log. -/
structure LoneAgreement (checker : Checker σ) (package : Package) (verdict : Verdict)
    (reports : List VoteReport) (events : List Log.Event) : Prop where
  /-- There is one report if the package belongs to a repository, and none otherwise. -/
  reported : (checker.registry.find? (.text package.repo) package.subrepo = .ok none ∧
      reports = [] ∧ verdict = .unknown) ∨
    ∃ place r, checker.registry.find? (.text package.repo) package.subrepo = .ok (some (place, r)) ∧
      reports = [⟨r.name, package, verdict⟩]
  /-- The log is a journal of the reports. -/
  journaled : ∃ told, told.length = reports.length ∧ (checker.Quiet → Aside told) ∧
    events = journal told reports
  noVerdictRecord : checker.Quiet → events.filter (Log.Event.isKind "project_verdict") = []

theorem map_verdict_reportsOf {voters : List (Repository × Package)} {vs : List Verdict}
    (h : vs.length = voters.length) : (reportsOf voters vs).map VoteReport.verdict = vs := by
  rw [reportsOf, List.map_zipWith]
  induction voters generalizing vs with
  | nil => exact (List.length_eq_zero_iff.mp h).symm
  | cons voter rest ih =>
      cases vs with
      | nil => cases h
      | cons verdict vs => rw [List.zipWith_cons_cons, ih (Nat.succ.inj h)]

theorem length_reportsOf {voters : List (Repository × Package)} {vs : List Verdict}
    (h : vs.length = voters.length) : (reportsOf voters vs).length = voters.length := by
  rw [reportsOf, List.length_zipWith, h, Nat.min_self]

theorem exists_of_bind_eq_ok {ε α β : Type} {x : Except ε α} {f : α → Except ε β} {b : β}
    (h : x.bind f = .ok b) : ∃ a, x = .ok a ∧ f a = .ok b := by
  cases x with
  | error e => cases h
  | ok a => exact ⟨a, rfl, h⟩

/-- A check on a project that comes to a verdict comes to all packages, and each voter's ballot is
without fault. -/
theorem completed_of_projectVerdict {checker : Checker σ} {project : Project} {s : Session σ}
    {verdict : Verdict} (h : ((checker.projectVerdict project).run s).answer = .ok verdict) :
    checker.reached project.packages = project.packages ∧
    project.packages.all checker.registry.canPlace = true ∧
    ∃ vs, verdicts (checker.ballots s (checker.registry.voters project.packages)) = .ok vs ∧
      decided vs checker.threshold = .ok verdict := by
  rw [projectVerdict_run_reached] at h
  obtain ⟨vs, hvs, hverdict⟩ := exists_of_bind_eq_ok h
  cases hall : project.packages.all checker.registry.canPlace with
  | false => simp [hall] at hverdict
  | true =>
      have hreached : checker.reached project.packages = project.packages := reached_eq_self hall
      rw [hreached] at hvs
      rw [hall, if_pos rfl] at hverdict
      exact ⟨hreached, rfl, vs, hvs, hverdict⟩

/-- A journal with a record of a verdict at its end shows the reports and the record. -/
theorem visible_journal {told : List (List Log.Event)} {reports : List VoteReport}
    (hlength : told.length = reports.length) (h : Aside told) (name : Text) (votes freeVotes : Nat)
    (verdict : Verdict) :
    let events := journal told reports ++ [.projectVerdict name votes freeVotes verdict]
    (Log.visible Log.debugLevel events).filter (Log.Event.isKind "vote") =
      reports.map Log.Event.vote ∧
    (Log.visible Log.infoLevel events).filter (Log.Event.isKind "project_verdict") =
      [.projectVerdict name votes freeVotes verdict] := by
  constructor
  · rw [Log.filter_visible fun _ => Log.shows_vote, List.filter_append,
      filter_journal_vote hlength h]
    exact List.append_nil _
  · rw [Log.filter_visible fun _ => Log.shows_projectVerdict, List.filter_append,
      filter_journal_projectVerdict hlength h]
    rfl

theorem agreement_of_projectVerdict {checker : Checker σ} (hook : checker.hook.isSome = true)
    {project : Project} {s : Session σ} {verdict : Verdict}
    (h : ((checker.projectVerdict project).run s).answer = .ok verdict) :
    let ended := (checker.projectVerdict project).run s
    ∃ t reports, ((checker.poll .start project.packages).run s).answer = .ok t ∧
      ended.state.reports = s.reports ++ reports ∧
      checker.Agreement project verdict t reports (Summary.ofReports reports verdict)
        ended.events := by
  intro ended
  obtain ⟨hreached, hall, vs, hvs, hdecided⟩ := completed_of_projectVerdict h
  obtain ⟨hlength, hreports, told, htold, hevents, hquiet⟩ := ballots_reported hook hvs
  have hrun := projectVerdict_run_reached checker project s
  rw [hreached, hall] at hrun
  obtain ⟨voted, hpoll⟩ := poll_run checker project.packages .start s
  rw [Tally.start, Registry.votersFrom_nil, hreached, hvs, hall] at hpoll
  let reports := reportsOf (checker.registry.voters project.packages) vs
  -- scan, summary and log all count over the verdicts of the ballots
  have hmap : reports.map VoteReport.verdict = vs := map_verdict_reportsOf hlength
  have htold' : told.length = reports.length := by rw [htold, length_reportsOf hlength]
  have hvotes : (Summary.ofReports reports verdict).votes = definite vs := by
    rw [Summary.votes_ofReports, hmap]
  have hfreeVotes : (Summary.ofReports reports verdict).freeVotes = vs.count .free := by
    rw [Summary.freeVotes_ofReports, hmap]
  have hlog : ended.events = journal told reports ++
      [.projectVerdict project.name (Summary.ofReports reports verdict).votes
        (Summary.ofReports reports verdict).freeVotes verdict] := by
    rw [hvotes, hfreeVotes]
    refine (congrArg Ended.events hrun).trans ?_
    simp only [hevents, closing, hvs, hdecided, if_true]
    rfl
  refine ⟨⟨voted, definite vs, vs.count .free⟩, reports, ?_, ?_, ?_⟩
  · rw [Tally.start, hpoll]
    simp [Except.bind]
  · exact (congrArg (fun x => x.state.reports) hrun).trans hreports
  · constructor
    · refine ⟨Registry.nodup_eraseDups _, Registry.forall₂_reportedAt ?_ hlength⟩
      exact fun place hplace => Registry.exists_voterAt hplace
    · exact Summary.votes_add_abstentions reports verdict
    · rfl
    · exact hvotes
    · exact hfreeVotes
    · rw [hvotes]
      exact eq_unknown_iff_of_decided hdecided
    · intro hpos
      rw [Summary.ratio_ofReports hpos, hvotes, hfreeVotes]
      rw [hvotes] at hpos
      obtain ⟨limit, hlimit, hfree⟩ := eq_free_iff_of_decided hdecided hpos
      exact ⟨_, limit, rfl, hlimit, hfree⟩
    · exact ⟨told, htold', hquiet, hlog⟩
    · intro h
      rw [hlog, (visible_journal htold' (hquiet h) _ _ _ _).1, List.forall₂_map_left_iff,
        List.forall₂_same]
      exact fun r _ => vote_shows r
    · intro h
      rw [hlog, (visible_journal htold' (hquiet h) _ _ _ _).2]
      exact ⟨_, rfl, rfl, rfl, rfl⟩

theorem loneAgreement_of_packageVerdict {checker : Checker σ}
    (hook : checker.hook.isSome = true) {package : Package} {s : Session σ} {verdict : Verdict}
    (h : ((checker.packageVerdict package).run s).answer = .ok verdict) :
    let ended := (checker.packageVerdict package).run s
    ∃ reports, ended.state.reports = s.reports ++ reports ∧
      checker.LoneAgreement package verdict reports ended.events := by
  intro ended
  have hrun := packageVerdict_run checker package s
  rw [hrun] at h
  obtain ⟨vs, hvs, hverdict⟩ := exists_of_bind_eq_ok h
  cases hplace : checker.registry.canPlace package with
  | false => simp [hplace] at hverdict
  | true =>
      have hreached : checker.reached [package] = [package] := reached_eq_self (by simp [hplace])
      rw [hreached] at hvs hrun
      rw [hplace, if_pos rfl, Except.ok.injEq] at hverdict
      obtain ⟨hlength, hreports, told, htold, hevents, hquiet⟩ := ballots_reported hook hvs
      have htold' : told.length =
          (reportsOf (checker.registry.voters [package]) vs).length := by
        rw [htold, length_reportsOf hlength]
      have hlog : ended.events =
          journal told (reportsOf (checker.registry.voters [package]) vs) :=
        (congrArg Ended.events hrun).trans hevents
      refine ⟨_, (congrArg (fun x => x.state.reports) hrun).trans hreports, ?_, ?_, ?_⟩
      · rw [Registry.find?_eq_home hplace]
        rw [Registry.voters_singleton] at hlength ⊢
        cases hfound : (checker.registry.home package).bind checker.registry.placed with
        | none =>
            rw [hfound] at hlength
            obtain rfl : vs = [] := List.length_eq_zero_iff.mp hlength
            exact .inl ⟨rfl, rfl, hverdict.symm⟩
        | some found =>
            rw [hfound] at hlength
            obtain ⟨v, rfl⟩ : ∃ v, vs = [v] := List.length_eq_one_iff.mp hlength
            obtain rfl : v = verdict := hverdict
            exact .inr ⟨found.1, found.2, rfl, rfl⟩
      · exact ⟨told, htold', hquiet, hlog⟩
      · intro hq
        rw [hlog, filter_journal_projectVerdict htold' (hquiet hq)]

/-- A sound checker comes to a verdict on a package whose sub-repository is a text or not given. -/
theorem exists_packageVerdict {checker : Checker σ} (hsound : checker.Sound) {package : Package}
    (hsub : package.TextSubrepo) (s : Session σ) :
    ∃ verdict, ((checker.packageVerdict package).run s).answer = .ok verdict := by
  have hplace := checker.registry.canPlace_of_textSubrepo hsub
  have hreached : checker.reached [package] = [package] := reached_eq_self (by simp [hplace])
  have hvoters : ∀ v ∈ checker.registry.voters [package], v.1 ∈ checker.registry :=
    fun _ hv => mem_registry_of_mem_voters hv
  obtain ⟨-, vs, hvs⟩ := ballots_of_sound hsound hvoters s
  rw [packageVerdict_run, hreached, hvs, hplace]
  exact ⟨vs.headD .unknown, rfl⟩

/-- **The observers of a check agree.** With a hook, whenever a check on a project comes to a
verdict, the tally of the scan, the reports of the hook with their summary, and the log say the
same; and whenever a check on a package does, there is one report of that verdict, or none if the
package belongs to no repository. A sound checker comes to a verdict. Records of votes are counted
in the log of a quiet checker, as those under settings are (`quiet_checker`). -/
theorem observers_agree (checker : Checker σ) (hook : checker.hook.isSome = true)
    (s : Session σ) :
    (∀ project verdict, let ended := (checker.projectVerdict project).run s
      ended.answer = .ok verdict → ∃ t reports,
        ((checker.poll .start project.packages).run s).answer = .ok t ∧
        ended.state.reports = s.reports ++ reports ∧
        checker.Agreement project verdict t reports (Summary.ofReports reports verdict)
          ended.events) ∧
    (∀ package verdict, let ended := (checker.packageVerdict package).run s
      ended.answer = .ok verdict → ∃ reports, ended.state.reports = s.reports ++ reports ∧
        checker.LoneAgreement package verdict reports ended.events) ∧
    (checker.Sound →
      (∀ project, (∀ p ∈ project.packages, p.TextSubrepo) →
        checker.threshold.number?.isSome = true →
        ∃ verdict, ((checker.projectVerdict project).run s).answer = .ok verdict) ∧
      ∀ package, package.TextSubrepo →
        ∃ verdict, ((checker.packageVerdict package).run s).answer = .ok verdict) := by
  refine ⟨fun project verdict h => agreement_of_projectVerdict hook h,
    fun package verdict h => loneAgreement_of_packageVerdict hook h, fun hsound => ⟨?_, ?_⟩⟩
  · intro project hsub hthreshold
    have hvoters : ∀ v ∈ checker.registry.voters project.packages, v.1 ∈ checker.registry :=
      fun _ hv => mem_registry_of_mem_voters hv
    obtain ⟨-, vs, hvs⟩ := ballots_of_sound hsound hvoters s
    rw [projectVerdict_run checker hsub, hvs]
    exact exists_decided hthreshold vs
  · intro package hsub
    exact exists_packageVerdict hsound hsub s

/-- A checker of the known repositories whose evaluators play one script, with a hook that collects
the reports. -/
def watched : Checker (List Verdict) := { scripted with hook := some fun _ => none }

theorem sound_watched : watched.Sound where
  rules := sound_scripted.rules
  answering := sound_scripted.answering
  passing := by
    intro stop h reports
    obtain rfl := Option.some.inj h
    rfl

theorem quiet_watched : watched.Quiet := by
  intro ref evaluator hevaluator license script e he
  obtain rfl := Option.some.inj hevaluator
  cases script <;> cases he

/-- One of three repositories abstains and the other two are not of one mind, which is not free: the
share of one half does not exceed the threshold. A package of the one that abstains is unknown. -/
theorem observers_of_ported : watched.hook.isSome = true ∧ watched.Quiet ∧ watched.Sound ∧
    (∃ t reports, t.votes = 2 ∧ t.freeVotes = 1 ∧
      reports.map VoteReport.verdict = [.unknown, .free, .nonFree] ∧
      watched.Agreement ported .nonFree t reports (Summary.ofReports reports .nonFree)
        ((watched.projectVerdict ported).run ⟨[.unknown, .nonFree], []⟩).events) ∧
    ∃ reports, reports.map VoteReport.verdict = [.unknown] ∧
      watched.LoneAgreement { repo := "gentoo".toList, licenses := ["MIT".toList] } .unknown reports
        ((watched.packageVerdict { repo := "gentoo".toList, licenses := ["MIT".toList] }).run
          ⟨[.unknown, .nonFree], []⟩).events := by
  obtain ⟨hproject, hpackage, -⟩ := observers_agree watched rfl ⟨[.unknown, .nonFree], []⟩
  refine ⟨rfl, quiet_watched, sound_watched, ?_, ?_⟩
  · obtain ⟨t, reports, hpoll, hreports, hagree⟩ := hproject ported .nonFree rfl
    obtain rfl : ⟨[0, 1, 3], 2, 1⟩ = t := Except.ok.inj hpoll
    refine ⟨_, reports, rfl, rfl, ?_, hagree⟩
    rw [List.nil_append] at hreports
    rw [← hreports]
    decide +kernel
  · obtain ⟨reports, hreports, hagree⟩ := hpackage
      { repo := "gentoo".toList, licenses := ["MIT".toList] } .unknown rfl
    refine ⟨reports, ?_, hagree⟩
    rw [List.nil_append] at hreports
    rw [← hreports]
    decide +kernel

end Checker
end DistroBallot
