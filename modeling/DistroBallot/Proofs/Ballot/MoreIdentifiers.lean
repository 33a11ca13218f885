import DistroBallot.Proofs.Ballot.Steady
import DistroBallot.Proofs.Number.Rounding
import Mathlib

/-!
# More free identifiers

When more identifiers are free, no vote gets worse. A license text that has a covered alternative
still has it (`License.isFree_mono`), whatever the sign of its flags; so a package whose licenses are
all free still is, although the two scans over its licenses may stop at different ones
(`Repository.admits_mono`). The voters of a project do not depend on the identifiers, and with the
identifiers at hand none of them abstains: two polls have the same reports but for votes that turn
free, as many definite votes, and at least as many free ones. The greater share exceeds every
threshold that the lesser one does, be it rounded (`Tally.verdict_mono`) or exact
(`Tally.exactVerdict_mono`).
-/

namespace DistroBallot

variable {σ : Type}

/-! ## License texts -/

/-- Each member of the first set is one of the second. -/
instance : HasSubset IdentifierSet :=
  ⟨fun free more => ∀ name, free.contains name = true → more.contains name = true⟩

theorem IdentifierSet.ofLower_subset {identifiers others : List Text} (h : identifiers ⊆ others) :
    ofLower identifiers ⊆ ofLower others := by
  intro name hname
  rw [ofLower, contains_ofList] at hname ⊢
  exact List.map_subset Text.lower h hname

namespace License

variable {free more : IdentifierSet}

theorem evaluate_mono (h : free ⊆ more) {e : Expression} (he : e.Native)
    (hfree : e.evaluate free = .ok true) : e.evaluate more = .ok true := by
  obtain ⟨answer, hanswer, hiff⟩ := Expression.decides_of_native free he
  obtain ⟨answer', hanswer', hiff'⟩ := Expression.decides_of_native more he
  have htrue : answer = true := Except.ok.inj (hanswer.symm.trans hfree)
  obtain ⟨names, hnames, hcovered⟩ := hiff.mp htrue
  have htrue' : answer' = true := hiff'.mpr ⟨names, hnames, fun n hn => h n (hcovered n hn)⟩
  rw [hanswer', htrue']

/-- **A text that is free stays free when more identifiers are.** -/
theorem isFree_mono (h : free ⊆ more) {text : Text} (hfree : isFree (some text) free = .ok true) :
    isFree (some text) more = .ok true := by
  rw [isFree] at hfree ⊢
  split at hfree
  · cases hfree
  · next hblank =>
      rw [if_neg hblank]
      cases hparse : parse (tokens text) with
      | error e => simp [hparse] at hfree
      | ok e =>
          rw [hparse] at hfree
          exact evaluate_mono h (native_of_parse hparse) hfree

end License

/-! ## Votes with the identifiers at hand -/

/-- Whether an evaluator finds a license free when these are the free identifiers. -/
def EvaluatorId.admits (free : IdentifierSet) (license : Text) : EvaluatorId → Bool
  | .arch => License.Marker.arch.admits (some license)
  | .opensuse => License.Marker.opensuse.admits (some license)
  | .gentoo => (License.isFree (some license) free).toOption == some true

/-- Whether a repository finds a package free when these are the free identifiers. -/
def Repository.admits (free : IdentifierSet) (r : Repository) (p : Package) : Bool :=
  match r.rule with
  | .fixed isFree => isFree
  | .evaluator (.known id) => p.licenses.all fun license => id.admits free license
  | _ => false

section Admits

variable {free more : IdentifierSet}

theorem EvaluatorId.admits_mono (h : free ⊆ more) {id : EvaluatorId} {license : Text}
    (hfree : id.admits free license = true) : id.admits more license = true := by
  cases id with
  | arch => exact hfree
  | opensuse => exact hfree
  | gentoo =>
      obtain ⟨answer, hanswer⟩ := License.exists_isFree license free
      rw [admits, hanswer] at hfree
      obtain rfl : answer = true := by simpa [Except.toOption] using hfree
      rw [admits, License.isFree_mono h hanswer]
      rfl

theorem Repository.admits_mono (h : free ⊆ more) {r : Repository} {p : Package}
    (hfree : r.admits free p = true) : r.admits more p = true := by
  unfold admits at hfree ⊢
  split at hfree
  · exact hfree
  · rw [List.all_eq_true] at hfree ⊢
    exact fun license hlicense => EvaluatorId.admits_mono h (hfree license hlicense)
  · exact hfree

end Admits

theorem Verdict.ofBool_eq_free_iff {b : Bool} : ofBool b = .free ↔ b = true := by
  cases b <;> simp [ofBool]

/-- A cache that holds these identifiers. -/
def filled (free : IdentifierSet) (source : σ) : License.IdentifierCache σ := ⟨some free, source⟩

theorem standard_run_filled (fetch : Option (Step Fault σ (List Text))) (id : EvaluatorId)
    (free : IdentifierSet) (source : σ) :
    ∃ evaluator, Evaluator.standard fetch (.known id) = some evaluator ∧ ∀ license,
      (evaluator license).run (filled free source) =
        ⟨.ok (.ofBool (id.admits free license)), filled free source, []⟩ := by
  cases id with
  | arch => exact ⟨_, rfl, fun _ => rfl⟩
  | opensuse => exact ⟨_, rfl, fun _ => rfl⟩
  | gentoo => exact ⟨_, rfl, gentoo_run_of_held rfl⟩

theorem gentoo_free_mono (fetch : Option (Step Fault σ (List Text))) (source : σ)
    {free more : IdentifierSet} (h : free ⊆ more) {license : Text}
    (hfree : ((Evaluator.gentoo fetch license).run (filled free source)).answer = .ok .free) :
    ((Evaluator.gentoo fetch license).run (filled more source)).answer = .ok .free := by
  have hrun : ∀ held : IdentifierSet,
      ((Evaluator.gentoo fetch license).run (filled held source)).answer =
        .ok (.ofBool (EvaluatorId.gentoo.admits held license)) :=
    fun held => congrArg Ended.answer (gentoo_run_of_held rfl license)
  rw [hrun] at hfree ⊢
  have hadmits := Verdict.ofBool_eq_free_iff.mp (Except.ok.inj hfree)
  rw [EvaluatorId.admits_mono h hadmits]
  rfl

namespace Checker

/-- The first license that is not free decides, and it is said of it that it is not. -/
theorem find?_not_free (admits : Text → Bool) (licenses : List Text) :
    ((licenses.map fun license => (.ok (.ofBool (admits license)) : Except Fault Verdict)).find?
      (fun a => !isFreeAnswer a)).getD (.ok .free) = .ok (.ofBool (licenses.all admits)) := by
  induction licenses with
  | nil => rfl
  | cons license rest ih =>
      rw [List.map_cons, List.find?_cons, List.all_cons]
      cases admits license with
      | false => rfl
      | true => exact ih

variable {fetch : Option (Step Fault σ (List Text))} {source : σ} {registry : Registry}
  {threshold : Value} {hook : Option (List VoteReport → Option Fault)}

/-- With the identifiers at hand no vote is an abstention. -/
theorem opinion_filled (hrules : registry.Valid)
    (hpass : ∀ stop, hook = some stop → ∀ reports, stop reports = none) (free : IdentifierSet)
    {voter : Repository × Package} (hvoter : voter.1 ∈ registry) :
    opinion ⟨Evaluator.standard fetch, registry, threshold, hook⟩ (filled free source) voter =
      .ofBool (voter.1.admits free voter.2) := by
  have hsteady : Steady ⟨Evaluator.standard fetch, registry, threshold, hook⟩
      (filled free source) := steady_standard (Or.inl rfl) hrules hpass
  rcases hrules voter.1 hvoter with ⟨isFree, hrule⟩ | ⟨id, hrule⟩
  · simp only [opinion, verdictOn, hrule, Repository.admits]
    rfl
  · obtain ⟨evaluator, hevaluator, hrun⟩ := standard_run_filled fetch id free source
    have hanswers := answers_of_steady (hsteady.answering _ evaluator hevaluator) voter.2.licenses
    simp only [hrun] at hanswers
    simp only [opinion, verdictOn, hrule, hevaluator, hanswers, find?_not_free, Repository.admits]
    rfl

end Checker

/-! ## Votes that do not get worse -/

/-- A free vote stays free, and a definite one definite, as does an abstention. -/
structure Verdict.Improves (v w : Verdict) : Prop where
  free : v = .free → w = .free
  definite : w.isDefinite = v.isDefinite

theorem Verdict.improves_ofBool {a b : Bool} (h : a = true → b = true) :
    (Verdict.ofBool a).Improves (.ofBool b) := by
  cases a with
  | false => cases b <;> exact ⟨by simp [ofBool], rfl⟩
  | true =>
      rw [h rfl]
      exact ⟨id, rfl⟩

/-- A report of the same repository and package whose vote does not get worse. -/
structure VoteReport.Improves (r r' : VoteReport) : Prop where
  repository : r'.repository = r.repository
  package : r'.package = r.package
  verdict : r.verdict.Improves r'.verdict

theorem Checker.counts_of_improves {vs ws : List Verdict}
    (h : List.Forall₂ Verdict.Improves vs ws) :
    definite ws = definite vs ∧ vs.count .free ≤ ws.count .free := by
  induction h with
  | nil => exact ⟨rfl, le_rfl⟩
  | @cons v w vs ws hvw _ ih =>
      constructor
      · rw [definite_cons, definite_cons, hvw.definite, ih.1]
      · rw [List.count_cons, List.count_cons]
        by_cases hfree : v = .free
        · rw [hfree, hvw.free hfree]
          exact Nat.add_le_add_right ih.2 _
        · rw [if_neg (by simpa using hfree)]
          exact le_add_right ih.2

/-! ## Shares of more free votes -/

namespace Checker

variable {t u : Tally} {threshold : Value}

/-- The verdict that a tally would come to if the share of free votes was not rounded. -/
def Tally.exactVerdict (t : Tally) (threshold : Value) : Except Fault Verdict :=
  if t.votes = 0 then .ok .unknown
  else match threshold.number? with
    | some limit => .ok (.ofBool (limit.IsBelow (t.freeVotes / t.votes)))
    | none => .error .incomparable

theorem Tally.exactVerdict_eq_free_iff : t.exactVerdict threshold = .ok .free ↔ 0 < t.votes ∧
    ∃ limit, threshold.number? = some limit ∧ limit.IsBelow (t.freeVotes / t.votes) := by
  unfold exactVerdict
  split
  · next hzero => simp [hzero]
  · next hsome =>
      cases threshold.number? with
      | none => simp
      | some limit => simp [Nat.pos_of_ne_zero hsome, Verdict.ofBool]

/-- A tally is free just when its share, after rounding, exceeds the threshold. -/
theorem Tally.verdict_eq_free_iff (h : t.freeVotes ≤ t.votes) :
    t.verdict threshold = .ok .free ↔ 0 < t.votes ∧ ∃ limit, threshold.number? = some limit ∧
      limit.IsBelow (Binary64.roundedValue t.freeVotes t.votes) := by
  unfold verdict exceeds
  split
  · next hzero => simp [hzero]
  · next hsome =>
      have hpos := Nat.pos_of_ne_zero hsome
      obtain ⟨significand, exponent, hshare, hvalue⟩ := Binary64.exists_ofRatio hpos h
      cases threshold.number? with
      | none => simp [Except.map]
      | some limit =>
          have hexceeds := Binary64.compare?_eq_gt_iff false significand exponent limit
          rw [hvalue] at hexceeds
          simp [share, hshare, ← hexceeds, hpos, Except.map, Verdict.ofBool]

theorem Tally.exactVerdict_mono (hvotes : u.votes = t.votes) (hfree : t.freeVotes ≤ u.freeVotes)
    (h : t.exactVerdict threshold = .ok .free) : u.exactVerdict threshold = .ok .free := by
  rw [exactVerdict_eq_free_iff] at h ⊢
  obtain ⟨hpos, limit, hlimit, hbelow⟩ := h
  rw [hvotes]
  have hshares : (t.freeVotes / t.votes : ℚ) ≤ u.freeVotes / t.votes :=
    div_le_div_of_nonneg_right (Nat.cast_le.mpr hfree) t.votes.cast_nonneg
  exact ⟨hpos, limit, hlimit, hbelow.mono hshares⟩

/-- **Rounding takes no free verdict back.** -/
theorem Tally.verdict_mono (hvotes : u.votes = t.votes) (hfree : t.freeVotes ≤ u.freeVotes)
    (hle : u.freeVotes ≤ u.votes) (h : t.verdict threshold = .ok .free) :
    u.verdict threshold = .ok .free := by
  rw [verdict_eq_free_iff (hfree.trans (hle.trans_eq hvotes))] at h
  rw [verdict_eq_free_iff hle]
  obtain ⟨hpos, limit, hlimit, hbelow⟩ := h
  rw [hvotes]
  exact ⟨hpos, limit, hlimit, hbelow.mono (Binary64.roundedValue_mono hpos hfree)⟩

/-! ## Polls with more free identifiers -/

/-- What is seen of a poll that goes through: the reports of its votes, which a hook has collected if
there is one, their tally, and the verdict that it comes to. -/
structure Polled (checker : Checker σ) (project : Project) (s : Session σ)
    (reports : List VoteReport) (t : Tally) : Prop where
  collected : ((checker.projectVerdict project).run s).state.reports =
    s.reports ++ if checker.hook.isSome then reports else []
  tallied : ((checker.poll .start project.packages).run s).answer = .ok t
  votes : t.votes = definite (reports.map VoteReport.verdict)
  freeVotes : t.freeVotes = (reports.map VoteReport.verdict).count .free
  answered : ((checker.projectVerdict project).run s).answer = t.verdict checker.threshold

theorem Polled.freeVotes_le {checker : Checker σ} {project : Project} {s : Session σ}
    {reports : List VoteReport} {t : Tally} (h : checker.Polled project s reports t) :
    t.freeVotes ≤ t.votes := by
  rw [h.freeVotes, h.votes]
  exact Nat.le_add_right _ _

theorem polled_of_steady {checker : Checker σ} {s : Session σ} (h : checker.Steady s.evaluation)
    {project : Project} (hsub : ∀ p ∈ project.packages, p.TextSubrepo) :
    ∃ t, checker.Polled project s
      ((checker.registry.voters project.packages).map (checker.reportOf s.evaluation)) t := by
  have hall := checker.registry.all_canPlace hsub
  obtain ⟨hanswer, hreports⟩ := projectVerdict_of_steady h project hsub
  obtain ⟨-, hverdicts, -⟩ := ballots_of_steady h
    (fun _ hv => mem_registry_of_mem_voters hv :
      ∀ v ∈ checker.registry.voters project.packages, v.1 ∈ checker.registry)
  obtain ⟨voted, hpoll⟩ := poll_run checker project.packages .start s
  simp only [Tally.start, Registry.votersFrom_nil, reached_eq_self hall, hall, hverdicts,
    Nat.zero_add] at hpoll
  refine ⟨_, hreports, congrArg Ended.answer hpoll, ?_, ?_, ?_⟩
  · rw [List.map_map]
    rfl
  · rw [List.map_map]
    rfl
  · rw [hanswer, ← verdict_eq_decided voted]

/-- **No verdict gets worse when more identifiers are free.** A license that is free stays so. A
check on a project has the same reports but for votes that turn free; as many of them are definite,
and no fewer are free; and a project that is free stays so, be the share rounded or exact. -/
theorem verdicts_improve_with_identifiers (fetch : Option (Step Fault σ (List Text))) (source : σ)
    {registry : Registry} (hrules : registry.Valid) (threshold : Value)
    {hook : Option (List VoteReport → Option Fault)}
    (hpass : ∀ stop, hook = some stop → ∀ reports, stop reports = none)
    {free more : IdentifierSet} (hmore : free ⊆ more) :
    let checker : Checker (License.IdentifierCache σ) :=
      ⟨Evaluator.standard fetch, registry, threshold, hook⟩
    (∀ license,
      ((Evaluator.gentoo fetch license).run (filled free source)).answer = .ok .free →
        ((Evaluator.gentoo fetch license).run (filled more source)).answer = .ok .free) ∧
    ∀ project, (∀ p ∈ project.packages, p.TextSubrepo) → ∀ collected : List VoteReport,
      let s : Session (License.IdentifierCache σ) := ⟨filled free source, collected⟩
      let s' : Session (License.IdentifierCache σ) := ⟨filled more source, collected⟩
      (∃ reports reports' t u, checker.Polled project s reports t ∧
        checker.Polled project s' reports' u ∧
        List.Forall₂ VoteReport.Improves reports reports' ∧
        u.votes = t.votes ∧ t.freeVotes ≤ u.freeVotes ∧
        (t.exactVerdict threshold = .ok .free → u.exactVerdict threshold = .ok .free)) ∧
      (((checker.projectVerdict project).run s).answer = .ok .free →
        ((checker.projectVerdict project).run s').answer = .ok .free) := by
  intro checker
  refine ⟨fun license => gentoo_free_mono fetch source hmore, ?_⟩
  intro project hsub collected s s'
  have hsteady : ∀ held : IdentifierSet, checker.Steady (filled held source) :=
    fun held => steady_standard (Or.inl rfl) hrules hpass
  obtain ⟨t, hpolled⟩ : ∃ t, checker.Polled project s _ t := polled_of_steady (hsteady free) hsub
  obtain ⟨u, hpolled'⟩ : ∃ u, checker.Polled project s' _ u := polled_of_steady (hsteady more) hsub
  have himproves : ∀ v ∈ checker.registry.voters project.packages,
      (checker.reportOf s.evaluation v).Improves (checker.reportOf s'.evaluation v) := by
    intro v hv
    have hmem : v.1 ∈ checker.registry := mem_registry_of_mem_voters hv
    have hverdict : (checker.opinion s.evaluation v).Improves
        (checker.opinion s'.evaluation v) := by
      rw [opinion_filled hrules hpass free hmem, opinion_filled hrules hpass more hmem]
      exact Verdict.improves_ofBool (Repository.admits_mono hmore)
    exact ⟨rfl, rfl, hverdict⟩
  have hreports := List.forall₂_map_left_iff.mpr (List.forall₂_map_right_iff.mpr
    (List.forall₂_same.mpr himproves))
  have hverdicts := List.forall₂_map_left_iff.mpr (List.forall₂_map_right_iff.mpr
    (hreports.imp fun _ _ h => h.verdict))
  obtain ⟨hdefinite, hfree⟩ := counts_of_improves hverdicts
  rw [← hpolled.votes, ← hpolled'.votes] at hdefinite
  rw [← hpolled.freeVotes, ← hpolled'.freeVotes] at hfree
  refine ⟨⟨_, _, t, u, hpolled, hpolled', hreports, hdefinite, hfree,
    Tally.exactVerdict_mono hdefinite hfree⟩, ?_⟩
  rw [hpolled.answered, hpolled'.answered]
  exact Tally.verdict_mono hdefinite hfree hpolled'.freeVotes_le

/-- A project whose package of Gentoo is under a license that may be a free one or not. -/
def mixed : Project := ⟨"viewer".toList, [
  { repo := "gentoo".toList, licenses := ["MIT".toList, "!static? ( || ( EULA BSD ) )".toList] },
  { repo := "debian_12".toList, subrepo := .ofString "main" },
  { repo := "arch".toList, licenses := ["MIT".toList] }]⟩

/-- A session in which these identifiers are the free ones. -/
def holding (identifiers : List Text) : Session (License.IdentifierCache Unit) :=
  ⟨filled (.ofLower identifiers) (), []⟩

/-- With another identifier the vote of Gentoo turns free. The project is free with and without
it. -/
theorem votes_on_mixed_with_another_identifier :
    Registry.builtin.Valid ∧
    IdentifierSet.ofLower ["MIT".toList] ⊆ IdentifierSet.ofLower ["MIT".toList, "BSD".toList] ∧
    (∀ p ∈ mixed.packages, p.TextSubrepo) ∧
    (∃ reports reports' t u, (offline .builtin).Polled mixed (holding ["MIT".toList]) reports t ∧
      (offline .builtin).Polled mixed (holding ["MIT".toList, "BSD".toList]) reports' u ∧
      List.Forall₂ VoteReport.Improves reports reports' ∧
      reports.map VoteReport.verdict = [.nonFree, .free, .free] ∧
      reports'.map VoteReport.verdict = [.free, .free, .free]) ∧
    (((offline .builtin).projectVerdict mixed).run (holding ["MIT".toList])).answer = .ok .free ∧
    (((offline .builtin).projectVerdict mixed).run
      (holding ["MIT".toList, "BSD".toList])).answer = .ok .free := by
  have hmore : IdentifierSet.ofLower ["MIT".toList] ⊆
      IdentifierSet.ofLower ["MIT".toList, "BSD".toList] := IdentifierSet.ofLower_subset (by simp)
  have hsub : ∀ p ∈ mixed.packages, p.TextSubrepo := by
    simp only [mixed, List.forall_mem_cons]
    exact ⟨Or.inl rfl, Or.inr ⟨_, rfl⟩, Or.inl rfl, by simp⟩
  obtain ⟨-, hprojects⟩ := verdicts_improve_with_identifiers none () Registry.valid_builtin
    (.real builtinThreshold) offline_passing hmore
  obtain ⟨⟨reports, reports', t, u, hpolled, hpolled', himproves, -⟩, hfree⟩ :=
    hprojects mixed hsub []
  have hverdict : (((offline .builtin).projectVerdict mixed).run
      (holding ["MIT".toList])).answer = .ok .free := eq_ok_of_toOption (by decide +kernel)
  refine ⟨Registry.valid_builtin, hmore, hsub, ⟨reports, reports', t, u, hpolled, hpolled',
    himproves, ?_, ?_⟩, hverdict, hfree hverdict⟩
  · have hreports : _ = reports := hpolled.collected
    rw [← hreports]
    decide +kernel
  · have hreports : _ = reports' := hpolled'.collected
    rw [← hreports]
    decide +kernel

end Checker
end DistroBallot
