import DistroBallot.Proofs.Ballot.Checks
import DistroBallot.Proofs.Ballot.Steady
import Mathlib

/-!
# Fetching the free identifiers

The free identifiers are fetched for the ballots of Gentoo, and only when a license is to be looked
at. A fetch can be made to write down how it ended (`License.recordedFetch`), and then the cache
holds what the first successful one found (`License.IdentifierCache.Faithful`). One ballot has
several licenses, and each of them looks into the cache: that there is still one fetch in a ballot
at most is due to the two ways in which the first look can end. The identifiers are found, and the
other licenses find them in the cache; or they are unavailable, and the ballot is an abstention
without a look at the other licenses (`Settled`).
-/

namespace DistroBallot

variable {σ : Type}

namespace License

/-! ## Fetches written down -/

/-- How fetches ended, the first one first. -/
abbrev Fetches := List (Except Fault (List Text))

/-- A fetch that writes down, beside its own state, how it ended. -/
def recordedFetch (fetch : Step Fault σ (List Text)) :
    Step Fault (σ × Fetches) (List Text) := fun s =>
  let ended := fetch.run s.1
  ⟨ended.answer, (ended.state, s.2 ++ [ended.answer]), ended.events⟩

/-- The identifiers that the first successful fetch found. -/
def firstFound (fetches : Fetches) : Option (List Text) := fetches.findSome? Except.toOption

/-- A fetch finds identifiers or tells that they are unavailable, and stops by no other fault. -/
def Fetching (fetch : Step Fault σ (List Text)) : Prop :=
  ∀ s, (∃ found, (fetch.run s).answer = .ok found) ∨
    ∃ reason, (fetch.run s).answer = .error (.groups reason)

/-- The cache holds what the first successful fetch found, in lower-case forms. -/
def IdentifierCache.Faithful (c : IdentifierCache (σ × Fetches)) : Prop :=
  c.held = (firstFound c.source.2).map IdentifierSet.ofLower

theorem firstFound_append_ok {fetches : Fetches} (h : firstFound fetches = none)
    (found : List Text) : firstFound (fetches ++ [.ok found]) = some found := by
  rw [firstFound] at h ⊢
  rw [List.findSome?_append, h]
  rfl

theorem firstFound_append_error {fetches : Fetches} (h : firstFound fetches = none)
    (fault : Fault) : firstFound (fetches ++ [.error fault]) = none := by
  rw [firstFound] at h ⊢
  rw [List.findSome?_append, h]
  rfl

/-- Whether a license is free when these identifiers, in lower-case forms, are the free ones. -/
def freeUnder (identifiers : List Text) (license : Text) : Bool :=
  (isFree (some license) (.ofLower identifiers)).toOption == some true

theorem isFree_eq_freeUnder (identifiers : List Text) (license : Text) :
    isFree (some license) (.ofLower identifiers) = .ok (freeUnder identifiers license) := by
  obtain ⟨answer, hanswer⟩ := exists_isFree license (.ofLower identifiers)
  rw [freeUnder, hanswer]
  cases answer <;> rfl

/-- The verdict on licenses when these identifiers are the free ones. -/
def decidedBy (identifiers : List Text) (licenses : List Text) : Verdict :=
  .ofBool (licenses.all (freeUnder identifiers))

theorem decidedBy_ne_unknown (identifiers licenses : List Text) :
    decidedBy identifiers licenses ≠ .unknown := by
  rw [decidedBy, Verdict.ofBool]
  split <;> simp

end License

open License

/-- The fetches made in a session. -/
def Session.fetches (s : Session (IdentifierCache (σ × Fetches))) : Fetches := s.evaluation.source.2

/-- Whether a ballot is cast by Gentoo on a package with licenses. -/
def Ballot.IsGentoo (b : Ballot σ) : Prop :=
  b.repository.name = "gentoo".toList ∧ b.package.licenses ≠ []

/-! ## One look into the cache -/

theorem gentoo_run_held {fetch : Option (Step Fault σ (List Text))} {c : IdentifierCache σ}
    {identifiers : List Text} (h : c.held = some (.ofLower identifiers)) (license : Text) :
    (Evaluator.gentoo fetch license).run c =
      ⟨.ok (.ofBool (freeUnder identifiers license)), c, []⟩ :=
  gentoo_run_of_held h license

theorem gentoo_run_found {fetch : Step Fault σ (List Text)} {c : IdentifierCache σ}
    {found : List Text} {source : σ} {events : List Log.Event} (h : c.held = none)
    (hfetch : fetch.run c.source = ⟨.ok found, source, events⟩) (license : Text) :
    (Evaluator.gentoo (some fetch) license).run c =
      ⟨.ok (.ofBool (freeUnder found license)), ⟨some (.ofLower found), source⟩, events⟩ := by
  have hget : (IdentifierCache.get (some fetch)).run c =
      ⟨.ok (some (.ofLower found)), ⟨some (.ofLower found), source⟩, events⟩ := by
    rw [cache_run_of_empty h, hfetch]
    rfl
  rw [Evaluator.gentoo, Step.run_bind_of_ok hget, Evaluator.ofIdentifiers]
  simp only [isFree_eq_freeUnder]
  simp

theorem gentoo_run_failed {fetch : Step Fault σ (List Text)} {c : IdentifierCache σ}
    {reason : GroupsUnavailable} {source : σ} {events : List Log.Event} (h : c.held = none)
    (hfetch : fetch.run c.source = ⟨.error (.groups reason), source, events⟩) (license : Text) :
    (Evaluator.gentoo (some fetch) license).run c =
      ⟨.ok .unknown, ⟨none, source⟩,
        events ++ [.groupsUnavailable reason.message] ++ [.abstention]⟩ := by
  have hget : (IdentifierCache.get (some fetch)).run c =
      ⟨.ok none, ⟨none, source⟩, events ++ [.groupsUnavailable reason.message]⟩ := by
    rw [cache_run_of_empty h, hfetch]
    rfl
  rw [Evaluator.gentoo, Step.run_bind_of_ok hget]
  rfl

/-! ## The licenses of one ballot -/

namespace Checker

theorem firstNotFree_run_held {fetch : Option (Step Fault σ (List Text))}
    {c : IdentifierCache σ} {identifiers : List Text}
    (h : c.held = some (.ofLower identifiers)) (licenses : List Text) :
    (firstNotFree (Evaluator.gentoo fetch) licenses).run c =
      ⟨.ok (decidedBy identifiers licenses), c, []⟩ := by
  induction licenses with
  | nil => rfl
  | cons license rest ih =>
      rw [firstNotFree, Step.run_bind_of_ok (gentoo_run_held h license), decidedBy, List.all_cons]
      cases freeUnder identifiers license with
      | false => rfl
      | true =>
          rw [Bool.true_and]
          exact ih

/-- Licenses of a ballot that finds the identifiers: the first one fetches, and the others find them
in the cache. -/
theorem firstNotFree_run_found {fetch : Step Fault σ (List Text)} {c : IdentifierCache σ}
    {found : List Text} {source : σ} {events : List Log.Event} (h : c.held = none)
    (hfetch : fetch.run c.source = ⟨.ok found, source, events⟩) {licenses : List Text}
    (hlicenses : licenses ≠ []) :
    (firstNotFree (Evaluator.gentoo (some fetch)) licenses).run c =
      ⟨.ok (decidedBy found licenses), ⟨some (.ofLower found), source⟩, events⟩ := by
  cases licenses with
  | nil => exact absurd rfl hlicenses
  | cons license rest =>
      rw [firstNotFree, Step.run_bind_of_ok (gentoo_run_found h hfetch license), decidedBy,
        List.all_cons]
      cases freeUnder found license with
      | false => simp [Verdict.ofBool]
      | true =>
          rw [Verdict.ofBool, if_pos rfl, if_pos rfl, firstNotFree_run_held rfl, Bool.true_and,
            List.append_nil, decidedBy]

/-- A ballot that does not find the identifiers ends at its first license. -/
theorem firstNotFree_run_failed {fetch : Step Fault σ (List Text)} {c : IdentifierCache σ}
    {reason : GroupsUnavailable} {source : σ} {events : List Log.Event} (h : c.held = none)
    (hfetch : fetch.run c.source = ⟨.error (.groups reason), source, events⟩)
    {licenses : List Text} (hlicenses : licenses ≠ []) :
    ∃ told, (firstNotFree (Evaluator.gentoo (some fetch)) licenses).run c =
      ⟨.ok .unknown, ⟨none, source⟩, told⟩ := by
  cases licenses with
  | nil => exact absurd rfl hlicenses
  | cons license rest =>
      rw [firstNotFree, Step.run_bind_of_ok (gentoo_run_failed h hfetch license)]
      exact ⟨_, rfl⟩

/-- How a ballot of Gentoo on a package with licenses ends, by the fetches made before it: its
verdict, and what it leaves in the cache. -/
inductive Settled (fetch : Step Fault σ (List Text)) (c : IdentifierCache (σ × Fetches))
    (licenses : List Text) : Except Fault Verdict → IdentifierCache (σ × Fetches) → Prop where
  | held {found : List Text} (before : firstFound c.source.2 = some found) :
      Settled fetch c licenses (.ok (decidedBy found licenses)) c
  | found {found : List Text} (before : firstFound c.source.2 = none)
      (fetched : (fetch.run c.source.1).answer = .ok found) :
      Settled fetch c licenses (.ok (decidedBy found licenses))
        ⟨some (.ofLower found), ((fetch.run c.source.1).state, c.source.2 ++ [.ok found])⟩
  | failed {reason : GroupsUnavailable} (before : firstFound c.source.2 = none)
      (fetched : (fetch.run c.source.1).answer = .error (.groups reason)) :
      Settled fetch c licenses (.ok .unknown)
        ⟨none, ((fetch.run c.source.1).state, c.source.2 ++ [.error (.groups reason)])⟩

/-- **The licenses of one ballot take one fetch at most.** -/
theorem settled_firstNotFree {fetch : Step Fault σ (List Text)} (hfetch : Fetching fetch)
    {c : IdentifierCache (σ × Fetches)} (hc : c.Faithful) {licenses : List Text}
    (hlicenses : licenses ≠ []) :
    let ended := (firstNotFree (Evaluator.gentoo (some (recordedFetch fetch))) licenses).run c
    Settled fetch c licenses ended.answer ended.state := by
  rw [IdentifierCache.Faithful] at hc
  cases hbefore : firstFound c.source.2 with
  | some found =>
      rw [hbefore, Option.map_some] at hc
      rw [firstNotFree_run_held hc]
      exact .held hbefore
  | none =>
      rw [hbefore, Option.map_none] at hc
      rcases hfetch c.source.1 with ⟨found, hfound⟩ | ⟨reason, hreason⟩
      · have hrecorded : (recordedFetch fetch).run c.source =
            ⟨.ok found, ((fetch.run c.source.1).state, c.source.2 ++ [.ok found]),
              (fetch.run c.source.1).events⟩ := by
          rw [← hfound]
          rfl
        rw [firstNotFree_run_found hc hrecorded hlicenses]
        exact .found hbefore hfound
      · have hrecorded : (recordedFetch fetch).run c.source =
            ⟨.error (.groups reason),
              ((fetch.run c.source.1).state, c.source.2 ++ [.error (.groups reason)]),
              (fetch.run c.source.1).events⟩ := by
          rw [← hreason]
          rfl
        obtain ⟨told, hrun⟩ := firstNotFree_run_failed hc hrecorded hlicenses
        rw [hrun]
        exact .failed hbefore hreason

theorem Settled.faithful {fetch : Step Fault σ (List Text)}
    {c c' : IdentifierCache (σ × Fetches)} {licenses : List Text}
    {answer : Except Fault Verdict} (h : Settled fetch c licenses answer c') (hc : c.Faithful) :
    c'.Faithful := by
  cases h with
  | held before => exact hc
  | found before fetched =>
      rw [IdentifierCache.Faithful, firstFound_append_ok before]
      rfl
  | failed before fetched =>
      rw [IdentifierCache.Faithful, firstFound_append_error before]
      rfl

/-! ## Votes of the known repositories -/

theorem firstNotFree_state {evaluator : Evaluator σ}
    (h : ∀ license s, ∃ answer, (evaluator license).run s = ⟨answer, s, []⟩)
    (licenses : List Text) (s : σ) : ((firstNotFree evaluator licenses).run s).state = s := by
  induction licenses with
  | nil => rfl
  | cons license rest ih =>
      rw [firstNotFree]
      obtain ⟨answer, hrun⟩ := h license s
      cases answer with
      | error fault => rw [Step.run_bind_of_error hrun]
      | ok verdict =>
          rw [Step.run_bind_of_ok hrun]
          split
          · exact ih
          · rfl

section Votes

variable {checker : Checker (IdentifierCache σ)} {fetch : Option (Step Fault σ (List Text))}

theorem vote_gentoo (hevaluators : checker.evaluators = Evaluator.standard fetch)
    {r : Repository} (hr : r ∈ Registry.builtin) (hname : r.name = "gentoo".toList) (p : Package) :
    checker.vote r p = firstNotFree (Evaluator.gentoo fetch) p.licenses := by
  simp only [Registry.builtin, List.mem_cons, List.not_mem_nil, or_false] at hr
  rcases hr with rfl | rfl | rfl | rfl | rfl
  · exact absurd hname (by decide)
  · exact absurd hname (by decide)
  · exact absurd hname (by decide)
  · simp only [vote, hevaluators]
    rfl
  · exact absurd hname (by decide)

/-- The other repositories look at nothing but the licenses. -/
theorem vote_state_of_name_ne (hevaluators : checker.evaluators = Evaluator.standard fetch)
    {r : Repository} (hr : r ∈ Registry.builtin) (hname : r.name ≠ "gentoo".toList) (p : Package)
    (c : IdentifierCache σ) : ((checker.vote r p).run c).state = c := by
  have hmarker : ∀ marker license (c : IdentifierCache σ),
      ∃ answer, (Evaluator.ofMarker marker license).run c = ⟨answer, c, []⟩ :=
    fun _ _ _ => ⟨_, rfl⟩
  simp only [Registry.builtin, List.mem_cons, List.not_mem_nil, or_false] at hr
  rcases hr with rfl | rfl | rfl | rfl | rfl
  · simp only [vote, hevaluators]
    exact firstNotFree_state (hmarker .arch) p.licenses c
  · rfl
  · rfl
  · exact absurd rfl hname
  · simp only [vote, hevaluators]
    exact firstNotFree_state (hmarker .opensuse) p.licenses c

/-- A ballot that is not of Gentoo, or on a package without licenses, leaves the cache alone. -/
theorem vote_state_of_not_gentoo (hevaluators : checker.evaluators = Evaluator.standard fetch)
    {r : Repository} (hr : r ∈ Registry.builtin) {p : Package}
    (h : ¬(r.name = "gentoo".toList ∧ p.licenses ≠ [])) (c : IdentifierCache σ) :
    ((checker.vote r p).run c).state = c := by
  by_cases hname : r.name = "gentoo".toList
  · have hlicenses : p.licenses = [] := by
      by_contra hlicenses
      exact h ⟨hname, hlicenses⟩
    rw [vote_gentoo hevaluators hr hname, hlicenses]
    rfl
  · exact vote_state_of_name_ne hevaluators hr hname p c

end Votes

/-- A checker of the known repositories whose fetches are written down. -/
def fetching (fetch : Step Fault σ (List Text)) (threshold : Value)
    (hook : Option (List VoteReport → Option Fault)) : Checker (IdentifierCache (σ × Fetches)) where
  evaluators := Evaluator.standard (some (recordedFetch fetch))
  registry := .builtin
  threshold := threshold
  hook := hook

variable {fetch : Step Fault σ (List Text)} {threshold : Value}
  {hook : Option (List VoteReport → Option Fault)}

/-! ## Thrift -/

/-- How a ballot fetches: in a ballot of Gentoo once, if no earlier fetch has succeeded, and not at
all otherwise. The verdict is unknown just when that fetch has failed; once a fetch has succeeded,
it is that of the identifiers it found. -/
structure Thrifty (fetch : Step Fault σ (List Text))
    (before : Session (IdentifierCache (σ × Fetches)))
    (b : Ballot (IdentifierCache (σ × Fetches))) (verdict : Except Fault Verdict) : Prop where
  fetches_once : b.IsGentoo → firstFound before.fetches = none →
    b.after.fetches = before.fetches ++ [(fetch.run before.evaluation.source.1).answer]
  fetches_nothing : b.IsGentoo → firstFound before.fetches ≠ none →
    b.after.fetches = before.fetches
  unknown_iff : b.IsGentoo → (verdict = .ok .unknown ↔
    ∃ fault, b.after.fetches = before.fetches ++ [.error fault])
  decided_by : b.IsGentoo → ∀ found, firstFound b.after.fetches = some found →
    verdict = .ok (decidedBy found b.package.licenses)
  others_fetch_nothing : ¬b.IsGentoo → b.after.evaluation = before.evaluation

theorem ne_append_singleton (fetches : Fetches) (last : Except Fault (List Text)) :
    fetches ≠ fetches ++ [last] := by
  intro h
  have hlength := congrArg List.length h
  rw [List.length_append, List.length_singleton] at hlength
  omega

theorem Settled.thrifty {before : Session (IdentifierCache (σ × Fetches))}
    {b : Ballot (IdentifierCache (σ × Fetches))} {verdict : Except Fault Verdict}
    {after : IdentifierCache (σ × Fetches)} (hb : b.IsGentoo)
    (hafter : b.after.evaluation = after)
    (h : Settled fetch before.evaluation b.package.licenses verdict after) :
    Thrifty fetch before b verdict := by
  have hfetches : b.after.fetches = after.source.2 := by rw [Session.fetches, hafter]
  have hdefinite : ∀ found, (.ok (decidedBy found b.package.licenses) : Except Fault Verdict) ≠
      .ok .unknown := fun found h => decidedBy_ne_unknown _ _ (Except.ok.inj h)
  cases h with
  | @held found hbefore =>
      constructor
      · intro _ hnone
        cases hbefore.symm.trans hnone
      · exact fun _ _ => hfetches
      · intro _
        refine iff_of_false (hdefinite found) ?_
        rintro ⟨fault, hfault⟩
        exact ne_append_singleton _ _ (hfetches.symm.trans hfault)
      · intro _ first hfirst
        rw [hfetches, hbefore] at hfirst
        rw [Option.some.inj hfirst]
      · exact absurd hb
  | @found found hbefore hfound =>
      constructor
      · intro _ _
        rw [hfetches, hfound]
        rfl
      · exact fun _ hsome => absurd hbefore hsome
      · intro _
        refine iff_of_false (hdefinite found) ?_
        rintro ⟨fault, hfault⟩
        cases List.append_cancel_left (hfetches.symm.trans hfault)
      · intro _ first hfirst
        rw [hfetches, firstFound_append_ok hbefore] at hfirst
        rw [Option.some.inj hfirst]
      · exact absurd hb
  | @failed reason hbefore hreason =>
      constructor
      · intro _ _
        rw [hfetches, hreason]
        rfl
      · exact fun _ hsome => absurd hbefore hsome
      · intro _
        exact iff_of_true rfl ⟨.groups reason, hfetches⟩
      · intro _ first hfirst
        rw [hfetches, firstFound_append_error hbefore] at hfirst
        cases hfirst
      · exact absurd hb

/-! ## The ballots of checks -/

theorem ballot_of_fetching (hfetch : Fetching fetch) {s : Session (IdentifierCache (σ × Fetches))}
    (hs : s.evaluation.Faithful) {voter : Repository × Package} (hr : voter.1 ∈ Registry.builtin) :
    let checker := fetching fetch threshold hook
    let b := checker.ballot s voter
    b.after.evaluation.Faithful ∧
    Thrifty fetch s b ((checker.vote b.repository b.package).run s.evaluation).answer := by
  intro checker b
  have hevaluation : b.after.evaluation =
      ((checker.vote voter.1 voter.2).run s.evaluation).state := ballot_evaluation checker s voter
  obtain ⟨hrepository, hpackage⟩ := Prod.mk.inj (ballot_voter checker s voter)
  by_cases hb : b.IsGentoo
  · -- the first license looks into the cache, and that settles the ballot
    have hsettled := settled_firstNotFree hfetch hs hb.2
    rw [hrepository, vote_gentoo rfl hr (hrepository ▸ hb.1)]
    rw [vote_gentoo rfl hr (hrepository ▸ hb.1),
      ← hpackage] at hevaluation
    rw [hevaluation]
    exact ⟨hsettled.faithful hs, hsettled.thrifty hb hevaluation⟩
  · -- nothing looks into the cache, so that all statements about Gentoo are empty
    have hkept : b.after.evaluation = s.evaluation := by
      rw [hevaluation]
      refine vote_state_of_not_gentoo rfl hr (fun h => hb ?_) s.evaluation
      exact ⟨hrepository ▸ h.1, hpackage ▸ h.2⟩
    rw [hkept]
    exact ⟨hs, fun h => absurd h hb, fun h => absurd h hb, fun h => absurd h hb,
      fun h => absurd h hb, fun _ => hkept⟩

/-- **The free identifiers are fetched for ballots of Gentoo alone, and never again after a fetch
that succeeded.** Whatever is checked with one checker that starts with an empty cache, all it does
is to cast ballots, and each of them is thrifty with fetches; in one check a repository casts one
ballot at most, through the first of its packages. -/
theorem checks_fetch_thriftily (fetch : Step Fault σ (List Text)) (hfetch : Fetching fetch)
    (threshold : Value) (hook : Option (List VoteReport → Option Fault)) (source : σ)
    (subjects : List Subject) :
    let checker := fetching fetch threshold hook
    let start : Session (IdentifierCache (σ × Fetches)) := ⟨.empty (source, []), []⟩
    let bs := checker.ballotsOnAll start subjects
    subjects.foldl (fun s subject => ((checker.check subject).run s).state) start =
      sessionAfter start bs ∧
    (∀ earlier b later, bs = earlier ++ b :: later →
      let before := sessionAfter start earlier
      Thrifty fetch before b
        ((checker.vote b.repository b.package).run before.evaluation).answer) ∧
    ∀ s subject,
      ((checker.ballotsOn s subject).map fun b => checker.registry.home b.package).Nodup ∧
      ∀ b ∈ checker.ballotsOn s subject, subject.packages.find?
        (fun p => checker.registry.home p == checker.registry.home b.package) = some b.package := by
  intro checker start bs
  refine ⟨checks_state checker subjects start, ?_, ?_⟩
  · intro earlier b later hbs before
    have hcast : Cast checker start (earlier ++ b :: later) := by
      rw [← hbs]
      exact cast_ballotsOnAll checker subjects start
    obtain ⟨hearlier, voter, hr, hb⟩ := hcast.split
    have hbefore : before.evaluation.Faithful := by
      refine hearlier.preserves (P := fun s => s.evaluation.Faithful) ?_ rfl
      intro s voter hr hs
      exact (ballot_of_fetching hfetch hs hr).1
    rw [hb]
    exact (ballot_of_fetching hfetch hbefore hr).2
  · intro s subject
    exact ⟨nodup_home_ballotsOn checker s subject, fun b hb => find?_of_mem_ballotsOn hb⟩

/-- A fetch that finds what a script says in turn, and nothing where the script has nothing. -/
def playFetches : Step Fault (List (Option (List Text))) (List Text) := fun script =>
  match script with
  | some found :: rest => ⟨.ok found, rest, []⟩
  | none :: rest => ⟨.error (.groups (.reported "offline")), rest, []⟩
  | [] => ⟨.error (.groups (.reported "offline")), [], []⟩

theorem fetching_playFetches : Fetching playFetches := by
  intro script
  match script with
  | some found :: rest => exact .inl ⟨found, rfl⟩
  | none :: rest => exact .inr ⟨.reported "offline", rfl⟩
  | [] => exact .inr ⟨.reported "offline", rfl⟩

/-- A checker whose fetches play a script. -/
def downloading : Checker (IdentifierCache (List (Option (List Text)) × Fetches)) :=
  fetching playFetches (.real builtinThreshold) none

/-- A session whose first fetch fails; the third one, which would find other identifiers, is not
made. -/
def unconnected : Session (IdentifierCache (List (Option (List Text)) × Fetches)) :=
  ⟨.empty ([none, some ["mit".toList], some ["X".toList]], []), []⟩

/-- Three subjects with ballots of Gentoo: the first on a package, the second on a project. -/
def portedBetween : List Subject :=
  [.package { repo := "gentoo".toList, licenses := ["MIT".toList] }, .project ported,
    .package { repo := "gentoo".toList, licenses := ["MIT".toList] }]

/-- Three ballots of Gentoo take two fetches; the first ballot is unknown, and the last one is
decided by what the second fetch found. -/
theorem fetches_portedBetween : Fetching playFetches ∧
    (portedBetween.foldl (fun s subject => ((downloading.check subject).run s).state)
        unconnected).fetches.map Except.toOption = [none, some ["mit".toList]] ∧
    (∃ b later, downloading.ballotsOnAll unconnected portedBetween = b :: later ∧ b.IsGentoo ∧
      Thrifty playFetches unconnected b (.ok .unknown)) ∧
    ∃ earlier b, downloading.ballotsOnAll unconnected portedBetween = earlier ++ [b] ∧
      b.IsGentoo ∧ Thrifty playFetches (sessionAfter unconnected earlier) b (.ok .free) := by
  obtain ⟨hstate, hthrifty, -⟩ := checks_fetch_thriftily playFetches fetching_playFetches
    (.real builtinThreshold) none [none, some ["mit".toList], some ["X".toList]] portedBetween
  refine ⟨fetching_playFetches, ?_, ?_, ?_⟩
  · refine (congrArg (fun s => s.fetches.map Except.toOption) hstate).trans ?_
    decide +kernel
  · exact ⟨_, _, rfl, ⟨rfl, List.cons_ne_nil _ _⟩, hthrifty [] _ _ rfl⟩
  · exact ⟨[_, _, _, _], _, rfl, ⟨rfl, List.cons_ne_nil _ _⟩, hthrifty [_, _, _, _] _ [] rfl⟩

end Checker
end DistroBallot
