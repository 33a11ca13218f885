import DistroBallot.Proofs.Ballot.Steady
import Mathlib

/-!
# Rearranging the packages of a project

A poll sees of a project the first package of each repository, and the order in which the
repositories appear. So two projects are compared by their voters: a rearrangement that keeps first
packages permutes the voters (`voters_perm`), further packages of a repository that has one already
change nothing (`voters_insert`), and without the packages of one repository the voters are the
others (`voters_filter`). The last two relate two scans whose lists of repositories that have voted
differ on the way.

First packages are to be taken among the packages that *belong* to a repository, the first one of
the registry that matches them. A repository that matches a package of another one as well may lose
its own first package in a rearrangement that keeps the first package it matches, and the verdict may
change (`verdict_changes_with_shared_packages`). Where no package is matched twice there is no
difference.
-/

namespace DistroBallot

variable {σ : Type}

namespace Registry

variable {registry : Registry} {packages packages' : List Package} {p : Package} {place : ℕ}

/-! ## Voters of rearranged packages -/

theorem places_perm (hperm : packages'.Perm packages) :
    (registry.places packages').Perm (registry.places packages) := by
  refine (List.perm_ext_iff_of_nodup (nodup_eraseDups _) (nodup_eraseDups _)).mpr fun place => ?_
  rw [List.mem_eraseDups, List.mem_eraseDups]
  exact (hperm.filterMap _).mem_iff

/-- Packages in another order have the same voters, if each repository keeps its first package. -/
theorem voters_perm (hperm : packages'.Perm packages)
    (hfirst : ∀ place, packages'.find? (fun p => registry.home p == some place) =
      packages.find? (fun p => registry.home p == some place)) :
    (registry.voters packages').Perm (registry.voters packages) := by
  have hvoterAt : registry.voterAt packages' = registry.voterAt packages := by
    funext place
    rw [voterAt, voterAt, hfirst place]
  rw [voters, voters, hvoterAt]
  exact (places_perm hperm).filterMap _

theorem votersFrom_insert {voted : List ℕ} {before after : List Package}
    (h : ∀ place, registry.home p = some place →
      place ∈ voted ∨ ∃ q ∈ before, registry.home q = some place) :
    registry.votersFrom voted (before ++ p :: after) =
      registry.votersFrom voted (before ++ after) := by
  induction before generalizing voted with
  | nil =>
      have hvoted : ∀ place, registry.home p = some place → place ∈ voted := by
        intro place hplace
        exact (h place hplace).resolve_right (by simp)
      exact votersFrom_cons_of_voted hvoted after
  | cons q before ih =>
      rw [List.cons_append, List.cons_append]
      by_cases hq : ∀ place, registry.home q = some place → place ∈ voted
      · rw [votersFrom_cons_of_voted hq, votersFrom_cons_of_voted hq]
        refine ih fun place hplace => ?_
        rcases h place hplace with hvoted | ⟨r, hr, hhome⟩
        · exact Or.inl hvoted
        · rcases List.mem_cons.mp hr with rfl | hr
          · exact Or.inl (hq place hhome)
          · exact Or.inr ⟨r, hr, hhome⟩
      · push Not at hq
        obtain ⟨place, hhome, hnew⟩ := hq
        obtain ⟨r, hr⟩ := exists_of_home hhome
        rw [votersFrom_cons_of_not_voted hhome hr hnew, votersFrom_cons_of_not_voted hhome hr hnew]
        congr 1
        -- from here on the home of `q` has voted
        refine ih fun place' hplace' => ?_
        rcases h place' hplace' with hvoted | ⟨r, hr, hhome'⟩
        · exact Or.inl (List.mem_cons_of_mem _ hvoted)
        · rcases List.mem_cons.mp hr with rfl | hr
          · exact Or.inl (by simp [Option.some.inj (hhome.symm.trans hhome')])
          · exact Or.inr ⟨r, hr, hhome'⟩

/-- A package that belongs to no repository, or to one that has a package before it, brings no
voter. -/
theorem voters_insert {before after : List Package}
    (h : registry.home p = none ∨ ∃ q ∈ before, registry.home q = registry.home p) :
    registry.voters (before ++ p :: after) = registry.voters (before ++ after) := by
  rw [← votersFrom_nil, ← votersFrom_nil]
  refine votersFrom_insert fun place hplace => Or.inr ?_
  rcases h with hnone | ⟨q, hq, hhome⟩
  · rw [hnone] at hplace
    cases hplace
  · exact ⟨q, hq, hhome.trans hplace⟩

/-- A scan of all packages and one that leaves out those of a repository, where the repositories that
have voted are the same but for that one. -/
theorem votersFrom_filter {voted voted' : List ℕ}
    (h : ∀ k, k ≠ place → (k ∈ voted' ↔ k ∈ voted)) (packages : List Package) :
    registry.votersFrom voted' (packages.filter fun p => registry.home p != some place) =
      (registry.votersFrom voted packages).filter fun v => registry.home v.2 != some place := by
  induction packages generalizing voted voted' with
  | nil => rfl
  | cons p packages ih =>
      by_cases hp : registry.home p = some place
      · rw [List.filter_cons_of_neg (by simp [hp])]
        by_cases hvoted : place ∈ voted
        · rw [votersFrom_cons_of_voted fun k hk => by simpa [← Option.some.inj (hp.symm.trans hk)]]
          exact ih h
        · obtain ⟨r, hr⟩ := exists_of_home hp
          rw [votersFrom_cons_of_not_voted hp hr hvoted, List.filter_cons_of_neg (by simp [hp])]
          exact ih fun k hk => by simp [h k hk, hk]
      · rw [List.filter_cons_of_pos (by simpa using hp)]
        by_cases hvoted : ∀ k, registry.home p = some k → k ∈ voted
        · have hvoted' : ∀ k, registry.home p = some k → k ∈ voted' := by
            intro k hk
            have hne : k ≠ place := fun heq => hp (heq ▸ hk)
            exact (h k hne).mpr (hvoted k hk)
          rw [votersFrom_cons_of_voted hvoted, votersFrom_cons_of_voted hvoted']
          exact ih h
        · push Not at hvoted
          obtain ⟨k, hk, hnew⟩ := hvoted
          have hne : k ≠ place := fun heq => hp (heq ▸ hk)
          have hnew' : k ∉ voted' := fun hk' => hnew ((h k hne).mp hk')
          obtain ⟨r, hr⟩ := exists_of_home hk
          rw [votersFrom_cons_of_not_voted hk hr hnew, votersFrom_cons_of_not_voted hk hr hnew',
            List.filter_cons_of_pos (by simpa using hp)]
          congr 1
          exact ih fun j hj => by simp [h j hj]

theorem voters_filter (registry : Registry) (place : ℕ) (packages : List Package) :
    registry.voters (packages.filter fun p => registry.home p != some place) =
      (registry.voters packages).filter fun v => registry.home v.2 != some place := by
  rw [← votersFrom_nil, ← votersFrom_nil]
  exact votersFrom_filter (fun _ _ => Iff.rfl) packages

/-- Each voter belongs to a repository, and no two voters belong to one. -/
theorem voter_of_home_eq {v w : Repository × Package} (hv : v ∈ registry.voters packages)
    (hw : w ∈ registry.voters packages) (h : registry.home v.2 = registry.home w.2) : v = w := by
  have hnodup : ((registry.voters packages).map fun v => registry.home v.2).Nodup := by
    rw [map_home_voters]
    exact (nodup_eraseDups _).map (Option.some_injective ℕ)
  exact List.inj_on_of_nodup_map hnodup hv hw h

theorem exists_home_of_mem_voters {v : Repository × Package} (h : v ∈ registry.voters packages) :
    ∃ place, registry.home v.2 = some place := by
  obtain ⟨place, -, hplace⟩ := List.mem_filterMap.mp h
  exact ⟨place, (home_of_voterAt hplace).1⟩

/-! ## Packages matched by one repository only -/

/-- No two repositories match one package. -/
def Apart (registry : Registry) (p : Package) : Prop :=
  registry.Pairwise fun r r' => ¬ (r.covers p.repo p.subrepo? = true ∧
    r'.covers p.repo p.subrepo? = true)

instance (registry : Registry) (p : Package) : Decidable (registry.Apart p) :=
  inferInstanceAs (Decidable (List.Pairwise _ registry))

/-- A package that is matched by one repository only belongs to it. -/
theorem home_eq_iff_covers {r : Repository} (h : registry.Apart p)
    (hr : registry[place]? = some r) :
    registry.home p = some place ↔ r.covers p.repo p.subrepo? = true := by
  obtain ⟨hlt, hget⟩ := List.getElem?_eq_some_iff.mp hr
  rw [home, List.findIdx?_eq_some_iff_getElem]
  constructor
  · rintro ⟨_, hcovers, _⟩
    rwa [hget] at hcovers
  · intro hcovers
    refine ⟨hlt, by rwa [hget], fun j hj hcovers' => ?_⟩
    exact List.pairwise_iff_getElem.mp h j place (hj.trans hlt) hlt hj ⟨hcovers', hget ▸ hcovers⟩

theorem find?_home_eq (hperm : packages'.Perm packages)
    (hapart : ∀ p ∈ packages, registry.Apart p)
    (hfirst : ∀ r ∈ registry, packages'.find? (fun p => r.covers p.repo p.subrepo?) =
      packages.find? (fun p => r.covers p.repo p.subrepo?)) (place : ℕ) :
    packages'.find? (fun p => registry.home p == some place) =
      packages.find? (fun p => registry.home p == some place) := by
  cases hr : registry[place]? with
  | none =>
      have hnone : ∀ ps : List Package,
          ps.find? (fun p => registry.home p == some place) = none := by
        intro ps
        rw [List.find?_eq_none]
        intro p _ hhome
        obtain ⟨r, hr'⟩ := exists_of_home (beq_iff_eq.mp hhome)
        rw [hr] at hr'
        cases hr'
      rw [hnone, hnone]
  | some r =>
      have hbelongs : ∀ p ∈ packages, (registry.home p == some place) =
          r.covers p.repo p.subrepo? := by
        intro p hp
        rw [Bool.eq_iff_iff, beq_iff_eq]
        exact home_eq_iff_covers (hapart p hp) hr
      have hcongr : ∀ ps : List Package, ps ⊆ packages →
          ps.find? (fun p => registry.home p == some place) =
            ps.find? (fun p => r.covers p.repo p.subrepo?) := by
        intro ps hsub
        induction ps with
        | nil => rfl
        | cons p ps ih =>
            have hp := hbelongs p (hsub List.mem_cons_self)
            rw [List.find?_cons, List.find?_cons, hp, ih fun q hq => hsub (List.mem_cons_of_mem p hq)]
      rw [hcongr packages' hperm.subset, hcongr packages (List.Subset.refl _),
        hfirst r (List.mem_of_getElem? hr)]

end Registry

namespace Checker

/-! ## Verdicts by counts -/

theorem decided_congr {vs ws : List Verdict} (hfree : vs.count .free = ws.count .free)
    (hnonFree : vs.count .nonFree = ws.count .nonFree) (threshold : Value) :
    decided vs threshold = decided ws threshold := by
  have hdefinite : definite vs = definite ws := by rw [definite, definite, hfree, hnonFree]
  rw [decided, decided, hdefinite, hfree]

/-- Voters that abstain are not counted. -/
theorem count_map_filter {voters : List (Repository × Package)}
    {keep : Repository × Package → Bool} {opinion : Repository × Package → Verdict}
    (h : ∀ v ∈ voters, keep v = false → opinion v = .unknown) {verdict : Verdict}
    (hdefinite : verdict ≠ .unknown) :
    ((voters.filter keep).map opinion).count verdict = (voters.map opinion).count verdict := by
  rw [List.count_eq_countP, List.count_eq_countP, List.countP_map, List.countP_filter,
    List.countP_map]
  refine List.countP_congr fun v hv => ?_
  cases hkeep : keep v with
  | true => simp
  | false => simp [h v hv hkeep, hdefinite.symm]

/-- A steady ballot has the opinion of its voter. -/
theorem exists_voter_of_mem_ballots {checker : Checker σ} {s : Session σ}
    (h : checker.Steady s.evaluation) {packages : List Package} {b : Ballot σ}
    (hb : b ∈ checker.ballots s (checker.registry.voters packages)) :
    ∃ v ∈ checker.registry.voters packages, v.2 = b.package ∧
      b.verdict = .ok (checker.opinion s.evaluation v) := by
  have hmem : ((b.repository, b.package), b.verdict) ∈
      (checker.ballots s (checker.registry.voters packages)).map
        (fun b => ((b.repository, b.package), b.verdict)) := List.mem_map_of_mem hb
  rw [(ballots_of_steady h fun _ hv => mem_registry_of_mem_voters hv).1] at hmem
  obtain ⟨v, hv, hvb⟩ := List.mem_map.mp hmem
  obtain ⟨hvoter, hverdict⟩ := Prod.mk.inj hvb
  exact ⟨v, hv, congrArg Prod.snd hvoter, hverdict.symm⟩

/-- **The verdict on a project is that of the first packages of the repositories.** At steady
evaluators, packages in another order in which each repository keeps the first package that belongs
to it lead to the same verdict by the same reports in another order; where no package is matched by
two repositories, it is enough to keep the first package that each one matches. A package that
belongs to no repository, or to one with a package before it, changes neither the verdict nor the
reports. Without the packages of a repository that abstains the verdict is the same. -/
theorem projectVerdict_eq_of_first_packages (checker : Checker σ) (s : Session σ)
    (h : checker.Steady s.evaluation) (name : Text) (packages : List Package)
    (hsub : ∀ p ∈ packages, p.TextSubrepo) :
    let home := checker.registry.home
    let ended (ps : List Package) := (checker.projectVerdict ⟨name, ps⟩).run s
    (checker.threshold.number?.isSome = true →
      ∃ verdict, (ended packages).answer = .ok verdict) ∧
    (∀ ps : List Package, ps.Perm packages →
      ((∀ place, ps.find? (fun p => home p == some place) =
          packages.find? (fun p => home p == some place)) ∨
        (∀ p ∈ packages, checker.registry.Apart p) ∧
        ∀ r ∈ checker.registry, ps.find? (fun p => r.covers p.repo p.subrepo?) =
          packages.find? (fun p => r.covers p.repo p.subrepo?)) →
      (ended ps).answer = (ended packages).answer ∧
      (ended ps).state.reports.Perm (ended packages).state.reports) ∧
    (∀ before after p, packages = before ++ after → p.TextSubrepo →
      (home p = none ∨ ∃ q ∈ before, home q = home p) →
      (ended (before ++ p :: after)).answer = (ended packages).answer ∧
      (ended (before ++ p :: after)).state.reports = (ended packages).state.reports) ∧
    ∀ b ∈ checker.ballots s (checker.registry.voters packages), b.verdict = .ok .unknown →
      (ended (packages.filter fun p => home p != home b.package)).answer =
        (ended packages).answer := by
  intro home ended
  have hrun : ∀ ps : List Package, (∀ p ∈ ps, p.TextSubrepo) →
      (ended ps).answer = decided ((checker.registry.voters ps).map
        (checker.opinion s.evaluation)) checker.threshold ∧
      (ended ps).state.reports = s.reports ++ if checker.hook.isSome then
        (checker.registry.voters ps).map (checker.reportOf s.evaluation) else [] :=
    fun ps hps => projectVerdict_of_steady h ⟨name, ps⟩ hps
  obtain ⟨hanswer, hreports⟩ := hrun packages hsub
  refine ⟨?_, ?_, ?_, ?_⟩
  · intro hnumber
    rw [hanswer]
    exact exists_decided hnumber _
  · intro ps hperm hfirst
    have hfirst : ∀ place, ps.find? (fun p => home p == some place) =
        packages.find? (fun p => home p == some place) := by
      rcases hfirst with hfirst | ⟨hapart, hfirst⟩
      · exact hfirst
      · exact Registry.find?_home_eq hperm hapart hfirst
    have hvoters := Registry.voters_perm hperm hfirst
    obtain ⟨hanswer', hreports'⟩ := hrun ps fun p hp => hsub p (hperm.subset hp)
    have hopinions := hvoters.map (checker.opinion s.evaluation)
    constructor
    · rw [hanswer, hanswer']
      exact decided_congr (hopinions.count_eq _) (hopinions.count_eq _) _
    · rw [hreports, hreports']
      refine List.Perm.append_left s.reports ?_
      split
      · exact hvoters.map _
      · exact List.Perm.refl _
  · rintro before after p rfl hp hbrings
    have hvoters : checker.registry.voters (before ++ p :: after) =
        checker.registry.voters (before ++ after) := Registry.voters_insert hbrings
    have hsub' : ∀ q ∈ before ++ p :: after, q.TextSubrepo := by
      intro q hq
      rcases List.mem_append.mp hq with hq | hq
      · exact hsub q (List.mem_append_left _ hq)
      · rcases List.mem_cons.mp hq with rfl | hq
        · exact hp
        · exact hsub q (List.mem_append_right _ hq)
    obtain ⟨hanswer', hreports'⟩ := hrun _ hsub'
    rw [hanswer, hreports, hanswer', hreports', hvoters]
    exact ⟨rfl, rfl⟩
  · intro b hb habstains
    obtain ⟨v, hv, hpackage, hverdict⟩ := exists_voter_of_mem_ballots h hb
    have hopinion : checker.opinion s.evaluation v = .unknown :=
      Except.ok.inj (hverdict.symm.trans habstains)
    obtain ⟨place, hplace⟩ := Registry.exists_home_of_mem_voters hv
    have hhome : home b.package = some place := by
      rw [← hpackage]
      exact hplace
    -- no other voter belongs to the repository
    have habstain : ∀ w ∈ checker.registry.voters packages,
        (checker.registry.home w.2 != some place) = false →
          checker.opinion s.evaluation w = .unknown := by
      intro w hw hkeep
      have hsame : checker.registry.home w.2 = checker.registry.home v.2 := by
        rw [hplace]
        simpa using hkeep
      rw [Registry.voter_of_home_eq hw hv hsame, hopinion]
    obtain ⟨hanswer', -⟩ := hrun (packages.filter fun p => home p != home b.package)
      fun p hp => hsub p (List.mem_of_mem_filter hp)
    rw [hanswer, hanswer', hhome, Registry.voters_filter]
    exact decided_congr (count_map_filter habstain (by simp)) (count_map_filter habstain (by simp)) _

/-- A session in which the free identifiers cannot be had. -/
def unplugged : Session (License.IdentifierCache Unit) := ⟨.empty (), []⟩

theorem steady_unplugged {registry : Registry} (h : registry.Valid) :
    (offline registry).Steady unplugged.evaluation :=
  steady_standard (Or.inr rfl) h offline_passing

/-- A package of Gentoo, which abstains. -/
def gentooPackage : Package := { repo := "gentoo".toList, licenses := ["MIT".toList] }

def debianPackage : Package := { repo := "debian_12".toList, subrepo := .ofString "non-free" }

def archPackages : List Package := [
  { repo := "arch".toList, licenses := ["GPL".toList] },
  { repo := "arch".toList, licenses := ["proprietary".toList] }]

/-- Gentoo abstains, Debian votes non-free and Arch free. The first two packages may change places;
another package of Debian behind the first one changes nothing; and no more does it change the
verdict to leave Gentoo out. -/
theorem verdict_of_rearranged_packages :
    (offline .builtin).Steady unplugged.evaluation ∧
    (∀ p ∈ gentooPackage :: debianPackage :: archPackages, p.TextSubrepo) ∧
    (((offline .builtin).projectVerdict
      ⟨[], gentooPackage :: debianPackage :: archPackages⟩).run unplugged).answer =
        .ok .nonFree ∧
    (((offline .builtin).projectVerdict
      ⟨[], debianPackage :: gentooPackage :: archPackages⟩).run unplugged).answer =
        .ok .nonFree ∧
    (((offline .builtin).projectVerdict
      ⟨[], gentooPackage :: debianPackage :: debianPackage :: archPackages⟩).run
        unplugged).answer = .ok .nonFree ∧
    (((offline .builtin).projectVerdict ⟨[], debianPackage :: archPackages⟩).run
      unplugged).answer = .ok .nonFree := by
  have hsteady := steady_unplugged Registry.valid_builtin
  have hsub : ∀ p ∈ gentooPackage :: debianPackage :: archPackages, p.TextSubrepo := by
    simp only [archPackages, List.forall_mem_cons]
    exact ⟨Or.inl rfl, Or.inr ⟨_, rfl⟩, Or.inl rfl, Or.inl rfl, by simp⟩
  obtain ⟨-, hreorder, hinsert, habstain⟩ :=
    projectVerdict_eq_of_first_packages (offline .builtin) unplugged hsteady [] _ hsub
  have hverdict : (((offline .builtin).projectVerdict
      ⟨[], gentooPackage :: debianPackage :: archPackages⟩).run unplugged).answer =
        .ok .nonFree := eq_ok_of_toOption (by decide +kernel)
  refine ⟨hsteady, hsub, hverdict, ?_, ?_, ?_⟩
  · have hfirst : ∀ r ∈ Registry.builtin,
        (debianPackage :: gentooPackage :: archPackages).find?
            (fun p => r.covers p.repo p.subrepo?) =
          (gentooPackage :: debianPackage :: archPackages).find?
            (fun p => r.covers p.repo p.subrepo?) := by
      simp only [Registry.builtin, List.forall_mem_cons]
      exact ⟨rfl, rfl, rfl, rfl, rfl, by simp⟩
    have hsame := hreorder _ (List.Perm.swap _ _ _) (Or.inr ⟨by decide +kernel, hfirst⟩)
    exact hsame.1.trans hverdict
  · have hsame := hinsert [gentooPackage, debianPackage] archPackages debianPackage rfl
      (Or.inr ⟨_, rfl⟩) (Or.inr ⟨debianPackage, by simp, rfl⟩)
    exact hsame.1.trans hverdict
  · have hsame := habstain _ List.mem_cons_self rfl
    exact hsame.trans hverdict

/-- Two repositories, the second of which matches the packages of the first as well. -/
def nested : Registry := [
  ⟨"inner".toList, .whole ["x1".toList], none, .fixed true⟩,
  ⟨"outer".toList, .startsWith "x".toList, none, .evaluator (.known .arch)⟩]

/-- The first package that each of the two matches. -/
def sharedPackage : Package := { repo := "x1".toList }

def proprietaryPackage : Package :=
  { repo := "x2".toList, licenses := ["proprietary".toList] }

def freePackage : Package := { repo := "x3".toList, licenses := ["MIT".toList] }

/-- Both orders of the packages have the same first package among those that a repository matches,
for each of the two repositories. The verdicts differ: the shared package belongs to the first
repository, and the second one votes through the package after it. -/
theorem verdict_changes_with_shared_packages :
    (offline nested).Steady unplugged.evaluation ∧
    (∀ p ∈ [sharedPackage, proprietaryPackage, freePackage], p.TextSubrepo) ∧
    [sharedPackage, freePackage, proprietaryPackage].Perm
      [sharedPackage, proprietaryPackage, freePackage] ∧
    (∀ r ∈ nested,
      [sharedPackage, freePackage, proprietaryPackage].find?
          (fun p => r.covers p.repo p.subrepo?) =
        [sharedPackage, proprietaryPackage, freePackage].find?
          (fun p => r.covers p.repo p.subrepo?)) ∧
    (((offline nested).projectVerdict ⟨[], [sharedPackage, proprietaryPackage, freePackage]⟩).run
      unplugged).answer = .ok .nonFree ∧
    (((offline nested).projectVerdict ⟨[], [sharedPackage, freePackage, proprietaryPackage]⟩).run
      unplugged).answer = .ok .free := by
  have hvalid : nested.Valid := by simp [Registry.Valid, nested]
  refine ⟨steady_unplugged hvalid, ?_, (List.Perm.swap _ _ _).cons _, ?_, ?_, ?_⟩
  · simp [sharedPackage, proprietaryPackage, freePackage, Package.TextSubrepo]
  · simp only [nested, List.forall_mem_cons]
    exact ⟨rfl, rfl, by simp⟩
  · exact eq_ok_of_toOption (by decide +kernel)
  · exact eq_ok_of_toOption (by decide +kernel)

end Checker
end DistroBallot
