import DistroBallot.Ballot.Checker
import Mathlib

/-!
# The voters of a project

The packages of a project are assigned to repositories, each to the first one of the registry that
matches it (`Registry.home`). A repository that has a package votes, through the first of its
packages, and the votes are in the order of first appearance (`Registry.voters`). Nothing is said
about a scan here; that the scan over the packages meets these voters one after the other is the
recursion of `votersFrom` on the packages.
-/

namespace DistroBallot

/-! ## The home of a package -/

/-- Packages whose sub-repository is a text or not given. -/
def Package.TextSubrepo (p : Package) : Prop :=
  p.subrepo = .null ∨ ∃ t, p.subrepo = .text t

/-- The sub-repository of a package, if it is given. -/
def Package.subrepo? (p : Package) : Option Text :=
  match p.subrepo with
  | .text t => some t
  | _ => none

/-- Whether a repository matches the names of a repository and a sub-repository. -/
def Repository.covers (r : Repository) (repo : Text) (subrepo : Option Text) : Bool :=
  r.repo.holds repo &&
    match r.subrepo, subrepo with
    | none, _ => true
    | some _, none => false
    | some pattern, some t => pattern.holds t

/-- A text that may be absent, as a value. -/
def Value.given : Option Text → Value
  | none => .null
  | some t => .text t

theorem accepts_given (r : Repository) (repo : Text) (subrepo : Option Text) :
    r.accepts (.text repo) (.given subrepo) = .ok (r.covers repo subrepo) := by
  have hrepo : r.repo.search (.text repo) = .ok (r.repo.holds repo) := rfl
  unfold Repository.accepts Repository.covers
  rw [hrepo]
  cases r.repo.holds repo with
  | false => rfl
  | true => cases subrepo <;> cases r.subrepo <;> rfl

theorem accepts_eq_covers (r : Repository) {p : Package} (hp : p.TextSubrepo) :
    r.accepts (.text p.repo) p.subrepo = .ok (r.covers p.repo p.subrepo?) := by
  have hgiven : p.subrepo = .given p.subrepo? := by
    rcases hp with h | ⟨t, h⟩ <;> rw [Package.subrepo?, h] <;> rfl
  rw [hgiven, accepts_given]

/-- Where a repository says whether it accepts a package, it does so just when it covers it. A
sub-repository that is no text makes no difference as long as no pattern is applied to it. -/
theorem covers_of_accepts {r : Repository} {p : Package} {b : Bool}
    (h : r.accepts (.text p.repo) p.subrepo = .ok b) : r.covers p.repo p.subrepo? = b := by
  have hrepo : r.repo.search (.text p.repo) = .ok (r.repo.holds p.repo) := rfl
  unfold Repository.accepts at h
  unfold Repository.covers Package.subrepo?
  rw [hrepo] at h
  cases hholds : r.repo.holds p.repo with
  | false =>
      rw [hholds] at h
      simpa using h
  | true =>
      rw [hholds] at h
      cases hpattern : r.subrepo with
      | none => simpa [hpattern] using h
      | some pattern =>
          cases hsub : p.subrepo with
          | null => simpa [hpattern, hsub] using h
          | text t => simpa [hpattern, hsub, Pattern.search] using h
          | _ => simp [hpattern, hsub, Pattern.search] at h

namespace Registry

/-- The place of the first repository that matches a package. -/
def home (registry : Registry) (p : Package) : Option Nat :=
  registry.findIdx? (fun r => r.covers p.repo p.subrepo?)

/-- The repository at a place, with the place. -/
def placed (registry : Registry) (place : Nat) : Option (Nat × Repository) :=
  registry[place]?.map (place, ·)

/-- Whether the search for the repository of a package comes to an end: it fails at a pattern that
is applied to something other than a text. -/
def canPlace (registry : Registry) (p : Package) : Bool :=
  match registry.find? (.text p.repo) p.subrepo with
  | .ok _ => true
  | .error _ => false

theorem findFrom_eq_home {registry : Registry} {p : Package} {start : Nat}
    {found : Option (Nat × Repository)}
    (h : findFrom (.text p.repo) p.subrepo start registry = .ok found) :
    found = (registry.home p).bind fun k => registry[k]?.map (start + k, ·) := by
  induction registry generalizing start with
  | nil => exact (Except.ok.inj h).symm
  | cons r registry ih =>
      rw [findFrom] at h
      cases hr : r.accepts (.text p.repo) p.subrepo with
      | error e => simp [hr] at h
      | ok b =>
          rw [home, List.findIdx?_cons, covers_of_accepts hr]
          rw [hr] at h
          cases b with
          | true => simpa using (Except.ok.inj h).symm
          | false =>
              rw [ih h, home]
              cases List.findIdx? (fun r => r.covers p.repo p.subrepo?) registry with
              | none => rfl
              | some k => simp [Nat.add_assoc, Nat.add_comm 1 k]

theorem find?_eq_home {registry : Registry} {p : Package} (hp : registry.canPlace p = true) :
    registry.find? (.text p.repo) p.subrepo = .ok ((registry.home p).bind registry.placed) := by
  rw [canPlace] at hp
  cases h : registry.find? (.text p.repo) p.subrepo with
  | error e => simp [h] at hp
  | ok found =>
      rw [findFrom_eq_home h]
      simp only [Nat.zero_add]
      rfl

theorem findFrom_isOk {p : Package} (hp : p.TextSubrepo) (registry : Registry) (start : Nat) :
    ∃ found, findFrom (.text p.repo) p.subrepo start registry = .ok found := by
  induction registry generalizing start with
  | nil => exact ⟨none, rfl⟩
  | cons r registry ih =>
      rw [findFrom, accepts_eq_covers r hp]
      cases r.covers p.repo p.subrepo? with
      | true => exact ⟨some (start, r), rfl⟩
      | false => exact ih (start + 1)

theorem canPlace_of_textSubrepo (registry : Registry) {p : Package} (hp : p.TextSubrepo) :
    registry.canPlace p = true := by
  obtain ⟨found, h⟩ := findFrom_isOk hp registry 0
  rw [canPlace, find?, h]

theorem all_canPlace (registry : Registry) {packages : List Package}
    (h : ∀ p ∈ packages, p.TextSubrepo) : packages.all registry.canPlace = true := by
  rw [List.all_eq_true]
  exact fun p hp => registry.canPlace_of_textSubrepo (h p hp)

theorem exists_of_home {registry : Registry} {p : Package} {place : Nat}
    (h : registry.home p = some place) : ∃ r, registry[place]? = some r := by
  obtain ⟨hlt, -⟩ := List.findIdx?_eq_some_iff_getElem.mp h
  exact ⟨registry[place], List.getElem?_eq_getElem hlt⟩

/-! ## One voter for each home -/

/-- The repository at a place with the first of the packages that belong to it. -/
def voterAt (registry : Registry) (packages : List Package) (place : Nat) :
    Option (Repository × Package) :=
  registry[place]?.bind fun r =>
    (packages.find? (fun p => registry.home p == some place)).map (r, ·)

/-- The voters on a project: every repository that has a package in it, in the order of first
appearance, each with the first of its packages. -/
def voters (registry : Registry) (packages : List Package) : List (Repository × Package) :=
  (packages.filterMap registry.home).eraseDups.filterMap (registry.voterAt packages)

/-- The voters whose places are not among those that have voted. -/
def votersFrom (registry : Registry) (voted : List Nat) (packages : List Package) :
    List (Repository × Package) :=
  ((packages.filterMap registry.home).filter (fun k => !voted.contains k)).eraseDups.filterMap
    (registry.voterAt packages)

theorem votersFrom_nil (registry : Registry) (packages : List Package) :
    registry.votersFrom [] packages = registry.voters packages := by
  rw [votersFrom, voters]
  congr
  simp

theorem voterAt_cons_of_ne {registry : Registry} {p : Package} {place : Nat}
    (h : registry.home p ≠ some place) (packages : List Package) :
    registry.voterAt (p :: packages) place = registry.voterAt packages place := by
  rw [voterAt, voterAt, List.find?_cons_of_neg (by simpa using h)]

/-- A package without a home, or whose home has voted, brings no voter. -/
theorem votersFrom_cons_of_voted {registry : Registry} {voted : List Nat} {p : Package}
    (h : ∀ place, registry.home p = some place → place ∈ voted) (packages : List Package) :
    registry.votersFrom voted (p :: packages) = registry.votersFrom voted packages := by
  have hplaces : ((p :: packages).filterMap registry.home).filter (fun k => !voted.contains k) =
      (packages.filterMap registry.home).filter (fun k => !voted.contains k) := by
    cases hp : registry.home p with
    | none => rw [List.filterMap_cons_none hp]
    | some place =>
        rw [List.filterMap_cons_some hp, List.filter_cons_of_neg]
        simpa using h place hp
  rw [votersFrom, votersFrom, hplaces]
  refine List.filterMap_congr fun place hplace => voterAt_cons_of_ne (fun hp => ?_) packages
  rw [List.mem_eraseDups, List.mem_filter] at hplace
  have := h place hp
  simp_all

/-- A package whose home has not voted brings the next voter. -/
theorem votersFrom_cons_of_not_voted {registry : Registry} {voted : List Nat} {p : Package}
    {place : Nat} {r : Repository} (hp : registry.home p = some place)
    (hr : registry[place]? = some r) (hplace : place ∉ voted) (packages : List Package) :
    registry.votersFrom voted (p :: packages) =
      (r, p) :: registry.votersFrom (place :: voted) packages := by
  have hvoter : registry.voterAt (p :: packages) place = some (r, p) := by
    rw [voterAt, hr, List.find?_cons_of_pos (by simpa using hp)]
    rfl
  rw [votersFrom, List.filterMap_cons_some hp, List.filter_cons_of_pos (by simpa using hplace),
    List.eraseDups_cons, List.filterMap_cons_some hvoter, List.filter_filter, votersFrom]
  have hplaces : ∀ k : Nat, (!(k == place) && !voted.contains k) =
      !(place :: voted).contains k := by
    intro k
    rw [List.contains_cons, Bool.not_or]
  simp only [hplaces]
  congr 1
  -- the other voters are still there without the package: none of them has its home
  refine List.filterMap_congr fun k hk => voterAt_cons_of_ne (fun hpk => ?_) packages
  rw [List.mem_eraseDups, List.mem_filter] at hk
  obtain rfl : place = k := Option.some.inj (hp.symm.trans hpk)
  simp at hk

/-- A package on its own brings the repository that it belongs to, if there is one. -/
theorem voters_singleton (registry : Registry) (p : Package) :
    registry.voters [p] =
      ((registry.home p).bind registry.placed).toList.map fun found => (found.2, p) := by
  rw [← votersFrom_nil]
  cases hp : registry.home p with
  | none =>
      rw [votersFrom_cons_of_voted (by simp [hp])]
      rfl
  | some place =>
      obtain ⟨r, hr⟩ := exists_of_home hp
      rw [votersFrom_cons_of_not_voted hp hr List.not_mem_nil]
      simp only [Option.bind_some, placed, hr]
      rfl

/-- A voter comes with the first package of its home; the packages before that one bring the voters
before it. -/
theorem exists_of_votersFrom {registry : Registry} {packages : List Package}
    {voted : List ℕ} {early late : List (Repository × Package)} {voter : Repository × Package}
    (h : registry.votersFrom voted packages = early ++ voter :: late) :
    ∃ before after place, packages = before ++ voter.2 :: after ∧
      registry.votersFrom voted before = early ∧ registry.home voter.2 = some place ∧
      registry[place]? = some voter.1 ∧ place ∉ voted ∧
      ∀ p ∈ before, registry.home p ≠ some place := by
  induction packages generalizing voted early with
  | nil => cases early <;> cases h
  | cons p packages ih =>
      by_cases hvoted : ∀ place, registry.home p = some place → place ∈ voted
      · rw [votersFrom_cons_of_voted hvoted] at h
        obtain ⟨before, after, place, hsplit, hearly, hhome, hr, hplace, hothers⟩ := ih h
        refine ⟨p :: before, after, place, by rw [hsplit]; rfl, ?_, hhome, hr, hplace, ?_⟩
        · rw [votersFrom_cons_of_voted hvoted, hearly]
        · rw [List.forall_mem_cons]
          exact ⟨fun hp => hplace (hvoted place hp), hothers⟩
      · push Not at hvoted
        obtain ⟨first, hfirst, hnew⟩ := hvoted
        obtain ⟨r, hr⟩ := exists_of_home hfirst
        rw [votersFrom_cons_of_not_voted hfirst hr hnew] at h
        cases early with
        | nil =>
            obtain ⟨rfl, -⟩ := List.cons.inj h
            exact ⟨[], packages, first, rfl, rfl, hfirst, hr, hnew, by simp⟩
        | cons e early =>
            obtain ⟨rfl, hrest⟩ := List.cons.inj h
            obtain ⟨before, after, place, hsplit, hearly, hhome, hr', hplace, hothers⟩ := ih hrest
            rw [List.mem_cons, not_or] at hplace
            refine ⟨p :: before, after, place, by rw [hsplit]; rfl, ?_, hhome, hr', hplace.2, ?_⟩
            · rw [votersFrom_cons_of_not_voted hfirst hr hnew, hearly]
            · rw [List.forall_mem_cons]
              refine ⟨fun hp => hplace.1 ?_, hothers⟩
              exact Option.some.inj (hp.symm.trans hfirst)

/-! ## The places of the voters -/

/-- The places of the repositories that have a package, in the order of first appearance. -/
def places (registry : Registry) (packages : List Package) : List Nat :=
  (packages.filterMap registry.home).eraseDups

theorem nodup_eraseDups (l : List Nat) : l.eraseDups.Nodup := by
  cases l with
  | nil => exact List.nodup_nil
  | cons place rest =>
      rw [List.eraseDups_cons, List.nodup_cons]
      constructor
      · rw [List.mem_eraseDups]
        simp
      · exact nodup_eraseDups (rest.filter fun k => !k == place)
termination_by l.length
decreasing_by exact Nat.lt_succ_of_le (List.length_filter_le _ _)

theorem exists_voterAt {registry : Registry} {packages : List Package} {place : Nat}
    (h : place ∈ registry.places packages) :
    ∃ voter, registry.voterAt packages place = some voter := by
  rw [places, List.mem_eraseDups, List.mem_filterMap] at h
  obtain ⟨p, hp, hhome⟩ := h
  obtain ⟨r, hr⟩ := exists_of_home hhome
  have hsome : (packages.find? (fun p => registry.home p == some place)).isSome = true := by
    rw [List.find?_isSome]
    exact ⟨p, hp, by simp [hhome]⟩
  obtain ⟨first, hfirst⟩ := Option.isSome_iff_exists.mp hsome
  exact ⟨(r, first), by rw [voterAt, hr, Option.bind_some, hfirst, Option.map_some]⟩

theorem home_of_voterAt {registry : Registry} {packages : List Package} {place : Nat}
    {voter : Repository × Package} (h : registry.voterAt packages place = some voter) :
    registry.home voter.2 = some place ∧
      packages.find? (fun p => registry.home p == some place) = some voter.2 := by
  rw [voterAt, Option.bind_eq_some_iff] at h
  obtain ⟨r, -, hvoter⟩ := h
  obtain ⟨p, hp, rfl⟩ := Option.map_eq_some_iff.mp hvoter
  exact ⟨by simpa using List.find?_some hp, hp⟩

/-- There is a voter for each place, and its package belongs there. -/
theorem map_home_voters (registry : Registry) (packages : List Package) :
    (registry.voters packages).map (fun voter => registry.home voter.2) =
      (registry.places packages).map some := by
  have hplaces : ∀ place ∈ registry.places packages,
      ∃ voter, registry.voterAt packages place = some voter := fun _ h => exists_voterAt h
  show ((registry.places packages).filterMap (registry.voterAt packages)).map _ = _
  generalize registry.places packages = places at hplaces ⊢
  induction places with
  | nil => rfl
  | cons place rest ih =>
      rw [List.forall_mem_cons] at hplaces
      obtain ⟨voter, hvoter⟩ := hplaces.1
      rw [List.filterMap_cons_some hvoter, List.map_cons, List.map_cons, ih hplaces.2,
        (home_of_voterAt hvoter).1]

end Registry
end DistroBallot
