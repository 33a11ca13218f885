import DistroBallot.Proofs.Ballot.Hooks
import DistroBallot.Proofs.Command.RecordsAlone
import Mathlib

/-!
# How a check ends

Offline, whether a record can be checked is a matter of the record alone, and of few of its fields.
A record is *checkable* if it is a package or a project whose packages name their repositories,
whose licenses can be read, and where a sub-repository that has to be compared is a text. A record
is *refused* if it is no record at all, or if it, or the first of its packages that is none, fails
to name a repository.

A run ends with success if all records are checkable, and as wrong usage if the first one that is
not is refused (`Check.EndsBy`). There is a third way. A record that is neither ends the run by a
fault that nobody expects: licenses that are a number, packages that are a number, a member of a
project that is no record, or in a repository of Debian a sub-repository that is given and is no
text.
-/

namespace DistroBallot

open License

variable {α β ε : Type}

/-! ## The first that stops -/

/-- A list whose members are good up to one of a kind. -/
def Leads (good kind : α → Prop) (xs : List α) : Prop :=
  ∃ before x after, xs = before ++ x :: after ∧ (∀ b ∈ before, good b) ∧ kind x

variable {good kind : α → Prop}

theorem not_leads_nil : ¬Leads good kind [] := by
  rintro ⟨before, x, after, h, -⟩
  cases before <;> cases h

theorem leads_cons {x : α} {xs : List α} :
    Leads good kind (x :: xs) ↔ kind x ∨ (good x ∧ Leads good kind xs) := by
  constructor
  · rintro ⟨before, y, after, h, hbefore, hy⟩
    cases before with
    | nil =>
        obtain ⟨rfl, -⟩ := List.cons.inj h
        exact .inl hy
    | cons b before =>
        obtain ⟨rfl, hrest⟩ := List.cons.inj h
        rw [List.forall_mem_cons] at hbefore
        exact .inr ⟨hbefore.1, before, y, after, hrest, hbefore.2, hy⟩
  · rintro (hx | ⟨hx, before, y, after, rfl, hbefore, hy⟩)
    · exact ⟨[], x, xs, rfl, by simp, hx⟩
    · exact ⟨x :: before, y, after, rfl, List.forall_mem_cons.mpr ⟨hx, hbefore⟩, hy⟩

theorem Leads.congr {good' kind' : α → Prop} (hgood : ∀ x, good x ↔ good' x)
    (hkind : ∀ x, kind x ↔ kind' x) (xs : List α) : Leads good kind xs ↔ Leads good' kind' xs := by
  simp only [Leads, hgood, hkind]

theorem leads_iff_findSome? {f : α → Option β} {P : β → Prop} (xs : List α) :
    Leads (fun x => f x = none) (fun x => ∃ b, f x = some b ∧ P b) xs ↔
      ∃ b, xs.findSome? f = some b ∧ P b := by
  induction xs with
  | nil => simp [not_leads_nil]
  | cons x xs ih =>
      rw [List.findSome?_cons, leads_cons, ih]
      cases h : f x with
      | some b => simp
      | none => simp

theorem mapM_eq_error_iff {f : α → Except ε β} {e : ε} (xs : List α) :
    xs.mapM f = .error e ↔ Leads (fun x => ∃ y, f x = .ok y) (fun x => f x = .error e) xs := by
  induction xs with
  | nil => simp [not_leads_nil, pure, Except.pure]
  | cons x xs ih =>
      rw [List.mapM_cons, leads_cons]
      cases h : f x with
      | error e' => simp [bind, Except.bind]
      | ok y =>
          cases hxs : xs.mapM f with
          | error e' => simp [hxs, bind, Except.bind, ← ih]
          | ok ys => simp [hxs, bind, Except.bind, pure, Except.pure, ← ih]

theorem forall₂_of_mapM {f : α → Except ε β} {xs : List α} {ys : List β}
    (h : xs.mapM f = .ok ys) : List.Forall₂ (fun x y => f x = .ok y) xs ys := by
  induction xs generalizing ys with
  | nil =>
      obtain rfl : [] = ys := Except.ok.inj h
      exact .nil
  | cons x xs ih =>
      rw [List.mapM_cons] at h
      cases hx : f x with
      | error e => simp [hx, bind, Except.bind] at h
      | ok y =>
          cases hxs : xs.mapM f with
          | error e => simp [hx, hxs, bind, Except.bind] at h
          | ok rest =>
              simp only [hx, hxs, bind, Except.bind, pure, Except.pure, Except.ok.injEq] at h
              obtain rfl := h
              exact .cons hx (ih hxs)

/-! ## Packages -/

namespace Value

/-- It is a map, as records are. -/
def IsMap (v : Value) : Prop := ∃ entries, v = .map entries

/-- Texts can be read from it: it is nothing, a text, or consists of values. -/
def HoldsTexts : Value → Prop
  | .null | .text _ | .bytes _ | .list _ | .pair _ _ | .set _ | .map _ => True
  | _ => False

/-- Its field for the repository is a text that is not blank. -/
def NamesRepo (record : Value) : Prop :=
  ∃ t, record.field "repo" = .text t ∧ t.isBlankText = false

/-- The record of a package. -/
structure IsPackage (record : Value) : Prop where
  isMap : record.IsMap
  licenses : (record.field "licenses").HoldsTexts
  named : record.NamesRepo

/-- What could be the record of a package, if it named its repository. -/
structure Nameless (record : Value) : Prop where
  isMap : record.IsMap
  licenses : (record.field "licenses").HoldsTexts
  nameless : ¬record.NamesRepo

/-- In a repository of Debian the sub-repository is compared, and has to be a text if it is
given. -/
def Placeable (record : Value) : Prop :=
  ∀ t, record.field "repo" = .text t → "debian_".toList <+: t →
    record.field "subrepo" = .null ∨ ∃ u, record.field "subrepo" = .text u

theorem texts_isOk_iff (v : Value) : (∃ ts, v.texts = .ok ts) ↔ v.HoldsTexts := by
  cases v <;> simp [texts, iterate, HoldsTexts, Except.map]

theorem texts_eq_error {v : Value} {e : RecordError} (h : v.texts = .error e) :
    e = .notIterable := by
  cases v <;> simp_all [texts, iterate, Except.map]

theorem repoName_eq_ok_iff {v : Value} {t : Text} :
    v.repoName = .ok t ↔ v = .text t ∧ t.isBlankText = false := by
  cases v with
  | text u =>
      rw [repoName]
      by_cases hblank : u.isBlankText = true
      · rw [if_pos hblank]
        constructor
        · intro h
          cases h
        · rintro ⟨⟨⟩, ht⟩
          rw [ht] at hblank
          cases hblank
      · rw [if_neg hblank]
        constructor
        · rintro ⟨⟩
          exact ⟨rfl, eq_false_of_ne_true hblank⟩
        · rintro ⟨⟨⟩, -⟩
          rfl
  | _ => simp [repoName]

theorem repoName_eq_error {v : Value} {e : RecordError} (h : v.repoName = .error e) :
    e = .emptyRepo := by
  unfold repoName at h
  split at h
  · split at h
    · exact (Except.error.inj h).symm
    · cases h
  · exact (Except.error.inj h).symm

end Value

namespace Package

open Value

theorem ofRecord_of_not_isMap {record : Value} (h : ¬record.IsMap) :
    ofRecord record = .error .notARecord := by
  cases record with
  | map entries => exact absurd ⟨entries, rfl⟩ h
  | _ => rfl

theorem ofRecord_of_isMap {record : Value} (h : record.IsMap) :
    ofRecord record = ((record.field "licenses").texts.bind fun licenses =>
      (record.field "repo").repoName.map fun repo => {
        repo, licenses
        subrepo := record.field "subrepo"
        name := (record.field "visiblename").orElse (record.field "name")
        version := record.field "version"
        srcname := record.field "srcname"
        binname := record.field "binname" }) := by
  obtain ⟨entries, rfl⟩ := h
  rw [ofRecord]
  cases (Value.field (.map entries) "licenses").texts with
  | error e => rfl
  | ok licenses => cases (Value.field (.map entries) "repo").repoName <;> rfl

/-- What comes of the record of a package: its map is looked at first, then its licenses, and then
its repository. -/
inductive Read (record : Value) : Except RecordError Package → Prop where
  | notARecord (h : ¬record.IsMap) : Read record (.error .notARecord)
  | notIterable (h : ¬(record.field "licenses").HoldsTexts) : Read record (.error .notIterable)
  | emptyRepo (h : record.Nameless) : Read record (.error .emptyRepo)
  | package {p : Package} (h : record.IsPackage) (repo : record.field "repo" = .text p.repo)
      (subrepo : record.field "subrepo" = p.subrepo) : Read record (.ok p)

theorem read_ofRecord (record : Value) : Read record (ofRecord record) := by
  by_cases hmap : record.IsMap
  · rw [ofRecord_of_isMap hmap]
    cases hlicenses : (record.field "licenses").texts with
    | error e =>
        obtain rfl := texts_eq_error hlicenses
        refine .notIterable ?_
        rw [← texts_isOk_iff, hlicenses]
        rintro ⟨ts, ⟨⟩⟩
    | ok licenses =>
        have hholds : (record.field "licenses").HoldsTexts :=
          (texts_isOk_iff _).mp ⟨licenses, hlicenses⟩
        cases hrepo : (record.field "repo").repoName with
        | error e =>
            obtain rfl := repoName_eq_error hrepo
            refine .emptyRepo ⟨hmap, hholds, ?_⟩
            rintro ⟨t, ht⟩
            rw [repoName_eq_ok_iff.mpr ht] at hrepo
            cases hrepo
        | ok repo =>
            have hnamed := repoName_eq_ok_iff.mp hrepo
            exact .package ⟨hmap, hholds, repo, hnamed⟩ hnamed.1 rfl
  · rw [ofRecord_of_not_isMap hmap]
    exact .notARecord hmap

/-- A record makes a package just when it is one. -/
theorem ofRecord_isOk_iff (record : Value) :
    (∃ p, ofRecord record = .ok p) ↔ record.IsPackage := by
  have hread := read_ofRecord record
  generalize ofRecord record = result at hread
  cases hread with
  | notARecord h => exact iff_of_false (by rintro ⟨p, ⟨⟩⟩) fun hp => h hp.isMap
  | notIterable h => exact iff_of_false (by rintro ⟨p, ⟨⟩⟩) fun hp => h hp.licenses
  | emptyRepo h => exact iff_of_false (by rintro ⟨p, ⟨⟩⟩) fun hp => h.nameless hp.named
  | package h repo subrepo => exact iff_of_true ⟨_, rfl⟩ h

/-- A record is refused for its repository just when that is all it lacks. -/
theorem ofRecord_eq_emptyRepo_iff (record : Value) :
    ofRecord record = .error .emptyRepo ↔ record.Nameless := by
  have hread := read_ofRecord record
  generalize ofRecord record = result at hread
  cases hread with
  | notARecord h => exact iff_of_false (fun h' => by cases h') fun hp => h hp.isMap
  | notIterable h => exact iff_of_false (fun h' => by cases h') fun hp => h hp.licenses
  | emptyRepo h => exact iff_of_true rfl h
  | package h repo subrepo =>
      exact iff_of_false (fun h' => by cases h') fun hp => hp.nameless h.named

theorem of_ofRecord_eq_ok {record : Value} {p : Package} (h : ofRecord record = .ok p) :
    record.field "repo" = .text p.repo ∧ record.field "subrepo" = p.subrepo := by
  have hread := read_ofRecord record
  rw [h] at hread
  cases hread with
  | package _ repo subrepo => exact ⟨repo, subrepo⟩

end Package

namespace Registry

theorem exists_findFrom {registry : Registry} {repo subrepo : Value}
    (h : ∀ r ∈ registry, ∃ b, r.accepts repo subrepo = .ok b) (place : ℕ) :
    ∃ found, findFrom repo subrepo place registry = .ok found := by
  induction registry generalizing place with
  | nil => exact ⟨none, rfl⟩
  | cons r rest ih =>
      rw [List.forall_mem_cons] at h
      obtain ⟨b, hb⟩ := h.1
      rw [findFrom, hb]
      cases b with
      | true => exact ⟨some (place, r), rfl⟩
      | false => exact ih h.2 (place + 1)

/-- Only repositories of Debian compare sub-repositories. -/
theorem accepts_of_not_debian {r : Repository} (hr : r ∈ builtin) {repo : Text}
    (h : ¬"debian_".toList <+: repo) (subrepo : Value) :
    r.accepts (.text repo) subrepo = .ok (r.repo.holds repo) := by
  have hdebian : (Pattern.startsWith "debian_".toList).holds repo = false := by
    rw [← Bool.not_eq_true]
    exact fun hholds => h (List.isPrefixOf_iff_prefix.mp hholds)
  have hsearch : ∀ p : Pattern, p.search (.text repo) = .ok (p.holds repo) := fun _ => rfl
  simp only [builtin, List.mem_cons, List.not_mem_nil, or_false] at hr
  rcases hr with rfl | rfl | rfl | rfl | rfl <;>
    simp only [Repository.accepts, hsearch, hdebian] <;> split <;> simp_all

/-- The repository of a package can be looked for among the known ones unless its sub-repository
has to be compared and is no text. -/
theorem canPlace_builtin_iff (p : Package) : builtin.canPlace p = true ↔
    ("debian_".toList <+: p.repo → p.TextSubrepo) := by
  constructor
  · rintro h ⟨rest, hrest⟩
    rw [canPlace, find?, ← hrest] at h
    -- the second repository matches by its name and compares the sub-repository
    cases hsubrepo : p.subrepo with
    | null => exact .inl hsubrepo
    | text t => exact .inr ⟨t, hsubrepo⟩
    | _ =>
        rw [hsubrepo] at h
        exact absurd h Bool.false_ne_true
  · intro h
    by_cases hdebian : "debian_".toList <+: p.repo
    · exact canPlace_of_textSubrepo builtin (h hdebian)
    · obtain ⟨found, hfound⟩ := exists_findFrom
        (fun r hr => ⟨_, accepts_of_not_debian hr hdebian p.subrepo⟩) 0
      rw [canPlace, find?, hfound]

end Registry

/-! ## Records -/

namespace Value

/-- The record has a field for packages, and these are what it consists of: none if it is empty or
does not count as given. -/
def Members (record : Value) (members : List Value) : Prop :=
  (record.field? "packages").isSome = true ∧
    Project.packageRecords (record.field "packages") = .ok members

theorem Members.exists_iff {record : Value} {members : List Value} {P : List Value → Prop}
    (h : record.Members members) : (∃ members, record.Members members ∧ P members) ↔ P members := by
  constructor
  · rintro ⟨members', h', hP⟩
    obtain rfl : members = members' := Except.ok.inj (h.2.symm.trans h'.2)
    exact hP
  · intro hP
    exact ⟨members, h, hP⟩

theorem isMap_of_field? {record : Value} {key : String} (h : (record.field? key).isSome = true) :
    record.IsMap := by
  cases record with
  | map entries => exact ⟨entries, rfl⟩
  | _ => cases h

/-- A record that comes to a verdict: of a package, or of a project with packages only. -/
inductive Checkable (record : Value) : Prop where
  | package (single : record.field? "packages" = none) (isPackage : record.IsPackage)
      (placeable : record.Placeable)
  | project {members : List Value} (listed : record.Members members)
      (all : ∀ m ∈ members, m.IsPackage ∧ m.Placeable)

/-- A record that is no record, or where the name of a repository is the first thing that lacks. -/
inductive Refused (record : Value) : Prop where
  | noRecord (h : ¬record.IsMap)
  | package (single : record.field? "packages" = none) (nameless : record.Nameless)
  | project {members : List Value} (listed : record.Members members)
      (first : Leads IsPackage Nameless members)

theorem checkable_iff_of_single {record : Value} (h : record.field? "packages" = none) :
    record.Checkable ↔ record.IsPackage ∧ record.Placeable := by
  constructor
  · rintro (⟨-, hpackage, hplaceable⟩ | ⟨hlisted, -⟩)
    · exact ⟨hpackage, hplaceable⟩
    · rw [Members, h] at hlisted
      cases hlisted.1
  · rintro ⟨hpackage, hplaceable⟩
    exact .package h hpackage hplaceable

theorem refused_iff_of_single {record : Value} (hmap : record.IsMap)
    (h : record.field? "packages" = none) : record.Refused ↔ record.Nameless := by
  constructor
  · rintro (hnot | ⟨-, hnameless⟩ | ⟨hlisted, -⟩)
    · exact absurd hmap hnot
    · exact hnameless
    · rw [Members, h] at hlisted
      cases hlisted.1
  · intro hnameless
    exact .package h hnameless

theorem checkable_iff_of_given {record : Value} (h : (record.field? "packages").isSome = true) :
    record.Checkable ↔
      ∃ members, record.Members members ∧ ∀ m ∈ members, m.IsPackage ∧ m.Placeable := by
  constructor
  · rintro (⟨hsingle, -, -⟩ | ⟨hlisted, hall⟩)
    · rw [hsingle] at h
      cases h
    · exact ⟨_, hlisted, hall⟩
  · rintro ⟨members, hlisted, hall⟩
    exact .project hlisted hall

theorem refused_iff_of_given {record : Value} (h : (record.field? "packages").isSome = true) :
    record.Refused ↔ ∃ members, record.Members members ∧ Leads IsPackage Nameless members := by
  constructor
  · rintro (hnot | ⟨hsingle, -⟩ | ⟨hlisted, hfirst⟩)
    · exact absurd (isMap_of_field? h) hnot
    · rw [hsingle] at h
      cases h
    · exact ⟨_, hlisted, hfirst⟩
  · rintro ⟨members, hlisted, hfirst⟩
    exact .project hlisted hfirst

theorem placeable_iff {record : Value} {p : Package} (h : Package.ofRecord record = .ok p) :
    record.Placeable ↔ Registry.builtin.canPlace p = true := by
  obtain ⟨hrepo, hsubrepo⟩ := Package.of_ofRecord_eq_ok h
  rw [Registry.canPlace_builtin_iff, Placeable, hrepo, hsubrepo]
  constructor
  · intro hplaceable hdebian
    exact hplaceable p.repo rfl hdebian
  · rintro hcan _ ⟨⟩ hdebian
    exact hcan hdebian

/-- Where all members are packages, each can be placed just when its package can. -/
theorem all_placeable_iff {members : List Value} {packages : List Package}
    (h : List.Forall₂ (fun m p => Package.ofRecord m = .ok p) members packages) :
    (∀ m ∈ members, m.IsPackage ∧ m.Placeable) ↔
      packages.all Registry.builtin.canPlace = true := by
  induction h with
  | nil => simp
  | cons hm _ ih =>
      rw [List.forall_mem_cons, List.all_cons, Bool.and_eq_true, ih, placeable_iff hm]
      have hpackage := (Package.ofRecord_isOk_iff _).mp ⟨_, hm⟩
      simp [hpackage]

end Value

namespace Check

open Value

/-- Why a check on a subject comes to no verdict, if it does not. -/
def obstacle? : Subject → Option Fault
  | .package p => if Registry.builtin.canPlace p then none else some .notText
  | .project project =>
    if project.packages.all Registry.builtin.canPlace then none else some .notText
  | .other content => some (.unsupported content.kindName)

/-- Why a check on a record comes to no verdict, if it does not. -/
def trouble? (record : Value) : Option CommandFault :=
  match Subject.ofRecord record with
  | .error e => some (.check (.record e))
  | .ok subject => (obstacle? subject).map .check

/-- A record is checkable, or refused with a message, or in trouble that nobody expects. -/
inductive Troubled (record : Value) : Option CommandFault → Prop where
  | checkable (h : record.Checkable) (hnot : ¬record.Refused) : Troubled record none
  | refused {e : CommandFault} {message : String} (h : record.Refused) (hnot : ¬record.Checkable)
      (told : e.usageMessage? = some message) : Troubled record (some e)
  | broken {e : CommandFault} (hcheckable : ¬record.Checkable) (hrefused : ¬record.Refused)
      (untold : e.usageMessage? = none) : Troubled record (some e)

theorem troubled_of_single {record : Value} (hmap : record.IsMap)
    (hsingle : record.field? "packages" = none) : Troubled record (trouble? record) := by
  have hsubject : Subject.ofRecord record = (Package.ofRecord record).map .package := by
    obtain ⟨entries, rfl⟩ := hmap
    rw [Subject.ofRecord, hsingle]
    rfl
  have hcheckable := checkable_iff_of_single hsingle
  have hrefused := refused_iff_of_single hmap hsingle
  have hread := Package.read_ofRecord record
  rw [trouble?, hsubject]
  cases hresult : Package.ofRecord record with
  | error e =>
      rw [hresult] at hread
      cases hread with
      | notARecord h => exact absurd hmap h
      | notIterable h =>
          refine .broken ?_ ?_ rfl
          · rw [hcheckable]
            exact fun hp => h hp.1.licenses
          · rw [hrefused]
            exact fun hp => h hp.licenses
      | emptyRepo h =>
          refine .refused (hrefused.mpr h) ?_ rfl
          rw [hcheckable]
          exact fun hp => h.nameless hp.1.named
  | ok p =>
      have hpackage := (Package.ofRecord_isOk_iff record).mp ⟨p, hresult⟩
      have hnot : ¬record.Refused := by
        rw [hrefused]
        exact fun hp => hp.nameless hpackage.named
      rw [placeable_iff hresult] at hcheckable
      show Troubled record ((if Registry.builtin.canPlace p then none else _).map .check)
      cases hplace : Registry.builtin.canPlace p with
      | true => exact .checkable (hcheckable.mpr ⟨hpackage, hplace⟩) hnot
      | false =>
          refine .broken ?_ hnot rfl
          rw [hcheckable, hplace]
          exact fun hp => Bool.false_ne_true hp.2

theorem packageRecords_eq_error {v : Value} {e : RecordError}
    (h : Project.packageRecords v = .error e) : e = .notIterable := by
  unfold Project.packageRecords at h
  split at h
  · cases v <;> cases h <;> rfl
  · cases h

theorem ofRecord_of_given {record : Value} (h : (record.field? "packages").isSome = true) :
    Subject.ofRecord record = (Project.packageRecords (record.field "packages")).bind fun members =>
      (members.mapM Package.ofRecord).map fun packages =>
        .project ⟨((record.field? "name").getD (.text [])).display, packages⟩ := by
  obtain ⟨entries, rfl⟩ := isMap_of_field? h
  rw [Subject.ofRecord, if_pos h, Project.ofRecord]
  cases Project.packageRecords (Value.field (.map entries) "packages") with
  | error e => rfl
  | ok members =>
      show Except.map _ (Except.bind (members.mapM Package.ofRecord) _) = Except.map _ _
      cases members.mapM Package.ofRecord <;> rfl

theorem troubled_of_given {record : Value}
    (hgiven : (record.field? "packages").isSome = true) : Troubled record (trouble? record) := by
  have hcheckable := checkable_iff_of_given hgiven
  have hrefused := refused_iff_of_given hgiven
  rw [trouble?, ofRecord_of_given hgiven]
  cases hmembers : Project.packageRecords (record.field "packages") with
  | error e =>
      obtain rfl := packageRecords_eq_error hmembers
      have hnone : ∀ members, ¬record.Members members := by
        rintro members ⟨-, hlisted⟩
        rw [hmembers] at hlisted
        cases hlisted
      refine .broken ?_ ?_ rfl
      · rw [hcheckable]
        rintro ⟨members, hlisted, -⟩
        exact hnone members hlisted
      · rw [hrefused]
        rintro ⟨members, hlisted, -⟩
        exact hnone members hlisted
  | ok members =>
      have hlisted : record.Members members := ⟨hgiven, hmembers⟩
      have hfirst : members.mapM Package.ofRecord = .error .emptyRepo ↔
          Leads IsPackage Nameless members :=
        (mapM_eq_error_iff members).trans
          (Leads.congr Package.ofRecord_isOk_iff Package.ofRecord_eq_emptyRepo_iff members)
      rw [hlisted.exists_iff] at hcheckable hrefused
      rw [← hfirst] at hrefused
      dsimp only [Except.bind]
      cases hpackages : members.mapM Package.ofRecord with
      | error e =>
          have hnot : ¬record.Checkable := by
            obtain ⟨before, m, after, rfl, -, hm⟩ := (mapM_eq_error_iff members).mp hpackages
            rw [hcheckable]
            intro hall
            have hpackage := (hall m (by simp)).1
            obtain ⟨p, hp⟩ := (Package.ofRecord_isOk_iff m).mpr hpackage
            rw [hp] at hm
            cases hm
          rw [hpackages] at hrefused
          cases e with
          | emptyRepo => exact .refused (hrefused.mpr rfl) hnot rfl
          | _ => exact .broken hnot (fun h => by cases hrefused.mp h) rfl
      | ok packages =>
          have hnot : ¬record.Refused := by
            rw [hrefused, hpackages]
            intro h
            cases h
          rw [all_placeable_iff (forall₂_of_mapM hpackages)] at hcheckable
          show Troubled record
            ((if packages.all Registry.builtin.canPlace then none else _).map .check)
          cases hplace : packages.all Registry.builtin.canPlace with
          | true => exact .checkable (hcheckable.mpr hplace) hnot
          | false =>
              refine .broken ?_ hnot rfl
              rw [hcheckable, hplace]
              exact Bool.false_ne_true

/-- **Every record is one of the three.** -/
theorem troubled (record : Value) : Troubled record (trouble? record) := by
  by_cases hmap : record.IsMap
  · cases hgiven : record.field? "packages" with
    | none => exact troubled_of_single hmap hgiven
    | some v => exact troubled_of_given (by rw [hgiven]; rfl)
  · have hcheckable : ¬record.Checkable := by
      rintro (⟨-, hpackage, -⟩ | ⟨hlisted, -⟩)
      · exact hmap hpackage.isMap
      · exact hmap (isMap_of_field? hlisted.1)
    have htrouble : trouble? record = some (.check (.unsupported record.kindName)) := by
      cases record with
      | map entries => exact absurd ⟨entries, rfl⟩ hmap
      | _ => rfl
    rw [htrouble]
    exact .refused (.noRecord hmap) hcheckable rfl

/-! ## Checks -/

/-- How a check ends that comes to this trouble, if to any. -/
def endBy : Option CommandFault → Except Halt Unit
  | none => .ok ()
  | some e => .error (.fault e)

/-- Once the votes are cast, an obstacle is all that can keep a check from a verdict. -/
theorem conclusion_of_obstacle (limit : Binary64) (subject : Subject) (vs : List Verdict) :
    match obstacle? subject with
    | none => ∃ verdict, (offlineChecker limit).conclusion subject vs = .ok verdict
    | some fault => (offlineChecker limit).conclusion subject vs = .error fault := by
  have hregistry : (offlineChecker limit).registry = Registry.builtin := rfl
  have hnumber : (Value.real limit).number?.isSome = true := rfl
  cases subject with
  | package p =>
      rw [obstacle?, Checker.conclusion, hregistry]
      cases Registry.builtin.canPlace p with
      | true => exact ⟨_, rfl⟩
      | false => rfl
  | project project =>
      rw [obstacle?, Checker.conclusion, hregistry]
      cases project.packages.all Registry.builtin.canPlace with
      | true => exact Checker.exists_decided hnumber vs
      | false => rfl
  | other content => rfl

/-- Offline every ballot comes to a verdict. -/
theorem exists_verdicts (limit : Binary64) (subject : Subject)
    {s : Session (IdentifierCache Client)} : ∃ vs,
      Checker.verdicts ((offlineChecker limit).ballotsOn s subject) = .ok vs := by
  have hsteady : (offlineChecker limit).Steady s.evaluation :=
    steady_standard (Or.inr rfl) Registry.valid_builtin Checker.offline_passing
  exact ⟨_, (Checker.ballots_of_steady hsteady
    fun _ hv => Checker.mem_registry_of_mem_voters hv).2.1⟩

theorem checkRecord_answer (limit : Binary64) (record : Value) (s : State) :
    ((checkRecord (offlineChecker limit) record).run s).answer = endBy (trouble? record) := by
  cases hsubject : Subject.ofRecord record with
  | error e =>
      rw [checkRecord_run_of_error hsubject, trouble?, hsubject]
      rfl
  | ok subject =>
      have hcheck := Checker.check_run (offlineChecker limit) subject ⟨s.session.evaluation, []⟩
      obtain ⟨vs, hvs⟩ := exists_verdicts limit subject (s := ⟨s.session.evaluation, []⟩)
      have hconclusion := conclusion_of_obstacle limit subject vs
      have htrouble : trouble? record = (obstacle? subject).map .check := by
        rw [trouble?, hsubject]
      rw [htrouble]
      cases hobstacle : obstacle? subject with
      | none =>
          rw [hobstacle] at hconclusion
          obtain ⟨verdict, hverdict⟩ := hconclusion
          simp only [hvs, Except.bind, hverdict] at hcheck
          rw [checkRecord_run_of_ok hsubject hcheck]
          rfl
      | some fault =>
          rw [hobstacle] at hconclusion
          simp only [hvs, Except.bind, hconclusion] at hcheck
          rw [checkRecord_run_of_ok hsubject hcheck]
          rfl

/-- **The checks on a list end by the first trouble,** whatever is left of what went before. -/
theorem checkRecords_answer (limit : Binary64) (records : List Value) (s : State) :
    ((checkRecords (offlineChecker limit) records).run s).answer =
      endBy (records.findSome? trouble?) := by
  induction records generalizing s with
  | nil => rfl
  | cons r rest ih =>
      have hanswer := checkRecord_answer limit r s
      cases hrun : (checkRecord (offlineChecker limit) r).run s with
      | mk answer t events =>
          rw [hrun] at hanswer
          obtain rfl : answer = endBy (trouble? r) := hanswer
          rw [List.findSome?_cons]
          cases htrouble : trouble? r with
          | some e =>
              rw [htrouble] at hrun
              rw [checkRecords, Step.run_bind_of_error hrun]
              rfl
          | none =>
              rw [htrouble] at hrun
              rw [checkRecords, Step.run_bind_of_ok hrun]
              exact ih t

/-! ## Runs -/

theorem trouble?_eq_none_iff (record : Value) : trouble? record = none ↔ record.Checkable := by
  have htroubled := troubled record
  generalize trouble? record = trouble at htroubled
  cases htroubled with
  | checkable h _ => exact iff_of_true rfl h
  | refused _ hnot _ => exact iff_of_false (fun h => by cases h) hnot
  | broken hnot _ _ => exact iff_of_false (fun h => by cases h) hnot

theorem refused_iff_trouble? (record : Value) : record.Refused ↔
    ∃ e, trouble? record = some e ∧ e.usageMessage?.isSome = true := by
  have htroubled := troubled record
  generalize trouble? record = trouble at htroubled
  cases htroubled with
  | checkable _ hnot => exact iff_of_false hnot (by rintro ⟨e, ⟨⟩, -⟩)
  | refused h _ told => exact iff_of_true h ⟨_, rfl, by rw [told]; rfl⟩
  | broken _ hnot untold =>
      refine iff_of_false hnot ?_
      rintro ⟨e, ⟨⟩, he⟩
      rw [untold] at he
      cases he

theorem broken_iff_trouble? (record : Value) : (¬record.Checkable ∧ ¬record.Refused) ↔
    ∃ e, trouble? record = some e ∧ e.usageMessage? = none := by
  have htroubled := troubled record
  generalize trouble? record = trouble at htroubled
  cases htroubled with
  | checkable h _ => exact iff_of_false (fun hnot => hnot.1 h) (by rintro ⟨e, ⟨⟩, -⟩)
  | refused h _ told =>
      refine iff_of_false (fun hnot => hnot.2 h) ?_
      rintro ⟨e, ⟨⟩, he⟩
      rw [told] at he
      cases he
  | broken hcheckable hrefused untold =>
      exact iff_of_true ⟨hcheckable, hrefused⟩ ⟨_, rfl, untold⟩

/-- How a run on records ends, by what they are. -/
structure EndsBy (rs : List Value) (ending : Ending) : Prop where
  success : ending = .exit .success ↔ ∀ r ∈ rs, r.Checkable
  wrongUsage : ending = .exit .usageError ↔ Leads Checkable Refused rs
  fault : (∃ e, ending = .fault e) ↔
    Leads Checkable (fun r => ¬r.Checkable ∧ ¬r.Refused) rs

theorem endingOf_endBy (trouble : Option CommandFault) :
    (endingOf (endBy trouble) = .exit .success ↔ trouble = none) ∧
    (endingOf (endBy trouble) = .exit .usageError ↔
      ∃ e, trouble = some e ∧ e.usageMessage?.isSome = true) ∧
    ((∃ e, endingOf (endBy trouble) = .fault e) ↔
      ∃ e, trouble = some e ∧ e.usageMessage? = none) := by
  cases trouble with
  | none => simp [endBy, endingOf]
  | some e =>
      cases hmessage : e.usageMessage? <;> simp [endBy, endingOf, Command.settle, hmessage]

theorem endsBy_trouble? (rs : List Value) :
    EndsBy rs (endingOf (endBy (rs.findSome? trouble?))) := by
  obtain ⟨hsuccess, husage, hfault⟩ := endingOf_endBy (rs.findSome? trouble?)
  have hgood : ∀ r, r.Checkable ↔ trouble? r = none := fun r => (trouble?_eq_none_iff r).symm
  constructor
  case success =>
    simp only [hsuccess, List.findSome?_eq_none_iff, hgood]
  case wrongUsage =>
    rw [husage, ← leads_iff_findSome?]
    exact (Leads.congr hgood refused_iff_trouble? rs).symm
  case fault =>
    rw [hfault, ← leads_iff_findSome?]
    exact (Leads.congr hgood broken_iff_trouble? rs).symm

/-- A run that has read configuration comes to the first trouble of its records, or to what keeps it
from reading them. -/
theorem exists_conclude {read : Settings.DocumentReader} {world : World} {arguments : List Text}
    {invocation : Invocation} {request : Command.CheckRequest} {limit : Binary64}
    {input : Except Halt (List Value)}
    (hinvocation : Invocation.ofArguments arguments = .ok invocation)
    (hcommand : invocation.command = .check request) (hoffline : request.offline = true)
    (h : reading read world invocation request = ⟨.ok limit, input⟩) :
    ∃ ended, Command.runArguments read world arguments =
        Command.conclude invocation.logThreshold ended ∧
      ended.answer = input.bind fun rs => endBy (rs.findSome? trouble?) := by
  obtain ⟨log, t, told, hlog, hconfigure, hrecords⟩ := exists_configured h
  refine ⟨_, runArguments_eq_conclude hinvocation hcommand hlog, ?_⟩
  cases input with
  | error halt => exact run_of_records_error hconfigure hrecords
  | ok rs =>
      obtain ⟨events, hrun⟩ := run_of_records hoffline hconfigure hrecords
      rw [hrun]
      exact checkRecords_answer limit rs t

/-- Wrong usage is told to the log by whoever finds it. -/
theorem conclude_log_of_usageError {threshold : Int} {ended : Ended Halt State Unit}
    (hanswer : ended.answer ≠ .error (.exit .usageError))
    (h : (Command.conclude threshold ended).ending = .exit .usageError) :
    ∃ message, (Command.conclude threshold ended).log =
      Log.lines threshold (ended.events ++ [.error message]) := by
  unfold Command.conclude at h ⊢
  cases hended : ended.answer with
  | ok _ => simp [hended] at h
  | error halt =>
      rw [hended] at hanswer h
      cases halt with
      | exit code =>
          obtain rfl := Ending.exit.inj h
          exact absurd rfl hanswer
      | fault e =>
          cases hmessage : e.usageMessage? with
          | none => simp [Command.settle, hmessage] at h
          | some message => exact ⟨message, by simp only [Command.settle, hmessage]⟩

theorem records_failsBy (world : World) (files : Files) (path : Text) :
    (records world files path).FailsBy (· ≠ .exit .usageError) := by
  have hin : ∀ bytes, (recordsIn path bytes).FailsBy (· ≠ .exit .usageError) := by
    intro bytes s halt h
    unfold recordsIn at h
    split at h
    · unfold recordsOf at h
      split at h <;> cases h <;> simp
    · cases h
      simp
  intro s halt h
  unfold records at h
  split at h
  · exact hin _ s halt h
  · split at h
    · cases h
      simp
    · unfold recordsAt at h
      split at h
      · exact hin _ s halt h
      all_goals
        cases h
        simp

theorem records_ne_usageError {read : Settings.DocumentReader} {world : World}
    {invocation : Invocation} {request : Command.CheckRequest} {halt : Halt}
    (h : (reading read world invocation request).records = .error halt) :
    halt ≠ .exit .usageError := by
  unfold reading at h
  split at h
  · exact records_failsBy _ _ _ _ halt h
  · exact records_failsBy _ _ _ _ halt h

/-- **A run offline ends by its records,** once it has read configuration, whatever reads it: with
success if all of them are checkable, as wrong usage if the first that is not is refused, and else
by a fault that is not told to the user. -/
theorem offline_check_ends_by_records {read : Settings.DocumentReader} {world : World}
    {arguments : List Text} {invocation : Invocation} {request : Command.CheckRequest}
    {limit : Binary64}
    (hinvocation : Invocation.ofArguments arguments = .ok invocation)
    (hcommand : invocation.command = .check request) (hoffline : request.offline = true)
    (hthreshold : (reading read world invocation request).threshold = .ok limit) :
    let run := Command.runArguments read world arguments
    (∀ rs, (reading read world invocation request).records = .ok rs → EndsBy rs run.ending) ∧
    (∀ digits,
      (reading read world invocation request).records = .error (.fault (.inputNumber digits)) →
      run.ending = .exit .usageError) ∧
    (run.ending = .exit .usageError → ∃ told message,
      run.log = Log.lines invocation.logThreshold (told ++ [.error message])) := by
  intro run
  have hreading : reading read world invocation request =
      ⟨.ok limit, (reading read world invocation request).records⟩ := by
    rw [← hthreshold]
  obtain ⟨ended, hrun, hanswer⟩ := exists_conclude hinvocation hcommand hoffline hreading
  have hending : run.ending = endingOf ended.answer :=
    (congrArg Transcript.ending hrun).trans (conclude_ending _ _)
  refine ⟨?_, ?_, ?_⟩
  · intro rs hrs
    rw [hending, hanswer, hrs]
    exact endsBy_trouble? rs
  · intro digits hdigits
    rw [hending, hanswer, hdigits]
    rfl
  · intro husage
    have hhalt : ended.answer ≠ .error (.exit .usageError) := by
      rw [hanswer]
      cases hrecords : (reading read world invocation request).records with
      | error halt =>
          intro h
          exact records_ne_usageError hrecords (Except.error.inj h)
      | ok rs =>
          dsimp only [Except.bind]
          cases rs.findSome? trouble? <;> simp [endBy]
    rw [show run = _ from hrun] at husage ⊢
    exact ⟨ended.events, conclude_log_of_usageError hhalt husage⟩

/-- Behind a project stands a record without any field, which is refused. -/
theorem viewer_before_empty_record :
    let world := desk ('[' :: viewerText ++ ",\x7b\x7d]".toList)
    let run := Command.runArguments Settings.yamlReader world deskArguments
    Invocation.ofArguments deskArguments = .ok deskInvocation ∧
    reading Settings.yamlReader world deskInvocation deskRequest =
      ⟨.ok builtinThreshold, .ok [viewer, .map []]⟩ ∧
    viewer.Checkable ∧ (Value.map []).Refused ∧ run.ending = .exit .usageError ∧
    ∃ told message, run.log = Log.lines Log.warningLevel (told ++ [.error message]) := by
  intro world run
  have hinvocation : Invocation.ofArguments deskArguments = .ok deskInvocation := rfl
  have hreading : reading Settings.yamlReader world deskInvocation deskRequest =
      ⟨.ok builtinThreshold, .ok [viewer, .map []]⟩ := rfl
  have hviewer : viewer.Checkable := (trouble?_eq_none_iff viewer).mp rfl
  have hempty : (Value.map []).Refused := (refused_iff_trouble? _).mpr ⟨_, rfl, rfl⟩
  obtain ⟨hends, -, htold⟩ := offline_check_ends_by_records hinvocation rfl rfl
    (congrArg Reading.threshold hreading)
  have hending : run.ending = .exit .usageError := by
    rw [(hends _ (congrArg Reading.records hreading)).wrongUsage]
    exact ⟨[viewer], .map [], [], rfl, by simp [hviewer], hempty⟩
  exact ⟨hinvocation, hreading, hviewer, hempty, hending, htold hending⟩

/-- A project with a number among its packages: that is no valid project, and nobody is told. -/
theorem number_among_packages_is_not_told :
    let input := "\x7b\"name\":\"p\",\"packages\":[5]\x7d".toList
    let record := Value.map [(.text "name".toList, .text "p".toList),
      (.text "packages".toList, .list [.int 5])]
    let run := Command.runArguments Settings.yamlReader (desk input) deskArguments
    Invocation.ofArguments deskArguments = .ok deskInvocation ∧ deskRequest.offline = true ∧
    reading Settings.yamlReader (desk input) deskInvocation deskRequest =
      ⟨.ok builtinThreshold, .ok [record]⟩ ∧
    run.ending = .fault (.check (.record .notARecord)) ∧ ∀ code, run.ending ≠ .exit code := by
  intro input record run
  have hinvocation : Invocation.ofArguments deskArguments = .ok deskInvocation := rfl
  have hreading : reading Settings.yamlReader (desk input) deskInvocation deskRequest =
      ⟨.ok builtinThreshold, .ok [record]⟩ := rfl
  obtain ⟨ended, hrun, hanswer⟩ := exists_conclude hinvocation rfl rfl hreading
  have hending : run.ending = .fault (.check (.record .notARecord)) := by
    rw [show run = _ from hrun, conclude_ending, hanswer]
    rfl
  refine ⟨hinvocation, rfl, hreading, hending, ?_⟩
  intro code h
  rw [hending] at h
  cases h

end Check

end DistroBallot
