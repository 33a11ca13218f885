import DistroBallot.Proofs.Ballot.Voters
import Mathlib

/-!
# Registries in any order

A pattern that looks for words is found in a name where one of them stands, at the start or up to
the end if the pattern is bound to these; a line feed may follow at the end (`Pattern.Found`). Two
patterns that are bound to the start match no name in common if no word of one begins a word of the
other (`Pattern.Apart`).

Repositories whose patterns are apart take no package in common (`Repository.Apart`). In a registry
of such repositories at most one matches, so that the first one that matches is the same in any
order (`Registry.firstMatch?_eq_of_perm`). The known repositories are apart.
-/

namespace DistroBallot

theorem Text.occursIn_iff_infix {needle t : Text} : occursIn needle t = true ↔ needle <:+: t := by
  induction t with
  | nil => simp [occursIn]
  | cons c rest ih =>
      rw [occursIn, Bool.or_eq_true, List.isPrefixOf_iff_prefix, ih, List.infix_cons_iff]

/-! ## Patterns -/

namespace Pattern

variable {p q : Pattern} {name before word after : Text}

/-- The pattern looks for words. -/
def IsLiteral : Pattern → Prop
  | .satisfying _ => False
  | _ => True

/-- The words one of which a pattern looks for. -/
def words : Pattern → List Text
  | .whole choices => choices
  | .startsWith t => [t]
  | .endsWith t => [t]
  | .contains t => [t]
  | .satisfying _ => []

/-- Whether nothing may stand before the word. -/
def fromStart : Pattern → Bool
  | .whole _ => true
  | .startsWith _ => true
  | _ => false

/-- Whether nothing but a line feed may stand behind the word. -/
def toEnd : Pattern → Bool
  | .whole _ => true
  | .endsWith _ => true
  | _ => false

/-- A word of the pattern stands in the name between these two texts. -/
structure Found (p : Pattern) (name before word after : Text) : Prop where
  name_eq : name = before ++ word ++ after
  word_mem : word ∈ p.words
  before_eq : p.fromStart = true → before = []
  after_eq : p.toEnd = true → after = [] ∨ after = ['\n']

theorem isLiteral_of_fromStart (h : p.fromStart = true) : p.IsLiteral := by
  cases p with
  | satisfying found => cases h
  | _ => exact True.intro

/-- **A pattern that looks for words matches where it is found.** -/
theorem holds_iff_found (hliteral : p.IsLiteral) :
    p.holds name = true ↔ ∃ before word after, p.Found name before word after := by
  cases p with
  | satisfying found => exact hliteral.elim
  | whole choices =>
      simp only [holds, List.any_eq_true, Bool.or_eq_true, beq_iff_eq]
      constructor
      · rintro ⟨word, hword, rfl | rfl⟩
        · exact ⟨[], name, [], by simp, hword, by simp, by simp⟩
        · exact ⟨[], word, ['\n'], by simp, hword, by simp, by simp⟩
      · rintro ⟨before, word, after, hname, hword, hbefore, hafter⟩
        obtain rfl := hbefore rfl
        refine ⟨word, hword, ?_⟩
        rcases hafter rfl with rfl | rfl
        · exact .inl (by simpa using hname)
        · exact .inr (by simpa using hname)
  | startsWith t =>
      rw [holds, List.isPrefixOf_iff_prefix]
      constructor
      · rintro ⟨after, rfl⟩
        exact ⟨[], t, after, by simp, List.mem_singleton_self t, by simp, by simp [toEnd]⟩
      · rintro ⟨before, word, after, rfl, hword, hbefore, -⟩
        obtain rfl := hbefore rfl
        obtain rfl := List.mem_singleton.mp hword
        exact ⟨after, rfl⟩
  | endsWith t =>
      rw [holds, Bool.or_eq_true, List.isSuffixOf_iff_suffix, List.isSuffixOf_iff_suffix]
      constructor
      · rintro (⟨before, rfl⟩ | ⟨before, rfl⟩)
        · exact ⟨before, t, [], by simp, List.mem_singleton_self t, by simp [fromStart], by simp⟩
        · exact ⟨before, t, ['\n'], by simp, List.mem_singleton_self t, by simp [fromStart], by simp⟩
      · rintro ⟨before, word, after, rfl, hword, -, hafter⟩
        obtain rfl := List.mem_singleton.mp hword
        rcases hafter rfl with rfl | rfl
        · exact .inl ⟨before, by simp⟩
        · exact .inr ⟨before, by simp⟩
  | contains t =>
      rw [holds, Text.occursIn_iff_infix]
      constructor
      · rintro ⟨before, after, rfl⟩
        exact ⟨before, t, after, rfl, List.mem_singleton_self t, by simp [fromStart],
          by simp [toEnd]⟩
      · rintro ⟨before, word, after, rfl, hword, -, -⟩
        obtain rfl := List.mem_singleton.mp hword
        exact ⟨before, after, rfl⟩

/-- Both patterns are bound to the start, and no word of one begins a word of the other. -/
def Apart (p q : Pattern) : Prop :=
  p.fromStart = true ∧ q.fromStart = true ∧
    ∀ w ∈ p.words, ∀ w' ∈ q.words, ¬w <+: w' ∧ ¬w' <+: w

instance (p q : Pattern) : Decidable (p.Apart q) :=
  inferInstanceAs (Decidable (_ ∧ _ ∧ ∀ w ∈ p.words, ∀ w' ∈ q.words, ¬w <+: w' ∧ ¬w' <+: w))

theorem Apart.symm (h : p.Apart q) : q.Apart p :=
  ⟨h.2.1, h.1, fun w hw w' hw' => (h.2.2 w' hw' w hw).symm⟩

/-- A pattern that is bound to the start finds a word that begins the name. -/
theorem exists_prefix_of_holds (hstart : p.fromStart = true) (h : p.holds name = true) :
    ∃ w ∈ p.words, w <+: name := by
  obtain ⟨before, word, after, hfound⟩ := (holds_iff_found (isLiteral_of_fromStart hstart)).mp h
  refine ⟨word, hfound.word_mem, after, ?_⟩
  rw [hfound.name_eq, hfound.before_eq hstart, List.nil_append]

theorem Apart.not_holds (h : p.Apart q) : ¬(p.holds name = true ∧ q.holds name = true) := by
  rintro ⟨hp, hq⟩
  obtain ⟨hpstart, hqstart, hwords⟩ := h
  obtain ⟨w, hw, hwname⟩ := exists_prefix_of_holds hpstart hp
  obtain ⟨w', hw', hwname'⟩ := exists_prefix_of_holds hqstart hq
  -- of two texts that begin the same name one begins the other
  rcases List.prefix_or_prefix_of_prefix hwname hwname' with hprefix | hprefix
  · exact (hwords w hw w' hw').1 hprefix
  · exact (hwords w hw w' hw').2 hprefix

end Pattern

/-! ## Repositories -/

namespace Repository

variable {r r' : Repository} {repo : Text} {subrepo : Option Text}

/-- The patterns of the repositories are apart, or those of the sub-repositories. -/
def Apart (r r' : Repository) : Prop :=
  r.repo.Apart r'.repo ∨ ∃ p ∈ r.subrepo, ∃ q ∈ r'.subrepo, p.Apart q

instance (r r' : Repository) : Decidable (r.Apart r') :=
  inferInstanceAs (Decidable (_ ∨ ∃ p ∈ r.subrepo, ∃ q ∈ r'.subrepo, p.Apart q))

instance : Std.Symm Apart where
  symm r r' h := by
    rcases h with h | ⟨p, hp, q, hq, h⟩
    · exact .inl h.symm
    · exact .inr ⟨q, hq, p, hp, h.symm⟩

theorem covers_iff : r.covers repo subrepo = true ↔
    r.repo.holds repo = true ∧ ∀ p ∈ r.subrepo, ∃ t ∈ subrepo, p.holds t = true := by
  unfold covers
  cases r.subrepo <;> cases subrepo <;> simp

/-- **Repositories that are apart do not match together.** -/
theorem Apart.not_covers (h : r.Apart r') :
    ¬(r.covers repo subrepo = true ∧ r'.covers repo subrepo = true) := by
  rintro ⟨hr, hr'⟩
  rw [covers_iff] at hr hr'
  rcases h with h | ⟨p, hp, q, hq, h⟩
  · exact h.not_holds ⟨hr.1, hr'.1⟩
  · obtain ⟨t, ht, hpt⟩ := hr.2 p hp
    obtain ⟨t', ht', hqt⟩ := hr'.2 q hq
    obtain rfl : t = t' := Option.mem_unique ht ht'
    exact h.not_holds ⟨hpt, hqt⟩

end Repository

/-! ## Registries -/

namespace Registry

variable {registry other : Registry} {repo : Text} {subrepo : Option Text} {r : Repository}

/-- The first repository that matches. -/
def firstMatch? (registry : Registry) (repo : Text) (subrepo : Option Text) :
    Except NotText (Option Repository) :=
  (registry.find? (.text repo) (.given subrepo)).map (·.map Prod.snd)

/-- The first repository that matches is the one of this name in the registry. -/
def Finds (registry : Registry) (repo : Text) (subrepo : Option Text) (name : Text) : Prop :=
  ∃ r ∈ registry, r.name = name ∧ registry.firstMatch? repo subrepo = .ok (some r)

theorem firstMatch?_eq (registry : Registry) (repo : Text) (subrepo : Option Text) :
    registry.firstMatch? repo subrepo = .ok (List.find? (·.covers repo subrepo) registry) := by
  rw [firstMatch?, find?]
  generalize 0 = place
  induction registry generalizing place with
  | nil => rfl
  | cons r rest ih =>
      rw [findFrom, accepts_given, List.find?_cons]
      cases r.covers repo subrepo with
      | true => rfl
      | false => exact ih (place + 1)

theorem of_find?_covers (h : List.find? (·.covers repo subrepo) registry = some r) :
    r ∈ registry ∧ r.covers repo subrepo = true := by
  have hcovers := List.find?_some (p := fun r : Repository => r.covers repo subrepo) h
  exact ⟨List.mem_of_find?_eq_some h, hcovers⟩

/-- In a registry of repositories that are apart at most one matches. -/
theorem eq_of_covers (h : registry.Pairwise Repository.Apart) {r r' : Repository}
    (hr : r ∈ registry ∧ r.covers repo subrepo = true)
    (hr' : r' ∈ registry ∧ r'.covers repo subrepo = true) : r = r' := by
  by_contra hne
  exact (h.forall hr.1 hr'.1 hne).not_covers ⟨hr.2, hr'.2⟩

theorem firstMatch?_eq_some_iff (h : registry.Pairwise Repository.Apart) :
    registry.firstMatch? repo subrepo = .ok (some r) ↔ r ∈ registry ∧ r.covers repo subrepo = true := by
  rw [firstMatch?_eq, Except.ok.injEq]
  constructor
  · exact of_find?_covers
  · intro hr
    cases hfind : List.find? (·.covers repo subrepo) registry with
    | none => exact absurd hr.2 (List.find?_eq_none.mp hfind r hr.1)
    | some r' => rw [eq_of_covers h (of_find?_covers hfind) hr]

theorem firstMatch?_eq_none_iff :
    registry.firstMatch? repo subrepo = .ok none ↔ ∀ r ∈ registry, r.covers repo subrepo = false := by
  rw [firstMatch?_eq, Except.ok.injEq, List.find?_eq_none]
  simp only [Bool.not_eq_true]

/-- **Repositories that are apart are found in any order.** -/
theorem firstMatch?_eq_of_perm (h : registry.Pairwise Repository.Apart) (hperm : other.Perm registry) :
    other.firstMatch? repo subrepo = registry.firstMatch? repo subrepo := by
  cases hfind : List.find? (·.covers repo subrepo) other with
  | none =>
      have hnone : other.firstMatch? repo subrepo = .ok none := by rw [firstMatch?_eq, hfind]
      rw [hnone, eq_comm, firstMatch?_eq_none_iff]
      exact fun r hr => firstMatch?_eq_none_iff.mp hnone r (hperm.mem_iff.mpr hr)
  | some r =>
      obtain ⟨hr, hcovers⟩ := of_find?_covers hfind
      rw [firstMatch?_eq other, hfind, eq_comm, firstMatch?_eq_some_iff h]
      exact ⟨hperm.mem_iff.mp hr, hcovers⟩

/-! ## The known repositories -/

theorem pairwise_apart_builtin : builtin.Pairwise Repository.Apart := by decide

theorem finds_builtin_iff (hr : r ∈ builtin) (repo : Text) (subrepo : Option Text) :
    builtin.Finds repo subrepo r.name ↔
      r.repo.holds repo = true ∧ ∀ p ∈ r.subrepo, ∃ t ∈ subrepo, p.holds t = true := by
  have hnames : (builtin.map Repository.name).Nodup := by decide
  rw [← Repository.covers_iff]
  constructor
  · rintro ⟨r', hr', hname, hmatch⟩
    obtain rfl := List.inj_on_of_nodup_map hnames hr' hr hname
    exact ((firstMatch?_eq_some_iff pairwise_apart_builtin).mp hmatch).2
  · intro hcovers
    exact ⟨r, hr, rfl, (firstMatch?_eq_some_iff pairwise_apart_builtin).mpr ⟨hr, hcovers⟩⟩

theorem firstMatch?_builtin_eq_none_iff : builtin.firstMatch? repo subrepo = .ok none ↔
    ∀ r ∈ builtin, ¬builtin.Finds repo subrepo r.name := by
  rw [firstMatch?_eq_none_iff]
  refine forall₂_congr fun r hr => ?_
  rw [finds_builtin_iff hr repo subrepo, ← Repository.covers_iff, Bool.not_eq_true]

theorem finds_arch_iff : builtin.Finds repo subrepo "arch".toList ↔
    repo = "arch".toList ∨ repo = "arch\n".toList := by
  have h := finds_builtin_iff (r := builtin[0]) (by simp) repo subrepo
  simpa [builtin, Pattern.holds] using h

theorem finds_debian_iff : builtin.Finds repo subrepo "debian".toList ↔
    "debian_".toList <+: repo ∧ ∃ t ∈ subrepo,
      t ∈ ["main".toList, "main\n".toList, "contrib".toList, "contrib\n".toList] := by
  have h := finds_builtin_iff (r := builtin[1]) (by simp) repo subrepo
  simpa [builtin, Pattern.holds, List.isPrefixOf_iff_prefix, or_assoc] using h

theorem finds_nonFree_iff : builtin.Finds repo subrepo "debian-non-free".toList ↔
    "debian_".toList <+: repo ∧ ∃ t ∈ subrepo, "non-free".toList <+: t := by
  have h := finds_builtin_iff (r := builtin[2]) (by simp) repo subrepo
  simpa [builtin, Pattern.holds, List.isPrefixOf_iff_prefix] using h

theorem finds_gentoo_iff : builtin.Finds repo subrepo "gentoo".toList ↔
    repo = "gentoo".toList ∨ repo = "gentoo\n".toList := by
  have h := finds_builtin_iff (r := builtin[3]) (by simp) repo subrepo
  simpa [builtin, Pattern.holds] using h

theorem finds_opensuse_iff : builtin.Finds repo subrepo "opensuse".toList ↔
    "opensuse_".toList <+: repo := by
  have h := finds_builtin_iff (r := builtin[4]) (by simp) repo subrepo
  simpa [builtin, Pattern.holds, List.isPrefixOf_iff_prefix] using h

/-- A repository of Debian without a sub-repository that is known has no entry. -/
theorem firstMatch?_eq_none_iff_of_debian (hrepo : "debian_".toList <+: repo) :
    builtin.firstMatch? repo subrepo = .ok none ↔ ∀ t ∈ subrepo,
      t ∉ ["main".toList, "main\n".toList, "contrib".toList, "contrib\n".toList] ∧
        ¬"non-free".toList <+: t := by
  obtain ⟨rest, rfl⟩ := hrepo
  rw [firstMatch?_builtin_eq_none_iff]
  have hnames := List.forall_mem_map (f := Repository.name) (l := builtin)
    (P := fun name => ¬builtin.Finds ("debian_".toList ++ rest) subrepo name)
  rw [← hnames, show builtin.map Repository.name = ["arch".toList, "debian".toList,
    "debian-non-free".toList, "gentoo".toList, "opensuse".toList] from rfl]
  simp only [List.forall_mem_cons, finds_arch_iff, finds_debian_iff, finds_nonFree_iff,
    finds_gentoo_iff, finds_opensuse_iff]
  simp [imp_and, forall_and]

/-- **At most one of the known repositories matches**, so that the same entry is found in any order.
Arch and Gentoo are found by their names, which may end with a line feed, and openSUSE by how its
name starts. Below the names of Debian the sub-repository decides: the main and the contributed one
are free, those that start as not free are not, and all others and an absent one have no entry. -/
theorem firstMatch?_builtin_in_any_order (repo : Text) (subrepo : Option Text) :
    (builtin.Pairwise fun r r' => ¬(r.accepts (.text repo) (.given subrepo) = .ok true ∧
      r'.accepts (.text repo) (.given subrepo) = .ok true)) ∧
    (∃ found : Option Repository, ∀ registry : Registry, registry.Perm builtin →
      registry.firstMatch? repo subrepo = .ok found) ∧
    (builtin.Finds repo subrepo "arch".toList ↔
      repo = "arch".toList ∨ repo = "arch\n".toList) ∧
    (builtin.Finds repo subrepo "gentoo".toList ↔
      repo = "gentoo".toList ∨ repo = "gentoo\n".toList) ∧
    (builtin.Finds repo subrepo "opensuse".toList ↔ "opensuse_".toList <+: repo) ∧
    ("debian_".toList <+: repo →
      (builtin.Finds repo subrepo "debian".toList ↔ ∃ t ∈ subrepo,
        t ∈ ["main".toList, "main\n".toList, "contrib".toList, "contrib\n".toList]) ∧
      (builtin.Finds repo subrepo "debian-non-free".toList ↔ ∃ t ∈ subrepo,
        "non-free".toList <+: t) ∧
      (builtin.firstMatch? repo subrepo = .ok none ↔ ∀ t ∈ subrepo,
        t ∉ ["main".toList, "main\n".toList, "contrib".toList, "contrib\n".toList] ∧
        ¬"non-free".toList <+: t)) := by
  refine ⟨?_, ?_, finds_arch_iff, finds_gentoo_iff, finds_opensuse_iff, ?_⟩
  · refine pairwise_apart_builtin.imp fun happart => ?_
    simp only [accepts_given, Except.ok.injEq]
    exact happart.not_covers
  · refine ⟨List.find? (·.covers repo subrepo) builtin, fun registry hperm => ?_⟩
    rw [firstMatch?_eq_of_perm pairwise_apart_builtin hperm, firstMatch?_eq]
  · intro hrepo
    refine ⟨?_, ?_, firstMatch?_eq_none_iff_of_debian hrepo⟩
    · rw [finds_debian_iff, and_iff_right hrepo]
    · rw [finds_nonFree_iff, and_iff_right hrepo]

theorem firstMatch?_builtin_of_debian_main :
    (∃ r, r.name = "debian".toList ∧ builtin.firstMatch? "debian_12".toList (some "main\n".toList) =
      .ok (some r) ∧ Registry.firstMatch? builtin.reverse "debian_12".toList (some "main\n".toList) =
        .ok (some r)) ∧
    builtin.firstMatch? "debian_12".toList none = .ok none := by
  obtain ⟨-, ⟨found, hfound⟩, -, -, -, hdebian⟩ :=
    firstMatch?_builtin_in_any_order "debian_12".toList (some "main\n".toList)
  obtain ⟨-, -, -, -, -, habsent⟩ := firstMatch?_builtin_in_any_order "debian_12".toList none
  constructor
  · obtain ⟨r, -, hname, hmatch⟩ := (hdebian (by decide)).1.mpr ⟨_, rfl, by decide⟩
    refine ⟨r, hname, hmatch, ?_⟩
    rw [hfound _ (List.reverse_perm builtin), ← hfound _ (.refl builtin), hmatch]
  · exact (habsent (by decide)).2.2.mpr (by simp)

end Registry
end DistroBallot
