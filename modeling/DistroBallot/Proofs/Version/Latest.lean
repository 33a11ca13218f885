import DistroBallot.Proofs.Version.Sorting
import Mathlib

/-!
# The latest version

The latest version is found in one pass, with one candidate that gives way to a newer version only.
A version that ties with the candidate is passed over, and being equal does not pass on, so that it
might be thought to be newer than a later candidate. It is not: candidates become newer and newer,
and being older is transitive. The invariant of the pass is that no version seen so far is newer than
the candidate (`IsLatest.step`, `IsLatest.run`). Any two versions of a list with this property are
equal.

On a weakly ordered list the candidate is also the first of the versions that are equal to it. This
is what stands at the head of the list when it is sorted with the newest first.
-/

namespace DistroBallot
namespace Version

variable {r r' w : Text} {l rest : List Text}

/-! ## No version is newer -/

/-- A version of the list such that no version of the list is newer. -/
structure IsLatest (l : List Text) (r : Text) : Prop where
  mem : r ∈ l
  not_newer : ∀ e ∈ l, isOlder r e = false

theorem isLatest_singleton (v : Text) : IsLatest [v] v :=
  ⟨List.mem_singleton_self v, by simp [isOlder_irrefl]⟩

/-- One more version: the candidate stays, or gives way to a newer one. -/
theorem IsLatest.step (h : IsLatest l r) (w : Text) : IsLatest (l ++ [w]) (newer r w) := by
  unfold newer
  by_cases hw : isOlder r w = true
  · rw [if_pos hw]
    refine ⟨by simp, ?_⟩
    intro e he
    rcases List.mem_append.mp he with he | he
    · by_contra hlt
      rw [Bool.not_eq_false] at hlt
      -- what is newer than the new candidate was newer than the old one
      have hold := h.not_newer e he
      rw [isOlder_trans hw hlt] at hold
      cases hold
    · rw [List.mem_singleton.mp he]
      exact isOlder_irrefl w
  · rw [if_neg hw]
    refine ⟨List.mem_append_left _ h.mem, ?_⟩
    intro e he
    rcases List.mem_append.mp he with he | he
    · exact h.not_newer e he
    · rw [List.mem_singleton.mp he]
      exact Bool.eq_false_of_not_eq_true hw

theorem IsLatest.run (h : IsLatest l r) (rest : List Text) :
    IsLatest (l ++ rest) (rest.foldl newer r) := by
  induction rest generalizing l r with
  | nil => simpa using h
  | cons w rest ih =>
      rw [List.foldl_cons, List.append_cons]
      exact ih (h.step w)

theorem exists_latest? (hl : l ≠ []) : ∃ r, latest? l = some r := by
  obtain ⟨v, rest, rfl⟩ := List.exists_cons_of_ne_nil hl
  exact ⟨rest.foldl newer v, rfl⟩

theorem isLatest_of_latest?_eq_some (h : latest? l = some r) : IsLatest l r := by
  cases l with
  | nil => cases h
  | cons v rest =>
      obtain rfl := Option.some.inj h
      exact (isLatest_singleton v).run rest

theorem IsLatest.of_perm {l' : List Text} (h : IsLatest l' r) (hperm : l'.Perm l) :
    IsLatest l r :=
  ⟨hperm.subset h.mem, fun e he => h.not_newer e (hperm.symm.subset he)⟩

/-- Two versions of one list of which neither is older are equal. -/
theorem IsLatest.compare_eq (h : IsLatest l r) (h' : IsLatest l r') : compare r r' = .eq := by
  rcases isOlder_or_eq_of_not_isOlder (h'.not_newer r h.mem) with hlt | heq
  · rw [h.not_newer r' h'.mem] at hlt
    cases hlt
  · exact heq

/-! ## The first of equal versions -/

theorem WeaklyOrdered.of_subset {l' : List Text} (h : WeaklyOrdered l) (hsub : l' ⊆ l) :
    WeaklyOrdered l' := by
  intro u hu v hv w hw
  exact h u (hsub hu) v (hsub hv) w (hsub hw)

theorem peers_append (v : Text) (l l' : List Text) : peers v (l ++ l') = peers v l ++ peers v l' :=
  List.filter_append l l'

/-- Of the versions equal to the candidate the candidate stays the first one. None of the earlier
versions is equal to one to which the candidate gives way. -/
theorem IsLatest.first_step (h : IsLatest l r) (hfirst : (peers r l).head? = some r)
    (hweak : WeaklyOrdered (l ++ [w])) :
    (peers (newer r w) (l ++ [w])).head? = some (newer r w) := by
  unfold newer
  by_cases hw : isOlder r w = true
  · have hnone : peers w l = [] := by
      rw [peers, List.filter_eq_nil_iff]
      intro e he heq
      rw [beq_iff_eq] at heq
      have hle : isOlder e w = false := not_isOlder_of_eq (compare_eq_symm heq)
      have hlt : isOlder r w = false :=
        hweak.not_isOlder_trans (by simp) (List.mem_append_left _ he)
          (List.mem_append_left _ h.mem) hle (h.not_newer e he)
      rw [hlt] at hw
      cases hw
    rw [if_pos hw, peers_append, hnone]
    simp [peers, compare_self]
  · rw [if_neg hw, peers_append, List.head?_append, hfirst]
    rfl

theorem IsLatest.first_run (h : IsLatest l r) (hfirst : (peers r l).head? = some r)
    (hweak : WeaklyOrdered (l ++ rest)) :
    (peers (rest.foldl newer r) (l ++ rest)).head? = some (rest.foldl newer r) := by
  induction rest generalizing l r with
  | nil => simpa using hfirst
  | cons w rest ih =>
      rw [List.append_cons] at hweak ⊢
      have hseen : WeaklyOrdered (l ++ [w]) := hweak.of_subset (List.subset_append_left _ rest)
      exact ih (h.step w) (h.first_step hfirst hseen) hweak

theorem WeaklyOrdered.head_peers_latest (hweak : WeaklyOrdered l) (h : latest? l = some r) :
    (peers r l).head? = some r := by
  cases l with
  | nil => cases h
  | cons v rest =>
      obtain rfl := Option.some.inj h
      have hself : (peers v [v]).head? = some v := by simp [peers, compare_self]
      exact (isLatest_singleton v).first_run hself hweak

/-! ## The head of the sorted list -/

/-- No version is newer than the first one of a list that is sorted with the newest first. -/
theorem WeaklyOrdered.isLatest_of_sort (hweak : WeaklyOrdered l)
    (hsort : sort l true = r :: rest) : IsLatest l r := by
  have hordered := hweak.pairwise_sort true
  rw [hsort, List.pairwise_cons] at hordered
  have hhead : IsLatest (r :: rest) r := by
    refine ⟨List.mem_cons_self, ?_⟩
    rw [List.forall_mem_cons]
    exact ⟨isOlder_irrefl r, fun e he => by simpa [mayPrecede] using hordered.1 e he⟩
  rw [← hsort] at hhead
  exact hhead.of_perm (sort_perm l true)

/-- Sorting keeps the order of the versions that are equal to the latest one. -/
theorem WeaklyOrdered.head_sort_latest (hweak : WeaklyOrdered l) (h : latest? l = some r) :
    (sort l true).head? = some r := by
  have hlatest := isLatest_of_latest?_eq_some h
  have hmem : r ∈ sort l true := (sort_perm l true).symm.subset hlatest.mem
  obtain ⟨first, rest, hsort⟩ := List.exists_cons_of_ne_nil (List.ne_nil_of_mem hmem)
  have heq : compare r first = .eq := hlatest.compare_eq (hweak.isLatest_of_sort hsort)
  have hpeers : peers r (first :: rest) = peers r l := by
    rw [← hsort]
    exact hweak.peers_sort hlatest.mem
  rw [hsort, List.head?_cons, ← hweak.head_peers_latest h, ← hpeers, peers,
    List.filter_cons_of_pos (by simp [heq]), List.head?_cons]

/-! ## The latest version of a list -/

/-- **The latest version is one of the list, and none of the list is newer**, also where versions
tie. Another order of the list gives an equal version. Without ties it is the first of the versions
that are equal to it, and stands at the head of the list sorted with the newest first. -/
theorem exists_latest_of_ne_nil (hl : l ≠ []) :
    ∃ r, latest? l = some r ∧ r ∈ l ∧ (∀ e ∈ l, isOlder r e = false) ∧
      (∀ l', l'.Perm l → ∃ r', latest? l' = some r' ∧ compare r r' = .eq) ∧
      ((∀ u ∈ l, ∀ v ∈ l, ¬ Tie u v) →
        (peers r l).head? = some r ∧ (sort l true).head? = some r) := by
  obtain ⟨r, hr⟩ := exists_latest? hl
  have hlatest := isLatest_of_latest?_eq_some hr
  refine ⟨r, hr, hlatest.mem, hlatest.not_newer, ?_, ?_⟩
  · intro l' hperm
    obtain ⟨r', hr'⟩ := exists_latest? (l := l') fun hnil => hl (by simpa [hnil] using hperm)
    exact ⟨r', hr', hlatest.compare_eq ((isLatest_of_latest?_eq_some hr').of_perm hperm)⟩
  · intro hties
    have hweak := weaklyOrdered_of_not_tie hties
    exact ⟨hweak.head_peers_latest hr, hweak.head_sort_latest hr⟩

/-- The two newest of four versions are equal. -/
def updates : List Text := ["1.0".toList, "2.0".toList, "1".toList, "2".toList]

/-- The latest update is the one that was given first. Of the other three versions the middle one
ties with both others, and which one is found depends on their order. -/
theorem latest_of_updates : updates ≠ [] ∧ (∀ u ∈ updates, ∀ v ∈ updates, ¬ Tie u v) ∧
    latest? updates = some "2.0".toList ∧ (sort updates true).head? = some "2.0".toList ∧
    Tie "x.1".toList "xx".toList ∧
    latest? ["x.1".toList, "xx".toList, "x.2".toList] = some "x.2".toList ∧
    latest? ["xx".toList, "x.1".toList, "x.2".toList] = some "xx".toList ∧
    compare "x.2".toList "xx".toList = .eq := by
  have hne : updates ≠ [] := by simp [updates]
  have hties : ∀ u ∈ updates, ∀ v ∈ updates, ¬ Tie u v := by decide +kernel
  have hnewest : latest? updates = some "2.0".toList := by decide +kernel
  have htied : latest? ["x.1".toList, "xx".toList, "x.2".toList] = some "x.2".toList := by
    decide +kernel
  have htied' : latest? ["xx".toList, "x.1".toList, "x.2".toList] = some "xx".toList := by
    decide +kernel
  obtain ⟨r, hr, -, -, -, hsort⟩ := exists_latest_of_ne_nil hne
  obtain ⟨s, hs, -, -, hperm, -⟩ :=
    exists_latest_of_ne_nil (l := ["x.1".toList, "xx".toList, "x.2".toList]) (by simp)
  obtain ⟨s', hs', heq⟩ := hperm _ (List.Perm.swap "x.1".toList "xx".toList ["x.2".toList])
  obtain rfl := Option.some.inj (hnewest.symm.trans hr)
  obtain rfl := Option.some.inj (htied.symm.trans hs)
  obtain rfl := Option.some.inj (htied'.symm.trans hs')
  exact ⟨hne, hties, hr, (hsort hties).2, by decide +kernel, hs, hs', heq⟩

end Version
end DistroBallot
