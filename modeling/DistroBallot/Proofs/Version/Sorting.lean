import DistroBallot.Proofs.Version.Comparison
import DistroBallot.Version.Sort
import Mathlib

/-!
# Sorted lists of versions

Ties keep the comparison from being a weak order: versions that are equal to a third one need not be
equal to each other. Sorting is looked at on lists where that does not happen (`WeaklyOrdered`),
such as lists without ties.

What a sorted list is, is said without an algorithm (`StablySorted`): the same versions, none of
them on the wrong side of another, and equal ones in the order in which they were given. There is
one list with these properties, and sorting finds it. The laws of sorting in both directions are
read off that.
-/

namespace DistroBallot
namespace Version

variable {u v w : Text} {l l' : List Text} {newestFirst : Bool}

/-! ## Weakly ordered lists -/

/-- Being equal passes on among the versions of a list. Being older is a strict order anyway, so that
the comparison is a strict weak order on the list. -/
def WeaklyOrdered (l : List Text) : Prop :=
  ∀ u ∈ l, ∀ v ∈ l, ∀ w ∈ l, compare u v = .eq → compare v w = .eq → compare u w = .eq

instance (l : List Text) : Decidable (WeaklyOrdered l) :=
  inferInstanceAs (Decidable (∀ u ∈ l, ∀ v ∈ l, ∀ w ∈ l,
    compare u v = .eq → compare v w = .eq → compare u w = .eq))

theorem weaklyOrdered_of_not_tie (h : ∀ u ∈ l, ∀ v ∈ l, ¬ Tie u v) : WeaklyOrdered l := by
  intro u hu v hv w _ huv hvw
  exact compare_eq_trans huv hvw fun hties => h u hu v hv hties.1

theorem WeaklyOrdered.of_perm (h : WeaklyOrdered l) (hperm : l'.Perm l) : WeaklyOrdered l' := by
  intro u hu v hv w hw
  exact h u (hperm.subset hu) v (hperm.subset hv) w (hperm.subset hw)

theorem compare_self (v : Text) : compare v v = .eq :=
  compare_of_agree fun _ => rfl

/-- What is not newer is older or equal. -/
theorem isOlder_or_eq_of_not_isOlder (h : isOlder w v = false) :
    isOlder v w = true ∨ compare v w = .eq := by
  rw [isOlder, ← compare_swap v w] at h
  rw [isOlder]
  cases hvw : compare v w with
  | lt => exact Or.inl rfl
  | eq => exact Or.inr rfl
  | gt =>
      rw [hvw] at h
      cases h

theorem not_isOlder_of_eq (h : compare v w = .eq) : isOlder v w = false := by
  rw [isOlder, h]
  rfl

theorem compare_eq_symm (h : compare v w = .eq) : compare w v = .eq := by
  rw [← compare_swap v w, h]
  rfl

/-- On a weakly ordered list not being older passes on. -/
theorem WeaklyOrdered.not_isOlder_trans (h : WeaklyOrdered l) (hu : u ∈ l) (hv : v ∈ l)
    (hw : w ∈ l) (hvu : isOlder v u = false) (hwv : isOlder w v = false) :
    isOlder w u = false := by
  by_contra hwu
  rw [Bool.not_eq_false] at hwu
  rcases isOlder_or_eq_of_not_isOlder hvu with huv | huv
  · rw [isOlder_trans hwu huv] at hwv
    cases hwv
  · rcases isOlder_or_eq_of_not_isOlder hwv with hvw | hvw
    · rw [isOlder_trans hvw hwu] at hvu
      cases hvu
    · -- both pairs are equal, and so are the outer two
      have huw := h u hu v hv w hw huv hvw
      rw [not_isOlder_of_eq (compare_eq_symm huw)] at hwu
      cases hwu

/-! ## Which version may stand before which -/

theorem mayPrecede_total (newestFirst : Bool) (v w : Text) :
    (mayPrecede newestFirst v w || mayPrecede newestFirst w v) = true := by
  have hasymm : isOlder v w = true → isOlder w v = false := isOlder_asymm
  cases newestFirst <;> cases h : isOlder v w <;> simp_all [mayPrecede]

theorem WeaklyOrdered.mayPrecede_trans (h : WeaklyOrdered l) (hu : u ∈ l) (hv : v ∈ l)
    (hw : w ∈ l) (huv : mayPrecede newestFirst u v = true)
    (hvw : mayPrecede newestFirst v w = true) : mayPrecede newestFirst u w = true := by
  cases newestFirst with
  | false =>
      simp only [mayPrecede, Bool.false_eq_true, if_false, Bool.not_eq_true'] at huv hvw ⊢
      exact h.not_isOlder_trans hu hv hw huv hvw
  | true =>
      simp only [mayPrecede, if_true, Bool.not_eq_true'] at huv hvw ⊢
      exact h.not_isOlder_trans hw hv hu hvw huv

theorem mayPrecede_of_eq (h : compare v w = .eq) : mayPrecede newestFirst v w = true := by
  have hvw := not_isOlder_of_eq h
  have hwv := not_isOlder_of_eq (compare_eq_symm h)
  cases newestFirst <;> simp [mayPrecede, hvw, hwv]

/-- Versions that may stand in either order are equal. -/
theorem compare_eq_of_mayPrecede (hvw : mayPrecede newestFirst v w = true)
    (hwv : mayPrecede newestFirst w v = true) : compare v w = .eq := by
  obtain ⟨h, h'⟩ : isOlder v w = false ∧ isOlder w v = false := by
    cases newestFirst <;> simp_all [mayPrecede]
  rcases isOlder_or_eq_of_not_isOlder h' with hlt | heq
  · rw [h] at hlt
    cases hlt
  · exact heq

/-! ## Stably sorted lists -/

/-- The versions of a list that are equal to one, in their order. -/
def peers (v : Text) (l : List Text) : List Text := l.filter (fun w => compare v w == .eq)

/-- The second list is the first one sorted: a permutation of it in which no version is older than
an earlier one, or than a later one where the newest come first, and in which equal versions stand
in the order of the first list. -/
structure StablySorted (newestFirst : Bool) (l sorted : List Text) : Prop where
  perm : sorted.Perm l
  ordered : sorted.Pairwise fun earlier later =>
    (if newestFirst then isOlder earlier later else isOlder later earlier) = false
  stable : ∀ v ∈ l, peers v sorted = peers v l

theorem pairwise_mayPrecede_iff {sorted : List Text} :
    sorted.Pairwise (fun v w => mayPrecede newestFirst v w = true) ↔
      sorted.Pairwise fun earlier later =>
        (if newestFirst then isOlder earlier later else isOlder later earlier) = false := by
  cases newestFirst <;> simp [mayPrecede]

/-- A permutation that is ordered and keeps the order of equal versions is determined: the first
versions of two such lists are equal to each other, so that the order of equal ones decides. -/
theorem eq_of_ordered_of_peers {l₁ l₂ : List Text} (hperm : l₁.Perm l₂)
    (h₁ : l₁.Pairwise fun v w => mayPrecede newestFirst v w = true)
    (h₂ : l₂.Pairwise fun v w => mayPrecede newestFirst v w = true)
    (hpeers : ∀ v ∈ l₁, peers v l₁ = peers v l₂) : l₁ = l₂ := by
  induction l₁ generalizing l₂ with
  | nil => exact hperm.nil_eq
  | cons a t₁ ih =>
      cases l₂ with
      | nil => exact absurd hperm.eq_nil (List.cons_ne_nil a t₁)
      | cons b t₂ =>
          have hab : compare a b = .eq := by
            rcases List.mem_cons.mp (hperm.subset List.mem_cons_self) with rfl | ha
            · exact compare_self a
            · rcases List.mem_cons.mp (hperm.symm.subset List.mem_cons_self) with rfl | hb
              · exact compare_self b
              · exact compare_eq_of_mayPrecede (List.rel_of_pairwise_cons h₁ hb)
                  (List.rel_of_pairwise_cons h₂ ha)
          obtain rfl : a = b := by
            have hhead := hpeers a List.mem_cons_self
            rw [peers, peers, List.filter_cons_of_pos (by simp [compare_self]),
              List.filter_cons_of_pos (by simp [hab])] at hhead
            exact (List.cons.inj hhead).1
          have htails : ∀ v ∈ t₁, peers v t₁ = peers v t₂ := by
            intro v hv
            have hcons := hpeers v (List.mem_cons_of_mem a hv)
            rw [peers, peers, List.filter_cons, List.filter_cons] at hcons
            split at hcons
            · exact (List.cons.inj hcons).2
            · exact hcons
          rw [ih hperm.cons_inv h₁.of_cons h₂.of_cons htails]

/-! ## Sorting -/

/-- A list is sorted as the list of its members. Among these the order is transitive, which it is
not among all versions. -/
theorem sort_eq_map_attach (l : List Text) (newestFirst : Bool) : sort l newestFirst =
    (l.attach.mergeSort fun v w => mayPrecede newestFirst v.1 w.1).map Subtype.val := by
  have hmap := List.map_mergeSort (f := Subtype.val) (l := l.attach) (s := mayPrecede newestFirst)
    (r := fun v w => mayPrecede newestFirst v.1 w.1) fun _ _ _ _ => rfl
  rw [hmap, List.attach_map_subtype_val, sort]

theorem sort_perm (l : List Text) (newestFirst : Bool) : (sort l newestFirst).Perm l :=
  List.mergeSort_perm l _

theorem WeaklyOrdered.pairwise_sort (h : WeaklyOrdered l) (newestFirst : Bool) :
    (sort l newestFirst).Pairwise fun v w => mayPrecede newestFirst v w = true := by
  rw [sort_eq_map_attach, List.pairwise_map]
  apply List.pairwise_mergeSort
  · rintro ⟨u, hu⟩ ⟨v, hv⟩ ⟨w, hw⟩ huv hvw
    exact h.mayPrecede_trans hu hv hw huv hvw
  · rintro ⟨v, _⟩ ⟨w, _⟩
    exact mayPrecede_total newestFirst v w

/-- What is in order already stays in its order. -/
theorem WeaklyOrdered.sublist_sort (h : WeaklyOrdered l) {c : List Text} (hc : c.Sublist l)
    (hordered : c.Pairwise fun v w => mayPrecede newestFirst v w = true) :
    c.Sublist (sort l newestFirst) := by
  rw [← l.attach_map_subtype_val, List.sublist_map_iff] at hc
  obtain ⟨members, hmembers, rfl⟩ := hc
  rw [List.pairwise_map] at hordered
  rw [sort_eq_map_attach]
  apply List.Sublist.map
  refine List.sublist_mergeSort ?_ ?_ hordered hmembers
  · rintro ⟨u, hu⟩ ⟨v, hv⟩ ⟨w, hw⟩ huv hvw
    exact h.mayPrecede_trans hu hv hw huv hvw
  · rintro ⟨v, _⟩ ⟨w, _⟩
    exact mayPrecede_total newestFirst v w

theorem peers_sublist (v : Text) (l : List Text) : (peers v l).Sublist l :=
  List.filter_sublist

theorem peers_peers (v : Text) (l : List Text) : peers v (peers v l) = peers v l := by
  simp [peers]

/-- Versions that are equal to one of the list are equal to each other, and so keep their order. -/
theorem WeaklyOrdered.peers_sort (h : WeaklyOrdered l) (hv : v ∈ l) :
    peers v (sort l newestFirst) = peers v l := by
  have hequal : (peers v l).Pairwise fun u w => mayPrecede newestFirst u w = true := by
    refine List.pairwise_of_forall_mem_list fun u hu w hw => ?_
    rw [peers, List.mem_filter, beq_iff_eq] at hu hw
    exact mayPrecede_of_eq (h u hu.1 v hv w hw.1 (compare_eq_symm hu.2) hw.2)
  have hsub : (peers v l).Sublist (peers v (sort l newestFirst)) := by
    rw [← peers_peers v l]
    exact (h.sublist_sort (peers_sublist v l) hequal).filter _
  have hlength : (peers v l).length = (peers v (sort l newestFirst)).length :=
    ((sort_perm l newestFirst).filter _).length_eq.symm
  exact (hsub.eq_of_length hlength).symm

theorem WeaklyOrdered.stablySorted_sort (h : WeaklyOrdered l) (newestFirst : Bool) :
    StablySorted newestFirst l (sort l newestFirst) where
  perm := sort_perm l newestFirst
  ordered := pairwise_mayPrecede_iff.mp (h.pairwise_sort newestFirst)
  stable := fun _ hv => h.peers_sort hv

/-- **A stably sorted list is what sorting gives.** -/
theorem WeaklyOrdered.eq_sort_of_stablySorted (h : WeaklyOrdered l) {sorted : List Text}
    (hsorted : StablySorted newestFirst l sorted) : sorted = sort l newestFirst := by
  refine eq_of_ordered_of_peers (hsorted.perm.trans (sort_perm l newestFirst).symm)
    (pairwise_mayPrecede_iff.mpr hsorted.ordered) (h.pairwise_sort newestFirst) fun v hv => ?_
  have hvl : v ∈ l := hsorted.perm.subset hv
  rw [hsorted.stable v hvl, h.peers_sort hvl]

theorem WeaklyOrdered.sort_sort (h : WeaklyOrdered l) (newestFirst : Bool) :
    sort (sort l newestFirst) newestFirst = sort l newestFirst := by
  have hsorted : StablySorted newestFirst (sort l newestFirst) (sort l newestFirst) :=
    ⟨List.Perm.refl _, (h.stablySorted_sort newestFirst).ordered, fun _ _ => rfl⟩
  exact ((h.of_perm (sort_perm l newestFirst)).eq_sort_of_stablySorted hsorted).symm

theorem peers_reverse (v : Text) (l : List Text) : peers v l.reverse = (peers v l).reverse :=
  List.filter_reverse

/-- Sorting the other way round turns the list twice, since equal versions keep their order. -/
theorem WeaklyOrdered.sort_newestFirst (h : WeaklyOrdered l) :
    sort l true = (sort l.reverse false).reverse := by
  have holdest := (h.of_perm l.reverse_perm).stablySorted_sort false
  have hsorted : StablySorted true l (sort l.reverse false).reverse := by
    refine ⟨?_, ?_, ?_⟩
    · exact (List.reverse_perm _).trans (holdest.perm.trans l.reverse_perm)
    · rw [List.pairwise_reverse]
      exact holdest.ordered
    · intro v hv
      rw [peers_reverse, holdest.stable v (List.mem_reverse.mpr hv), peers_reverse,
        List.reverse_reverse]
  exact (h.eq_sort_of_stablySorted hsorted).symm

/-- **Sorting finds the one stably sorted list.** The list may be any on which the comparison is a
weak order, such as a list without ties. Sorting it again changes nothing, and sorting it with the
newest first is sorting its reverse and turning the result around. -/
theorem stablySorted_iff_eq_sort_of_weaklyOrdered (l : List Text) :
    ((∀ u ∈ l, ∀ v ∈ l, ¬ Tie u v) → WeaklyOrdered l) ∧
    (WeaklyOrdered l →
      (∀ newestFirst sorted,
        StablySorted newestFirst l sorted ↔ sorted = sort l newestFirst) ∧
      (∀ newestFirst, sort (sort l newestFirst) newestFirst = sort l newestFirst) ∧
      sort l true = (sort l.reverse false).reverse) := by
  refine ⟨weaklyOrdered_of_not_tie, fun h => ⟨fun newestFirst sorted => ?_, h.sort_sort,
    h.sort_newestFirst⟩⟩
  constructor
  · exact h.eq_sort_of_stablySorted
  · rintro rfl
    exact h.stablySorted_sort newestFirst

/-- Six releases, two of which are equal. -/
def releases : List Text :=
  ["1.10".toList, "1.0".toList, "2".toList, "1.9".toList, "1".toList, "2.0rc1".toList]

/-- The release `1.0` was given before `1`, and comes before it in both directions. -/
theorem sort_releases : (∀ u ∈ releases, ∀ v ∈ releases, ¬ Tie u v) ∧ WeaklyOrdered releases ∧
    sort releases false =
      ["1.0".toList, "1".toList, "1.9".toList, "1.10".toList, "2.0rc1".toList, "2".toList] ∧
    sort releases true =
      ["2".toList, "2.0rc1".toList, "1.10".toList, "1.9".toList, "1.0".toList, "1".toList] := by
  have hties : ∀ u ∈ releases, ∀ v ∈ releases, ¬ Tie u v := by decide +kernel
  obtain ⟨hweak, hsorts⟩ := stablySorted_iff_eq_sort_of_weaklyOrdered releases
  obtain ⟨hiff, -, -⟩ := hsorts (hweak hties)
  refine ⟨hties, hweak hties, ((hiff false _).mp ?_).symm, ((hiff true _).mp ?_).symm⟩
  · exact ⟨by decide +kernel, by decide +kernel, by decide +kernel⟩
  · exact ⟨by decide +kernel, by decide +kernel, by decide +kernel⟩

end Version
end DistroBallot
