import DistroBallot.Proofs.Version.Concatenation
import Mathlib

/-!
# Parts that do not count

A separator cuts a version into two that are read on their own, so that the components of the parts
stand one after the other. The comparison goes through two lists from the front up to the first
difference. So it skips a part that both versions have in front (`IsGap.compare_behind`).

It also never comes to what stands behind a difference. That the difference is at a place which both
versions have is needed here: past the end of the shorter one it was compared with zeros, and what is
put behind that version takes their place. A tie is such a difference, since only words tie.
-/

namespace DistroBallot
namespace Version

variable {a b s v w : Text} {i k : Nat}

/-! ## A part in front -/

theorem orderAligned_append_left (ps as bs : List Component) :
    orderAligned (align (ps ++ as) (ps ++ bs)) = orderAligned (align as bs) := by
  induction ps with
  | nil => rfl
  | cons p ps ih =>
      rw [List.cons_append, List.cons_append, align, orderAligned, if_pos rfl, ih]

/-- A common part in front is skipped. -/
theorem IsGap.compare_behind (hs : IsGap s) (p a b : Text) :
    compare (p ++ s ++ a) (p ++ s ++ b) = compare a b := by
  rw [compare, compare, hs.components_append, hs.components_append, orderAligned_append_left]

/-! ## Parts behind -/

theorem IsGap.componentAt_of_lt (hs : IsGap s) (hi : i < (components a).length) (x : Text) :
    componentAt (a ++ s ++ x) i = componentAt a i := by
  rw [componentAt, componentAt, hs.components_append, List.getD_append _ _ _ _ hi]

/-- A first difference at a place that both versions have stays the first one. -/
theorem DifferFirstAt.before (hs : IsGap s) (h : DifferFirstAt a b k)
    (ha : k < (components a).length) (hb : k < (components b).length) (x y : Text) :
    DifferFirstAt (a ++ s ++ x) (b ++ s ++ y) k := by
  constructor
  · intro j hj
    rw [hs.componentAt_of_lt (hj.trans ha), hs.componentAt_of_lt (hj.trans hb)]
    exact h.1 j hj
  · rw [hs.componentAt_of_lt ha, hs.componentAt_of_lt hb]
    exact h.2

/-- Two versions have different components at some place that both of them have. -/
def DifferWithin (a b : Text) : Prop :=
  ∃ (i : Nat) (ha : i < (components a).length) (hb : i < (components b).length),
    (components a)[i] ≠ (components b)[i]

theorem componentAt_eq_getElem (hi : i < (components v).length) :
    componentAt v i = (components v)[i] :=
  List.getD_eq_getElem _ _ hi

/-- If two versions differ at a place that both have, their first difference is at such a place. -/
theorem DifferWithin.exists_first (h : DifferWithin a b) :
    ∃ k, k < (components a).length ∧ k < (components b).length ∧ DifferFirstAt a b k := by
  obtain ⟨i, ha, hb, hne⟩ := h
  rw [← componentAt_eq_getElem ha, ← componentAt_eq_getElem hb] at hne
  have hdiffer : ¬ ∀ j, componentAt a j = componentAt b j := fun hagree => hne (hagree i)
  obtain ⟨k, hk⟩ := exists_differFirstAt hdiffer
  have hki : k ≤ i := by
    by_contra hik
    exact hne (hk.1 i (not_le.mp hik))
  exact ⟨k, hki.trans_lt ha, hki.trans_lt hb, hk⟩

/-- Nothing that is put behind two versions changes their order, if they differ already. -/
theorem DifferWithin.compare_before (h : DifferWithin a b) (hs : IsGap s) (x y : Text) :
    compare (a ++ s ++ x) (b ++ s ++ y) = compare a b := by
  obtain ⟨k, ha, hb, hk⟩ := h.exists_first
  rw [compare_of_differFirstAt hk, compare_of_differFirstAt (hk.before hs ha hb x y),
    hs.componentAt_of_lt ha, hs.componentAt_of_lt hb]

/-- Where a version has a word, it has a component. -/
theorem lt_length_of_word?_eq_some {word : Text} (h : (componentAt v i).word? = some word) :
    i < (components v).length := by
  by_contra hi
  rw [componentAt_of_length_le (not_lt.mp hi)] at h
  cases h

theorem Tie.differWithin (h : Tie a b) : DifferWithin a b := by
  obtain ⟨i, ⟨-, hne⟩, -, word, word', hword, hword', -⟩ := h
  have ha := lt_length_of_word?_eq_some hword
  have hb := lt_length_of_word?_eq_some hword'
  rw [componentAt_eq_getElem ha, componentAt_eq_getElem hb] at hne
  exact ⟨i, ha, hb, hne⟩

/-! ## Comparing without them -/

/-- **A common part in front does not count, and neither does what stands behind a difference.** The
difference has to be at a place that both versions have. It decides there even if the components
tie, and then the versions are equal whatever is put behind them. -/
theorem compare_behind_common_part_and_before_others (hs : IsGap s) (p a b x y : Text) :
    compare (p ++ s ++ a) (p ++ s ++ b) = compare a b ∧
    (DifferWithin a b → compare (a ++ s ++ x) (b ++ s ++ y) = compare a b) ∧
    (Tie a b → DifferWithin a b ∧ compare (a ++ s ++ x) (b ++ s ++ y) = .eq) := by
  refine ⟨hs.compare_behind p a b, fun h => h.compare_before hs x y, ?_⟩
  intro htie
  refine ⟨htie.differWithin, ?_⟩
  rw [htie.differWithin.compare_before hs]
  exact (tie_iff.mp htie).1

/-- The numbers behind the tied words do not count. -/
theorem compare_around_tied_words : IsGap "-.".toList ∧
    DifferWithin "2.RC".toList "2.release".toList ∧ Tie "2.RC".toList "2.release".toList ∧
    compare "v1-.2.RC".toList "v1-.2.release".toList = compare "2.RC".toList "2.release".toList ∧
    compare "2.RC-.9".toList "2.release-.10".toList = compare "2.RC".toList "2.release".toList ∧
    compare "2.RC-.9".toList "2.release-.10".toList = .eq := by
  have hs : IsGap "-.".toList := by simp [IsGap]
  have htie : Tie "2.RC".toList "2.release".toList := by decide +kernel
  obtain ⟨hbehind, hbefore, htied⟩ := compare_behind_common_part_and_before_others hs "v1".toList
    "2.RC".toList "2.release".toList "9".toList "10".toList
  obtain ⟨hdiffer, heq⟩ := htied htie
  exact ⟨hs, hdiffer, htie, by simpa using hbehind, by simpa using hbefore hdiffer,
    by simpa using heq⟩

-- a difference past the end of one version does not decide for good
example : compare "1".toList "1.1".toList = .lt ∧ compare "1-2".toList "1.1-2".toList = .gt := by
  decide +kernel

end Version
end DistroBallot
