import DistroBallot.Proofs.Version.Writing
import Mathlib

/-!
# Versions put together from parts

Where the characters on both sides of a seam are of different kinds, the segments of the whole are
those of the parts (`segments_append_of_parted`). What follows a word matters for it only when that
starts with digits. So what stands before a number is read without regard to what stands behind it
(`exists_ofSegments_append_digits`), and a separator cuts a version into two that are read on their
own (`components_append_cons`).

Versions with the same component at every place are interchangeable in comparisons. Hence it does
not matter which separators stand between two parts, or whether any stand at the ends. Nor do zeros
matter as the last component or in front of a number (`interchangeable_of_separators_and_zeros`).
-/

namespace DistroBallot
namespace Version

variable {a b s s' t v w z : Text} {c d : Char}

/-! ## Segments of a concatenation -/

theorem pushChar_append (c : Char) {front : List Segment} (hfront : front ≠ [])
    (rest : List Segment) : pushChar c (front ++ rest) = pushChar c front ++ rest := by
  obtain ⟨first, front, rfl⟩ := List.exists_cons_of_ne_nil hfront
  unfold pushChar
  split_ifs <;> cases first <;> rfl

/-- No segment reaches over a seam between two kinds of characters. -/
theorem segments_append_of_parted (h : ∀ c ∈ a.getLast?, ∀ d ∈ t.head?, Parted c d) :
    segments (a ++ t) = segments a ++ segments t := by
  induction a with
  | nil => rfl
  | cons c a ih =>
      rw [List.cons_append, segments_cons, segments_cons]
      cases a with
      | nil => exact pushChar_of_parted (h c rfl)
      | cons d a =>
          have hfront : segments (d :: a) ≠ [] := by
            obtain ⟨first, rest, hsegments, -⟩ := exists_segments_cons d a
            rw [hsegments]
            exact List.cons_ne_nil first rest
          rw [ih (by simpa using h), pushChar_append c hfront]

/-! ## Components of concatenated segments -/

theorem startsWithDigits_append {front : List Segment} (hfront : front ≠ [])
    (rest : List Segment) : startsWithDigits (front ++ rest) = startsWithDigits front := by
  obtain ⟨first, front, rfl⟩ := List.exists_cons_of_ne_nil hfront
  cases first <;> rfl

/-- What stands before a number is read without regard to its digits and to what stands behind
them. -/
theorem exists_ofSegments_append_digits (afterNumber : Bool) (front : List Segment) :
    ∃ as, ∀ run rest, ofSegments afterNumber (front ++ .digits run :: rest) =
      as ++ ofDigits run :: ofSegments true rest := by
  induction front generalizing afterNumber with
  | nil => exact ⟨[], fun run rest => rfl⟩
  | cons first front ih =>
      cases first with
      | gap => exact ih false
      | digits digits =>
          obtain ⟨as, has⟩ := ih true
          refine ⟨ofDigits digits :: as, ?_⟩
          intro run rest
          rw [List.cons_append, ofSegments, has, List.cons_append]
      | letters word =>
          obtain ⟨as, has⟩ := ih false
          -- a number follows the word if the front ends here or goes on with digits
          let suffix := afterNumber && !(front.isEmpty || startsWithDigits front)
          refine ⟨ofLetters word suffix :: as, ?_⟩
          intro run rest
          rw [List.cons_append, ofSegments, has, List.cons_append]
          cases front with
          | nil => rfl
          | cons first front =>
              rw [startsWithDigits_append (List.cons_ne_nil first front)]
              rfl

/-- What stands before a gap is read as if nothing stood behind it. -/
theorem ofSegments_append_gap (afterNumber : Bool) (front rest : List Segment) :
    ofSegments afterNumber (front ++ .gap :: rest) =
      ofSegments afterNumber front ++ ofSegments false rest := by
  induction front generalizing afterNumber with
  | nil => rfl
  | cons first front ih =>
      cases first with
      | gap => exact ih false
      | digits run => rw [List.cons_append, ofSegments, ih, ofSegments, List.cons_append]
      | letters word =>
          rw [List.cons_append, ofSegments, ih, ofSegments, List.cons_append]
          cases front with
          | nil => rfl
          | cons first front => rw [startsWithDigits_append (List.cons_ne_nil first front)]

/-! ## Components of a concatenation -/

/-- A text of characters that are neither letters nor digits, at least one. -/
def IsGap (s : Text) : Prop := s ≠ [] ∧ ∀ c ∈ s, c.isAlphanum = false

/-- A text of zeros, at least one. -/
def IsZeros (z : Text) : Prop := z ≠ [] ∧ ∀ c ∈ z, c = '0'

theorem components_cons_separator (hc : c.isAlphanum = false) (b : Text) :
    components (c :: b) = components b := by
  obtain ⟨rest, hsegments, hrest⟩ := exists_segments_cons_separator hc b
  rw [components, hsegments, ofSegments, hrest]

/-- **A separator cuts a version in two**: what stands before it and what stands behind it are read
on their own. -/
theorem components_append_cons (hc : c.isAlphanum = false) (a b : Text) :
    components (a ++ c :: b) = components a ++ components b := by
  -- from the end of `a`, where there may be more separators
  induction a using List.reverseRecOn generalizing c b with
  | nil => exact components_cons_separator hc b
  | append_singleton a e ih =>
      by_cases he : e.isAlphanum = true
      · have hparted : Parted e c := by
          obtain ⟨hdigit, hletter⟩ := isAlphanum_eq_false_iff.mp hc
          rw [Char.isAlphanum, Bool.or_eq_true] at he
          rcases he with he | he
          · exact Or.inr (by rw [he, hletter]; decide)
          · exact Or.inl (by rw [he, hdigit]; decide)
        obtain ⟨rest, hsegments, hrest⟩ := exists_segments_cons_separator hc b
        rw [components, segments_append_of_parted (by simpa using hparted), hsegments,
          ofSegments_append_gap, hrest]
        rfl
      · rw [Bool.not_eq_true] at he
        rw [List.append_assoc, List.singleton_append, ih he, components_cons_separator hc, ih he]
        simp [components, ofSegments]

theorem components_separators_append (hs : ∀ c ∈ s, c.isAlphanum = false) (b : Text) :
    components (s ++ b) = components b := by
  induction s with
  | nil => rfl
  | cons c s ih =>
      rw [List.forall_mem_cons] at hs
      rw [List.cons_append, components_cons_separator hs.1, ih hs.2]

theorem IsGap.components_append (hs : IsGap s) (a b : Text) :
    components (a ++ s ++ b) = components a ++ components b := by
  obtain ⟨hne, hs⟩ := hs
  obtain ⟨c, s, rfl⟩ := List.exists_cons_of_ne_nil hne
  rw [List.forall_mem_cons] at hs
  rw [List.append_assoc, List.cons_append, components_append_cons hs.1,
    components_separators_append hs.2]

theorem exists_segments_eq_append_digits (hv : ∃ c ∈ v.getLast?, c.isDigit = true) :
    ∃ front run, segments v = front ++ [.digits run] := by
  induction v with
  | nil => simp at hv
  | cons c v ih =>
      rw [segments_cons]
      cases v with
      | nil =>
          obtain ⟨d, hd, hdigit⟩ := hv
          obtain rfl : c = d := by simpa using hd
          exact ⟨[], [c], by simp [pushChar, hdigit]⟩
      | cons d v =>
          obtain ⟨front, run, hsegments⟩ := ih (by simpa using hv)
          rw [hsegments]
          cases front with
          | nil =>
              unfold pushChar
              split_ifs
              · exact ⟨[], c :: run, rfl⟩
              · exact ⟨[.letters [c]], run, rfl⟩
              · exact ⟨[.gap], run, rfl⟩
          | cons first front =>
              rw [pushChar_append c (List.cons_ne_nil first front)]
              exact ⟨pushChar c (first :: front), run, rfl⟩

/-- What stands behind a version that ends in a digit is read as what stands behind a number, if it
does not start with a digit. -/
theorem components_append_of_isDigit (hv : ∃ c ∈ v.getLast?, c.isDigit = true)
    (ht : ∀ d ∈ t.head?, d.isDigit = false) :
    components (v ++ t) = components v ++ ofSegments true (segments t) := by
  have hseam : ∀ c ∈ v.getLast?, ∀ d ∈ t.head?, Parted c d := by
    intro c hc d hd
    obtain ⟨e, he, hdigit⟩ := hv
    obtain rfl : e = c := Option.mem_unique he hc
    exact Or.inl (by rw [hdigit, ht d hd]; decide)
  obtain ⟨front, run, hsegments⟩ := exists_segments_eq_append_digits hv
  obtain ⟨as, has⟩ := exists_ofSegments_append_digits false front
  calc components (v ++ t)
      = ofSegments false (front ++ .digits run :: segments t) := by
        rw [components, segments_append_of_parted hseam, hsegments, List.append_assoc,
          List.singleton_append]
    _ = as ++ [ofDigits run] ++ ofSegments true (segments t) := by rw [has, List.append_cons]
    _ = components v ++ ofSegments true (segments t) := by
        rw [components, hsegments, has]
        rfl

/-! ## Zeros -/

theorem components_digits {run : Text} (hrun : (Segment.digits run).Formed) :
    components run = [ofDigits run] := by
  have hsegments := segments_digits_append (t := []) hrun (by simp)
  rw [List.append_nil] at hsegments
  rw [components, hsegments]
  rfl

theorem ofDigits_zeros_append (hz : ∀ c ∈ z, c = '0') (run : Text) :
    ofDigits (z ++ run) = ofDigits run := by
  unfold ofDigits
  rw [List.dropWhile_append_of_pos (by simpa using hz)]

theorem IsZeros.components (hz : IsZeros z) : components z = [.zero] := by
  obtain ⟨hne, hz⟩ := hz
  have hdigits : ∀ c ∈ z, c.isDigit = true := by
    intro c hc
    rw [hz c hc]
    rfl
  have hzero := ofDigits_zeros_append hz []
  rw [List.append_nil] at hzero
  rw [components_digits ⟨hne, hdigits⟩, hzero]
  rfl

theorem segments_zeros_append {run : Text} {rest : List Segment} (hz : ∀ c ∈ z, c = '0')
    (ht : segments t = .digits run :: rest) :
    segments (z ++ t) = .digits (z ++ run) :: rest := by
  induction z with
  | nil => exact ht
  | cons c z ih =>
      rw [List.forall_mem_cons] at hz
      rw [List.cons_append, segments_cons, ih hz.2, hz.1]
      rfl

/-- Zeros in front of the digits of a number are not read. -/
theorem components_zeros_append (hz : ∀ c ∈ z, c = '0') (hd : d.isDigit = true)
    (ha : ∀ c ∈ a.getLast?, c.isDigit = false) (b : Text) :
    components (a ++ z ++ d :: b) = components (a ++ d :: b) := by
  obtain ⟨first, rest, hsegments, hholds⟩ := exists_segments_cons d b
  have hdigits : ∃ run, first = .digits run := by
    cases first with
    | gap => rw [hholds.1] at hd; cases hd
    | digits run => exact ⟨run, rfl⟩
    | letters word => rw [isDigit_eq_false_of_isAlpha hholds] at hd; cases hd
  obtain ⟨run, rfl⟩ := hdigits
  have hseam : ∀ {t : Text}, (∀ e ∈ t.head?, e.isDigit = true) →
      ∀ c ∈ a.getLast?, ∀ e ∈ t.head?, Parted c e := by
    intro t ht c hc e he
    exact Or.inl (by rw [ha c hc, ht e he]; decide)
  have hzeros : ∀ e ∈ (z ++ d :: b).head?, e.isDigit = true := by
    cases z with
    | nil => simpa using hd
    | cons c z =>
        rw [List.forall_mem_cons] at hz
        simp [hz.1]
  obtain ⟨as, has⟩ := exists_ofSegments_append_digits false (segments a)
  calc Version.components (a ++ z ++ d :: b)
      = ofSegments false (segments a ++ .digits (z ++ run) :: rest) := by
        rw [Version.components, List.append_assoc, segments_append_of_parted (hseam hzeros),
          segments_zeros_append hz hsegments]
    _ = ofSegments false (segments a ++ .digits run :: rest) := by
        rw [has, has, ofDigits_zeros_append hz]
    _ = Version.components (a ++ d :: b) := by
        rw [Version.components, segments_append_of_parted (hseam (by simpa using hd)), hsegments]

/-! ## Interchangeable versions -/

/-- Two versions stand in the same order to every other one, from either side. -/
def Interchangeable (v v' : Text) : Prop :=
  ∀ w, compare v w = compare v' w ∧ compare w v = compare w v'

theorem interchangeable_of_agree {v' : Text} (h : ∀ i, componentAt v i = componentAt v' i) :
    Interchangeable v v' :=
  fun _ => ⟨compare_congr_left h, compare_congr_right h⟩

theorem interchangeable_of_components_eq {v' : Text} (h : components v = components v') :
    Interchangeable v v' := by
  apply interchangeable_of_agree
  intro i
  rw [componentAt, componentAt, h]

/-- A zero as the last component is what stands there without it. -/
theorem interchangeable_of_zero_behind {v' : Text} (h : components v = components v' ++ [.zero]) :
    Interchangeable v v' := by
  apply interchangeable_of_agree
  intro i
  rw [componentAt, componentAt, h]
  rcases lt_or_ge i (components v').length with hi | hi
  · rw [List.getD_append _ _ _ _ hi]
  · rw [List.getD_append_right _ _ _ _ hi, List.getD_eq_default _ _ hi]
    cases i - (components v').length <;> rfl

/-- **Separators matter only where they part something, and zeros only inside.** It does not matter
which separators stand between two parts, or whether any stand at an end; a last component of zeros
may be left out, and so may the zeros in front of a number. -/
theorem interchangeable_of_separators_and_zeros (hs : IsGap s) (hs' : IsGap s') (hz : IsZeros z)
    (hd : d.isDigit = true) (a b : Text) :
    Interchangeable (a ++ s ++ b) (a ++ s' ++ b) ∧
    Interchangeable (s ++ a) a ∧
    Interchangeable (a ++ s) a ∧
    Interchangeable (a ++ s ++ z) a ∧
    ((∀ c ∈ a.getLast?, c.isDigit = false) →
      Interchangeable (a ++ z ++ [d] ++ b) (a ++ [d] ++ b)) := by
  refine ⟨?_, ?_, ?_, ?_, ?_⟩
  · apply interchangeable_of_components_eq
    rw [hs.components_append, hs'.components_append]
  · apply interchangeable_of_components_eq
    exact components_separators_append hs.2 a
  · apply interchangeable_of_components_eq
    simpa [components, ofSegments] using hs.components_append a []
  · apply interchangeable_of_zero_behind
    rw [hs.components_append, hz.components]
  · intro ha
    apply interchangeable_of_components_eq
    simpa using components_zeros_append hz.2 hd ha b

theorem interchangeable_around_word :
    IsGap "-_".toList ∧ IsGap ".".toList ∧ IsZeros "00".toList ∧ '7'.isDigit = true ∧
    (∀ c ∈ "1.0b".toList.getLast?, c.isDigit = false) ∧
    Interchangeable "1.0b-_rc".toList "1.0b.rc".toList ∧
    Interchangeable "-_1.0b".toList "1.0b".toList ∧
    Interchangeable "1.0b-_".toList "1.0b".toList ∧
    Interchangeable "1.0b-_00".toList "1.0b".toList ∧
    Interchangeable "1.0b007rc".toList "1.0b7rc".toList := by
  have hs : IsGap "-_".toList := by simp [IsGap]
  have hs' : IsGap ".".toList := by simp [IsGap]
  have hz : IsZeros "00".toList := by simp [IsZeros]
  have hd : '7'.isDigit = true := rfl
  have ha : ∀ c ∈ "1.0b".toList.getLast?, c.isDigit = false := by simp
  obtain ⟨hbetween, hfront, hbehind, hzero, hzeros⟩ :=
    interchangeable_of_separators_and_zeros hs hs' hz hd "1.0b".toList "rc".toList
  exact ⟨hs, hs', hz, hd, ha, by simpa using hbetween, by simpa using hfront,
    by simpa using hbehind, by simpa using hzero, by simpa using hzeros ha⟩

end Version
end DistroBallot
