import DistroBallot.Proofs.Version.Concatenation
import Mathlib

/-!
# What a version goes on with

The components of a version that ends in a digit stay what they are when something is put behind it
that does not lengthen that number. Which version comes first is then decided by the class of the
component right behind them, and where there is none the zeros begin
(`isOlder_of_goesOnWith`). So around each such version stand, from old to new, its releases marked
by a word for an earlier one, the version itself, those marked by a word for a later one, those with
a further number, and those with a suffix (`pairwise_isOlder_continuations`).
-/

namespace DistroBallot
namespace Version

open Component (IsWord)

variable {k n q s t u v w w' x x' x'' y : Text} {b b' : Component} {rest : List Component}

/-! ## The component behind a version -/

/-- The version `w` has the components of `v` and the component `b` behind them. -/
def GoesOnWith (v w : Text) (b : Component) : Prop :=
  (∀ i < (components v).length, componentAt w i = componentAt v i) ∧
    componentAt w (components v).length = b

theorem goesOnWith_zero (v : Text) : GoesOnWith v v .zero :=
  ⟨fun _ _ => rfl, componentAt_of_length_le le_rfl⟩

theorem goesOnWith_of_components (h : components w = components v ++ b :: rest) :
    GoesOnWith v w b := by
  constructor
  · intro i hi
    rw [componentAt, componentAt, h, List.getD_append _ _ _ _ hi]
  · rw [componentAt, h, List.getD_append_right _ _ _ _ le_rfl, Nat.sub_self]
    rfl

/-- **The class of the next component decides** between two versions that go on from a third. -/
theorem isOlder_of_goesOnWith (hw : GoesOnWith v w b) (hw' : GoesOnWith v w' b')
    (h : b.rank.level < b'.rank.level) : isOlder w w' = true := by
  have hkey : (componentAt w (components v).length).key <
      (componentAt w' (components v).length).key := by
    rw [hw.2, hw'.2, Component.key_lt_iff]
    exact Or.inl h
  refine isOlder_iff.mpr ⟨(components v).length, ⟨?_, ?_⟩, hkey⟩
  · intro i hi
    rw [hw.1 i hi, hw'.1 i hi]
  · intro heq
    exact hkey.ne (congrArg _ heq)

/-! ## Words and numbers behind a digit -/

theorem isAlpha_of_isAlpha_toLower {c : Char} (h : c.toLower.isAlpha = true) :
    c.isAlpha = true := by
  by_cases hupper : c.isUpper = true
  · rw [Char.isAlpha, hupper, Bool.true_or]
  · have hsame : c.toLower = c := by
      simp only [Char.isUpper, decide_eq_true_eq] at hupper
      unfold Char.toLower
      rw [dif_neg hupper]
    rwa [hsame] at h

theorem isWord_of_map_toLower (h : IsWord (k.map Char.toLower)) : IsWord k := by
  obtain ⟨hne, hletters⟩ := h
  refine ⟨by simpa using hne, ?_⟩
  intro c hc
  exact isAlpha_of_isAlpha_toLower (hletters _ (List.mem_map_of_mem hc))

/-- A word behind a digit, with what ends it, goes on with the component of the word. -/
theorem components_append_word (hv : ∃ c ∈ v.getLast?, c.isDigit = true) (hu : IsWord u)
    (ht : ∀ c ∈ t.head?, c.isAlpha = false) :
    components (v ++ u ++ t) = components v ++
      ofLetters u (!startsWithDigits (segments t)) :: ofSegments false (segments t) := by
  have hhead : ∀ d ∈ (u ++ t).head?, d.isDigit = false := by
    obtain ⟨hne, hletters⟩ := hu
    obtain ⟨c, u, rfl⟩ := List.exists_cons_of_ne_nil hne
    rw [List.forall_mem_cons] at hletters
    simpa using isDigit_eq_false_of_isAlpha hletters.1
  rw [List.append_assoc, components_append_of_isDigit hv hhead, segments_letters_append hu ht,
    ofSegments, Bool.true_and]

theorem isWord_of_keyword (hk : k.map Char.toLower ∈ preReleaseWords ++ postReleaseWords) :
    IsWord k := by
  have hwords : ∀ word ∈ preReleaseWords ++ postReleaseWords,
      word ≠ [] ∧ word.all Char.isAlpha = true := by decide +kernel
  obtain ⟨hne, hletters⟩ := hwords _ hk
  rw [List.all_eq_true] at hletters
  exact isWord_of_map_toLower ⟨hne, hletters⟩

theorem goesOnWith_preRelease (hv : ∃ c ∈ v.getLast?, c.isDigit = true)
    (hk : k.map Char.toLower ∈ preReleaseWords) (hx : ∀ c ∈ x.head?, c.isAlpha = false) :
    GoesOnWith v (v ++ k ++ x) (.preRelease k) := by
  have hword := isWord_of_keyword (List.mem_append_left _ hk)
  have hread := components_append_word hv hword hx
  have hletters : ofLetters k (!startsWithDigits (segments x)) = .preRelease k := by
    simp [ofLetters, hk]
  rw [hletters] at hread
  exact goesOnWith_of_components hread

theorem goesOnWith_postRelease (hv : ∃ c ∈ v.getLast?, c.isDigit = true)
    (hq : q.map Char.toLower ∈ postReleaseWords) (hx : ∀ c ∈ x.head?, c.isAlpha = false) :
    GoesOnWith v (v ++ q ++ x) (.postRelease q) := by
  have hword := isWord_of_keyword (List.mem_append_right _ hq)
  have hread := components_append_word hv hword hx
  have hpre : q.map Char.toLower ∉ preReleaseWords := by
    have hdisjoint : ∀ word ∈ postReleaseWords, word ∉ preReleaseWords := by decide
    exact hdisjoint _ hq
  have hletters : ofLetters q (!startsWithDigits (segments x)) = .postRelease q := by
    simp [ofLetters, hpre, hq]
  rw [hletters] at hread
  exact goesOnWith_of_components hread

theorem goesOnWith_letterSuffix (hv : ∃ c ∈ v.getLast?, c.isDigit = true) (hu : IsWord u)
    (hpre : u.map Char.toLower ∉ preReleaseWords) (hpost : u.map Char.toLower ∉ postReleaseWords)
    (hy : ∀ c ∈ y.head?, c.isAlphanum = false) :
    GoesOnWith v (v ++ u ++ y) (.letterSuffix u) := by
  have hdigit : startsWithDigits (segments y) = false :=
    startsWithDigits_segments fun c hc => (isAlphanum_eq_false_iff.mp (hy c hc)).1
  have hread := components_append_word hv hu fun c hc => (isAlphanum_eq_false_iff.mp (hy c hc)).2
  have hletters : ofLetters u (!startsWithDigits (segments y)) = .letterSuffix u := by
    simp [ofLetters, hpre, hpost, hdigit]
  rw [hletters] at hread
  exact goesOnWith_of_components hread

theorem goesOnWith_number (hs : IsGap s) (hn : (Segment.digits n).Formed)
    (hne : ∃ c ∈ n, c ≠ '0') (hx : ∀ c ∈ x.head?, c.isDigit = false) (v : Text) :
    ∃ digits, GoesOnWith v (v ++ s ++ n ++ x) (.number digits) := by
  have hdigits : ∃ digits, ofDigits n = .number digits := by
    unfold ofDigits
    split
    · next hzeros =>
        obtain ⟨c, hc, hc'⟩ := hne
        rw [List.dropWhile_eq_nil_iff] at hzeros
        exact absurd (by simpa using hzeros c hc) hc'
    · exact ⟨_, rfl⟩
  obtain ⟨digits, hdigits⟩ := hdigits
  have hread : components (v ++ s ++ n ++ x) =
      components v ++ .number digits :: ofSegments true (segments x) := by
    rw [List.append_assoc, hs.components_append, ← hdigits]
    congr 1
    rw [components, segments_digits_append hn hx, ofSegments]
  exact ⟨digits, goesOnWith_of_components hread⟩

/-! ## Releases around a version -/

/-- **Around each version that ends in a number stand its releases from old to new**: marked by a
word for an earlier one, the version itself, marked by a word for a later one, with a further number
that is not zero, and with a suffix. Whatever is put behind the mark without changing it does not
matter. -/
theorem pairwise_isOlder_continuations (hv : ∃ c ∈ v.getLast?, c.isDigit = true)
    (hk : k.map Char.toLower ∈ preReleaseWords) (hq : q.map Char.toLower ∈ postReleaseWords)
    (hs : IsGap s) (hn : (Segment.digits n).Formed) (hne : ∃ c ∈ n, c ≠ '0')
    (hu : IsWord u) (hpre : u.map Char.toLower ∉ preReleaseWords)
    (hpost : u.map Char.toLower ∉ postReleaseWords)
    (hx : ∀ c ∈ x.head?, c.isAlpha = false) (hx' : ∀ c ∈ x'.head?, c.isAlpha = false)
    (hx'' : ∀ c ∈ x''.head?, c.isDigit = false) (hy : ∀ c ∈ y.head?, c.isAlphanum = false) :
    [v ++ k ++ x, v, v ++ q ++ x', v ++ s ++ n ++ x'', v ++ u ++ y].Pairwise
      fun older newer => isOlder older newer = true := by
  have hearlier := goesOnWith_preRelease hv hk hx
  have hitself := goesOnWith_zero v
  have hlater := goesOnWith_postRelease hv hq hx'
  obtain ⟨digits, hfurther⟩ := goesOnWith_number hs hn hne hx'' v
  have hsuffix := goesOnWith_letterSuffix hv hu hpre hpost hy
  -- being older is transitive, so neighbours are enough
  have htrans : Trans (fun v w => isOlder v w = true) (fun v w => isOlder v w = true)
      (fun v w => isOlder v w = true) := ⟨isOlder_trans⟩
  rw [← List.isChain_iff_pairwise]
  simp only [List.isChain_cons_cons, List.isChain_singleton, and_true]
  refine ⟨?_, ?_, ?_, ?_⟩
  · apply isOlder_of_goesOnWith hearlier hitself
    simp [Component.rank, Rank.level]
  · apply isOlder_of_goesOnWith hitself hlater
    simp [Component.rank, Rank.level]
  · apply isOlder_of_goesOnWith hlater hfurther
    simp [Component.rank, Rank.level]
  · apply isOlder_of_goesOnWith hfurther hsuffix
    simp [Component.rank, Rank.level]

theorem releases_around_one_zero :
    (∃ c ∈ "1.0".toList.getLast?, c.isDigit = true) ∧
    "RC".toList.map Char.toLower ∈ preReleaseWords ∧
    "Patch".toList.map Char.toLower ∈ postReleaseWords ∧ IsGap "-".toList ∧
    (Segment.digits "01".toList).Formed ∧ (∃ c ∈ "01".toList, c ≠ '0') ∧
    IsWord "a".toList ∧ "a".toList.map Char.toLower ∉ preReleaseWords ∧
    "a".toList.map Char.toLower ∉ postReleaseWords ∧
    (∀ c ∈ "2".toList.head?, c.isAlpha = false) ∧ (∀ c ∈ "b".toList.head?, c.isDigit = false) ∧
    (∀ c ∈ "_9".toList.head?, c.isAlphanum = false) ∧
    ["1.0RC2".toList, "1.0".toList, "1.0Patch2".toList, "1.0-01b".toList, "1.0a_9".toList].Pairwise
      fun older newer => isOlder older newer = true := by
  have hv : ∃ c ∈ "1.0".toList.getLast?, c.isDigit = true := by simp
  have hk : "RC".toList.map Char.toLower ∈ preReleaseWords := by decide +kernel
  have hq : "Patch".toList.map Char.toLower ∈ postReleaseWords := by decide +kernel
  have hs : IsGap "-".toList := by simp [IsGap]
  have hn : (Segment.digits "01".toList).Formed := by simp [Segment.Formed]
  have hne : ∃ c ∈ "01".toList, c ≠ '0' := by simp
  have hu : IsWord "a".toList := by simp [IsWord]
  have hpre : "a".toList.map Char.toLower ∉ preReleaseWords := by decide +kernel
  have hpost : "a".toList.map Char.toLower ∉ postReleaseWords := by decide +kernel
  have hx : ∀ c ∈ "2".toList.head?, c.isAlpha = false := by simp
  have hx'' : ∀ c ∈ "b".toList.head?, c.isDigit = false := by simp
  have hy : ∀ c ∈ "_9".toList.head?, c.isAlphanum = false := by simp
  have hpairwise := pairwise_isOlder_continuations hv hk hq hs hn hne hu hpre hpost hx hx hx'' hy
  exact ⟨hv, hk, hq, hs, hn, hne, hu, hpre, hpost, hx, hx'', hy, by simpa using hpairwise⟩

end Version
end DistroBallot
