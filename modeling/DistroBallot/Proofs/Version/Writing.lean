import DistroBallot.Proofs.Version.Comparison
import Mathlib

/-!
# Versions written from components

Which lists of components are those of a version is said by the components alone (`WellFormed`): the
digits of a number do not start with zero, a word has the class that its keyword gives it, and a
suffix stands right after a number. Such a list can be written (`write`), with points between its
components and a suffix right at its number, and reading gives it back.

Both directions are inductions that keep in view which component stands before the rest. Reading
keeps only whether that is a number, and this is all that the class of a word depends on.
-/

namespace DistroBallot

/-! ## Well-formed components -/

namespace Component

/-- A word is made of letters, at least one. -/
def IsWord (w : Text) : Prop := w ≠ [] ∧ ∀ c ∈ w, c.isAlpha = true

/-- What a component can hold, by its class. -/
def Formed : Component → Prop
  | .preRelease w => IsWord w ∧ w.map Char.toLower ∉ Version.postReleaseWords
  | .zero => True
  | .postRelease w => IsWord w ∧ w.map Char.toLower ∈ Version.postReleaseWords
  | .number d => d ≠ [] ∧ (∀ c ∈ d, c.isDigit = true) ∧ d.head? ≠ some '0'
  | .letterSuffix w => IsWord w ∧ w.map Char.toLower ∉ Version.preReleaseWords ∧
      w.map Char.toLower ∉ Version.postReleaseWords

/-- Whether a component is a number, which may be zero. -/
def isNumeric : Component → Bool
  | .zero => true
  | .number _ => true
  | _ => false

/-- A component may stand right after another one: a suffix only after a number. -/
def MayFollow (a b : Component) : Prop := b.rank = .letterSuffix → a.isNumeric = true

/-- The text of a component. -/
def text : Component → Text
  | .preRelease w => w
  | .zero => ['0']
  | .postRelease w => w
  | .number d => d
  | .letterSuffix w => w

/-- The text of a component behind another one. -/
def textBehind (a : Component) : Text :=
  if a.rank = .letterSuffix then a.text else '.' :: a.text

end Component

namespace Version

open Component (IsWord MayFollow)

/-- The lists of components that versions have. -/
structure WellFormed (as : List Component) : Prop where
  formed : ∀ a ∈ as, a.Formed
  attached : as.IsChain MayFollow
  /-- A suffix does not come first. -/
  head : ∀ a ∈ as.head?, a.rank ≠ .letterSuffix

/-- The components as a version: points between them, and suffixes right at their numbers. -/
def write : List Component → Text
  | [] => []
  | a :: rest => a.text ++ rest.flatMap Component.textBehind

variable {c d : Char} {run t : Text} {a b : Component} {rest : List Component}

/-! ## The segments of what is written -/

theorem isDigit_eq_false_of_isAlpha (h : c.isAlpha = true) : c.isDigit = false := by
  simp only [Char.isAlpha, Char.isUpper, Char.isLower, Char.isDigit, Bool.or_eq_true,
    Bool.and_eq_true, Bool.and_eq_false_iff, decide_eq_true_eq, decide_eq_false_iff_not,
    UInt32.le_iff_toNat_le] at h ⊢
  have hzero : '0'.val.toNat = 48 := rfl
  simp at h ⊢
  omega

/-- A segment goes on with a character of its kind. -/
def Segment.Holds (c : Char) : Segment → Prop
  | .gap => c.isDigit = false ∧ c.isAlpha = false
  | .digits _ => c.isDigit = true
  | .letters _ => c.isAlpha = true

theorem exists_segments_cons (c : Char) (t : Text) :
    ∃ s rest, segments (c :: t) = s :: rest ∧ s.Holds c := by
  rw [segments_cons]
  unfold pushChar
  by_cases hdigit : c.isDigit = true
  · rw [if_pos hdigit]
    split <;> exact ⟨_, _, rfl, hdigit⟩
  · rw [if_neg hdigit]
    rw [Bool.not_eq_true] at hdigit
    by_cases hletter : c.isAlpha = true
    · rw [if_pos hletter]
      split <;> exact ⟨_, _, rfl, hletter⟩
    · rw [if_neg hletter]
      rw [Bool.not_eq_true] at hletter
      split <;> exact ⟨_, _, rfl, hdigit, hletter⟩

/-- The first segment holds the first character. -/
theorem holds_of_segments_eq_cons {s : Segment} {parts : List Segment}
    (h : segments t = s :: parts) : ∃ d ∈ t.head?, s.Holds d := by
  cases t with
  | nil => cases h
  | cons d t =>
      obtain ⟨first, others, hfirst, hd⟩ := exists_segments_cons d t
      rw [hfirst] at h
      obtain rfl : first = s := (List.cons.inj h).1
      exact ⟨d, rfl, hd⟩

/-- Two characters that no segment holds both of. -/
def Parted (c d : Char) : Prop := c.isDigit ≠ d.isDigit ∨ c.isAlpha ≠ d.isAlpha

theorem isAlpha_eq_false_of_isDigit (h : c.isDigit = true) : c.isAlpha = false := by
  by_contra hc
  rw [Bool.not_eq_false] at hc
  rw [isDigit_eq_false_of_isAlpha hc] at h
  cases h

/-- In front of a segment that does not go on with it a character has a segment of its own. -/
theorem pushChar_of_parted (h : ∀ d ∈ t.head?, Parted c d) :
    pushChar c (segments t) = pushChar c [] ++ segments t := by
  cases t with
  | nil => simp
  | cons d t =>
      obtain ⟨first, rest, hsegments, hholds⟩ := exists_segments_cons d t
      have hparted : Parted c d := h d rfl
      unfold Parted at hparted
      rw [hsegments]
      unfold pushChar
      cases first with
      | gap => split_ifs <;> simp_all [Segment.Holds]
      | digits run => split_ifs <;> simp_all [Segment.Holds, isAlpha_eq_false_of_isDigit]
      | letters run => split_ifs <;> simp_all [Segment.Holds, isDigit_eq_false_of_isAlpha]

theorem pushChar_digit (hc : c.isDigit = true) (ht : ∀ d ∈ t.head?, d.isDigit = false) :
    pushChar c (segments t) = .digits [c] :: segments t := by
  have hparted : ∀ d ∈ t.head?, Parted c d := by
    intro d hd
    exact Or.inl (by rw [hc, ht d hd]; decide)
  rw [pushChar_of_parted hparted]
  simp [pushChar, hc]

theorem pushChar_letter (hc : c.isAlpha = true) (ht : ∀ d ∈ t.head?, d.isAlpha = false) :
    pushChar c (segments t) = .letters [c] :: segments t := by
  have hparted : ∀ d ∈ t.head?, Parted c d := by
    intro d hd
    exact Or.inr (by rw [hc, ht d hd]; decide)
  rw [pushChar_of_parted hparted]
  simp [pushChar, hc, isDigit_eq_false_of_isAlpha hc]

theorem isAlphanum_eq_false_iff :
    c.isAlphanum = false ↔ c.isDigit = false ∧ c.isAlpha = false := by
  rw [Char.isAlphanum, Bool.or_eq_false_iff, and_comm]

/-- A separator starts a gap, and what stands behind it is read on its own. -/
theorem exists_segments_cons_separator (hc : c.isAlphanum = false) (b : Text) :
    ∃ rest, segments (c :: b) = .gap :: rest ∧ ofSegments false rest = components b := by
  obtain ⟨hdigit, hletter⟩ := isAlphanum_eq_false_iff.mp hc
  rw [segments_cons]
  unfold pushChar
  rw [if_neg (by simp [hdigit]), if_neg (by simp [hletter])]
  split
  · next rest hb => exact ⟨rest, rfl, by rw [components, hb, ofSegments]⟩
  · exact ⟨segments b, rfl, rfl⟩

theorem startsWithDigits_segments (ht : ∀ d ∈ t.head?, d.isDigit = false) :
    startsWithDigits (segments t) = false := by
  unfold startsWithDigits
  split
  · next run rest h =>
      obtain ⟨d, hd, hdigit⟩ := holds_of_segments_eq_cons h
      rw [Segment.Holds, ht d hd] at hdigit
      cases hdigit
  · rfl

/-- A run of digits that no digit follows is a segment. -/
theorem segments_digits_append (hrun : (Segment.digits run).Formed)
    (ht : ∀ d ∈ t.head?, d.isDigit = false) :
    segments (run ++ t) = .digits run :: segments t := by
  obtain ⟨hne, hdigits⟩ := hrun
  induction run with
  | nil => exact absurd rfl hne
  | cons c run ih =>
      rw [List.forall_mem_cons] at hdigits
      cases run with
      | nil => exact pushChar_digit hdigits.1 ht
      | cons d run =>
          rw [List.cons_append, segments_cons, ih (List.cons_ne_nil d run) hdigits.2]
          simp [pushChar, hdigits.1]

/-- A run of letters that no letter follows is a segment. -/
theorem segments_letters_append (hrun : IsWord run) (ht : ∀ d ∈ t.head?, d.isAlpha = false) :
    segments (run ++ t) = .letters run :: segments t := by
  obtain ⟨hne, hletters⟩ := hrun
  induction run with
  | nil => exact absurd rfl hne
  | cons c run ih =>
      rw [List.forall_mem_cons] at hletters
      have hdigit := isDigit_eq_false_of_isAlpha hletters.1
      cases run with
      | nil => exact pushChar_letter hletters.1 ht
      | cons d run =>
          rw [List.cons_append, segments_cons, ih (List.cons_ne_nil d run) hletters.2]
          simp [pushChar, hletters.1, hdigit]

/-! ## Reading what is written -/

theorem ofDigits_of_formed (h : (Component.number run).Formed) : ofDigits run = .number run := by
  obtain ⟨hne, -, hhead⟩ := h
  cases run with
  | nil => exact absurd rfl hne
  | cons c run =>
      have hc : (c == '0') = false := by simpa using hhead
      simp [ofDigits, hc]

/-- A component that is no suffix is read off its text, when what follows does not lengthen it. -/
theorem ofSegments_text_append (ha : a.Formed) (hrank : a.rank ≠ .letterSuffix)
    (hdigit : ∀ d ∈ t.head?, d.isDigit = false)
    (hletter : a.isNumeric = false → ∀ d ∈ t.head?, d.isAlpha = false) :
    ofSegments false (segments (a.text ++ t)) = a :: ofSegments a.isNumeric (segments t) := by
  cases a with
  | zero =>
      have hzero : (Segment.digits ['0']).Formed := ⟨List.cons_ne_nil _ _, by simp⟩
      rw [Component.text, segments_digits_append hzero hdigit]
      rfl
  | number digits =>
      rw [Component.text, segments_digits_append ⟨ha.1, ha.2.1⟩ hdigit, ofSegments,
        ofDigits_of_formed ha]
      rfl
  | preRelease w =>
      obtain ⟨hw, hpost⟩ := ha
      rw [Component.text, segments_letters_append hw (hletter rfl), ofSegments]
      simp [ofLetters, hpost, Component.isNumeric]
  | postRelease w =>
      obtain ⟨hw, hpost⟩ := ha
      have hpre : w.map Char.toLower ∉ preReleaseWords := by
        have hdisjoint : ∀ k ∈ postReleaseWords, k ∉ preReleaseWords := by decide
        exact hdisjoint _ hpost
      rw [Component.text, segments_letters_append hw (hletter rfl), ofSegments]
      simp [ofLetters, hpost, hpre, Component.isNumeric]
  | letterSuffix w => exact absurd rfl hrank

/-- What is written behind a component starts with a point or with the letters of a suffix. -/
theorem head_flatMap_textBehind (hrest : ∀ b ∈ rest, b.Formed) :
    ∀ d ∈ (rest.flatMap Component.textBehind).head?, d.isDigit = false := by
  intro d hd
  cases rest with
  | nil => cases hd
  | cons b rest =>
      rw [List.flatMap_cons, Component.textBehind] at hd
      split at hd
      · next hrank =>
          have hb := hrest b List.mem_cons_self
          cases b with
          | letterSuffix w =>
              obtain ⟨hne, hletters⟩ := hb.1
              cases w with
              | nil => exact absurd rfl hne
              | cons e w =>
                  obtain rfl : e = d := by simpa [Component.text] using hd
                  exact isDigit_eq_false_of_isAlpha (hletters e List.mem_cons_self)
          | _ => cases hrank
      · obtain rfl : '.' = d := by simpa using hd
        rfl

theorem head_flatMap_textBehind_of_mayFollow (ha : a.isNumeric = false)
    (hchain : (a :: rest).IsChain MayFollow) :
    ∀ d ∈ (rest.flatMap Component.textBehind).head?, d.isAlpha = false := by
  intro d hd
  cases rest with
  | nil => cases hd
  | cons b rest =>
      have hrank : b.rank ≠ .letterSuffix := by
        intro hrank
        have hnumeric := (List.isChain_cons_cons.mp hchain).1 hrank
        rw [ha] at hnumeric
        cases hnumeric
      rw [List.flatMap_cons, Component.textBehind, if_neg hrank] at hd
      obtain rfl : '.' = d := by simpa using hd
      rfl

/-- Reading what is written behind a component needs to know of it whether it is a number. -/
theorem ofSegments_flatMap_textBehind (hrest : ∀ b ∈ rest, b.Formed)
    (hchain : (a :: rest).IsChain MayFollow) :
    ofSegments a.isNumeric (segments (rest.flatMap Component.textBehind)) = rest := by
  induction rest generalizing a with
  | nil => rfl
  | cons b rest ih =>
      obtain ⟨hfollow, hchain⟩ := List.isChain_cons_cons.mp hchain
      rw [List.forall_mem_cons] at hrest
      have hread := ih hrest.2 hchain
      have hdigit := head_flatMap_textBehind hrest.2
      rw [List.flatMap_cons, Component.textBehind]
      by_cases hrank : b.rank = .letterSuffix
      · cases b with
        | letterSuffix w =>
            obtain ⟨hw, hpre, hpost⟩ := hrest.1
            have hletter := head_flatMap_textBehind_of_mayFollow rfl hchain
            have hsuffix : ofLetters w true = .letterSuffix w := by simp [ofLetters, hpre, hpost]
            rw [if_pos hrank, Component.text, segments_letters_append hw hletter, ofSegments,
              hfollow rfl, startsWithDigits_segments hdigit]
            exact congrArg₂ List.cons hsuffix hread
        | _ => cases hrank
      · have hletter : b.isNumeric = false → ∀ d ∈ (rest.flatMap Component.textBehind).head?,
            d.isAlpha = false := fun hb => head_flatMap_textBehind_of_mayFollow hb hchain
        obtain ⟨parts, hpoint, hparts⟩ := exists_segments_cons_separator (c := '.') rfl
          (b.text ++ rest.flatMap Component.textBehind)
        rw [if_neg hrank, List.cons_append, hpoint, ofSegments, hparts, components,
          ofSegments_text_append hrest.1 hrank hdigit hletter, hread]

/-- **Reading gives back what was written.** -/
theorem WellFormed.components_write {as : List Component} (h : WellFormed as) :
    components (write as) = as := by
  obtain ⟨hformed, hchain, hhead⟩ := h
  cases as with
  | nil => rfl
  | cons a rest =>
      rw [List.forall_mem_cons] at hformed
      have hdigit := head_flatMap_textBehind hformed.2
      rw [components, write, ofSegments_text_append hformed.1 (hhead a rfl) hdigit fun ha =>
        head_flatMap_textBehind_of_mayFollow ha hchain,
        ofSegments_flatMap_textBehind hformed.2 hchain]

/-! ## What is read is well-formed -/

theorem formed_ofDigits (h : (Segment.digits run).Formed) : (ofDigits run).Formed := by
  unfold ofDigits
  split
  · trivial
  · next hdigits =>
      refine ⟨hdigits, fun c hc => ?_, ?_⟩
      · exact h.2 c (List.dropWhile_subset _ hc)
      · have hfirst := List.head?_dropWhile_not (· == '0') run
        intro hzero
        rw [hzero] at hfirst
        simp at hfirst

theorem formed_ofLetters (h : IsWord run) (suffix : Bool) : (ofLetters run suffix).Formed := by
  have hdisjoint : ∀ k ∈ preReleaseWords, k ∉ postReleaseWords := by decide
  simp only [ofLetters, List.contains_iff_mem]
  split_ifs with hpre hpost hsuffix
  · exact ⟨h, hdisjoint _ hpre⟩
  · exact ⟨h, hpost⟩
  · exact ⟨h, hpre, hpost⟩
  · exact ⟨h, hpost⟩

theorem formed_of_mem_ofSegments {afterNumber : Bool} {parts : List Segment}
    (h : ∀ s ∈ parts, s.Formed) : ∀ a ∈ ofSegments afterNumber parts, a.Formed := by
  induction parts generalizing afterNumber with
  | nil => simp [ofSegments]
  | cons s parts ih =>
      rw [List.forall_mem_cons] at h
      cases s with
      | gap => exact ih h.2
      | digits run => exact List.forall_mem_cons.mpr ⟨formed_ofDigits h.1, ih h.2⟩
      | letters run => exact List.forall_mem_cons.mpr ⟨formed_ofLetters h.1 _, ih h.2⟩

theorem isNumeric_ofDigits (run : Text) : (ofDigits run).isNumeric = true := by
  unfold ofDigits
  split <;> rfl

theorem suffix_of_rank_ofLetters {suffix : Bool}
    (h : (ofLetters run suffix).rank = .letterSuffix) : suffix = true := by
  simp only [ofLetters] at h
  split_ifs at h with hpre hpost hsuffix
  · cases h
  · cases h
  · exact hsuffix
  · cases h

/-- A suffix is read only where a number stands before it. -/
theorem isChain_ofSegments {afterNumber : Bool} (ha : afterNumber = true → a.isNumeric = true)
    (parts : List Segment) : (a :: ofSegments afterNumber parts).IsChain MayFollow := by
  induction parts generalizing a afterNumber with
  | nil => exact List.isChain_singleton a
  | cons s parts ih =>
      cases s with
      | gap => exact ih (by simp)
      | digits run =>
          have hfollow : MayFollow a (ofDigits run) := by
            intro hrank
            have hnumeric := isNumeric_ofDigits run
            cases h : ofDigits run <;> simp_all [Component.rank, Component.isNumeric]
          exact List.isChain_cons_cons.mpr ⟨hfollow, ih fun _ => isNumeric_ofDigits run⟩
      | letters run =>
          have hfollow :
              MayFollow a (ofLetters run (afterNumber && !startsWithDigits parts)) := by
            intro hrank
            have hsuffix := suffix_of_rank_ofLetters hrank
            exact ha (Bool.and_eq_true_iff.mp hsuffix).1
          exact List.isChain_cons_cons.mpr ⟨hfollow, ih (by simp)⟩

theorem wellFormed_components (v : Text) : WellFormed (components v) := by
  -- before the first component stands no number, as if it were a word
  have hchain : (Component.preRelease [] :: components v).IsChain MayFollow :=
    isChain_ofSegments (by simp) (segments v)
  refine ⟨formed_of_mem_ofSegments formed_of_mem_segments, hchain.tail, ?_⟩
  intro a hfirst hrank
  obtain ⟨rest, hrest⟩ : ∃ rest, components v = a :: rest := by
    cases h : components v with
    | nil => simp [h] at hfirst
    | cons b rest => exact ⟨rest, by simpa [h] using hfirst⟩
  rw [hrest] at hchain
  exact Bool.false_ne_true ((List.isChain_cons_cons.mp hchain).1 hrank)

/-- **The components of versions are the well-formed lists, and writing them is undone by
reading.** So a version may be rewritten with one component after the other without a change to
them. -/
theorem exists_components_iff_wellFormed_and_components_write :
    (∀ as, (∃ v, components v = as) ↔ WellFormed as) ∧
    (∀ as, WellFormed as → components (write as) = as) ∧
    ∀ v, components (write (components v)) = components v := by
  refine ⟨fun as => ⟨?_, ?_⟩, fun as => WellFormed.components_write, fun v => ?_⟩
  · rintro ⟨v, rfl⟩
    exact wellFormed_components v
  · exact fun h => ⟨write as, h.components_write⟩
  · exact (wellFormed_components v).components_write

-- the word after `02` is a suffix, and the keyword after `1` is none
example : write (components "v1-RC.02b".toList) = "v.1.RC.2b".toList := by
  decide +kernel

end Version
end DistroBallot
