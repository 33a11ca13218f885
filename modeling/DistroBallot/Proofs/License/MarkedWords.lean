import DistroBallot.License.Marker
import DistroBallot.Proofs.Text.Lines
import DistroBallot.Proofs.Text.LetterCase
import Mathlib

/-!
# Marked words

A marker is found by a search over all places of a text: its letters stand there without regard to
case, and nothing that is part of words touches them (`Marker.occursIn_iff_stands`). The maximal runs
of a class of characters are just the stretches of such characters that no other one touches
(`Text.mem_runs_iff`). Since every character that counts as a letter of the marker is itself part of
words, what the search finds is a whole run, and the search over places comes down to reading the
text word by word (`Marker.occursIn_iff_exists_run`).

So a text that is not blank is free just when none of its words is the marked one, and two texts
with a separating character between them are free just when both are
(`admits_iff_no_marked_word_and_at_separators`).
-/

namespace DistroBallot

namespace Text

variable {p : Char → Bool} {t u word before after : Text}

/-! ## Maximal runs -/

/-- No character of the class stands next to the gap between the two texts. -/
structure Untouched (p : Char → Bool) (before after : Text) : Prop where
  left : ∀ c ∈ before.getLast?, p c = false
  right : ∀ c ∈ after.head?, p c = false

/-- The first piece goes up to the first character outside the class, and the others are those of
what stands behind it. -/
theorem pieces_eq (p : Char → Bool) (t : Text) : pieces p t = t.takeWhile p ::
    (match t.dropWhile p with
      | [] => []
      | _ :: rest => pieces p rest) := by
  induction t with
  | nil => rfl
  | cons c t ih =>
      cases hc : p c with
      | true =>
          rw [pieces, if_pos hc, ih, List.takeWhile_cons_of_pos hc, List.dropWhile_cons_of_pos hc]
          rfl
      | false =>
          have hc' : ¬p c = true := by simp [hc]
          rw [pieces, if_neg hc', List.takeWhile_cons_of_neg hc', List.dropWhile_cons_of_neg hc']

theorem head_dropWhile (p : Char → Bool) (t : Text) :
    ∀ c ∈ (t.dropWhile p).head?, p c = false := by
  intro c hc
  have hnot := List.head?_dropWhile_not p t
  rw [Option.mem_def.mp hc] at hnot
  simpa using hnot

/-- The pieces of a text are its stretches within the class that the class does not touch. -/
theorem mem_pieces_iff : word ∈ pieces p t ↔ (∀ c ∈ word, p c = true) ∧
    ∃ before after, t = before ++ word ++ after ∧ Untouched p before after := by
  constructor
  · intro h
    -- the pieces behind the first one are those of a shorter text
    induction hlength : t.length using Nat.strongRecOn generalizing t with
    | _ n ih =>
        rw [pieces_eq] at h
        have hsplit := List.takeWhile_append_dropWhile (p := p) (l := t)
        have hhead := head_dropWhile p t
        rcases List.mem_cons.mp h with rfl | h
        · refine ⟨fun c hc => List.mem_takeWhile_imp hc, [], t.dropWhile p, ?_, ?_, hhead⟩
          · rw [List.nil_append, hsplit]
          · intro c hc
            cases hc
        · cases hdrop : t.dropWhile p with
          | nil =>
              rw [hdrop] at h
              cases h
          | cons d rest =>
              rw [hdrop] at h hsplit hhead
              have hshorter : rest.length < n := by
                rw [← hlength, ← hsplit, List.length_append, List.length_cons]
                omega
              obtain ⟨hclass, before, after, hrest, huntouched⟩ := ih _ hshorter h rfl
              refine ⟨hclass, t.takeWhile p ++ d :: before, after, ?_, ?_, huntouched.right⟩
              · rw [hrest] at hsplit
                simpa using hsplit.symm
              · intro c hc
                rw [List.getLast?_append_of_ne_nil _ (List.cons_ne_nil d before),
                  List.getLast?_cons] at hc
                cases hlast : before.getLast? with
                | none =>
                    rw [hlast] at hc
                    obtain rfl : d = c := Option.some.inj hc
                    exact hhead d rfl
                | some e =>
                    rw [hlast] at hc
                    obtain rfl : e = c := Option.some.inj hc
                    exact huntouched.left e hlast
  · rintro ⟨hclass, before, after, rfl, huntouched⟩
    have hright : word ∈ pieces p (word ++ after) := by
      cases after with
      | nil =>
          rw [List.append_nil, pieces_of_all hclass]
          exact List.mem_singleton_self word
      | cons d after =>
          rw [pieces_append_cons (huntouched.right d rfl), pieces_of_all hclass]
          exact List.mem_append_left _ (List.mem_singleton_self word)
    rw [List.append_assoc]
    rcases List.eq_nil_or_concat before with rfl | ⟨front, d, rfl⟩
    · exact hright
    · rw [List.concat_append, pieces_append_cons (huntouched.left d (by simp))]
      exact List.mem_append_right _ hright

/-- **The runs of a text are its maximal stretches of characters in the class.** -/
theorem mem_runs_iff : word ∈ runs p t ↔ word ≠ [] ∧ (∀ c ∈ word, p c = true) ∧
    ∃ before after, t = before ++ word ++ after ∧ Untouched p before after := by
  rw [runs, List.mem_filter, mem_pieces_iff, and_comm]
  simp

/-! ## Words without regard to case -/

/-- The same without regard to case. -/
def SameLetters (t u : Text) : Prop := t.map caseless = u.map caseless

instance (t u : Text) : Decidable (SameLetters t u) :=
  inferInstanceAs (Decidable (_ = _))

/-- All characters of the text are ASCII ones, and none is the character zero. -/
def IsAscii (t : Text) : Prop := ∀ c ∈ t, c.toNat < 128 ∧ 0 < c.toNat

instance (t : Text) : Decidable t.IsAscii :=
  List.decidableBAll (fun c : Char => c.toNat < 128 ∧ 0 < c.toNat) t

end Text

open Text

namespace License

variable {t a b : Text} {c m : Char}

theorem foldedLetter_of_ascii (hc : c.toNat < 128) : foldedLetter c = c.toLower :=
  forall_ascii (P := fun c => foldedLetter c = c.toLower) (by decide) hc

theorem foldedLetter_of_stray {u : Char} (h : (c, u) ∈ strayLetters) :
    foldedLetter c = u.toLower := by
  have hall : ∀ pair ∈ strayLetters, foldedLetter pair.1 = pair.2.toLower := by decide
  exact hall (c, u) h

/-- The characters beyond ASCII that are folded to an ASCII one. -/
theorem mem_strayLetters_of_foldedLetter (hc : ¬c.toNat < 128) (h : (foldedLetter c).toNat < 128) :
    (c, (foldedLetter c).toUpper) ∈ strayLetters := by
  unfold foldedLetter at *
  split
  · next hi =>
      rcases Bool.or_eq_true_iff.mp hi with hi | hi
      · rw [beq_iff_eq.mp hi]
        decide
      · rw [beq_iff_eq.mp hi]
        decide
  · next hi =>
      rw [if_neg hi] at h
      split
      · next hs =>
          rw [beq_iff_eq.mp hs]
          decide
      · next hs =>
          rw [if_neg hs] at h
          split
          · next hk =>
              rw [eq_ofNat_of_toNat (beq_iff_eq.mp hk)]
              decide
          · next hk =>
              rw [if_neg hk] at h
              have hsame : c.toLower = c := by
                unfold Char.toLower
                rw [dif_neg]
                rintro ⟨-, hlast⟩
                have hZ : c.toNat ≤ 90 := hlast
                omega
              rw [hsame] at h
              exact absurd h hc

/-- **A letter of a marker stands for the characters that are the same without regard to case.** -/
theorem foldedLetter_eq_iff (hm : m.toNat < 128) (hpos : 0 < m.toNat) :
    foldedLetter c = foldedLetter m ↔ caseless c = caseless m := by
  -- an ASCII character is told by its small letter as well as by the capital of that
  have hlaws : m.toLower.toUpper.toNat < 128 ∧ (0 < m.toNat → 0 < m.toLower.toUpper.toNat) ∧
      m.toLower.toNat < 128 ∧ m.toLower.toUpper.toLower = m.toLower :=
    forall_ascii (P := fun m => m.toLower.toUpper.toNat < 128 ∧
      (0 < m.toNat → 0 < m.toLower.toUpper.toNat) ∧ m.toLower.toNat < 128 ∧
      m.toLower.toUpper.toLower = m.toLower) (by decide) hm
  obtain ⟨hupper, hupperpos, hlower, hback⟩ := hlaws
  rw [foldedLetter_of_ascii hm, caseless_of_ascii hm,
    caseless_eq_singleton_iff hupper (hupperpos hpos)]
  split
  · next hc =>
      have hback' : c.toLower.toUpper.toLower = c.toLower :=
        forall_ascii (P := fun c => c.toLower.toUpper.toLower = c.toLower) (by decide) hc
      rw [foldedLetter_of_ascii hc]
      constructor
      · intro h
        rw [h]
      · intro h
        rw [← hback', h, hback]
  · next hc =>
      constructor
      · intro h
        rw [← h]
        exact mem_strayLetters_of_foldedLetter hc (h ▸ hlower)
      · intro h
        rw [foldedLetter_of_stray h, hback]

theorem sameLetters_iff {word letters : Text} (h : letters.IsAscii) :
    word.SameLetters letters ↔ word.map foldedLetter = letters.map foldedLetter := by
  induction letters generalizing word with
  | nil => simp [SameLetters]
  | cons m letters ih =>
      cases word with
      | nil => simp [SameLetters]
      | cons c word =>
          obtain ⟨hm, hpos⟩ := h m List.mem_cons_self
          have hrest : Text.SameLetters word letters ↔
              word.map foldedLetter = letters.map foldedLetter :=
            ih fun d hd => h d (List.mem_cons_of_mem m hd)
          rw [SameLetters] at hrest ⊢
          simp only [List.map_cons, List.cons.injEq, hrest, foldedLetter_eq_iff hm hpos]

namespace Marker

variable {marker : Marker}

/-! ## The search -/

theorem standsAt_iff {touches : Char → Bool} {letters : Text} : standsAt touches letters t = true ↔
    ∃ word after, t = word ++ after ∧ word.map foldedLetter = letters ∧
      ∀ c ∈ after.head?, touches c = false := by
  induction letters generalizing t with
  | nil =>
      cases t with
      | nil => simp [standsAt]
      | cons c rest =>
          simp only [standsAt, List.map_eq_nil_iff]
          constructor
          · intro h
            exact ⟨[], c :: rest, rfl, rfl, by simpa using h⟩
          · rintro ⟨word, after, hsplit, rfl, hafter⟩
            rw [List.nil_append] at hsplit
            subst hsplit
            simpa using hafter
  | cons m letters ih =>
      cases t with
      | nil => simp [standsAt]
      | cons c rest =>
          rw [standsAt, Bool.and_eq_true, beq_iff_eq, ih]
          constructor
          · rintro ⟨hm, word, after, rfl, rfl, hafter⟩
            exact ⟨c :: word, after, rfl, by rw [List.map_cons, hm], hafter⟩
          · rintro ⟨word, after, hsplit, hletters, hafter⟩
            cases word with
            | nil => cases hletters
            | cons d word =>
                obtain ⟨rfl, rfl⟩ := List.cons.inj hsplit
                obtain ⟨hm, hletters⟩ := List.cons.inj hletters
                exact ⟨hm, word, after, rfl, hletters, hafter⟩

theorem occursFrom_iff (hne : marker.letters ≠ []) {touched : Bool} :
    marker.occursFrom touched t = true ↔ ∃ before word after, t = before ++ word ++ after ∧
      word.map foldedLetter = marker.letters ∧
      (before.getLast?.map marker.touches).getD touched = false ∧
      ∀ c ∈ after.head?, marker.touches c = false := by
  induction t generalizing touched with
  | nil =>
      rw [occursFrom]
      constructor
      · rintro ⟨⟩
      · rintro ⟨before, word, after, hsplit, hletters, -⟩
        obtain rfl : word = [] := by simp_all
        exact absurd hletters.symm hne
  | cons c rest ih =>
      rw [occursFrom, Bool.or_eq_true, Bool.and_eq_true, Bool.not_eq_true', standsAt_iff, ih]
      constructor
      · rintro (⟨htouched, word, after, hsplit, hletters, hafter⟩ |
          ⟨before, word, after, rfl, hletters, hbefore, hafter⟩)
        · exact ⟨[], word, after, hsplit, hletters, htouched, hafter⟩
        · refine ⟨c :: before, word, after, rfl, hletters, ?_, hafter⟩
          rw [List.getLast?_cons]
          cases hlast : before.getLast? <;> simpa [hlast] using hbefore
      · rintro ⟨before, word, after, hsplit, hletters, hbefore, hafter⟩
        cases before with
        | nil => exact .inl ⟨hbefore, word, after, hsplit, hletters, hafter⟩
        | cons d before =>
            obtain ⟨rfl, rfl⟩ := List.cons.inj hsplit
            refine .inr ⟨before, word, after, rfl, hletters, ?_, hafter⟩
            rw [List.getLast?_cons] at hbefore
            cases hlast : before.getLast? <;> simpa [hlast] using hbefore

/-- **The search goes over all places of the text.** -/
theorem occursIn_iff_stands (hne : marker.letters ≠ []) : marker.occursIn t = true ↔
    ∃ before word after, t = before ++ word ++ after ∧
      word.map foldedLetter = marker.letters ∧ Untouched marker.touches before after := by
  rw [occursIn, occursFrom_iff hne]
  have hleft : ∀ before : Text, (before.getLast?.map marker.touches).getD false = false ↔
      ∀ c ∈ before.getLast?, marker.touches c = false := by
    intro before
    cases before.getLast? <;> simp
  constructor
  · rintro ⟨before, word, after, hsplit, hletters, hbefore, hafter⟩
    exact ⟨before, word, after, hsplit, hletters, (hleft before).mp hbefore, hafter⟩
  · rintro ⟨before, word, after, hsplit, hletters, hbefore, hafter⟩
    exact ⟨before, word, after, hsplit, hletters, (hleft before).mpr hbefore, hafter⟩

/-! ## Words in the place of places -/

/-- The marker has letters, and what counts as one of them is part of words. -/
structure Solid (marker : Marker) : Prop where
  ne_nil : marker.letters ≠ []
  touches : ∀ c, foldedLetter c ∈ marker.letters → marker.touches c = true

/-- **The search finds a whole run.** -/
theorem Solid.occursIn_iff_exists_run (h : marker.Solid) : marker.occursIn t = true ↔
    ∃ word ∈ runs marker.touches t, word.map foldedLetter = marker.letters := by
  rw [occursIn_iff_stands h.ne_nil]
  constructor
  · rintro ⟨before, word, after, hsplit, hletters, huntouched⟩
    refine ⟨word, mem_runs_iff.mpr ⟨?_, ?_, before, after, hsplit, huntouched⟩, hletters⟩
    · rintro rfl
      exact h.ne_nil hletters.symm
    · intro c hc
      exact h.touches c (hletters ▸ List.mem_map_of_mem hc)
  · rintro ⟨word, hword, hletters⟩
    obtain ⟨-, -, before, after, hsplit, huntouched⟩ := mem_runs_iff.mp hword
    exact ⟨before, word, after, hsplit, hletters, huntouched⟩

theorem admits_some_iff : marker.admits (some t) = true ↔
    t.isBlankText = false ∧ marker.occursIn t = false := by
  simp [admits]

/-- A text is free if it is not blank and no word of it is the marker. -/
theorem Solid.admits_iff (h : marker.Solid) {letters : Text} (hascii : letters.IsAscii)
    (hletters : letters.map foldedLetter = marker.letters) : marker.admits (some t) = true ↔
      t.isBlankText = false ∧ ∀ word ∈ runs marker.touches t, ¬word.SameLetters letters := by
  rw [admits_some_iff, ← Bool.not_eq_true (marker.occursIn t), h.occursIn_iff_exists_run]
  simp only [not_exists, not_and, sameLetters_iff hascii, hletters]

/-- **What touches no word keeps the words of two texts apart.** -/
theorem Solid.admits_append_cons (h : marker.Solid) {c : Char} (hc : marker.touches c = false)
    (ha : a.isBlankText = false) (hb : b.isBlankText = false) :
    marker.admits (some (a ++ c :: b)) = true ↔
      marker.admits (some a) = true ∧ marker.admits (some b) = true := by
  have hab : Text.isBlankText (a ++ c :: b) = false := by
    rw [isBlankText, List.all_append, ← isBlankText, ha, Bool.false_and]
  simp only [admits_some_iff, ← Bool.not_eq_true (marker.occursIn _), h.occursIn_iff_exists_run,
    runs_append_cons hc, List.mem_append, ha, hb, hab]
  simp only [true_and, not_exists, not_and, or_imp, forall_and]

/-! ## The markers of the reference repositories -/

theorem solid_of_ascii {letters : Text} {touches : Char → Bool} (hne : letters ≠ [])
    (hascii : letters.IsAscii)
    (hchars : ∀ n < 128, (Char.ofNat n).toLower ∈ letters → touches (Char.ofNat n) = true)
    (hstray : ∀ pair ∈ strayLetters, touches pair.1 = true) : Solid ⟨letters, touches⟩ where
  ne_nil := hne
  touches c hc := by
    by_cases h : c.toNat < 128
    · rw [foldedLetter_of_ascii h] at hc
      exact forall_ascii (P := fun c => c.toLower ∈ letters → touches c = true) hchars h hc
    · exact hstray _ (mem_strayLetters_of_foldedLetter h (hascii _ hc).1)

theorem solid_arch : arch.Solid :=
  solid_of_ascii (by decide) (by decide) (by decide +kernel) (by decide +kernel)

theorem solid_opensuse : opensuse.Solid :=
  solid_of_ascii (by decide) (by decide) (by decide +kernel) (by decide +kernel)

/-- A word begins or ends between the two parts of a text. -/
def WordBoundary (before after : Text) : Prop :=
  before.getLast?.any isWordChar ≠ after.head?.any isWordChar

/-- Where a word stands that is made of word characters, a word begins in front of it and ends behind
it just when nothing touches it. -/
theorem wordBoundary_iff_untouched {before word after : Text} (hne : word ≠ [])
    (hword : ∀ c ∈ word, isWordChar c = true) :
    WordBoundary before (word ++ after) ∧ WordBoundary (before ++ word) after ↔
      Untouched isWordChar before after := by
  have hhead : (word ++ after).head?.any isWordChar = true := by
    obtain ⟨c, rest, rfl⟩ := List.exists_cons_of_ne_nil hne
    simpa using hword c List.mem_cons_self
  have hlast : (before ++ word).getLast?.any isWordChar = true := by
    rw [List.getLast?_append_of_ne_nil _ hne, List.getLast?_eq_some_getLast hne]
    exact hword _ (List.getLast_mem hne)
  rw [WordBoundary, WordBoundary, hhead, hlast]
  constructor
  · rintro ⟨hleft, hright⟩
    refine ⟨?_, ?_⟩
    · intro c hc
      simpa [Option.mem_def.mp hc] using hleft
    · intro c hc
      simpa [Option.mem_def.mp hc] using hright.symm
  · rintro ⟨hleft, hright⟩
    refine ⟨?_, ?_⟩
    · cases h : before.getLast? with
      | none => simp
      | some c => simp [hleft c h]
    · cases h : after.head? with
      | none => simp
      | some c => simp [hright c h]

/-- **The marker of Arch stands between word boundaries.** -/
theorem arch_occursIn_iff : arch.occursIn t = true ↔
    ∃ before word after, t = before ++ word ++ after ∧ word.SameLetters "proprietary".toList ∧
      WordBoundary before (word ++ after) ∧ WordBoundary (before ++ word) after := by
  rw [occursIn_iff_stands solid_arch.ne_nil]
  refine exists_congr fun before => exists_congr fun word => exists_congr fun after =>
    and_congr_right fun _ => ?_
  have hletters : "proprietary".toList.map foldedLetter = arch.letters := by decide
  rw [sameLetters_iff (by decide), hletters]
  refine and_congr_right fun hword => ?_
  symm
  apply wordBoundary_iff_untouched
  · rintro rfl
    exact solid_arch.ne_nil hword.symm
  · exact fun c hc => solid_arch.touches c (hword ▸ List.mem_map_of_mem hc)

/-- **Free is what is not marked in any of its words.** A text is free by the marker of Arch just
when it is not blank and none of its runs of word characters is `proprietary` without regard to
case, and by that of openSUSE just when it is not blank and none of its runs of word characters and
hyphens is `SUSE-NonFree`. So two texts that are not blank, with a character between them that is
part of no such run, are free together just when both are. -/
theorem admits_iff_no_marked_word_and_at_separators :
    (∀ t : Text, arch.admits (some t) = true ↔ t.isBlankText = false ∧
      ∀ word ∈ runs isWordChar t, ¬word.SameLetters "proprietary".toList) ∧
    (∀ t : Text, opensuse.admits (some t) = true ↔ t.isBlankText = false ∧
      ∀ word ∈ runs (fun c => isWordChar c || c == '-') t,
        ¬word.SameLetters "SUSE-NonFree".toList) ∧
    (∀ (a b : Text) (c : Char), a.isBlankText = false → b.isBlankText = false →
      isWordChar c = false →
      (arch.admits (some (a ++ c :: b)) = true ↔
        arch.admits (some a) = true ∧ arch.admits (some b) = true)) ∧
    (∀ (a b : Text) (c : Char), a.isBlankText = false → b.isBlankText = false →
      isWordChar c = false → c ≠ '-' →
      (opensuse.admits (some (a ++ c :: b)) = true ↔
        opensuse.admits (some a) = true ∧ opensuse.admits (some b) = true)) := by
  refine ⟨?_, ?_, ?_, ?_⟩
  · exact fun t => solid_arch.admits_iff (by decide) (by decide)
  · exact fun t => solid_opensuse.admits_iff (by decide) (by decide)
  · exact fun a b c ha hb hc => solid_arch.admits_append_cons hc ha hb
  · intro a b c ha hb hc hhyphen
    refine solid_opensuse.admits_append_cons ?_ ha hb
    show (isWordChar c || c == '-') = false
    rw [hc, beq_eq_false_iff_ne.mpr hhyphen, Bool.or_false]

/-- A marker with a hyphen behind it: the hyphen is part of no word for Arch, and of one for openSUSE.
Two letters beyond ASCII count as letters of the markers. -/
theorem admits_of_marked_words :
    arch.admits (some "Proprıetary-2".toList) = false ∧
    opensuse.admits (some "SUſE-NonFree-2".toList) = true ∧
    (arch.admits (some ("MIT".toList ++ '-' :: "BSD".toList)) = true ↔
      arch.admits (some "MIT".toList) = true ∧ arch.admits (some "BSD".toList) = true) ∧
    (opensuse.admits (some ("MIT".toList ++ ' ' :: "SUſE-NonFree".toList)) = true ↔
      opensuse.admits (some "MIT".toList) = true ∧
        opensuse.admits (some "SUſE-NonFree".toList) = true) ∧
    opensuse.admits (some ("MIT".toList ++ ' ' :: "SUſE-NonFree".toList)) = false := by
  obtain ⟨harch, hopensuse, harchSplit, hopensuseSplit⟩ :=
    admits_iff_no_marked_word_and_at_separators
  have hnot : opensuse.admits (some ("MIT".toList ++ ' ' :: "SUſE-NonFree".toList)) = false := by
    rw [← Bool.not_eq_true, hopensuse]
    decide +kernel
  refine ⟨?_, ?_, ?_, ?_, hnot⟩
  · rw [← Bool.not_eq_true, harch]
    decide +kernel
  · rw [hopensuse]
    decide +kernel
  · exact harchSplit _ _ '-' (by decide) (by decide) (by decide +kernel)
  · exact hopensuseSplit _ _ ' ' (by decide) (by decide) (by decide +kernel) (by decide)

end Marker
end License
end DistroBallot
