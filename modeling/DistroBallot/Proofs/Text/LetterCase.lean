import DistroBallot.Text.Blank
import DistroBallot.Text.Case
import Mathlib

/-!
# Letters without regard to case

Two texts are the same but for the case of ASCII letters if they are the same once their capitals
are made small (`Text.SameButCase`). Such texts have the same lower case and the same upper case
(`lower_map_toLower`, `upper_map_toLower`), a capital sigma included: whether it ends a word depends
on which characters around it are cased, and not on their case.

Beyond ASCII, a character is told without regard to case by the upper case of its lower case
(`caseless`). There are four characters beyond ASCII that count as ASCII letters that way and no
others (`caseless_eq_singleton_iff`): what a row of the case mappings sends to ASCII is told by the
target of the row (`CaseRows.Sends`).
-/

namespace DistroBallot

/-! ## Small letters for capitals -/

/-- What is the same for an ASCII capital and its small letter is so for all characters. -/
theorem apply_toLower {α : Type} (f : Char → α)
    (h : ∀ n < 26, f (Char.ofNat (97 + n)) = f (Char.ofNat (65 + n))) (c : Char) :
    f c.toLower = f c := by
  by_cases hupper : c.val ≥ 'A'.val ∧ c.val ≤ 'Z'.val
  · obtain ⟨hlower, hlast⟩ := hupper
    have hA : 65 ≤ c.toNat := hlower
    have hZ : c.toNat ≤ 90 := hlast
    have hsmall : c.toLower = Char.ofNat (97 + (c.toNat - 65)) := by
      have hall : ∀ n < 26, (Char.ofNat (65 + n)).toLower = Char.ofNat (97 + n) := by decide
      rw [← hall (c.toNat - 65) (by omega), show 65 + (c.toNat - 65) = c.toNat by omega,
        Char.ofNat_toNat]
    rw [hsmall, h (c.toNat - 65) (by omega), show 65 + (c.toNat - 65) = c.toNat by omega,
      Char.ofNat_toNat]
  · have hsame : c.toLower = c := by
      unfold Char.toLower
      rw [dif_neg hupper]
    rw [hsame]

theorem isBlank_toLower (c : Char) : isBlank c.toLower = isBlank c :=
  apply_toLower isBlank (by decide) c

theorem isLineBreak_toLower (c : Char) : isLineBreak c.toLower = isLineBreak c :=
  apply_toLower isLineBreak (by decide) c

theorem isCased_toLower (c : Char) : isCased c.toLower = isCased c :=
  apply_toLower isCased (by decide +kernel) c

theorem isCaseIgnorable_toLower (c : Char) : isCaseIgnorable c.toLower = isCaseIgnorable c :=
  apply_toLower isCaseIgnorable (by decide +kernel) c

theorem lowerChar_toLower (c : Char) : lowerChar c.toLower = lowerChar c :=
  apply_toLower lowerChar (by decide) c

theorem upperChar_toLower (c : Char) : upperChar c.toLower = upperChar c :=
  apply_toLower upperChar (by decide) c

/-- Comparison with a character that is no letter. -/
theorem toLower_beq {d : Char} (hd : d.isAlpha = false) (c : Char) :
    (c.toLower == d) = (c == d) := by
  apply apply_toLower (· == d)
  intro n hn
  have hletters : ∀ n < 26, (Char.ofNat (97 + n)).isAlpha = true ∧
      (Char.ofNat (65 + n)).isAlpha = true := by decide
  obtain ⟨hsmall, hcapital⟩ := hletters n hn
  have hne : ∀ c : Char, c.isAlpha = true → (c == d) = false := by
    intro c hc
    rw [beq_eq_false_iff_ne]
    rintro rfl
    exact Bool.false_ne_true (hd.symm.trans hc)
  rw [hne _ hsmall, hne _ hcapital]

theorem toLower_eq_iff {c d : Char} (hd : d.isAlpha = false) : c.toLower = d ↔ c = d := by
  rw [← beq_iff_eq, toLower_beq hd, beq_iff_eq]

namespace Text

variable {p : Char → Bool} {t u : Text}

/-- The same but for the case of ASCII letters. -/
def SameButCase (t u : Text) : Prop := t.map Char.toLower = u.map Char.toLower

instance (t u : Text) : Decidable (SameButCase t u) :=
  inferInstanceAs (Decidable (_ = _))

theorem isBlankText_map_toLower (t : Text) :
    isBlankText (t.map Char.toLower) = t.isBlankText := by
  rw [isBlankText, List.all_map, isBlankText]
  exact congrArg (t.all ·) (funext isBlank_toLower)

theorem head?_map_toLower_iff {d : Char} (hd : d.isAlpha = false) (t : Text) :
    (t.map Char.toLower).head? = some d ↔ t.head? = some d := by
  cases t with
  | nil => simp
  | cons c rest => simpa using toLower_eq_iff hd

/-- A class of characters that does not tell small letters from capitals cuts at the same places. -/
theorem pieces_map_toLower (h : ∀ c, p c.toLower = p c) (t : Text) :
    pieces p (t.map Char.toLower) = (pieces p t).map (·.map Char.toLower) := by
  induction t with
  | nil => rfl
  | cons c t ih =>
      rw [List.map_cons, pieces, pieces, h, ih]
      split
      · obtain ⟨first, others, hpieces⟩ := List.exists_cons_of_ne_nil (pieces_ne_nil p t)
        rw [hpieces]
        rfl
      · rfl

theorem lines_map_toLower (t : Text) :
    lines (t.map Char.toLower) = t.lines.map (·.map Char.toLower) :=
  pieces_map_toLower (fun c => by rw [isLineBreak_toLower]) t

theorem words_map_toLower (t : Text) :
    words (t.map Char.toLower) = t.words.map (·.map Char.toLower) := by
  rw [words, runs, pieces_map_toLower (fun c => by rw [isBlank_toLower]), List.filter_map, words,
    runs]
  congr 2
  funext piece
  simp

theorem takeWhile_map_toLower (h : ∀ c, p c.toLower = p c) (t : Text) :
    (t.map Char.toLower).takeWhile p = (t.takeWhile p).map Char.toLower := by
  rw [List.takeWhile_map, show p ∘ Char.toLower = p from funext h]

theorem dropWhile_map_toLower (h : ∀ c, p c.toLower = p c) (t : Text) :
    (t.map Char.toLower).dropWhile p = (t.dropWhile p).map Char.toLower := by
  rw [List.dropWhile_map, show p ∘ Char.toLower = p from funext h]

/-! ## Lower and upper case -/

theorem startsCased_map_toLower (t : Text) : startsCased (t.map Char.toLower) = t.startsCased := by
  rw [startsCased, startsCased, dropWhile_map_toLower isCaseIgnorable_toLower]
  cases t.dropWhile isCaseIgnorable with
  | nil => rfl
  | cons c rest => exact isCased_toLower c

theorem lowerFrom_map_toLower (afterCased : Bool) (t : Text) :
    lowerFrom afterCased (t.map Char.toLower) = lowerFrom afterCased t := by
  induction t generalizing afterCased with
  | nil => rfl
  | cons c t ih =>
      simp only [List.map_cons, lowerFrom, toLower_beq (show 'Σ'.isAlpha = false by decide),
        startsCased_map_toLower, isCaseIgnorable_toLower, isCased_toLower, lowerChar_toLower, ih]

/-- **The case of ASCII letters is lost in lower case.** -/
theorem lower_map_toLower (t : Text) : lower (t.map Char.toLower) = t.lower :=
  lowerFrom_map_toLower false t

theorem upper_map_toLower (t : Text) : upper (t.map Char.toLower) = t.upper := by
  rw [upper, List.flatMap_map, upper]
  exact congrArg (t.flatMap ·) (funext upperChar_toLower)

theorem SameButCase.lower_eq (h : SameButCase t u) : t.lower = u.lower := by
  rw [← lower_map_toLower t, ← lower_map_toLower u, h]

theorem SameButCase.upper_eq (h : SameButCase t u) : t.upper = u.upper := by
  rw [← upper_map_toLower t, ← upper_map_toLower u, h]

end Text

/-! ## Case mappings backwards -/

namespace CaseRows

/-- The row may send the point `n` to the point `v`. -/
structure Sends (row : ℕ × ℕ × ℕ × ℕ) (n v : ℕ) : Prop where
  first : row.1 ≤ n
  last : n ≤ row.2.1
  target : v = row.2.2.2 + (n - row.1)

theorem eq_or_sends (rows : CaseRows) (n : ℕ) :
    rows.lookup n = n ∨ ∃ row ∈ rows, Sends row n (rows.lookup n) := by
  induction rows with
  | nil => exact .inl rfl
  | cons row rest ih =>
      obtain ⟨first, last, step, target⟩ := row
      rw [lookup]
      split
      · exact .inl rfl
      · next hfirst =>
          split
          · next hrow =>
              rw [Bool.and_eq_true, decide_eq_true_eq] at hrow
              exact .inr ⟨_, List.mem_cons_self, not_lt.mp hfirst, hrow.1, rfl⟩
          · rcases ih with ih | ⟨row, hrow, hsends⟩
            · exact .inl ih
            · exact .inr ⟨row, List.mem_cons_of_mem _ hrow, hsends⟩

end CaseRows

/-! ## Characters without regard to case -/

/-- What a character is told by without regard to case: the upper case of what its lower case starts
with. -/
def caseless (c : Char) : Text := ((lowerChar c).take 1).flatMap upperChar

/-- The characters beyond ASCII that count as ASCII letters, each with the capital. -/
def strayLetters : List (Char × Char) :=
  [('İ', 'I'), ('ı', 'I'), ('ſ', 'S'), (Char.ofNat 0x212A, 'K')]

/-- What holds of the first 128 characters holds of each ASCII character. -/
theorem forall_ascii {P : Char → Prop} (h : ∀ n < 128, P (Char.ofNat n)) {c : Char}
    (hc : c.toNat < 128) : P c := by
  rw [← Char.ofNat_toNat c]
  exact h c.toNat hc

theorem caseless_of_ascii {c : Char} (hc : c.toNat < 128) : caseless c = [c.toLower.toUpper] := by
  have hlower : c.toLower.toNat < 128 :=
    forall_ascii (P := fun c => c.toLower.toNat < 128) (by decide) hc
  rw [caseless, lowerChar, if_pos hc]
  simp [upperChar, hlower]

theorem toNat_ofNat_of_pos {n : ℕ} (h : 0 < (Char.ofNat n).toNat) : (Char.ofNat n).toNat = n := by
  rw [Char.toNat_ofNat] at h ⊢
  split at h
  · next hvalid => rw [if_pos hvalid]
  · cases h

/-- The only point beyond ASCII with a lower case in ASCII is the sign of the kelvin. -/
theorem eq_kelvin_of_lower {n : ℕ} (hn : 128 ≤ n) (h : lowerRows.lookup n < 128) :
    n = 0x212A ∧ lowerRows.lookup n = 107 := by
  have hrows : ∀ row ∈ lowerRows, row.2.2.2 < 128 → row = (0x212A, 0x212A, 1, 107) := by
    decide +kernel
  rcases lowerRows.eq_or_sends n with hsame | ⟨row, hrow, hfirst, hlast, htarget⟩
  · omega
  · obtain rfl := hrows row hrow (by omega)
    dsimp only at hfirst hlast htarget
    omega

/-- The points beyond ASCII with an upper case in ASCII. -/
theorem eq_of_upper {n : ℕ} (hn : 128 ≤ n) (h : upperRows.lookup n < 128) :
    n = 0x131 ∧ upperRows.lookup n = 73 ∨ n = 0x17F ∧ upperRows.lookup n = 83 := by
  have hrows : ∀ row ∈ upperRows, row.2.2.2 < 128 →
      row = (0x131, 0x131, 1, 73) ∨ row = (0x17F, 0x17F, 1, 83) := by
    decide +kernel
  rcases upperRows.eq_or_sends n with hsame | ⟨row, hrow, hfirst, hlast, htarget⟩
  · omega
  · rcases hrows row hrow (by omega) with rfl | rfl
    · dsimp only at hfirst hlast htarget
      omega
    · dsimp only at hfirst hlast htarget
      omega

/-- The upper case of a character beyond ASCII is a single ASCII character in two cases. -/
theorem eq_of_upperChar_eq_singleton {c u : Char} (hc : 128 ≤ c.toNat) (hu : u.toNat < 128)
    (hpos : 0 < u.toNat) (h : upperChar c = [u]) :
    c.toNat = 0x131 ∧ u = 'I' ∨ c.toNat = 0x17F ∧ u = 'S' := by
  rw [upperChar, if_neg (not_lt.mpr hc)] at h
  cases hlong : longUppers.lookup c.toNat with
  | some points =>
      -- the upper cases in this table have more than one character
      have hlengths : ∀ row ∈ longUppers, 1 < row.2.length := by decide
      obtain ⟨before, after, hrows, -⟩ := List.lookup_eq_some_iff.mp hlong
      have hlength : 1 < points.length :=
        hlengths (c.toNat, points) (hrows ▸ List.mem_append_right _ List.mem_cons_self)
      rw [hlong] at h
      have hone := congrArg List.length h
      simp only [List.length_map, List.length_singleton] at hone
      omega
  | none =>
      rw [hlong] at h
      obtain rfl : Char.ofNat (upperRows.lookup c.toNat) = u := List.singleton_inj.mp h
      rw [toNat_ofNat_of_pos hpos] at hu
      rcases eq_of_upper hc hu with ⟨hpoint, hv⟩ | ⟨hpoint, hv⟩
      · exact .inl ⟨hpoint, by rw [hv]⟩
      · exact .inr ⟨hpoint, by rw [hv]⟩

/-- The first character of the lower case. -/
def smallChar (c : Char) : Char :=
  if c = 'İ' then 'i' else Char.ofNat (lowerRows.lookup c.toNat)

theorem caseless_of_not_ascii {c : Char} (hc : 128 ≤ c.toNat) :
    caseless c = upperChar (smallChar c) := by
  rw [caseless, lowerChar, if_neg (not_lt.mpr hc), smallChar]
  by_cases hdotted : c = 'İ'
  · simp [hdotted]
  · simp [hdotted]

/-- The first character of a lower case is an ASCII one in two cases. -/
theorem eq_of_smallChar {c : Char} (hc : 128 ≤ c.toNat) (hpos : 0 < (smallChar c).toNat)
    (h : (smallChar c).toNat < 128) :
    c = 'İ' ∧ smallChar c = 'i' ∨ c.toNat = 0x212A ∧ smallChar c = 'k' := by
  unfold smallChar at *
  split
  · next hdotted => exact .inl ⟨hdotted, rfl⟩
  · next hdotted =>
      rw [if_neg hdotted] at h hpos
      rw [toNat_ofNat_of_pos hpos] at h
      obtain ⟨hkelvin, hk⟩ := eq_kelvin_of_lower hc h
      exact .inr ⟨hkelvin, by rw [hk]⟩

/-- A point beyond ASCII that no row sends anything to comes from itself. -/
theorem eq_of_toNat_smallChar {c : Char} {v : ℕ} (hv : 128 ≤ v)
    (hnone : ∀ row ∈ lowerRows, v < row.2.2.2 ∨ row.2.2.2 + (row.2.1 - row.1) < v)
    (h : (smallChar c).toNat = v) : c.toNat = v := by
  unfold smallChar at h
  split at h
  · have hi : 'i'.toNat < 128 := by decide
    omega
  · rw [toNat_ofNat_of_pos (by omega)] at h
    rcases lowerRows.eq_or_sends c.toNat with hsame | ⟨row, hrow, hfirst, hlast, htarget⟩
    · rw [← hsame, h]
    · have := hnone row hrow
      omega

theorem eq_ofNat_of_toNat {c : Char} {n : ℕ} (h : c.toNat = n) : c = Char.ofNat n := by
  rw [← h, Char.ofNat_toNat]

/-- **Four characters beyond ASCII count as ASCII letters**, and no others. -/
theorem caseless_eq_singleton_iff {c u : Char} (hu : u.toNat < 128) (hpos : 0 < u.toNat) :
    caseless c = [u] ↔
      if c.toNat < 128 then c.toLower.toUpper = u else (c, u) ∈ strayLetters := by
  split
  · next hc => rw [caseless_of_ascii hc, List.singleton_inj]
  · next hc =>
      rw [not_lt] at hc
      constructor
      · intro h
        rw [caseless_of_not_ascii hc] at h
        rcases Nat.lt_or_ge (smallChar c).toNat 128 with hascii | hbeyond
        · have hupper : (smallChar c).toUpper = u := by
            rwa [upperChar, if_pos hascii, List.singleton_inj] at h
          have hsmall : 0 < (smallChar c).toNat := by
            rcases Nat.eq_zero_or_pos (smallChar c).toNat with hzero | hsmall
            · rw [eq_ofNat_of_toNat hzero] at hupper
              rw [← hupper] at hpos
              cases hpos
            · exact hsmall
          rcases eq_of_smallChar hc hsmall hascii with ⟨hletter, hi⟩ | ⟨hletter, hk⟩
          · rw [hi] at hupper
            rw [hletter, ← hupper]
            decide
          · rw [hk] at hupper
            rw [eq_ofNat_of_toNat hletter, ← hupper]
            decide
        · rcases eq_of_upperChar_eq_singleton hbeyond hu hpos h with ⟨hv, rfl⟩ | ⟨hv, rfl⟩
          · rw [eq_ofNat_of_toNat (eq_of_toNat_smallChar (by decide) (by decide +kernel) hv)]
            decide
          · rw [eq_ofNat_of_toNat (eq_of_toNat_smallChar (by decide) (by decide +kernel) hv)]
            decide
      · intro h
        have hall : ∀ pair ∈ strayLetters, caseless pair.1 = [pair.2] := by decide +kernel
        exact hall (c, u) h

end DistroBallot
