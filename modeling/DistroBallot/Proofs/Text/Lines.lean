import DistroBallot.Text.Blank
import DistroBallot.Proofs.Version.ConstraintText
import Mathlib

/-!
# Lines and words of texts

Pieces are cut at single characters, so those of two texts together are the pieces of each, except
that the last piece of the first text and the first piece of the second become one
(`pieces_append`).

* A line break between two texts keeps their lines apart (`lines_append_cons`); so does any seam at
  which a line ends or starts (`Seam.flatMap_lines`).
* Blanks between two texts keep their words apart, and it does not matter which blanks these are or
  how many (`words_append_blanks`). Blanks at the ends of a text do not matter at all
  (`words_strip`).

`splitLines` takes a return and the line feed behind it for one line break, and has no line behind
the last line break. Its lines are those of `lines` but for empty ones (`flatMap_splitLines`).
-/

namespace DistroBallot
namespace Text

variable {p : Char → Bool} {a b g t x : Text} {c : Char}

/-! ## Pieces -/

theorem pieces_of_all (h : ∀ c ∈ t, p c = true) : pieces p t = [t] := by
  induction t with
  | nil => rfl
  | cons c t ih =>
      rw [List.forall_mem_cons] at h
      rw [pieces, if_pos h.1, ih h.2]
      rfl

/-- **The pieces of two texts**, where the last of the first text goes on with the first of the
second. -/
theorem pieces_append {before after : List Text} {left right : Text}
    (ha : pieces p a = before ++ [left]) (hb : pieces p b = right :: after) :
    pieces p (a ++ b) = before ++ (left ++ right) :: after := by
  induction a generalizing before left with
  | nil =>
      obtain ⟨rfl, rfl⟩ : before = [] ∧ left = [] := by
        cases before with
        | nil => simpa using ha
        | cons piece before => simp at ha
      simpa using hb
  | cons c a ih =>
      rw [pieces] at ha
      rw [List.cons_append, pieces]
      by_cases hc : p c = true
      · rw [if_pos hc] at ha ⊢
        obtain ⟨first, others, hpieces⟩ := List.exists_cons_of_ne_nil (pieces_ne_nil p a)
        rw [hpieces, List.modifyHead_cons] at ha
        cases before with
        | nil =>
            obtain ⟨rfl, rfl⟩ := List.cons.inj ha
            have hrest : pieces p (a ++ b) = [] ++ (first ++ right) :: after := ih hpieces
            rw [hrest]
            rfl
        | cons piece before =>
            obtain ⟨rfl, rfl⟩ := List.cons.inj ha
            have hrest : pieces p (a ++ b) = (first :: before) ++ (left ++ right) :: after :=
              ih hpieces
            rw [hrest]
            rfl
      · rw [if_neg hc] at ha ⊢
        cases before with
        | nil =>
            -- there is a piece behind the character, and so a second one
            obtain ⟨-, hnone⟩ := List.cons.inj ha
            exact absurd hnone (pieces_ne_nil p a)
        | cons piece before =>
            obtain ⟨rfl, hrest⟩ := List.cons.inj ha
            rw [ih hrest]
            rfl

theorem flatten_runs (p : Char → Bool) (t : Text) : (runs p t).flatten = t.filter p := by
  rw [runs, List.flatten_filter_not_isEmpty]
  induction t with
  | nil => rfl
  | cons c t ih =>
      obtain ⟨first, others, hpieces⟩ := List.exists_cons_of_ne_nil (pieces_ne_nil p t)
      rw [hpieces] at ih
      cases hc : p c with
      | true => simpa [pieces, hc, hpieces] using ih
      | false => simpa [pieces, hc, hpieces] using ih

/-! ## Lines -/

theorem lines_append_cons (h : isLineBreak c = true) (a b : Text) :
    (a ++ c :: b).lines = a.lines ++ b.lines :=
  pieces_append_cons (by simp [h]) a b

theorem lines_of_no_breaks (h : ∀ c ∈ t, isLineBreak c = false) : t.lines = [t] :=
  pieces_of_all fun c hc => by simp [h c hc]

/-- A text has a last line, be it empty. -/
theorem exists_lines_eq_concat (t : Text) : ∃ before last, t.lines = before ++ [last] := by
  obtain hnil | ⟨before, last, hlines⟩ := List.eq_nil_or_concat' t.lines
  · exact absurd hnil (pieces_ne_nil _ t)
  · exact ⟨before, last, hlines⟩

/-- A line ends or starts between the two texts. -/
def Seam (a b : Text) : Prop :=
  (∀ c ∈ a.getLast?, isLineBreak c = true) ∨ (∀ c ∈ b.head?, isLineBreak c = true)

/-- **What the lines of two texts have is kept apart by a seam**, if empty lines have nothing. -/
theorem Seam.flatMap_lines {α : Type} {f : Text → List α} (hf : f [] = []) (h : Seam a b) :
    (a ++ b).lines.flatMap f = a.lines.flatMap f ++ b.lines.flatMap f := by
  rcases h with h | h
  · rcases List.eq_nil_or_concat a with rfl | ⟨front, c, rfl⟩
    · simp [lines, hf]
    · have hc : isLineBreak c = true := h c (by simp)
      rw [List.concat_append, List.concat_eq_append, lines_append_cons hc, lines_append_cons hc]
      simp [lines, hf]
  · cases b with
    | nil => simp [lines, hf]
    | cons c rest =>
        have hc : isLineBreak c = true := h c rfl
        rw [lines_append_cons hc, ← List.nil_append (c :: rest), lines_append_cons hc]
        simp [lines, hf]

/-- The lines of a text. A return with a line feed behind it is one line break, and there is no line
behind the last line break. -/
def splitLines : Text → List Text
  | [] => []
  | '\r' :: '\n' :: rest => [] :: splitLines rest
  | c :: rest =>
    if isLineBreak c then [] :: splitLines rest
    else match splitLines rest with
      | [] => [[c]]
      | line :: others => (c :: line) :: others

/-- The lines that are not empty. -/
def writtenLines (ls : List Text) : List Text :=
  ls.filter fun line => !line.isEmpty

theorem flatMap_writtenLines {α : Type} {f : Text → List α} (hf : f [] = []) (ls : List Text) :
    (writtenLines ls).flatMap f = ls.flatMap f := by
  induction ls with
  | nil => rfl
  | cons line ls ih =>
      cases line with
      | nil => simpa [writtenLines, hf] using ih
      | cons c line => simpa [writtenLines] using ih

theorem writtenLines_headD_cons {ls others : List Text}
    (h : writtenLines others = writtenLines ls.tail) :
    writtenLines (ls.headD [] :: others) = writtenLines ls := by
  cases ls with
  | nil => exact h
  | cons line ls =>
      cases line with
      | nil => simpa [writtenLines] using h
      | cons c line => simpa [writtenLines] using h

/-- The first lines are the same, if there is one at all, and the others are but for empty ones. -/
theorem exists_lines_eq (t : Text) : ∃ others, t.lines = t.splitLines.headD [] :: others ∧
    writtenLines others = writtenLines t.splitLines.tail := by
  fun_induction splitLines t with
  | case1 => exact ⟨[], rfl, rfl⟩
  | case2 rest ih =>
      obtain ⟨others, hlines, hothers⟩ := ih
      have hbreaks : lines ('\r' :: '\n' :: rest) = [] :: [] :: lines rest := rfl
      refine ⟨[] :: lines rest, hbreaks, ?_⟩
      rw [hlines]
      exact writtenLines_headD_cons hothers
  | case3 c rest _ hc ih =>
      obtain ⟨others, hlines, hothers⟩ := ih
      have hbreak : lines (c :: rest) = [] :: lines rest := lines_append_cons hc [] rest
      refine ⟨lines rest, hbreak, ?_⟩
      rw [hlines]
      exact writtenLines_headD_cons hothers
  | case4 c rest _ hc hnone ih =>
      obtain ⟨others, hlines, hothers⟩ := ih
      rw [hnone] at hlines hothers
      refine ⟨others, ?_, hothers⟩
      rw [lines, pieces, if_pos (by simp [hc]), ← lines, hlines]
      rfl
  | case5 c rest _ hc line more hsome ih =>
      obtain ⟨others, hlines, hothers⟩ := ih
      rw [hsome] at hlines hothers
      refine ⟨others, ?_, hothers⟩
      rw [lines, pieces, if_pos (by simp [hc]), ← lines, hlines]
      rfl

/-- **The two ways of cutting a text into lines** are the same for everything that empty lines have
nothing of. -/
theorem flatMap_splitLines {α : Type} {f : Text → List α} (hf : f [] = []) (t : Text) :
    t.splitLines.flatMap f = t.lines.flatMap f := by
  obtain ⟨others, hlines, hothers⟩ := exists_lines_eq t
  rw [← flatMap_writtenLines hf t.splitLines, ← writtenLines_headD_cons hothers, ← hlines,
    flatMap_writtenLines hf]

example : splitLines "a\r\n\nb\n".toList = ["a".toList, [], "b".toList] := by decide

/-! ## Words -/

theorem words_append_cons (h : isBlank c = true) (a b : Text) :
    (a ++ c :: b).words = a.words ++ b.words :=
  runs_append_cons (by simp [h]) a b

theorem words_blank_append (hg : g.isBlankText = true) (t : Text) : (g ++ t).words = t.words := by
  induction g with
  | nil => rfl
  | cons c g ih =>
      rw [isBlankText, List.all_cons, Bool.and_eq_true] at hg
      rw [List.cons_append, ← List.nil_append (c :: (g ++ t)), words_append_cons hg.1, ih hg.2]
      rfl

/-- **Blanks keep words apart.** -/
theorem words_append_blanks (hne : g ≠ []) (hg : g.isBlankText = true) (a b : Text) :
    (a ++ g ++ b).words = a.words ++ b.words := by
  obtain ⟨c, g, rfl⟩ := List.exists_cons_of_ne_nil hne
  rw [isBlankText, List.all_cons, Bool.and_eq_true] at hg
  rw [List.append_assoc, List.cons_append, words_append_cons hg.1, words_blank_append hg.2]

theorem words_append_blank (hg : g.isBlankText = true) (t : Text) : (t ++ g).words = t.words := by
  by_cases hnil : g = []
  · rw [hnil, List.append_nil]
  · rw [← List.append_nil (t ++ g), words_append_blanks hnil hg]
    exact List.append_nil _

/-- **Blanks at the ends of a text are nothing to its words.** -/
theorem words_strip (t : Text) : t.strip.words = t.words := by
  have hfront : isBlankText (t.takeWhile isBlank) = true :=
    List.all_eq_true.mpr fun _ hc => List.mem_takeWhile_imp hc
  have hback : isBlankText ((t.dropWhile isBlank).rtakeWhile isBlank) = true :=
    List.all_eq_true.mpr fun _ hc => List.mem_rtakeWhile_imp hc
  calc t.strip.words
      = words ((t.dropWhile isBlank).rdropWhile isBlank) := rfl
    _ = words ((t.dropWhile isBlank).rdropWhile isBlank ++
          (t.dropWhile isBlank).rtakeWhile isBlank) := (words_append_blank hback _).symm
    _ = words (t.dropWhile isBlank) := by rw [List.rdropWhile_append_rtakeWhile]
    _ = words (t.takeWhile isBlank ++ t.dropWhile isBlank) := (words_blank_append hfront _).symm
    _ = t.words := by rw [List.takeWhile_append_dropWhile]

theorem words_eq_nil_iff : t.words = [] ↔ t.isBlankText = true := by
  constructor
  · intro h
    have hnone : t.filter (fun c => !isBlank c) = [] := by
      rw [← flatten_runs, ← words, h]
      rfl
    rw [List.filter_eq_nil_iff] at hnone
    exact List.all_eq_true.mpr fun c hc => by simpa using hnone c hc
  · intro h
    rw [← List.append_nil t, words_blank_append h]
    rfl

end Text
end DistroBallot
