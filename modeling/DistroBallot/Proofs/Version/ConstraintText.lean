import DistroBallot.Version.Constraint
import Mathlib

/-!
# Constraints as text

A text without blanks around it is read as a constraint by the longest operator that it starts with.
How operators are tried says nothing about length. They are tried in an order in which no longer one
comes later, so that the first one that fits is the longest (`splitOperator?_eq_some_iff`).

A constraint that was read is written without the blanks between operator and version. It is read
back unless these blanks kept an operator from going on: that is so for `<`, `>` and `=` in front of
a version that starts with `=`, and for no other constraint (`Constraint.RunsTogether`).
-/

namespace DistroBallot

/-! ## Texts without blanks around them -/

namespace Text

variable {t : Text}

/-- The text neither starts nor ends with a blank. -/
structure Trimmed (t : Text) : Prop where
  start : ∀ c ∈ t.head?, isBlank c = false
  stop : ∀ c ∈ t.getLast?, isBlank c = false

theorem stripEnd_eq_rdropWhile (t : Text) : stripEnd t = t.rdropWhile isBlank := rfl

theorem strip_eq_nil_iff : t.strip = [] ↔ t.isBlankText = true := by
  rw [strip, stripEnd_eq_rdropWhile, List.rdropWhile_eq_nil_iff, isBlankText, List.all_eq_true]
  constructor
  · intro h c hc
    rw [← List.takeWhile_append_dropWhile (p := isBlank) (l := t), List.mem_append] at hc
    rcases hc with hc | hc
    · exact List.mem_takeWhile_imp hc
    · exact h c hc
  · exact fun h c hc => h c (List.dropWhile_subset _ hc)

theorem trimmed_strip (t : Text) : Trimmed t.strip := by
  rw [strip, stripEnd_eq_rdropWhile]
  constructor
  · intro c hc
    have hprefix := List.rdropWhile_prefix isBlank (t.dropWhile isBlank)
    have hfirst : c ∈ (t.dropWhile isBlank).head? := by
      obtain ⟨blanks, hblanks⟩ := hprefix
      rw [← hblanks, List.head?_append, Option.mem_def.mp hc]
      rfl
    have hnot := List.head?_dropWhile_not isBlank t
    rw [Option.mem_def.mp hfirst] at hnot
    simpa using hnot
  · intro c hc
    have hne : (t.dropWhile isBlank).rdropWhile isBlank ≠ [] := by
      intro hnil
      rw [hnil] at hc
      cases hc
    have hnot := List.rdropWhile_last_not isBlank (t.dropWhile isBlank) hne
    rw [List.getLast?_eq_some_getLast hne] at hc
    obtain rfl := Option.some.inj hc
    simpa using hnot

theorem Trimmed.strip_eq (h : Trimmed t) : t.strip = t := by
  have hstart : t.dropWhile isBlank = t := by
    cases t with
    | nil => rfl
    | cons c t => rw [List.dropWhile_cons_of_neg (by simp [h.start c rfl])]
  rw [strip, hstart, stripEnd_eq_rdropWhile, List.rdropWhile_eq_self_iff]
  intro hne
  simp [h.stop _ (List.getLast?_eq_some_getLast hne)]

end Text

/-! ## The longest operator -/

namespace Operator

variable {op op' : Operator} {rest rest' t : Text}

/-- The text is the operator and a rest, and it starts with no longer operator. -/
structure Splits (t : Text) (op : Operator) (rest : Text) : Prop where
  text_eq : t = op.symbol.toList ++ rest
  longest : ∀ other : Operator, other.symbol.toList <+: t →
    other.symbol.length ≤ op.symbol.length

theorem mem_all (op : Operator) : op ∈ all := by
  cases op <;> decide

/-- No longer operator is tried later. -/
theorem pairwise_all : all.Pairwise fun earlier later =>
    later.symbol.length ≤ earlier.symbol.length := by
  decide

theorem ofSymbol?_symbol (op : Operator) : ofSymbol? op.symbol = some op := by
  cases op <;> decide

theorem symbol_injective : Function.Injective symbol := by
  intro op op' h
  apply Option.some.inj
  rw [← ofSymbol?_symbol op, h, ofSymbol?_symbol]

theorem not_isBlank_of_mem_symbol (op : Operator) : ∀ c ∈ op.symbol.toList, isBlank c = false := by
  cases op <;> simp [symbol, isBlank]

theorem symbol_toList_ne_nil (op : Operator) : op.symbol.toList ≠ [] := by
  cases op <;> decide

/-- A text is split in one way only. -/
theorem Splits.unique (h : Splits t op rest) (h' : Splits t op' rest') :
    op = op' ∧ rest = rest' := by
  have hle := h.longest op' ⟨rest', h'.text_eq.symm⟩
  have hge := h'.longest op ⟨rest, h.text_eq.symm⟩
  obtain ⟨hsymbol, hrest⟩ := List.append_inj (h.text_eq.symm.trans h'.text_eq)
    (by rw [String.length_toList, String.length_toList]; omega)
  exact ⟨symbol_injective (String.toList_inj.mp hsymbol), hrest⟩

end Operator

namespace Constraint

open Operator (Splits)

variable {c : Constraint} {op : Operator} {rest t : Text}

theorem splitOperator?_eq_none_iff :
    splitOperator? t = none ↔ ∀ op : Operator, ¬ op.symbol.toList <+: t := by
  rw [splitOperator?, List.findSome?_eq_none_iff]
  constructor
  · intro h op hop
    have hnone := h op (Operator.mem_all op)
    rw [if_pos (List.isPrefixOf_iff_prefix.mpr hop)] at hnone
    cases hnone
  · intro h op _
    rw [if_neg fun hop => h op (List.isPrefixOf_iff_prefix.mp hop)]

theorem splits_of_splitOperator? (h : splitOperator? t = some (op, rest)) : Splits t op rest := by
  obtain ⟨before, first, after, hall, hfirst, hnone⟩ := List.findSome?_eq_some_iff.mp h
  split at hfirst
  · next hprefix =>
      obtain ⟨rfl, rfl⟩ := Prod.mk.inj (Option.some.inj hfirst)
      obtain ⟨rest, rfl⟩ := List.isPrefixOf_iff_prefix.mp hprefix
      refine ⟨by rw [← String.length_toList, List.drop_left], ?_⟩
      intro other hother
      -- the operators tried before do not fit, and those tried after are not longer
      have hmem := Operator.mem_all other
      have hpairwise := Operator.pairwise_all
      rw [hall] at hmem hpairwise
      rcases List.mem_append.mp hmem with hbefore | hafter
      · have hfits := hnone other hbefore
        rw [if_pos (List.isPrefixOf_iff_prefix.mpr hother)] at hfits
        cases hfits
      · rcases List.mem_cons.mp hafter with rfl | hafter
        · exact le_rfl
        · exact List.rel_of_pairwise_cons (List.pairwise_append.mp hpairwise).2.1 hafter
  · cases hfirst

/-- **The first operator that fits is the longest.** -/
theorem splitOperator?_eq_some_iff : splitOperator? t = some (op, rest) ↔ Splits t op rest := by
  constructor
  · exact splits_of_splitOperator?
  · intro h
    cases hsplit : splitOperator? t with
    | none => exact absurd ⟨rest, h.text_eq.symm⟩ (splitOperator?_eq_none_iff.mp hsplit op)
    | some found =>
        obtain ⟨op', rest'⟩ := found
        obtain ⟨rfl, rfl⟩ := (splits_of_splitOperator? hsplit).unique h
        rfl

/-! ## Reading -/

theorem parse_of_splits (h : Splits t.strip op rest) :
    parse (some t) =
      if rest.isBlankText then .error (.noVersion (some t) op) else .ok ⟨op, rest.strip⟩ := by
  rw [parse, Option.getD_some, splitOperator?_eq_some_iff.mpr h]
  simp [← Text.strip_eq_nil_iff]

theorem parse_eq_ok_iff : parse (some t) = .ok c ↔
    ∃ rest, Splits t.strip c.operator rest ∧ rest.isBlankText = false ∧ c.version = rest.strip := by
  constructor
  · intro h
    cases hsplit : splitOperator? t.strip with
    | none =>
        rw [parse, Option.getD_some, hsplit] at h
        cases h
    | some found =>
        obtain ⟨op, rest⟩ := found
        have hsplits := splits_of_splitOperator? hsplit
        rw [parse_of_splits hsplits] at h
        split at h
        · cases h
        · next hblank =>
            obtain rfl := Except.ok.inj h
            exact ⟨rest, hsplits, Bool.eq_false_of_not_eq_true hblank, rfl⟩
  · rintro ⟨rest, hsplits, hblank, hversion⟩
    rw [parse_of_splits hsplits, hblank, if_neg Bool.false_ne_true, ← hversion]

/-- A text can be read just when something that is not blank follows its longest operator. -/
theorem parse_isOk_iff : (∃ c, parse (some t) = .ok c) ↔
    ∃ op rest, Splits t.strip op rest ∧ rest.isBlankText = false := by
  constructor
  · rintro ⟨c, h⟩
    obtain ⟨rest, hsplits, hblank, -⟩ := parse_eq_ok_iff.mp h
    exact ⟨c.operator, rest, hsplits, hblank⟩
  · rintro ⟨op, rest, hsplits, hblank⟩
    exact ⟨⟨op, rest.strip⟩, parse_eq_ok_iff.mpr ⟨rest, hsplits, hblank, rfl⟩⟩

/-! ## Reading what is written -/

/-- What is read has a version without blanks around it. -/
structure Tidy (c : Constraint) : Prop where
  trimmed : c.version.Trimmed
  ne_nil : c.version ≠ []

theorem tidy_of_parse (h : parse (some t) = .ok c) : c.Tidy := by
  obtain ⟨rest, -, hblank, hversion⟩ := parse_eq_ok_iff.mp h
  refine ⟨hversion ▸ Text.trimmed_strip rest, ?_⟩
  intro hnil
  rw [hversion, Text.strip_eq_nil_iff, hblank] at hnil
  cases hnil

theorem Tidy.not_blank (h : c.Tidy) : c.version.isBlankText = false := by
  rw [← Bool.not_eq_true, ← Text.strip_eq_nil_iff, h.trimmed.strip_eq]
  exact h.ne_nil

theorem Tidy.strip_toText (h : c.Tidy) : c.toText.strip = c.toText := by
  apply Text.Trimmed.strip_eq
  constructor
  · intro d hd
    rw [toText, List.head?_append_of_ne_nil _ c.operator.symbol_toList_ne_nil] at hd
    exact c.operator.not_isBlank_of_mem_symbol d (List.mem_of_mem_head? hd)
  · intro d hd
    rw [toText, List.getLast?_append_of_ne_nil _ h.ne_nil] at hd
    exact h.trimmed.stop d hd

/-- The operator goes on with the version to another operator. -/
def RunsTogether (c : Constraint) : Prop :=
  c.operator ∈ [Operator.before, .after, .equal] ∧ c.version.head? = some '='

/-- Only `<`, `>` and `=` start a longer operator, and it goes on with `=`. -/
theorem symbol_eq_append (op : Operator) : ∀ longer : Operator,
    op.symbol.toList <+: longer.symbol.toList → op.symbol.length < longer.symbol.length →
      op ∈ [Operator.before, .after, .equal] ∧
        longer.symbol.toList = op.symbol.toList ++ ['='] := by
  intro longer
  cases op <;> cases longer <;> decide

theorem exists_symbol_eq_append (hop : op ∈ [Operator.before, .after, .equal]) :
    ∃ longer : Operator, longer ≠ op ∧ longer.symbol.toList = op.symbol.toList ++ ['='] ∧
      ∀ other : Operator, other.symbol.length ≤ longer.symbol.length := by
  simp only [List.mem_cons, List.not_mem_nil, or_false] at hop
  rcases hop with rfl | rfl | rfl
  · exact ⟨.atMost, by decide, by decide, fun other => by cases other <;> decide⟩
  · exact ⟨.atLeast, by decide, by decide, fun other => by cases other <;> decide⟩
  · exact ⟨.equalTo, by decide, by decide, fun other => by cases other <;> decide⟩

theorem splits_toText (h : ¬ c.RunsTogether) : Splits c.toText c.operator c.version := by
  refine ⟨rfl, ?_⟩
  intro other hother
  by_contra hlt
  rw [not_le] at hlt
  have hprefix : c.operator.symbol.toList <+: other.symbol.toList := by
    refine List.prefix_of_prefix_length_le (List.prefix_append _ _) hother ?_
    rw [String.length_toList, String.length_toList]
    exact hlt.le
  obtain ⟨hop, hsymbol⟩ := symbol_eq_append c.operator other hprefix hlt
  -- the longer operator takes the first character of the version
  rw [hsymbol, toText, List.prefix_append_right_inj] at hother
  obtain ⟨rest, hrest⟩ := hother
  exact h ⟨hop, by rw [← hrest]; rfl⟩

/-- A constraint that does not run together is read back. -/
theorem Tidy.parse_toText (hc : c.Tidy) (h : ¬ c.RunsTogether) :
    parse (some c.toText) = .ok c := by
  rw [parse_eq_ok_iff, hc.strip_toText]
  exact ⟨c.version, splits_toText h, hc.not_blank, hc.trimmed.strip_eq.symm⟩

/-- What runs together is not read back as the same operator. -/
theorem Tidy.parse_toText_of_runsTogether (hc : c.Tidy) (h : c.RunsTogether) :
    (∃ e, parse (some c.toText) = .error e) ∨
      ∃ c', parse (some c.toText) = .ok c' ∧ c'.operator ≠ c.operator := by
  obtain ⟨hop, hhead⟩ := h
  obtain ⟨longer, hne, hsymbol, hlongest⟩ := exists_symbol_eq_append hop
  obtain ⟨rest, hversion⟩ : ∃ rest : Text, c.version = '=' :: rest :=
    ⟨c.version.tail, List.eq_cons_of_mem_head? hhead⟩
  have hsplits : Splits c.toText.strip longer rest := by
    refine ⟨?_, fun other _ => hlongest other⟩
    rw [hc.strip_toText, toText, hversion, hsymbol, List.append_assoc]
    rfl
  rw [parse_of_splits hsplits]
  split
  · exact Or.inl ⟨_, rfl⟩
  · exact Or.inr ⟨⟨longer, rest.strip⟩, rfl, hne⟩

/-- **A text is read by its longest operator, and what was read is read back from its own text just
when the two parts do not run together.** A text can be read just when something that is not blank
follows the longest operator that it starts with; that operator and the rest without blanks around
it are the constraint, and any other text ends in an error. A constraint that was read can be written
and read again, except where its operator is `<`, `>` or `=` and its version starts with `=`. Then
there is an error, or another operator. -/
theorem parse_by_longest_operator_and_parse_toText_iff (t : Text) :
    ((∃ c, parse (some t) = .ok c) ↔
      ∃ op rest, Splits t.strip op rest ∧ rest.isBlankText = false) ∧
    (∀ op rest, Splits t.strip op rest → rest.isBlankText = false →
      parse (some t) = .ok ⟨op, rest.strip⟩) ∧
    ((¬ ∃ op rest, Splits t.strip op rest ∧ rest.isBlankText = false) →
      ∃ e : Error, parse (some t) = .error e) ∧
    ∀ c, parse (some t) = .ok c →
      (parse (some c.toText) = .ok c ↔ ¬ c.RunsTogether) ∧
      (c.RunsTogether → (∃ e, parse (some c.toText) = .error e) ∨
        ∃ c', parse (some c.toText) = .ok c' ∧ c'.operator ≠ c.operator) := by
  refine ⟨parse_isOk_iff, ?_, ?_, ?_⟩
  · intro op rest hsplits hblank
    exact parse_eq_ok_iff.mpr ⟨rest, hsplits, hblank, rfl⟩
  · intro h
    cases hparse : parse (some t) with
    | ok c => exact absurd (parse_isOk_iff.mp ⟨c, hparse⟩) h
    | error e => exact ⟨e, rfl⟩
  · intro c hread
    have hc := tidy_of_parse hread
    refine ⟨⟨?_, hc.parse_toText⟩, hc.parse_toText_of_runsTogether⟩
    intro hback htogether
    rcases hc.parse_toText_of_runsTogether htogether with ⟨e, he⟩ | ⟨c', hc', hne⟩
    · rw [hback] at he
      cases he
    · rw [hback] at hc'
      obtain rfl := Except.ok.inj hc'
      exact hne rfl

/-- Blanks between the two parts are lost, and with them the constraint. -/
theorem written_constraints_run_together :
    parse (some " <= 1.0\t".toList) = .ok ⟨.atMost, "1.0".toList⟩ ∧
    parse (some "<=1.0".toList) = .ok ⟨.atMost, "1.0".toList⟩ ∧
    parse (some "> =1.0".toList) = .ok ⟨.after, "=1.0".toList⟩ ∧
    parse (some ">=1.0".toList) ≠ .ok ⟨.after, "=1.0".toList⟩ := by
  have hread : parse (some " <= 1.0\t".toList) = .ok ⟨.atMost, "1.0".toList⟩ := by decide +kernel
  have hread' : parse (some "> =1.0".toList) = .ok ⟨.after, "=1.0".toList⟩ := by decide +kernel
  obtain ⟨-, -, -, hback⟩ :=
    parse_by_longest_operator_and_parse_toText_iff " <= 1.0\t".toList
  obtain ⟨-, -, -, hback'⟩ := parse_by_longest_operator_and_parse_toText_iff "> =1.0".toList
  refine ⟨hread, (hback _ hread).1.mpr ?_, hread', fun h => (hback' _ hread').1.mp h ?_⟩
  · simp [RunsTogether]
  · simp [RunsTogether]

end Constraint
end DistroBallot
