import DistroBallot.Proofs.License.Alternatives
import DistroBallot.Proofs.License.Scanning
import Mathlib

/-!
# Expressions that ask for no license

A free text has an alternative all of whose names are free. An alternative may have no names at all:
then the text is free whatever licenses are. The expressions with such an alternative are told by
their groups (`Expression.Hollow`), and each of them has an empty group in it, a parenthesis that is
closed right after it was opened (`Expression.Hollow.emptyGroup`).

All names of alternatives are written in the text (`Expression.names_of_mem_alternatives`). So a
free text has a free license in it, or it is hollow; and among the texts without an empty group all
that are free grant a license.
-/

namespace DistroBallot
namespace License

namespace Expression

/-! ## Hollow expressions -/

/-- An expression that comes down to empty groups. -/
inductive Hollow : Expression → Prop
  | all {members : List Expression} : (∀ e ∈ members, Hollow e) → Hollow (.all members)
  | any {members : List Expression} {e : Expression} : e ∈ members → Hollow e →
      Hollow (.any members)
  | conditional {flag : Text} {negated : Bool} {body : Expression} : Hollow body →
      Hollow (.conditional flag negated body)

mutual

/-- **Hollow expressions are those with an alternative that has no names.** -/
theorem empty_mem_alternatives_iff : ∀ e : Expression, ∅ ∈ alternatives e ↔ Hollow e
  | .license name => by
      rw [alternatives]
      constructor
      · intro h
        exact absurd (Finset.mem_singleton.mp h) (Finset.singleton_ne_empty _).symm
      · rintro ⟨⟩
  | .all members => by
      rw [alternatives, empty_mem_unions_iff members]
      constructor
      · exact .all
      · rintro (h | _ | _)
        exact h
  | .any members => by
      rw [alternatives, empty_mem_choices_iff members]
      constructor
      · rintro ⟨e, hmem, he⟩
        exact .any hmem he
      · rintro (_ | ⟨hmem, he⟩ | _)
        exact ⟨_, hmem, he⟩
  | .conditional flag negated body => by
      rw [alternatives, empty_mem_alternatives_iff body]
      constructor
      · exact .conditional
      · rintro (_ | _ | h)
        exact h
  | .foreign content => by
      rw [alternatives]
      constructor
      · intro h
        simp at h
      · rintro ⟨⟩

theorem empty_mem_unions_iff : ∀ members : List Expression,
    ∅ ∈ unions members ↔ ∀ e ∈ members, Hollow e
  | [] => by simp [unions]
  | e :: rest => by
      rw [unions, List.forall_mem_cons, ← empty_mem_alternatives_iff e,
        ← empty_mem_unions_iff rest, Finset.mem_image₂]
      constructor
      · rintro ⟨a, ha, b, hb, hunion⟩
        obtain ⟨rfl, rfl⟩ := Finset.union_eq_empty.mp hunion
        exact ⟨ha, hb⟩
      · rintro ⟨ha, hb⟩
        exact ⟨∅, ha, ∅, hb, Finset.union_empty ∅⟩

theorem empty_mem_choices_iff : ∀ members : List Expression,
    ∅ ∈ choices members ↔ ∃ e ∈ members, Hollow e
  | [] => by simp [choices]
  | e :: rest => by
      rw [choices, Finset.mem_union, empty_mem_alternatives_iff e, empty_mem_choices_iff rest,
        List.exists_mem_cons_iff]

end

/-! ## Names and groups in the tokens of an expression -/

/-- A license of this name, in lower case, is among the tokens. -/
def Names (ts : List Token) (name : Text) : Prop :=
  ∃ t ∈ ts, t.kind = .identifier ∧ t.text.lower = name

theorem Names.mono {ts us : List Token} {name : Text} (h : Names ts name) (hsub : ts ⊆ us) :
    Names us name := by
  obtain ⟨t, ht, hname⟩ := h
  exact ⟨t, hsub ht, hname⟩

mutual

/-- **The names of alternatives are written.** -/
theorem names_of_mem_alternatives : ∀ (e : Expression) (names : Finset Text) (name : Text),
    names ∈ alternatives e → name ∈ names → Names e.written name
  | .license written, names, name, hnames, hname => by
      rw [alternatives, Finset.mem_singleton] at hnames
      subst hnames
      obtain rfl := Finset.mem_singleton.mp hname
      exact ⟨⟨.identifier, written⟩, by simp [Expression.written], rfl, rfl⟩
  | .all members, names, name, hnames, hname => by
      rw [alternatives] at hnames
      apply (names_of_mem_unions members names name hnames hname).mono
      exact fun t ht => by simp [Expression.written, ht]
  | .any members, names, name, hnames, hname => by
      rw [alternatives] at hnames
      apply (names_of_mem_choices members names name hnames hname).mono
      exact fun t ht => by simp [Expression.written, ht]
  | .conditional flag negated body, names, name, hnames, hname => by
      rw [alternatives] at hnames
      apply (names_of_mem_alternatives body names name hnames hname).mono
      exact fun t ht => by simp [Expression.written, ht]
  | .foreign content, names, name, hnames, _ => by
      rw [alternatives] at hnames
      exact absurd hnames (Finset.notMem_empty names)

theorem names_of_mem_unions : ∀ (members : List Expression) (names : Finset Text) (name : Text),
    names ∈ unions members → name ∈ names → Names (writtenAll members) name
  | [], names, name, hnames, hname => by
      rw [unions, Finset.mem_singleton] at hnames
      simp [hnames] at hname
  | e :: rest, names, name, hnames, hname => by
      rw [unions] at hnames
      obtain ⟨a, ha, b, hb, rfl⟩ := Finset.mem_image₂.mp hnames
      rw [writtenAll_cons]
      rcases Finset.mem_union.mp hname with hname | hname
      · apply (names_of_mem_alternatives e a name ha hname).mono
        exact List.subset_append_left _ _
      · apply (names_of_mem_unions rest b name hb hname).mono
        exact List.subset_append_right _ _

theorem names_of_mem_choices : ∀ (members : List Expression) (names : Finset Text) (name : Text),
    names ∈ choices members → name ∈ names → Names (writtenAll members) name
  | [], names, name, hnames, _ => by
      rw [choices] at hnames
      exact absurd hnames (Finset.notMem_empty names)
  | e :: rest, names, name, hnames, hname => by
      rw [choices] at hnames
      rw [writtenAll_cons]
      rcases Finset.mem_union.mp hnames with hnames | hnames
      · apply (names_of_mem_alternatives e names name hnames hname).mono
        exact List.subset_append_left _ _
      · apply (names_of_mem_choices rest names name hnames hname).mono
        exact List.subset_append_right _ _

end

theorem written_infix_writtenAll {members : List Expression} {e : Expression} (h : e ∈ members) :
    e.written <:+: writtenAll members := by
  obtain ⟨before, after, rfl⟩ := List.append_of_mem h
  exact ⟨writtenAll before, writtenAll after, by simp⟩

theorem writtenAll_infix_group (members : List Expression) :
    writtenAll members <:+: Token.opener :: (writtenAll members ++ [Token.closer]) :=
  ⟨[Token.opener], [Token.closer], rfl⟩

/-- A hollow expression has an empty group in it. -/
theorem Hollow.emptyGroup {e : Expression} (h : Hollow e) :
    [Token.opener, Token.closer] <:+: e.written := by
  induction h with
  | @all members _ ih =>
      rw [Expression.written]
      cases members with
      | nil => exact List.infix_rfl
      | cons e rest =>
          have hfirst := ih e List.mem_cons_self
          exact hfirst.trans ((written_infix_writtenAll List.mem_cons_self).trans
            (writtenAll_infix_group _))
  | @any members e hmem _ ih =>
      rw [Expression.written]
      exact (ih.trans (written_infix_writtenAll hmem)).trans
        ((writtenAll_infix_group members).trans (List.suffix_cons _ _).isInfix)
  | conditional _ ih =>
      rw [Expression.written]
      exact ih.trans (List.suffix_cons _ _).isInfix

end Expression

open Expression (Hollow)

/-! ## Free texts without a free license -/

/-- The text is more than blanks and a hollow expression. -/
structure IsHollow (text : Text) : Prop where
  not_blank : text.isBlankText = false
  hollow : ∃ e, parse (tokens text) = .ok e ∧ Hollow e

variable {text : Text} {free : IdentifierSet}

/-- A hollow text is free whatever licenses are. -/
theorem IsHollow.isFree (h : IsHollow text) (free : IdentifierSet) :
    isFree (some text) free = .ok true := by
  obtain ⟨hblank, e, hparse, hhollow⟩ := h
  obtain ⟨answer, hanswer, hiff⟩ := Expression.decides_of_native free (native_of_parse hparse)
  have hcovered : Expression.Covered free ∅ := by simp [Expression.Covered]
  have htrue : answer = true :=
    hiff.mpr ⟨∅, (Expression.empty_mem_alternatives_iff e).mpr hhollow, hcovered⟩
  simp only [License.isFree, hblank, Bool.false_eq_true, if_false, hparse, hanswer, htrue]

/-- A hollow text has an empty group in it: more than blanks are not the empty list of members at the
top. -/
theorem IsHollow.emptyGroup (h : IsHollow text) : [Token.opener, Token.closer] <:+: tokens text := by
  obtain ⟨hblank, e, hparse, hhollow⟩ := h
  obtain ⟨members, rfl, hwritten⟩ := writtenAll_of_parse_tokens hparse
  rw [← hwritten]
  obtain ⟨hmembers⟩ := hhollow
  cases members with
  | nil =>
      have hnone : tokens text = [] := hwritten.symm
      rw [tokens_eq_nil_iff.mp hnone] at hblank
      cases hblank
  | cons e rest =>
      have hfirst := (hmembers e List.mem_cons_self).emptyGroup
      exact hfirst.trans (Expression.written_infix_writtenAll List.mem_cons_self)

/-- **A free text has a free license in it, or it is hollow.** -/
theorem exists_free_or_isHollow (h : isFree (some text) free = .ok true) :
    (∃ t ∈ tokens text, t.kind = .identifier ∧ free.contains t.text.lower = true) ∨
      IsHollow text := by
  rw [isFree] at h
  split at h
  · cases h
  · next hblank =>
      cases hparse : parse (tokens text) with
      | error e => simp [hparse] at h
      | ok e =>
          obtain ⟨answer, hanswer, hiff⟩ :=
            Expression.decides_of_native free (native_of_parse hparse)
          obtain rfl : answer = true := by simpa [hparse, hanswer] using h
          obtain ⟨names, hnames, hcovered⟩ := hiff.mp rfl
          rcases names.eq_empty_or_nonempty with rfl | ⟨name, hname⟩
          · exact .inr ⟨by simpa using hblank, e, hparse,
              (Expression.empty_mem_alternatives_iff e).mp hnames⟩
          · obtain ⟨members, rfl, hwritten⟩ := writtenAll_of_parse_tokens hparse
            rw [Expression.alternatives] at hnames
            obtain ⟨t, ht, hkind, htext⟩ :=
              Expression.names_of_mem_unions members names name hnames hname
            rw [hwritten] at ht
            exact .inl ⟨t, ht, hkind, htext ▸ hcovered name hname⟩

theorem isFree_none_iff : isFree (some text) (.ofList []) = .ok true ↔ IsHollow text := by
  constructor
  · intro h
    rcases exists_free_or_isHollow h with ⟨t, -, -, hfree⟩ | hhollow
    · simp at hfree
    · exact hhollow
  · intro h
    exact h.isFree _

/-- **Free texts grant a free license, unless they are hollow.** A text without an empty group is free
only if it has a license in it that is free, and with no free licenses it is not free. Any free text
has a free license in it or is hollow; the hollow texts are those that are free when no licenses are,
they are free whatever licenses are, and they have an empty group. -/
theorem free_texts_grant_license_unless_hollow (text : Text) :
    (¬ [Token.opener, Token.closer] <:+: tokens text →
      (∀ free, isFree (some text) free = .ok true →
        ∃ t ∈ tokens text, t.kind = .identifier ∧ free.contains t.text.lower = true) ∧
      isFree (some text) (.ofList []) = .ok false) ∧
    (∀ free, isFree (some text) free = .ok true →
      (∃ t ∈ tokens text, t.kind = .identifier ∧ free.contains t.text.lower = true) ∨
        IsHollow text) ∧
    (isFree (some text) (.ofList []) = .ok true ↔ IsHollow text) ∧
    (IsHollow text → (∀ free, isFree (some text) free = .ok true) ∧
      [Token.opener, Token.closer] <:+: tokens text) := by
  refine ⟨?_, fun free => exists_free_or_isHollow, isFree_none_iff,
    fun h => ⟨h.isFree, h.emptyGroup⟩⟩
  intro hgroups
  have hsolid : ¬ IsHollow text := fun h => hgroups h.emptyGroup
  refine ⟨fun free hfree => (exists_free_or_isHollow hfree).resolve_right hsolid, ?_⟩
  obtain ⟨answer, hanswer⟩ := exists_isFree text (.ofList [])
  cases answer with
  | true => exact absurd (isFree_none_iff.mp hanswer) hsolid
  | false => exact hanswer

/-- A license under a flag, and an empty group beside a license that is not free. -/
theorem free_and_hollow_texts :
    let text := "|| ( BSD doc? ( MIT ) )".toList
    let hollow := "|| ( BSD doc? ( ) )".toList
    let free : IdentifierSet := .ofList ["mit".toList]
    ¬ [Token.opener, Token.closer] <:+: tokens text ∧ isFree (some text) free = .ok true ∧
    (∃ t ∈ tokens text, t.kind = .identifier ∧ free.contains t.text.lower = true) ∧
    isFree (some text) (.ofList []) = .ok false ∧
    isFree (some hollow) (.ofList []) = .ok true ∧ IsHollow hollow ∧
    [Token.opener, Token.closer] <:+: tokens hollow := by
  intro text hollow free
  have hgroups : ¬ [Token.opener, Token.closer] <:+: tokens text := by decide +kernel
  have hfree : isFree (some text) free = .ok true := rfl
  have hempty : isFree (some hollow) (.ofList []) = .ok true := rfl
  obtain ⟨hgrants, -, -, -⟩ := free_texts_grant_license_unless_hollow text
  obtain ⟨-, -, hiff, hhollow⟩ := free_texts_grant_license_unless_hollow hollow
  exact ⟨hgroups, hfree, (hgrants hgroups).1 free hfree, (hgrants hgroups).2, hempty,
    hiff.mp hempty, (hhollow (hiff.mp hempty)).2⟩

/-- A pair of parentheses is free although it grants no license. -/
theorem empty_parentheses_are_free :
    ¬ ∀ (text : Text) (free : IdentifierSet), isFree (some text) free = .ok true →
      ∃ t ∈ tokens text, t.kind = .identifier ∧ free.contains t.text.lower = true := by
  intro h
  obtain ⟨t, ht, hkind, -⟩ := h "()".toList (.ofList []) rfl
  have htokens : tokens "()".toList = [Token.opener, Token.closer] := by decide +kernel
  rw [htokens] at ht
  simp only [List.mem_cons, List.not_mem_nil, or_false] at ht
  rcases ht with rfl | rfl
  · cases hkind
  · cases hkind

end License
end DistroBallot
