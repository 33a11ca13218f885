import DistroBallot.Proofs.License.Alternatives
import DistroBallot.Proofs.License.Seams
import Mathlib

/-!
# Laws of free license texts

A text can be told to be free or not by the texts that it is put together from. Two texts with
blanks between them are free when both are (`isFree_append_gap`), a text in parentheses is free when
the text inside is, also under a flag (`isFree_group`), and a group under `||` of texts in
parentheses is free when one of them is (`isFree_either`).

The texts have to be expressions. A text that is none can become part of one: `MIT ) ( BSD` is none,
but in parentheses it is. Only the last of texts with blanks between them needs no such condition,
since nothing behind it can help it.

What is put together from parts under one operator is then told by the set of its parts
(`Together.isFree_iff`, `Alternatives.isFree_iff`), in whatever order, number and grouping.
-/

namespace DistroBallot
namespace License

open Expression (evaluate evaluateAll evaluateAny)

variable {free : IdentifierSet} {t t' u v v' w : Text} {members others : List Expression}
variable {a b : Bool}

/-! ## Answers of lists of members -/

theorem evaluateAll_append (ha : evaluateAll free members = .ok a)
    (hb : evaluateAll free others = .ok b) :
    evaluateAll free (members ++ others) = .ok (a && b) := by
  induction members with
  | nil =>
      rw [evaluateAll] at ha
      obtain rfl := Except.ok.inj ha
      exact hb
  | cons e members ih =>
      rw [evaluateAll] at ha
      rw [List.cons_append, evaluateAll]
      cases he : evaluate free e with
      | error fault => simp [he] at ha
      | ok first =>
          rw [he] at ha
          cases first with
          | true => exact ih ha
          | false =>
              obtain rfl := Except.ok.inj ha
              rfl

theorem evaluateAny_append (ha : evaluateAny free members = .ok a)
    (hb : evaluateAny free others = .ok b) :
    evaluateAny free (members ++ others) = .ok (a || b) := by
  induction members with
  | nil =>
      rw [evaluateAny] at ha
      obtain rfl := Except.ok.inj ha
      exact hb
  | cons e members ih =>
      rw [evaluateAny] at ha
      rw [List.cons_append, evaluateAny]
      cases he : evaluate free e with
      | error fault => simp [he] at ha
      | ok first =>
          rw [he] at ha
          cases first with
          | false => exact ih ha
          | true =>
              obtain rfl := Except.ok.inj ha
              rfl

theorem evaluateAll_singleton (free : IdentifierSet) (e : Expression) :
    evaluateAll free [e] = evaluate free e := by
  rw [evaluateAll]
  split
  · next h => rw [h, evaluateAll]
  · rfl

theorem evaluateAny_singleton (free : IdentifierSet) (e : Expression) :
    evaluateAny free [e] = evaluate free e := by
  rw [evaluateAny]
  split
  · next h => rw [h, evaluateAny]
  · rfl

/-! ## Texts that are expressions -/

/-- The text is more than blanks, and its tokens are an expression. -/
structure IsExpression (t : Text) : Prop where
  not_blank : t.isBlankText = false
  reads : ∃ e, parse (tokens t) = .ok e

instance (t : Text) : Decidable (IsExpression t) :=
  match hparse : parse (tokens t) with
  | .ok e =>
      decidable_of_iff (t.isBlankText = false)
        ⟨fun hblank => ⟨hblank, e, hparse⟩, fun h => h.not_blank⟩
  | .error _ => .isFalse fun h => by
      obtain ⟨e, he⟩ := h.reads
      rw [hparse] at he
      cases he

theorem IsExpression.exists_members (h : IsExpression t) :
    ∃ members, parse (tokens t) = .ok (.all members) := by
  obtain ⟨e, he⟩ := h.reads
  obtain ⟨-, members, -, -, rfl⟩ := parse_eq_ok he
  exact ⟨members, he⟩

theorem isFree_of_parse (ht : t.isBlankText = false) (h : parse (tokens t) = .ok (.all members)) :
    isFree (some t) free = evaluateAll free members := by
  rw [isFree, ht, if_neg Bool.false_ne_true, h]
  exact Expression.evaluate.eq_2 free members

theorem isFree_of_not_reads (h : ¬ ∃ e, parse (tokens t) = .ok e) :
    isFree (some t) free = .ok false := by
  rw [isFree]
  cases hparse : parse (tokens t) with
  | ok e => exact absurd ⟨e, hparse⟩ h
  | error e => split <;> rfl

/-- Two texts are answered alike if they are free on the same condition. -/
theorem isFree_congr (h : isFree (some t) free = .ok true ↔ isFree (some u) free = .ok true) :
    isFree (some t) free = isFree (some u) free := by
  obtain ⟨a, ha⟩ := exists_isFree t free
  obtain ⟨b, hb⟩ := exists_isFree u free
  rw [ha, hb] at h ⊢
  cases a <;> cases b <;> simp_all

/-! ## Texts with blanks between them -/

theorem not_blank_append_right (hu : u.isBlankText = false) (t : Text) :
    Text.isBlankText (t ++ u) = false := by
  rw [Text.isBlankText] at hu ⊢
  rw [List.all_append, hu, Bool.and_false]

/-- **Two texts with blanks between them are free when both are**, where the first one is an
expression. -/
theorem isFree_append_gap (ht : IsExpression t) (hu : u.isBlankText = false) (hw : Gap w)
    (free : IdentifierSet) : ∃ a b, isFree (some t) free = .ok a ∧ isFree (some u) free = .ok b ∧
      isFree (some (t ++ w ++ u)) free = .ok (a && b) := by
  obtain ⟨a, ha⟩ := exists_isFree t free
  obtain ⟨members, hmembers⟩ := ht.exists_members
  by_cases hreads : ∃ e, parse (tokens u) = .ok e
  · obtain ⟨b, hb⟩ := exists_isFree u free
    obtain ⟨others, hothers⟩ := IsExpression.exists_members ⟨hu, hreads⟩
    have hparse : parse (tokens (t ++ w ++ u)) = .ok (.all (members ++ others)) := by
      rw [tokens_append_gap hw, parse_append hmembers hothers]
    refine ⟨a, b, ha, hb, ?_⟩
    rw [isFree_of_parse ht.not_blank hmembers] at ha
    rw [isFree_of_parse hu hothers] at hb
    rw [isFree_of_parse (not_blank_append_right hu _) hparse, evaluateAll_append ha hb]
  · have hwhole : ¬ ∃ e, parse (tokens (t ++ w ++ u)) = .ok e := by
      intro h
      rw [tokens_append_gap hw] at h
      exact hreads (parse_isOk_of_append hmembers h)
    refine ⟨a, false, ha, isFree_of_not_reads hreads, ?_⟩
    rw [isFree_of_not_reads hwhole, Bool.and_false]

theorem IsExpression.append_gap (ht : IsExpression t) (hu : IsExpression u) (hw : Gap w) :
    IsExpression (t ++ w ++ u) := by
  obtain ⟨members, hmembers⟩ := ht.exists_members
  obtain ⟨others, hothers⟩ := hu.exists_members
  refine ⟨not_blank_append_right hu.not_blank _, .all (members ++ others), ?_⟩
  rw [tokens_append_gap hw, parse_append hmembers hothers]

/-! ## Texts in parentheses -/

/-- How a head is written. -/
def Head.text : Head → Text
  | .plain => []
  | .either => ['|', '|']
  | .flag name negated => (Token.flag name negated).text

theorem tokens_head_append {head : Head} (hhead : head.Plain) (hv : Stops v) :
    tokens (head.text ++ v) = head.written ++ tokens v := by
  cases head with
  | plain => rfl
  | either =>
      have hsign : Token.orSign.Formed := rfl
      exact tokens_text_append hsign hv
  | flag name negated =>
      have hflag : (Token.flag name negated).Formed := ⟨name, negated, hhead, rfl⟩
      exact tokens_text_append hflag hv

/-- A text in parentheses, with a head in front of them, is one group. -/
theorem parse_tokens_group (head : Head) (hhead : head.Plain) (hv : Grouped t v)
    (h : parse (tokens t) = .ok (.all members)) :
    parse (tokens (head.text ++ v)) = .ok (.all [head.group members]) := by
  rw [tokens_head_append hhead hv.stops, hv.tokens_eq, parse_group hhead h]

theorem isFree_head_group (head : Head) (hhead : head.Plain) (hv : Grouped t v)
    (h : parse (tokens t) = .ok (.all members)) (free : IdentifierSet) :
    isFree (some (head.text ++ v)) free = evaluate free (head.group members) := by
  rw [isFree_of_parse (not_blank_append_right hv.not_blank _) (parse_tokens_group head hhead hv h),
    evaluateAll_singleton]

/-- **Parentheses make no difference, nor does a flag in front of them.** -/
theorem isFree_group (ht : IsExpression t) (hv : Grouped t v) (free : IdentifierSet) :
    isFree (some v) free = isFree (some t) free ∧
    ∀ name negated, PlainFlag name →
      isFree (some ((Token.flag name negated).text ++ v)) free = isFree (some t) free := by
  obtain ⟨members, hmembers⟩ := ht.exists_members
  rw [isFree_of_parse ht.not_blank hmembers]
  constructor
  · have hgroup := isFree_head_group .plain trivial hv hmembers free
    rw [Head.group, evaluate] at hgroup
    exact hgroup
  · intro name negated hname
    have hgroup := isFree_head_group (.flag name negated) hname hv hmembers free
    rw [Head.group, evaluate, evaluate] at hgroup
    exact hgroup

theorem IsExpression.group (ht : IsExpression t) (hv : Grouped t v) : IsExpression v := by
  obtain ⟨members, hmembers⟩ := ht.exists_members
  exact ⟨hv.not_blank, _, parse_tokens_group .plain trivial hv hmembers⟩

/-! ## Groups under the sign `||` -/

/-- A text that offers members to a sign `||`. The answer is that of the sign. -/
structure Offers (free : IdentifierSet) (t : Text) (answer : Bool) : Prop where
  stops : Stops t
  reads : ∃ members, parse (tokens t) = .ok (.all members) ∧ evaluateAny free members = .ok answer

/-- An expression in parentheses is one member. -/
theorem Grouped.offers (hv : Grouped t v) (ht : IsExpression t)
    (ha : isFree (some t) free = .ok a) : Offers free v a := by
  obtain ⟨members, hmembers⟩ := ht.exists_members
  rw [isFree_of_parse ht.not_blank hmembers] at ha
  refine ⟨hv.stops, [.all members], parse_tokens_group .plain trivial hv hmembers, ?_⟩
  rw [evaluateAny_singleton, evaluate, ha]

theorem Offers.append (ht : Offers free t a) (hu : Offers free u b) :
    Offers free (t ++ u) (a || b) := by
  obtain ⟨hstops, members, hmembers, ha⟩ := ht
  obtain ⟨hstops', others, hothers, hb⟩ := hu
  refine ⟨?_, members ++ others, ?_, evaluateAny_append ha hb⟩
  · intro c hc
    cases t with
    | nil => exact hstops' c hc
    | cons d t => exact hstops c hc
  · rw [tokens_append_of_stops hstops', parse_append hmembers hothers]

/-- The sign `||` in front of parentheses takes one of the members inside. -/
theorem Offers.isFree_either (ht : Offers free t a) (hu : Grouped t u) :
    isFree (some (['|', '|'] ++ u)) free = .ok a := by
  obtain ⟨-, members, hmembers, ha⟩ := ht
  have hgroup := isFree_head_group .either trivial hu hmembers free
  rw [Head.group, evaluate, ha] at hgroup
  exact hgroup

theorem Offers.isExpression_either (ht : Offers free t a) (hu : Grouped t u) :
    IsExpression (['|', '|'] ++ u) := by
  obtain ⟨-, members, hmembers, -⟩ := ht
  exact ⟨not_blank_append_right hu.not_blank _, _,
    parse_tokens_group .either trivial hu hmembers⟩

/-- **One of two texts in parentheses under a sign `||` is enough.** -/
theorem isFree_either (ht : IsExpression t) (ht' : IsExpression t') (hv : Grouped t v)
    (hv' : Grouped t' v') (hu : Grouped (v ++ v') u) (free : IdentifierSet) :
    ∃ a b, isFree (some t) free = .ok a ∧ isFree (some t') free = .ok b ∧
      isFree (some (['|', '|'] ++ u)) free = .ok (a || b) := by
  obtain ⟨a, ha⟩ := exists_isFree t free
  obtain ⟨b, hb⟩ := exists_isFree t' free
  have hoffers := (hv.offers ht ha).append (hv'.offers ht' hb)
  exact ⟨a, b, ha, hb, hoffers.isFree_either hu⟩

/-! ## Texts put together from parts -/

/-- The text is put together from expressions that all have to be free: they stand one after the
other with blanks between them, and there may be parentheses around any of them. -/
inductive Together : List Text → Text → Prop
  | part {t : Text} : IsExpression t → Together [t] t
  | group {parts : List Text} {t u : Text} : Together parts t → Grouped t u → Together parts u
  | append {parts parts' : List Text} {t t' w : Text} :
      Together parts t → Gap w → Together parts' t' → Together (parts ++ parts') (t ++ w ++ t')

/-- The text holds expressions one of which has to be free, if it stands in parentheses under a sign
`||`: they are in parentheses one after the other, and there may be such groups among them. -/
inductive Alternatives : List Text → Text → Prop
  | part {t u : Text} : IsExpression t → Grouped t u → Alternatives [t] u
  | group {parts : List Text} {t u v : Text} :
      Alternatives parts t → Grouped t u → Grouped (['|', '|'] ++ u) v → Alternatives parts v
  | append {parts parts' : List Text} {t t' : Text} :
      Alternatives parts t → Alternatives parts' t' → Alternatives (parts ++ parts') (t ++ t')

variable {parts parts' : List Text}

theorem Together.isExpression (h : Together parts t) : IsExpression t := by
  induction h with
  | part ht => exact ht
  | group _ hu ih => exact ih.group hu
  | append _ hw _ ih ih' => exact ih.append_gap ih' hw

/-- All parts have to be free. -/
theorem Together.isFree_iff (h : Together parts t) (free : IdentifierSet) :
    isFree (some t) free = .ok true ↔ ∀ part ∈ parts, isFree (some part) free = .ok true := by
  induction h with
  | part ht => rw [List.forall_mem_singleton]
  | group h hu ih => rw [(isFree_group h.isExpression hu free).1, ih]
  | append h hw h' ih ih' =>
      obtain ⟨a, b, ha, hb, hwhole⟩ :=
        isFree_append_gap h.isExpression h'.isExpression.not_blank hw free
      rw [List.forall_mem_append, ← ih, ← ih', ha, hb, hwhole]
      simp

/-- One part has to be free. -/
theorem Alternatives.exists_offers (h : Alternatives parts t) (free : IdentifierSet) :
    ∃ answer, Offers free t answer ∧
      (answer = true ↔ ∃ part ∈ parts, isFree (some part) free = .ok true) := by
  induction h with
  | @part t u ht hu =>
      obtain ⟨a, ha⟩ := exists_isFree t free
      exact ⟨a, hu.offers ht ha, by simp [ha]⟩
  | group _ hu hv ih =>
      obtain ⟨a, ha, hiff⟩ := ih
      exact ⟨a, hv.offers (ha.isExpression_either hu) (ha.isFree_either hu), hiff⟩
  | append _ _ ih ih' =>
      obtain ⟨a, ha, hiff⟩ := ih
      obtain ⟨b, hb, hiff'⟩ := ih'
      refine ⟨a || b, ha.append hb, ?_⟩
      rw [Bool.or_eq_true, hiff, hiff']
      simp [or_and_right, exists_or]

theorem Alternatives.isFree_iff (h : Alternatives parts t) (hu : Grouped t u)
    (free : IdentifierSet) : isFree (some (['|', '|'] ++ u)) free = .ok true ↔
      ∃ part ∈ parts, isFree (some part) free = .ok true := by
  obtain ⟨a, ha, hiff⟩ := h.exists_offers free
  rw [ha.isFree_either hu, ← hiff]
  simp

/-- **Laws of free license texts.** Two texts with blanks between them are free when both are; the
first one has to be an expression. An expression in parentheses is as free as without, with or
without a flag in front. Two expressions in parentheses of their own under a sign `||` are free when
one of them is. So the order of parts under one operator does not matter, nor do their repetitions,
nor how they are grouped. -/
theorem isFree_of_parts (free : IdentifierSet) :
    (∀ t u w, IsExpression t → u.isBlankText = false → Gap w →
      ∃ a b, isFree (some t) free = .ok a ∧ isFree (some u) free = .ok b ∧
        isFree (some (t ++ w ++ u)) free = .ok (a && b)) ∧
    (∀ t v, IsExpression t → Grouped t v →
      isFree (some v) free = isFree (some t) free ∧
      ∀ name negated, PlainFlag name →
        isFree (some ((Token.flag name negated).text ++ v)) free = isFree (some t) free) ∧
    (∀ t t' v v' u, IsExpression t → IsExpression t' → Grouped t v → Grouped t' v' →
      Grouped (v ++ v') u →
      ∃ a b, isFree (some t) free = .ok a ∧ isFree (some t') free = .ok b ∧
        isFree (some ("||".toList ++ u)) free = .ok (a || b)) ∧
    (∀ parts parts' t t', (∀ part, part ∈ parts ↔ part ∈ parts') →
      Together parts t → Together parts' t' →
      isFree (some t) free = isFree (some t') free) ∧
    ∀ parts parts' t t' u u', (∀ part, part ∈ parts ↔ part ∈ parts') →
      Alternatives parts t → Grouped t u → Alternatives parts' t' → Grouped t' u' →
      isFree (some ("||".toList ++ u)) free = isFree (some ("||".toList ++ u')) free := by
  refine ⟨?_, ?_, ?_, ?_, ?_⟩
  · exact fun t u w ht hu hw => isFree_append_gap ht hu hw free
  · exact fun t v ht hv => isFree_group ht hv free
  · exact fun t t' v v' u ht ht' hv hv' hu => isFree_either ht ht' hv hv' hu free
  · intro parts parts' t t' hparts h h'
    apply isFree_congr
    rw [h.isFree_iff, h'.isFree_iff]
    simp only [hparts]
  · intro parts parts' t t' u u' hparts h hu h' hu'
    apply isFree_congr
    show isFree (some (['|', '|'] ++ u)) free = .ok true ↔
      isFree (some (['|', '|'] ++ u')) free = .ok true
    rw [h.isFree_iff hu, h'.isFree_iff hu']
    simp only [hparts]

/-- One free license and one that is not, put together in several ways. -/
theorem isFree_of_mit_and_bsd :
    let free : IdentifierSet := ⟨["mit".toList]⟩
    IsExpression "MIT".toList ∧ IsExpression "BSD".toList ∧ ¬ IsExpression ")(".toList ∧
    isFree (some "MIT\t)(".toList) free = .ok false ∧
    isFree (some "!doc? ( MIT )".toList) free = .ok true ∧
    isFree (some "||((BSD)(MIT))".toList) free = .ok true ∧
    isFree (some "BSD MIT".toList) free = isFree (some "(MIT BSD) BSD".toList) free ∧
    isFree (some "||((BSD)(MIT))".toList) free =
      isFree (some "||((MIT)(||((BSD)(MIT))))".toList) free := by
  intro free
  have hmit : IsExpression "MIT".toList := by decide +kernel
  have hbsd : IsExpression "BSD".toList := by decide +kernel
  have hfree : isFree (some "MIT".toList) free = .ok true := rfl
  have hother : isFree (some "BSD".toList) free = .ok false := rfl
  have hgap : Gap " ".toList := by simp [Gap, isBlank]
  have hclose (t : Text) : Grouped t ([] ++ ['('] ++ [] ++ t ++ [] ++ [')'] ++ []) :=
    .intro rfl rfl rfl rfl
  obtain ⟨happend, hgroup, heither, htogether, halternatives⟩ := isFree_of_parts free
  refine ⟨hmit, hbsd, by decide +kernel, ?_, ?_, ?_, ?_, ?_⟩
  · have htab : Gap "\t".toList := by simp [Gap, isBlank]
    obtain ⟨a, b, ha, hb, hwhole⟩ := happend "MIT".toList ")(".toList _ hmit rfl htab
    rw [show isFree (some ")(".toList) free = .ok false from rfl] at hb
    obtain rfl := Except.ok.inj hb
    rwa [Bool.and_false] at hwhole
  · have hspaced : Grouped "MIT".toList " ( MIT )".toList :=
      @Grouped.intro _ " ".toList " ".toList " ".toList [] rfl rfl rfl rfl
    have hdoc : PlainFlag "doc".toList := by simp [PlainFlag, Token.isFlagChar, isBlank]
    exact ((hgroup _ _ hmit hspaced).2 _ true hdoc).trans hfree
  · obtain ⟨a, b, ha, hb, hwhole⟩ :=
      heither _ _ _ _ _ hbsd hmit (hclose _) (hclose _) (hclose _)
    rw [hother] at ha
    rw [hfree] at hb
    obtain rfl := Except.ok.inj ha
    obtain rfl := Except.ok.inj hb
    exact hwhole
  · have hshort := (Together.part hbsd).append hgap (.part hmit)
    have hlong := (((Together.part hmit).append hgap (.part hbsd)).group (hclose _)).append hgap
      (.part hbsd)
    exact htogether _ _ _ _ (by simp [or_comm]) hshort hlong
  · have hboth := (Alternatives.part hbsd (hclose _)).append (.part hmit (hclose _))
    have hnested := (Alternatives.part hmit (hclose _)).append (hboth.group (hclose _) (hclose _))
    exact halternatives _ _ _ _ _ _ (by simp [or_comm]) hboth (hclose _) hnested (hclose _)

end License
end DistroBallot
