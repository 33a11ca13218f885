import DistroBallot.License.Evaluation
import DistroBallot.Proofs.License.Grammar
import Mathlib

/-!
# The alternatives of a license expression

What an expression asks for is read as a choice: it has *alternatives*, each a set of names in lower
case, and it is free when all names of one of them are (`Expression.alternatives`). A list of
members under `all` has a union of alternatives for each way of choosing one per member, so that
their number grows as a product; evaluation never builds them.

* Evaluation decides just this (`decides_of_native`), on expressions without foreign values.
* Reading makes no other expressions (`native_of_parse`): what a reader holds is without foreign
  values at each step.

So a text is told to be free or not in every case, and it is free just when some alternative of it
is.
-/

namespace DistroBallot
namespace License
namespace Expression

/-! ## Alternatives -/

mutual

/-- The alternatives of an expression. The flag of a group and its sign make no difference. What is
no expression has none. -/
def alternatives : Expression → Finset (Finset Text)
  | .license name => {{name.lower}}
  | .all members => unions members
  | .any members => choices members
  | .conditional _ _ body => alternatives body
  | .foreign _ => ∅

/-- Every union of one alternative per member. -/
def unions : List Expression → Finset (Finset Text)
  | [] => {∅}
  | e :: rest => Finset.image₂ (· ∪ ·) (alternatives e) (unions rest)

/-- All alternatives of all members. -/
def choices : List Expression → Finset (Finset Text)
  | [] => ∅
  | e :: rest => alternatives e ∪ choices rest

end

/-- All names of an alternative are free. -/
def Covered (free : IdentifierSet) (names : Finset Text) : Prop :=
  ∀ name ∈ names, free.contains name = true

theorem covered_union {free : IdentifierSet} {a b : Finset Text} :
    Covered free (a ∪ b) ↔ Covered free a ∧ Covered free b := by
  constructor
  · intro h
    exact ⟨fun n hn => h n (Finset.mem_union_left b hn),
      fun n hn => h n (Finset.mem_union_right a hn)⟩
  · rintro ⟨ha, hb⟩ n hn
    rcases Finset.mem_union.mp hn with hn | hn
    · exact ha n hn
    · exact hb n hn

/-- A union is covered just when the alternative chosen of each member is. -/
theorem exists_covered_unions_cons {free : IdentifierSet} {e : Expression}
    {rest : List Expression} : (∃ a ∈ unions (e :: rest), Covered free a) ↔
      (∃ a ∈ alternatives e, Covered free a) ∧ ∃ a ∈ unions rest, Covered free a := by
  rw [unions]
  constructor
  · rintro ⟨names, hnames, hcovered⟩
    obtain ⟨a, ha, b, hb, rfl⟩ := Finset.mem_image₂.mp hnames
    obtain ⟨hca, hcb⟩ := covered_union.mp hcovered
    exact ⟨⟨a, ha, hca⟩, ⟨b, hb, hcb⟩⟩
  · rintro ⟨⟨a, ha, hca⟩, ⟨b, hb, hcb⟩⟩
    exact ⟨a ∪ b, Finset.mem_image₂_of_mem ha hb, covered_union.mpr ⟨hca, hcb⟩⟩

theorem exists_covered_choices_cons {free : IdentifierSet} {e : Expression}
    {rest : List Expression} : (∃ a ∈ choices (e :: rest), Covered free a) ↔
      (∃ a ∈ alternatives e, Covered free a) ∨ ∃ a ∈ choices rest, Covered free a := by
  rw [choices]
  constructor
  · rintro ⟨a, ha, hcovered⟩
    rcases Finset.mem_union.mp ha with ha | ha
    · exact Or.inl ⟨a, ha, hcovered⟩
    · exact Or.inr ⟨a, ha, hcovered⟩
  · rintro (⟨a, ha, hcovered⟩ | ⟨a, ha, hcovered⟩)
    · exact ⟨a, Finset.mem_union_left _ ha, hcovered⟩
    · exact ⟨a, Finset.mem_union_right _ ha, hcovered⟩

/-! ## Evaluation decides by alternatives -/

/-- Evaluation answers, and says whether some alternative is covered. -/
def Decides (free : IdentifierSet) (e : Expression) : Prop :=
  ∃ answer, evaluate free e = .ok answer ∧
    (answer = true ↔ ∃ a ∈ alternatives e, Covered free a)

theorem decides_license (free : IdentifierSet) (name : Text) :
    Decides free (.license name) := by
  refine ⟨free.contains name.lower, by rw [evaluate], ?_⟩
  simp [alternatives, Covered]

theorem evaluateAll_of_decides {free : IdentifierSet} {members : List Expression}
    (h : ∀ e ∈ members, Decides free e) : ∃ answer, evaluateAll free members = .ok answer ∧
      (answer = true ↔ ∃ a ∈ unions members, Covered free a) := by
  induction members with
  | nil => exact ⟨true, by rw [evaluateAll], by simp [unions, Covered]⟩
  | cons e rest ih =>
      rw [List.forall_mem_cons] at h
      obtain ⟨first, hfirst, hiff⟩ := h.1
      rw [evaluateAll, hfirst, exists_covered_unions_cons, ← hiff]
      cases first with
      | false => exact ⟨false, rfl, by simp⟩
      | true =>
          obtain ⟨others, hothers, hrest⟩ := ih h.2
          exact ⟨others, hothers, by simp [hrest]⟩

theorem evaluateAny_of_decides {free : IdentifierSet} {members : List Expression}
    (h : ∀ e ∈ members, Decides free e) : ∃ answer, evaluateAny free members = .ok answer ∧
      (answer = true ↔ ∃ a ∈ choices members, Covered free a) := by
  induction members with
  | nil => exact ⟨false, by rw [evaluateAny], by simp [choices]⟩
  | cons e rest ih =>
      rw [List.forall_mem_cons] at h
      obtain ⟨first, hfirst, hiff⟩ := h.1
      rw [evaluateAny, hfirst, exists_covered_choices_cons, ← hiff]
      cases first with
      | true => exact ⟨true, rfl, by simp⟩
      | false =>
          obtain ⟨others, hothers, hrest⟩ := ih h.2
          exact ⟨others, hothers, by simp [hrest]⟩

/-- The expressions without foreign values. -/
inductive Native : Expression → Prop
  | license (name : Text) : Native (.license name)
  | all {members : List Expression} : (∀ e ∈ members, Native e) → Native (.all members)
  | any {members : List Expression} : (∀ e ∈ members, Native e) → Native (.any members)
  | conditional {flag : Text} {negated : Bool} {body : Expression} :
      Native body → Native (.conditional flag negated body)

/-- **Evaluation decides whether some alternative is covered.** -/
theorem decides_of_native {e : Expression} (free : IdentifierSet) (h : e.Native) :
    Decides free e := by
  induction h with
  | license name => exact decides_license free name
  | all _ ih =>
      rw [Decides, evaluate, alternatives]
      exact evaluateAll_of_decides ih
  | any _ ih =>
      rw [Decides, evaluate, alternatives]
      exact evaluateAny_of_decides ih
  | conditional _ ih =>
      rw [Decides, evaluate, alternatives]
      exact ih

end Expression

open Expression (Native)

/-! ## What is read is native -/

theorem native_group (head : Head) {members : List Expression} (h : ∀ e ∈ members, Native e) :
    Native (head.group members) := by
  cases head with
  | plain => exact .all h
  | either => exact .any h
  | flag name negated => exact .conditional (.all h)

namespace Reader

/-- Nothing that the reader holds has a foreign value in it. -/
structure HoldsNative (r : Reader) : Prop where
  groups : ∀ g ∈ r.groups, ∀ e ∈ g.before, Native e
  members : ∀ e ∈ r.members, Native e

theorem holdsNative_of_take {r next : Reader} {t : Token} (hr : r.HoldsNative)
    (h : r.take t = .ok next) : next.HoldsNative := by
  obtain ⟨hgroups, hmembers⟩ := hr
  cases take_eq_ok_iff.mp h with
  | name groups members text =>
      exact ⟨hgroups, List.forall_mem_cons.mpr ⟨.license text, hmembers⟩⟩
  | flag groups members text => exact ⟨hgroups, hmembers⟩
  | either groups members text => exact ⟨hgroups, hmembers⟩
  | opening groups members pending text =>
      exact ⟨List.forall_mem_cons.mpr ⟨hmembers, hgroups⟩, by simp⟩
  | closing g outer members text =>
      rw [List.forall_mem_cons] at hgroups
      have hgroup : Native (g.head.group members.reverse) :=
        native_group g.head fun e he => hmembers e (List.mem_reverse.mp he)
      exact ⟨hgroups.2, List.forall_mem_cons.mpr ⟨hgroup, hgroups.1⟩⟩

theorem holdsNative_of_takeAll {r last : Reader} {ts : List Token} (hr : r.HoldsNative)
    (h : r.takeAll ts = .ok last) : last.HoldsNative := by
  induction ts generalizing r with
  | nil =>
      obtain rfl := Except.ok.inj h
      exact hr
  | cons t ts ih =>
      rw [takeAll] at h
      cases ht : r.take t with
      | error e => simp [ht] at h
      | ok next =>
          rw [ht] at h
          exact ih (holdsNative_of_take hr ht) h

end Reader

/-- **What is read from tokens has no foreign value in it.** -/
theorem native_of_parse {ts : List Token} {e : Expression} (h : parse ts = .ok e) : e.Native := by
  obtain ⟨r, members, hr, hfinish, rfl⟩ := parse_eq_ok h
  have hstart : Reader.start.HoldsNative := ⟨by simp [Reader.start], by simp [Reader.start]⟩
  have hlast := Reader.holdsNative_of_takeAll hstart hr
  rw [Reader.eq_of_finish hfinish] at hlast
  exact .all fun e he => hlast.members e (List.mem_reverse.mpr he)

/-! ## Free texts -/

/-- No text leads to a foreign value. -/
theorem exists_isFree (text : Text) (free : IdentifierSet) :
    ∃ answer, isFree (some text) free = .ok answer := by
  rw [isFree]
  split
  · exact ⟨false, rfl⟩
  · split
    · next e hparse =>
        obtain ⟨answer, hanswer, -⟩ := Expression.decides_of_native free (native_of_parse hparse)
        exact ⟨answer, hanswer⟩
    · exact ⟨false, rfl⟩

/-- **A text is always told to be free or not, and it is free just when it has a free alternative.**
It has to be more than blanks, to be an expression, and to have an alternative all of whose names are
among the free ones. -/
theorem isFree_iff_exists_covered_alternative (text : Text) (free : IdentifierSet) :
    ∃ answer, isFree (some text) free = .ok answer ∧
      (answer = true ↔ text.isBlankText = false ∧ ∃ e, parse (tokens text) = .ok e ∧
        ∃ names ∈ e.alternatives, ∀ name ∈ names, free.contains name = true) := by
  obtain ⟨answer, hanswer⟩ := exists_isFree text free
  refine ⟨answer, hanswer, ?_⟩
  rw [isFree] at hanswer
  cases hblank : text.isBlankText with
  | true =>
      obtain rfl : false = answer := by simpa [hblank] using hanswer
      simp
  | false =>
      rw [hblank, if_neg Bool.false_ne_true] at hanswer
      cases hparse : parse (tokens text) with
      | error e =>
          obtain rfl : false = answer := by simpa [hparse] using hanswer
          simp
      | ok e =>
          obtain ⟨decided, hdecided, hiff⟩ :=
            Expression.decides_of_native free (native_of_parse hparse)
          obtain rfl : decided = answer := by simpa [hparse, hdecided] using hanswer
          simpa [Expression.Covered] using hiff

-- one of two licenses beside a third one, under a flag that counts as set
example : (parse (tokens "GPL-2 doc? ( || ( MIT BSD ) )".toList)).toOption.map
    Expression.alternatives =
      some {{"gpl-2".toList, "mit".toList}, {"gpl-2".toList, "bsd".toList}} := by
  decide +kernel

end License
end DistroBallot
