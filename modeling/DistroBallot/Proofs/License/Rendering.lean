import DistroBallot.Proofs.License.Grammar
import DistroBallot.License.Token
import Mathlib

/-!
# License expressions as text

An expression is rendered by the texts of its tokens with blanks between them (`Spaced`). A token
stands for itself in a text when it has the form of its kind (`Token.Formed`): a flag matches the
form of flags, and a name has no `||` and no flag at its start.

* The tokenizer gives formed tokens only (`formed_of_mem_tokens`), and it takes any formed token
  off the front of a text in which the token ends (`tokens_text_append`).
* So what is rendered from formed tokens is read back as these tokens (`tokens_of_spaced`), and an
  expression with such names and flags as itself.
-/

namespace DistroBallot
namespace License

open Expression (writtenAll)

/-! ## The forms of tokens -/

/-- The name of a flag: not empty, without blanks and without `(`, `)`, `?`, `|` and `!`. -/
def PlainFlag (name : Text) : Prop :=
  name ≠ [] ∧ ∀ c ∈ name, Token.isFlagChar c = true

/-- The form of flags: a name with a question mark, and perhaps an exclamation mark in front. -/
def FlagForm (t : Text) : Prop :=
  ∃ name negated, PlainFlag name ∧ t = (Token.flag name negated).text

/-- A name that is read as a name: not empty, without blanks and parentheses, and with neither `||`
nor a flag at its start. -/
structure PlainName (name : Text) : Prop where
  ne_nil : name ≠ []
  chars : ∀ c ∈ name, Token.isNameChar c = true
  no_sign : ¬ ['|', '|'] <+: name
  no_flag : ∀ start, start <+: name → ¬ FlagForm start

/-- A token with the text of its kind. -/
def Token.Formed (t : Token) : Prop :=
  match t.kind with
  | .identifier => PlainName t.text
  | .param => FlagForm t.text
  | .opening => t.text = ['(']
  | .closing => t.text = [')']
  | .either => t.text = ['|', '|']

theorem flag_text (name : Text) (negated : Bool) :
    (Token.flag name negated).text = (if negated then ['!'] else []) ++ name ++ ['?'] := rfl

namespace Token

/-- A flag without its sign is found where it stands. -/
theorem flagText?_eq_some_iff {t p : Text} :
    flagText? t = some p ↔ ∃ name, PlainFlag name ∧ p = name ++ ['?'] ∧ p <+: t := by
  constructor
  · intro h
    unfold flagText? at h
    split at h
    · next c name after hname hafter =>
        obtain rfl := Option.some.inj h
        refine ⟨c :: name, ⟨by simp, fun d hd => ?_⟩, rfl, after, ?_⟩
        · rw [← hname] at hd
          exact List.mem_takeWhile_imp hd
        · rw [← List.takeWhile_append_dropWhile (p := isFlagChar) (l := t), hname, hafter]
          simp
    · simp at h
  · rintro ⟨name, ⟨hne, hchars⟩, rfl, after, rfl⟩
    have htake : (name ++ ['?'] ++ after).takeWhile isFlagChar = name := by
      rw [List.append_assoc, List.takeWhile_append_of_pos hchars]
      simp [isFlagChar]
    have hdrop : (name ++ ['?'] ++ after).dropWhile isFlagChar = '?' :: after := by
      rw [List.append_assoc, List.dropWhile_append_of_pos hchars]
      simp [isFlagChar]
    obtain ⟨c, rest, rfl⟩ := List.exists_cons_of_ne_nil hne
    rw [flagText?, htake, hdrop]
    rfl

/-- A flag is found at the start of a text just when a prefix has its form. -/
theorem paramText?_eq_some_iff {t p : Text} :
    paramText? t = some p ↔ FlagForm p ∧ p <+: t := by
  by_cases hsign : ∃ rest, t = '!' :: rest
  · obtain ⟨rest, rfl⟩ := hsign
    rw [paramText?, Option.map_eq_some_iff]
    constructor
    · rintro ⟨q, hq, rfl⟩
      obtain ⟨name, hname, rfl, hprefix⟩ := flagText?_eq_some_iff.mp hq
      exact ⟨⟨name, true, hname, rfl⟩, List.cons_prefix_cons.mpr ⟨rfl, hprefix⟩⟩
    · rintro ⟨⟨name, negated, hname, rfl⟩, hprefix⟩
      cases negated with
      | true =>
          exact ⟨name ++ ['?'], flagText?_eq_some_iff.mpr
            ⟨name, hname, rfl, (List.cons_prefix_cons.mp hprefix).2⟩, rfl⟩
      | false =>
          -- the first character of a name is no exclamation mark
          obtain ⟨c, name, rfl⟩ := List.exists_cons_of_ne_nil hname.1
          obtain rfl : c = '!' := (List.cons_prefix_cons.mp hprefix).1
          exact absurd (hname.2 '!' List.mem_cons_self) (by decide)
  · have hno : ∀ rest, t = '!' :: rest → False := fun rest h => hsign ⟨rest, h⟩
    rw [paramText?.eq_2 t hno, flagText?_eq_some_iff]
    constructor
    · rintro ⟨name, hname, rfl, hprefix⟩
      exact ⟨⟨name, false, hname, rfl⟩, hprefix⟩
    · rintro ⟨⟨name, negated, hname, rfl⟩, hprefix⟩
      cases negated with
      | true =>
          obtain ⟨after, rfl⟩ := hprefix
          exact (hno _ rfl).elim
      | false => exact ⟨name, hname, rfl, hprefix⟩

theorem paramText?_eq_none_iff {t : Text} :
    paramText? t = none ↔ ∀ p, p <+: t → ¬ FlagForm p := by
  rw [Option.eq_none_iff_forall_ne_some]
  exact ⟨fun h p hp hf => h p (paramText?_eq_some_iff.mpr ⟨hf, hp⟩),
    fun h p hp => h p (paramText?_eq_some_iff.mp hp).2 (paramText?_eq_some_iff.mp hp).1⟩

/-! ## Tokens in a text -/

theorem isNameChar_of_isFlagChar {c : Char} (h : isFlagChar c = true) : isNameChar c = true := by
  simp only [isFlagChar, Bool.and_eq_true] at h
  simp only [isNameChar, Bool.and_eq_true]
  exact h.1.1.1

end Token

theorem FlagForm.ne_nil {t : Text} (h : FlagForm t) : t ≠ [] := by
  obtain ⟨name, negated, -, rfl⟩ := h
  simp [flag_text]

theorem FlagForm.chars {t : Text} (h : FlagForm t) : ∀ c ∈ t, Token.isNameChar c = true := by
  obtain ⟨name, negated, hname, rfl⟩ := h
  intro c hc
  simp only [flag_text, List.mem_append, List.mem_singleton] at hc
  rcases hc with (hc | hc) | rfl
  · cases negated with
    | true =>
        obtain rfl : c = '!' := by simpa using hc
        decide
    | false => simp at hc
  · exact Token.isNameChar_of_isFlagChar (hname.2 c hc)
  · decide

/-- A text in front of which a name ends: it is empty or starts with a blank or a parenthesis. -/
def Stops (rest : Text) : Prop := ∀ c, rest.head? = some c → Token.isNameChar c = false

/-- What holds name characters only and starts a text in which a name ends is part of the name. -/
theorem prefix_of_prefix_append {p name rest : Text} (hp : ∀ c ∈ p, Token.isNameChar c = true)
    (hrest : Stops rest) (h : p <+: name ++ rest) : p <+: name := by
  rcases List.prefix_or_prefix_of_prefix h (List.prefix_append name rest) with h' | ⟨q, rfl⟩
  · exact h'
  · have hq : q <+: rest := (List.prefix_append_right_inj name).mp h
    cases q with
    | nil => simp
    | cons c q =>
        obtain ⟨after, rfl⟩ := hq
        have hc := hrest c rfl
        rw [hp c (by simp)] at hc
        cases hc

namespace Token

theorem takeWhile_append_of_stops {rest : Text} (hrest : Stops rest) (t : Text) :
    (t ++ rest).takeWhile isNameChar = t.takeWhile isNameChar := by
  induction t with
  | nil =>
      cases rest with
      | nil => rfl
      | cons c rest => simp [hrest c rfl]
  | cons c t ih => rw [List.cons_append, List.takeWhile_cons, List.takeWhile_cons, ih]

theorem paramText?_append_of_stops {rest : Text} (hrest : Stops rest) (t : Text) :
    paramText? (t ++ rest) = paramText? t := by
  ext p
  rw [paramText?_eq_some_iff, paramText?_eq_some_iff]
  constructor
  · rintro ⟨hform, hprefix⟩
    exact ⟨hform, prefix_of_prefix_append hform.chars hrest hprefix⟩
  · rintro ⟨hform, hprefix⟩
    exact ⟨hform, hprefix.trans (List.prefix_append t rest)⟩

/-- Where a name ends behind a text, its first token does not depend on what follows. -/
theorem first_append_of_stops {t rest : Text} (ht : t ≠ []) (hrest : Stops rest) :
    first (t ++ rest) = first t := by
  obtain ⟨c, t, rfl⟩ := List.exists_cons_of_ne_nil ht
  have hsign : ∀ after, c :: (t ++ rest) = '|' :: '|' :: after →
      ∃ after', c :: t = '|' :: '|' :: after' := by
    intro after h
    have hprefix : ['|', '|'] <+: c :: t := by
      refine prefix_of_prefix_append ?_ hrest ⟨after, h.symm⟩
      simp [isNameChar, isBlank]
    obtain ⟨after', h'⟩ := hprefix
    exact ⟨after', h'.symm⟩
  have hparam := paramText?_append_of_stops hrest (c :: t)
  have htake := takeWhile_append_of_stops hrest (c :: t)
  rw [List.cons_append] at hparam htake ⊢
  cases hflag : paramText? (c :: t) with
  | some flag => simp only [first, hparam, hflag]
  | none =>
      simp only [first, hparam, hflag]
      split
      · next h =>
          obtain rfl := (List.cons.inj h).1
          rfl
      · next h =>
          obtain rfl := (List.cons.inj h).1
          rfl
      · next after h =>
          obtain ⟨after', h'⟩ := hsign after h
          rw [h']
          rfl
      · next hopen hclose heither =>
          rw [htake]
          split
          · next h => exact absurd (congrArg (· ++ rest) h) (hopen _)
          · next h => exact absurd (congrArg (· ++ rest) h) (hclose _)
          · next h => exact absurd (congrArg (· ++ rest) h) (heither _)
          · rfl

theorem Formed.ne_nil {t : Token} (ht : t.Formed) : t.text ≠ [] := by
  obtain ⟨kind, text⟩ := t
  cases kind with
  | identifier => exact PlainName.ne_nil ht
  | param => exact FlagForm.ne_nil ht
  | _ =>
      intro h
      simp [Formed] at ht
      simp [ht] at h

/-- A formed token is the first of its own text. -/
theorem first_text {t : Token} (ht : t.Formed) : first t.text = t := by
  obtain ⟨kind, text⟩ := t
  cases kind with
  | param =>
      have h : paramText? text = some text := paramText?_eq_some_iff.mpr ⟨ht, List.prefix_rfl⟩
      simp only [first, h]
  | opening =>
      obtain rfl : text = ['('] := ht
      rfl
  | closing =>
      obtain rfl : text = [')'] := ht
      rfl
  | either =>
      obtain rfl : text = ['|', '|'] := ht
      rfl
  | identifier =>
      -- the kinds that are tried before names are ruled out one after the other
      obtain ⟨-, hchars, hsign, hflag⟩ : PlainName text := ht
      have hnone : paramText? text = none := paramText?_eq_none_iff.mpr hflag
      simp only [first, hnone]
      split
      · exact absurd (hchars '(' List.mem_cons_self) (by decide)
      · exact absurd (hchars ')' List.mem_cons_self) (by decide)
      · next after => exact absurd ⟨after, rfl⟩ hsign
      · rw [List.takeWhile_eq_self_iff.mpr hchars]

/-- **A formed token is the first of any text in which it ends.** -/
theorem first_append {t : Token} (ht : t.Formed) {rest : Text} (hrest : Stops rest) :
    first (t.text ++ rest) = t := by
  rw [first_append_of_stops ht.ne_nil hrest, first_text ht]

/-- **The first token of a text is formed.** -/
theorem first_formed {c : Char} (hc : isBlank c = false) (rest : Text) :
    (first (c :: rest)).Formed := by
  cases hp : paramText? (c :: rest) with
  | some flag =>
      simp only [first, hp]
      exact (paramText?_eq_some_iff.mp hp).1
  | none =>
      simp only [first, hp]
      rw [paramText?_eq_none_iff] at hp
      split
      · rfl
      · rfl
      · rfl
      · next hopen hclose hsign =>
          have hname : isNameChar c = true := by
            simp only [isNameChar, hc, Bool.not_false, Bool.true_and, Bool.and_eq_true, bne_iff_ne]
            exact ⟨fun h => hopen rest (h ▸ rfl), fun h => hclose rest (h ▸ rfl)⟩
          have hstart : (c :: rest).takeWhile isNameChar <+: c :: rest := List.takeWhile_prefix _
          refine ⟨?_, fun d hd => List.mem_takeWhile_imp hd, ?_, fun p hpre => ?_⟩
          · simp [hname]
          · intro h
            obtain ⟨after, hafter⟩ := h.trans hstart
            exact hsign after hafter.symm
          · exact hp p (hpre.trans hstart)

/-- No character of a formed token is blank. -/
theorem Formed.not_blank {t : Token} (ht : t.Formed) : ∀ c ∈ t.text, isBlank c = false := by
  have hname : ∀ {c}, isNameChar c = true → isBlank c = false := by
    intro c hc
    simp only [isNameChar, Bool.and_eq_true, Bool.not_eq_true'] at hc
    exact hc.1.1
  obtain ⟨kind, text⟩ := t
  cases kind with
  | identifier => exact fun c hc => hname (PlainName.chars ht c hc)
  | param => exact fun c hc => hname (FlagForm.chars ht c hc)
  | opening =>
      obtain rfl : text = ['('] := ht
      simp [isBlank]
  | closing =>
      obtain rfl : text = [')'] := ht
      simp [isBlank]
  | either =>
      obtain rfl : text = ['|', '|'] := ht
      simp [isBlank]

end Token

theorem formed_of_mem_tokensFrom {skip : Nat} {text : Text} {t : Token}
    (h : t ∈ tokensFrom skip text) : t.Formed := by
  induction text generalizing skip with
  | nil => cases skip <;> simp [tokensFrom] at h
  | cons c rest ih =>
      cases skip with
      | succ skip => exact ih h
      | zero =>
          rw [tokensFrom] at h
          split at h
          · exact ih h
          · next hc =>
              rcases List.mem_cons.mp h with rfl | h
              · exact Token.first_formed (by simpa using hc) rest
              · exact ih h

/-- **Every token of a text is formed.** -/
theorem formed_of_mem_tokens {text : Text} {t : Token} (h : t ∈ tokens text) : t.Formed :=
  formed_of_mem_tokensFrom h

/-- A formed token is taken off the front of a text in which it ends. -/
theorem tokens_text_append {t : Token} (ht : t.Formed) {rest : Text} (hrest : Stops rest) :
    tokens (t.text ++ rest) = t :: tokens rest := by
  have hfirst := Token.first_append ht hrest
  obtain ⟨c, text, htext⟩ := List.exists_cons_of_ne_nil ht.ne_nil
  have hc : isBlank c = false := ht.not_blank c (by simp [htext])
  rw [htext, List.cons_append] at hfirst ⊢
  rw [tokens_cons hc, hfirst, htext]
  simp

/-! ## Renderings -/

/-- Blanks, at least one. -/
def Gap (gap : Text) : Prop := gap ≠ [] ∧ ∀ c ∈ gap, isBlank c = true

/-- The texts one after the other with a gap between any two. -/
inductive Spaced : List Text → Text → Prop
  | nil : Spaced [] []
  | single (t : Text) : Spaced [t] t
  | cons (t : Text) {gap : Text} {u : Text} {ts : List Text} {rest : Text} :
      Gap gap → Spaced (u :: ts) rest → Spaced (t :: u :: ts) (t ++ gap ++ rest)

/-- With one and the same gap everywhere. -/
theorem spaced_join {gap : Text} (h : Gap gap) (ts : List Text) :
    Spaced ts (Text.join gap ts) := by
  induction ts with
  | nil => exact .nil
  | cons t ts ih =>
      cases ts with
      | nil => simpa [Text.join] using Spaced.single t
      | cons u ts =>
          have hjoin : Text.join gap (t :: u :: ts) = t ++ gap ++ Text.join gap (u :: ts) := by
            simp [Text.join]
          rw [hjoin]
          exact .cons t h ih

theorem stops_of_gap {gap : Text} (h : Gap gap) (rest : Text) : Stops (gap ++ rest) := by
  obtain ⟨c, gap, rfl⟩ := List.exists_cons_of_ne_nil h.1
  intro d hd
  obtain rfl : c = d := by simpa using hd
  simp [Token.isNameChar, h.2 c List.mem_cons_self]

theorem tokens_gap_append {gap : Text} (h : Gap gap) (rest : Text) :
    tokens (gap ++ rest) = tokens rest := by
  obtain ⟨-, hblank⟩ := h
  induction gap with
  | nil => rfl
  | cons c gap ih =>
      rw [List.forall_mem_cons] at hblank
      rw [List.cons_append, tokens_cons_blank hblank.1, ih hblank.2]

/-- **Formed tokens with gaps between them are read as they are.** -/
theorem tokens_of_spaced {ts : List Token} (hts : ∀ t ∈ ts, t.Formed) {text : Text}
    (h : Spaced (ts.map Token.text) text) : tokens text = ts := by
  induction ts generalizing text with
  | nil =>
      cases h
      rfl
  | cons t ts ih =>
      rw [List.forall_mem_cons] at hts
      cases ts with
      | nil =>
          cases h
          have hend : Stops [] := by simp [Stops]
          simpa using tokens_text_append hts.1 hend
      | cons u ts =>
          cases h with
          | @cons _ gap _ _ rest hgap hrest =>
              rw [List.append_assoc, tokens_text_append hts.1 (stops_of_gap hgap rest),
                tokens_gap_append hgap, ih hts.2 hrest]

/-! ## Reading back what is written -/

theorem dropWhile_eq_self {p : Char → Bool} {t : Text} (h : ∀ c ∈ t, p c = false) :
    t.dropWhile p = t := by
  cases t with
  | nil => rfl
  | cons c t => simp [h c List.mem_cons_self]

/-- The signs around the name of a flag are told from the name. -/
theorem ofParam_flag {name : Text} (h : PlainFlag name) (negated : Bool) :
    Head.ofParam (Token.flag name negated).text = .flag name negated := by
  have hmark : ∀ c ∈ name, (c == '?') = false := by
    intro c hc
    have := h.2 c hc
    simp_all [Token.isFlagChar]
  have hbang : ∀ c ∈ name ++ ['?'], (c == '!') = false := by
    intro c hc
    rcases List.mem_append.mp hc with hc | hc
    · have := h.2 c hc
      simp_all [Token.isFlagChar]
    · simp [List.mem_singleton.mp hc]
  have hname : ((name ++ ['?']).reverse.dropWhile (· == '?')).reverse = name := by
    rw [List.reverse_append, List.reverse_singleton, List.singleton_append,
      List.dropWhile_cons_of_pos (by simp), dropWhile_eq_self (by simpa using hmark),
      List.reverse_reverse]
  cases negated with
  | true =>
      rw [Head.ofParam, flag_text, if_pos rfl, List.append_assoc, List.singleton_append,
        List.dropWhile_cons_of_pos (by simp), dropWhile_eq_self hbang, hname]
      simp
  | false =>
      obtain ⟨c, rest, hcons⟩ := List.exists_cons_of_ne_nil h.1
      have hc : c ≠ '!' := by simpa [hcons] using hbang c (by simp [hcons])
      rw [Head.ofParam, flag_text, if_neg Bool.false_ne_true, List.nil_append,
        dropWhile_eq_self hbang, hname, hcons]
      simp [hc]

theorem canonical_of_formed {t : Token} (ht : t.Formed) : t.canonical = t := by
  obtain ⟨kind, text⟩ := t
  cases kind with
  | identifier => rfl
  | param =>
      obtain ⟨name, negated, hname, rfl⟩ : FlagForm text := ht
      obtain ⟨h, h'⟩ := Head.flag.inj (ofParam_flag hname negated)
      simp only [Token.canonical, h, h']
      rfl
  | opening =>
      obtain rfl : text = ['('] := ht
      rfl
  | closing =>
      obtain rfl : text = [')'] := ht
      rfl
  | either =>
      obtain rfl : text = ['|', '|'] := ht
      rfl

/-- An expression that a text can show: names that are read as names, names of flags, and a list of
members under every flag. -/
inductive Writable : Expression → Prop
  | license {name : Text} : PlainName name → Writable (.license name)
  | all {members : List Expression} : (∀ e ∈ members, Writable e) → Writable (.all members)
  | any {members : List Expression} : (∀ e ∈ members, Writable e) → Writable (.any members)
  | conditional {flag : Text} {negated : Bool} {members : List Expression} :
      PlainFlag flag → (∀ e ∈ members, Writable e) →
      Writable (.conditional flag negated (.all members))

theorem formed_of_mem_writtenAll {members : List Expression}
    (h : ∀ e ∈ members, ∀ t ∈ e.written, t.Formed) : ∀ t ∈ writtenAll members, t.Formed := by
  induction members with
  | nil => simp
  | cons e members ih =>
      rw [List.forall_mem_cons] at h
      rw [Expression.writtenAll_cons]
      intro t ht
      rcases List.mem_append.mp ht with ht | ht
      · exact h.1 t ht
      · exact ih h.2 t ht

/-- The tokens of a group are formed when those of its members are. -/
theorem formed_of_mem_group {members : List Expression}
    (h : ∀ e ∈ members, ∀ t ∈ e.written, t.Formed) :
    ∀ t ∈ Token.opener :: (writtenAll members ++ [Token.closer]), t.Formed := by
  intro t ht
  simp only [List.mem_cons, List.mem_append, List.not_mem_nil, or_false] at ht
  rcases ht with rfl | ht | rfl
  · rfl
  · exact formed_of_mem_writtenAll h t ht
  · rfl

theorem formed_of_writable {e : Expression} (h : Writable e) : ∀ t ∈ e.written, t.Formed := by
  induction h with
  | license hname =>
      rw [Expression.written, List.forall_mem_singleton]
      exact hname
  | all _ ih =>
      rw [Expression.written]
      exact formed_of_mem_group ih
  | any _ ih =>
      rw [Expression.written, List.forall_mem_cons]
      exact ⟨rfl, formed_of_mem_group ih⟩
  | conditional hflag _ ih =>
      rw [Expression.written, Expression.written, List.forall_mem_cons]
      exact ⟨⟨_, _, hflag, rfl⟩, formed_of_mem_group ih⟩

namespace Reader

theorem takeAll_cons {r next : Reader} {t : Token} (h : r.take t = .ok next) (ts : List Token) :
    r.takeAll (t :: ts) = next.takeAll ts := by
  rw [takeAll, h]

theorem takeAll_writtenAll {members : List Expression}
    (h : ∀ e ∈ members, ∀ groups before rest, takeAll ⟨groups, before, none⟩ (e.written ++ rest) =
      takeAll ⟨groups, e :: before, none⟩ rest)
    (groups : List OpenGroup) (before : List Expression) (rest : List Token) :
    takeAll ⟨groups, before, none⟩ (writtenAll members ++ rest) =
      takeAll ⟨groups, members.reverse ++ before, none⟩ rest := by
  induction members generalizing before with
  | nil => simp
  | cons e members ih =>
      rw [List.forall_mem_cons] at h
      rw [Expression.writtenAll_cons, List.append_assoc, h.1, ih h.2]
      simp

/-- A group that has been opened is read up to its end, and becomes one more member of the group
around it. -/
theorem takeAll_group {members : List Expression}
    (h : ∀ e ∈ members, ∀ groups before rest, takeAll ⟨groups, before, none⟩ (e.written ++ rest) =
      takeAll ⟨groups, e :: before, none⟩ rest)
    (head : Head) (groups : List OpenGroup) (before : List Expression) (rest : List Token) :
    takeAll ⟨⟨head, before⟩ :: groups, [], none⟩ (writtenAll members ++ [Token.closer] ++ rest) =
      takeAll ⟨groups, head.group members :: before, none⟩ rest := by
  have hclose : take ⟨⟨head, before⟩ :: groups, members.reverse ++ [], none⟩ Token.closer =
      .ok ⟨groups, head.group members :: before, none⟩ := by
    simp [take, Token.closer]
  rw [List.append_assoc, takeAll_writtenAll h, List.singleton_append, takeAll_cons hclose]

/-- **What is written is read as one more member.** -/
theorem takeAll_written_of_writable {e : Expression} (h : Writable e) (groups : List OpenGroup)
    (before : List Expression) (rest : List Token) :
    takeAll ⟨groups, before, none⟩ (e.written ++ rest) =
      takeAll ⟨groups, e :: before, none⟩ rest := by
  induction h generalizing groups before rest with
  | license _ =>
      rw [Expression.written]
      exact takeAll_cons rfl rest
  | all _ ih =>
      rw [Expression.written, List.cons_append, takeAll_cons rfl]
      exact takeAll_group ih .plain groups before rest
  | any _ ih =>
      rw [Expression.written, List.cons_append, takeAll_cons rfl, List.cons_append,
        takeAll_cons rfl]
      exact takeAll_group ih .either groups before rest
  | @conditional flag negated _ hflag _ ih =>
      have hhead : take ⟨groups, before, none⟩ (.flag flag negated) =
          .ok ⟨groups, before, some (.flag flag negated)⟩ := by
        rw [← ofParam_flag hflag negated]
        rfl
      rw [Expression.written, Expression.written, List.cons_append, takeAll_cons hhead,
        List.cons_append, takeAll_cons rfl]
      exact takeAll_group ih (.flag flag negated) groups before rest

end Reader

theorem parse_writtenAll {members : List Expression} (h : ∀ e ∈ members, Writable e) :
    parse (writtenAll members) = .ok (.all members) := by
  have hread := Reader.takeAll_writtenAll
    (fun e he => Reader.takeAll_written_of_writable (h e he)) [] [] []
  rw [List.append_nil, List.append_nil, Reader.takeAll] at hread
  exact parse_eq_all_iff.mpr hread

/-- What was read from a text is written as the tokens of the text. -/
theorem writtenAll_of_parse_tokens {text : Text} {e : Expression}
    (h : parse (tokens text) = .ok e) :
    ∃ members, e = .all members ∧ writtenAll members = tokens text := by
  obtain ⟨members, he, hw⟩ := written_of_parse h
  refine ⟨members, he, hw.trans ?_⟩
  calc (tokens text).map Token.canonical
      = (tokens text).map id :=
        List.map_congr_left fun t ht => canonical_of_formed (formed_of_mem_tokens ht)
    _ = tokens text := List.map_id _

/-- The text is a rendering of an expression at the top: the members without parentheses around
them, and a gap between any two tokens. -/
def Renders (members : List Expression) (text : Text) : Prop :=
  Spaced ((writtenAll members).map Token.text) text

/-- **Rendering and reading are inverse to each other.** Any gap gives a rendering. An expression
whose names are read as names and whose flags are names of flags is read back from each of its
renderings. What was read from a text has the tokens of that text in each of its renderings; so
texts that are read give one expression just when they have the same tokens. -/
theorem parse_tokens_of_renders_and_tokens_of_parse :
    (∀ members gap, Gap gap →
      Renders members (Text.join gap ((writtenAll members).map Token.text))) ∧
    (∀ members text, (∀ e ∈ members, Writable e) → Renders members text →
      parse (tokens text) = .ok (.all members)) ∧
    (∀ text e, parse (tokens text) = .ok e → ∃ members, e = .all members ∧
      ∀ rendered, Renders members rendered → tokens rendered = tokens text) ∧
    (∀ text text' e e', parse (tokens text) = .ok e → parse (tokens text') = .ok e' →
      (e = e' ↔ tokens text = tokens text')) := by
  refine ⟨fun members gap h => spaced_join h _, ?_, ?_, ?_⟩
  · intro members text hw hr
    have hformed := formed_of_mem_writtenAll fun e he => formed_of_writable (hw e he)
    rw [tokens_of_spaced hformed hr, parse_writtenAll hw]
  · intro text e h
    obtain ⟨members, he, hwritten⟩ := writtenAll_of_parse_tokens h
    refine ⟨members, he, fun rendered hr => ?_⟩
    rw [Renders, hwritten] at hr
    exact tokens_of_spaced (fun t ht => formed_of_mem_tokens ht) hr
  · intro text text' e e' h h'
    constructor
    · rintro rfl
      obtain ⟨members, rfl, hwritten⟩ := writtenAll_of_parse_tokens h
      obtain ⟨members', he, hwritten'⟩ := writtenAll_of_parse_tokens h'
      obtain rfl : members = members' := Expression.all.inj he
      rw [← hwritten, hwritten']
    · intro htokens
      rw [htokens, h'] at h
      exact (Except.ok.inj h).symm

end License
end DistroBallot
