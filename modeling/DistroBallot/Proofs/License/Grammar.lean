import DistroBallot.License.Expression
import Mathlib

/-!
# The token lists that are license expressions

An expression is written as tokens (`Expression.written`): a name as itself, a group in
parentheses, with its sign `||` or its flag in front. The machine that reads tokens is followed in
two ways.

* What it has read is what it would write. A `Reader` holds open groups, members and a head that
  waits; written out, they are the tokens taken so far (`take_written`, `takeAll_written`). So an
  expression that was read is written as the tokens it was read from.
* Whether it gets through depends on counts only: on the depth and on whether a head waits
  (`read_isOk_iff`). Over a whole list this is `WellNested`, which looks at no stack.
-/

namespace DistroBallot
namespace License

/-! ## Expressions as tokens -/

/-- The opening parenthesis. -/
def Token.opener : Token := ⟨.opening, ['(']⟩

/-- The closing parenthesis. -/
def Token.closer : Token := ⟨.closing, [')']⟩

/-- The sign `||`. -/
def Token.orSign : Token := ⟨.either, ['|', '|']⟩

/-- A flag: its name with a question mark, and an exclamation mark in front if it is negated. -/
def Token.flag (name : Text) (negated : Bool) : Token :=
  ⟨.param, (if negated then ['!'] else []) ++ name ++ ['?']⟩

namespace Expression

mutual

/-- The tokens an expression is written as. What is no expression is not written at all. -/
def written : Expression → List Token
  | .license name => [⟨.identifier, name⟩]
  | .all members => Token.opener :: (writtenAll members ++ [Token.closer])
  | .any members => Token.orSign :: Token.opener :: (writtenAll members ++ [Token.closer])
  | .conditional flag negated body => Token.flag flag negated :: body.written
  | .foreign _ => []

/-- The tokens of expressions one after the other. -/
def writtenAll : List Expression → List Token
  | [] => []
  | e :: rest => e.written ++ writtenAll rest

end

@[simp] theorem writtenAll_nil : writtenAll [] = [] := by
  rw [writtenAll]

@[simp] theorem writtenAll_cons (e : Expression) (rest : List Expression) :
    writtenAll (e :: rest) = e.written ++ writtenAll rest := by
  rw [writtenAll]

@[simp] theorem writtenAll_append (es fs : List Expression) :
    writtenAll (es ++ fs) = writtenAll es ++ writtenAll fs := by
  induction es with
  | nil => simp
  | cons e es ih => simp [ih]

end Expression

open Expression (writtenAll)

/-- The tokens in front of the parenthesis that opens a group. -/
def Head.written : Head → List Token
  | .plain => []
  | .either => [.orSign]
  | .flag name negated => [.flag name negated]

theorem written_group (head : Head) (members : List Expression) :
    (head.group members).written =
      head.written ++ Token.opener :: (writtenAll members ++ [Token.closer]) := by
  cases head <;> simp [Head.group, Head.written, Expression.written]

/-- The token as it would be written: with the text that belongs to its kind, a flag with the signs
that were read off it, and a name as it is. -/
def Token.canonical (t : Token) : Token :=
  match t.kind with
  | .identifier => t
  | .param =>
    .flag ((t.text.dropWhile (· == '!')).reverse.dropWhile (· == '?')).reverse
      (t.text.head? == some '!')
  | .opening => .opener
  | .closing => .closer
  | .either => .orSign

theorem written_ofParam (text : Text) :
    (Head.ofParam text).written = [Token.canonical ⟨.param, text⟩] := rfl

theorem canonical_kind (t : Token) : t.canonical.kind = t.kind := by
  unfold Token.canonical
  split <;> simp_all [Token.flag, Token.opener, Token.closer, Token.orSign]

/-! ## What a reader has read -/

namespace Reader

/-- The tokens up to the start of the innermost group. -/
def writtenGroups : List OpenGroup → List Token
  | [] => []
  | g :: outer =>
    writtenGroups outer ++ writtenAll g.before.reverse ++ g.head.written ++ [Token.opener]

/-- The tokens that the reader has taken. -/
def written (r : Reader) : List Token :=
  writtenGroups r.groups ++ writtenAll r.members.reverse ++ (r.pending.map Head.written).getD []

/-- What a reader does with a token that can stand where it stands, kind by kind. -/
inductive Takes : Reader → Token → Reader → Prop
  | name (groups members text) :
      Takes ⟨groups, members, none⟩ ⟨.identifier, text⟩ ⟨groups, .license text :: members, none⟩
  | flag (groups members text) :
      Takes ⟨groups, members, none⟩ ⟨.param, text⟩ ⟨groups, members, some (.ofParam text)⟩
  | either (groups members text) :
      Takes ⟨groups, members, none⟩ ⟨.either, text⟩ ⟨groups, members, some .either⟩
  | opening (groups members pending text) :
      Takes ⟨groups, members, pending⟩ ⟨.opening, text⟩
        ⟨⟨pending.getD .plain, members⟩ :: groups, [], none⟩
  | closing (g outer members text) :
      Takes ⟨g :: outer, members, none⟩ ⟨.closing, text⟩
        ⟨outer, g.head.group members.reverse :: g.before, none⟩

theorem take_eq_ok_iff {r next : Reader} {t : Token} : r.take t = .ok next ↔ Takes r t next := by
  constructor
  · intro h
    obtain ⟨groups, members, pending⟩ := r
    obtain ⟨kind, text⟩ := t
    cases pending with
    | some head =>
        -- a head that waits lets nothing but an opening parenthesis stand
        cases kind with
        | opening =>
            obtain rfl := Except.ok.inj h
            exact .opening groups members (some head) text
        | _ => cases h
    | none =>
        cases kind with
        | identifier =>
            obtain rfl := Except.ok.inj h
            exact .name groups members text
        | param =>
            obtain rfl := Except.ok.inj h
            exact .flag groups members text
        | either =>
            obtain rfl := Except.ok.inj h
            exact .either groups members text
        | opening =>
            obtain rfl := Except.ok.inj h
            exact .opening groups members none text
        | closing =>
            cases groups with
            | nil => cases h
            | cons g outer =>
                obtain rfl := Except.ok.inj h
                exact .closing g outer members text
  · intro h
    cases h with
    | opening groups members pending text => cases pending <;> rfl
    | _ => rfl

/-- A token that is taken is added to what is written. -/
theorem take_written {r next : Reader} {t : Token} (h : r.take t = .ok next) :
    next.written = r.written ++ [t.canonical] := by
  cases take_eq_ok_iff.mp h with
  | name groups members text => simp [written, Token.canonical, Expression.written]
  | flag groups members text => simp [written, written_ofParam]
  | either groups members text => simp [written, Head.written, Token.canonical]
  | opening groups members pending text =>
      cases pending <;> simp [written, writtenGroups, Head.written, Token.canonical]
  | closing g outer members text =>
      simp [written, writtenGroups, written_group, Token.canonical]

theorem takeAll_written {r last : Reader} {ts : List Token} (h : r.takeAll ts = .ok last) :
    last.written = r.written ++ ts.map Token.canonical := by
  induction ts generalizing r with
  | nil =>
      simp only [takeAll, Except.ok.injEq] at h
      simp [h]
  | cons t ts ih =>
      rw [takeAll] at h
      cases ht : r.take t with
      | error e => simp [ht] at h
      | ok next =>
          rw [ht] at h
          rw [ih h, take_written ht, List.map_cons, List.append_assoc]
          rfl

/-- At the end no group is open and no head is pending. -/
theorem eq_of_finish {r : Reader} {members : List Expression} (h : r.finish = .ok members) :
    r = ⟨[], members.reverse, none⟩ := by
  obtain ⟨groups, top, pending⟩ := r
  cases pending with
  | some head => cases h
  | none =>
      cases groups with
      | cons g outer => cases h
      | nil =>
          obtain rfl := Except.ok.inj h
          rw [List.reverse_reverse]

/-- At the end the members are all that was taken. -/
theorem finish_written {r : Reader} {members : List Expression} (h : r.finish = .ok members) :
    writtenAll members = r.written := by
  rw [eq_of_finish h]
  simp [written, writtenGroups]

end Reader

theorem parse_eq_ok {ts : List Token} {e : Expression} (h : parse ts = .ok e) :
    ∃ r members, Reader.start.takeAll ts = .ok r ∧ r.finish = .ok members ∧ e = .all members := by
  rw [parse] at h
  cases hr : Reader.start.takeAll ts with
  | error e => simp [hr] at h
  | ok r =>
      cases hf : r.finish with
      | error e => simp [hr, hf, Except.map] at h
      | ok members =>
          simp only [hr, hf, Except.map, Except.ok.injEq] at h
          exact ⟨r, members, rfl, hf, h.symm⟩

theorem parse_eq_all_iff {ts : List Token} {members : List Expression} :
    parse ts = .ok (.all members) ↔
      Reader.start.takeAll ts = .ok ⟨[], members.reverse, none⟩ := by
  constructor
  · intro h
    obtain ⟨r, members', hread, hfinish, hall⟩ := parse_eq_ok h
    obtain rfl : members = members' := Expression.all.inj hall
    rw [hread, Reader.eq_of_finish hfinish]
  · intro h
    rw [parse, h]
    simp [Reader.finish, Except.map]

/-- **What was read is written as it was read.** -/
theorem written_of_parse {ts : List Token} {e : Expression} (h : parse ts = .ok e) :
    ∃ members, e = .all members ∧ writtenAll members = ts.map Token.canonical := by
  obtain ⟨r, members, hr, hf, he⟩ := parse_eq_ok h
  refine ⟨members, he, ?_⟩
  rw [Reader.finish_written hf, Reader.takeAll_written hr]
  rfl

/-! ## Which lists are read -/

/-- The number of tokens of a kind. -/
def countKind (kind : TokenKind) (ts : List Token) : Nat :=
  ts.countP (fun t => t.kind == kind)

/-- Every sign `||` and every flag has an opening parenthesis right after it. -/
def HeadsOpen (ts : List Token) : Prop :=
  ∀ before t after, ts = before ++ t :: after → t.kind = .either ∨ t.kind = .param →
    after.head?.map Token.kind = some .opening

/-- No parenthesis is closed that is not open, all that are opened are closed, and every sign
`||` and every flag has its group. -/
structure WellNested (ts : List Token) : Prop where
  closing_le : ∀ before, before <+: ts → countKind .closing before ≤ countKind .opening before
  closing_eq : countKind .closing ts = countKind .opening ts
  heads_open : HeadsOpen ts

/-- Behind `depth` open parentheses no other is closed, and all are closed in the end. -/
def Closes (depth : Nat) (ts : List Token) : Prop :=
  (∀ before, before <+: ts → countKind .closing before ≤ depth + countKind .opening before) ∧
  countKind .closing ts = depth + countKind .opening ts

/-- What is well nested behind `depth` open parentheses and, if `waits`, a head that waits for its
parenthesis. -/
structure NestedFrom (depth : Nat) (waits : Bool) (ts : List Token) : Prop where
  closes : Closes depth ts
  heads_open : HeadsOpen ts
  opened : waits = true → ts.head?.map Token.kind = some .opening

theorem wellNested_iff {ts : List Token} : WellNested ts ↔ NestedFrom 0 false ts := by
  constructor
  · intro h
    exact ⟨⟨by simpa using h.closing_le, by simpa using h.closing_eq⟩, h.heads_open, by simp⟩
  · intro h
    exact ⟨by simpa using h.closes.1, by simpa using h.closes.2, h.heads_open⟩

theorem countKind_cons (kind : TokenKind) (t : Token) (ts : List Token) :
    countKind kind (t :: ts) = countKind kind [t] + countKind kind ts := by
  rw [countKind, ← List.singleton_append, List.countP_append]
  rfl

theorem closes_cons {depth : Nat} {t : Token} {ts : List Token} : Closes depth (t :: ts) ↔
    countKind .closing [t] ≤ depth + countKind .opening [t] ∧
    Closes (depth + countKind .opening [t] - countKind .closing [t]) ts := by
  constructor
  · rintro ⟨hle, heq⟩
    have ht := hle [t] (by simp)
    refine ⟨ht, fun before hb => ?_, ?_⟩
    · have := hle (t :: before) (List.cons_prefix_cons.mpr ⟨rfl, hb⟩)
      rw [countKind_cons, countKind_cons .opening] at this
      omega
    · rw [countKind_cons, countKind_cons .opening] at heq
      omega
  · rintro ⟨ht, hle, heq⟩
    -- a prefix is empty, or the token in front of a prefix of the rest
    refine ⟨fun before hb => ?_, ?_⟩
    · rcases List.prefix_cons_iff.mp hb with rfl | ⟨before, rfl, hbefore⟩
      · simp [countKind]
      · have := hle before hbefore
        rw [countKind_cons, countKind_cons .opening]
        omega
    · rw [countKind_cons, countKind_cons .opening]
      omega

theorem headsOpen_cons {t : Token} {ts : List Token} : HeadsOpen (t :: ts) ↔
    (t.kind = .either ∨ t.kind = .param → ts.head?.map Token.kind = some .opening) ∧
    HeadsOpen ts := by
  constructor
  · intro h
    exact ⟨h [] t ts rfl, fun before u after hts => h (t :: before) u after (by rw [hts]; rfl)⟩
  · rintro ⟨ht, h⟩ before u after heq
    cases before with
    | nil =>
        obtain ⟨rfl, rfl⟩ := List.cons.inj heq
        exact ht
    | cons b before => exact h before u after (List.cons.inj heq).2

/-- One token changes the depth, and decides whether a head waits behind it. -/
theorem nestedFrom_cons {depth : Nat} {waits : Bool} {t : Token} {ts : List Token} :
    NestedFrom depth waits (t :: ts) ↔
      (waits = true → t.kind = .opening) ∧
      countKind .closing [t] ≤ depth + countKind .opening [t] ∧
      NestedFrom (depth + countKind .opening [t] - countKind .closing [t])
        (decide (t.kind = .either ∨ t.kind = .param)) ts := by
  constructor
  · rintro ⟨hcloses, hheads, hopened⟩
    obtain ⟨ht, hcloses⟩ := closes_cons.mp hcloses
    obtain ⟨hhead, hheads⟩ := headsOpen_cons.mp hheads
    exact ⟨by simpa using hopened, ht, hcloses, hheads, by simpa using hhead⟩
  · rintro ⟨hopened, ht, hcloses, hheads, hhead⟩
    exact ⟨closes_cons.mpr ⟨ht, hcloses⟩, headsOpen_cons.mpr ⟨by simpa using hhead, hheads⟩,
      by simpa using hopened⟩

theorem nestedFrom_nil {depth : Nat} {waits : Bool} :
    NestedFrom depth waits [] ↔ depth = 0 ∧ waits = false := by
  constructor
  · rintro ⟨⟨_, heq⟩, _, hopened⟩
    exact ⟨by simpa [countKind] using heq.symm, by simpa using hopened⟩
  · rintro ⟨rfl, rfl⟩
    exact ⟨⟨by simp [countKind], rfl⟩, fun before t after h => by simp at h, by simp⟩

namespace Reader

/-- What is left to be nested after a token that is taken. -/
theorem nestedFrom_of_take {r next : Reader} {t : Token} (h : r.take t = .ok next)
    (ts : List Token) : NestedFrom r.groups.length r.pending.isSome (t :: ts) ↔
      NestedFrom next.groups.length next.pending.isSome ts := by
  rw [nestedFrom_cons]
  cases take_eq_ok_iff.mp h <;> simp [countKind]

/-- A token that is not taken cannot be nested here. -/
theorem not_nestedFrom_of_take {r : Reader} {t : Token} {e : SyntaxError}
    (h : r.take t = .error e) (ts : List Token) :
    ¬ NestedFrom r.groups.length r.pending.isSome (t :: ts) := by
  obtain ⟨groups, members, pending⟩ := r
  rw [nestedFrom_cons]
  cases pending with
  | some head =>
      rintro ⟨hopened, _⟩
      simp [take, hopened rfl] at h
  | none =>
      -- without a head that waits, only a closing parenthesis can be refused
      rintro ⟨_, hle, _⟩
      cases hk : t.kind with
      | closing =>
          cases groups with
          | nil => simp [countKind, hk] at hle
          | cons g outer => simp [take, hk] at h
      | _ => simp [take, hk] at h

theorem finish_isOk_iff {r : Reader} :
    (∃ members, r.finish = .ok members) ↔ r.groups.length = 0 ∧ r.pending.isSome = false := by
  obtain ⟨groups, members, pending⟩ := r
  cases pending <;> cases groups <;> simp [finish]

/-- **A reader gets through the rest just when the rest is nested from where it stands.** -/
theorem read_isOk_iff (r : Reader) (ts : List Token) :
    (∃ last members, r.takeAll ts = .ok last ∧ last.finish = .ok members) ↔
      NestedFrom r.groups.length r.pending.isSome ts := by
  induction ts generalizing r with
  | nil =>
      rw [nestedFrom_nil, ← finish_isOk_iff]
      simp [takeAll]
  | cons t ts ih =>
      cases ht : r.take t with
      | error e => simp [takeAll, ht, not_nestedFrom_of_take ht]
      | ok next =>
          rw [nestedFrom_of_take ht, ← ih next]
          simp [takeAll, ht]

end Reader

theorem parse_isOk_iff {ts : List Token} : (∃ e, parse ts = .ok e) ↔ WellNested ts := by
  rw [wellNested_iff]
  refine Iff.trans ?_ (Reader.read_isOk_iff .start ts)
  constructor
  · rintro ⟨e, h⟩
    obtain ⟨r, members, hr, hf, _⟩ := parse_eq_ok h
    exact ⟨r, members, hr, hf⟩
  · rintro ⟨r, members, hr, hf⟩
    exact ⟨.all members, by simp [parse, hr, hf, Except.map]⟩

/-- What is kept of a token when only names count: its kind, and the text of a name. -/
def Token.shape (t : Token) : TokenKind × Option Text :=
  (t.kind, if t.kind = .identifier then some t.text else none)

theorem canonical_shape (t : Token) : t.canonical.shape = t.shape := by
  rw [Token.shape, Token.shape, canonical_kind]
  split
  · next h => rw [Token.canonical, h]
  · rfl

/-- **Tokens are an expression just when they are well nested.** The expression is written as
tokens of the same kinds with the same names; all other lists end in a syntax error. -/
theorem parse_isOk_iff_wellNested_and_shape_written (ts : List Token) :
    ((∃ e, parse ts = .ok e) ↔ WellNested ts) ∧
    (∀ e, parse ts = .ok e → ∃ members, e = .all members ∧
      (writtenAll members).map Token.shape = ts.map Token.shape) ∧
    (¬ WellNested ts → ∃ error : SyntaxError, parse ts = .error error) := by
  refine ⟨parse_isOk_iff, ?_, ?_⟩
  · intro e h
    obtain ⟨members, he, hw⟩ := written_of_parse h
    refine ⟨members, he, ?_⟩
    rw [hw, List.map_map]
    exact List.map_congr_left fun t _ => canonical_shape t
  · intro h
    cases hp : parse ts with
    | ok e => exact absurd (parse_isOk_iff.mp ⟨e, hp⟩) h
    | error error => exact ⟨error, rfl⟩

end License
end DistroBallot
