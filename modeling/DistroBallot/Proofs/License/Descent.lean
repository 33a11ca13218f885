import DistroBallot.Proofs.License.Grammar
import Mathlib

/-!
# Reading license expressions by descent

The grammar of license expressions has three parts that call each other: a *sequence* of items up to
a closing parenthesis or the end, an *item*, and a *group* with its parentheses (`sequence`, `item`,
`group`). Each part reads tokens from the front and hands on what is left, with the proof that this
is not more than there was; so the descent ends.

A descent may be refused in one way that the machine with its stack does not know: a group could end
in something else than a closing parenthesis. It never does, since a sequence leaves nothing else
behind (`sequence_stops`). Apart from this the two read alike, part by part (`read_sequence`), and
refuse with the same error (`descend_eq_parse`).
-/

namespace DistroBallot
namespace License

/-- Why a descent is refused. -/
inductive Refusal where
  | syntaxError (e : SyntaxError)
  | expectedClosing (text : Text)
deriving DecidableEq, Repr

/-- The message for a refusal. -/
def Refusal.message : Refusal → String
  | .syntaxError e => e.message
  | .expectedClosing text => s!"expected ')' but got '{String.ofList text}'"

/-! ## The parts of the grammar -/

/-- What is read from tokens, and the tokens behind it, of which there are at most `bound`. -/
structure Part (α : Type) (bound : Nat) where
  value : α
  behind : List Token
  length_le : behind.length ≤ bound

/-- The same tokens read as something else. -/
def Part.map {α β : Type} {bound bound' : Nat} (f : α → β) (h : bound ≤ bound') (p : Part α bound) :
    Part β bound' :=
  ⟨f p.value, p.behind, p.length_le.trans h⟩

mutual

/-- The items up to a closing parenthesis or the end. -/
def sequence (ts : List Token) : Except Refusal (Part (List Expression) ts.length) :=
  match ts with
  | [] => .ok ⟨[], [], Nat.le_refl _⟩
  | t :: rest =>
    if t.kind = .closing then .ok ⟨[], t :: rest, Nat.le_refl _⟩
    else
      match item t rest with
      | .error refusal => .error refusal
      | .ok first =>
        have hfirst : first.behind.length ≤ (t :: rest).length := first.length_le.trans (by simp)
        (sequence first.behind).map (Part.map (first.value :: ·) hfirst)
termination_by (ts.length, 2)
decreasing_by
  · exact Prod.Lex.right _ (by decide)
  · exact Prod.Lex.left _ _ (Nat.lt_succ_of_le first.length_le)

/-- The item that starts with the token `t`: a group with or without a head, or a name. -/
def item (t : Token) (rest : List Token) : Except Refusal (Part Expression rest.length) :=
  match t.kind with
  | .param => (group rest).map (Part.map (Head.ofParam t.text).group (Nat.sub_le _ _))
  | .either => (group rest).map (Part.map Head.either.group (Nat.sub_le _ _))
  | .opening => (group (t :: rest)).map (Part.map Head.plain.group (Nat.le_refl _))
  | _ => .ok ⟨.license t.text, rest, Nat.le_refl _⟩
termination_by (rest.length + 1, 1)

/-- The members between an opening parenthesis and the closing one. -/
def group (ts : List Token) : Except Refusal (Part (List Expression) (ts.length - 1)) :=
  match ts with
  | [] => .error (.syntaxError .unexpectedEnd)
  | t :: rest =>
    if t.kind = .opening then
      match sequence rest with
      | .error refusal => .error refusal
      | .ok ⟨_, [], _⟩ => .error (.syntaxError .unexpectedEnd)
      | .ok ⟨members, u :: behind, hbehind⟩ =>
        if u.kind = .closing then .ok ⟨members, behind, Nat.le_of_lt hbehind⟩
        else .error (.expectedClosing u.text)
    else .error (.syntaxError (.expectedOpening t.text))
termination_by (ts.length, 0)

end

/-- The expression of all tokens: a sequence behind which nothing is left. -/
def descend (ts : List Token) : Except Refusal Expression :=
  match sequence ts with
  | .error refusal => .error refusal
  | .ok ⟨members, [], _⟩ => .ok (.all members)
  | .ok ⟨_, t :: _, _⟩ => .error (.syntaxError (.unexpected t.text))

/-- **A sequence leaves nothing but a closing parenthesis behind.** -/
theorem sequence_stops (ts : List Token) (p : Part (List Expression) ts.length)
    (h : sequence ts = .ok p) : ∀ t, p.behind.head? = some t → t.kind = .closing := by
  match ts with
  | [] =>
      rw [sequence] at h
      obtain rfl := Except.ok.inj h
      simp
  | t :: rest =>
      rw [sequence] at h
      split at h
      · next hclosing =>
          obtain rfl := Except.ok.inj h
          simpa using hclosing
      · cases hitem : item t rest with
        | error refusal => simp [hitem] at h
        | ok first =>
            have hle := first.length_le
            cases hothers : sequence first.behind with
            | error refusal => simp [hitem, hothers, Except.map] at h
            | ok others =>
                simp only [hitem, hothers, Except.map, Except.ok.injEq] at h
                subst h
                exact sequence_stops first.behind others hothers
termination_by ts.length

/-! ## The machine beside the descent -/

namespace Reader

variable {r next : Reader} {t : Token}

/-- What a reader reads of tokens, refused as a descent is. -/
def read (r : Reader) (ts : List Token) : Except Refusal (List Expression) :=
  match r.takeAll ts with
  | .ok last => last.finish.mapError .syntaxError
  | .error e => .error (.syntaxError e)

theorem read_cons (h : r.take t = .ok next) (ts : List Token) : r.read (t :: ts) = next.read ts := by
  rw [read, takeAll, h]
  rfl

theorem read_cons_of_error {e : SyntaxError} (h : r.take t = .error e) (ts : List Token) :
    r.read (t :: ts) = .error (.syntaxError e) := by
  rw [read, takeAll, h]

end Reader

mutual

/-- A sequence adds its items to the innermost group. -/
theorem read_sequence (groups : List OpenGroup) (before : List Expression) (ts : List Token) :
    Reader.read ⟨groups, before, none⟩ ts = (sequence ts).bind fun p =>
      Reader.read ⟨groups, p.value.reverse ++ before, none⟩ p.behind := by
  match ts with
  | [] =>
      rw [sequence]
      rfl
  | t :: rest =>
      rw [sequence]
      split
      · rfl
      · next hclosing =>
          rw [read_item groups before t rest hclosing]
          cases item t rest with
          | error refusal => rfl
          | ok first =>
              have hlt := Nat.lt_succ_of_le first.length_le
              have hothers := read_sequence groups (first.value :: before) first.behind
              simp only [Except.bind, hothers]
              cases sequence first.behind with
              | error refusal => rfl
              | ok others => simp [Except.map, Part.map]
termination_by (ts.length, 2)

/-- An item is one more member. -/
theorem read_item (groups : List OpenGroup) (before : List Expression) (t : Token)
    (rest : List Token) (ht : t.kind ≠ .closing) :
    Reader.read ⟨groups, before, none⟩ (t :: rest) = (item t rest).bind fun p =>
      Reader.read ⟨groups, p.value :: before, none⟩ p.behind := by
  rw [item]
  split
  · next hkind =>
      have htake : Reader.take ⟨groups, before, none⟩ t =
          .ok ⟨groups, before, some (.ofParam t.text)⟩ := by
        rw [Reader.take, hkind]
      rw [Reader.read_cons htake, read_group (.ofParam t.text) groups before rest]
      cases group rest <;> rfl
  · next hkind =>
      have htake : Reader.take ⟨groups, before, none⟩ t = .ok ⟨groups, before, some .either⟩ := by
        rw [Reader.take, hkind]
      rw [Reader.read_cons htake, read_group .either groups before rest]
      cases group rest <;> rfl
  · next hkind =>
      -- without a head, an opening parenthesis is taken as one behind the head of plain groups
      have hplain : Reader.take ⟨groups, before, none⟩ t =
          Reader.take ⟨groups, before, some .plain⟩ t := by
        simp only [Reader.take, hkind]
      have hread : Reader.read ⟨groups, before, none⟩ (t :: rest) =
          Reader.read ⟨groups, before, some .plain⟩ (t :: rest) := by
        simp only [Reader.read, Reader.takeAll, hplain]
      rw [hread, read_group .plain groups before (t :: rest)]
      cases group (t :: rest) <;> rfl
  · next hparam heither hopening =>
      have htake : Reader.take ⟨groups, before, none⟩ t =
          .ok ⟨groups, .license t.text :: before, none⟩ := by
        cases hkind : t.kind <;> simp_all [Reader.take]
      rw [Reader.read_cons htake]
      rfl
termination_by (rest.length + 1, 1)

/-- A group is one more member, under the head that waits for it. -/
theorem read_group (head : Head) (groups : List OpenGroup) (before : List Expression)
    (ts : List Token) :
    Reader.read ⟨groups, before, some head⟩ ts = (group ts).bind fun p =>
      Reader.read ⟨groups, head.group p.value :: before, none⟩ p.behind := by
  match ts with
  | [] =>
      rw [group]
      rfl
  | t :: rest =>
      rw [group]
      split
      · next hopening =>
          have htake : Reader.take ⟨groups, before, some head⟩ t =
              .ok ⟨⟨head, before⟩ :: groups, [], none⟩ := by
            rw [Reader.take, hopening]
          rw [Reader.read_cons htake, read_sequence (⟨head, before⟩ :: groups) [] rest]
          cases hmembers : sequence rest with
          | error refusal => rfl
          | ok p =>
              have hstops := sequence_stops rest p hmembers
              obtain ⟨members, behind, hle⟩ := p
              cases behind with
              | nil => rfl
              | cons u behind =>
                  have hclosing : u.kind = .closing := hstops u rfl
                  have hclose : Reader.take
                      ⟨⟨head, before⟩ :: groups, members.reverse ++ [], none⟩ u =
                        .ok ⟨groups, head.group members :: before, none⟩ := by
                    simp [Reader.take, hclosing]
                  simp only [Except.bind, Reader.read_cons hclose, if_pos hclosing]
      · next hopening =>
          have htake : Reader.take ⟨groups, before, some head⟩ t =
              .error (.expectedOpening t.text) := by
            cases hkind : t.kind <;> simp_all [Reader.take]
          rw [Reader.read_cons_of_error htake]
          rfl
termination_by (ts.length, 0)

end

/-- **The descent reads what the machine reads**, and is refused with the same errors. -/
theorem descend_eq_parse (ts : List Token) :
    descend ts = (parse ts).mapError Refusal.syntaxError := by
  have hparse : (parse ts).mapError Refusal.syntaxError = (Reader.start.read ts).map .all := by
    rw [parse, Reader.read]
    cases Reader.start.takeAll ts with
    | error e => rfl
    | ok last => cases hfinish : last.finish <;> simp [hfinish, Except.map, Except.mapError]
  rw [hparse, Reader.start, read_sequence, descend]
  cases hsequence : sequence ts with
  | error refusal => rfl
  | ok p =>
      have hstops := sequence_stops ts p hsequence
      obtain ⟨members, behind, hle⟩ := p
      cases behind with
      | nil => simp [Except.bind, Except.map, Reader.read, Reader.takeAll, Reader.finish,
          Except.mapError]
      | cons t behind =>
          have hclosing : t.kind = .closing := hstops t rfl
          have htake : Reader.take ⟨[], members.reverse ++ [], none⟩ t =
              .error (.unexpected t.text) := by
            simp [Reader.take, hclosing]
          simp only [Except.bind, Reader.read_cons_of_error htake]
          rfl

end License
end DistroBallot
