import DistroBallot.Proofs.License.Descent
import DistroBallot.Proofs.License.Seams
import Mathlib

/-!
# Tokens that can become an expression

A reader that has taken tokens without an error can always be brought to an end: a head that waits
gets an empty group, and every open group is closed (`Reader.completion`). A token that it does not
take is not made good by anything behind it. So the tokens that can be completed to an expression are
those that a reader takes (`completable_iff`), and the error of tokens that are no expression stands
at the first token with which they cannot be completed any more, or at the end if they still can.

What a reader does not take is told by the tokens before it: a head waits just when they end in a sign
`||` or a flag (`Reader.pending_isSome_iff`), and the groups that are open are the parentheses opened
and not closed (`Reader.countKind_closing_add_length`).
-/

namespace DistroBallot
namespace License

variable {ts us : List Token} {t : Token}

/-- The tokens are the front of an expression. -/
def Completable (ts : List Token) : Prop :=
  ∃ more e, parse (ts ++ more) = .ok e

/-- The last token is a sign `||` or a flag. -/
def EndsInHead (ts : List Token) : Prop :=
  ∃ t, ts.getLast? = some t ∧ (t.kind = .either ∨ t.kind = .param)

/-- The token `t` is the first of `ts` with which they cannot be completed; those before it can. -/
structure FirstHopeless (ts before : List Token) (t : Token) : Prop where
  stands : before ++ [t] <+: ts
  completable_iff : ∀ start, start <+: ts →
    (Completable start ↔ start.length ≤ before.length)

namespace Reader

variable {r next last : Reader} {e : SyntaxError}

/-! ## Bringing a reader to its end -/

/-- An empty group for a head that waits, and the closing parentheses of the open groups. -/
def completion (r : Reader) : List Token :=
  (if r.pending.isSome then [Token.opener, Token.closer] else []) ++
    List.replicate r.groups.length Token.closer

theorem takeAll_closers (groups : List OpenGroup) (members : List Expression) :
    ∃ all, takeAll ⟨groups, members, none⟩ (List.replicate groups.length Token.closer) =
      .ok ⟨[], all, none⟩ := by
  induction groups generalizing members with
  | nil => exact ⟨members, rfl⟩
  | cons g groups ih =>
      have hclose : take ⟨g :: groups, members, none⟩ Token.closer =
          .ok ⟨groups, g.head.group members.reverse :: g.before, none⟩ := rfl
      rw [List.length_cons, List.replicate_succ, takeAll_cons hclose]
      exact ih _

/-- **Any reader can be brought to its end.** -/
theorem takeAll_completion (r : Reader) :
    ∃ all, r.takeAll r.completion = .ok ⟨[], all, none⟩ := by
  obtain ⟨groups, members, pending⟩ := r
  cases pending with
  | none => exact takeAll_closers groups members
  | some head =>
      have hopen : take ⟨groups, members, some head⟩ Token.opener =
          .ok ⟨⟨head, members⟩ :: groups, [], none⟩ := rfl
      have hclose : take ⟨⟨head, members⟩ :: groups, [], none⟩ Token.closer =
          .ok ⟨groups, head.group [] :: members, none⟩ := rfl
      rw [completion, Option.isSome_some, if_pos rfl, List.cons_append, List.singleton_append,
        takeAll_cons hopen, takeAll_cons hclose]
      exact takeAll_closers groups _

/-! ## Tokens that are not taken -/

theorem take_eq_error_iff : r.take t = .error e ↔
    (r.pending.isSome = true ∧ t.kind ≠ .opening ∧ e = .expectedOpening t.text) ∨
    (r.pending = none ∧ r.groups = [] ∧ t.kind = .closing ∧ e = .unexpected t.text) := by
  obtain ⟨groups, members, pending⟩ := r
  cases pending with
  | some head => cases hkind : t.kind <;> simp [take, hkind, eq_comm]
  | none =>
      cases hkind : t.kind with
      | closing => cases groups <;> simp [take, hkind, eq_comm]
      | _ => simp [take, hkind]

theorem takeAll_append_of_error (h : r.takeAll ts = .error e) (us : List Token) :
    r.takeAll (ts ++ us) = .error e := by
  induction ts generalizing r with
  | nil => cases h
  | cons t ts ih =>
      rw [List.cons_append, takeAll]
      rw [takeAll] at h
      cases htake : r.take t with
      | error e' => rwa [htake] at h
      | ok next =>
          rw [htake] at h
          exact ih h

/-- An error comes from one token, and the tokens before it are taken. -/
theorem exists_of_takeAll_eq_error (h : r.takeAll ts = .error e) :
    ∃ before t next, before ++ [t] <+: ts ∧ r.takeAll before = .ok next ∧
      next.take t = .error e := by
  induction ts generalizing r with
  | nil => cases h
  | cons t ts ih =>
      rw [takeAll] at h
      cases htake : r.take t with
      | error e' =>
          rw [htake] at h
          obtain rfl := Except.error.inj h
          exact ⟨[], t, r, ⟨ts, rfl⟩, rfl, htake⟩
      | ok next =>
          rw [htake] at h
          obtain ⟨before, u, last, hfront, hbefore, hu⟩ := ih h
          refine ⟨t :: before, u, last, ?_, ?_, hu⟩
          · exact List.cons_prefix_cons.mpr ⟨rfl, hfront⟩
          · rw [takeAll_cons htake, hbefore]

theorem exists_of_takeAll_append (h : r.takeAll (ts ++ us) = .ok last) :
    ∃ next, r.takeAll ts = .ok next ∧ next.takeAll us = .ok last := by
  cases hts : r.takeAll ts with
  | error e => simp [takeAll_append_of_error hts us] at h
  | ok next => exact ⟨next, rfl, by rw [← h, takeAll_append hts]⟩

/-! ## What the tokens tell about a reader -/

/-- A head waits just when the tokens end in one. -/
theorem pending_isSome_iff (h : start.takeAll ts = .ok r) :
    r.pending.isSome = true ↔ EndsInHead ts := by
  rcases List.eq_nil_or_concat' ts with rfl | ⟨before, t, rfl⟩
  · obtain rfl := Except.ok.inj h
    simp [start, EndsInHead]
  · obtain ⟨mid, -, hlast⟩ := exists_of_takeAll_append h
    have htake : mid.take t = .ok r := by
      rw [takeAll] at hlast
      cases hmid : mid.take t with
      | error e => simp [hmid] at hlast
      | ok next => simpa [hmid, takeAll] using hlast
    cases take_eq_ok_iff.mp htake <;> simp [EndsInHead]

/-- Each open group is a parenthesis that was opened and not closed. -/
theorem countKind_closing_add_length (h : r.takeAll ts = .ok last) :
    countKind .closing ts + last.groups.length = countKind .opening ts + r.groups.length := by
  induction ts generalizing r with
  | nil =>
      obtain rfl := Except.ok.inj h
      rfl
  | cons t ts ih =>
      cases htake : r.take t with
      | error e => simp [takeAll, htake] at h
      | ok next =>
          rw [takeAll_cons htake] at h
          have hrest := ih h
          have hstep : countKind .closing [t] + next.groups.length =
              countKind .opening [t] + r.groups.length := by
            cases take_eq_ok_iff.mp htake <;> simp [countKind, Nat.add_comm]
          rw [countKind_cons, countKind_cons .opening]
          omega

end Reader

/-! ## Tokens that can be completed -/

/-- **Tokens can be completed just when a reader takes them.** -/
theorem completable_iff : Completable ts ↔ ∃ r, Reader.start.takeAll ts = .ok r := by
  constructor
  · rintro ⟨more, e, h⟩
    obtain ⟨last, -, hread, -, -⟩ := parse_eq_ok h
    obtain ⟨r, hr, -⟩ := Reader.exists_of_takeAll_append hread
    exact ⟨r, hr⟩
  · rintro ⟨r, hr⟩
    obtain ⟨all, hall⟩ := r.takeAll_completion
    refine ⟨r.completion, .all all.reverse, parse_eq_all_iff.mpr ?_⟩
    rw [Reader.takeAll_append hr, hall, List.reverse_reverse]

theorem Completable.of_front (h : Completable ts) (hfront : us <+: ts) : Completable us := by
  obtain ⟨more, e, he⟩ := h
  obtain ⟨rest, rfl⟩ := hfront
  exact ⟨rest ++ more, e, by rwa [← List.append_assoc]⟩

/-- The token that a reader does not take is the first hopeless one. -/
theorem firstHopeless_of_take {before : List Token} {r : Reader} {e : SyntaxError}
    (hfront : before ++ [t] <+: ts) (hbefore : Reader.start.takeAll before = .ok r)
    (ht : r.take t = .error e) : FirstHopeless ts before t := by
  refine ⟨hfront, fun first hfirst => ?_⟩
  constructor
  · intro hcompletable
    by_contra hlonger
    -- longer tokens would start with those before `t` and `t` itself
    have hlength : (before ++ [t]).length ≤ first.length := by
      rw [List.length_append, List.length_singleton]
      omega
    have hreach := hcompletable.of_front (List.prefix_of_prefix_length_le hfront hfirst hlength)
    obtain ⟨last, hlast⟩ := completable_iff.mp hreach
    rw [Reader.takeAll_append hbefore, Reader.takeAll, ht] at hlast
    cases hlast
  · intro hshort
    have hwithin : first <+: before :=
      List.prefix_of_prefix_length_le hfirst ((List.prefix_append before [t]).trans hfront) hshort
    exact (completable_iff.mpr ⟨r, hbefore⟩).of_front hwithin

/-- Tokens that are no expression end too early, or a reader does not take them. -/
theorem parse_eq_error_cases {e : SyntaxError} (h : parse ts = .error e) :
    (Completable ts ∧ e = .unexpectedEnd) ∨ Reader.start.takeAll ts = .error e := by
  rw [parse] at h
  cases hread : Reader.start.takeAll ts with
  | error e' =>
      rw [hread] at h
      exact .inr (congrArg Except.error (Except.error.inj h))
  | ok r =>
      refine .inl ⟨completable_iff.mpr ⟨r, hread⟩, ?_⟩
      rw [hread] at h
      obtain ⟨groups, members, pending⟩ := r
      cases pending with
      | some head => exact (Except.error.inj h).symm
      | none =>
          cases groups with
          | nil => cases h
          | cons g outer => exact (Except.error.inj h).symm

/-- The messages that name a token do not read like the one that names none. -/
theorem message_eq_iff {e : SyntaxError} :
    e.message = "unexpected end of expression" ↔ e = .unexpectedEnd := by
  constructor
  · intro h
    have hlist := congrArg String.toList h
    cases e with
    | unexpectedEnd => rfl
    | unexpected text =>
        have hunexpected : ("unexpected '" ++ String.ofList text ++ "'").toList =
            "unexpected end of expression".toList := hlist
        simp at hunexpected
    | expectedOpening text =>
        have hexpected : ("expected '(' but got '" ++ String.ofList text ++ "'").toList =
            "unexpected end of expression".toList := hlist
        simp at hexpected
  · rintro rfl
    rfl

/-- **What cannot be read is refused at the first hopeless token.** The descent is refused as the
machine is, with the same message and never for want of a closing parenthesis. Tokens that are no expression end too early
just when more tokens make them one. Otherwise none do, and the message names the first token with
which the tokens cannot be completed: behind a sign `||` or a flag it should have been an opening
parenthesis, and elsewhere it closes a group that is not open. -/
theorem refused_at_first_hopeless_token (ts : List Token) :
    descend ts = (parse ts).mapError Refusal.syntaxError ∧
    (∀ refusal, descend ts = .error refusal → (∀ text, refusal ≠ .expectedClosing text) ∧
      ∃ e, parse ts = .error e ∧ refusal.message = e.message) ∧
    ∀ e, parse ts = .error e →
      (e.message = "unexpected end of expression" ↔
        ∃ more, more ≠ [] ∧ ∃ expression, parse (ts ++ more) = .ok expression) ∧
      (e.message ≠ "unexpected end of expression" →
        (∀ more expression, parse (ts ++ more) ≠ .ok expression) ∧
        ∃ before t, FirstHopeless ts before t ∧
          (EndsInHead before →
            e.message = s!"expected '(' but got '{String.ofList t.text}'") ∧
          (¬ EndsInHead before →
            t.kind = .closing ∧ countKind .closing before = countKind .opening before ∧
            e.message = s!"unexpected '{String.ofList t.text}'")) := by
  refine ⟨descend_eq_parse ts, ?_, ?_⟩
  · intro refusal h
    rw [descend_eq_parse] at h
    cases hparse : parse ts with
    | ok expression => simp [hparse, Except.mapError] at h
    | error e =>
        rw [hparse] at h
        obtain rfl : Refusal.syntaxError e = refusal := Except.error.inj h
        exact ⟨fun text => Refusal.noConfusion, e, rfl, rfl⟩
  · intro e he
    rw [ne_eq, message_eq_iff]
    rcases parse_eq_error_cases he with ⟨hcompletable, rfl⟩ | hread
    · obtain ⟨more, expression, hmore⟩ := hcompletable
      have hne : more ≠ [] := by
        rintro rfl
        rw [List.append_nil, he] at hmore
        cases hmore
      exact ⟨⟨fun _ => ⟨more, hne, expression, hmore⟩, fun _ => rfl⟩, fun h => absurd rfl h⟩
    · have hhopeless : ¬ Completable ts := by
        rw [completable_iff, hread]
        rintro ⟨r, hr⟩
        cases hr
      obtain ⟨before, t, r, hfront, hbefore, ht⟩ := Reader.exists_of_takeAll_eq_error hread
      have hhead := Reader.pending_isSome_iff hbefore
      have hfirst := firstHopeless_of_take hfront hbefore ht
      have hnone : ∀ more expression, parse (ts ++ more) ≠ .ok expression :=
        fun more expression h => hhopeless ⟨more, expression, h⟩
      have hend : e ≠ .unexpectedEnd := by
        rintro rfl
        simp [Reader.take_eq_error_iff] at ht
      refine ⟨⟨fun h => absurd h hend, ?_⟩, fun _ => ⟨hnone, before, t, hfirst, ?_⟩⟩
      · rintro ⟨more, -, expression, hmore⟩
        exact absurd hmore (hnone more expression)
      · rcases Reader.take_eq_error_iff.mp ht with ⟨hpending, -, rfl⟩ | ⟨hpending, hgroups, hkind, rfl⟩
        · exact ⟨fun _ => rfl, fun hno => absurd (hhead.mp hpending) hno⟩
        · have hno : ¬ EndsInHead before := by
            rw [← hhead, hpending]
            exact Bool.false_ne_true
          have hcount := Reader.countKind_closing_add_length hbefore
          rw [hgroups] at hcount
          exact ⟨fun hends => absurd hends hno, fun _ => ⟨hkind, hcount, rfl⟩⟩

/-- A group that was opened may still be closed, but not in place of the group of a flag. -/
theorem refused_behind_flag :
    let front := tokens "|| ( a doc?".toList
    let ts := front ++ tokens ") )".toList
    let e : SyntaxError := .expectedOpening [')']
    (parse front = .error .unexpectedEnd ∧
      ∃ more, more ≠ [] ∧ ∃ expression, parse (front ++ more) = .ok expression) ∧
    parse ts = .error e ∧ e.message ≠ "unexpected end of expression" ∧
    (∀ more expression, parse (ts ++ more) ≠ .ok expression) ∧
    ∃ before t, FirstHopeless ts before t := by
  intro front ts e
  have hfront : parse front = .error .unexpectedEnd := rfl
  have hts : parse ts = .error e := rfl
  have hmessage : e.message ≠ "unexpected end of expression" := by
    rw [ne_eq, message_eq_iff]
    exact SyntaxError.noConfusion
  obtain ⟨-, -, hrefused⟩ := refused_at_first_hopeless_token front
  obtain ⟨-, -, hrefused'⟩ := refused_at_first_hopeless_token ts
  obtain ⟨hnone, before, t, hfirst, -⟩ := (hrefused' e hts).2 hmessage
  exact ⟨⟨hfront, (hrefused _ hfront).1.mp rfl⟩, hts, hmessage, hnone, before, t, hfirst⟩

end License
end DistroBallot
