import DistroBallot.Proofs.License.Rendering
import Mathlib

/-!
# License expressions put together

No token reaches over a blank or a parenthesis. So a text has the tokens of its parts wherever the
part behind the seam starts with one of these (`tokens_append_of_stops`), whatever stands in front.

Reading tokens does not depend on what was read before. A reader that starts behind open groups and
members goes through the same steps as one that starts with nothing, and what it reads comes on top
of them (`Reader.takeAll_above`). So tokens that are an expression by themselves add their members to
those in front, and may be put into a group (`parse_append`, `parse_group`).
-/

namespace DistroBallot
namespace License

variable {g rest t u : Text}

/-! ## Tokens at a seam -/

namespace Token

/-- The first token is taken from the front of the text. -/
theorem first_text_prefix (t : Text) : (first t).text <+: t := by
  cases hflag : paramText? t with
  | some flag =>
      simp only [first, hflag]
      exact (paramText?_eq_some_iff.mp hflag).2
  | none =>
      simp only [first, hflag]
      split
      · exact ⟨_, rfl⟩
      · exact ⟨_, rfl⟩
      · exact ⟨_, rfl⟩
      · exact List.takeWhile_prefix _

end Token

/-- **A blank or a parenthesis cuts a text in two**: it has the tokens of what stands before it and
those of the rest. -/
theorem tokens_append_of_stops (hrest : Stops rest) (t : Text) :
    tokens (t ++ rest) = tokens t ++ tokens rest := by
  -- a token takes at least one character, so what is left is shorter
  induction hlength : t.length using Nat.strongRecOn generalizing t with
  | _ n ih =>
      cases t with
      | nil => rfl
      | cons c t =>
          rw [List.length_cons] at hlength
          cases hc : isBlank c with
          | true =>
              rw [List.cons_append, tokens_cons_blank hc, tokens_cons_blank hc]
              exact ih t.length (by omega) t rfl
          | false =>
              have hfirst := Token.first_append_of_stops (List.cons_ne_nil c t) hrest
              have hle := (Token.first_text_prefix (c :: t)).length_le
              rw [List.length_cons] at hle
              rw [List.cons_append] at hfirst ⊢
              rw [tokens_cons hc, tokens_cons hc, hfirst,
                List.drop_append_of_le_length (by omega), List.cons_append]
              rw [ih _ (by rw [List.length_drop]; omega) _ rfl]

/-! ## Blanks and parentheses -/

theorem tokens_append_gap (hg : Gap g) (t u : Text) :
    tokens (t ++ g ++ u) = tokens t ++ tokens u := by
  rw [List.append_assoc, tokens_append_of_stops (stops_of_gap hg u), tokens_gap_append hg]

theorem isBlankText_iff : t.isBlankText = true ↔ ∀ c ∈ t, isBlank c = true :=
  List.all_eq_true

theorem tokens_blank_append (hg : g.isBlankText = true) (rest : Text) :
    tokens (g ++ rest) = tokens rest := by
  by_cases hnil : g = []
  · rw [hnil, List.nil_append]
  · exact tokens_gap_append ⟨hnil, isBlankText_iff.mp hg⟩ rest

theorem stops_blank_append (hg : g.isBlankText = true) (hrest : Stops rest) :
    Stops (g ++ rest) := by
  by_cases hnil : g = []
  · rwa [hnil, List.nil_append]
  · exact stops_of_gap ⟨hnil, isBlankText_iff.mp hg⟩ rest

theorem stops_opening (rest : Text) : Stops ('(' :: rest) := by
  rintro c ⟨⟩
  decide

theorem stops_closing (rest : Text) : Stops (')' :: rest) := by
  rintro c ⟨⟩
  decide

theorem tokens_opening (rest : Text) : tokens ('(' :: rest) = Token.opener :: tokens rest := by
  rw [tokens_cons rfl]
  rfl

theorem tokens_closing (rest : Text) : tokens (')' :: rest) = Token.closer :: tokens rest := by
  rw [tokens_cons rfl]
  rfl

/-- The second text is the first one in parentheses. There may be blanks on either side of each
parenthesis. -/
inductive Grouped (t : Text) : Text → Prop
  | intro {g₁ g₂ g₃ g₄ : Text} :
      g₁.isBlankText = true → g₂.isBlankText = true → g₃.isBlankText = true →
      g₄.isBlankText = true → Grouped t (g₁ ++ ['('] ++ g₂ ++ t ++ g₃ ++ [')'] ++ g₄)

theorem Grouped.tokens_eq (h : Grouped t u) :
    tokens u = Token.opener :: (tokens t ++ [Token.closer]) := by
  cases h with
  | @intro g₁ g₂ g₃ g₄ h₁ h₂ h₃ h₄ =>
      have hclose : Stops (g₃ ++ ')' :: g₄) := stops_blank_append h₃ (stops_closing g₄)
      have hend : tokens g₄ = [] := by
        rw [← List.append_nil g₄, tokens_blank_append h₄, tokens_nil]
      calc tokens (g₁ ++ ['('] ++ g₂ ++ t ++ g₃ ++ [')'] ++ g₄)
          = tokens (g₁ ++ '(' :: (g₂ ++ (t ++ (g₃ ++ ')' :: g₄)))) := by simp
        _ = Token.opener :: tokens (t ++ (g₃ ++ ')' :: g₄)) := by
            rw [tokens_blank_append h₁, tokens_opening, tokens_blank_append h₂]
        _ = Token.opener :: (tokens t ++ [Token.closer]) := by
            rw [tokens_append_of_stops hclose, tokens_blank_append h₃, tokens_closing, hend]

theorem Grouped.stops (h : Grouped t u) : Stops u := by
  cases h with
  | intro h₁ _ _ _ =>
      simp only [List.append_assoc]
      exact stops_blank_append h₁ (stops_opening _)

theorem Grouped.not_blank (h : Grouped t u) : u.isBlankText = false := by
  cases h with
  | intro _ _ _ _ => simp [Text.isBlankText, isBlank]

/-! ## Reading on top of other groups and members -/

namespace Reader

variable {r next last : Reader} {token : Token} {ts : List Token}
variable {outer : List OpenGroup} {before : List Expression}

/-- What was read, on top of open groups and the members of the innermost of them. -/
def above (outer : List OpenGroup) (before : List Expression) :
    List OpenGroup → List Expression → Option Head → Reader
  | [], members, pending => ⟨outer, members ++ before, pending⟩
  | g :: groups, members, pending =>
    let around := above outer before groups g.before none
    ⟨⟨g.head, around.members⟩ :: around.groups, members, pending⟩

theorem above_pending (groups : List OpenGroup) (members : List Expression)
    (pending : Option Head) : above outer before groups members pending =
      { above outer before groups members none with pending := pending } := by
  cases groups <;> rfl

theorem above_cons (groups : List OpenGroup) (e : Expression) (members : List Expression) :
    above outer before groups (e :: members) none =
      { above outer before groups members none with
        members := e :: (above outer before groups members none).members } := by
  cases groups <;> rfl

/-- A step can be made on top of anything else. -/
theorem takes_above (outer : List OpenGroup) (before : List Expression) (h : Takes r token next) :
    Takes (above outer before r.groups r.members r.pending) token
      (above outer before next.groups next.members next.pending) := by
  cases h with
  | name groups members text =>
      cases groups <;> exact .name _ _ text
  | flag groups members text =>
      cases groups <;> exact .flag _ _ text
  | either groups members text =>
      cases groups <;> exact .either _ _ text
  | opening groups members pending text =>
      rw [above_pending]
      exact .opening _ _ pending text
  | closing g groups members text =>
      rw [above_cons]
      have hclose := Takes.closing
        ⟨g.head, (above outer before groups g.before none).members⟩
        (above outer before groups g.before none).groups members text
      cases groups <;> exact hclose

theorem takeAll_above (outer : List OpenGroup) (before : List Expression)
    (h : r.takeAll ts = .ok last) :
    takeAll (above outer before r.groups r.members r.pending) ts =
      .ok (above outer before last.groups last.members last.pending) := by
  induction ts generalizing r with
  | nil =>
      obtain rfl := Except.ok.inj h
      rfl
  | cons token ts ih =>
      cases htake : r.take token with
      | error e => simp [takeAll, htake] at h
      | ok next =>
          rw [takeAll_cons htake] at h
          have hstep := take_eq_ok_iff.mpr
            (takes_above outer before (take_eq_ok_iff.mp htake))
          rw [takeAll_cons hstep]
          exact ih h

theorem takeAll_append (h : r.takeAll ts = .ok next) (us : List Token) :
    r.takeAll (ts ++ us) = next.takeAll us := by
  induction ts generalizing r with
  | nil =>
      obtain rfl := Except.ok.inj h
      rfl
  | cons token ts ih =>
      cases htake : r.take token with
      | error e => simp [takeAll, htake] at h
      | ok next =>
          rw [takeAll_cons htake] at h
          rw [List.cons_append, takeAll_cons htake, ih h]

end Reader

/-! ## Expressions one after the other and in groups -/

variable {ts us : List Token} {members others : List Expression}

/-- **Tokens of an expression add its members**, wherever they are read. -/
theorem takeAll_append_of_parse (h : parse ts = .ok (.all members)) (outer : List OpenGroup)
    (before : List Expression) (us : List Token) :
    Reader.takeAll ⟨outer, before, none⟩ (ts ++ us) =
      Reader.takeAll ⟨outer, members.reverse ++ before, none⟩ us :=
  Reader.takeAll_append (Reader.takeAll_above outer before (parse_eq_all_iff.mp h)) us

theorem parse_append (h : parse ts = .ok (.all members)) (h' : parse us = .ok (.all others)) :
    parse (ts ++ us) = .ok (.all (members ++ others)) := by
  apply parse_eq_all_iff.mpr
  have hsecond := takeAll_append_of_parse h' [] (members.reverse ++ []) []
  rw [Reader.start, takeAll_append_of_parse h]
  rw [List.append_nil, List.append_nil] at hsecond
  rw [List.append_nil, hsecond, List.reverse_append]
  rfl

/-- Behind an expression tokens are an expression only if they are one by themselves. -/
theorem parse_isOk_of_append (h : parse ts = .ok (.all members))
    (happend : ∃ e, parse (ts ++ us) = .ok e) : ∃ e, parse us = .ok e := by
  obtain ⟨e, happend⟩ := happend
  obtain ⟨last, all, hread, hfinish, -⟩ := parse_eq_ok happend
  rw [Reader.takeAll_append (parse_eq_all_iff.mp h)] at hread
  rw [parse_isOk_iff, wellNested_iff]
  exact (Reader.read_isOk_iff ⟨[], members.reverse, none⟩ us).mp ⟨last, all, hread, hfinish⟩

/-- The head is read back from its tokens. -/
def Head.Plain : Head → Prop
  | .plain => True
  | .either => True
  | .flag name _ => PlainFlag name

/-- An expression in parentheses is a group of its members, under whatever stands in front. -/
theorem parse_group {head : Head} (hhead : head.Plain) (h : parse ts = .ok (.all members)) :
    parse (head.written ++ Token.opener :: (ts ++ [Token.closer])) =
      .ok (.all [head.group members]) := by
  have hinside : Reader.takeAll ⟨[⟨head, []⟩], [], none⟩ (ts ++ [Token.closer]) =
      .ok ⟨[], [head.group members], none⟩ := by
    rw [takeAll_append_of_parse h, List.append_nil, Reader.takeAll, Reader.take]
    simp [Token.closer, Reader.takeAll]
  apply parse_eq_all_iff.mpr
  rw [List.reverse_singleton, ← hinside]
  cases head with
  | plain => rfl
  | either => rfl
  | flag name negated =>
      have hflag : Reader.take .start (.flag name negated) =
          .ok ⟨[], [], some (.flag name negated)⟩ := by
        rw [← ofParam_flag hhead negated]
        rfl
      rw [Head.written, List.singleton_append, Reader.takeAll_cons hflag]
      rfl

end License
end DistroBallot
