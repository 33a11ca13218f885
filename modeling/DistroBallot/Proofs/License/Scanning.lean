import DistroBallot.Proofs.License.Seams
import Mathlib

/-!
# Scanning license expressions

The tokens of a text are found in rounds (`Scan.round`). A round passes over blanks and then tries
the kinds of token in their order. If one fits, its token is added and the next round starts behind
it; at the end of the text the scan is over. There is nothing else that a round can do, so a text in
front of which no kind fits would be scanned for ever.

* Some kind fits in front of any character that is not blank, and its token is not empty
  (`findFitting?_cons`, `Token.Formed.ne_nil`). So each round but the last one adds a token, and a
  scan is over after one round more than there are tokens (`Scan.within_eq_some_iff`).
* The tokens hold all characters that are not blank, in order (`flatMap_text_tokens`).
-/

namespace DistroBallot
namespace License

variable {t rest : Text} {c : Char}

/-! ## Kinds that fit -/

/-- What a token of a kind takes off the front of a text, where it fits. -/
def TokenKind.fitting? : TokenKind → Text → Option Text
  | .param, t => Token.paramText? t
  | .opening, t => if t.head? = some '(' then some ['('] else none
  | .closing, t => if t.head? = some ')' then some [')'] else none
  | .either, t => if ['|', '|'].isPrefixOf t then some ['|', '|'] else none
  | .identifier, t => if t.takeWhile Token.isNameChar = [] then none
      else some (t.takeWhile Token.isNameChar)

/-- The kinds in the order in which they are tried. -/
def TokenKind.inOrder : List TokenKind :=
  [.param, .opening, .closing, .either, .identifier]

/-- The token of the first kind that fits. -/
def findFitting? (t : Text) : Option Token :=
  TokenKind.inOrder.findSome? fun kind => (kind.fitting? t).map (Token.mk kind)

theorem findFitting?_of_flag {flag : Text} (h : Token.paramText? t = some flag) :
    findFitting? t = some ⟨.param, flag⟩ := by
  simp [findFitting?, TokenKind.inOrder, TokenKind.fitting?, h]

theorem findFitting?_of_no_flag (h : Token.paramText? t = none) :
    findFitting? t = [TokenKind.opening, .closing, .either, .identifier].findSome?
      fun kind => (kind.fitting? t).map (Token.mk kind) := by
  simp [findFitting?, TokenKind.inOrder, TokenKind.fitting?, h]

/-- **Some kind fits in front of any character that is not blank**, and the first that does gives the
token that stands there. -/
theorem findFitting?_cons (hc : isBlank c = false) (rest : Text) :
    findFitting? (c :: rest) = some (Token.first (c :: rest)) := by
  cases hflag : Token.paramText? (c :: rest) with
  | some flag =>
      rw [findFitting?_of_flag hflag]
      simp only [Token.first, hflag]
  | none =>
      -- the kinds behind flags are told apart by the one or two characters in front
      rw [findFitting?_of_no_flag hflag]
      simp only [Token.first, hflag]
      split
      · next h => simp [TokenKind.fitting?, h]
      · next h => simp [TokenKind.fitting?, h]
      · next h => simp [TokenKind.fitting?, h]
      · next hopen hclose hsign =>
          have hnot_open : c ≠ '(' := fun h => hopen rest (h ▸ rfl)
          have hnot_close : c ≠ ')' := fun h => hclose rest (h ▸ rfl)
          have hnot_sign : ['|', '|'].isPrefixOf (c :: rest) = false := by
            rw [Bool.eq_false_iff, ne_eq, List.isPrefixOf_iff_prefix]
            rintro ⟨after, h⟩
            exact hsign after h.symm
          have hname : (c :: rest).takeWhile Token.isNameChar ≠ [] := by
            simp [Token.isNameChar, hc, hnot_open, hnot_close]
          simp only [List.findSome?_cons, TokenKind.fitting?, hnot_sign, if_neg hname]
          simp [hnot_open, hnot_close]

/-! ## Rounds -/

/-- A scan under way: the tokens found, and the text behind them. -/
structure Scan where
  found : List Token
  ahead : Text

namespace Scan

/-- Before the first round. -/
def start (t : Text) : Scan := ⟨[], t⟩

/-- One round: the scan is over and gives its tokens, or it goes on. Where no kind fits it goes on at
the place where it stands. -/
def round (s : Scan) : List Token ⊕ Scan :=
  match s.ahead.dropWhile isBlank with
  | [] => .inl s.found
  | c :: rest =>
    match findFitting? (c :: rest) with
    | some token => .inr ⟨s.found ++ [token], (c :: rest).drop token.text.length⟩
    | none => .inr ⟨s.found, c :: rest⟩

/-- What a scan gives, if it is over within so many rounds. -/
def within : Nat → Scan → Option (List Token)
  | 0, _ => none
  | rounds + 1, s =>
    match s.round with
    | .inl found => some found
    | .inr next => within rounds next

end Scan

theorem tokens_dropWhile_blank (t : Text) : tokens (t.dropWhile isBlank) = tokens t := by
  have hblank : Text.isBlankText (t.takeWhile isBlank) = true :=
    isBlankText_iff.mpr fun c hc => List.mem_takeWhile_imp hc
  rw [← tokens_blank_append hblank, List.takeWhile_append_dropWhile]

/-- The token in front of a text, and those of what is left. -/
theorem tokens_cons_drop (hc : isBlank c = false) (rest : Text) :
    tokens (c :: rest) = Token.first (c :: rest) ::
      tokens ((c :: rest).drop (Token.first (c :: rest)).text.length) := by
  obtain ⟨d, text, htext⟩ := List.exists_cons_of_ne_nil (Token.first_formed hc rest).ne_nil
  rw [tokens_cons hc, htext]
  simp

/-- A round ends the scan when no token is ahead, and else finds the first of them. -/
theorem Scan.round_cases (s : Scan) :
    (tokens s.ahead = [] ∧ s.round = .inl s.found) ∨
    ∃ token next, tokens s.ahead = token :: tokens next.ahead ∧ s.round = .inr next ∧
      next.found = s.found ++ [token] := by
  rw [← tokens_dropWhile_blank]
  cases hahead : s.ahead.dropWhile isBlank with
  | nil => exact .inl ⟨rfl, by rw [Scan.round, hahead]⟩
  | cons c rest =>
      have hc : isBlank c = false := by
        have hhead := List.head_dropWhile_not isBlank (l := s.ahead) (by simp [hahead])
        simpa [hahead] using hhead
      have hround : s.round = .inr ⟨s.found ++ [Token.first (c :: rest)],
          (c :: rest).drop (Token.first (c :: rest)).text.length⟩ := by
        simp only [Scan.round, hahead, findFitting?_cons hc]
      exact .inr ⟨_, _, tokens_cons_drop hc rest, hround, rfl⟩

/-- **A scan gives the tokens of the text after one round more than there are tokens.** -/
theorem Scan.within_eq_some_iff {rounds : Nat} {s : Scan} {ts : List Token} :
    within rounds s = some ts ↔
      (tokens s.ahead).length < rounds ∧ ts = s.found ++ tokens s.ahead := by
  induction rounds generalizing s with
  | zero => simp [within]
  | succ rounds ih =>
      rw [within]
      rcases s.round_cases with ⟨hnone, hround⟩ | ⟨token, next, htokens, hround, hfound⟩
      · rw [hround, hnone]
        simp [eq_comm]
      · rw [hround, htokens]
        simp only [ih, hfound, List.length_cons, List.append_assoc, List.singleton_append,
          Nat.add_lt_add_iff_right]

/-! ## What tokens are made of -/

/-- The tokens hold the characters that are not blank, in order. -/
theorem flatMap_text_tokens (t : Text) :
    (tokens t).flatMap Token.text = t.filter (fun c => !isBlank c) := by
  induction hlength : t.length using Nat.strongRecOn generalizing t with
  | _ n ih =>
      cases t with
      | nil => rfl
      | cons c rest =>
          cases hc : isBlank c with
          | true =>
              rw [tokens_cons_blank hc, List.filter_cons_of_neg (by simp [hc])]
              exact ih rest.length (by rw [← hlength]; simp) rest rfl
          | false =>
              have hformed := Token.first_formed hc rest
              obtain ⟨after, hafter⟩ := Token.first_text_prefix (c :: rest)
              -- the text is its first token and what stands behind that
              rw [tokens_cons_drop hc]
              generalize Token.first (c :: rest) = token at hformed hafter ⊢
              rw [← hafter] at hlength ⊢
              have hlt : after.length < n := by
                have hpos := List.length_pos_iff.mpr hformed.ne_nil
                rw [List.length_append] at hlength
                omega
              have hkept : token.text.filter (fun c => !isBlank c) = token.text :=
                List.filter_eq_self.mpr fun d hd => by simp [hformed.not_blank d hd]
              rw [List.drop_left, List.flatMap_cons, ih _ hlt after rfl, List.filter_append, hkept]

theorem tokens_eq_nil_iff : tokens t = [] ↔ t.isBlankText = true := by
  constructor
  · intro h
    have hkept := flatMap_text_tokens t
    rw [h, List.flatMap_nil, eq_comm, List.filter_eq_nil_iff] at hkept
    exact isBlankText_iff.mpr fun c hc => by simpa using hkept c hc
  · intro h
    rw [← List.append_nil t, tokens_blank_append h, tokens_nil]

/-- **Every text is scanned to its end, and cut at blanks and parentheses only.** A scan gives the
tokens of the text after one round more than there are tokens. No token is empty, together they are
the text without its blanks, and only blank texts have none. Blanks and parentheses separate: the
tokens on either side are those of the two texts by themselves. With single spaces between them the
tokens are read as they are. -/
theorem scan_ends_and_tokens_split (t : Text) :
    (∀ rounds ts, Scan.within rounds (.start t) = some ts ↔
      (tokens t).length < rounds ∧ ts = tokens t) ∧
    (∀ token ∈ tokens t, token.text ≠ []) ∧
    (tokens t).flatMap Token.text = t.filter (fun c => !isBlank c) ∧
    (tokens t = [] ↔ t.isBlankText = true) ∧
    (∀ gap u, Gap gap → tokens (t ++ gap ++ u) = tokens t ++ tokens u) ∧
    (∀ u, tokens (t ++ ['('] ++ u) = tokens t ++ [⟨.opening, ['(']⟩] ++ tokens u) ∧
    (∀ u, tokens (t ++ [')'] ++ u) = tokens t ++ [⟨.closing, [')']⟩] ++ tokens u) ∧
    tokens (Text.join [' '] ((tokens t).map Token.text)) = tokens t := by
  refine ⟨?_, ?_, flatMap_text_tokens t, tokens_eq_nil_iff, ?_, ?_, ?_, ?_⟩
  · intro rounds ts
    exact Scan.within_eq_some_iff
  · intro token htoken
    exact (formed_of_mem_tokens htoken).ne_nil
  · intro gap u hgap
    exact tokens_append_gap hgap t u
  · intro u
    rw [List.append_assoc, List.append_assoc, List.singleton_append,
      tokens_append_of_stops (stops_opening u), tokens_opening]
    rfl
  · intro u
    rw [List.append_assoc, List.append_assoc, List.singleton_append,
      tokens_append_of_stops (stops_closing u), tokens_closing]
    rfl
  · have hspace : Gap [' '] := by simp [Gap, isBlank]
    exact tokens_of_spaced (fun token htoken => formed_of_mem_tokens htoken) (spaced_join hspace _)

/-- Four tokens, found in five rounds; the last one is a name with the sign `||` inside. -/
theorem scan_of_four_tokens :
    let t := "!x? ||(a||b".toList
    let gap := "\t ".toList
    let ts : List Token := [.flag "x".toList true, .orSign, .opener, ⟨.identifier, "a||b".toList⟩]
    Scan.within 4 (.start t) = none ∧ Scan.within 5 (.start t) = some ts ∧
    Token.orSign ∈ tokens t ∧ Token.orSign.text ≠ [] ∧
    Gap gap ∧ tokens (t ++ gap ++ "||?".toList) = ts ++ tokens "||?".toList := by
  intro t gap ts
  have htokens : tokens t = ts := by decide +kernel
  have hgap : Gap gap := by simp [gap, Gap, isBlank]
  obtain ⟨hscan, hne, -, -, hsplit, -⟩ := scan_ends_and_tokens_split t
  rw [htokens] at hscan hne hsplit ⊢
  refine ⟨?_, (hscan 5 ts).mpr ⟨by decide, rfl⟩, ?_, ?_, hgap, hsplit gap _ hgap⟩
  · rw [Option.eq_none_iff_forall_ne_some]
    intro found hfound
    exact absurd ((hscan 4 found).mp hfound).1 (by decide)
  · decide
  · exact hne Token.orSign (by decide)

end License
end DistroBallot
