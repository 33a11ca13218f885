import DistroBallot.Text.Blank

/-!
# License tokens

A license expression is a text of license names, parentheses, the sign `||` and flags such as
`doc?` or `!test?`. Blanks separate tokens and are part of none. At each place the kinds are tried
in the order flag, parenthesis, `||`, name; a name takes whatever is neither blank nor a
parenthesis, so that some token always fits (`Token.first`).
-/

namespace DistroBallot
namespace License

/-- The kinds of token. -/
inductive TokenKind where
  | identifier
  | param
  | opening
  | closing
  | either
deriving DecidableEq, Repr

/-- A token with its text. -/
structure Token where
  kind : TokenKind
  text : Text
deriving DecidableEq, Repr

namespace Token

/-- The characters of flags. -/
def isFlagChar (c : Char) : Bool :=
  !isBlank c && c != '(' && c != ')' && c != '?' && c != '|' && c != '!'

/-- The characters of names. -/
def isNameChar (c : Char) : Bool :=
  !isBlank c && c != '(' && c != ')'

/-- A flag name with its question mark, at the start of the text. -/
def flagText? (t : Text) : Option Text :=
  match t.takeWhile isFlagChar, t.dropWhile isFlagChar with
  | c :: name, '?' :: _ => some (c :: name ++ ['?'])
  | _, _ => none

/-- A flag at the start of the text, with the sign that negates it if it has one. -/
def paramText? : Text → Option Text
  | '!' :: rest => (flagText? rest).map ('!' :: ·)
  | t => flagText? t

/-- The token at the start of a text whose first character is not blank. -/
def first (t : Text) : Token :=
  match paramText? t with
  | some flag => ⟨.param, flag⟩
  | none =>
    match t with
    | '(' :: _ => ⟨.opening, ['(']⟩
    | ')' :: _ => ⟨.closing, [')']⟩
    | '|' :: '|' :: _ => ⟨.either, ['|', '|']⟩
    | t => ⟨.identifier, t.takeWhile isNameChar⟩

end Token

/-- The tokens of a text, the first `skip` characters of which have been taken already. -/
def tokensFrom : Nat → Text → List Token
  | _, [] => []
  | skip + 1, _ :: rest => tokensFrom skip rest
  | 0, c :: rest =>
    if isBlank c then tokensFrom 0 rest
    else
      let token := Token.first (c :: rest)
      token :: tokensFrom (token.text.length - 1) rest

/-- The tokens of a license expression. -/
def tokens (t : Text) : List Token :=
  tokensFrom 0 t

@[simp] theorem tokens_nil : tokens [] = [] := rfl

theorem tokensFrom_eq_drop (skip : Nat) (t : Text) : tokensFrom skip t = tokens (t.drop skip) := by
  induction t generalizing skip with
  | nil => cases skip <;> simp [tokensFrom]
  | cons c rest ih =>
    cases skip with
    | zero => rfl
    | succ n => rw [tokensFrom, ih]; rfl

/-- A blank in front changes nothing. -/
theorem tokens_cons_blank {c : Char} (h : isBlank c = true) (rest : Text) :
    tokens (c :: rest) = tokens rest := by
  simp [tokens, tokensFrom, h]

/-- In front of any other character stands a token, and the others are those of what follows it. -/
theorem tokens_cons {c : Char} (h : isBlank c = false) (rest : Text) :
    tokens (c :: rest) =
      Token.first (c :: rest) ::
        tokens (rest.drop ((Token.first (c :: rest)).text.length - 1)) := by
  rw [tokens, tokensFrom]
  simp [h, tokensFrom_eq_drop]

end License
end DistroBallot
