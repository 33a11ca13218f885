import DistroBallot.Text.Basic
import DistroBallot.Text.CaseTable

/-!
# Lower and upper case

`Text.lower` and `Text.upper` are the full case mappings: a character may become several, and a
capital sigma becomes the final form at the end of a word. ASCII letters go by `Char.toLower` and
`Char.toUpper`, and the tables are asked about the other characters only.
-/

namespace DistroBallot

/-- The lower case of a character that stands alone. -/
def lowerChar (c : Char) : Text :=
  if c.toNat < 128 then [c.toLower]
  else if c == 'İ' then ['i', Char.ofNat 0x307]
  else [Char.ofNat (lowerRows.lookup c.toNat)]

/-- The upper case of a character. -/
def upperChar (c : Char) : Text :=
  if c.toNat < 128 then [c.toUpper]
  else match longUppers.lookup c.toNat with
    | some points => points.map Char.ofNat
    | none => [Char.ofNat (upperRows.lookup c.toNat)]

/-- Characters that a sigma looks past on either side. -/
def isCaseIgnorable (c : Char) : Bool :=
  inBoundaries caseIgnorableBoundaries c

/-- Characters that have a case and are not looked past. -/
def isCased (c : Char) : Bool :=
  inBoundaries casedBoundaries c

namespace Text

/-- Whether the first character that is not looked past is cased. -/
def startsCased (t : Text) : Bool :=
  match t.dropWhile isCaseIgnorable with
  | [] => false
  | c :: _ => isCased c

/-- Lower case, given whether a cased character stands before, as a sigma sees it. A capital sigma
after a cased character and before none is the last letter of its word. -/
def lowerFrom (afterCased : Bool) : Text → Text
  | [] => []
  | c :: rest =>
    let next := if isCaseIgnorable c then afterCased else isCased c
    if c == 'Σ' then
      (if afterCased && !startsCased rest then 'ς' else 'σ') :: lowerFrom next rest
    else lowerChar c ++ lowerFrom next rest

/-- The text in lower case. -/
def lower (t : Text) : Text :=
  lowerFrom false t

/-- The text in upper case. -/
def upper (t : Text) : Text :=
  t.flatMap upperChar

end Text
end DistroBallot
