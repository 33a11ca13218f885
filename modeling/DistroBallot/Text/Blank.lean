import DistroBallot.Text.Basic

/-!
# Blanks and line breaks

A *blank* is a character that Unicode gives the property of white space, together with the four
information separators U+001C to U+001F. Ten of the blanks end a line.

`strip` takes blanks off both ends, `words` is the runs of characters that are not blank, and
`lines` cuts at every line break. A return that is followed by a line feed leaves an empty line
between the two; no reader of lines in this library looks at empty lines.
-/

namespace DistroBallot

/-- White space of Unicode, and the four information separators. -/
def isBlank (c : Char) : Bool :=
  let n := c.toNat
  (9 ≤ n && n ≤ 13) || (28 ≤ n && n ≤ 32) || n == 0x85 || n == 0xA0 || n == 0x1680 ||
    (0x2000 ≤ n && n ≤ 0x200A) || n == 0x2028 || n == 0x2029 || n == 0x202F || n == 0x205F ||
    n == 0x3000

/-- The characters that end a line: feed, tabulation, form feed and return, the separators
U+001C to U+001E, the next line U+0085 and the line and paragraph separators. -/
def isLineBreak (c : Char) : Bool :=
  let n := c.toNat
  (10 ≤ n && n ≤ 13) || (28 ≤ n && n ≤ 30) || n == 0x85 || n == 0x2028 || n == 0x2029

namespace Text

/-- No character of the text is anything but blank; the empty text is blank. -/
def isBlankText (t : Text) : Bool :=
  t.all isBlank

/-- The text without the blanks that end it. -/
def stripEnd (t : Text) : Text :=
  (t.reverse.dropWhile isBlank).reverse

/-- The text without the blanks at both ends. -/
def strip (t : Text) : Text :=
  stripEnd (t.dropWhile isBlank)

/-- The runs of characters that are not blank. -/
def words (t : Text) : List Text :=
  runs (fun c => !isBlank c) t

/-- The text cut at its line breaks. -/
def lines (t : Text) : List Text :=
  pieces (fun c => !isLineBreak c) t

end Text
end DistroBallot
