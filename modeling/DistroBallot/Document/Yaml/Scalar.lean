import DistroBallot.Document.Yaml.Fault
import DistroBallot.Text.Digit
import DistroBallot.Text.Quoted

/-!
# Scalars of YAML text

A plain scalar goes on over several words and lines until something follows that cannot belong to
it. A quoted scalar goes on to its quote. In both a line end between two lines reads as a space,
and further line ends stay as they are.

Lines end with a line feed, the next line U+0085 or a separator of lines or paragraphs. In double
quotes a backslash starts an escape, which may give the code of a character.
-/

namespace DistroBallot
namespace Yaml

/-- The characters that end a line. -/
def isBreak (c : Char) : Bool :=
  c == '\n' || c.toNat == 0x85 || c.toNat == 0x2028 || c.toNat == 0x2029

/-- A line end as it is read: the next line counts as a line feed. -/
def breakChar (c : Char) : Char :=
  if c.toNat == 0x85 then '\n' else c

/-- Spaces, tabulations and line ends. -/
def isGap (c : Char) : Bool :=
  c == ' ' || c == '\t' || isBreak c

/-- Whether a gap or nothing comes next. -/
def atGap : Text → Bool
  | [] => true
  | c :: _ => isGap c

/-- Whether a mark of documents comes next, three hyphens or three points. -/
def atMark : Text → Bool
  | '-' :: '-' :: '-' :: rest => atGap rest
  | '.' :: '.' :: '.' :: rest => atGap rest
  | _ => false

/-- The characters that end or divide lists and maps in brackets. -/
def isFlowSign (c : Char) : Bool :=
  c == ',' || c == '[' || c == ']' || c == '\x7b' || c == '\x7d'

/-- A scalar as it was read, what comes after it, and the column of that; whether a line end was
crossed, and whether one was crossed behind the last word. -/
structure Scanned where
  text : Text
  rest : Text
  column : Nat
  crossed : Bool
  atLineStart : Bool
deriving Repr

/-- The text of a first line end and those after it. -/
def folded (first : Char) (more : Text) : Text :=
  if first != '\n' then first :: more
  else if more.isEmpty then [' ']
  else more

/-! ## Plain scalars -/

/-- Whether a word of a plain scalar ends before this character. -/
def endsWord (inFlow : Bool) (c : Char) (rest : Text) : Bool :=
  isGap c || (c == ':' && (atGap rest || (inFlow && rest.head?.any isFlowSign))) ||
    (inFlow && (isFlowSign c || c == '?'))

/-- The word at the start of the text, and what follows it. -/
def word (inFlow : Bool) : Text → Text × Text
  | [] => ([], [])
  | c :: rest =>
    if endsWord inFlow c rest then ([], c :: rest)
    else
      let (letters, after) := word inFlow rest
      (c :: letters, after)

/-- What stands between words: the text it reads as, which is empty where the scalar ends; what
follows, the column of that, and whether a line end was crossed. -/
structure Between where
  text : Text
  rest : Text
  column : Nat
  crossed : Bool

/-- The line ends after a first one, with the spaces around them; at a mark of documents the
scalar ends. -/
def blankLines (first : Char) (more : Text) (column : Nat) : Text → Between
  | [] => ⟨folded first more.reverse, [], column, true⟩
  | c :: rest =>
    if c == ' ' then blankLines first more (column + 1) rest
    else if isBreak c then
      if atMark rest then ⟨[], rest, 0, true⟩
      else blankLines first (breakChar c :: more) 0 rest
    else ⟨folded first more.reverse, c :: rest, column, true⟩

/-- What stands between a word and whatever follows it. -/
def between (column : Nat) (t : Text) : Between :=
  let spaces := t.takeWhile (· == ' ')
  match t.dropWhile (· == ' ') with
  | [] => ⟨spaces, [], column + spaces.length, false⟩
  | c :: rest =>
    if !isBreak c then ⟨spaces, c :: rest, column + spaces.length, false⟩
    else if atMark rest then ⟨[], rest, 0, true⟩
    else blankLines (breakChar c) [] 0 rest

/-- A plain scalar, of at most `fuel` words. Outside brackets its lines after the first stand at
column `least` or further right. -/
def plainWords (inFlow : Bool) (least : Nat) : Nat → Nat → Text → Scanned
  | 0, column, t => ⟨[], t, column, false, false⟩
  | fuel + 1, column, t =>
    let (letters, after) := word inFlow t
    if letters.isEmpty then ⟨[], t, column, false, false⟩
    else
      let gap := between (column + letters.length) after
      if gap.text.isEmpty || gap.rest.head? == some '#' || (!inFlow && gap.column < least) then
        ⟨letters, gap.rest, gap.column, gap.crossed, gap.crossed⟩
      else
        let next := plainWords inFlow least fuel gap.column gap.rest
        if next.text.isEmpty then ⟨letters, gap.rest, gap.column, gap.crossed, gap.crossed⟩
        else
          { next with
            text := letters ++ gap.text ++ next.text
            crossed := gap.crossed || next.crossed }

/-- The plain scalar at the start of the text. -/
def plain (inFlow : Bool) (least column : Nat) (t : Text) : Scanned :=
  plainWords inFlow least (t.length + 1) column t

/-! ## Quoted scalars -/

/-- What the reading of a quoted scalar is in the middle of. -/
inductive QuotedMode where
  | letters
  | spaces (seen : Text)
  | lines (first : Option Char) (more : Text)
  | escape
  | code (digits value : Nat)
  | quote

/-- A quoted scalar under way: the text so far with the last character first, the column, and
whether a line end was crossed. -/
structure Quoting where
  mode : QuotedMode
  text : Text
  column : Nat
  crossed : Bool

namespace Quoting

/-- The text with what has been waiting for the next character of it. -/
def settled (q : Quoting) : Text :=
  match q.mode with
  | .spaces seen => seen ++ q.text
  | .lines (some first) more => (folded first more.reverse).reverse ++ q.text
  | .lines none more => more ++ q.text
  | _ => q.text

/-- One more character of the text. -/
def push (q : Quoting) (c : Char) : Quoting :=
  ⟨.letters, c :: q.settled, q.column + 1, q.crossed⟩

/-- One more space or tabulation. -/
def space (q : Quoting) (c : Char) : Quoting :=
  match q.mode with
  | .spaces seen => ⟨.spaces (c :: seen), q.text, q.column + 1, q.crossed⟩
  | .lines .. => { q with column := q.column + 1 }
  | _ => ⟨.spaces [c], q.text, q.column + 1, q.crossed⟩

/-- One more line end. -/
def lineEnd (q : Quoting) (c : Char) : Quoting :=
  match q.mode with
  | .lines first more => ⟨.lines first (breakChar c :: more), q.text, 0, true⟩
  | .escape => ⟨.lines none [], q.text, 0, true⟩
  | _ => ⟨.lines (some (breakChar c)) [], q.text, 0, true⟩

/-- Waits for what `mode` says. -/
def await (q : Quoting) (mode : QuotedMode) : Quoting :=
  ⟨mode, q.settled, q.column + 1, q.crossed⟩

/-- The finished scalar. -/
def finish (q : Quoting) (rest : Text) : Scanned :=
  ⟨q.settled.reverse, rest, q.column + 1, q.crossed, false⟩

end Quoting

/-- The characters that a backslash and a letter stand for. -/
def escapes : List (Char × Nat) :=
  [('0', 0), ('a', 7), ('b', 8), ('t', 9), ('\t', 9), ('n', 10), ('v', 11), ('f', 12), ('r', 13),
    ('e', 27), (' ', 32), (Text.doubleQuote, 34), ('\\', 92), ('/', 47), ('N', 0x85), ('_', 0xA0),
    ('L', 0x2028), ('P', 0x2029)]

/-- The number of hexadecimal digits after a backslash and this letter. -/
def codeDigits? (c : Char) : Option Nat :=
  [('x', 2), ('u', 4), ('U', 8)].lookup c

/-- The character of a code. A code beyond the last character is a fault, and one beyond 31 bits is
out of range; a surrogate is no character that a text may hold. -/
def charOfCode (n : Nat) : Except Error Char :=
  if n.isValidChar then .ok (Char.ofNat n)
  else if n < 0x110000 then .error .malformed
  else if n < 0x80000000 then .error (.scalar .noCharacter)
  else .error (.scalar .outOfRange)

/-- The scalar in double quotes that is under way. -/
def doubleQuotedFrom (q : Quoting) : Text → Except Error Scanned
  | [] => .error .malformed
  | c :: rest =>
    match q.mode with
    | .escape =>
      if isBreak c then
        if atMark rest then .error .malformed else doubleQuotedFrom (q.lineEnd c) rest
      else match escapes.lookup c, codeDigits? c with
        | some n, _ => doubleQuotedFrom (q.push (Char.ofNat n)) rest
        | none, some digits => doubleQuotedFrom (q.await (.code digits 0)) rest
        | none, none => .error .malformed
    | .code digits value =>
      match hexDigit? c with
      | none => .error .malformed
      | some d =>
        if digits ≤ 1 then
          match charOfCode (16 * value + d) with
          | .ok code => doubleQuotedFrom (q.push code) rest
          | .error e => .error e
        else doubleQuotedFrom (q.await (.code (digits - 1) (16 * value + d))) rest
    | _ =>
      if c == ' ' || c == '\t' then doubleQuotedFrom (q.space c) rest
      else if isBreak c then
        if atMark rest then .error .malformed else doubleQuotedFrom (q.lineEnd c) rest
      else if c == Text.doubleQuote then .ok (q.finish rest)
      else if c == '\\' then doubleQuotedFrom (q.await .escape) rest
      else doubleQuotedFrom (q.push c) rest

/-- The scalar in single quotes that is under way. A quote that is written twice is one of the
text. -/
def singleQuotedFrom (q : Quoting) : Text → Except Error Scanned
  | [] =>
    match q.mode with
    | .quote => .ok ⟨q.text.reverse, [], q.column, q.crossed, false⟩
    | _ => .error .malformed
  | c :: rest =>
    match q.mode with
    | .quote =>
      if c == Text.singleQuote then singleQuotedFrom (q.push c) rest
      else .ok ⟨q.text.reverse, c :: rest, q.column, q.crossed, false⟩
    | _ =>
      if c == ' ' || c == '\t' then singleQuotedFrom (q.space c) rest
      else if isBreak c then
        if atMark rest then .error .malformed else singleQuotedFrom (q.lineEnd c) rest
      else if c == Text.singleQuote then singleQuotedFrom (q.await .quote) rest
      else singleQuotedFrom (q.push c) rest

/-- The rest of a scalar that was opened by this quote, before the given column. -/
def quoted (quote : Char) (column : Nat) (t : Text) : Except Error Scanned :=
  let q : Quoting := ⟨.letters, [], column, false⟩
  if quote == Text.doubleQuote then doubleQuotedFrom q t else singleQuotedFrom q t

end Yaml
end DistroBallot
