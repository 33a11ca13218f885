import DistroBallot.Document.Value
import DistroBallot.Number.Numeral
import DistroBallot.Text.Digit

/-!
# JSON text

Reading has two stages. `Json.lex` makes one pass over the characters and gives the tokens; what
is no token becomes the token `bad` and ends the list. `Json.Builder` takes the tokens one by one
with the open lists and maps on a stack, so that of two faults the one that stands first is found.
Beyond the standard, the words `NaN`, `Infinity` and `-Infinity` are numbers. A number without
fraction and exponent is an integer of any size up to the digit limit of numerals.

`Json.write` gives ASCII text with the keys of maps in order.
-/

namespace DistroBallot
namespace Json

/-- Why a text is not read. -/
inductive Error where
  | malformed
  | tooManyDigits (count : Nat)
deriving DecidableEq, Repr

/-! ## Tokens -/

/-- The tokens of JSON text. -/
inductive Token where
  | openList
  | closeList
  | openMap
  | closeMap
  | comma
  | colon
  | text (t : Text)
  | scalar (v : Value)
  | bad (e : Error)
deriving Repr

/-- What the pass over the characters is in the middle of. Texts under way hold their code units,
the last one first. -/
inductive Mode where
  | between
  | bare (letters : Text)
  | text (units : List Nat)
  | escape (units : List Nat)
  | code (units : List Nat) (digits value : Nat)
  | stopped

/-- A code point as a character; a surrogate that stands alone is no character and is replaced. -/
def charOfUnit (n : Nat) : Char :=
  if 0xD800 ≤ n && n < 0xE000 then Char.ofNat 0xFFFD else Char.ofNat n

/-- The characters of a text from its code units, in which a character outside the basic plane may
be given by two surrogates. -/
def joinUnits : List Nat → Text
  | [] => []
  | [u] => [charOfUnit u]
  | u :: v :: rest =>
    if 0xD800 ≤ u && u < 0xDC00 && 0xDC00 ≤ v && v < 0xE000 then
      Char.ofNat (0x10000 + (u - 0xD800) * 0x400 + (v - 0xDC00)) :: joinUnits rest
    else charOfUnit u :: joinUnits (v :: rest)

/-- The integer part at the start of a text, and what follows it: a zero alone, or digits that do
not start with one. -/
def takeInteger : Text → Text × Text
  | '0' :: rest => (['0'], rest)
  | t => Numeral.takeDigits t

/-- The fraction at the start of a text, a point with digits, and what follows it; both are empty
or unchanged where there is none. -/
def takeFraction (t : Text) : Text × Text :=
  match t with
  | '.' :: rest =>
    let (digits, more) := Numeral.takeDigits rest
    if digits.isEmpty then ([], t) else ('.' :: digits, more)
  | _ => ([], t)

/-- The sign at the start of a text, and what follows it. -/
def takeSign : Text → Text × Text
  | '-' :: rest => (['-'], rest)
  | '+' :: rest => (['+'], rest)
  | t => ([], t)

/-- The exponent at the start of a text, a letter with an optional sign and digits, and what
follows it. -/
def takeExponent (t : Text) : Text × Text :=
  match t with
  | c :: rest =>
    if c == 'e' || c == 'E' then
      let (sign, unsigned) := takeSign rest
      let (digits, more) := Numeral.takeDigits unsigned
      if digits.isEmpty then ([], t) else (c :: sign ++ digits, more)
    else ([], t)
  | [] => ([], t)

/-- The integer of decimal digits, up to the limit of numerals. -/
def integerToken (negative : Bool) (digits : Text) : Token :=
  if Numeral.maxDigits < digits.length then .bad (.tooManyDigits digits.length)
  else
    let n : Int := Numeral.digitsValue digits
    .scalar (.int (if negative then -n else n))

/-- The longest number at the start of a bare word, and what follows it. -/
def numberToken (t : Text) : Token × Text :=
  let (negative, unsigned) := match t with
    | '-' :: rest => (true, rest)
    | t => (false, t)
  let (whole, afterWhole) := takeInteger unsigned
  let (fraction, afterFraction) := takeFraction afterWhole
  let (exponent, more) := takeExponent afterFraction
  if whole.isEmpty then (.bad .malformed, [])
  else if fraction.isEmpty && exponent.isEmpty then (integerToken negative whole, more)
  else match Numeral.readUnsignedReal? negative (whole ++ fraction ++ exponent) with
    | some x => (.scalar (.real x), more)
    | none => (.bad .malformed, [])

/-- The words that are values. -/
def wordValues : List (Text × Value) :=
  [("true".toList, .bool true), ("false".toList, .bool false), ("null".toList, .null),
    ("NaN".toList, .real .nan), ("Infinity".toList, .real (.infinite false)),
    ("-Infinity".toList, .real (.infinite true))]

/-- The first token of a bare word, and what follows it. -/
def bareToken (t : Text) : Token × Text :=
  match wordValues.find? (fun w => w.1.isPrefixOf t) with
  | some (word, v) => (.scalar v, t.drop word.length)
  | none => numberToken t

/-- The tokens of a bare word. Nothing may follow its first token without a sign between them. -/
def bareTokens (t : Text) : List Token :=
  match bareToken t with
  | (token, []) => [token]
  | (token, _ :: _) => [token, .bad .malformed]

/-- The characters of bare words. -/
def isBare (c : Char) : Bool :=
  c.isAlphanum || c == '-' || c == '+' || c == '.'

/-- The first character of a token: what it is alone, and what the pass is then in. -/
def openToken (c : Char) : List Token × Mode :=
  if c == ' ' || c == '\t' || c == '\n' || c == '\r' then ([], .between)
  else if c == '[' then ([.openList], .between)
  else if c == ']' then ([.closeList], .between)
  else if c == '\x7b' then ([.openMap], .between)
  else if c == '\x7d' then ([.closeMap], .between)
  else if c == ',' then ([.comma], .between)
  else if c == ':' then ([.colon], .between)
  else if c == Text.doubleQuote then ([], .text [])
  else if isBare c then ([], .bare [c])
  else ([.bad .malformed], .stopped)

/-- The character that an escape of one letter stands for. -/
def escaped? (c : Char) : Option Nat :=
  if c == Text.doubleQuote || c == '\\' || c == '/' then some c.toNat
  else if c == 'b' then some 8
  else if c == 'f' then some 12
  else if c == 'n' then some 10
  else if c == 'r' then some 13
  else if c == 't' then some 9
  else none

/-- The tokens of a text, when the pass is in the middle of what `mode` says. -/
def lexFrom : Mode → Text → List Token
  | .between, [] => []
  | .stopped, _ => []
  | .bare letters, [] => bareTokens letters.reverse
  | .text _, [] => [.bad .malformed]
  | .escape _, [] => [.bad .malformed]
  | .code _ _ _, [] => [.bad .malformed]
  | .between, c :: rest =>
    let (tokens, mode) := openToken c
    tokens ++ lexFrom mode rest
  | .bare letters, c :: rest =>
    if isBare c then lexFrom (.bare (c :: letters)) rest
    else
      let (tokens, mode) := openToken c
      bareTokens letters.reverse ++ tokens ++ lexFrom mode rest
  | .text units, c :: rest =>
    if c == Text.doubleQuote then .text (joinUnits units.reverse) :: lexFrom .between rest
    else if c == '\\' then lexFrom (.escape units) rest
    else if c.toNat < 32 then [.bad .malformed]
    else lexFrom (.text (c.toNat :: units)) rest
  | .escape units, c :: rest =>
    if c == 'u' then lexFrom (.code units 0 0) rest
    else match escaped? c with
      | some u => lexFrom (.text (u :: units)) rest
      | none => [.bad .malformed]
  | .code units digits value, c :: rest =>
    match hexDigit? c with
    | none => [.bad .malformed]
    | some d =>
      if digits = 3 then lexFrom (.text ((16 * value + d) :: units)) rest
      else lexFrom (.code units (digits + 1) (16 * value + d)) rest

/-- The tokens of a text. -/
def lex (t : Text) : List Token :=
  lexFrom .between t

/-! ## Values -/

/-- An open list with its items so far, the last one first, or an open map with its entries and
the key whose value comes next. -/
inductive Frame where
  | list (items : List Value)
  | map (entries : List (Value × Value)) (key : Text)

/-- What may come next. -/
inductive Expect where
  | value
  | itemOrClose
  | keyOrClose (entries : List (Value × Value))
  | key (entries : List (Value × Value))
  | colon (entries : List (Value × Value)) (key : Text)
  | separator (v : Value)

/-- The values under way: the open lists and maps, the innermost first, and what may come next. -/
structure Builder where
  frames : List Frame
  expect : Expect

namespace Builder

/-- Before the first token. -/
def start : Builder := ⟨[], .value⟩

/-- The value that a token is by itself, if it is one. -/
def scalar? : Token → Option Value
  | .text t => some (.text t)
  | .scalar v => some v
  | _ => none

/-- Takes a value where one is expected. Only there is it looked at what a bad token is. -/
def takeValue (frames : List Frame) (token : Token) : Except Error Builder :=
  match token with
  | .openList => .ok ⟨.list [] :: frames, .itemOrClose⟩
  | .openMap => .ok ⟨frames, .keyOrClose []⟩
  | .bad e => .error e
  | token =>
    match scalar? token with
    | some v => .ok ⟨frames, .separator v⟩
    | none => .error .malformed

/-- Takes a comma or a closing token after a value. -/
def takeSeparator (frames : List Frame) (v : Value) (token : Token) : Except Error Builder :=
  match frames, token with
  | .list items :: outer, .comma => .ok ⟨.list (v :: items) :: outer, .value⟩
  | .list items :: outer, .closeList => .ok ⟨outer, .separator (.list (v :: items).reverse)⟩
  | .map entries key :: outer, .comma =>
    .ok ⟨outer, .key (Value.putEntry (.text key) v entries)⟩
  | .map entries key :: outer, .closeMap =>
    .ok ⟨outer, .separator (.map (Value.putEntry (.text key) v entries))⟩
  | _, _ => .error .malformed

/-- Takes one token. -/
def take (b : Builder) (token : Token) : Except Error Builder :=
  match b.expect, token with
  | .value, token => takeValue b.frames token
  | .itemOrClose, .closeList =>
    match b.frames with
    | .list items :: outer => .ok ⟨outer, .separator (.list items.reverse)⟩
    | _ => .error .malformed
  | .itemOrClose, token => takeValue b.frames token
  | .keyOrClose entries, .closeMap => .ok ⟨b.frames, .separator (.map entries)⟩
  | .keyOrClose entries, .text t => .ok ⟨b.frames, .colon entries t⟩
  | .key entries, .text t => .ok ⟨b.frames, .colon entries t⟩
  | .colon entries key, .colon => .ok ⟨.map entries key :: b.frames, .value⟩
  | .separator v, token => takeSeparator b.frames v token
  | _, _ => .error .malformed

/-- The finished value, when nothing is open. -/
def finish (b : Builder) : Except Error Value :=
  match b.frames, b.expect with
  | [], .separator v => .ok v
  | _, _ => .error .malformed

end Builder

/-- The value that a text writes. -/
def read (t : Text) : Except Error Value := do
  let b ← (lex t).foldlM Builder.take Builder.start
  b.finish

/-! ## Writing -/

/-- One UTF-16 code unit as an escape. -/
def unitEscape (n : Nat) : Text :=
  '\\' :: 'u' :: Text.hexadecimal 4 n

/-- One character of written text. -/
def writtenChar (c : Char) : Text :=
  let n := c.toNat
  if c == Text.doubleQuote || c == '\\' then ['\\', c]
  else if n == 10 then ['\\', 'n']
  else if n == 13 then ['\\', 'r']
  else if n == 9 then ['\\', 't']
  else if n == 12 then ['\\', 'f']
  else if n == 8 then ['\\', 'b']
  else if 32 ≤ n && n < 127 then [c]
  else if n < 0x10000 then unitEscape n
  else
    let m := n - 0x10000
    unitEscape (0xD800 + m / 0x400) ++ unitEscape (0xDC00 + m % 0x400)

/-- A text between double quotes. -/
def writtenText (t : Text) : Text :=
  Text.doubleQuote :: t.flatMap writtenChar ++ [Text.doubleQuote]

/-- A number; the special ones are words. -/
def writtenReal (x : Binary64) : Text :=
  match x with
  | .nan => "NaN".toList
  | .infinite negative => if negative then "-Infinity".toList else "Infinity".toList
  | x => x.text

/-- The text that a key of a map is written as. -/
def keyText : Value → Text
  | .null => "null".toList
  | .bool true => "true".toList
  | .bool false => "false".toList
  | .int n => (toString n).toList
  | .real x => writtenReal x
  | .text t => t
  | v => v.quoted

/-- Entries in the order of their keys. -/
def sortEntries (entries : List (Text × Text)) : List (Text × Text) :=
  entries.mergeSort (fun a b => !decide (b.1 < a.1))

mutual

/-- The characters of a written value. -/
def written : Value → Text
  | .null => "null".toList
  | .bool true => "true".toList
  | .bool false => "false".toList
  | .int n => (toString n).toList
  | .real x => writtenReal x
  | .text t => writtenText t
  | .moment m => writtenText m.text
  | .bytes bs => writtenText (Text.quotedBytes bs)
  | .list items => '[' :: Text.join ", ".toList (writtenItems items) ++ [']']
  | .pair v w => '[' :: written v ++ ", ".toList ++ written w ++ [']']
  | .set items => '[' :: Text.join ", ".toList (writtenItems items) ++ [']']
  | .map entries =>
    '\x7b' :: Text.join ", ".toList
      ((sortEntries (writtenEntries entries)).map
        (fun e => writtenText e.1 ++ ": ".toList ++ e.2)) ++ ['\x7d']

/-- Items of a list or set, each written. -/
def writtenItems : List Value → List Text
  | [] => []
  | v :: rest => written v :: writtenItems rest

/-- The entries of a map: key texts with written values. -/
def writtenEntries : List (Value × Value) → List (Text × Text)
  | [] => []
  | (k, v) :: rest => (keyText k, written v) :: writtenEntries rest

end

/-- The value as JSON text. -/
def write (v : Value) : String :=
  String.ofList (written v)

end Json
end DistroBallot
