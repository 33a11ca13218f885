import DistroBallot.Text.Basic
import DistroBallot.Text.Printable

/-!
# Quoted text

`Text.quoted` writes a text between quotes so that a message shows where it begins and ends. Single
quotes are used, unless the text holds a single quote and no double one. The quote in use and the
backslash are escaped, and so is every character that is not printable. Bytes are quoted in the same
way, by the characters of ASCII that they are (`Text.quotedBytes`).
-/

namespace DistroBallot
namespace Text

/-- The single quote. -/
def singleQuote : Char := '\x27'

/-- The double quote. -/
def doubleQuote : Char := '\x22'

/-- The number in hexadecimal digits, at least `width` of them. -/
def hexadecimal (width n : Nat) : Text :=
  let digits := Nat.toDigits 16 n
  List.replicate (width - digits.length) '0' ++ digits

/-- One character of quoted text. -/
def quotedChar (quote c : Char) : Text :=
  let n := c.toNat
  if c == quote || c == '\\' then ['\\', c]
  else if c == '\t' then ['\\', 't']
  else if c == '\n' then ['\\', 'n']
  else if c == '\r' then ['\\', 'r']
  else if isPrintable c then [c]
  else if n < 0x100 then '\\' :: 'x' :: hexadecimal 2 n
  else if n < 0x10000 then '\\' :: 'u' :: hexadecimal 4 n
  else '\\' :: 'U' :: hexadecimal 8 n

/-- The quote that a text is put between. -/
def quoteFor (t : Text) : Char :=
  if t.contains singleQuote && !t.contains doubleQuote then doubleQuote else singleQuote

/-- The text between quotes. -/
def quoted (t : Text) : Text :=
  let quote := quoteFor t
  quote :: t.flatMap (quotedChar quote) ++ [quote]

/-- One of quoted bytes. -/
def quotedByte (quote : Char) (b : UInt8) : Text :=
  if b.toNat < 0x7F then quotedChar quote (Char.ofNat b.toNat)
  else '\\' :: 'x' :: hexadecimal 2 b.toNat

/-- Bytes between quotes, behind the letter that tells them from a text. -/
def quotedBytes (bytes : List UInt8) : Text :=
  let quote := quoteFor (bytes.map fun b => Char.ofNat b.toNat)
  'b' :: quote :: bytes.flatMap (quotedByte quote) ++ [quote]

end Text
end DistroBallot
