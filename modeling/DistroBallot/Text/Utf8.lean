import DistroBallot.Text.Basic

/-!
# Decoding UTF-8

Bytes are decoded one by one. A first byte of a sequence says how many bytes follow it and between
which bounds the next one lies, which keeps out overlong forms, surrogates and numbers that are no
characters; the bytes after that lie between `0x80` and `0xBF`. Bytes that are not UTF-8 have no
text.
-/

namespace DistroBallot
namespace Utf8

/-- A sequence under way: the bits read so far, the bounds of the next byte, and how many bytes
come after that. -/
structure Sequence where
  bits : Nat
  low : Nat
  high : Nat
  after : Nat
deriving DecidableEq, Repr

/-- The sequence that a first byte opens. -/
def opened? (b : Nat) : Option Sequence :=
  if 0xC2 ≤ b && b ≤ 0xDF then some ⟨b - 0xC0, 0x80, 0xBF, 0⟩
  else if b == 0xE0 then some ⟨0, 0xA0, 0xBF, 1⟩
  else if b == 0xED then some ⟨0xD, 0x80, 0x9F, 1⟩
  else if 0xE1 ≤ b && b ≤ 0xEF then some ⟨b - 0xE0, 0x80, 0xBF, 1⟩
  else if b == 0xF0 then some ⟨0, 0x90, 0xBF, 2⟩
  else if 0xF1 ≤ b && b ≤ 0xF3 then some ⟨b - 0xF0, 0x80, 0xBF, 2⟩
  else if b == 0xF4 then some ⟨4, 0x80, 0x8F, 2⟩
  else none

/-- The text of bytes, the first of which may go on with a sequence. -/
def decodeFrom : Option Sequence → List UInt8 → Option Text
  | none, [] => some []
  | some _, [] => none
  | none, b :: rest =>
    if b.toNat < 0x80 then (decodeFrom none rest).map (Char.ofNat b.toNat :: ·)
    else (opened? b.toNat).bind (fun s => decodeFrom (some s) rest)
  | some s, b :: rest =>
    if s.low ≤ b.toNat && b.toNat ≤ s.high then
      let bits := 64 * s.bits + (b.toNat - 0x80)
      match s.after with
      | 0 => (decodeFrom none rest).map (Char.ofNat bits :: ·)
      | n + 1 => decodeFrom (some ⟨bits, 0x80, 0xBF, n⟩) rest
    else none

/-- The text that bytes write; none if they are not UTF-8. -/
def decode (bytes : List UInt8) : Option Text :=
  decodeFrom none bytes

end Utf8

namespace Text

/-- The text with every end of line as a line feed: a return becomes one, together with a line feed
right after it. -/
def withLineFeeds : Text → Text
  | [] => []
  | '\r' :: '\n' :: rest => '\n' :: withLineFeeds rest
  | '\r' :: rest => '\n' :: withLineFeeds rest
  | c :: rest => c :: withLineFeeds rest

end Text
end DistroBallot
