import DistroBallot.Text.Blank
import DistroBallot.Text.Word

/-!
# Non-free markers

Some repositories mark what is not free by a word in the license text. A marker is found where its
letters stand, without regard to case, with no character of its kind of words right before or
right after them.

Without regard to case, a few letters beyond ASCII count as ASCII ones: the dotted capital and the
dotless small `i`, the long `s` and the sign of the kelvin.
-/

namespace DistroBallot
namespace License

/-- The lower-case ASCII letter that a character counts as, or the character. -/
def foldedLetter (c : Char) : Char :=
  if c == 'İ' || c == 'ı' then 'i'
  else if c == 'ſ' then 's'
  else if c.toNat == 0x212A then 'k'
  else c.toLower

/-- A word that marks what is not free: its letters in lower case, and the characters that may not
touch it. -/
structure Marker where
  letters : Text
  touches : Char → Bool

namespace Marker

/-- Whether the letters stand at the start of the text, with nothing touching after them. -/
def standsAt (touches : Char → Bool) : Text → Text → Bool
  | [], [] => true
  | [], c :: _ => !touches c
  | _ :: _, [] => false
  | m :: letters, c :: rest => foldedLetter c == m && standsAt touches letters rest

/-- Whether the marker stands somewhere in the text; `touched` is whether the character before the
text touches. -/
def occursFrom (marker : Marker) (touched : Bool) : Text → Bool
  | [] => false
  | c :: rest =>
    (!touched && standsAt marker.touches marker.letters (c :: rest)) ||
      occursFrom marker (marker.touches c) rest

/-- Whether the marker stands somewhere in the text. -/
def occursIn (marker : Marker) (t : Text) : Bool :=
  marker.occursFrom false t

/-- Whether a license text is free by a marker: it is not blank and does not hold the marker. -/
def admits (marker : Marker) (text : Option Text) : Bool :=
  match text with
  | none => false
  | some t => !t.isBlankText && !marker.occursIn t

/-- The word that marks what is not free in Arch. -/
def arch : Marker := ⟨"proprietary".toList, isWordChar⟩

/-- The word that marks what is not free in openSUSE; a hyphen is part of words. -/
def opensuse : Marker := ⟨"suse-nonfree".toList, fun c => isWordChar c || c == '-'⟩

end Marker

end License
end DistroBallot
