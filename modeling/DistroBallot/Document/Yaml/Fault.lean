import DistroBallot.Document.Moment
import DistroBallot.Number.Numeral

/-!
# Faults of YAML text

A text can be malformed. Or it is well formed, but a scalar in it is written like something that
there is not: a number without digits or a day that is not in the calendar. The two are told apart,
since a malformed text can be passed over.
-/

namespace DistroBallot
namespace Yaml

/-- What is wrong with a scalar that is written well: too many digits, no digits, no character with
a code, a number out of range, no such moment, or something else, which has a message if it lies in
the value. -/
inductive ScalarFault where
  | tooManyDigits (count : Nat)
  | noDigits (base : Nat)
  | noCharacter
  | outOfRange
  | noMoment (e : MomentError)
  | other (message : Option String)
deriving DecidableEq, Repr

/-- The message for a fault; a number out of range has none. -/
def ScalarFault.message? : ScalarFault → Option String
  | .tooManyDigits count => some (Numeral.tooLongMessage count)
  | .noDigits base => some s!"invalid literal for int() with base {base}: ''"
  | .noCharacter => some "chr() arg not in range(0x110000)"
  | .outOfRange => none
  | .noMoment e => some e.message
  | .other message => message

/-- Why a text has no value. -/
inductive Error where
  | malformed
  | scalar (e : ScalarFault)
deriving DecidableEq, Repr

end Yaml
end DistroBallot
