import DistroBallot.Document.Yaml.Reader
import DistroBallot.License.Download

/-!
# Settings

The settings that configuration may change: where the license groups are fetched from, which of
them are free, and how requests are made. The threshold is no setting: it is worked out anew each
time configuration is applied.
-/

namespace DistroBallot

/-- The settings of the program. -/
structure Settings where
  groupsUrl : Value
  categories : List Text
  timeout : Int
  retries : Int
deriving Repr

namespace Settings

/-- The settings without configuration. -/
def builtin : Settings :=
  { groupsUrl := .text License.Groups.builtinUrl
    categories := License.Groups.builtinCategories
    timeout := 30
    retries := 3 }

/-- How requests are made under these settings. -/
def fetchPolicy (s : Settings) : FetchPolicy :=
  { FetchPolicy.builtin with timeout := .int s.timeout, attempts := s.retries }

end Settings

/-- Why configuration cannot be used at all: a file is not UTF-8 or holds a scalar that is none, the
whole of it is no map, a number is out of range, or one has too many digits to be written. -/
inductive ConfigFault where
  | notUtf8
  | scalar (e : Yaml.ScalarFault)
  | notAMap
  | overflow
  | unwritable
deriving DecidableEq, Repr

namespace ConfigFault

/-- The message for a fault, if it has one; what exactly is not UTF-8 is left out. -/
def message? : ConfigFault → Option String
  | .notUtf8 => some "'utf-8' codec can't decode ..."
  | .scalar e => e.message?
  | .notAMap => none
  | .overflow => none
  | .unwritable => some Numeral.unwritableMessage

end ConfigFault
end DistroBallot
