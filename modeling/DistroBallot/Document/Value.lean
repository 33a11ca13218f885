import DistroBallot.Document.Moment
import DistroBallot.Number.Basic
import DistroBallot.Number.Numeral
import DistroBallot.Number.Shortest
import DistroBallot.Text.Quoted

/-!
# Document values

The values that documents hold: records given as input, configuration files and command flags.
Moments, bytes, pairs and sets are written in configuration files only. The items of a set are in
the order in which it gives them.
A map keeps its entries in the order of their first appearance. Its keys are values too, since
configuration files allow it; records have text keys only.

`Value.display` is how a value stands in a sentence and `Value.quoted` how it stands in a list or
where its kind matters: the two differ on texts and moments alone.
-/

namespace DistroBallot

/-- A value of a document. -/
inductive Value where
  | null
  | bool (b : Bool)
  | int (n : Int)
  | real (x : Binary64)
  | text (t : Text)
  | moment (m : Moment)
  | bytes (bs : List UInt8)
  | list (items : List Value)
  | pair (first second : Value)
  | set (items : List Value)
  | map (entries : List (Value × Value))
deriving Repr, Inhabited

namespace Value

/-- A text value from a string. -/
def ofString (s : String) : Value := .text s.toList

/-- The values that count as given: all but null, false, zero and whatever is empty. -/
def isTruthy : Value → Bool
  | .null => false
  | .bool b => b
  | .int n => n != 0
  | .real x => !x.isZero
  | .text t => !t.isEmpty
  | .moment _ => true
  | .bytes bs => !bs.isEmpty
  | .list items => !items.isEmpty
  | .pair _ _ => true
  | .set items => !items.isEmpty
  | .map entries => !entries.isEmpty

/-- The first of two values if it counts as given, else the second. -/
def orElse (v w : Value) : Value := if v.isTruthy then v else w

/-- The number that a value is. The truth values are the numbers zero and one. -/
def number? : Value → Option Number
  | .bool b => some (.int (if b then 1 else 0))
  | .int n => some (.int n)
  | .real x => some (.real x)
  | _ => none

/-- Whether two scalars are the same key of a map: numbers are when they are equal. -/
def sameKey : Value → Value → Bool
  | .null, .null => true
  | .text a, .text b => a == b
  | .moment a, .moment b => a == b
  | .bytes a, .bytes b => a == b
  | v, w =>
    match v.number?, w.number? with
    | some a, some b => a.compare? b == some .eq
    | _, _ => false

/-- The entries with `key` bound to `value`: in the place of an earlier binding, else at the
end. -/
def putEntry (key value : Value) : List (Value × Value) → List (Value × Value)
  | [] => [(key, value)]
  | (k, v) :: rest =>
    if sameKey k key then (k, value) :: rest else (k, v) :: putEntry key value rest

/-- The value bound to a text key. -/
def lookup? (key : Text) : List (Value × Value) → Option Value
  | [] => none
  | (.text k, v) :: rest => if k = key then some v else lookup? key rest
  | _ :: rest => lookup? key rest

/-- The value of a field of a map; none if it is missing or the value is no map. -/
def field? (v : Value) (key : String) : Option Value :=
  match v with
  | .map entries => lookup? key.toList entries
  | _ => none

/-- The value of a field of a map, null if it is missing. -/
def field (v : Value) (key : String) : Value := (v.field? key).getD .null

/-! ## Values in messages -/

mutual

/-- The value with its texts in quotes. -/
def quoted : Value → Text
  | .null => "None".toList
  | .bool true => "True".toList
  | .bool false => "False".toList
  | .int n => (toString n).toList
  | .real x => x.text
  | .text t => t.quoted
  | .moment m => m.constructed
  | .bytes bs => Text.quotedBytes bs
  | .list items => '[' :: Text.join ", ".toList (quotedItems items) ++ [']']
  | .pair v w => '(' :: v.quoted ++ ", ".toList ++ w.quoted ++ [')']
  | .set [] => "set()".toList
  | .set (item :: rest) =>
    '\x7b' :: Text.join ", ".toList (quotedItems (item :: rest)) ++ ['\x7d']
  | .map entries => '\x7b' :: Text.join ", ".toList (quotedEntries entries) ++ ['\x7d']

/-- Items of a list or set, each quoted. -/
def quotedItems : List Value → List Text
  | [] => []
  | v :: rest => v.quoted :: quotedItems rest

/-- The entries of a map, each as a quoted key and a quoted value. -/
def quotedEntries : List (Value × Value) → List Text
  | [] => []
  | (k, v) :: rest => (k.quoted ++ ": ".toList ++ v.quoted) :: quotedEntries rest

end

/-- The value as it stands in a sentence: a text is itself. -/
def display : Value → Text
  | .text t => t
  | .moment m => m.text
  | v => v.quoted

mutual

/-- Whether the value can be written out: no integer in it has more digits than a numeral may
have. -/
def isWritable : Value → Bool
  | .int n => decide (n.natAbs < Nat.pow 10 Numeral.maxDigits)
  | .list items => areWritable items
  | .pair v w => v.isWritable && w.isWritable
  | .set items => areWritable items
  | .map entries => entriesWritable entries
  | _ => true

/-- Whether all items of a list or set can be written out. -/
def areWritable : List Value → Bool
  | [] => true
  | v :: rest => v.isWritable && areWritable rest

/-- Whether all entries of a map can be written out. -/
def entriesWritable : List (Value × Value) → Bool
  | [] => true
  | (k, v) :: rest => k.isWritable && v.isWritable && entriesWritable rest

end

/-- The name of a value's kind, as messages give it. -/
def kindName : Value → String
  | .null => "NoneType"
  | .bool _ => "bool"
  | .int _ => "int"
  | .real _ => "float"
  | .text _ => "str"
  | .moment m => m.kindName
  | .bytes _ => "bytes"
  | .list _ => "list"
  | .pair _ _ => "tuple"
  | .set _ => "set"
  | .map _ => "dict"

end Value
end DistroBallot
