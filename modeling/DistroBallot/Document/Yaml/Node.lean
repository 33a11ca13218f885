import DistroBallot.Document.Yaml.PlainValue

/-!
# The tree of a document

A document is a tree of scalars, lists and maps (`Node`). Its value is worked out from the top
downward: the scalars of a list or map are looked at before anything inside its lists and maps. So
of several faults the one nearest to the top is the one that is found, and of those at one depth
the first (`both`).

In a map the key `<<` merges: its value is a map, or a list of maps, the entries of which come in
front of the others and give way to them. Of a list of maps an earlier one goes over a later one.
-/

namespace DistroBallot
namespace Yaml

/-- What a document consists of. A node that is left out is an empty plain scalar. -/
inductive Node where
  | plain (t : Text)
  | quoted (t : Text)
  | list (items : List Node)
  | map (entries : List (Node × Node))
deriving Repr, Inhabited

/-- An error, and how many lists and maps it is inside of. -/
structure Flaw where
  depth : Nat
  error : Error
deriving DecidableEq, Repr

namespace Flaw

/-- What two parts come to. Of two flaws the one that is less deep counts, and of two at one depth
the first. -/
def both {α β : Type} (x : Except Flaw α) (y : Except Flaw β) : Except Flaw (α × β) :=
  match x, y with
  | .ok a, .ok b => .ok (a, b)
  | .error e, .ok _ => .error e
  | .ok _, .error f => .error f
  | .error e, .error f => .error (if e.depth ≤ f.depth then e else f)

/-- What a part comes to, seen from the list or map around it. -/
def deeper {α : Type} (x : Except Flaw α) : Except Flaw α :=
  x.mapError fun e => { e with depth := e.depth + 1 }

end Flaw

namespace Node

/-- The node that is left out. -/
def empty : Node := .plain []

/-- Whether a key merges. -/
def isMerge : Node → Bool
  | .plain t => t == mergeSign
  | _ => false

/-- The value of a key. Lists and maps cannot be keys. -/
def keyValue : Node → Except Flaw Value
  | .plain t => if t = ownSign then .ok (.text t) else (plainValue t).mapError (⟨0, ·⟩)
  | .quoted t => .ok (.text t)
  | _ => .error ⟨0, .malformed⟩

/-- What the entries of a map come to, each with its key first. -/
abbrev Entries := List (Except Flaw Value × Except Flaw Value)

/-- The entries with what they come to put together. -/
def Entries.values : Entries → Except Flaw (List (Value × Value))
  | [] => .ok []
  | (key, value) :: rest => Flaw.both (Flaw.both key value) (values rest) |>.map fun p => p.1 :: p.2

/-- The map of entries, of which a later one goes over an earlier one with the same key. -/
def mapOf (entries : List (Value × Value)) : Value :=
  .map (entries.foldl (fun done e => Value.putEntry e.1 e.2 done) [])

/-- The value of a map by its entries, which are none where something is merged that is no map. -/
def mapValue (entries : Option Entries) : Except Flaw Value :=
  match entries with
  | some entries => entries.values.map mapOf
  | none => .error ⟨0, .malformed⟩

mutual

/-- The value of a node. -/
def value : Node → Except Flaw Value
  | .plain t => (plainValue t).mapError (⟨0, ·⟩)
  | .quoted t => .ok (.text t)
  | .list items => Flaw.deeper ((itemValues items).map .list)
  | .map entries =>
    Flaw.deeper (mapValue ((entryParts entries).map fun parts => parts.1 ++ parts.2))

/-- The values of the items of a list. -/
def itemValues : List Node → Except Flaw (List Value)
  | [] => .ok []
  | n :: rest => (Flaw.both (value n) (itemValues rest)).map fun p => p.1 :: p.2

/-- What the entries of a map come to: those that are merged into it, and its own. -/
def entryParts : List (Node × Node) → Option (Entries × Entries)
  | [] => some ([], [])
  | (k, n) :: rest =>
    match entryParts rest with
    | none => none
    | some (merged, own) =>
      if k.isMerge then (mergedEntries n).map fun more => (more ++ merged, own)
      else some (merged, (keyValue k, value n) :: own)

/-- The entries of a map, or of the maps of a list, to be merged into another map. -/
def mergedEntries : Node → Option Entries
  | .map entries => (entryParts entries).map fun parts => parts.1 ++ parts.2
  | .list items => mergedItems items
  | _ => none

/-- The entries of the maps of a list, those of the last map first. -/
def mergedItems : List Node → Option Entries
  | [] => some []
  | n :: rest =>
    match mergedMap n, mergedItems rest with
    | some entries, some later => some (later ++ entries)
    | _, _ => none

/-- The entries of a map that stands in a list to be merged. -/
def mergedMap : Node → Option Entries
  | .map entries => (entryParts entries).map fun parts => parts.1 ++ parts.2
  | _ => none

end

end Node
end Yaml
end DistroBallot
