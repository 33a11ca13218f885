import DistroBallot.Document.Value
import DistroBallot.Text.Blank

/-!
# Packages and projects

A package is what one distribution repository reports of a piece of software; a project groups the
packages of the same software. Both are made from records. Only the name of the repository has to
be a text; the other fields are kept as they were given, and licenses become texts.
-/

namespace DistroBallot

/-- A package as one repository reports it. -/
structure Package where
  repo : Text
  subrepo : Value := .null
  licenses : List Text := []
  name : Value := .null
  version : Value := .null
  srcname : Value := .null
  binname : Value := .null
deriving Repr, Inhabited

/-- The packages of the same software. -/
structure Project where
  name : Text
  packages : List Package
deriving Repr, Inhabited

/-- Why a record makes no package or project. -/
inductive RecordError where
  | notARecord
  | emptyRepo
  | notIterable
  | fieldMismatch
deriving DecidableEq, Repr

namespace RecordError

/-- The message for an error that has one. -/
def message? : RecordError → Option String
  | .emptyRepo => some "Package.repo must be a non-empty string"
  | _ => none

end RecordError

namespace Value

/-- The values that a value consists of, one after the other: the characters of a text, the numbers
that bytes are, the items of a list or set, the keys of a map. -/
def iterate : Value → Except RecordError (List Value)
  | .text t => .ok (t.map (fun c => .text [c]))
  | .bytes bs => .ok (bs.map fun b => .int b.toNat)
  | .list items => .ok items
  | .pair v w => .ok [v, w]
  | .set items => .ok items
  | .map entries => .ok (entries.map Prod.fst)
  | _ => .error .notIterable

/-- The texts of a field that holds one text or several. -/
def texts : Value → Except RecordError (List Text)
  | .null => .ok []
  | .text t => .ok [t]
  | v => v.iterate.map (·.map display)

/-- A text that is not blank, as the name of a repository has to be. -/
def repoName : Value → Except RecordError Text
  | .text t => if t.isBlankText then .error .emptyRepo else .ok t
  | _ => .error .emptyRepo

end Value

namespace Package

/-- The package of a record. The licenses are looked at before the repository. -/
def ofRecord (record : Value) : Except RecordError Package :=
  match record with
  | .map _ => do
    let licenses ← (record.field "licenses").texts
    let repo ← (record.field "repo").repoName
    return {
      repo, licenses
      subrepo := record.field "subrepo"
      name := (record.field "visiblename").orElse (record.field "name")
      version := record.field "version"
      srcname := record.field "srcname"
      binname := record.field "binname" }
  | _ => .error .notARecord

/-- The fields that a package can be given. -/
def fieldNames : List String :=
  ["repo", "subrepo", "licenses", "name", "version", "srcname", "binname"]

/-- The package with these fields, each given by its own name: no other field may be given and the
repository must be. The repository is looked at before the licenses. -/
def ofFields (fields : Value) : Except RecordError Package :=
  match fields with
  | .map entries =>
    let known (e : Value × Value) : Bool :=
      match e.1 with
      | .text k => (fieldNames.map String.toList).contains k
      | _ => false
    if entries.all known && (fields.field? "repo").isSome then do
      let repo ← (fields.field "repo").repoName
      let licenses ← (fields.field "licenses").texts
      return {
        repo, licenses
        subrepo := fields.field "subrepo"
        name := fields.field "name"
        version := fields.field "version"
        srcname := fields.field "srcname"
        binname := fields.field "binname" }
    else .error .fieldMismatch
  | _ => .error .fieldMismatch

/-- The name that a package is shown with: the first of its names that is given. -/
def displayName (p : Package) : Value :=
  p.name.orElse (p.srcname.orElse (p.binname.orElse (.ofString "?")))

/-- The package in a message: its name, its version if it has one, and its repository. -/
def label (p : Package) : Text :=
  let name := p.displayName.display
  let version := if p.version.isTruthy then ' ' :: p.version.display else []
  name ++ version ++ " (".toList ++ p.repo ++ [')']

end Package

namespace Project

/-- The records of the packages of a project record; a field that is missing or empty holds
none. -/
def packageRecords (v : Value) : Except RecordError (List Value) :=
  if v.isTruthy then v.iterate else .ok []

/-- The project of a record. -/
def ofRecord (record : Value) : Except RecordError Project :=
  match record with
  | .map _ => do
    let records ← packageRecords (record.field "packages")
    let packages ← records.mapM Package.ofRecord
    return ⟨((record.field? "name").getD (.text [])).display, packages⟩
  | _ => .error .notARecord

end Project
end DistroBallot
