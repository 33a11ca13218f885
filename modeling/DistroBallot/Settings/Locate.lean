import DistroBallot.Files.Entry
import DistroBallot.Settings.Basic
import DistroBallot.Text.Utf8

/-!
# Locating configuration

Configuration is looked for under several paths, in order: one that is given, one that the
environment names, and the default locations. The first regular file that holds a map, or nothing,
is the configuration. A file that cannot be opened, is no document or holds something else is told
and passed over. What is told may change files, if the log is written to one of them.

The search does not depend on how the text of a document is read, only on what comes of it: it is
the same for every reader.
-/

namespace DistroBallot

namespace Settings

/-- Where configuration is looked for by default. -/
def defaultLocations : List Text :=
  ["freecheck.yml".toList, "freecheck.yaml".toList, "~/.config/freecheck/freecheck.yml".toList]

/-- Where configuration is looked for; an empty path counts as not given. -/
def candidates (given environment : Text) : List Text :=
  [given, environment].filter (fun path => !path.isEmpty) ++ defaultLocations

/-- What reads documents: what it makes of the text of one, and of bytes that are no text, what it
finds wrong in front of the first that is none, if it does not come to that one. -/
structure DocumentReader where
  read : Text → Except Yaml.Error Value
  refuses? : List UInt8 → Option Yaml.Error

instance : CoeFun DocumentReader fun _ => Text → Except Yaml.Error Value := ⟨DocumentReader.read⟩

/-- What reads YAML: it takes all of the bytes for a text before it reads the first of them. -/
def yamlReader : DocumentReader := ⟨Yaml.read, fun _ => none⟩

/-- Passes over a file that cannot be read. -/
def passOver {σ : Type} (path : Text) : Step ConfigFault σ (Option Value) := do
  Step.tell (.unreadableConfig path "...")
  return none

/-- A file without a document: one that is malformed is passed over, and a fault of a scalar stops
the search. -/
def refuse {σ : Type} (path : Text) : Yaml.Error → Step ConfigFault σ (Option Value)
  | .malformed => passOver path
  | .scalar e => .fail (.scalar e)

/-- The configuration in the text of a file: a map, or an empty one for nothing. What holds
something else is told and is no configuration. -/
def ofDocument {σ : Type} (read : DocumentReader) (path text : Text) :
    Step ConfigFault σ (Option Value) :=
  match read text with
  | .ok (.map entries) => pure (some (.map entries))
  | .ok v =>
    if v.isTruthy then do
      Step.tell (.configNoMapping path)
      return none
    else pure (some (.map []))
  | .error e => refuse path e

/-- The configuration under a path, if it is there. -/
def ofEntry {σ : Type} (read : DocumentReader) (path : Text) :
    Entry → Step ConfigFault σ (Option Value)
  | .file bytes =>
    match Utf8.decode bytes with
    | some text => ofDocument read path text.withLineFeeds
    | none =>
      match read.refuses? bytes with
      | some e => refuse path e
      | none => .fail .notUtf8
  | .locked => passOver path
  | _ => pure none

/-- The first configuration under one of these paths; an empty map if there is none. `told` is what
was told before, and `files` says how they stand after what was told. -/
def locateAmong {σ : Type} (read : DocumentReader) (files : List Log.Event → Files)
    (told : List Log.Event) : List Text → Step ConfigFault σ Value
  | [] => pure (.map [])
  | path :: rest => do
    let (found, more) ← (ofEntry read path ((files told).entry path)).listen
    match found with
    | some config => return config
    | none => locateAmong read files (told ++ more) rest

/-- The configuration in effect. -/
def locate {σ : Type} (read : DocumentReader) (files : List Log.Event → Files)
    (homes : Path.Homes) (given environment : Text) : Step ConfigFault σ Value :=
  locateAmong read files [] ((candidates given environment).map (Path.expandHome homes))

end Settings
end DistroBallot
