import DistroBallot.Ballot.Summary
import DistroBallot.Command.Invocation
import DistroBallot.Command.World
import DistroBallot.Document.Json
import DistroBallot.Settings.Checking

/-!
# Checking records

The command `check` reads configuration, then its input, and then checks the records of the input
one after the other, printing a line for each. The input is one record or a list of them. The first
fault ends the command; the lines printed before it stay. What reads the documents of configuration
is given.
-/

namespace DistroBallot
namespace Check

/-- The state of a run of `check`: settings, the session of the checker, and what was printed. -/
structure State where
  settings : Settings
  session : Session (License.IdentifierCache Client)
  output : String
deriving Repr

/-- Why a run ends before the last record: with an exit code, or by a fault. -/
inductive Halt where
  | exit (code : ExitCode)
  | fault (e : CommandFault)
deriving Repr

/-- A step of a run. -/
abbrev Run := Step Halt State

/-- The state before the first step. -/
def State.start (world : World) : State :=
  ⟨.builtin, Settings.builtin.session world.clock world.network, ""⟩

/-- Prints a line. -/
def print (line : String) : Run Unit :=
  .modify fun s => { s with output := s.output ++ line ++ "\n" }

/-- Ends the run because of a file, with a message for the log. -/
def failOnFile {α : Type} (message : String) : Run α := do
  Step.tell (.error message)
  Step.fail (.exit .fileError)

/-! ## Configuration -/

/-- Applies settings to the session, which has not begun. -/
def adopt (s : State) : State :=
  { s with session := { s.session with
    evaluation := { s.session.evaluation with
      source := { s.session.evaluation.source with policy := s.settings.fetchPolicy } } } }

/-- Applies configuration that has been found; the answer is the threshold in effect. -/
def applyConfig (request : Command.CheckRequest) (config : Value) : Run Binary64 := do
  let threshold ← ((Settings.applyOverrides request.flags config).mapFault
    (.fault ∘ .config)).within State.settings (fun s settings => { s with settings })
  Step.modify adopt
  return threshold

/-- Reads and applies configuration; the answer is the threshold in effect. -/
def configure (read : Settings.DocumentReader) (world : World) (files : List Log.Event → Files)
    (request : Command.CheckRequest) : Run Binary64 := do
  let config ← (Settings.locate read files world.homes request.config world.configPath).mapFault
    (.fault ∘ .config)
  applyConfig request config

/-! ## Input -/

/-- Ends the run because there is no file under a path. -/
def failOnMissing {α : Type} (path : Text) : Run α :=
  failOnFile <| "File not found: [Errno 2] No such file or directory: " ++
    s!"{String.ofList path.quoted}, aborting"

/-- Ends the run because what stands under a path cannot be read. -/
def failOnUnreadable {α : Type} (path : Text) : Run α :=
  failOnFile s!"Could not read {String.ofList path}: ..., aborting"

/-- The records of the text of an input: the items of a list, or the one record that it is. -/
def recordsOf (path text : Text) : Run (List Value) :=
  match Json.read text with
  | .ok (.list records) => pure records
  | .ok (.map entries) => pure [.map entries]
  | .ok _ => failOnFile "Input must be a JSON object or a list of objects, aborting"
  | .error .malformed => failOnUnreadable path
  | .error (.tooManyDigits count) => Step.fail (.fault (.inputNumber count))

/-- The records in the bytes of an input. -/
def recordsIn (path : Text) (bytes : List UInt8) : Run (List Value) :=
  match Utf8.decode bytes with
  | some text => recordsOf path text.withLineFeeds
  | none => Step.fail (.fault .inputNotUtf8)

/-- The records in what stands under a path. -/
def recordsAt (path : Text) : Entry → Run (List Value)
  | .file bytes => recordsIn path bytes
  | .missing => failOnMissing path
  | .locked | .unreadable => failOnUnreadable path

/-- The records of the input under a path; a lone hyphen is standard input. -/
def records (world : World) (files : Files) (path : Text) : Run (List Value) :=
  if path = ['-'] then recordsIn path world.input
  else if Path.holdsNull path then Step.fail (.fault .inputPath)
  else recordsAt path (files path)

/-! ## Records -/

/-- What is printed for a checked subject: the summary of the votes on a project, or the verdict on
a package. -/
def resultLine (subject : Subject) (reports : List VoteReport) (verdict : Verdict) : String :=
  match subject with
  | .project p =>
    Json.write (.map ((.ofString "project", .text p.name) ::
      (Summary.ofReports reports verdict).fields))
  | .package p =>
    Json.write (.map [(.ofString "package", p.displayName), (.ofString "repo", .text p.repo),
      (.ofString "verdict", .ofString verdict.name)])
  | .other _ => ""

/-- Drops the reports collected so far. -/
def forgetReports (s : State) : State :=
  { s with session := { s.session with reports := [] } }

/-- Checks a record and prints its line. -/
def checkRecord (checker : Checker (License.IdentifierCache Client)) (record : Value) :
    Run Unit := do
  let subject ← Step.ofExcept
    ((Subject.ofRecord record).mapError (fun e => .fault (.check (.record e))))
  Step.modify forgetReports
  let verdict ← ((checker.check subject).mapFault (fun e => .fault (.check e))).within
    State.session (fun s session => { s with session })
  let s ← Step.state
  print (resultLine subject s.session.reports verdict)

/-- Checks records in their order. -/
def checkRecords (checker : Checker (License.IdentifierCache Client)) : List Value → Run Unit
  | [] => pure ()
  | record :: rest => do
    checkRecord checker record
    checkRecords checker rest

/-- Reads the input and checks its records under the settings in effect. -/
def checkInput (world : World) (files : Files) (request : Command.CheckRequest)
    (threshold : Binary64) : Run Unit := do
  let s ← Step.state
  let checker := s.settings.checker request.offline (.real threshold) (some fun _ => none)
  let records ← records world files request.input
  checkRecords checker records

/-- Runs the command; `files` says how they stand after what the command has told. -/
def run (read : Settings.DocumentReader) (world : World) (files : List Log.Event → Files)
    (request : Command.CheckRequest) : Run Unit := do
  let (threshold, told) ← (configure read world files request).listen
  checkInput world (files told) request threshold

end Check
end DistroBallot
