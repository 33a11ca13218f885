import DistroBallot.Fetch.Client
import DistroBallot.Settings.Locate
import DistroBallot.Version.Constraint

/-!
# The world of a command

What a run of a command depends on besides its arguments, and what it comes to: how it ends, what
it prints, what it logs, and which requests it made.
-/

namespace DistroBallot

/-- What a command can see: files, what comes of opening a log file under a path from the root, the
working directory and the home directories, the path of the configuration that the environment names
(empty if it names none), the bytes of standard input, the clock, and the script of the network. -/
structure World where
  files : Files
  openLog : Text → Except LogFileError LogFile
  directory : Text
  homes : Path.Homes
  configPath : Text
  input : List UInt8
  clock : Number
  network : List Exchange

namespace World

/-- Opens the log file under a path, if the path is not empty. -/
def logFile (world : World) (path : Text) : Except LogFileError (Option LogFile) :=
  if path.isEmpty then .ok none
  else if Path.holdsNull path then .error .nullInPath
  else (world.openLog (Path.absolute world.directory path)).map some

/-- The files after so much was written to the log. -/
def filesAfter (world : World) (log : Option LogFile) (written : String) : Files :=
  match log with
  | none => world.files
  | some file => file.filesAfter written

end World

/-- Why a command stops before its end. -/
inductive CommandFault where
  | logFile (e : LogFileError)
  | config (e : ConfigFault)
  | constraint (e : Constraint.Error)
  | inputPath
  | inputNotUtf8
  | inputNumber (digits : Nat)
  | check (e : Fault)
deriving Repr

namespace CommandFault

/-- What is told to the user of a fault that is his. -/
def usageMessage? : CommandFault → Option String
  | .logFile _ => none
  | .config e => e.message?
  | .constraint e => some e.message
  | .inputPath => some "embedded null byte"
  | .inputNotUtf8 => ConfigFault.notUtf8.message?
  | .inputNumber digits => some (Numeral.tooLongMessage digits)
  | .check e => if e.isUsage then e.message? else none

end CommandFault

/-- The codes that a command exits with. -/
inductive ExitCode where
  | success
  | fileError
  | misuse
  | usageError
deriving DecidableEq, Repr

/-- The number of an exit code. -/
def ExitCode.number : ExitCode → Nat
  | .success => 0
  | .fileError => 1
  | .misuse => 2
  | .usageError => 4

/-- How a command ends: with an exit code, or by a fault that it does not expect. -/
inductive Ending where
  | exit (code : ExitCode)
  | fault (e : CommandFault)
deriving Repr

/-- What a run of a command comes to. The log goes to the file of the invocation, if that names
one. -/
structure Transcript where
  ending : Ending
  output : String
  log : String
  requests : List Request
deriving Repr

end DistroBallot
