import DistroBallot.Command.Check
import DistroBallot.Version.Sort

/-!
# Running a command line

A command line is run from its arguments to a transcript. A fault of the user is told to the log
and ends the run with its own exit code; so does a command line that is not understood, which does
nothing. Any other fault ends the run as it is. What reads the documents of configuration is given.
-/

namespace DistroBallot
namespace Command

/-- How to call the program. -/
def usage : String :=
  "usage: freecheck compare V1 V2\n" ++
  "       freecheck sort [-r] VERSION...\n" ++
  "       freecheck filter CONSTRAINT VERSION...\n" ++
  "       freecheck check [-c CONFIG] [--threshold X] [--offline]\n" ++
  "                       [--gentoo-license-groups-url URL] INPUT\n" ++
  "       each with [--loglevel LEVEL] [--logfile FILE]\n"

/-- The sign for the order of two versions. -/
def orderSign : Ordering → String
  | .lt => "<"
  | .eq => "="
  | .gt => ">"

/-- Texts on lines of their own. -/
def linesOf (texts : List Text) : String :=
  String.join (texts.map fun t => String.ofList t ++ "\n")

/-- Prints each text on a line. -/
def printAll (texts : List Text) : Check.Run Unit :=
  .modify fun s => { s with output := s.output ++ linesOf texts }

/-- Runs a command; `files` says how they stand after what the command has told. -/
def execute (read : Settings.DocumentReader) (world : World) (files : List Log.Event → Files) :
    Command → Check.Run Unit
  | .compare first second => Check.print (orderSign (Version.compare first second))
  | .sort versions newestFirst => printAll (Version.sort versions newestFirst)
  | .filter constraint versions =>
    match Version.filter versions (some constraint) with
    | .ok admitted => printAll admitted
    | .error e => Step.fail (.fault (.constraint e))
  | .check request => Check.run read world files request

/-- How a run that halted ends, and what is told about it. -/
def settle : Check.Halt → Ending × List Log.Event
  | .exit code => (.exit code, [])
  | .fault e =>
    match e.usageMessage? with
    | some message => (.exit .usageError, [.error message])
    | none => (.fault e, [])

/-- The transcript of a run that has ended, with the log from `threshold` on. -/
def conclude (threshold : Int) (ended : Ended Check.Halt Check.State Unit) : Transcript :=
  let (ending, told) := match ended.answer with
    | .ok () => (.exit .success, [])
    | .error halt => settle halt
  { ending
    output := ended.state.output
    log := Log.lines threshold (ended.events ++ told)
    requests := ended.state.session.evaluation.source.requests }

/-- Runs a command after telling that it starts. -/
def runCommand (read : Settings.DocumentReader) (world : World) (files : List Log.Event → Files)
    (command : Command) : Check.Run Unit := do
  let start := Log.Event.commandStart command.name
  Step.tell start
  execute read world (fun told => files (start :: told)) command

/-- Runs an invocation. What its log shows of what was told stands in the log file at once. -/
def runInvocation (read : Settings.DocumentReader) (world : World) (invocation : Invocation) :
    Transcript :=
  match world.logFile invocation.logFile with
  | .error e => ⟨.fault (.logFile e), "", "", []⟩
  | .ok log =>
    let files (told : List Log.Event) : Files :=
      world.filesAfter log (Log.lines invocation.logThreshold told)
    conclude invocation.logThreshold
      ((runCommand read world files invocation.command).run (Check.State.start world))

/-- The transcript of a command line that asks for help or is not understood. -/
def stopped : Stop → Transcript
  | .help => ⟨.exit .success, usage, "", []⟩
  | .misuse => ⟨.exit .misuse, "", usage, []⟩

/-- Runs a command line. -/
def runArguments (read : Settings.DocumentReader) (world : World) (arguments : List Text) :
    Transcript :=
  match Invocation.ofArguments arguments with
  | .ok invocation => runInvocation read world invocation
  | .error stop => stopped stop

end Command
end DistroBallot
