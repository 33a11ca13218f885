import DistroBallot.Command.Run

/-!
# The program

The outermost layer: it reads the files that the command may need, runs the command line, and
prints what comes of it. Configuration is read as YAML. There is no transport for requests, so that
each of them fails and the free license identifiers cannot be had, as when the program works
offline.
-/

namespace DistroBallot
namespace Main

/-- What stands under a path that must not be opened: a file, if no path leads through it. -/
def entryBehind (path : Text) : IO Entry := do
  try
    let _ ← IO.FS.realPath (String.ofList (path ++ "/.".toList))
    return .unreadable
  catch e =>
    match e with
    | .inappropriateType .. => return .locked
    | _ => return .unreadable

/-- What stands under a path, as far as reading it can tell. -/
def entryAt (path : Text) : IO Entry := do
  try
    let bytes ← IO.FS.readBinFile (String.ofList path)
    return .file bytes.toList
  catch e =>
    match e with
    | .noFileOrDirectory .. => return .missing
    | .permissionDenied .. => entryBehind path
    | _ => return .unreadable

/-- The home directory of a user by a table of users, which has one on each line: the name is the
first of the fields between colons, the home directory the sixth. -/
def homeIn (table name : Text) : Option Text :=
  ((Text.pieces (· != '\n') table).map (Text.pieces (· != ':'))).findSome? fun fields =>
    if fields.head? = some name then fields[5]? else none

/-- The home directories that there are. -/
def readHomes : IO Path.Homes := do
  let own := ((← IO.getEnv "HOME").getD "").toList
  let table ← try IO.FS.readFile "/etc/passwd" catch _ => pure ""
  return ⟨own, homeIn table.toList⟩

/-- Opens a log file, so that it is there; the answer is why it cannot be opened, if so. -/
def openLogAt (path : Text) : IO (Option LogFileError) := do
  try
    let _ ← IO.FS.Handle.mk (String.ofList path) .append
    return none
  catch e =>
    match e with
    | .noFileOrDirectory .. => return some .noDirectory
    | .inappropriateType _ code _ => return some (if code = 21 then .isDirectory else .throughFile)
    | _ => return some .refused

/-- The path from the root under which a file really stands, or the path itself. -/
def realPath (path : Text) : IO Text := do
  try return (toString (← IO.FS.realPath (String.ofList path))).toList
  catch _ => return path

/-- The paths that a command may read from. -/
def pathsRead (homes : Path.Homes) (configPath : Text) : Command → List Text
  | .check request =>
    request.input ::
      (Settings.candidates request.config configPath).map (Path.expandHome homes)
  | _ => []

/-- The world as an invocation finds it once its log file is open. -/
def worldFor (invocation : Invocation) : IO World := do
  let homes ← readHomes
  let configPath := ((← IO.getEnv "FREECHECK_CONFIG").getD "").toList
  let directory ← realPath ['.']
  let logPath := Path.absolute directory invocation.logFile
  let failed ←
    if invocation.logFile.isEmpty || Path.holdsNull logPath then pure none else openLogAt logPath
  let logPlace ← realPath logPath
  let mut entries : List (Text × Entry × Bool) := []
  for path in pathsRead homes configPath invocation.command do
    if !Path.holdsNull path then
      entries := (path, ← entryAt path, (← realPath path) == logPlace) :: entries
  let input ← match invocation.command with
    | .check request =>
      if request.input = ['-'] then (·.toList) <$> (← IO.getStdin).readBinToEnd else pure []
    | _ => pure []
  let found := entries
  let files : Files := fun path => ((found.lookup path).map Prod.fst).getD .missing
  return {
    files
    openLog := fun _ => match failed with
      | some e => .error e
      | none => .ok ⟨files, fun path => ((found.lookup path).map Prod.snd).getD false⟩
    directory, homes, configPath, input
    clock := .int 0
    network := [] }

/-- Prints a transcript and answers with the exit code. -/
def report (logFile : Text) (t : Transcript) : IO UInt32 := do
  IO.print t.output
  if logFile.isEmpty then IO.eprint t.log
  else if !t.log.isEmpty then
    let path := Path.absolute (← realPath ['.']) logFile
    (← IO.FS.Handle.mk (String.ofList path) .append).putStr t.log
  match t.ending with
  | .exit code => return code.number.toUInt32
  | .fault e =>
    IO.eprintln s!"unexpected fault: {repr e}"
    return 1

end Main
end DistroBallot

open DistroBallot in
/-- Runs the command line of the program. -/
def main (arguments : List String) : IO UInt32 := do
  let arguments := arguments.map String.toList
  match Invocation.ofArguments arguments with
  | .ok invocation =>
    let world ← Main.worldFor invocation
    Main.report invocation.logFile (Command.runInvocation Settings.yamlReader world invocation)
  | .error stop => Main.report [] (Command.stopped stop)
