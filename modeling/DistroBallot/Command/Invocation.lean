import DistroBallot.Command.Arguments
import DistroBallot.Settings.Overrides

/-!
# Invocations

The program has four commands: `compare` two versions, `sort` versions, `filter` versions by a
constraint, and `check` the freedom of records. Each reads its own arguments; all of them may be
told how much to log, and where. `Invocation.ofArguments` reads the arguments of a whole command
line.

An option whose value is the divider `--` has no value; that counts as an empty list.
-/

namespace DistroBallot
namespace Command

/-- What `check` is asked to do. An empty path is one that is not given. -/
structure CheckRequest where
  input : Text
  config : Text
  offline : Bool
  flags : Flags
deriving Repr

end Command

/-- A command with its arguments. -/
inductive Command where
  | compare (first second : Text)
  | sort (versions : List Text) (newestFirst : Bool)
  | filter (constraint : Text) (versions : List Text)
  | check (request : Command.CheckRequest)
deriving Repr

/-- A command, the threshold of the log, and the path of the file that the log is written to; the
path is empty where there is no such file. -/
structure Invocation where
  command : Command
  logThreshold : Int
  logFile : Text
deriving Repr

namespace Command

/-- The word for a command. -/
def name : Command → String
  | .compare .. => "compare"
  | .sort .. => "sort"
  | .filter .. => "filter"
  | .check _ => "check"

/-! ## Options -/

/-- An option with a value that may be anything. -/
def textOption (key : String) (names : List String) : OptionSpec :=
  ⟨key, names.map String.toList, true, fun _ => true⟩

/-- An option without a value. -/
def flagOption (key : String) (names : List String) : OptionSpec :=
  ⟨key, names.map String.toList, false, fun _ => true⟩

/-- The levels that a log can be given. -/
def levelNames : List Text :=
  ["DEBUG".toList, "INFO".toList, "WARNING".toList, "ERROR".toList, "CRITICAL".toList]

/-- The options of every command. -/
def logOptions : List OptionSpec :=
  [⟨"level", ["--loglevel".toList], true, levelNames.contains⟩,
    textOption "logfile" ["--logfile"]]

/-- The options of `sort`. -/
def sortOptions : List OptionSpec :=
  flagOption "reverse" ["-r", "--reverse"] :: logOptions

/-- The options of `check`. -/
def checkOptions : List OptionSpec :=
  [textOption "config" ["-c", "--config"],
    ⟨"threshold", ["--threshold".toList], true, fun t => (Numeral.readReal? t).isSome⟩,
    flagOption "offline" ["--offline"],
    textOption "url" ["--gentoo-license-groups-url"]] ++ logOptions

/-! ## What is given -/

/-- The values that were given last under a key. -/
def lastGiven? (given : List Given) (key : String) : Option (List Text) :=
  (given.reverse.find? (fun g => g.key == key)).map Given.values

/-- Whether anything was given under a key. -/
def isGiven (given : List Given) (key : String) : Bool :=
  (lastGiven? given key).isSome

/-- The values given under a key. -/
def valuesGiven (given : List Given) (key : String) : List Text :=
  (lastGiven? given key).getD []

/-- The text given under a key; empty if there is none. -/
def textGiven (given : List Given) (key : String) : Text :=
  (valuesGiven given key).head?.getD []

/-- The value given under a key: null if nothing was given, and an empty list if that was the
divider. -/
def valueGiven (given : List Given) (key : String) (ofText : Text → Value) : Value :=
  match lastGiven? given key with
  | none => .null
  | some [] => .list []
  | some (t :: _) => ofText t

/-- The threshold as a flag: the number that the text writes. -/
def thresholdValue (t : Text) : Value :=
  ((Numeral.readReal? t).map Value.real).getD .null

/-- The threshold of the log, which shows warnings if nothing was given. -/
def logThreshold (given : List Given) : Int :=
  match valueGiven given "level" .text with
  | .null => Log.warningLevel
  | level => (Log.threshold level).toOption.getD Log.infoLevel

/-! ## Commands -/

/-- The command of this word with its arguments, as what was given. -/
def givenTo (word : String) (arguments : List Text) : Except Stop (List Given) :=
  match word with
  | "compare" => readArguments logOptions [⟨"first", false⟩, ⟨"second", false⟩] arguments
  | "sort" => readArguments sortOptions [⟨"versions", true⟩] arguments
  | "filter" => readArguments logOptions [⟨"constraint", false⟩, ⟨"versions", true⟩] arguments
  | "check" => readArguments checkOptions [⟨"input", false⟩] arguments
  | _ => .error .misuse

/-- The command of this word, by what was given to it. -/
def ofGiven (word : String) (given : List Given) : Command :=
  match word with
  | "compare" => .compare (textGiven given "first") (textGiven given "second")
  | "sort" => .sort (valuesGiven given "versions") (isGiven given "reverse")
  | "filter" => .filter (textGiven given "constraint") (valuesGiven given "versions")
  | _ => .check {
      input := textGiven given "input"
      config := textGiven given "config"
      offline := isGiven given "offline"
      flags := ⟨valueGiven given "threshold" thresholdValue, valueGiven given "url" .text⟩ }

/-- The word of the command with its arguments, and whether something before it was not
understood. -/
def splitWord (extra : Bool) : List Text → Except Stop (Bool × Text × List Text)
  | [] => .error .misuse
  | t :: rest =>
    if t = dividerText then .error .misuse
    else match classify [helpOption] t with
      | .error e => .error e
      | .ok (.argument word) => .ok (extra, word, rest)
      | .ok (.option spec isLetter joined) =>
        match takeOption [helpOption] spec isLetter joined [] with
        | .error e => .error e
        | .ok _ => .error .misuse
      | .ok _ => splitWord true rest

end Command

namespace Invocation

/-- The invocation that the arguments of a command line make. -/
def ofArguments (arguments : List Text) : Except Command.Stop Invocation := do
  let (extra, word, rest) ← Command.splitWord false arguments
  let given ← Command.givenTo (String.ofList word) rest
  if extra then .error .misuse
  else return {
    command := Command.ofGiven (String.ofList word) given
    logThreshold := Command.logThreshold given
    logFile := Command.textGiven given "logfile" }

end Invocation
end DistroBallot
