import DistroBallot.Document.Value
import DistroBallot.Text.Case

/-!
# Log levels

A level is a number; five of them, and zero, have names. A log shows the records whose level is at
least its threshold, and none of level zero or below. The threshold is chosen by a name without
regard to case; a name that says nothing chooses the level of information.
-/

namespace DistroBallot
namespace Log

/-- The level of details for those who look for a fault. -/
def debugLevel : Int := 10

/-- The level of information. -/
def infoLevel : Int := 20

/-- The level of warnings. -/
def warningLevel : Int := 30

/-- The level of errors. -/
def errorLevel : Int := 40

/-- How a level is written. -/
def levelName (level : Int) : String :=
  if level = 50 then "CRITICAL"
  else if level = 40 then "ERROR"
  else if level = 30 then "WARNING"
  else if level = 20 then "INFO"
  else if level = 10 then "DEBUG"
  else if level = 0 then "NOTSET"
  else s!"Level {level}"

/-- The names that choose a threshold. -/
def thresholdNames : List (String × Int) :=
  [("CRITICAL", 50), ("FATAL", 50), ("ERROR", 40), ("WARNING", 30), ("WARN", 30), ("INFO", 20),
    ("DEBUG", 10), ("NOTSET", 0)]

/-- The names that stand for something other than a level: for a layout, or for the table of
layouts. -/
inductive LevelError where
  | layout
  | layoutTable
deriving DecidableEq, Repr

/-- The threshold that a value chooses. -/
def threshold (level : Value) : Except LevelError Int :=
  let name := String.ofList level.display.upper
  match thresholdNames.lookup name with
  | some n => .ok n
  | none =>
    if name = "BASIC_FORMAT" then .error .layout
    else if name = "_STYLES" then .error .layoutTable
    else .ok infoLevel

/-- Whether a record of this level is shown. -/
def shows (threshold level : Int) : Bool :=
  decide (threshold ≤ level) && decide (0 < level)

/-- A record as a line of the log. -/
def line (level : Int) (message : String) : String :=
  s!"[{levelName level}] {message}\n"

end Log
end DistroBallot
