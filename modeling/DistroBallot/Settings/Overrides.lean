import DistroBallot.Ballot.Checker
import DistroBallot.Settings.Basic

/-!
# Applying configuration

Configuration has three sections: `freedom` with the threshold, `gentoo` with the URL of the
license groups and the free groups, and `http` with timeout and retries. Flags of a command go over
it. What is not usable is told and passed over, so that what was in effect before stays so.

The section `http` is applied from front to back: when the retries are not usable, the timeout has
been set already.
-/

namespace DistroBallot

/-- The flags of a command that go over configuration; null is a flag that is not given. -/
structure Flags where
  threshold : Value
  groupsUrl : Value
deriving Repr

namespace Settings

/-- The double-precision number that a value stands for, if it stands for one. Integers must be in
range. -/
def toReal? : Value → Except ConfigFault (Option Binary64)
  | .text t => .ok (Numeral.readReal? t)
  | .bytes bs => .ok ((Numeral.ofBytes? bs).bind Numeral.readReal?)
  | .real x => .ok (some x)
  | .bool b => .ok (some (Binary64.ofInt (if b then 1 else 0)))
  | .int n =>
    match Binary64.ofInt? n with
    | some x => .ok (some x)
    | none => .error .overflow
  | _ => .ok none

/-- The integer that a value stands for, if it stands for one: numbers are cut to their integer
part. An infinity is out of range. -/
def toInteger? : Value → Except ConfigFault (Option Int)
  | .text t => .ok (Numeral.readInt t).toOption
  | .bytes bs => .ok ((Numeral.ofBytes? bs).bind fun t => (Numeral.readInt t).toOption)
  | .bool b => .ok (some (if b then 1 else 0))
  | .int n => .ok (some n)
  | .real (.infinite _) => .error .overflow
  | .real x => .ok x.truncate?
  | _ => .ok none

/-- Whether a number can be a threshold: from zero on and below one. -/
def isThreshold (x : Binary64) : Bool :=
  (x.compareInt? 0).any (· != .lt) && x.compareInt? 1 == some .lt

/-- The threshold that a value stands for, if it stands for one. -/
def threshold? (v : Value) : Except ConfigFault (Option Binary64) :=
  (toReal? v).map (·.filter isThreshold)

/-- A section of configuration; it has no entries if it is missing or no map. -/
def configSection (config : Value) (name : String) : Value :=
  match config.field name with
  | .map entries => .map entries
  | _ => .map []

/-- The configuration as a map; none counts as an empty one. -/
def configMap (config : Value) : Except ConfigFault Value :=
  match config with
  | .map entries => .ok (.map entries)
  | config => if config.isTruthy then .error .notAMap else .ok (.map [])

/-- A threshold in the place of the one before, unless it is not usable, which is told. -/
def overrideThreshold (before : Binary64) (given : Value) (refusal : Log.Event) :
    Step ConfigFault Settings Binary64 := do
  match ← Step.ofExcept (threshold? given) with
  | some x => return x
  | none =>
    Step.tell refusal
    return before

/-- Applies the section `freedom`: the threshold to start from. -/
def applyFreedom (config : Value) : Step ConfigFault Settings Binary64 :=
  match (configSection config "freedom").field? "threshold" with
  | none => pure builtinThreshold
  | some given => overrideThreshold builtinThreshold given (.invalidThreshold given)

/-- A value as text, which it has to have. -/
def writtenOut (v : Value) : Except ConfigFault Text :=
  if v.isWritable then .ok v.display else .error .unwritable

/-- Applies the URL of the section `gentoo`, if it has one. -/
def applyGroupsUrl (given : Value) : Step ConfigFault Settings Unit :=
  if given.isTruthy then do
    let url ← Step.ofExcept (writtenOut given)
    Step.modify fun s => { s with groupsUrl := .text url }
  else pure ()

/-- Applies the groups of the section `gentoo`, if it lists any. -/
def applyCategories (given : Value) : Step ConfigFault Settings Unit :=
  match given with
  | .list (item :: rest) => do
    let categories ← Step.ofExcept ((item :: rest).mapM writtenOut)
    Step.modify fun s => { s with categories }
  | _ => pure ()

/-- Applies the section `gentoo`. -/
def applyGentoo (config : Value) : Step ConfigFault Settings Unit := do
  let given := configSection config "gentoo"
  applyGroupsUrl (given.field "license_groups_url")
  applyCategories (given.field "categories")

/-- Sets a number that a section gives; whether it is usable, which it also is if not given. -/
def setInteger (given : Value) (put : Int → Settings → Settings) :
    Step ConfigFault Settings Bool :=
  match given with
  | .null => pure true
  | given => do
    match ← Step.ofExcept (toInteger? given) with
    | some n =>
      Step.modify (put n)
      return true
    | none => return false

/-- Applies the section `http`, as far as it is usable. -/
def applyHttp (config : Value) : Step ConfigFault Settings Unit := do
  let given := configSection config "http"
  let timeoutUsable ←
    setInteger (given.field "timeout") (fun n s => { s with timeout := n })
  let usable ←
    if timeoutUsable then
      setInteger (given.field "retries") (fun n s => { s with retries := max 1 n })
    else pure false
  if usable then pure () else Step.tell (.invalidHttp given)

/-- Applies the flags of a command. -/
def applyFlags (flags : Flags) (before : Binary64) : Step ConfigFault Settings Binary64 := do
  let threshold ← match flags.threshold with
    | .null => pure before
    | given => overrideThreshold before given (.invalidFlag given)
  if flags.groupsUrl.isTruthy then
    Step.modify fun s => { s with groupsUrl := flags.groupsUrl }
  return threshold

/-- Applies configuration and then flags; the answer is the threshold in effect. -/
def applyOverrides (flags : Flags) (config : Value) : Step ConfigFault Settings Binary64 := do
  let config ← Step.ofExcept (configMap config)
  let threshold ← applyFreedom config
  applyGentoo config
  applyHttp config
  applyFlags flags threshold

end Settings
end DistroBallot
