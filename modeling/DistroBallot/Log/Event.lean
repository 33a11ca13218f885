import DistroBallot.Ballot.Report
import DistroBallot.Log.Level

/-!
# Log events

What the library does is told as events. Each kind of event has its level, its message and its
context: the fields by which records are filtered.
-/

namespace DistroBallot
namespace Log

/-- Something that is told. -/
inductive Event where
  | vote (report : VoteReport)
  | projectVerdict (project : Text) (votes freeVotes : Nat) (verdict : Verdict)
  | abstention
  | groupsUnavailable (reason : String)
  | groupsLoaded (count : Nat) (target : Text)
  | cacheHit (target : Text)
  | request (target : Text) (attempt : Nat)
  | response (target : Text) (status : Int) (milliseconds : Option Int)
  | timeout (target : Text) (attempt : Nat)
  | requestFailure (target : Text) (attempt : Nat)
  | invalidThreshold (given : Value)
  | invalidHttp (given : Value)
  | invalidFlag (given : Value)
  | unreadableConfig (path : Text) (detail : String)
  | configNoMapping (path : Text)
  | commandStart (name : String)
  | error (message : String)
deriving Repr

namespace Event

/-- The level of an event. -/
def level : Event → Int
  | .vote _ => debugLevel
  | .projectVerdict .. => infoLevel
  | .abstention => debugLevel
  | .groupsUnavailable _ => warningLevel
  | .groupsLoaded .. => debugLevel
  | .cacheHit _ => debugLevel
  | .request .. => debugLevel
  | .response .. => debugLevel
  | .timeout .. => debugLevel
  | .requestFailure .. => debugLevel
  | .invalidThreshold _ => warningLevel
  | .invalidHttp _ => warningLevel
  | .invalidFlag _ => warningLevel
  | .unreadableConfig .. => warningLevel
  | .configNoMapping _ => warningLevel
  | .commandStart _ => debugLevel
  | .error _ => errorLevel

/-- The message of an event. -/
def message : Event → String
  | .vote r =>
    s!"[VOTE] {String.ofList r.repository} votes {r.verdict.name} for " ++
      String.ofList r.package.label
  | .projectVerdict project votes freeVotes verdict =>
    s!"[VOTE] Project {String.ofList project}: {freeVotes} of {votes} votes free -> " ++
      verdict.name
  | .abstention => "Gentoo abstains: free identifiers unavailable"
  | .groupsUnavailable reason => s!"Free license identifiers unavailable: {reason}"
  | .groupsLoaded count _ => s!"Loaded {count} free Gentoo license identifiers"
  | .cacheHit _ => "HTTP cache hit"
  | .request .. => "HTTP request"
  | .response .. => "HTTP response ok"
  | .timeout .. => "HTTP timeout"
  | .requestFailure .. => "HTTP request exception"
  | .invalidThreshold given =>
    s!"Ignoring invalid freedom.threshold in config: {String.ofList given.quoted}"
  | .invalidHttp given =>
    s!"Ignoring invalid http settings in config: {String.ofList given.quoted}"
  | .invalidFlag given =>
    s!"Ignoring invalid --threshold {String.ofList given.quoted}; must be in [0, 1)"
  | .unreadableConfig path detail =>
    s!"Ignoring unreadable config file {String.ofList path}: {detail}"
  | .configNoMapping path =>
    s!"Ignoring config file {String.ofList path}: top level is not a mapping"
  | .commandStart _ => "CLI start"
  | .error message => message

/-- A field of a context. -/
def entry (key : String) (v : Value) : Value × Value := (.ofString key, v)

/-- The fields that all events of the HTTP client have. -/
def httpFields (kind : String) (target : Text) : List (Value × Value) :=
  [entry "event" (.ofString kind), entry "component" (.ofString "http_client"),
    entry "action" (.ofString "GET"), entry "target" (.text target)]

/-- The context of an event. -/
def context : Event → List (Value × Value)
  | .vote r =>
    [entry "event" (.ofString "vote"), entry "component" (.ofString "voting"),
      entry "repository" (.text r.repository), entry "repo" (.text r.package.repo),
      entry "package" r.package.displayName, entry "verdict" (.ofString r.verdict.name)]
  | .projectVerdict project votes freeVotes verdict =>
    [entry "event" (.ofString "project_verdict"), entry "component" (.ofString "voting"),
      entry "project" (.text project), entry "votes" (.int votes),
      entry "free_votes" (.int freeVotes), entry "verdict" (.ofString verdict.name)]
  | .abstention =>
    [entry "event" (.ofString "abstain"), entry "component" (.ofString "rules"),
      entry "evaluator" (.ofString "gentoo")]
  | .groupsUnavailable _ =>
    [entry "event" (.ofString "license_groups_unavailable"),
      entry "component" (.ofString "identifiers")]
  | .groupsLoaded count target =>
    [entry "event" (.ofString "license_groups_loaded"),
      entry "component" (.ofString "identifiers"), entry "count" (.int count),
      entry "target" (.text target)]
  | .cacheHit target => httpFields "cache_hit" target
  | .request target attempt => httpFields "http_request" target ++ [entry "attempt" (.int attempt)]
  | .response target status milliseconds =>
    httpFields "http_response" target ++
      [entry "outcome" (.ofString "success"), entry "status_code" (.int status),
        entry "duration_ms" ((milliseconds.map Value.int).getD .null)]
  | .timeout target attempt =>
    httpFields "http_exception" target ++
      [entry "outcome" (.ofString "timeout"), entry "attempt" (.int attempt)]
  | .requestFailure target attempt =>
    httpFields "http_exception" target ++
      [entry "outcome" (.ofString "request_exception"), entry "attempt" (.int attempt)]
  | .commandStart name =>
    [entry "event" (.ofString "function_entry"), entry "component" (.ofString "cli"),
      entry "action" (.ofString name)]
  | _ => []

end Event

/-- The fields of a context that are set. -/
def setFields (fields : List (Value × Value)) : List (Value × Value) :=
  fields.filter fun e => match e.2 with
    | .null => false
    | _ => true

/-- The events that a log with this threshold shows. -/
def visible (threshold : Int) (events : List Event) : List Event :=
  events.filter (fun e => shows threshold e.level)

/-- The lines of the events that a log with this threshold shows. -/
def lines (threshold : Int) (events : List Event) : String :=
  String.join ((visible threshold events).map fun e => line e.level e.message)

end Log
end DistroBallot
