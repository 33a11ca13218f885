import DistroBallot.Fault
import DistroBallot.Log.Stopwatch
import DistroBallot.Step

/-!
# Fetching with retries and a cache

A client fetches URLs from a network that is given as a script: what comes of each request, and how
long it takes. It keeps every response whose status is below 500 and answers from it while it is
fresh. A request that fails, or is answered with a status from 500 on, is made again up to a number
of attempts, with a pause before each attempt but the first; the pauses double.

What happened is part of the state: the requests made and the pauses kept, so that a statement
about a run can speak of them.
-/

namespace DistroBallot

/-- What a server answers. -/
structure Response where
  status : Int
  headers : Value
  body : Text
deriving Repr

/-- What comes of a request. A failure is a reason to try again; a fault is not expected and ends
the call. -/
inductive Outcome where
  | response (r : Response)
  | timeout
  | failure (reason : Text)
  | fault (message : String)
deriving Repr

/-- One entry of the script of a network: what comes of the next request, and the seconds it
takes. -/
structure Exchange where
  outcome : Outcome
  took : Number
deriving Repr

/-- The whole milliseconds that a stopwatch shows after a request with which it was started at zero,
if they can be told. -/
def Exchange.milliseconds (e : Exchange) : Option Int :=
  ((Stopwatch.fresh.start (.int 0)).milliseconds e.took).toOption

/-- A request as it was made. -/
structure Request where
  url : Text
  timeout : Value
  headers : Value
  extras : List (Value × Value)
deriving Repr

/-- A response that is kept, with the moment it was received. -/
structure Kept where
  key : Text
  response : Response
  receivedAt : Number
deriving Repr

/-- How a client behaves: the timeout that it gives to requests, how often it tries, and for how
many seconds a response is fresh. -/
structure FetchPolicy where
  timeout : Value
  attempts : Int
  lifetime : Number
deriving Repr

/-- A client and the world it acts on: its policy, the clock, the script of the network, the
responses it keeps, the requests it made and the pauses it kept. -/
structure Client where
  policy : FetchPolicy
  clock : Number
  script : List Exchange
  kept : List Kept
  requests : List Request
  pauses : List Binary64
deriving Repr

namespace FetchPolicy

/-- The policy without configuration. -/
def builtin : FetchPolicy := ⟨.int 30, 3, .int 300⟩

end FetchPolicy

namespace Client

/-- A client that has done nothing yet. -/
def fresh (policy : FetchPolicy) (clock : Number) (script : List Exchange) : Client :=
  ⟨policy, clock, script, [], [], []⟩

/-! ## The cache -/

/-- The headers of a request in the order of their names, as they distinguish kept responses. -/
def headersKey (headers : Value) : Text :=
  match headers with
  | .map (e :: rest) =>
    let sorted := (e :: rest).mergeSort (fun a b => !decide (b.1.display < a.1.display))
    let pairs := sorted.map fun e => ['('] ++ e.1.quoted ++ [',', ' '] ++ e.2.quoted ++ [')']
    ['['] ++ Text.join [',', ' '] pairs ++ [']']
  | _ => []

/-- The key under which the response to a request is kept. -/
def cacheKey (url : Text) (headers : Value) : Text :=
  "GET:".toList ++ url ++ ':' :: headersKey headers

/-- Whether a kept response is fresh: its age, if it can be told, is less than its lifetime. -/
def isFresh? (c : Client) (k : Kept) : Option Bool :=
  (c.clock.sub? k.receivedAt).map (·.isLess c.policy.lifetime)

/-- The response that is kept under a key. -/
def keptUnder? (c : Client) (key : Text) : Option Kept :=
  c.kept.find? (fun k => k.key == key)

/-- The kept responses with one more, in the place of an earlier one under the same key. -/
def keep (entry : Kept) : List Kept → List Kept
  | [] => [entry]
  | k :: rest => if k.key = entry.key then entry :: rest else k :: keep entry rest

/-- The client without kept responses. -/
def forget (c : Client) : Client := { c with kept := [] }

/-- Lets some seconds go by. -/
def advance (seconds : Number) : Step Fault Client Unit := fun c =>
  match c.clock.add? seconds with
  | some now => ⟨.ok (), { c with clock := now }, []⟩
  | none => ⟨.error .overflow, c, []⟩

/-- The response that is kept under a key, if it is fresh. -/
def freshUnder (key : Text) : Step Fault Client (Option Kept) := fun c =>
  match c.keptUnder? key with
  | none => ⟨.ok none, c, []⟩
  | some k =>
    match c.isFresh? k with
    | some fresh => ⟨.ok (if fresh then some k else none), c, []⟩
    | none => ⟨.error .overflow, c, []⟩

/-! ## Pauses -/

/-- The first pause, of three tenths of a second. -/
def basePause : Binary64 := Binary64.ofDecimal false 3 (-1)

/-- The pause before the attempt after `failed + 1` failed ones: the first pause doubled `failed`
times. The factor has to be a number in range. -/
def pause? (failed : Nat) : Option Binary64 :=
  (Binary64.ofInt? (Nat.pow 2 failed)).map basePause.mul

/-! ## Requests -/

/-- What comes of a request when the script has ended. -/
def exhausted : Exchange := ⟨.failure "scripted no response".toList, .int 0⟩

/-- Makes one request: the script goes on by an entry and the clock by the time it took. -/
def exchange (request : Request) : Step Fault Client Exchange := do
  let c ← Step.state
  let next := c.script.head?.getD exhausted
  Step.modify fun c =>
    { c with script := c.script.tail, requests := c.requests ++ [request] }
  advance next.took
  return next

/-- What is kept of a usable response, as of now. -/
def keepResponse (key : Text) (r : Response) : Step Fault Client Unit :=
  .modify fun c => { c with kept := keep ⟨key, r, c.clock⟩ c.kept }

/-- What one attempt comes to: the response that ends the call, or why it is made again. -/
inductive Attempt where
  | usable (r : Response)
  | again (reason : Text)
deriving Repr

/-- The pause before an attempt; there is none before the first. -/
def pauseBefore : Nat → Step Fault Client Unit
  | 0 => pure ()
  | failed + 1 =>
    match pause? failed with
    | some p => .modify fun c => { c with pauses := c.pauses ++ [p] }
    | none => .fail .overflow

/-- Whether extra arguments of a request name one that the client gives itself. -/
def clashes (extras : List (Value × Value)) : Bool :=
  (Value.lookup? "timeout".toList extras).isSome

/-- One attempt; `number` counts from zero. -/
def attempt (key target url : Text) (headers : Value) (extras : List (Value × Value))
    (number : Nat) : Step Fault Client Attempt := do
  pauseBefore number
  Step.tell (.request target (number + 1))
  if clashes extras then Step.fail .argumentClash
  else
    let c ← Step.state
    let done ← exchange ⟨url, c.policy.timeout, headers, extras⟩
    match done.outcome with
    | .response r =>
      if 500 ≤ r.status then
        return .again ("HTTP ".toList ++ (toString r.status).toList)
      else
        keepResponse key r
        Step.tell (.response target r.status done.milliseconds)
        return .usable r
    | .timeout =>
      Step.tell (.timeout target (number + 1))
      return .again "timeout".toList
    | .failure reason =>
      Step.tell (.requestFailure target (number + 1))
      return .again reason
    | .fault message => Step.fail (.notRetried message)

/-- The attempts that are left, after `number` of them failed, the last for `reason`. -/
def attempts (key target url : Text) (headers : Value) (extras : List (Value × Value)) :
    Nat → Nat → Option Text → Step Fault Client (Except (Option Text) Response)
  | 0, _, reason => pure (.error reason)
  | left + 1, number, _ => do
    match ← attempt key target url headers extras number with
    | .usable r => return .ok r
    | .again reason => attempts key target url headers extras left (number + 1) (some reason)

/-- The answer when every attempt failed. -/
def givenUp (policy : FetchPolicy) (reason : Option Text) : Response :=
  let last := match reason with
    | none => "None"
    | some r => String.ofList r
  ⟨0, .map [], s!"Request failed after {policy.attempts} attempts: {last}".toList⟩

/-- Fetches a URL: from the fresh response that is kept, else by requests. -/
def get (url : Text) (headers : Value) (extras : List (Value × Value)) :
    Step Fault Client Response := do
  let key := cacheKey url headers
  match Url.redacted url with
  | .error e => Step.fail (.port e)
  | .ok target =>
    match ← freshUnder key with
    | some k =>
      Step.tell (.cacheHit target)
      return k.response
    | none =>
      let c ← Step.state
      match ← attempts key target url headers extras c.policy.attempts.toNat 0 none with
      | .ok r => return r
      | .error reason => return givenUp c.policy reason

/-- Fetches the body of a URL, which is there only if the status is 200. -/
def getText (url : Text) (headers : Value) (extras : List (Value × Value)) :
    Step Fault Client (Int × Option Text) := do
  let r ← get url headers extras
  return (r.status, if r.status = 200 then some r.body else none)

end Client
end DistroBallot
