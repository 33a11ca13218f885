import DistroBallot.Fetch.Client
import DistroBallot.Proofs.Number.Clock
import Mathlib

/-!
# Attempts on a URL

What comes of the attempts on a URL is a matter of the script alone: how many exchanges they take
and with what answer is a function of it (`Client.tries`). The rest is a frame around that: as many
requests are made as exchanges taken, all of them alike, the clock goes on by the time they took,
and of the kept responses only the one under the key of the URL is replaced, by a response that has
been received with these requests (`Client.Course`).

What a client receives is read off the requests it made and the exchanges that answered them
(`Client.receivedIn`), and not off the responses it keeps. Only exchanges move its clock: what goes
by in the pause before an attempt counts as time that its exchange took.
-/

namespace DistroBallot

/-! ## What is received -/

/-- A response with a status below 500, the URL it was requested from and the moment it was
received. -/
structure Receipt where
  url : Text
  response : Response
  receivedAt : Number

/-- What is received by requests, each answered by an exchange of its own. -/
def received : Number → List (Request × Exchange) → List Receipt
  | _, [] => []
  | now, (request, exchange) :: rest =>
    match now.add? exchange.took with
    | none => []
    | some now =>
      match exchange.outcome with
      | .response r =>
        if r.status < 500 then ⟨request.url, r, now⟩ :: received now rest else received now rest
      | _ => received now rest

/-- It comes to a response, or to a failure after which a request is made again. -/
def Exchange.IsExpected (e : Exchange) : Prop := ∀ message, e.outcome ≠ .fault message

namespace Client

/-- What a client has received on the way to a later state of it. -/
def receivedIn (c after : Client) : List Receipt :=
  received c.clock ((after.requests.drop c.requests.length).zip c.script)

theorem receivedIn_of_requests {c after : Client} {made : List Request}
    (h : after.requests = c.requests ++ made) :
    c.receivedIn after = received c.clock (made.zip c.script) := by
  rw [receivedIn, h, List.drop_left]

theorem receivedIn_eq_nil {c after : Client} (h : after.requests = c.requests) :
    c.receivedIn after = [] := by
  rw [receivedIn, h, List.drop_length]
  rfl

/-- The clock can be read, and every exchange of the script takes seconds that move it forward. -/
structure Timely (c : Client) : Prop where
  reading : c.clock.IsReading
  script : ∀ e ∈ c.script, c.clock.Moves e.took

theorem Timely.of_notAfter {c after : Client} (h : c.Timely)
    (hclock : c.clock.NotAfter after.clock) (hscript : ∀ e ∈ after.script, e ∈ c.script) :
    after.Timely where
  reading := hclock.isReading
  script e he := (hclock.moves_iff e.took).mpr (h.script e (hscript e he))

/-! ## One attempt -/

/-- The exchange that answers the next request. -/
def next (c : Client) : Exchange := c.script.head?.getD exhausted

/-- The clock after the next request. -/
theorem Timely.exists_add? {c : Client} (h : c.Timely) :
    ∃ now, c.clock.add? c.next.took = some now ∧ c.clock.NotAfter now := by
  refine Number.exists_add? h.reading ?_
  rw [next]
  cases hscript : c.script with
  | nil =>
      -- an exchange past the end of the script takes no time
      show c.clock.Moves (.int 0)
      cases hclock : c.clock with
      | int n => exact le_rfl
      | real x => exact ⟨.zero false, _, rfl, Binary64.reads_zero⟩
  | cons e rest =>
      refine h.script e ?_
      rw [hscript]
      exact List.mem_cons_self

/-- What an attempt comes to by the outcome of its request. -/
def attemptOf : Outcome → Except Fault Attempt
  | .response r =>
    if 500 ≤ r.status then .ok (.again ("HTTP ".toList ++ (toString r.status).toList))
    else .ok (.usable r)
  | .timeout => .ok (.again "timeout".toList)
  | .failure reason => .ok (.again reason)
  | .fault message => .error (.notRetried message)

/-- Whether there is a pause before an attempt, as far as one is needed. -/
def canPause : ℕ → Bool
  | 0 => true
  | failed + 1 => (pause? failed).isSome

/-- A power of two is its own rounding. -/
theorem reads_power (failed : ℕ) :
    (Binary64.ofInt (Nat.pow 2 failed)).Reads (Binary64.limited (2 ^ (failed : ℤ))) := by
  have hpower : (((2 ^ failed : ℕ) : ℚ) / (1 : ℕ)) = ((1 : ℕ) : ℚ) * 2 ^ (failed : ℤ) := by
    rw [zpow_natCast]
    push_cast
    ring
  have hleast : Binary64.leastExponent ≤ (failed : ℤ) := by
    rw [Binary64.leastExponent]
    omega
  have hreads : (Binary64.ofRatio false (2 ^ failed) 1).Reads _ :=
    Binary64.reads_ofRatio Nat.one_pos
  rw [Binary64.roundedValue_eq_self Nat.one_pos (by norm_num) hleast hpower, Nat.cast_one,
    one_mul] at hreads
  exact hreads

/-- The pauses before the first 1025 attempts are in range, and no others are. -/
theorem canPause_iff {number : ℕ} : canPause number = true ↔ number ≤ 1024 := by
  cases number with
  | zero => exact ⟨fun _ => Nat.zero_le 1024, fun _ => rfl⟩
  | succ failed =>
      have hreads := reads_power failed
      have hrange : (2 : ℚ) ^ (failed : ℤ) < 2 ^ (1024 : ℤ) ↔ failed + 1 ≤ 1024 := by
        rw [zpow_lt_zpow_iff_right₀ one_lt_two]
        omega
      rw [← hrange, canPause, pause?, Option.isSome_map, Binary64.ofInt?]
      generalize Binary64.ofInt (Nat.pow 2 failed) = x at hreads
      by_cases h : (2 : ℚ) ^ (failed : ℤ) < 2 ^ (1024 : ℤ)
      · rw [Binary64.limited, if_pos h] at hreads
        cases x with
        | infinite negative => cases hreads
        | _ => exact ⟨fun _ => h, fun _ => rfl⟩
      · rw [Binary64.limited, if_neg h] at hreads
        cases hreads
        exact ⟨fun hsome => absurd hsome Bool.false_ne_true, fun hlt => absurd hlt h⟩

theorem canPause_of_le {number : ℕ} (h : number ≤ 1024) : canPause number = true :=
  canPause_iff.mpr h

/-- The pauses that are kept before an attempt. -/
def pausesBefore : ℕ → List Binary64
  | 0 => []
  | failed + 1 => (pause? failed).toList

theorem pauseBefore_run {number : ℕ} (h : canPause number = true) (c : Client) :
    (pauseBefore number).run c =
      ⟨.ok (), { c with pauses := c.pauses ++ pausesBefore number }, []⟩ := by
  cases number with
  | zero =>
      rw [pausesBefore, List.append_nil]
      rfl
  | succ failed =>
      obtain ⟨p, hp⟩ := Option.isSome_iff_exists.mp h
      rw [pauseBefore, pausesBefore, hp]
      rfl

theorem exchange_run (request : Request) {c : Client} {now : Number}
    (h : c.clock.add? c.next.took = some now) : (exchange request).run c =
      ⟨.ok c.next,
        { c with clock := now, script := c.script.tail,
                 requests := c.requests ++ [request] }, []⟩ := by
  have hadvance : (advance c.next.took).run
      { c with script := c.script.tail, requests := c.requests ++ [request] } =
      ⟨.ok (), { c with clock := now, script := c.script.tail,
                        requests := c.requests ++ [request] }, []⟩ := by
    simp only [Step.run, advance, h]
  rw [exchange, Step.run_bind_of_ok (Step.run_state c)]
  dsimp only
  rw [Step.run_bind_of_ok (Step.run_modify _ _)]
  dsimp only
  rw [next] at hadvance
  rw [Step.run_bind_of_ok hadvance]
  rfl

variable {key target url : Text} {headers : Value} {extras : List (Value × Value)}

/-- One attempt takes one exchange, and keeps its response if that is usable. -/
theorem attempt_run (key target url : Text) (headers : Value)
    (hextras : clashes extras = false) {number : ℕ} (hpause : canPause number = true)
    {c : Client} {now : Number} (hnow : c.clock.add? c.next.took = some now) :
    let ended := (attempt key target url headers extras number).run c
    ended.answer = attemptOf c.next.outcome ∧ ended.state.policy = c.policy ∧
    ended.state.requests = c.requests ++ [⟨url, c.policy.timeout, headers, extras⟩] ∧
    ended.state.script = c.script.tail ∧ ended.state.clock = now ∧
    ended.state.kept = (match attemptOf c.next.outcome with
      | .ok (.usable r) => keep ⟨key, r, now⟩ c.kept
      | _ => c.kept) ∧
    ended.state.pauses = c.pauses ++ pausesBefore number := by
  have hexchange : (exchange ⟨url, c.policy.timeout, headers, extras⟩).run
      { c with pauses := c.pauses ++ pausesBefore number } =
      ⟨.ok c.next,
        { c with clock := now, script := c.script.tail, pauses := c.pauses ++ pausesBefore number,
                 requests := c.requests ++ [⟨url, c.policy.timeout, headers, extras⟩] }, []⟩ :=
    exchange_run _ hnow
  rw [attempt, Step.run_bind_of_ok (pauseBefore_run hpause c),
    Step.run_bind_of_ok (Step.run_tell _ _), hextras,
    if_neg Bool.false_ne_true, Step.run_bind_of_ok (Step.run_state _)]
  dsimp only
  rw [Step.run_bind_of_ok hexchange]
  dsimp only
  cases c.next.outcome with
  | response r =>
      rw [attemptOf]
      dsimp only
      split <;> exact ⟨rfl, rfl, rfl, rfl, rfl, rfl, rfl⟩
  | timeout => exact ⟨rfl, rfl, rfl, rfl, rfl, rfl, rfl⟩
  | failure reason => exact ⟨rfl, rfl, rfl, rfl, rfl, rfl, rfl⟩
  | fault message => exact ⟨rfl, rfl, rfl, rfl, rfl, rfl, rfl⟩

/-- Where the pause before an attempt is out of range, there is no attempt. -/
theorem attempt_run_of_overflow {number : ℕ} (h : canPause number = false) (c : Client) :
    (attempt key target url headers extras number).run c = ⟨.error .overflow, c, []⟩ := by
  have hpaused : (pauseBefore number).run c = ⟨.error .overflow, c, []⟩ := by
    cases number with
    | zero => cases h
    | succ failed =>
        rw [pauseBefore, Option.isSome_eq_false_iff.mp h |> Option.isNone_iff_eq_none.mp]
        rfl
  rw [attempt, Step.run_bind_of_error hpaused]

/-- What is received by one request and those after it. -/
theorem received_cons (request : Request) (made : List Request) {c : Client} {now : Number}
    (h : c.clock.add? c.next.took = some now) :
    received c.clock ((request :: made).zip c.script) =
      (match attemptOf c.next.outcome with
        | .ok (.usable r) => [⟨request.url, r, now⟩]
        | _ => []) ++ received now (made.zip c.script.tail) := by
  cases hscript : c.script with
  | nil =>
      have hlast : c.next = exhausted := by
        rw [next, hscript]
        rfl
      rw [hlast, List.zip_nil_right, List.tail_nil, List.zip_nil_right]
      rfl
  | cons e rest =>
      have hnext : c.next = e := by
        rw [next, hscript]
        rfl
      rw [hnext] at h ⊢
      simp only [List.zip_cons_cons, received, h, List.tail_cons]
      cases e.outcome with
      | response r =>
          simp only [attemptOf]
          by_cases hstatus : r.status < 500
          · rw [if_pos hstatus, if_neg (not_le.mpr hstatus)]
            rfl
          · rw [if_neg hstatus, if_pos (not_lt.mp hstatus)]
            rfl
      | timeout => rfl
      | failure reason => rfl
      | fault message => rfl

/-! ## Attempts in a row -/

/-- What follows an attempt depends on what it comes to. -/
theorem attempts_run_succ (key target url : Text) (headers : Value) (extras : List (Value × Value))
    (left number : ℕ) (reason : Option Text) (c : Client) :
    let ended := (attempt key target url headers extras number).run c
    (attempts key target url headers extras (left + 1) number reason).run c =
      match ended.answer with
      | .error e => ⟨.error e, ended.state, ended.events⟩
      | .ok (.usable r) => ⟨.ok (.ok r), ended.state, ended.events⟩
      | .ok (.again reason) =>
        let later := (attempts key target url headers extras left (number + 1) (some reason)).run
          ended.state
        ⟨later.answer, later.state, ended.events ++ later.events⟩ := by
  rw [attempts]
  cases hrun : (attempt key target url headers extras number).run c with
  | mk answer state events =>
      cases answer with
      | error e => rw [Step.run_bind_of_error hrun]
      | ok result =>
          rw [Step.run_bind_of_ok hrun]
          cases result with
          | usable r => simp
          | again reason => rfl

/-- How many exchanges of a script the attempts take that are left, and what they come to. -/
def tries : List Exchange → ℕ → ℕ → Option Text → ℕ × Except Fault (Except (Option Text) Response)
  | _, 0, _, reason => (0, .ok (.error reason))
  | script, left + 1, number, _ =>
    if canPause number then
      match attemptOf (script.head?.getD exhausted).outcome with
      | .ok (.usable r) => (1, .ok (.ok r))
      | .ok (.again reason) =>
        let later := tries script.tail left (number + 1) (some reason)
        (later.1 + 1, later.2)
      | .error fault => (1, .error fault)
    else (0, .error .overflow)

theorem tries_le (script : List Exchange) (left number : ℕ) (reason : Option Text) :
    (tries script left number reason).1 ≤ left := by
  induction left generalizing script number reason with
  | zero => exact le_rfl
  | succ left ih =>
      rw [tries]
      split
      · split
        · exact Nat.le_add_left 1 left
        · exact Nat.succ_le_succ (ih _ _ _)
        · exact Nat.le_add_left 1 left
      · exact Nat.zero_le _

/-- The first attempt is made without a pause. -/
theorem tries_pos {left : ℕ} (h : 1 ≤ left) (script : List Exchange) (reason : Option Text) :
    1 ≤ (tries script left 0 reason).1 := by
  cases left with
  | zero => cases h
  | succ left =>
      rw [tries, if_pos (canPause_of_le (Nat.zero_le 1024))]
      split
      · exact le_rfl
      · exact Nat.le_add_left 1 _
      · exact le_rfl

theorem exists_attemptOf {o : Outcome} (h : ∀ message, o ≠ .fault message) :
    ∃ result, attemptOf o = .ok result := by
  cases o with
  | response r =>
      rw [attemptOf]
      split <;> exact ⟨_, rfl⟩
  | timeout => exact ⟨_, rfl⟩
  | failure reason => exact ⟨_, rfl⟩
  | fault message => exact absurd rfl (h message)

theorem exists_tries {script : List Exchange} (h : ∀ e ∈ script, e.IsExpected)
    {left number : ℕ} (hleft : left + number ≤ 1025) (reason : Option Text) :
    ∃ result, (tries script left number reason).2 = .ok result := by
  induction left generalizing script number reason with
  | zero => exact ⟨_, rfl⟩
  | succ left ih =>
      have hnext : (script.head?.getD exhausted).IsExpected := by
        cases script with
        | nil =>
            intro message heq
            cases heq
        | cons e rest => exact h e List.mem_cons_self
      obtain ⟨result, hresult⟩ := exists_attemptOf hnext
      rw [tries, if_pos (canPause_of_le (by omega)), hresult]
      cases result with
      | usable r => exact ⟨_, rfl⟩
      | again reason =>
          exact ih (fun e he => h e (List.mem_of_mem_tail he)) (by omega) (some reason)

/-- How a call goes that makes a number of requests, all of them alike: a response that answers it
has been received with the last of them and is kept as of then; otherwise none has been received. -/
structure Course (c : Client) (key : Text) (request : Request) (made : ℕ)
    (answer : Except Fault (Except (Option Text) Response)) (after : Client) : Prop where
  policy : after.policy = c.policy
  requests : after.requests = c.requests ++ List.replicate made request
  script : after.script = c.script.drop made
  clock : c.clock.NotAfter after.clock
  found : ∀ r, answer = .ok (.ok r) →
    c.receivedIn after = [⟨request.url, r, after.clock⟩] ∧
    after.kept = keep ⟨key, r, after.clock⟩ c.kept
  lost : (∀ r, answer ≠ .ok (.ok r)) → c.receivedIn after = [] ∧ after.kept = c.kept

variable {request : Request} {answer : Except Fault (Except (Option Text) Response)}

theorem Timely.course_zero {c : Client} (h : c.Timely) (hlost : ∀ r, answer ≠ .ok (.ok r)) :
    c.Course key request 0 answer c where
  policy := rfl
  requests := (List.append_nil _).symm
  script := rfl
  clock := h.reading.notAfter_self
  found r hr := absurd hr (hlost r)
  lost _ := ⟨receivedIn_eq_nil rfl, rfl⟩

/-- A request that comes to nothing, and what comes after it. -/
theorem Course.after_lost {c first after : Client} {made : ℕ}
    (hnow : c.clock.add? c.next.took = some first.clock) (hclock : c.clock.NotAfter first.clock)
    (hlost : ∀ r, attemptOf c.next.outcome ≠ .ok (.usable r))
    (hpolicy : first.policy = c.policy) (hrequests : first.requests = c.requests ++ [request])
    (hscript : first.script = c.script.tail) (hkept : first.kept = c.kept)
    (h : first.Course key request made answer after) :
    c.Course key request (made + 1) answer after := by
  have hall : after.requests = c.requests ++ List.replicate (made + 1) request := by
    rw [h.requests, hrequests, List.append_assoc]
    rfl
  have hreceived : c.receivedIn after = first.receivedIn after := by
    rw [receivedIn_of_requests hall, receivedIn_of_requests h.requests, List.replicate_succ,
      received_cons request _ hnow, hscript]
    split
    · next r hr => exact absurd hr (hlost r)
    · rfl
  constructor
  · rw [h.policy, hpolicy]
  · exact hall
  · rw [h.script, hscript, ← List.drop_one, List.drop_drop, Nat.add_comm]
  · exact hclock.trans h.clock
  · rw [hreceived, ← hkept]
    exact h.found
  · rw [hreceived, ← hkept]
    exact h.lost

/-- A request that is answered by a usable response. -/
theorem course_one {c after : Client} {r : Response}
    (hnow : c.clock.add? c.next.took = some after.clock) (hclock : c.clock.NotAfter after.clock)
    (husable : attemptOf c.next.outcome = .ok (.usable r)) (hpolicy : after.policy = c.policy)
    (hrequests : after.requests = c.requests ++ [request])
    (hscript : after.script = c.script.tail)
    (hkept : after.kept = keep ⟨key, r, after.clock⟩ c.kept) :
    c.Course key request 1 (.ok (.ok r)) after where
  policy := hpolicy
  requests := hrequests
  script := by rw [hscript, List.drop_one]
  clock := hclock
  found := by
    intro r' hr
    obtain rfl : r = r' := Except.ok.inj (Except.ok.inj hr)
    refine ⟨?_, hkept⟩
    rw [receivedIn_of_requests hrequests, received_cons _ _ hnow, husable]
    rfl
  lost hlost := absurd rfl (hlost r)

theorem attempts_course (key target url : Text) (headers : Value)
    (hextras : clashes extras = false) (left number : ℕ) (reason : Option Text)
    {c : Client} (h : c.Timely) :
    let ended := (attempts key target url headers extras left number reason).run c
    ended.answer = (tries c.script left number reason).2 ∧
    c.Course key ⟨url, c.policy.timeout, headers, extras⟩ (tries c.script left number reason).1
      ended.answer ended.state := by
  induction left generalizing c number reason with
  | zero => exact ⟨rfl, h.course_zero (fun r hr => by cases hr)⟩
  | succ left ih =>
      obtain ⟨now, hnow, hclock⟩ := h.exists_add?
      rw [attempts_run_succ]
      cases hpause : canPause number with
      | false =>
          rw [attempt_run_of_overflow hpause c, tries, hpause]
          exact ⟨rfl, h.course_zero (fun r hr => by cases hr)⟩
      | true =>
          have hattempt := attempt_run key target url headers hextras hpause hnow
          generalize (attempt key target url headers extras number).run c = ended at hattempt ⊢
          obtain ⟨answer, first, events⟩ := ended
          obtain ⟨hanswer, hpolicy, hrequests, hscript, rfl, hkept, -⟩ := hattempt
          change answer = _ at hanswer
          have hfirst : first.Timely := h.of_notAfter hclock fun e he =>
            List.mem_of_mem_tail (hscript ▸ he)
          have htries : attemptOf (c.script.head?.getD exhausted).outcome = answer := hanswer.symm
          rw [← hanswer] at hkept
          rw [tries, if_pos hpause, htries]
          cases answer with
          | error fault =>
              refine ⟨rfl, Course.after_lost hnow hclock ?_ hpolicy hrequests hscript hkept
                (hfirst.course_zero fun r hr => by cases hr)⟩
              intro r hr
              cases hanswer.trans hr
          | ok result =>
              cases result with
              | usable r =>
                  exact ⟨rfl, course_one hnow hclock hanswer.symm hpolicy hrequests hscript hkept⟩
              | again reason =>
                  obtain ⟨hanswer', hcourse⟩ := ih (number + 1) (some reason) hfirst
                  rw [hscript] at hanswer' hcourse
                  rw [hpolicy] at hcourse
                  refine ⟨hanswer', Course.after_lost hnow hclock ?_ hpolicy hrequests hscript
                    hkept hcourse⟩
                  intro r hr
                  cases hanswer.trans hr

end Client
end DistroBallot
