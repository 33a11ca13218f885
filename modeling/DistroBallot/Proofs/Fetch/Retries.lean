import DistroBallot.Proofs.Fetch.Outcomes
import Mathlib

/-!
# Retries

A call asks again as long as its requests fail, up to the number of attempts. After so many failed
requests it has made one pause less, each the double of the one before, the clock has gone on by the
time that the exchanges took, and what it keeps is as it was (`Client.Asked`, `attempts_run_of_fails`).
From there it ends in one of four ways: with a response that is usable, with an outcome that is not
expected, with no attempt left, or before the attempt after the first 1025, the pause before which is
out of range.
-/

namespace DistroBallot

namespace Binary64

/-- A number in range is rounded to itself. -/
theorem reads_ofDyadic {magnitude significand : ℕ} {e exponent : ℤ}
    (hsignificand : significand < 2 ^ 53) (hexponent : leastExponent ≤ exponent)
    (hvalue : (magnitude : ℚ) * 2 ^ e = significand * 2 ^ exponent)
    (hrange : (significand : ℚ) * 2 ^ exponent < 2 ^ (1024 : ℤ)) :
    (ofDyadic false magnitude e).Reads ((significand * 2 ^ exponent : ℚ) : WithTop ℚ) := by
  have hden := scaleDown_den_pos Nat.one_pos magnitude (-e)
  have hround : roundedValue (scaleDown magnitude 1 (-e)).1 (scaleDown magnitude 1 (-e)).2 =
      significand * 2 ^ exponent :=
    roundedValue_eq_self hden hsignificand hexponent ((scaleDown_dyadic magnitude e).trans hvalue)
  have hlimited : limited (significand * 2 ^ exponent) =
      ((significand * 2 ^ exponent : ℚ) : WithTop ℚ) := if_pos hrange
  rw [← hlimited, ← hround]
  exact reads_ofRatio hden

theorem Reads.exists_finite {x : Binary64} {q : ℚ} (h : x.Reads (q : WithTop ℚ)) :
    ∃ (significand : ℕ) (exponent : ℤ), x = .finite false significand exponent ∧
      significand < 2 ^ 53 ∧ leastExponent ≤ exponent ∧ (significand : ℚ) * 2 ^ exponent = q := by
  generalize hq : (q : WithTop ℚ) = p at h
  cases h with
  | finite below least => exact ⟨_, _, rfl, below, least, (WithTop.coe_inj.mp hq).symm⟩
  | infinite => cases hq

/-- **Doubling is exact** as long as it stays in range. -/
theorem Reads.mul_power {x y : Binary64} {q : ℚ} {failed : ℕ} (hx : x.Reads (q : WithTop ℚ))
    (hy : y.Reads (((2 : ℚ) ^ (failed : ℤ) : ℚ) : WithTop ℚ))
    (hrange : q * 2 ^ failed < 2 ^ (1024 : ℤ)) :
    (x.mul y).Reads ((q * 2 ^ failed : ℚ) : WithTop ℚ) := by
  obtain ⟨s, e, rfl, hs, he, hq⟩ := hx.exists_finite
  obtain ⟨a, f, rfl, -, -, hpower⟩ := hy.exists_finite
  have hvalue : (s : ℚ) * 2 ^ (e + (failed : ℤ)) = q * 2 ^ failed := by
    rw [zpow_add₀ two_ne_zero, ← mul_assoc, hq, zpow_natCast]
  have hproduct : ((s * a : ℕ) : ℚ) * 2 ^ (e + f) = s * 2 ^ (e + (failed : ℤ)) := by
    rw [zpow_add₀ two_ne_zero, zpow_add₀ two_ne_zero, ← hpower]
    push_cast
    ring
  rw [← hvalue] at hrange ⊢
  exact reads_ofDyadic hs (by omega) hproduct hrange

end Binary64

/-- Why a request is made again after an outcome, if it is. -/
def Outcome.failure? : Outcome → Option Text
  | .response r =>
    if 500 ≤ r.status then some ("HTTP ".toList ++ (toString r.status).toList) else none
  | .timeout => some "timeout".toList
  | .failure reason => some reason
  | .fault _ => none

/-- What an outcome ends a call with, if it does. -/
def Outcome.final? : Outcome → Option (Except Fault Response)
  | .response r => if 500 ≤ r.status then none else some (.ok r)
  | .fault message => some (.error (.notRetried message))
  | _ => none

namespace Client

open Binary64

/-! ## Pauses -/

/-- The exact value of the first pause, in seconds. -/
def firstPause : ℚ := (5404319552844595 : ℕ) * 2 ^ (-54 : ℤ)

theorem reads_basePause : basePause.Reads (firstPause : WithTop ℚ) := by
  rw [show basePause = .finite false 5404319552844595 (-54) by decide +kernel]
  exact .finite (by norm_num) (by decide)

/-- A pause in range is the first one doubled so many times. -/
theorem exists_pause? {failed : ℕ} (h : failed < 1024) :
    ∃ p, pause? failed = some p ∧ p.Reads ((firstPause * 2 ^ failed : ℚ) : WithTop ℚ) := by
  have hpower := reads_power failed
  have hlt : (2 : ℚ) ^ (failed : ℤ) < 2 ^ (1024 : ℤ) := by
    rw [zpow_lt_zpow_iff_right₀ one_lt_two]
    omega
  have hrange : firstPause * 2 ^ failed < 2 ^ (1024 : ℤ) := by
    have hless : firstPause ≤ 1 := by norm_num [firstPause]
    rw [zpow_natCast] at hlt
    exact lt_of_le_of_lt (mul_le_of_le_one_left (by positivity) hless) hlt
  rw [limited, if_pos hlt] at hpower
  refine ⟨basePause.mul (ofInt (Nat.pow 2 failed)), ?_, reads_basePause.mul_power hpower hrange⟩
  obtain ⟨a, e, hfactor, -⟩ := hpower.exists_finite
  rw [pause?, ofInt?]
  change ofInt ((Nat.pow 2 failed : ℕ) : ℤ) = _ at hfactor
  rw [hfactor]
  rfl

/-- The first so many pauses, in exact values: each is the double of the one before. -/
def doublings (paused : ℕ) : List (WithTop ℚ) :=
  (List.range paused).map fun k => ((firstPause * 2 ^ k : ℚ) : WithTop ℚ)

/-- The pause before an attempt is the next of them. -/
theorem doublings_succ {delays : List Binary64} {number : ℕ} (h : number ≤ 1024)
    (hdelays : List.Forall₂ Reads delays (doublings (number - 1))) :
    List.Forall₂ Reads (delays ++ pausesBefore number) (doublings number) := by
  cases number with
  | zero => simpa [pausesBefore] using hdelays
  | succ failed =>
      obtain ⟨p, hp, hreads⟩ := exists_pause? h
      rw [doublings, List.range_succ, List.map_append, pausesBefore, hp]
      exact List.rel_append hdelays (.cons hreads .nil)

/-! ## Failed requests -/

theorem attemptOf_of_failure? {o : Outcome} {reason : Text} (h : o.failure? = some reason) :
    attemptOf o = .ok (.again reason) := by
  cases o with
  | response r =>
      rw [Outcome.failure?] at h
      split at h
      · next hstatus =>
          obtain rfl := Option.some.inj h
          rw [attemptOf, if_pos hstatus]
      · cases h
  | timeout =>
      obtain rfl := Option.some.inj h
      rfl
  | failure reason =>
      obtain rfl := Option.some.inj h
      rfl
  | fault message => cases h

theorem attemptOf_of_final? {o : Outcome} {result : Except Fault Response}
    (h : o.final? = some result) : attemptOf o = result.map .usable := by
  cases o with
  | response r =>
      rw [Outcome.final?] at h
      split at h
      · cases h
      · next hstatus =>
          obtain rfl := Option.some.inj h
          rw [attemptOf, if_neg hstatus]
          rfl
  | fault message =>
      obtain rfl := Option.some.inj h
      rfl
  | timeout => cases h
  | failure reason => cases h

/-- The exchange that answers the request after the next `number` ones. -/
def exchangeAt (c : Client) (number : ℕ) : Exchange := c.script[number]?.getD exhausted

/-- The clock after so many requests, as long as it can be told. -/
def clockAfter (c : Client) : ℕ → Option Number
  | 0 => some c.clock
  | made + 1 => (c.clockAfter made).bind (·.add? (c.exchangeAt made).took)

/-- The next requests all fail in a way after which they are made again. -/
def FailsBefore (c : Client) (made : ℕ) : Prop :=
  ∀ k < made, (c.exchangeAt k).outcome.failure?.isSome = true

/-- Why the last of so many requests failed, if there was one. -/
def lastFailure (c : Client) : ℕ → Option Text
  | 0 => none
  | made + 1 => (c.exchangeAt made).outcome.failure?

/-- So many requests have been made, all of them alike, with a pause before each but the first. -/
structure Asked (c : Client) (request : Request) (made : ℕ) (after : Client) : Prop where
  policy : after.policy = c.policy
  requests : after.requests = c.requests ++ List.replicate made request
  pauses : ∃ delays, after.pauses = c.pauses ++ delays ∧
    List.Forall₂ Reads delays (doublings (made - 1))
  script : after.script = c.script.drop made
  clock : c.clockAfter made = some after.clock

/-- A clock that goes on can be told after any number of requests. -/
theorem Timely.exists_clockAfter {c : Client} (h : c.Timely) (made : ℕ) :
    ∃ now, c.clockAfter made = some now ∧ c.clock.NotAfter now := by
  induction made with
  | zero => exact ⟨c.clock, rfl, h.reading.notAfter_self⟩
  | succ made ih =>
      obtain ⟨now, hnow, hclock⟩ := ih
      have hlater : ({ c with clock := now, script := c.script.drop made } : Client).Timely :=
        h.of_notAfter hclock fun e he => List.mem_of_mem_drop he
      obtain ⟨after, hadd, hafter⟩ := hlater.exists_add?
      rw [next, List.head?_drop] at hadd
      refine ⟨after, ?_, hclock.trans hafter⟩
      rw [clockAfter, hnow]
      exact hadd

variable {c mid : Client} {key target url : Text} {headers : Value} {extras : List (Value × Value)}
  {request : Request} {made n : ℕ} {now : Number}

theorem asked_zero (c : Client) (request : Request) : c.Asked request 0 c where
  policy := rfl
  requests := (List.append_nil _).symm
  pauses := ⟨[], (List.append_nil _).symm, .nil⟩
  script := rfl
  clock := rfl

theorem Asked.length_pauses {after : Client} (h : c.Asked request made after) :
    after.pauses.length = c.pauses.length + (made - 1) := by
  obtain ⟨delays, hpauses, hdelays⟩ := h.pauses
  rw [hpauses, List.length_append, hdelays.length_eq, doublings, List.length_map,
    List.length_range]

theorem Asked.next_eq (h : c.Asked request made mid) : mid.next = c.exchangeAt made := by
  rw [next, h.script, List.head?_drop, exchangeAt]

/-- **One more attempt** makes one more request, after the next pause. -/
theorem Asked.attempt_run (h : c.Asked ⟨url, c.policy.timeout, headers, extras⟩ made mid)
    (key target : Text) (hextras : clashes extras = false) (hmade : made ≤ 1024)
    (hclock : c.clockAfter (made + 1) = some now) :
    let ended := (attempt key target url headers extras made).run mid
    ended.answer = attemptOf (c.exchangeAt made).outcome ∧
    c.Asked ⟨url, c.policy.timeout, headers, extras⟩ (made + 1) ended.state ∧
    ended.state.kept = match attemptOf (c.exchangeAt made).outcome with
      | .ok (.usable r) => keep ⟨key, r, now⟩ mid.kept
      | _ => mid.kept := by
  have hnow : mid.clock.add? mid.next.took = some now := by
    rw [clockAfter, h.clock, Option.bind_some] at hclock
    rw [h.next_eq, hclock]
  obtain ⟨hanswer, hpolicy, hrequests, hscript, hended, hkept, hpauses⟩ :=
    Client.attempt_run key target url headers hextras (canPause_of_le hmade) hnow
  rw [h.next_eq] at hanswer hkept
  refine ⟨hanswer, ?_, hkept⟩
  constructor
  · rw [hpolicy, h.policy]
  · rw [hrequests, h.requests, h.policy, List.append_assoc, ← List.replicate_succ']
  · obtain ⟨delays, hmid, hdelays⟩ := h.pauses
    refine ⟨delays ++ pausesBefore made, ?_, doublings_succ hmade hdelays⟩
    rw [hpauses, hmid, List.append_assoc]
  · rw [hscript, h.script, ← List.drop_one, List.drop_drop]
  · rw [hclock, hended]

/-- **The attempts go on after failed requests** as if these were the last that happened. -/
theorem attempts_run_of_fails (key target : Text) (hextras : clashes extras = false)
    (hle : made ≤ n) (hmade : made ≤ 1025) (hfails : c.FailsBefore made)
    (hclock : c.clockAfter made = some now) :
    ∃ mid told, c.Asked ⟨url, c.policy.timeout, headers, extras⟩ made mid ∧ mid.kept = c.kept ∧
      let later := (attempts key target url headers extras (n - made) made
        (c.lastFailure made)).run mid
      (attempts key target url headers extras n 0 none).run c =
        ⟨later.answer, later.state, told ++ later.events⟩ := by
  induction made generalizing now with
  | zero => exact ⟨c, [], asked_zero c _, rfl, rfl⟩
  | succ made ih =>
      obtain ⟨before, hbefore, -⟩ := Option.bind_eq_some_iff.mp hclock
      obtain ⟨mid, told, hasked, hkept, hrun⟩ := ih (by omega) (by omega)
        (fun k hk => hfails k (by omega)) hbefore
      obtain ⟨reason, hreason⟩ := Option.isSome_iff_exists.mp (hfails made (by omega))
      have hattempt := hasked.attempt_run key target hextras (by omega) hclock
      rw [attemptOf_of_failure? hreason] at hattempt
      obtain ⟨hanswer, hasked', hkept'⟩ := hattempt
      refine ⟨_, told ++ ((attempt key target url headers extras made).run mid).events, hasked',
        hkept'.trans hkept, ?_⟩
      -- one attempt is taken off those that are left
      rw [hrun, show n - made = n - (made + 1) + 1 by omega, attempts_run_succ, hanswer, lastFailure,
        hreason]
      simp only [List.append_assoc]

/-- An outcome after which no request is made again ends the attempts, and a response is kept. -/
theorem attempts_run_of_final (key target : Text) (hextras : clashes extras = false)
    (hlt : made < n) (hmade : made ≤ 1024) (hfails : c.FailsBefore made)
    {result : Except Fault Response} (hfinal : (c.exchangeAt made).outcome.final? = some result)
    (hclock : c.clockAfter (made + 1) = some now) :
    let ended := (attempts key target url headers extras n 0 none).run c
    ended.answer = result.map .ok ∧
    c.Asked ⟨url, c.policy.timeout, headers, extras⟩ (made + 1) ended.state ∧
    ended.state.kept = match result with
      | .ok r => keep ⟨key, r, now⟩ c.kept
      | .error _ => c.kept := by
  obtain ⟨before, hbefore, -⟩ := Option.bind_eq_some_iff.mp hclock
  obtain ⟨mid, told, hasked, hkept, hrun⟩ :=
    attempts_run_of_fails key target hextras hlt.le (by omega) hfails hbefore
  obtain ⟨hanswer, hasked', hkept'⟩ := hasked.attempt_run key target hextras hmade hclock
  rw [attemptOf_of_final? hfinal] at hanswer hkept'
  rw [hrun, show n - made = n - (made + 1) + 1 by omega, attempts_run_succ, hanswer]
  rw [hkept] at hkept'
  cases result <;> exact ⟨rfl, hasked', hkept'⟩

theorem attempts_run_of_none_left (key target : Text) (hextras : clashes extras = false)
    (hn : n ≤ 1025) (hfails : c.FailsBefore n) (hclock : c.clockAfter n = some now) :
    let ended := (attempts key target url headers extras n 0 none).run c
    ended.answer = .ok (.error (c.lastFailure n)) ∧
    c.Asked ⟨url, c.policy.timeout, headers, extras⟩ n ended.state ∧
    ended.state.kept = c.kept := by
  obtain ⟨mid, told, hasked, hkept, hrun⟩ :=
    attempts_run_of_fails key target hextras le_rfl hn hfails hclock
  rw [hrun, Nat.sub_self]
  exact ⟨rfl, hasked, hkept⟩

/-- The pause after 1025 failed requests is out of range. -/
theorem attempts_run_of_pause_overflow (key target : Text) (hextras : clashes extras = false)
    (hn : 1025 < n) (hfails : c.FailsBefore 1025) (hclock : c.clockAfter 1025 = some now) :
    let ended := (attempts key target url headers extras n 0 none).run c
    ended.answer = .error .overflow ∧
    c.Asked ⟨url, c.policy.timeout, headers, extras⟩ 1025 ended.state ∧
    ended.state.kept = c.kept := by
  obtain ⟨mid, told, hasked, hkept, hrun⟩ :=
    attempts_run_of_fails key target hextras hn.le le_rfl hfails hclock
  have hpause : canPause 1025 = false := by
    rw [← Bool.not_eq_true, canPause_iff]
    decide
  rw [hrun, show n - 1025 = n - 1026 + 1 by omega, attempts_run_succ,
    attempt_run_of_overflow hpause]
  exact ⟨rfl, hasked, hkept⟩

/-! ## Calls -/

/-- The text for a call whose requests have all failed. -/
theorem givenUp_eq (policy : FetchPolicy) (reason : Option Text) :
    givenUp policy reason = ⟨0, .map [], "Request failed after ".toList ++
      (toString policy.attempts).toList ++ " attempts: ".toList ++ reason.getD "None".toList⟩ := by
  have htext : ∀ s : String, toString s = s := fun _ => rfl
  cases reason <;> simp [givenUp, htext, String.toList_append]

theorem keptUnder?_keep {after : Client} {entry : Kept} (h : after.kept = keep entry c.kept)
    (key : Text) :
    after.keptUnder? key = if entry.key = key then some entry else c.keptUnder? key := by
  rw [keptUnder?, h, find?_keep, keptUnder?]

section Calls

variable (hport : Url.redacted url = .ok target) (hextras : clashes extras = false)
  (hstale : ∀ k, c.keptUnder? (cacheKey url headers) = some k → c.isFresh? k = some false)

include hport hextras hstale

theorem get_run_of_final (hlt : made < c.policy.attempts.toNat) (hmade : made ≤ 1024)
    (hfails : c.FailsBefore made) {result : Except Fault Response}
    (hfinal : (c.exchangeAt made).outcome.final? = some result)
    (hclock : c.clockAfter (made + 1) = some now) :
    let ended := (get url headers extras).run c
    ended.answer = result ∧
    c.Asked ⟨url, c.policy.timeout, headers, extras⟩ (made + 1) ended.state ∧
    ended.state.kept = match result with
      | .ok r => keep ⟨cacheKey url headers, r, now⟩ c.kept
      | .error _ => c.kept := by
  rw [get_run_of_stale extras hport hstale]
  obtain ⟨hanswer, hasked, hkept⟩ :=
    attempts_run_of_final (cacheKey url headers) target hextras hlt hmade hfails hfinal hclock
  refine ⟨?_, hasked, hkept⟩
  dsimp only
  rw [hanswer]
  cases result <;> rfl

theorem get_run_of_none_left (hn : c.policy.attempts.toNat ≤ 1025)
    (hfails : c.FailsBefore c.policy.attempts.toNat)
    (hclock : c.clockAfter c.policy.attempts.toNat = some now) :
    let ended := (get url headers extras).run c
    ended.answer = .ok (givenUp c.policy (c.lastFailure c.policy.attempts.toNat)) ∧
    c.Asked ⟨url, c.policy.timeout, headers, extras⟩ c.policy.attempts.toNat ended.state ∧
    ended.state.kept = c.kept := by
  rw [get_run_of_stale extras hport hstale]
  obtain ⟨hanswer, hasked, hkept⟩ :=
    attempts_run_of_none_left (cacheKey url headers) target hextras hn hfails hclock
  exact ⟨congrArg (Except.map _) hanswer, hasked, hkept⟩

theorem get_run_of_pause_overflow (hn : 1025 < c.policy.attempts.toNat)
    (hfails : c.FailsBefore 1025) (hclock : c.clockAfter 1025 = some now) :
    let ended := (get url headers extras).run c
    ended.answer = .error .overflow ∧
    c.Asked ⟨url, c.policy.timeout, headers, extras⟩ 1025 ended.state ∧
    ended.state.kept = c.kept := by
  rw [get_run_of_stale extras hport hstale]
  obtain ⟨hanswer, hasked, hkept⟩ :=
    attempts_run_of_pause_overflow (cacheKey url headers) target hextras hn hfails hclock
  exact ⟨congrArg (Except.map _) hanswer, hasked, hkept⟩

end Calls

/-- **A call asks until it is answered.** Where nothing fresh is kept and the requests before fail,
the first response with a status below 500 is the answer, and is all that is kept anew: under the key
of the call, as of now. If every attempt fails, the answer has a status of zero, no headers and a
text with the number of attempts and the last failure. An outcome that is not expected ends the call
at once. Each request but the first comes after a pause, which is the double of the one before. The
pause after 1025 failed requests is out of range, and the call stops there with a fault. -/
theorem get_asks_until_answered (hport : Url.redacted url = .ok target)
    (hextras : clashes extras = false)
    (hstale : ∀ k, c.keptUnder? (cacheKey url headers) = some k → c.isFresh? k = some false) :
    let key := cacheKey url headers
    let request : Request := ⟨url, c.policy.timeout, headers, extras⟩
    let n := c.policy.attempts.toNat
    let ended := (get url headers extras).run c
    (∀ d r now, d < n → d ≤ 1024 → c.FailsBefore d → (c.exchangeAt d).outcome = .response r →
      r.status < 500 → c.clockAfter (d + 1) = some now →
      ended.answer = .ok r ∧ c.Asked request (d + 1) ended.state ∧
      ∀ k, ended.state.keptUnder? k = if key = k then some ⟨key, r, now⟩ else c.keptUnder? k) ∧
    (∀ now, n ≤ 1025 → c.FailsBefore n → c.clockAfter n = some now →
      ended.answer = .ok ⟨0, .map [], "Request failed after ".toList ++
        (toString c.policy.attempts).toList ++ " attempts: ".toList ++
        (c.lastFailure n).getD "None".toList⟩ ∧
      c.Asked request n ended.state ∧ ended.state.kept = c.kept) ∧
    (∀ d message now, d < n → d ≤ 1024 → c.FailsBefore d →
      (c.exchangeAt d).outcome = .fault message → c.clockAfter (d + 1) = some now →
      ended.answer = .error (.notRetried message) ∧ c.Asked request (d + 1) ended.state ∧
      ended.state.kept = c.kept) ∧
    (∀ now, 1025 < n → c.FailsBefore 1025 → c.clockAfter 1025 = some now →
      ended.answer = .error .overflow ∧ c.Asked request 1025 ended.state ∧
      ended.state.kept = c.kept) := by
  intro key request n ended
  refine ⟨?_, ?_, ?_, ?_⟩
  · intro d r now hlt hd hfails houtcome hstatus hclock
    have hfinal : (c.exchangeAt d).outcome.final? = some (.ok r) := by
      rw [houtcome, Outcome.final?, if_neg (not_le.mpr hstatus)]
    obtain ⟨hanswer, hasked, hkept⟩ :=
      get_run_of_final hport hextras hstale hlt hd hfails hfinal hclock
    exact ⟨hanswer, hasked, keptUnder?_keep hkept⟩
  · intro now hn hfails hclock
    rw [← givenUp_eq]
    exact get_run_of_none_left hport hextras hstale hn hfails hclock
  · intro d message now hlt hd hfails houtcome hclock
    have hfinal : (c.exchangeAt d).outcome.final? = some (.error (.notRetried message)) := by
      rw [houtcome, Outcome.final?]
    exact get_run_of_final hport hextras hstale hlt hd hfails hfinal hclock
  · intro now hn hfails hclock
    exact get_run_of_pause_overflow hport hextras hstale hn hfails hclock

theorem get_asks_three_times :
    let c := Client.fresh .builtin (.int 1000) lateAnswer
    let ended := (get groupsUrl .null []).run c
    ended.answer = .ok ⟨200, .map [], "FREE MIT @OTHER Zlib\n".toList⟩ ∧
    ended.state.requests.length = 3 ∧ ended.state.pauses.length = 2 ∧
    ended.state.keptUnder? (cacheKey groupsUrl .null) = some ⟨cacheKey groupsUrl .null,
      ⟨200, .map [], "FREE MIT @OTHER Zlib\n".toList⟩, .int 1003⟩ := by
  intro c ended
  have hfails : c.FailsBefore 2 := by
    intro k hk
    interval_cases k <;> rfl
  have hstale : ∀ k, c.keptUnder? (cacheKey groupsUrl .null) = some k →
      c.isFresh? k = some false := by
    intro k hk
    cases hk
  obtain ⟨hanswered, -⟩ :=
    get_asks_until_answered redacted_groupsUrl (show clashes [] = false from rfl) hstale
  obtain ⟨hanswer, hasked, hkept⟩ :=
    hanswered 2 _ (.int 1003) (by decide) (by decide) hfails rfl (by decide) rfl
  refine ⟨hanswer, ?_, hasked.length_pauses, ?_⟩
  · rw [hasked.requests, List.length_append, List.length_replicate]
    rfl
  · rw [hkept, if_pos rfl]

/-- With more than 1025 attempts, all of them failed, there is no answer with a status of zero but a
fault, one request and one pause short. -/
theorem get_unanswered_overflows :
    let c := Client.fresh { FetchPolicy.builtin with attempts := 1026 } (.int 1000) []
    let ended := (get groupsUrl .null []).run c
    c.FailsBefore 1026 ∧ ended.answer = .error .overflow ∧ (∀ r, ended.answer ≠ .ok r) ∧
    ended.state.requests.length = 1025 ∧ ended.state.pauses.length = 1024 := by
  intro c ended
  have hfails : ∀ made, c.FailsBefore made := fun made k _ => rfl
  have hclock : c.Timely := ⟨trivial, fun e he => by cases he⟩
  obtain ⟨now, hnow, -⟩ := hclock.exists_clockAfter 1025
  have hstale : ∀ k, c.keptUnder? (cacheKey groupsUrl .null) = some k →
      c.isFresh? k = some false := by
    intro k hk
    cases hk
  obtain ⟨hanswer, hasked, -⟩ := get_run_of_pause_overflow redacted_groupsUrl
    (show clashes [] = false from rfl) hstale (show 1025 < c.policy.attempts.toNat by decide)
    (hfails 1025) hnow
  refine ⟨hfails 1026, hanswer, ?_, ?_, hasked.length_pauses⟩
  · intro r hr
    cases hanswer.symm.trans hr
  · rw [hasked.requests, List.length_append, List.length_replicate]
    rfl

end Client
end DistroBallot
