import DistroBallot.License.Download
import DistroBallot.Proofs.Fetch.Freshness
import Mathlib

/-!
# What a download comes to

A download is answered by the first response with a status below 500 (`Client.answering`). With a
status of 200 it comes to the members of the wanted groups in that response, if there are any, and
with another status, or if every attempt failed, to a fault that names the status. It takes the
exchanges up to that response, or as many as there are attempts (`Client.consumed`).

This holds as long as the pause before an attempt is in range, which is so for the first 1025
attempts and no others. If these have all failed, and more are allowed for, the download stops at
the pause itself, with a fault that is not expected (`download_comes_to_first_answer`).
-/

namespace DistroBallot

open License

/-! ## The exchange that answers -/

/-- The response that comes of a request, if its status is below 500. -/
def Outcome.usable? : Outcome → Option Response
  | .response r => if r.status < 500 then some r else none
  | _ => none

namespace Client

/-- The first response with a status below 500 in the first exchanges of a script. -/
def answering (script : List Exchange) (n : ℕ) : Option Response :=
  (script.take n).findSome? (·.outcome.usable?)

/-- The number of exchanges up to that response, or of all of them if there is none. -/
def consumed (script : List Exchange) (n : ℕ) : ℕ :=
  (((script.take n).findIdx? (·.outcome.usable?.isSome)).map (· + 1)).getD n

theorem consumed_zero (script : List Exchange) : consumed script 0 = 0 := rfl

theorem answering_succ (script : List Exchange) (n : ℕ) : answering script (n + 1) =
    ((script.head?.getD exhausted).outcome.usable?).or (answering script.tail n) := by
  cases script with
  | nil => simp [answering, exhausted, Outcome.usable?]
  | cons e rest =>
      rw [answering, List.take_succ_cons, List.findSome?_cons]
      cases h : e.outcome.usable? <;> simp [answering, h]

theorem consumed_succ (script : List Exchange) (n : ℕ) : consumed script (n + 1) =
    if (script.head?.getD exhausted).outcome.usable?.isSome then 1
    else consumed script.tail n + 1 := by
  cases script with
  | nil => simp [consumed, exhausted, Outcome.usable?]
  | cons e rest =>
      rw [consumed, List.take_succ_cons, List.findIdx?_cons]
      cases h : e.outcome.usable? with
      | some r => simp [h]
      | none =>
          cases hrest : (rest.take n).findIdx? (·.outcome.usable?.isSome) <;>
            simp [consumed, h, hrest]

/-! ## Attempts by the script -/

theorem attemptOf_of_usable {o : Outcome} {r : Response} (h : o.usable? = some r) :
    attemptOf o = .ok (.usable r) := by
  cases o with
  | response r' =>
      rw [Outcome.usable?] at h
      split at h
      · next hstatus =>
          obtain rfl := Option.some.inj h
          rw [attemptOf, if_neg (not_le.mpr hstatus)]
      · cases h
  | _ => cases h

theorem attemptOf_of_unusable {o : Outcome} (hexpected : ∀ message, o ≠ .fault message)
    (h : o.usable? = none) : ∃ reason, attemptOf o = .ok (.again reason) := by
  cases o with
  | response r =>
      rw [Outcome.usable?] at h
      split at h
      · cases h
      · next hstatus => exact ⟨_, by rw [attemptOf, if_pos (not_lt.mp hstatus)]⟩
  | timeout => exact ⟨_, rfl⟩
  | failure reason => exact ⟨_, rfl⟩
  | fault message => exact absurd rfl (hexpected message)

theorem isExpected_head {script : List Exchange} (h : ∀ e ∈ script, e.IsExpected) :
    (script.head?.getD exhausted).IsExpected := by
  cases script with
  | nil =>
      intro message heq
      cases heq
  | cons e rest => exact h e List.mem_cons_self

/-- The attempts end with the exchange that answers them if the pauses up to there are in range. -/
theorem tries_of_consumed_le {script : List Exchange} (h : ∀ e ∈ script, e.IsExpected)
    {left number : ℕ} (hrange : consumed script left + number ≤ 1025) (reason : Option Text) :
    ∃ last, tries script left number reason =
      (consumed script left, .ok (match answering script left with
        | some r => .ok r
        | none => .error last)) := by
  induction left generalizing script number reason with
  | zero => exact ⟨reason, rfl⟩
  | succ left ih =>
      have hpause : canPause number = true := by
        apply canPause_of_le
        rw [consumed_succ] at hrange
        split at hrange <;> omega
      rw [tries, if_pos hpause, answering_succ, consumed_succ]
      rw [consumed_succ] at hrange
      cases husable : (script.head?.getD exhausted).outcome.usable? with
      | some r =>
          rw [attemptOf_of_usable husable]
          exact ⟨none, rfl⟩
      | none =>
          rw [husable] at hrange
          obtain ⟨again, hagain⟩ := attemptOf_of_unusable (isExpected_head h) husable
          have hlater : consumed script.tail left + (number + 1) ≤ 1025 := by
            change consumed script.tail left + 1 + number ≤ 1025 at hrange
            omega
          obtain ⟨last, hlast⟩ :=
            ih (fun e he => h e (List.mem_of_mem_tail he)) hlater (some again)
          rw [hagain]
          dsimp only
          rw [hlast]
          exact ⟨last, rfl⟩

/-- The attempts end at the first pause that is out of range if they come to it. -/
theorem tries_of_lt_consumed {script : List Exchange} (h : ∀ e ∈ script, e.IsExpected)
    {left number : ℕ} (hnumber : number ≤ 1025) (hrange : 1025 < consumed script left + number)
    (reason : Option Text) :
    tries script left number reason = (1025 - number, .error .overflow) := by
  induction left generalizing script number reason with
  | zero =>
      rw [consumed_zero] at hrange
      omega
  | succ left ih =>
      rw [tries]
      rcases Nat.lt_or_eq_of_le hnumber with hlt | rfl
      · rw [if_pos (canPause_of_le (Nat.le_of_lt_succ hlt))]
        rw [consumed_succ] at hrange
        cases husable : (script.head?.getD exhausted).outcome.usable? with
        | some r =>
            rw [husable] at hrange
            change 1025 < 1 + number at hrange
            omega
        | none =>
            rw [husable] at hrange
            change 1025 < consumed script.tail left + 1 + number at hrange
            obtain ⟨again, hagain⟩ := attemptOf_of_unusable (isExpected_head h) husable
            rw [hagain]
            dsimp only
            rw [ih (fun e he => h e (List.mem_of_mem_tail he)) hlt (by omega) (some again)]
            congr 1
            dsimp only
            omega
      · have hpause : ¬canPause 1025 = true := by
          rw [canPause_iff]
          decide
        rw [if_neg hpause]

end Client

/-! ## Downloads by the script -/

namespace License.Groups

/-- What a download comes to by the response that answers it. -/
def foundIn (target : Text) (categories : List Text) (r : Response) :
    Except GroupsUnavailable IdentifierSet :=
  if r.status = 200 then
    if (members r.body categories).isEmpty then .error (.noMembers categories)
    else .ok (members r.body categories)
  else .error (.requestFailed target r.status)

theorem foundIn_eq_ok_iff {target : Text} {categories : List Text} {r : Response}
    {ids : IdentifierSet} : foundIn target categories r = .ok ids ↔
      r.status = 200 ∧ ids = members r.body categories ∧ ids.isEmpty = false := by
  rw [foundIn]
  constructor
  · intro h
    split at h
    · next hstatus =>
        split at h
        · cases h
        · next hmembers =>
            obtain rfl := Except.ok.inj h
            exact ⟨hstatus, rfl, eq_false_of_ne_true hmembers⟩
    · cases h
  · rintro ⟨hstatus, rfl, hmembers⟩
    rw [if_pos hstatus, if_neg (ne_true_of_eq_false hmembers)]

theorem foundIn_of_status {target : Text} {categories : List Text} {r : Response}
    (h : r.status ≠ 200) :
    foundIn target categories r = .error (.requestFailed target r.status) := if_neg h

theorem foundIn_of_isEmpty {target : Text} {categories : List Text} {r : Response}
    (hstatus : r.status = 200) (h : (members r.body categories).isEmpty = true) :
    foundIn target categories r = .error (.noMembers categories) := by
  rw [foundIn, if_pos hstatus, if_pos h]

theorem download_run_of_get {url target : Text} (hport : Url.redacted url = .ok target)
    (categories : List Text) {c after : Client} {r : Response} {told : List Log.Event}
    (hget : (Client.get url .null []).run c = ⟨.ok r, after, told⟩) :
    ∃ events, (download url categories).run c =
      ⟨(foundIn target categories r).mapError .groups, after, events⟩ := by
  have htext : (Client.getText url .null []).run c =
      ⟨.ok (r.status, if r.status = 200 then some r.body else none), after, told ++ []⟩ := by
    rw [Client.getText, Step.run_bind_of_ok hget]
    rfl
  rw [download, Step.run_bind_of_ok htext, hport, foundIn]
  by_cases hstatus : r.status = 200
  · rw [if_pos hstatus, if_pos hstatus]
    dsimp only
    split <;> exact ⟨_, rfl⟩
  · rw [if_neg hstatus, if_neg hstatus]
    exact ⟨_, rfl⟩

theorem download_run_of_get_error {url : Text} (categories : List Text) {c after : Client}
    {fault : Fault} {told : List Log.Event}
    (hget : (Client.get url .null []).run c = ⟨.error fault, after, told⟩) :
    (download url categories).run c = ⟨.error fault, after, told⟩ := by
  have htext : (Client.getText url .null []).run c = ⟨.error fault, after, told⟩ := by
    rw [Client.getText, Step.run_bind_of_error hget]
  rw [download, Step.run_bind_of_error htext]

end License.Groups

theorem mapError_eq_ok_iff {ε δ α : Type} {f : ε → δ} {x : Except ε α} {a : α} :
    x.mapError f = .ok a ↔ x = .ok a := by
  cases x <;> simp [Except.mapError]

section Downloads

variable {policy : FetchPolicy} {clock : Number} {script : List Exchange} {url target : Text}

/-- A client that has done nothing yet answers by attempts, with a request for each. -/
theorem Client.get_run_fresh (hclock : (Client.fresh policy clock script).Timely)
    (hport : Url.redacted url = .ok target) :
    let tried := Client.tries script policy.attempts.toNat 0 none
    ∃ after told, (Client.get url .null []).run (.fresh policy clock script) =
        ⟨tried.2.map (Client.answered policy), after, told⟩ ∧
      after.requests = List.replicate tried.1 ⟨url, policy.timeout, .null, []⟩ ∧
      after.script = script.drop tried.1 := by
  intro tried
  have hstale : ∀ k, (Client.fresh policy clock script).keptUnder? (Client.cacheKey url .null) =
      some k → (Client.fresh policy clock script).isFresh? k = some false := by
    intro k hk
    cases hk
  obtain ⟨hanswer, hcourse⟩ := Client.attempts_course (Client.cacheKey url .null) target url .null
    (show Client.clashes [] = false from rfl) policy.attempts.toNat 0 none hclock
  have hget := Client.get_run_of_stale [] hport hstale
  exact ⟨_, _, hget.trans (congrArg (Ended.mk · _ _) (congrArg (Except.map _) hanswer)),
    hcourse.requests, hcourse.script⟩

/-- As long as the pauses are in range, a download comes to what its script holds. -/
theorem download_run_of_consumed_le (hclock : (Client.fresh policy clock script).Timely)
    (hexpected : ∀ e ∈ script, e.IsExpected) (hport : Url.redacted url = .ok target)
    (categories : List Text) (hrange : Client.consumed script policy.attempts.toNat ≤ 1025) :
    let n := policy.attempts.toNat
    ∃ reason after told, (Groups.download url categories).run (.fresh policy clock script) =
        ⟨(Groups.foundIn target categories ((Client.answering script n).getD
          (Client.givenUp policy reason))).mapError .groups, after, told⟩ ∧
      after.requests =
        List.replicate (Client.consumed script n) ⟨url, policy.timeout, .null, []⟩ ∧
      after.script = script.drop (Client.consumed script n) := by
  intro n
  obtain ⟨reason, htries⟩ := Client.tries_of_consumed_le hexpected
    (show Client.consumed script n + 0 ≤ 1025 from hrange) none
  obtain ⟨after, told, hget, hrequests, hscript⟩ := Client.get_run_fresh hclock hport
  rw [htries] at hget hrequests hscript
  have hanswer : (Client.get url .null []).run (.fresh policy clock script) =
      ⟨.ok ((Client.answering script n).getD (Client.givenUp policy reason)), after, told⟩ := by
    rw [hget]
    show Ended.mk ((Except.ok (match Client.answering script n with
      | some r => .ok r
      | none => .error reason)).map (Client.answered policy)) after told = _
    cases Client.answering script n <;> rfl
  obtain ⟨events, hrun⟩ := Groups.download_run_of_get hport categories hanswer
  exact ⟨reason, after, events, hrun, hrequests, hscript⟩

/-- Where they are not, it stops at the first pause out of range. -/
theorem download_run_of_lt_consumed (hclock : (Client.fresh policy clock script).Timely)
    (hexpected : ∀ e ∈ script, e.IsExpected) (hport : Url.redacted url = .ok target)
    (categories : List Text) (hrange : 1025 < Client.consumed script policy.attempts.toNat) :
    ∃ after told, (Groups.download url categories).run (.fresh policy clock script) =
        ⟨.error .overflow, after, told⟩ ∧
      after.requests = List.replicate 1025 ⟨url, policy.timeout, .null, []⟩ ∧
      after.script = script.drop 1025 := by
  have htries := Client.tries_of_lt_consumed hexpected (Nat.zero_le 1025) hrange none
  obtain ⟨after, told, hget, hrequests, hscript⟩ := Client.get_run_fresh hclock hport
  rw [htries] at hget hrequests hscript
  exact ⟨after, told, Groups.download_run_of_get_error categories hget, hrequests, hscript⟩

/-- **A download comes to the first response with a status below 500**, if the pauses before the
attempts up to it are in range. It finds the members of the wanted groups in that response just when
its status is 200 and there are some, and otherwise is unavailable: with the status of the response,
with a status of zero if every attempt failed, or with the groups if none of them has members. Each
exchange up to that response is taken by a request of its own. A download that comes to the pause
before the attempt after the first 1025 stops there with a fault that is not expected. -/
theorem download_comes_to_first_answer (hclock : (Client.fresh policy clock script).Timely)
    (hexpected : ∀ e ∈ script, e.IsExpected) (hport : Url.redacted url = .ok target)
    (categories : List Text) :
    let n := policy.attempts.toNat
    let first := Client.answering script n
    let taken := min (Client.consumed script n) 1025
    let ended := (Groups.download url categories).run (.fresh policy clock script)
    (Client.consumed script n ≤ 1025 →
      (∀ ids, ended.answer = .ok ids ↔ ∃ r, first = some r ∧ r.status = 200 ∧
        ids = Groups.members r.body categories ∧ ids.isEmpty = false) ∧
      (∀ r, first = some r → r.status ≠ 200 →
        ended.answer = .error (.groups (.requestFailed target r.status))) ∧
      (first = none → ended.answer = .error (.groups (.requestFailed target 0))) ∧
      (∀ r, first = some r → r.status = 200 →
        (Groups.members r.body categories).isEmpty = true →
        ended.answer = .error (.groups (.noMembers categories)))) ∧
    (1025 < Client.consumed script n → ended.answer = .error .overflow) ∧
    ended.state.requests = List.replicate taken ⟨url, policy.timeout, .null, []⟩ ∧
    ended.state.script = script.drop taken := by
  intro n first taken ended
  rcases Nat.lt_or_ge 1025 (Client.consumed script n) with hlt | hle
  · obtain ⟨after, told, hrun, hrequests, hscript⟩ :=
      download_run_of_lt_consumed hclock hexpected hport categories hlt
    have htaken : taken = 1025 := min_eq_right hlt.le
    have hended : ended = ⟨.error .overflow, after, told⟩ := hrun
    rw [htaken, hended]
    exact ⟨fun hle => absurd hlt (not_lt.mpr hle), fun _ => rfl, hrequests, hscript⟩
  · obtain ⟨reason, after, told, hrun, hrequests, hscript⟩ :=
      download_run_of_consumed_le hclock hexpected hport categories hle
    have htaken : taken = Client.consumed script n := min_eq_left hle
    have hended : ended = ⟨(Groups.foundIn target categories
      (first.getD (Client.givenUp policy reason))).mapError .groups, after, told⟩ := hrun
    rw [htaken, hended]
    refine ⟨fun _ => ?_, fun hlt => absurd hlt (not_lt.mpr hle), hrequests, hscript⟩
    cases hfirst : first with
    | none =>
        refine ⟨?_, ?_, fun _ => rfl, ?_⟩
        · intro ids
          constructor
          · intro h
            cases h
          · rintro ⟨r, hr, -⟩
            cases hr
        · intro r hr
          cases hr
        · intro r hr
          cases hr
    | some r =>
        rw [Option.getD_some]
        refine ⟨?_, ?_, (fun hnone => by cases hnone), ?_⟩
        · intro ids
          rw [mapError_eq_ok_iff, Groups.foundIn_eq_ok_iff]
          constructor
          · intro h
            exact ⟨r, rfl, h⟩
          · rintro ⟨_, ⟨⟩, h⟩
            exact h
        · rintro _ ⟨⟩ hstatus
          rw [Groups.foundIn_of_status hstatus]
          rfl
        · rintro _ ⟨⟩ hstatus hmembers
          rw [Groups.foundIn_of_isEmpty hstatus hmembers]
          rfl

end Downloads

/-- The address of a page. -/
def groupsUrl : Text := "http://h/".toList

theorem redacted_groupsUrl : Url.redacted groupsUrl = .ok groupsUrl := by decide +kernel

/-- A network that fails twice before it answers. -/
def lateAnswer : List Exchange :=
  [⟨.timeout, .int 1⟩, ⟨.response ⟨503, .map [], []⟩, .int 1⟩,
    ⟨.response ⟨200, .map [], "FREE MIT @OTHER Zlib\n".toList⟩, .int 1⟩,
    ⟨.response ⟨404, .map [], []⟩, .int 1⟩]

theorem late_answer_gives_its_members :
    let ended := (Groups.download groupsUrl ["free".toList]).run
      (.fresh .builtin (.int 1000) lateAnswer)
    (Client.fresh .builtin (.int 1000) lateAnswer).Timely ∧
    (∀ e ∈ lateAnswer, e.IsExpected) ∧ Url.redacted groupsUrl = .ok groupsUrl ∧
    ended.answer = .ok ⟨["mit".toList, "zlib".toList]⟩ ∧ ended.state.requests.length = 3 ∧
    ended.state.script = lateAnswer.drop 3 := by
  intro ended
  have hclock : (Client.fresh .builtin (.int 1000) lateAnswer).Timely := by
    refine ⟨trivial, ?_⟩
    intro e he
    simp only [Client.fresh, lateAnswer, List.mem_cons, List.not_mem_nil, or_false] at he
    rcases he with rfl | rfl | rfl | rfl <;> exact Int.one_nonneg
  have hexpected : ∀ e ∈ lateAnswer, e.IsExpected := by
    intro e he message
    simp only [lateAnswer, List.mem_cons, List.not_mem_nil, or_false] at he
    rcases he with rfl | rfl | rfl | rfl <;> exact fun h => by cases h
  have htaken : Client.consumed lateAnswer FetchPolicy.builtin.attempts.toNat = 3 := by decide
  have hfirst : Client.answering lateAnswer FetchPolicy.builtin.attempts.toNat =
      some ⟨200, .map [], "FREE MIT @OTHER Zlib\n".toList⟩ := rfl
  have hmembers : ⟨["mit".toList, "zlib".toList]⟩ =
      Groups.members "FREE MIT @OTHER Zlib\n".toList ["free".toList] := by decide +kernel
  obtain ⟨hwithin, -, hrequests, hscript⟩ := download_comes_to_first_answer hclock hexpected
    redacted_groupsUrl ["free".toList]
  have hmin : min 3 1025 = 3 := rfl
  rw [htaken] at hwithin
  rw [htaken, hmin] at hrequests hscript
  obtain ⟨hfound, -⟩ := hwithin (by decide)
  have hanswer : ended.answer = .ok ⟨["mit".toList, "zlib".toList]⟩ := by
    rw [hfound]
    exact ⟨_, hfirst, rfl, hmembers, rfl⟩
  have hlength : ended.state.requests.length = 3 := by
    rw [hrequests, List.length_replicate]
  have hrest : ended.state.script = lateAnswer.drop 3 := by rw [hscript]
  exact ⟨hclock, hexpected, redacted_groupsUrl, hanswer, hlength, hrest⟩

/-- With more than 1025 attempts, none of them answered, a download is not told to be unavailable
but stops with a fault that is not expected. -/
theorem download_without_answer_overflows :
    let policy := { FetchPolicy.builtin with attempts := 1026 }
    let ended := (Groups.download groupsUrl ["free".toList]).run (.fresh policy (.int 1000) [])
    Client.answering [] policy.attempts.toNat = none ∧ ended.answer = .error .overflow ∧
    ended.answer ≠ .error (.groups (.requestFailed groupsUrl 0)) ∧
    ended.state.requests.length = 1025 := by
  intro policy ended
  have hclock : (Client.fresh policy (.int 1000) []).Timely := ⟨trivial, fun _ he => by cases he⟩
  have hrange : 1025 < Client.consumed [] policy.attempts.toNat := by
    have hconsumed : Client.consumed [] 1026 = 1026 := by simp [Client.consumed]
    show 1025 < Client.consumed [] 1026
    rw [hconsumed]
    decide
  obtain ⟨after, told, hrun, hrequests, -⟩ := download_run_of_lt_consumed hclock
    (fun _ he => by cases he) redacted_groupsUrl ["free".toList] hrange
  have hended : ended = ⟨.error .overflow, after, told⟩ := hrun
  rw [hended]
  refine ⟨by simp [Client.answering], rfl, (fun h => by cases h), ?_⟩
  rw [hrequests, List.length_replicate]

end DistroBallot
