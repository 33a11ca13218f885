import DistroBallot.Proofs.Fetch.Confidential
import DistroBallot.Proofs.Fetch.Retries
import Mathlib

/-!
# Calls for any URL

Whatever text a call is given as its URL, and whatever comes of its requests, it is answered: by
what is kept, by the first usable response, or by a response with a status of zero
(`Client.Answers`). There are two exceptions. A URL with a port that is none cannot be shown, and
the call stops before its first request (`Url.exists_redacted_iff`). And where more than 1025
attempts are allowed and the first 1025 fail, it stops at the pause (`Client.get_cases`).

What is asked of the network is that it answers or fails in a way that is expected, and of the clock
that it can be read (`Client.TellsTime`).
-/

namespace DistroBallot

/-! ## URLs that can be shown -/

namespace Url

/-- The text of a port: nothing, or the digits of a number up to 65535, which are no more than a
numeral may have. -/
def IsPort (port : Text) : Prop :=
  (∀ c ∈ port, c.isDigit = true) ∧ port.length ≤ Numeral.maxDigits ∧
    Numeral.digitsValue port ≤ 65535

theorem exists_portNumber_iff (port : Text) : (∃ n, portNumber port = .ok n) ↔ IsPort port := by
  unfold portNumber IsPort
  rw [← List.all_eq_true]
  by_cases hempty : port.isEmpty = true
  · obtain rfl := List.isEmpty_iff.mp hempty
    exact ⟨fun _ => ⟨rfl, by decide, by decide⟩, fun _ => ⟨none, rfl⟩⟩
  rw [if_neg hempty]
  by_cases hdigits : port.all Char.isDigit = true
  · rw [if_neg (by simp [hdigits])]
    by_cases hlength : Numeral.maxDigits < port.length
    · rw [if_pos hlength]
      exact ⟨fun ⟨_, h⟩ => (nomatch h), fun h => absurd h.2.1 (not_le.mpr hlength)⟩
    · rw [if_neg hlength]
      by_cases hrange : Numeral.digitsValue port ≤ 65535
      · dsimp only
        rw [if_pos hrange]
        exact ⟨fun _ => ⟨hdigits, not_lt.mp hlength, hrange⟩, fun _ => ⟨_, rfl⟩⟩
      · dsimp only
        rw [if_neg hrange]
        exact ⟨fun ⟨_, h⟩ => (nomatch h), fun h => absurd h.2.2 hrange⟩
  · rw [if_pos (by simp [hdigits])]
    exact ⟨fun ⟨_, h⟩ => (nomatch h), fun h => absurd h.1 hdigits⟩

/-- The URL can be shown: its authority is malformed, or its port is one. -/
def Showable (url : Text) : Prop :=
  ∀ parts, split? url = some parts → IsPort (splitPort parts.authority).2

/-- **A URL is shown unless its port is none.** -/
theorem exists_redacted_iff (url : Text) :
    (∃ shown, redacted url = .ok shown) ↔ Showable url := by
  unfold redacted Showable
  cases hsplit : split? url with
  | none => exact ⟨fun _ _ h => (nomatch h), fun _ => ⟨invalid, rfl⟩⟩
  | some parts =>
      dsimp only
      have hport := exists_portNumber_iff (splitPort parts.authority).2
      cases hnumber : portNumber (splitPort parts.authority).2 with
      | error e =>
          rw [hnumber] at hport
          constructor
          · rintro ⟨shown, h⟩
            cases h
          · intro h
            obtain ⟨n, hn⟩ := hport.mpr (h parts rfl)
            cases hn
      | ok number =>
          rw [hnumber] at hport
          constructor
          · rintro - parts' hparts
            obtain rfl := Option.some.inj hparts
            exact hport.mp ⟨number, rfl⟩
          · exact fun _ => ⟨_, rfl⟩

end Url

namespace Client

/-! ## The first request that is not made again -/

theorem isExpected_exchangeAt {c : Client} (h : ∀ e ∈ c.script, e.IsExpected) (number : ℕ) :
    (c.exchangeAt number).IsExpected := by
  unfold exchangeAt
  cases he : c.script[number]? with
  | none =>
      intro message hmessage
      cases hmessage
  | some e => exact h e (List.mem_of_getElem? he)

theorem failsBefore_succ {c : Client} {made : ℕ} (h : c.FailsBefore made)
    (hlast : (c.exchangeAt made).outcome.failure?.isSome = true) : c.FailsBefore (made + 1) := by
  intro k hk
  rcases Nat.lt_succ_iff_lt_or_eq.mp hk with hlt | rfl
  · exact h k hlt
  · exact hlast

/-- Either the next requests all fail, or one of them is the first that does not. -/
theorem failsBefore_or_first (c : Client) (made : ℕ) :
    c.FailsBefore made ∨
      ∃ d < made, c.FailsBefore d ∧ (c.exchangeAt d).outcome.failure? = none := by
  induction made with
  | zero => exact .inl fun k hk => absurd hk (Nat.not_lt_zero k)
  | succ made ih =>
      rcases ih with hfails | ⟨d, hlt, hfails, hfirst⟩
      · cases hlast : (c.exchangeAt made).outcome.failure? with
        | none => exact .inr ⟨made, Nat.lt_succ_self made, hfails, hlast⟩
        | some reason => exact .inl (failsBefore_succ hfails (by rw [hlast]; rfl))
      · exact .inr ⟨d, Nat.lt_succ_of_lt hlt, hfails, hfirst⟩

theorem not_failsBefore {c : Client} {d made : ℕ} (hlt : d < made)
    (hfirst : (c.exchangeAt d).outcome.failure? = none) : ¬c.FailsBefore made := by
  intro hfails
  have hd := hfails d hlt
  rw [hfirst] at hd
  cases hd

/-- An expected outcome after which no request is made again is a usable response. -/
theorem exists_response {o : Outcome} (hexpected : ∀ message, o ≠ .fault message)
    (h : o.failure? = none) : ∃ r, o = .response r ∧ r.status < 500 := by
  cases o with
  | response r =>
      refine ⟨r, rfl, not_le.mp fun hstatus => ?_⟩
      rw [Outcome.failure?, if_pos hstatus] at h
      cases h
  | timeout => cases h
  | failure reason => cases h
  | fault message => exact absurd rfl (hexpected message)

/-! ## How a call ends -/

/-- The clock can be read: the age of what is kept can be told, and so can the moment after any
number of requests. -/
structure TellsTime (c : Client) : Prop where
  ages : ∀ k ∈ c.kept, (c.isFresh? k).isSome = true
  clock : ∀ made, (c.clockAfter made).isSome = true

/-- A fresh response is kept under a key. -/
def Holds (c : Client) (key : Text) (r : Response) : Prop :=
  ∃ k, c.keptUnder? key = some k ∧ c.isFresh? k = some true ∧ k.response = r

/-- Where the answer to a call comes from: it was kept, or it is the first usable response to its
requests, or it has a status of zero after requests that all failed. -/
inductive Answers (c : Client) (key : Text) (r : Response) : Prop where
  | kept (h : c.Holds key r)
  | received (d : ℕ) (hlt : d < c.policy.attempts.toNat) (hfails : c.FailsBefore d)
      (houtcome : (c.exchangeAt d).outcome = .response r) (hstatus : r.status < 500)
  | unavailable (hfails : c.FailsBefore c.policy.attempts.toNat) (hstatus : r.status = 0)
      (hheaders : r.headers = .map [])

theorem TellsTime.holds_or_stale {c : Client} (h : c.TellsTime) (key : Text) :
    (∃ r, c.Holds key r) ∨ ∀ k, c.keptUnder? key = some k → c.isFresh? k = some false := by
  cases hkept : c.keptUnder? key with
  | none => exact .inr fun _ hk => nomatch hk
  | some k =>
      obtain ⟨fresh, hfresh⟩ := Option.isSome_iff_exists.mp
        (h.ages k (List.mem_of_find?_eq_some hkept))
      cases fresh with
      | true => exact .inl ⟨k.response, k, hkept, hfresh, rfl⟩
      | false =>
          refine .inr fun k' hk' => ?_
          obtain rfl := Option.some.inj hk'
          exact hfresh

variable {c : Client} {extras : List (Value × Value)}

theorem not_holds_of_stale {key : Text}
    (h : ∀ k, c.keptUnder? key = some k → c.isFresh? k = some false) :
    ¬∃ r, c.Holds key r := by
  rintro ⟨r, k, hk, hfresh, -⟩
  rw [h k hk] at hfresh
  cases hfresh

/-- **A call ends in one of three ways**: before its first request, with an answer, or at the pause
after 1025 failed requests. -/
theorem get_cases (url : Text) (headers : Value) (hexpected : ∀ e ∈ c.script, e.IsExpected)
    (hextras : clashes extras = false) (htime : c.TellsTime) :
    let key := cacheKey url headers
    let ended := (get url headers extras).run c
    (∃ e, Url.redacted url = .error e ∧ ended = ⟨.error (.port e), c, []⟩) ∨
    ((∃ shown, Url.redacted url = .ok shown) ∧
      ((∃ r, c.Holds key r) ∨ c.policy.attempts.toNat ≤ 1025 ∨ ¬c.FailsBefore 1025) ∧
      ∃ r, ended.answer = .ok r ∧ c.Answers key r) ∨
    ((∃ shown, Url.redacted url = .ok shown) ∧ (¬∃ r, c.Holds key r) ∧
      1025 < c.policy.attempts.toNat ∧ c.FailsBefore 1025 ∧ ended.answer = .error .overflow) := by
  intro key ended
  cases hport : Url.redacted url with
  | error e => exact .inl ⟨e, rfl, get_run_of_port hport c⟩
  | ok target =>
      right
      rcases htime.holds_or_stale key with ⟨r, k, hkept, hfresh, hr⟩ | hstale
      · left
        have hrun : ended = _ := get_run_of_fresh hport hkept hfresh
        refine ⟨⟨target, rfl⟩, .inl ⟨r, k, hkept, hfresh, hr⟩, r, ?_, .kept ⟨k, hkept, hfresh, hr⟩⟩
        rw [hrun, hr]
      rcases c.failsBefore_or_first (min c.policy.attempts.toNat 1025) with
        hfails | ⟨d, hlt, hfails, hfirst⟩
      · by_cases hn : c.policy.attempts.toNat ≤ 1025
        · left
          rw [min_eq_left hn] at hfails
          obtain ⟨now, hnow⟩ := Option.isSome_iff_exists.mp (htime.clock c.policy.attempts.toNat)
          obtain ⟨hanswer, -⟩ := get_run_of_none_left hport hextras hstale hn hfails hnow
          exact ⟨⟨target, rfl⟩, .inr (.inl hn), _, hanswer, .unavailable hfails rfl rfl⟩
        · right
          rw [min_eq_right (not_le.mp hn).le] at hfails
          obtain ⟨now, hnow⟩ := Option.isSome_iff_exists.mp (htime.clock 1025)
          obtain ⟨hanswer, -⟩ :=
            get_run_of_pause_overflow hport hextras hstale (not_le.mp hn) hfails hnow
          exact ⟨⟨target, rfl⟩, not_holds_of_stale hstale, not_le.mp hn, hfails, hanswer⟩
      · left
        obtain ⟨hn, hd⟩ := lt_min_iff.mp hlt
        obtain ⟨r, houtcome, hstatus⟩ := exists_response (isExpected_exchangeAt hexpected d) hfirst
        have hfinal : (c.exchangeAt d).outcome.final? = some (.ok r) := by
          rw [houtcome, Outcome.final?, if_neg (not_le.mpr hstatus)]
        obtain ⟨now, hnow⟩ := Option.isSome_iff_exists.mp (htime.clock (d + 1))
        obtain ⟨hanswer, -⟩ :=
          get_run_of_final hport hextras hstale hn (Nat.le_of_lt_succ hd) hfails hfinal hnow
        exact ⟨⟨target, rfl⟩, .inr (.inr (not_failsBefore hd hfirst)), r, hanswer,
          .received d hn hfails houtcome hstatus⟩

/-- **A call is answered for every URL with a port that is one.** A URL is shown just when its port
is a number up to 65535, or its authority is malformed; the call for any other stops at once, before
it makes a request. Where the URL can be shown, the call is answered, whatever responses and
expected failures the network comes up with: by what is kept, by the first usable response, or by a
response with a status of zero. It is not answered if the first 1025 requests fail and more are
allowed. -/
theorem get_answers_unless_port_or_pause (url : Text) (headers : Value)
    (hexpected : ∀ e ∈ c.script, e.IsExpected) (hextras : clashes extras = false)
    (htime : c.TellsTime) :
    let key := cacheKey url headers
    let ended := (get url headers extras).run c
    ((∃ shown, Url.redacted url = .ok shown) ↔ Url.Showable url) ∧
    ((∃ r, ended.answer = .ok r) ↔ Url.Showable url ∧
      ((∃ r, c.Holds key r) ∨ c.policy.attempts.toNat ≤ 1025 ∨ ¬c.FailsBefore 1025)) ∧
    (∀ r, ended.answer = .ok r → c.Answers key r) ∧
    (¬Url.Showable url →
      ∃ e, Url.redacted url = .error e ∧ ended = ⟨.error (.port e), c, []⟩) ∧
    (∀ e, ended.answer = .error e → Url.Showable url → e = .overflow) := by
  intro key ended
  have hshown := Url.exists_redacted_iff url
  have hcases := get_cases url headers hexpected hextras htime
  rw [hshown] at hcases
  refine ⟨hshown, ?_⟩
  rcases hcases with ⟨e, hport, hended⟩ | ⟨hurl, hreason, r, hanswer, hr⟩ |
    ⟨hurl, hnone, hn, hfails, hanswer⟩
  · have hnot : ¬Url.Showable url := by
      rw [← hshown, hport]
      rintro ⟨shown, h⟩
      cases h
    have hstopped : ended = ⟨.error (.port e), c, []⟩ := hended
    rw [hstopped]
    exact ⟨⟨fun ⟨_, h⟩ => (nomatch h), fun h => absurd h.1 hnot⟩, fun _ h => (nomatch h),
      fun _ => ⟨e, hport, rfl⟩, fun _ _ h => absurd h hnot⟩
  · have hanswered : ended.answer = .ok r := hanswer
    rw [hanswered]
    refine ⟨⟨fun _ => ⟨hurl, hreason⟩, fun _ => ⟨r, rfl⟩⟩, ?_, fun h => absurd hurl h,
      fun _ h => (nomatch h)⟩
    intro r' hr'
    obtain rfl := Except.ok.inj hr'
    exact hr
  · have hstopped : ended.answer = .error .overflow := hanswer
    rw [hstopped]
    refine ⟨⟨fun ⟨_, h⟩ => (nomatch h), ?_⟩, fun _ h => (nomatch h), fun h => absurd hurl h, ?_⟩
    · rintro ⟨-, hholds | hle | hnot⟩
      · exact absurd hholds hnone
      · omega
      · exact absurd hfails hnot
    · intro e he _
      exact (Except.error.inj he).symm

theorem tellsTime_fresh {policy : FetchPolicy} {clock : Number} {script : List Exchange}
    (h : (Client.fresh policy clock script).Timely) :
    (Client.fresh policy clock script).TellsTime where
  ages k hk := by cases hk
  clock made := by
    obtain ⟨now, hnow, -⟩ := h.exists_clockAfter made
    rw [hnow]
    rfl

/-- A network that cannot be reached. -/
def unreachable : List Exchange := [⟨.failure "refused".toList, .int 0⟩, ⟨.timeout, .int 5⟩]

theorem isExpected_of_unreachable : ∀ e ∈ unreachable, e.IsExpected := by
  intro e he message hmessage
  rcases List.mem_pair.mp he with rfl | rfl <;> cases hmessage

theorem tellsTime_unreachable : (Client.fresh .builtin (.int 1000) unreachable).TellsTime := by
  refine tellsTime_fresh ⟨trivial, fun e he => ?_⟩
  rcases List.mem_pair.mp he with rfl | rfl
  · exact le_rfl
  · exact Int.le.intro 5 rfl

theorem malformed_host_is_answered :
    let url := "http://[bad/".toList
    let c := Client.fresh .builtin (.int 1000) unreachable
    let ended := (get url .null []).run c
    (∀ e ∈ c.script, e.IsExpected) ∧ clashes [] = false ∧ c.TellsTime ∧
    Url.redacted url = .ok Url.invalid ∧ ∃ r, ended.answer = .ok r ∧ r.status = 0 := by
  intro url c ended
  have hshown : Url.redacted url = .ok Url.invalid := by decide +kernel
  obtain ⟨hurl, hanswered, hanswers, -⟩ := get_answers_unless_port_or_pause url .null
    isExpected_of_unreachable (show clashes [] = false from rfl) tellsTime_unreachable
  obtain ⟨r, hr⟩ := hanswered.mpr ⟨hurl.mp ⟨_, hshown⟩, .inr (.inl (by decide))⟩
  refine ⟨isExpected_of_unreachable, rfl, tellsTime_unreachable, hshown, r, hr, ?_⟩
  cases hanswers r hr with
  | kept h =>
      obtain ⟨k, hk, -⟩ := h
      cases hk
  | received d hlt hfails houtcome hstatus =>
      -- none of the three exchanges is a response
      change d < 3 at hlt
      interval_cases d <;> cases houtcome
  | unavailable hfails hstatus hheaders => exact hstatus

/-- A port that is no number stops a call before its first request, though nothing happens that is
not expected. -/
theorem call_stops_at_port :
    let url := "http://h:bad/".toList
    let c := Client.fresh .builtin (.int 1000) unreachable
    let ended := (get url .null []).run c
    (∀ e ∈ c.script, e.IsExpected) ∧
    (∀ shown, Url.redacted url ≠ .ok shown) ∧ (∀ r, ended.answer ≠ .ok r) ∧
    ended.answer = .error (.port (.notANumber "bad".toList)) ∧ ended.state.requests = [] := by
  intro url c ended
  have hport : Url.redacted url = .error (.notANumber "bad".toList) := by decide +kernel
  have hended : ended = ⟨.error (.port (.notANumber "bad".toList)), c, []⟩ :=
    get_run_of_port hport c
  rw [hended, hport]
  exact ⟨isExpected_of_unreachable, fun _ h => (nomatch h), fun _ h => (nomatch h), rfl, rfl⟩

end Client
end DistroBallot
