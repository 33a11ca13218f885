import DistroBallot.Proofs.Ballot.Fetching
import DistroBallot.Proofs.Fetch.Freshness
import DistroBallot.Proofs.Fetch.Outcomes
import DistroBallot.Settings.Checking
import Mathlib

/-!
# Votes that download

Two caches lie on top of each other: that of the identifiers, which is filled once and for all, and
that of the responses, which holds them for some minutes and also those that are of no use. Which
failures are remembered, and for how long, is a matter of both (`Downloads`).

What happens to a session is a list of ballots and waits (`Checker.happenings`), and beside it
everything is written down that was received on the way (`Ledger`). The two caches are linked to
that record by one invariant (`Ledger.Sound`): the identifiers are those of the first usable
response, and the responses are kept as an account of the client says (`Account.Faithful`).
-/

namespace DistroBallot

open License

/-! ## What happens to a session -/

/-- The client of a session that downloads. -/
def Session.client (s : Session (IdentifierCache Client)) : Client := s.evaluation.source

/-- Seconds go by. -/
def Session.wait (s : Session (IdentifierCache Client)) (seconds : Number) :
    Session (IdentifierCache Client) :=
  { s with evaluation := { s.evaluation with
    source := ((Client.advance seconds).run s.client).state } }

/-- What is done in a session: something is checked, or seconds go by. -/
inductive Occasion where
  | check (subject : Subject)
  | wait (seconds : Number)

/-- What happens in a session: a ballot is cast, or seconds go by. -/
inductive Happening where
  | ballot (b : Ballot (IdentifierCache Client))
  | wait (seconds : Number)

namespace Checker

/-- The session after an occasion, also if a check was stopped. -/
def attend (checker : Checker (IdentifierCache Client)) (s : Session (IdentifierCache Client)) :
    Occasion → Session (IdentifierCache Client)
  | .check subject => ((checker.check subject).run s).state
  | .wait seconds => s.wait seconds

/-- All that happens on occasions. -/
def happenings (checker : Checker (IdentifierCache Client)) :
    Session (IdentifierCache Client) → List Occasion → List Happening
  | _, [] => []
  | s, .check subject :: rest =>
    (checker.ballotsOn s subject).map .ballot ++
      checker.happenings (sessionAfter s (checker.ballotsOn s subject)) rest
  | s, .wait seconds :: rest => .wait seconds :: checker.happenings (s.wait seconds) rest

/-- Ballots of repositories of the registry and waits that move the clock, one after the other. -/
inductive Happened (checker : Checker (IdentifierCache Client)) (clock : Number) :
    Session (IdentifierCache Client) → List Happening → Prop where
  | nil (s : Session (IdentifierCache Client)) : Happened checker clock s []
  | ballot {s : Session (IdentifierCache Client)} {voter : Repository × Package}
      {rest : List Happening} (known : voter.1 ∈ checker.registry)
      (later : Happened checker clock (checker.ballot s voter).after rest) :
      Happened checker clock s (.ballot (checker.ballot s voter) :: rest)
  | wait {s : Session (IdentifierCache Client)} {seconds : Number} {rest : List Happening}
      (moves : clock.Moves seconds) (later : Happened checker clock (s.wait seconds) rest) :
      Happened checker clock s (.wait seconds :: rest)

theorem Cast.happened {checker : Checker (IdentifierCache Client)} {clock : Number}
    {s : Session (IdentifierCache Client)} {bs : List (Ballot (IdentifierCache Client))}
    {rest : List Happening} (h : Cast checker s bs)
    (hrest : Happened checker clock (sessionAfter s bs) rest) :
    Happened checker clock s (bs.map .ballot ++ rest) := by
  induction h with
  | nil s => exact hrest
  | cons known later ih => exact .ballot known (ih hrest)

theorem happened_happenings {checker : Checker (IdentifierCache Client)} {clock : Number}
    {occasions : List Occasion}
    (h : ∀ seconds, .wait seconds ∈ occasions → clock.Moves seconds)
    (s : Session (IdentifierCache Client)) :
    Happened checker clock s (checker.happenings s occasions) := by
  induction occasions generalizing s with
  | nil => exact .nil s
  | cons occasion rest ih =>
      have hrest : ∀ seconds, .wait seconds ∈ rest → clock.Moves seconds :=
        fun seconds hs => h seconds (List.mem_cons_of_mem _ hs)
      cases occasion with
      | check subject =>
          have hcast : Cast checker s (checker.ballotsOn s subject) :=
            cast_ballots (fun _ hv => mem_registry_of_mem_voters hv) s
          exact hcast.happened (ih hrest _)
      | wait seconds => exact .wait (h seconds List.mem_cons_self) (ih hrest _)

end Checker

/-! ## What is received -/

/-- A session, and all that has been received in it. -/
structure Ledger where
  session : Session (IdentifierCache Client)
  received : List Receipt

namespace Ledger

/-- The ledger after something happened. -/
def step (l : Ledger) (h : Happening) : Ledger :=
  let after := match h with
    | .ballot b => b.after
    | .wait seconds => l.session.wait seconds
  ⟨after, l.received ++ l.session.client.receivedIn after.client⟩

/-- The ledger after all that happened. -/
def steps (l : Ledger) (hs : List Happening) : Ledger := hs.foldl step l

/-- The account of the client. -/
def account (l : Ledger) : Account := ⟨l.session.client, l.received⟩

theorem session_steps_ballots (l : Ledger) (bs : List (Ballot (IdentifierCache Client))) :
    (l.steps (bs.map .ballot)).session = Checker.sessionAfter l.session bs := by
  induction bs generalizing l with
  | nil => rfl
  | cons b rest ih => exact ih _

/-- **All that occasions do to the session, they do by ballots and waits.** -/
theorem session_steps_happenings (checker : Checker (IdentifierCache Client))
    (occasions : List Occasion) (l : Ledger) :
    occasions.foldl checker.attend l.session =
      (l.steps (checker.happenings l.session occasions)).session := by
  induction occasions generalizing l with
  | nil => rfl
  | cons occasion rest ih =>
      cases occasion with
      | check subject =>
          have hafter := session_steps_ballots l (checker.ballotsOn l.session subject)
          rw [List.foldl_cons, Checker.happenings, steps, List.foldl_append]
          show rest.foldl _ ((checker.check subject).run l.session).state = _
          rw [Checker.check_state, ← hafter]
          exact ih _
      | wait seconds => exact ih (l.step (.wait seconds))

end Ledger

/-! ## Usable responses -/

namespace Settings

/-- The identifiers of a response. -/
def identifiersIn (settings : Settings) (r : Response) : List Text :=
  (Groups.members r.body settings.categories).toList

/-- A response that has identifiers. -/
def isUsable (settings : Settings) (r : Response) : Bool :=
  r.status == 200 && !(Groups.members r.body settings.categories).isEmpty

/-- The license groups can be asked for, with a number of attempts for which there are pauses. -/
structure Downloadable (settings : Settings) : Prop where
  port : ∃ target, Url.redacted settings.groupsUrl.display = .ok target
  once : 1 ≤ settings.retries
  few : settings.retries ≤ 1025

theorem downloadable_builtin : builtin.Downloadable where
  port := ⟨Groups.builtinUrl, by decide +kernel⟩
  once := by decide
  few := by decide

/-- Identifiers are found in a response that is usable, and are unavailable by any other. -/
theorem fetchIdentifiers_run {settings : Settings} (hsettings : settings.Downloadable)
    {c : Client} {r : Response}
    (hanswer : ((Client.get settings.groupsUrl.display .null []).run c).answer = .ok r) :
    let after := ((Client.get settings.groupsUrl.display .null []).run c).state
    (settings.isUsable r = true → ∃ events,
      settings.fetchIdentifiers.run c = ⟨.ok (settings.identifiersIn r), after, events⟩) ∧
    (settings.isUsable r = false → ∃ reason events,
      settings.fetchIdentifiers.run c = ⟨.error (.groups reason), after, events⟩) := by
  intro after
  let told := ((Client.get settings.groupsUrl.display .null []).run c).events
  have hget : (Client.get settings.groupsUrl.display .null []).run c = ⟨.ok r, after, told⟩ := by
    rw [← hanswer]
  obtain ⟨target, hport⟩ := hsettings.port
  obtain ⟨events, hrun⟩ := Groups.download_run_of_get hport settings.categories hget
  have husable : settings.isUsable r = true ↔
      Groups.foundIn target settings.categories r =
        .ok (Groups.members r.body settings.categories) := by
    rw [Groups.foundIn_eq_ok_iff, isUsable]
    simp
  cases hfound : Groups.foundIn target settings.categories r with
  | error reason =>
      rw [hfound] at hrun husable
      refine ⟨fun h => ?_, fun _ => ⟨reason, events, Step.run_bind_of_error hrun⟩⟩
      cases husable.mp h
  | ok ids =>
      obtain ⟨-, rfl, -⟩ := Groups.foundIn_eq_ok_iff.mp hfound
      rw [hfound] at hrun
      refine ⟨fun _ => ⟨_, Step.run_bind_of_ok hrun⟩, fun h => ?_⟩
      rw [husable.mpr hfound] at h
      cases h

/-- The first usable response among those received. -/
def firstUsable (settings : Settings) (rs : List Receipt) : Option Receipt :=
  rs.find? fun r => settings.isUsable r.response

theorem of_firstUsable_eq_some {settings : Settings} {rs : List Receipt} {first : Receipt}
    (h : settings.firstUsable rs = some first) :
    ∃ r ∈ rs, settings.isUsable r.response = true := by
  have husable := List.find?_some h
  exact ⟨first, List.mem_of_find?_eq_some h, husable⟩

theorem of_firstUsable_eq_none {settings : Settings} {rs : List Receipt}
    (h : settings.firstUsable rs = none) :
    ¬∃ r ∈ rs, settings.isUsable r.response = true := by
  rintro ⟨r, hr, husable⟩
  exact List.find?_eq_none.mp h r hr husable

end Settings

/-! ## The two caches -/

namespace Ledger

variable {settings : Settings} {clock : Number} {l : Ledger}

/-- The client's account is faithful, all was received from the license groups, and the cache of
identifiers holds those of the first usable response. -/
structure Sound (settings : Settings) (clock : Number) (l : Ledger) : Prop where
  account : l.account.Faithful settings.fetchPolicy clock
  here : ∀ r ∈ l.received, r.url = settings.groupsUrl.display
  expected : ∀ e ∈ l.session.client.script, e.IsExpected
  held : l.session.evaluation.held = (settings.firstUsable l.received).map
    fun r => .ofLower (settings.identifiersIn r.response)

theorem sound_session {script : List Exchange} (hclock : clock.IsReading)
    (hscript : ∀ e ∈ script, clock.Moves e.took) (hexpected : ∀ e ∈ script, e.IsExpected) :
    (⟨settings.session clock script, []⟩ : Ledger).Sound settings clock where
  account := Account.faithful_opened hclock hscript
  here r hr := by cases hr
  expected := hexpected
  held := rfl

theorem Sound.receivedFrom (h : l.Sound settings clock) :
    l.account.receivedFrom settings.groupsUrl.display = l.received := by
  refine List.filter_eq_self.mpr ?_
  intro r hr
  exact beq_iff_eq.mpr (h.here r hr)

/-- What a fetch answers is usable just when it received a usable response. -/
theorem Sound.fetch (hsettings : settings.Downloadable) (h : l.Sound settings clock)
    (hnone : settings.firstUsable l.received = none) :
    let url := settings.groupsUrl.display
    let ended := (Client.get url .null []).run l.session.client
    ∃ r, ended.answer = .ok r ∧
      settings.firstUsable (l.session.client.receivedIn ended.state) =
        if settings.isUsable r then some ⟨url, r, ended.state.clock⟩ else none := by
  intro url ended
  obtain ⟨target, hport⟩ := hsettings.port
  have hbare : Client.IsBare .null := rfl
  have hanswers : l.account.Answers url .null [] ended :=
    h.account.answers hsettings.once hport hbare rfl
  obtain ⟨r, hr⟩ : ∃ r, ended.answer = .ok r := by
    refine hanswers.ends ?_ h.expected
    rw [h.account.policy]
    exact hsettings.few
  refine ⟨r, hr, ?_⟩
  have hpast : ∀ past ∈ l.received, settings.isUsable past.response = false := by
    intro past hpast
    exact eq_false_of_ne_true (List.find?_eq_none.mp hnone past hpast)
  by_cases hrecent : ∃ r ∈ l.account.receivedFrom url, l.account.IsRecent r
  · -- a response that is kept is not usable, as it has been received before
    obtain ⟨last, hlast, hanswer⟩ := hanswers.recent hrecent
    have hmem : last ∈ l.received := by
      have hfrom := List.mem_of_getLast? hlast
      rwa [h.receivedFrom] at hfrom
    obtain rfl : last.response = r := Except.ok.inj (hanswer.symm.trans hr)
    have hrequests : ended.state.requests = l.session.client.requests :=
      hanswers.no_request_iff.mpr hrecent
    rw [hpast last hmem, Client.receivedIn_eq_nil hrequests]
    rfl
  · rcases hanswers.new hrecent r hr with hreceived | ⟨hreceived, reason, rfl⟩
    · change l.session.client.receivedIn ended.state = _ at hreceived
      rw [hreceived, Settings.firstUsable, List.find?_singleton]
    · change l.session.client.receivedIn ended.state = _ at hreceived
      rw [hreceived]
      rfl

/-- The ledger after a fetch, when the cache has taken in what was received. -/
theorem Sound.fetched (h : l.Sound settings clock) {s : Session (IdentifierCache Client)}
    (hsource : s.client =
      ((Client.get settings.groupsUrl.display .null []).run l.session.client).state)
    (hheld : s.evaluation.held =
      (settings.firstUsable (l.received ++ l.session.client.receivedIn s.client)).map
        fun r => .ofLower (settings.identifiersIn r.response)) :
    (⟨s, l.received ++ l.session.client.receivedIn s.client⟩ : Ledger).Sound settings clock := by
  have hbare : Client.IsBare .null := rfl
  have haccount : (⟨s, l.received ++ l.session.client.receivedIn s.client⟩ : Ledger).account =
      l.account.step (.fetch settings.groupsUrl.display .null []) := by
    show (⟨s.client, l.received ++ l.session.client.receivedIn s.client⟩ : Account) = _
    rw [hsource]
    rfl
  constructor
  · rw [haccount]
    exact h.account.fetch settings.groupsUrl.display hbare []
  · intro r hr
    rcases List.mem_append.mp hr with hr | hr
    · exact h.here r hr
    · rw [hsource] at hr
      exact h.account.url_of_mem_receivedIn hbare [] hr
  · intro e he
    change e ∈ s.client.script at he
    rw [hsource] at he
    exact h.expected e (h.account.script_fetch settings.groupsUrl.display hbare [] e he)
  · exact hheld

theorem received_of_kept (l : Ledger) {s : Session (IdentifierCache Client)}
    (hs : s.evaluation = l.session.evaluation) :
    l.received ++ l.session.client.receivedIn s.client = l.received := by
  have hclient : s.client = l.session.client := congrArg IdentifierCache.source hs
  rw [hclient, Client.receivedIn_eq_nil rfl, List.append_nil]

/-- Nothing happens to the evaluators. -/
theorem Sound.unchanged (h : l.Sound settings clock) {s : Session (IdentifierCache Client)}
    (hs : s.evaluation = l.session.evaluation) :
    (⟨s, l.received ++ l.session.client.receivedIn s.client⟩ : Ledger).Sound settings clock := by
  have hclient : s.client = l.session.client := congrArg IdentifierCache.source hs
  rw [received_of_kept l hs]
  constructor
  · show (⟨s.client, l.received⟩ : Account).Faithful settings.fetchPolicy clock
    rw [hclient]
    exact h.account
  · exact h.here
  · rw [hclient]
    exact h.expected
  · rw [hs]
    exact h.held

theorem Sound.account_wait (h : l.Sound settings clock) {seconds : Number}
    (hseconds : clock.Moves seconds) : ∃ now,
      (l.step (.wait seconds)).account = ⟨{ l.session.client with clock := now }, l.received⟩ := by
  obtain ⟨now, -, hwait⟩ := h.account.wait hseconds
  exact ⟨now, hwait⟩

theorem Sound.received_wait (h : l.Sound settings clock) {seconds : Number}
    (hseconds : clock.Moves seconds) : (l.step (.wait seconds)).received = l.received := by
  obtain ⟨now, hwait⟩ := h.account_wait hseconds
  exact congrArg Account.received hwait

theorem Sound.wait (h : l.Sound settings clock) {seconds : Number}
    (hseconds : clock.Moves seconds) : (l.step (.wait seconds)).Sound settings clock := by
  obtain ⟨now, hwait⟩ := h.account_wait hseconds
  have hclient : (l.step (.wait seconds)).session.client =
      { l.session.client with clock := now } := congrArg Account.client hwait
  have hallowed : Client.Action.Allowed clock (.wait seconds) := hseconds
  constructor
  · exact h.account.step hallowed
  · rw [h.received_wait hseconds]
    exact h.here
  · rw [hclient]
    exact h.expected
  · rw [h.received_wait hseconds]
    exact h.held

end Ledger

/-! ## One ballot -/

/-- How a ballot downloads, by what has been received before it. Only a ballot of Gentoo on a
package with licenses makes requests, and none does once a usable response has been received; until
then requests are made unless some response is recent, be it of no use. The verdict is that of the
identifiers of the first usable response, and unknown as long as there is none. -/
structure Downloads (settings : Settings) (past : Ledger) (b : Ballot (IdentifierCache Client)) :
    Prop where
  others : ¬b.IsGentoo → b.after.evaluation = past.session.evaluation
  few : b.IsGentoo → ∃ made : ℕ, (made : ℤ) ≤ settings.retries ∧
    b.after.client.requests = past.session.client.requests ++
      List.replicate made ⟨settings.groupsUrl.display, .int settings.timeout, .null, []⟩
  never_again : b.IsGentoo → (∃ r ∈ past.received, settings.isUsable r.response = true) →
    b.after.client.requests = past.session.client.requests
  remembered : b.IsGentoo → (¬∃ r ∈ past.received, settings.isUsable r.response = true) →
    (b.after.client.requests = past.session.client.requests ↔
      ∃ r ∈ past.received,
        past.session.client.clock.IsRecent r.receivedAt FetchPolicy.builtin.lifetime)
  decided : b.IsGentoo → ∀ first, settings.firstUsable (past.received ++
      past.session.client.receivedIn b.after.client) = some first →
    b.verdict = .ok (decidedBy (settings.identifiersIn first.response) b.package.licenses)
  unknown : b.IsGentoo → settings.firstUsable (past.received ++
      past.session.client.receivedIn b.after.client) = none → b.verdict = .ok .unknown

namespace Checker

/-- Without a hook, a ballot has the verdict of the vote. -/
theorem ballot_verdict_of_no_hook {σ : Type} {checker : Checker σ} (h : checker.hook = none)
    (s : Session σ) (voter : Repository × Package) : (checker.ballot s voter).verdict =
      ((checker.vote voter.1 voter.2).run s.evaluation).answer := by
  rw [vote_run, ballot]
  cases checker.verdictOn s.evaluation voter.1 voter.2 with
  | error fault => rfl
  | ok verdict =>
      simp only [objection?, h]
      rfl

variable {settings : Settings} {clock : Number} {threshold : Value} {l : Ledger}

/-- A ballot that leaves the evaluators alone, and that is not about identifiers. -/
theorem downloads_of_not_gentoo (h : l.Sound settings clock)
    {b : Ballot (IdentifierCache Client)} (hb : ¬b.IsGentoo)
    (hkept : b.after.evaluation = l.session.evaluation) :
    Downloads settings l b ∧ (l.step (.ballot b)).Sound settings clock := by
  refine ⟨?_, h.unchanged hkept⟩
  constructor
  · exact fun _ => hkept
  · exact fun hgentoo => absurd hgentoo hb
  · exact fun hgentoo => absurd hgentoo hb
  · exact fun hgentoo => absurd hgentoo hb
  · exact fun hgentoo => absurd hgentoo hb
  · exact fun hgentoo => absurd hgentoo hb

/-- A ballot after a usable response. -/
theorem downloads_of_usable (hsettings : settings.Downloadable) (h : l.Sound settings clock)
    {b : Ballot (IdentifierCache Client)} (hb : b.IsGentoo) {first : Receipt}
    (hfirst : settings.firstUsable l.received = some first)
    (hkept : b.after.evaluation = l.session.evaluation)
    (hverdict : b.verdict =
      .ok (decidedBy (settings.identifiersIn first.response) b.package.licenses)) :
    Downloads settings l b ∧ (l.step (.ballot b)).Sound settings clock := by
  have hclient : b.after.client = l.session.client := congrArg IdentifierCache.source hkept
  have hreceived := Ledger.received_of_kept l hkept
  refine ⟨?_, h.unchanged hkept⟩
  constructor
  · exact fun hother => absurd hb hother
  · intro _
    refine ⟨0, ?_, ?_⟩
    · have honce := hsettings.once
      omega
    · rw [hclient]
      exact (List.append_nil _).symm
  · intro _ _
    rw [hclient]
  · exact fun _ hnone => absurd (Settings.of_firstUsable_eq_some hfirst) hnone
  · intro _ first' hfirst'
    rw [hreceived, hfirst] at hfirst'
    rw [← Option.some.inj hfirst']
    exact hverdict
  · intro _ hnone
    rw [hreceived, hfirst] at hnone
    cases hnone

/-- A ballot that fetches, because no usable response has been received before. -/
theorem downloads_of_fetch (hsettings : settings.Downloadable) (h : l.Sound settings clock)
    {b : Ballot (IdentifierCache Client)} (hb : b.IsGentoo)
    (hnone : settings.firstUsable l.received = none) {r : Response}
    {after : Client}
    (hafter : ((Client.get settings.groupsUrl.display .null []).run l.session.client).state = after)
    (hclient : b.after.client = after)
    (hreceived : settings.firstUsable (l.session.client.receivedIn after) =
      if settings.isUsable r then some ⟨settings.groupsUrl.display, r, after.clock⟩ else none)
    (hheld : b.after.evaluation.held =
      if settings.isUsable r then some (.ofLower (settings.identifiersIn r)) else none)
    (hverdict : b.verdict =
      if settings.isUsable r then .ok (decidedBy (settings.identifiersIn r) b.package.licenses)
      else .ok .unknown) :
    Downloads settings l b ∧ (l.step (.ballot b)).Sound settings clock := by
  have hall : settings.firstUsable (l.received ++ l.session.client.receivedIn b.after.client) =
      if settings.isUsable r then some ⟨settings.groupsUrl.display, r, after.clock⟩ else none := by
    rw [← hreceived, hclient, Settings.firstUsable, List.find?_append]
    rw [Settings.firstUsable] at hnone
    rw [hnone]
    rfl
  obtain ⟨target, hport⟩ := hsettings.port
  have hbare : Client.IsBare .null := rfl
  have hextras : Client.clashes [] = false := rfl
  have hanswers := h.account.answers hsettings.once hport hbare hextras
  have hnothing : b.after.client.requests = l.session.client.requests ↔
      ∃ r ∈ l.received, l.account.IsRecent r := by
    rw [hclient, ← hafter, ← h.receivedFrom]
    exact hanswers.no_request_iff
  constructor
  · constructor
    · exact fun hother => absurd hb hother
    · intro _
      by_cases hrecent : ∃ r ∈ l.received, l.account.IsRecent r
      · refine ⟨0, ?_, ?_⟩
        · have honce := hsettings.once
          omega
        · rw [hnothing.mpr hrecent]
          exact (List.append_nil _).symm
      · rw [← h.receivedFrom] at hrecent
        obtain ⟨made, -, hmade, hrequests⟩ := hanswers.requests hrecent
        rw [h.account.policy] at hmade hrequests
        rw [hclient, ← hafter]
        exact ⟨made, hmade, hrequests⟩
    · exact fun _ husable => absurd husable (Settings.of_firstUsable_eq_none hnone)
    · intro _ _
      have hlifetime : l.account.client.policy.lifetime = FetchPolicy.builtin.lifetime := by
        rw [h.account.policy]
        rfl
      rw [hnothing]
      simp only [Account.IsRecent, hlifetime]
      rfl
    · intro _ first hfirst
      rw [hall] at hfirst
      rw [hverdict]
      split at hfirst
      · next husable =>
          rw [if_pos husable, ← Option.some.inj hfirst]
      · cases hfirst
    · intro _ hnever
      rw [hall] at hnever
      rw [hverdict]
      split at hnever
      · cases hnever
      · next husable => rw [if_neg husable]
  · refine h.fetched (hclient.trans hafter.symm) ?_
    rw [hall, hheld]
    split <;> rfl

theorem ballot_of_downloading (hsettings : settings.Downloadable) (h : l.Sound settings clock)
    {voter : Repository × Package} (hr : voter.1 ∈ Registry.builtin) :
    let checker := settings.checker false threshold none
    let b := checker.ballot l.session voter
    Downloads settings l b ∧ (l.step (.ballot b)).Sound settings clock := by
  intro checker b
  have hevaluation : b.after.evaluation =
      ((checker.vote voter.1 voter.2).run l.session.evaluation).state :=
    ballot_evaluation checker l.session voter
  have hverdict : b.verdict = ((checker.vote voter.1 voter.2).run l.session.evaluation).answer :=
    ballot_verdict_of_no_hook rfl l.session voter
  obtain ⟨hrepository, hpackage⟩ := Prod.mk.inj (ballot_voter checker l.session voter)
  by_cases hb : b.IsGentoo
  · have hvote : checker.vote voter.1 voter.2 = firstNotFree
        (Evaluator.gentoo (some settings.fetchIdentifiers)) b.package.licenses := by
      rw [vote_gentoo rfl hr (hrepository ▸ hb.1), hpackage]
      rfl
    rw [hvote] at hevaluation hverdict
    have hheld := h.held
    cases hfirst : settings.firstUsable l.received with
    | some first =>
        rw [hfirst, Option.map_some] at hheld
        rw [firstNotFree_run_held hheld] at hevaluation hverdict
        exact downloads_of_usable hsettings h hb hfirst hevaluation hverdict
    | none =>
        rw [hfirst, Option.map_none] at hheld
        obtain ⟨r, hr, hreceived⟩ := h.fetch hsettings hfirst
        obtain ⟨husable, hother⟩ := Settings.fetchIdentifiers_run hsettings hr
        cases hcase : settings.isUsable r with
        | true =>
            obtain ⟨events, hfetch⟩ := husable hcase
            rw [firstNotFree_run_found hheld hfetch hb.2] at hevaluation hverdict
            have hclient := congrArg IdentifierCache.source hevaluation
            refine downloads_of_fetch hsettings h hb hfirst rfl hclient hreceived ?_ ?_
            · rw [hevaluation, hcase]
              rfl
            · rw [hverdict, hcase]
              rfl
        | false =>
            obtain ⟨reason, events, hfetch⟩ := hother hcase
            obtain ⟨told, hrun⟩ := firstNotFree_run_failed hheld hfetch hb.2
            rw [hrun] at hevaluation hverdict
            have hclient := congrArg IdentifierCache.source hevaluation
            refine downloads_of_fetch hsettings h hb hfirst rfl hclient hreceived ?_ ?_
            · rw [hevaluation, hcase]
              rfl
            · rw [hverdict, hcase]
              rfl
  · have hkept : b.after.evaluation = l.session.evaluation := by
      rw [hevaluation]
      refine vote_state_of_not_gentoo rfl hr (fun h => hb ?_) l.session.evaluation
      exact ⟨hrepository ▸ h.1, hpackage ▸ h.2⟩
    exact downloads_of_not_gentoo h hb hkept

/-! ## Ballots in a row -/

theorem Happened.of_notAfter {checker : Checker (IdentifierCache Client)}
    {s : Session (IdentifierCache Client)} {hs : List Happening} {later : Number}
    (h : Happened checker clock s hs) (hlater : clock.NotAfter later) :
    Happened checker later s hs := by
  induction h with
  | nil s => exact .nil s
  | ballot known _ ih => exact .ballot known ih
  | wait moves _ ih => exact .wait ((hlater.moves_iff _).mpr moves) ih

/-- What happens keeps the two caches linked. -/
theorem Happened.sound (hsettings : settings.Downloadable) (earlier : List Happening)
    {later : List Happening}
    (h : Happened (settings.checker false threshold none) clock l.session (earlier ++ later))
    (hl : l.Sound settings clock) : (l.steps earlier).Sound settings clock ∧
      Happened (settings.checker false threshold none) clock (l.steps earlier).session later := by
  induction earlier generalizing l with
  | nil => exact ⟨hl, h⟩
  | cons first rest ih =>
      cases h with
      | ballot known later => exact ih later (ballot_of_downloading hsettings hl known).2
      | wait moves later => exact ih later (hl.wait moves)

theorem Happened.downloads (hsettings : settings.Downloadable) (earlier : List Happening)
    {later : List Happening} {b : Ballot (IdentifierCache Client)}
    (h : Happened (settings.checker false threshold none) clock l.session
      (earlier ++ .ballot b :: later)) (hl : l.Sound settings clock) :
    Downloads settings (l.steps earlier) b := by
  obtain ⟨hsound, hrest⟩ := h.sound hsettings earlier hl
  cases hrest with
  | ballot known _ => exact (ballot_of_downloading hsettings hsound known).1

/-- Nothing is received but by ballots of Gentoo. -/
theorem Happened.received_eq (hsettings : settings.Downloadable) (earlier : List Happening)
    {later : List Happening}
    (h : Happened (settings.checker false threshold none) clock l.session (earlier ++ later))
    (hl : l.Sound settings clock) (hothers : ∀ b, .ballot b ∈ earlier → ¬b.IsGentoo) :
    (l.steps earlier).received = l.received := by
  induction earlier generalizing l with
  | nil => rfl
  | cons first rest ih =>
      have hrest : ∀ b, .ballot b ∈ rest → ¬b.IsGentoo :=
        fun b hb => hothers b (List.mem_cons_of_mem _ hb)
      cases h with
      | ballot known later =>
          obtain ⟨hdownloads, hsound⟩ := ballot_of_downloading hsettings hl known
          have hkept := hdownloads.others (hothers _ List.mem_cons_self)
          exact (ih later hsound hrest).trans (Ledger.received_of_kept l hkept)
      | wait moves later =>
          exact (ih later (hl.wait moves) hrest).trans (hl.received_wait moves)

/-- **A vote whose attempts have all failed does not spare the next one its requests,** however much
time goes by. -/
theorem Happened.requests_again (hsettings : settings.Downloadable)
    (between : List Happening) {later : List Happening} {b b' : Ballot (IdentifierCache Client)}
    (h : Happened (settings.checker false threshold none) clock l.session
      (.ballot b :: between ++ .ballot b' :: later)) (hl : l.Sound settings clock)
    (hb : b.IsGentoo) (hb' : b'.IsGentoo) (hothers : ∀ c, .ballot c ∈ between → ¬c.IsGentoo)
    (hrequests : b.after.client.requests ≠ l.session.client.requests)
    (hnothing : l.session.client.receivedIn b.after.client = []) :
    b'.after.client.requests ≠ (l.steps (.ballot b :: between)).session.client.requests := by
  have hfirst : Downloads settings l b := h.downloads hsettings [] hl
  have hunusable : ¬∃ r ∈ l.received, settings.isUsable r.response = true :=
    fun husable => hrequests (hfirst.never_again hb husable)
  -- nothing new has been received since
  have hreceived : (l.steps (.ballot b :: between)).received = l.received := by
    obtain ⟨hsound, hrest⟩ := h.sound hsettings [.ballot b] hl
    refine (hrest.received_eq hsettings between hsound hothers).trans ?_
    show l.received ++ l.session.client.receivedIn b.after.client = _
    rw [hnothing, List.append_nil]
  -- and the clock has not gone back, since it is compared with its reading at the first ballot
  have hclock : l.session.client.clock.NotAfter
      (l.steps (.ballot b :: between)).session.client.clock := by
    have hbase : l.Sound settings l.session.client.clock :=
      { hl with account :=
          { hl.account with began := hl.account.timely.reading.notAfter_self } }
    have hbased := h.of_notAfter hl.account.began
    exact (hbased.sound hsettings (.ballot b :: between) hbase).1.account.began
  have hlast := h.downloads hsettings (.ballot b :: between) hl
  have hunusable' : ¬∃ r ∈ (l.steps (.ballot b :: between)).received,
      settings.isUsable r.response = true := by
    rw [hreceived]
    exact hunusable
  intro hsame
  obtain ⟨r, hr, hrecent⟩ := (hlast.remembered hb' hunusable').mp hsame
  rw [hreceived] at hr
  have hpast := hl.account.past r hr
  exact hrequests ((hfirst.remembered hb hunusable).mpr
    ⟨r, hr, hrecent.of_notAfter hpast.self hpast hclock⟩)

/-- **Which failures are remembered, and for how long.** All that checks and waits do to a session
of the checker without configuration, they do by ballots and waits, and each ballot downloads as the
record of what was received before it says. -/
theorem checks_download_until_usable {clock : Number} {script : List Exchange}
    {occasions : List Occasion} (hclock : clock.IsReading)
    (hscript : ∀ e ∈ script, clock.Moves e.took) (hexpected : ∀ e ∈ script, e.IsExpected)
    (hoccasions : ∀ seconds, .wait seconds ∈ occasions → clock.Moves seconds) :
    let start : Ledger := ⟨Settings.builtin.session clock script, []⟩
    let hs := builtin.happenings start.session occasions
    occasions.foldl builtin.attend start.session = (start.steps hs).session ∧
    (∀ (earlier later : List Happening) (b : Ballot (IdentifierCache Client)),
      hs = earlier ++ .ballot b :: later → Downloads .builtin (start.steps earlier) b) ∧
    ∀ (earlier between later : List Happening) (b b' : Ballot (IdentifierCache Client)),
      hs = earlier ++ (.ballot b :: between ++ .ballot b' :: later) →
      b.IsGentoo → b'.IsGentoo → (∀ c, .ballot c ∈ between → ¬c.IsGentoo) →
      let before := (start.steps earlier).session.client
      b.after.client.requests ≠ before.requests → before.receivedIn b.after.client = [] →
      b'.after.client.requests ≠
        (start.steps (earlier ++ .ballot b :: between)).session.client.requests := by
  intro start hs
  have hstart : start.Sound .builtin clock := Ledger.sound_session hclock hscript hexpected
  have hhappened : Happened builtin clock start.session hs :=
    happened_happenings hoccasions start.session
  refine ⟨Ledger.session_steps_happenings builtin occasions start, ?_, ?_⟩
  · intro earlier later b heq
    rw [heq] at hhappened
    exact hhappened.downloads Settings.downloadable_builtin earlier hstart
  · intro earlier between later b b' heq hb hb' hothers before hrequests hnothing
    rw [heq] at hhappened
    obtain ⟨hsound, hrest⟩ := hhappened.sound Settings.downloadable_builtin earlier hstart
    rw [Ledger.steps, List.foldl_append]
    exact hrest.requests_again Settings.downloadable_builtin between hsound hb hb' hothers
      hrequests hnothing

/-- The license groups are missing at first. -/
def belated : Ledger :=
  ⟨Settings.builtin.session (.int 0) [⟨.response ⟨404, .map [], []⟩, .int 1⟩,
    ⟨.response ⟨200, .map [], "MISC-FREE MIT".toList⟩, .int 1⟩], []⟩

/-- A package of Gentoo with one license. -/
def licensed : Package := { repo := "gentoo".toList, licenses := ["MIT".toList] }

/-- The vote on it. -/
def voteOn (l : Ledger) : Ballot (IdentifierCache Client) :=
  builtin.ballot l.session
    (⟨"gentoo".toList, .whole ["gentoo".toList], none, .evaluator (.known .gentoo)⟩, licensed)

/-- The ledger after it, and after some time. -/
def laterOn (l : Ledger) (seconds : ℤ) : Ledger :=
  (l.step (.ballot (voteOn l))).step (.wait (.int seconds))

theorem ballotsOn_licensed (l : Ledger) :
    builtin.ballotsOn l.session (.package licensed) = [voteOn l] :=
  ballots_singleton _ _ _

theorem happenings_licensed (l : Ledger) (seconds : ℤ) (rest : List Occasion) :
    builtin.happenings l.session
        (.check (.package licensed) :: .wait (.int seconds) :: rest) =
      .ballot (voteOn l) :: .wait (.int seconds) ::
        builtin.happenings (laterOn l seconds).session rest := by
  rw [happenings, ballotsOn_licensed, happenings]
  rfl

theorem isGentoo_voteOn (l : Ledger) : (voteOn l).IsGentoo := by
  have hvoter := Prod.mk.inj (ballot_voter builtin l.session
    (⟨"gentoo".toList, .whole ["gentoo".toList], none, .evaluator (.known .gentoo)⟩, licensed))
  refine ⟨?_, ?_⟩
  · rw [voteOn, hvoter.1]
  · rw [voteOn, hvoter.2]
    exact List.cons_ne_nil _ _

/-- That the groups are missing is remembered for three hundred seconds; then they are found. -/
theorem missing_groups_remembered :
    let again := laterOn belated 299
    let found := laterOn again 1
    (voteOn belated).verdict = .ok .unknown ∧
    (voteOn again).after.client.requests = again.session.client.requests ∧
    (voteOn again).verdict = .ok .unknown ∧
    (voteOn found).verdict = .ok .free := by
  intro again found
  let occasions : List Occasion := [.check (.package licensed), .wait (.int 299),
    .check (.package licensed), .wait (.int 1), .check (.package licensed)]
  have hhappenings : builtin.happenings belated.session occasions =
      [.ballot (voteOn belated), .wait (.int 299), .ballot (voteOn again), .wait (.int 1),
        .ballot (voteOn found)] := by
    rw [happenings_licensed, happenings_licensed, happenings, ballotsOn_licensed]
    rfl
  have hclock : (Number.int 0).IsReading := trivial
  have hscript : ∀ e ∈ belated.session.client.script, (Number.int 0).Moves e.took := by
    intro e he
    change e ∈ [_, _] at he
    rcases List.mem_cons.mp he with rfl | he
    · exact Int.one_nonneg
    · rw [List.mem_singleton.mp he]
      exact Int.one_nonneg
  have hexpected : ∀ e ∈ belated.session.client.script, e.IsExpected := by
    intro e he message heq
    change e ∈ [_, _] at he
    rcases List.mem_cons.mp he with rfl | he
    · cases heq
    · rw [List.mem_singleton.mp he] at heq
      cases heq
  have hoccasions : ∀ seconds, .wait seconds ∈ occasions → (Number.int 0).Moves seconds := by
    intro seconds hs
    simp only [occasions, List.mem_cons, List.not_mem_nil, or_false, reduceCtorEq, false_or,
      Occasion.wait.injEq] at hs
    rcases hs with rfl | rfl
    · exact Int.natCast_nonneg 299
    · exact Int.natCast_nonneg 1
  obtain ⟨-, hdownloads, -⟩ := checks_download_until_usable hclock hscript hexpected hoccasions
  have hfirst : Downloads .builtin belated (voteOn belated) := hdownloads [] _ _ hhappenings
  have hagain : Downloads .builtin again (voteOn again) := hdownloads [_, _] _ _ hhappenings
  have hfound : Downloads .builtin found (voteOn found) := hdownloads [_, _, _, _] _ _ hhappenings
  have hnone₁ : Settings.builtin.firstUsable (belated.received ++
      belated.session.client.receivedIn (voteOn belated).after.client) = none :=
    Option.isNone_iff_eq_none.mp (by decide +kernel)
  have hnone₂ : Settings.builtin.firstUsable (again.received ++
      again.session.client.receivedIn (voteOn again).after.client) = none :=
    Option.isNone_iff_eq_none.mp (by decide +kernel)
  have hfree : (Settings.builtin.firstUsable (found.received ++
      found.session.client.receivedIn (voteOn found).after.client)).map (fun r =>
        decidedBy (Settings.builtin.identifiersIn r.response) (voteOn found).package.licenses) =
      some .free := by decide +kernel
  obtain ⟨usable, husable, hverdict⟩ := Option.map_eq_some_iff.mp hfree
  have hmoments : again.received.map (·.receivedAt) = [.int 1] ∧
      again.session.client.clock = .int 300 := by decide +kernel
  obtain ⟨r, hr, hmoment⟩ := List.map_eq_singleton_iff.mp hmoments.1
  refine ⟨hfirst.unknown (isGentoo_voteOn _) hnone₁, ?_, hagain.unknown (isGentoo_voteOn _) hnone₂,
    ?_⟩
  · refine (hagain.remembered (isGentoo_voteOn _) ?_).mpr ⟨r, ?_, .int 299, ?_, rfl⟩
    · rintro ⟨r, hr, husable⟩
      exact Settings.of_firstUsable_eq_none hnone₂ ⟨r, List.mem_append_left _ hr, husable⟩
    · rw [hr]
      exact List.mem_cons_self
    · rw [hmoments.2, hmoment]
      rfl
  · rw [← hverdict]
    exact hfound.decided (isGentoo_voteOn _) usable husable

end Checker
end DistroBallot
