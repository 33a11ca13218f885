import DistroBallot.Proofs.Fetch.Attempts
import Mathlib

/-!
# Fresh responses

A client keeps one response under each URL, and it is the last one that it has received from there
since it last forgot (`Account.Faithful`). This invariant links what is kept to what was received,
which is written down beside the client (`Account`), through calls, waits and forgetting in any
order. Responses are received in the order of the clock, so that there is a recent one just when the
last one is recent; and then a call is answered by it.
-/

namespace DistroBallot
namespace Client

/-! ## What is kept -/

theorem find?_keep (entry : Kept) (kept : List Kept) (key : Text) :
    (keep entry kept).find? (fun k => k.key == key) =
      if entry.key = key then some entry else kept.find? (fun k => k.key == key) := by
  induction kept with
  | nil =>
      rw [keep, List.find?_singleton]
      simp only [beq_iff_eq]
      rfl
  | cons k rest ih =>
      rw [keep]
      by_cases hkey : k.key = entry.key
      · rw [if_pos hkey, List.find?_cons, List.find?_cons, hkey]
        by_cases hentry : entry.key = key
        · rw [if_pos hentry, beq_iff_eq.mpr hentry]
        · rw [if_neg hentry, beq_eq_false_iff_ne.mpr hentry]
      · rw [if_neg hkey, List.find?_cons, List.find?_cons, ih]
        by_cases hk : k.key = key
        · have hentry : entry.key ≠ key := fun hentry => hkey (hk.trans hentry.symm)
          rw [beq_iff_eq.mpr hk]
          exact (if_neg hentry).symm
        · rw [beq_eq_false_iff_ne.mpr hk]

/-- Headers that do not tell requests apart: none are given, or there are none in them. -/
def IsBare (headers : Value) : Prop := headersKey headers = []

theorem cacheKey_of_isBare {headers : Value} (h : IsBare headers) (url : Text) :
    cacheKey url headers = cacheKey url .null := by
  rw [cacheKey, h]
  rfl

theorem cacheKey_inj {url url' : Text} : cacheKey url .null = cacheKey url' .null ↔ url = url' := by
  constructor
  · intro h
    exact List.append_cancel_left (List.append_cancel_right h)
  · rintro rfl
    rfl

/-! ## One call -/

variable {url target : Text} {headers : Value} {extras : List (Value × Value)} {c : Client}

/-- What a call answers after attempts. -/
def answered (policy : FetchPolicy) : Except (Option Text) Response → Response
  | .ok r => r
  | .error reason => givenUp policy reason

theorem get_state_of_port {e : PortError} (hport : Url.redacted url = .error e) :
    ((get url headers extras).run c).state = c := by
  rw [get, hport]
  rfl

theorem get_run_of_fresh (hport : Url.redacted url = .ok target) {k : Kept}
    (hkept : c.keptUnder? (cacheKey url headers) = some k) (hfresh : c.isFresh? k = some true) :
    (get url headers extras).run c = ⟨.ok k.response, c, [.cacheHit target]⟩ := by
  have hunder : (freshUnder (cacheKey url headers)).run c = ⟨.ok (some k), c, []⟩ := by
    simp only [Step.run, freshUnder, hkept, hfresh]
    rfl
  rw [get, hport]
  dsimp only
  rw [Step.run_bind_of_ok hunder]
  rfl

/-- Where nothing fresh is kept, the call is made of attempts. -/
theorem get_run_of_stale (extras : List (Value × Value)) (hport : Url.redacted url = .ok target)
    (hstale : ∀ k, c.keptUnder? (cacheKey url headers) = some k → c.isFresh? k = some false) :
    let tried := (attempts (cacheKey url headers) target url headers extras
      c.policy.attempts.toNat 0 none).run c
    (get url headers extras).run c =
      ⟨tried.answer.map (answered c.policy), tried.state, tried.events⟩ := by
  have hunder : (freshUnder (cacheKey url headers)).run c = ⟨.ok none, c, []⟩ := by
    cases hkept : c.keptUnder? (cacheKey url headers) with
    | none => simp only [Step.run, freshUnder, hkept]
    | some k =>
        simp only [Step.run, freshUnder, hkept, hstale k hkept]
        rfl
  rw [get, hport]
  dsimp only
  rw [Step.run_bind_of_ok hunder]
  dsimp only
  rw [Step.run_bind_of_ok (Step.run_state c)]
  dsimp only
  cases hrun : (attempts (cacheKey url headers) target url headers extras
      c.policy.attempts.toNat 0 none).run c with
  | mk answer after events =>
      cases answer with
      | error fault =>
          rw [Step.run_bind_of_error hrun]
          rfl
      | ok result =>
          rw [Step.run_bind_of_ok hrun]
          cases result <;> simp [answered, Except.map]

theorem get_run_of_overflow (hport : Url.redacted url = .ok target) {k : Kept}
    (hkept : c.keptUnder? (cacheKey url headers) = some k) (hfresh : c.isFresh? k = none) :
    (get url headers extras).run c = ⟨.error .overflow, c, []⟩ := by
  have hunder : (freshUnder (cacheKey url headers)).run c = ⟨.error .overflow, c, []⟩ := by
    simp only [Step.run, freshUnder, hkept, hfresh]
  rw [get, hport]
  dsimp only
  rw [Step.run_bind_of_error hunder]

/-- The answer of a call depends on the clock, the script and what is kept under its own key. -/
theorem get_answer_of_alike {d : Client} (hc : c.Timely) (hpolicy : d.policy = c.policy)
    (hclock : d.clock = c.clock) (hscript : d.script = c.script)
    (hkept : d.keptUnder? (cacheKey url headers) = c.keptUnder? (cacheKey url headers))
    (hport : Url.redacted url = .ok target) (hextras : clashes extras = false) :
    ((get url headers extras).run d).answer = ((get url headers extras).run c).answer := by
  have hd : d.Timely := ⟨hclock ▸ hc.reading, fun e he => hclock ▸ hc.script e (hscript ▸ he)⟩
  have hfresh : ∀ k, d.isFresh? k = c.isFresh? k := by
    intro k
    rw [isFresh?, isFresh?, hclock, hpolicy]
  have hstale : (∀ k, c.keptUnder? (cacheKey url headers) = some k → c.isFresh? k = some false) →
      ((get url headers extras).run d).answer = ((get url headers extras).run c).answer := by
    intro hstale
    rw [get_run_of_stale extras hport hstale,
      get_run_of_stale extras hport (fun k hk => (hfresh k).trans (hstale k (hkept ▸ hk)))]
    dsimp only
    rw [(attempts_course _ _ _ _ hextras _ 0 none hc).1,
      (attempts_course _ _ _ _ hextras _ 0 none hd).1, hpolicy, hscript]
  cases hfind : c.keptUnder? (cacheKey url headers) with
  | none =>
      refine hstale ?_
      intro k hk
      cases hfind.symm.trans hk
  | some k =>
      cases hage : c.isFresh? k with
      | none =>
          rw [get_run_of_overflow hport hfind hage,
            get_run_of_overflow hport (hkept.trans hfind) ((hfresh k).trans hage)]
      | some fresh =>
          cases fresh with
          | true =>
              rw [get_run_of_fresh hport hfind hage,
                get_run_of_fresh hport (hkept.trans hfind) ((hfresh k).trans hage)]
          | false =>
              refine hstale ?_
              intro k' hk'
              obtain rfl := Option.some.inj (hfind.symm.trans hk')
              exact hage

/-- A call with an argument that the client gives itself makes no request. -/
theorem attempts_state_of_clash (hextras : clashes extras = true) (key : Text) (left : ℕ)
    (reason : Option Text) :
    ((attempts key target url headers extras left 0 reason).run c).state = c := by
  cases left with
  | zero => rfl
  | succ left =>
      have hattempt : (attempt key target url headers extras 0).run c =
          ⟨.error .argumentClash, c, [.request target 1]⟩ := by
        rw [attempt, hextras]
        rfl
      rw [attempts, Step.run_bind_of_error hattempt]

/-! ## What happens to a client -/

/-- What is done with a client. -/
inductive Action where
  | fetch (url : Text) (headers : Value) (extras : List (Value × Value))
  | forget
  | wait (seconds : Number)

namespace Action

/-- Fetches without headers of their own, and waits that move the clock forward. -/
def Allowed (clock : Number) : Action → Prop
  | .fetch _ headers _ => IsBare headers
  | .forget => True
  | .wait seconds => clock.Moves seconds

/-- The URL that an action fetches. -/
def url? : Action → Option Text
  | .fetch url _ _ => some url
  | _ => none

/-- The client after an action, however that ended. -/
def on (c : Client) : Action → Client
  | .fetch url headers extras => ((get url headers extras).run c).state
  | .forget => c.forget
  | .wait seconds => ((advance seconds).run c).state

end Action

end Client

open Client

/-- A client, and what it has received since it last forgot. -/
structure Account where
  client : Client
  received : List Receipt

namespace Account

/-- The account of a client that has done nothing yet. -/
def opened (policy : FetchPolicy) (clock : Number) (script : List Exchange) : Account :=
  ⟨.fresh policy clock script, []⟩

/-- The account after an action. -/
def step (a : Account) (action : Action) : Account :=
  let after := action.on a.client
  match action with
  | .forget => ⟨after, []⟩
  | _ => ⟨after, a.received ++ a.client.receivedIn after⟩

/-- The account after actions. -/
def steps (a : Account) (actions : List Action) : Account := actions.foldl step a

/-- What was received from a URL. -/
def receivedFrom (a : Account) (url : Text) : List Receipt := a.received.filter (·.url == url)

/-- A receipt lies less than a lifetime back. -/
def IsRecent (a : Account) (r : Receipt) : Prop :=
  a.client.clock.IsRecent r.receivedAt a.client.policy.lifetime

theorem receivedFrom_append (client : Client) (rs : List Receipt) (r : Receipt) (url : Text) :
    receivedFrom ⟨client, rs ++ [r]⟩ url =
      rs.filter (·.url == url) ++ if r.url = url then [r] else [] := by
  rw [receivedFrom, List.filter_append, List.filter_singleton]
  by_cases hurl : r.url = url
  · rw [if_pos hurl, beq_iff_eq.mpr hurl]
    rfl
  · rw [if_neg hurl, beq_eq_false_iff_ne.mpr hurl]
    rfl

/-! ## What is kept is what was received last -/

/-- The clock has only gone forward, receipts lie in its order, and under each URL that response is
kept which was received last from there. -/
structure Faithful (policy : FetchPolicy) (clock : Number) (a : Account) : Prop where
  policy : a.client.policy = policy
  timely : a.client.Timely
  began : clock.NotAfter a.client.clock
  inOrder : a.received.Pairwise fun r r' => r.receivedAt.NotAfter r'.receivedAt
  past : ∀ r ∈ a.received, r.receivedAt.NotAfter a.client.clock
  kept : ∀ url, a.client.keptUnder? (cacheKey url .null) =
    (a.receivedFrom url).getLast?.map fun r => ⟨cacheKey url .null, r.response, r.receivedAt⟩

variable {policy : FetchPolicy} {clock : Number} {a : Account} {url target : Text}
  {headers : Value} {extras : List (Value × Value)}

theorem faithful_opened {script : List Exchange} (hclock : clock.IsReading)
    (hscript : ∀ e ∈ script, clock.Moves e.took) :
    (opened policy clock script).Faithful policy clock where
  policy := rfl
  timely := ⟨hclock, hscript⟩
  began := hclock.notAfter_self
  inOrder := .nil
  past r hr := by cases hr
  kept _ := rfl

/-- Time goes on, and requests are made, but nothing is received. -/
theorem Faithful.goOn (h : a.Faithful policy clock) {after : Client}
    (hpolicy : after.policy = a.client.policy) (hclock : a.client.clock.NotAfter after.clock)
    (hscript : ∀ e ∈ after.script, e ∈ a.client.script) (hkept : after.kept = a.client.kept) :
    (⟨after, a.received⟩ : Account).Faithful policy clock := by
  constructor
  · exact hpolicy.trans h.policy
  · exact h.timely.of_notAfter hclock hscript
  · exact h.began.trans hclock
  · exact h.inOrder
  · intro r hr
    exact (h.past r hr).trans hclock
  · intro url
    rw [keptUnder?, hkept]
    exact h.kept url

/-- A response is received, and kept as of the moment it was received. -/
theorem Faithful.receive (h : a.Faithful policy clock) {after : Client} {r : Receipt}
    (hpolicy : after.policy = a.client.policy) (hclock : a.client.clock.NotAfter after.clock)
    (hscript : ∀ e ∈ after.script, e ∈ a.client.script) (hnow : r.receivedAt = after.clock)
    (hkept : after.kept =
      keep ⟨cacheKey r.url .null, r.response, r.receivedAt⟩ a.client.kept)
    (hreceived : a.client.receivedIn after = [r]) :
    (⟨after, a.received ++ a.client.receivedIn after⟩ : Account).Faithful policy clock := by
  rw [hreceived]
  have hpast : ∀ r ∈ a.received, r.receivedAt.NotAfter after.clock :=
    fun r hr => (h.past r hr).trans hclock
  constructor
  · exact hpolicy.trans h.policy
  · exact h.timely.of_notAfter hclock hscript
  · exact h.began.trans hclock
  · refine List.pairwise_append.mpr ⟨h.inOrder, List.pairwise_singleton _ _, ?_⟩
    intro r₁ hr₁ r₂ hr₂
    rw [List.mem_singleton.mp hr₂, hnow]
    exact hpast r₁ hr₁
  · intro r' hr'
    rcases List.mem_append.mp hr' with hr' | hr'
    · exact hpast r' hr'
    · rw [List.mem_singleton.mp hr', hnow]
      exact hclock.isReading.notAfter_self
  · intro url
    have hold : a.client.kept.find? (fun k => k.key == cacheKey url .null) = _ := h.kept url
    rw [keptUnder?, hkept, find?_keep, hold, receivedFrom_append]
    by_cases hurl : r.url = url
    · rw [if_pos hurl, List.getLast?_append, hurl]
      exact if_pos rfl
    · rw [if_neg hurl, List.append_nil]
      exact if_neg (mt cacheKey_inj.mp hurl)

theorem Faithful.forget (h : a.Faithful policy clock) :
    (⟨a.client.forget, []⟩ : Account).Faithful policy clock where
  policy := h.policy
  timely := ⟨h.timely.reading, h.timely.script⟩
  began := h.began
  inOrder := .nil
  past r hr := by cases hr
  kept _ := rfl

/-! ## Recent receipts -/

/-- What is recent is so by the last receipt. -/
theorem Faithful.exists_recent_iff (h : a.Faithful policy clock) (url : Text) :
    (∃ r ∈ a.receivedFrom url, a.IsRecent r) ↔
      ∃ last, (a.receivedFrom url).getLast? = some last ∧ a.IsRecent last := by
  constructor
  · rintro ⟨r, hr, hrecent⟩
    cases hlast : (a.receivedFrom url).getLast? with
    | none =>
        rw [List.getLast?_eq_none_iff.mp hlast] at hr
        cases hr
    | some last =>
        refine ⟨last, rfl, ?_⟩
        obtain ⟨before, hbefore⟩ := List.getLast?_eq_some_iff.mp hlast
        have horder : (a.receivedFrom url).Pairwise
            fun r r' => r.receivedAt.NotAfter r'.receivedAt := h.inOrder.filter _
        have hmem : last ∈ a.received := List.mem_of_mem_filter (List.mem_of_getLast? hlast)
        rw [hbefore] at hr horder
        rcases List.mem_append.mp hr with hr | hr
        · have hrlast := (List.pairwise_append.mp horder).2.2 r hr last List.mem_cons_self
          exact hrecent.of_notAfter hrlast (h.past last hmem) h.timely.reading.notAfter_self
        · rw [← List.mem_singleton.mp hr]
          exact hrecent
  · rintro ⟨last, hlast, hrecent⟩
    exact ⟨last, List.mem_of_getLast? hlast, hrecent⟩

/-- A call finds a fresh response just when the last receipt is recent. -/
theorem Faithful.isFresh?_eq (h : a.Faithful policy clock) {r : Receipt}
    (hr : r ∈ a.receivedFrom url) : ∃ fresh,
      a.client.isFresh? ⟨cacheKey url .null, r.response, r.receivedAt⟩ = some fresh ∧
      (fresh = true ↔ a.IsRecent r) := by
  obtain ⟨age, hage⟩ := (h.past r (List.mem_of_mem_filter hr)).exists_sub?
  refine ⟨age.isLess a.client.policy.lifetime, by rw [isFresh?, hage]; rfl, ?_⟩
  constructor
  · intro hless
    exact ⟨age, hage, hless⟩
  · rintro ⟨age', hage', hless⟩
    rwa [Option.some.inj (hage.symm.trans hage')]

theorem Faithful.get_run_of_recent (h : a.Faithful policy clock)
    (hport : Url.redacted url = .ok target) (hheaders : IsBare headers) {last : Receipt}
    (hlast : (a.receivedFrom url).getLast? = some last) (hrecent : a.IsRecent last) :
    (get url headers extras).run a.client =
      ⟨.ok last.response, a.client, [.cacheHit target]⟩ := by
  obtain ⟨fresh, hfresh, hiff⟩ := h.isFresh?_eq (List.mem_of_getLast? hlast)
  rw [hiff.mpr hrecent] at hfresh
  refine get_run_of_fresh hport ?_ hfresh
  rw [cacheKey_of_isBare hheaders, h.kept url, hlast]
  rfl

theorem Faithful.stale (h : a.Faithful policy clock) (hheaders : IsBare headers)
    (hnone : ¬∃ r ∈ a.receivedFrom url, a.IsRecent r) (k : Kept)
    (hk : a.client.keptUnder? (cacheKey url headers) = some k) :
    a.client.isFresh? k = some false := by
  rw [cacheKey_of_isBare hheaders, h.kept url] at hk
  obtain ⟨last, hlast, rfl⟩ := Option.map_eq_some_iff.mp hk
  obtain ⟨fresh, hfresh, hiff⟩ := h.isFresh?_eq (List.mem_of_getLast? hlast)
  cases fresh with
  | false => exact hfresh
  | true => exact absurd ⟨last, List.mem_of_getLast? hlast, hiff.mp rfl⟩ hnone

/-- How attempts end that are made because nothing recent was received. -/
theorem Faithful.course (h : a.Faithful policy clock) (hport : Url.redacted url = .ok target)
    (hheaders : IsBare headers) (hextras : clashes extras = false)
    (hnone : ¬∃ r ∈ a.receivedFrom url, a.IsRecent r) :
    let ended := (get url headers extras).run a.client
    let tried := tries a.client.script policy.attempts.toNat 0 none
    ended.answer = tried.2.map (answered policy) ∧
    a.client.Course (cacheKey url .null) ⟨url, policy.timeout, headers, extras⟩ tried.1 tried.2
      ended.state := by
  obtain ⟨hanswer, hcourse⟩ := attempts_course (cacheKey url headers) target url headers hextras
    policy.attempts.toNat 0 none h.timely
  rw [cacheKey_of_isBare hheaders, h.policy] at hcourse
  rw [get_run_of_stale extras hport (h.stale hheaders hnone), h.policy]
  rw [cacheKey_of_isBare hheaders] at hanswer ⊢
  rw [hanswer] at hcourse
  exact ⟨congrArg (Except.map _) hanswer, hcourse⟩

/-! ## Actions keep accounts faithful -/

/-- A fetch leaves the client as it is, or goes on with attempts. -/
theorem Faithful.fetch_cases (h : a.Faithful policy clock) (url : Text) (hheaders : IsBare headers)
    (extras : List (Value × Value)) :
    let after := Action.on a.client (.fetch url headers extras)
    after = a.client ∨ ∃ made answer, a.client.Course (cacheKey url .null)
      ⟨url, policy.timeout, headers, extras⟩ made answer after := by
  intro after
  cases hport : Url.redacted url with
  | error e => exact Or.inl (get_state_of_port hport)
  | ok target =>
      by_cases hrecent : ∃ r ∈ a.receivedFrom url, a.IsRecent r
      · obtain ⟨last, hlast, hrecent⟩ := (h.exists_recent_iff url).mp hrecent
        exact Or.inl (congrArg Ended.state (h.get_run_of_recent hport hheaders hlast hrecent))
      · cases hextras : clashes extras with
        | true =>
            have hrun := get_run_of_stale extras hport (h.stale hheaders hrecent)
            exact Or.inl ((congrArg Ended.state hrun).trans (attempts_state_of_clash hextras _ _ _))
        | false => exact Or.inr ⟨_, _, (h.course hport hheaders hextras hrecent).2⟩

theorem Faithful.fetch (h : a.Faithful policy clock) (url : Text) (hheaders : IsBare headers)
    (extras : List (Value × Value)) :
    (a.step (.fetch url headers extras)).Faithful policy clock := by
  show (⟨_, a.received ++ a.client.receivedIn _⟩ : Account).Faithful policy clock
  rcases h.fetch_cases url hheaders extras with hsame | ⟨made, answer, hcourse⟩
  · rw [hsame, receivedIn_eq_nil rfl, List.append_nil]
    exact h
  · have hscript : ∀ e ∈ (Action.on a.client (.fetch url headers extras)).script,
        e ∈ a.client.script := by
      intro e he
      rw [hcourse.script] at he
      exact List.mem_of_mem_drop he
    by_cases hfound : ∃ r, answer = .ok (.ok r)
    · obtain ⟨r, hr⟩ := hfound
      obtain ⟨hreceived, hkept⟩ := hcourse.found r hr
      exact h.receive (r := ⟨url, r, _⟩) hcourse.policy hcourse.clock hscript rfl hkept hreceived
    · obtain ⟨hreceived, hkept⟩ := hcourse.lost fun r hr => hfound ⟨r, hr⟩
      rw [hreceived, List.append_nil]
      exact h.goOn hcourse.policy hcourse.clock hscript hkept

theorem Faithful.script_fetch (h : a.Faithful policy clock) (url : Text) (hheaders : IsBare headers)
    (extras : List (Value × Value)) :
    ∀ e ∈ (a.step (.fetch url headers extras)).client.script, e ∈ a.client.script := by
  intro e he
  change e ∈ (Action.on a.client (.fetch url headers extras)).script at he
  rcases h.fetch_cases url hheaders extras with hsame | ⟨made, answer, hcourse⟩
  · rwa [hsame] at he
  · rw [hcourse.script] at he
    exact List.mem_of_mem_drop he

/-- A wait moves the clock forward, and does nothing else. -/
theorem Faithful.wait (h : a.Faithful policy clock) {seconds : Number}
    (hseconds : clock.Moves seconds) : ∃ now, a.client.clock.NotAfter now ∧
      a.step (.wait seconds) = ⟨{ a.client with clock := now }, a.received⟩ := by
  obtain ⟨now, hnow, hclock⟩ :=
    Number.exists_add? h.timely.reading ((h.began.moves_iff seconds).mpr hseconds)
  refine ⟨now, hclock, ?_⟩
  have hwait : Action.on a.client (.wait seconds) = { a.client with clock := now } := by
    simp only [Action.on, Step.run, advance, hnow]
  show (⟨Action.on a.client (.wait seconds), a.received ++ _⟩ : Account) = _
  rw [hwait, receivedIn_eq_nil, List.append_nil]
  rfl

/-- **An action keeps an account faithful.** -/
theorem Faithful.step (h : a.Faithful policy clock) {action : Action}
    (haction : action.Allowed clock) : (a.step action).Faithful policy clock := by
  cases action with
  | fetch url headers extras => exact h.fetch url haction extras
  | forget => exact h.forget
  | wait seconds =>
      obtain ⟨now, hclock, hwait⟩ := h.wait haction
      rw [hwait]
      exact h.goOn rfl hclock (fun _ he => he) rfl

theorem Faithful.steps {actions : List Action} (h : a.Faithful policy clock)
    (hactions : ∀ action ∈ actions, action.Allowed clock) :
    (a.steps actions).Faithful policy clock := by
  induction actions generalizing a with
  | nil => exact h
  | cons action rest ih =>
      rw [List.forall_mem_cons] at hactions
      exact ih (h.step hactions.1) hactions.2

/-! ## Other URLs -/

theorem Faithful.url_of_mem_receivedIn (h : a.Faithful policy clock) (hheaders : IsBare headers)
    (extras : List (Value × Value)) {r : Receipt}
    (hr : r ∈ a.client.receivedIn (Action.on a.client (.fetch url headers extras))) :
    r.url = url := by
  rcases h.fetch_cases url hheaders extras with hsame | ⟨made, answer, hcourse⟩
  · rw [hsame, receivedIn_eq_nil rfl] at hr
    cases hr
  · by_cases hfound : ∃ r, answer = .ok (.ok r)
    · obtain ⟨r', hr'⟩ := hfound
      rw [(hcourse.found r' hr').1] at hr
      rw [List.mem_singleton.mp hr]
    · rw [(hcourse.lost fun r hr => hfound ⟨r, hr⟩).1] at hr
      cases hr

/-- A fetch of one URL receives nothing from another. -/
theorem Faithful.receivedFrom_fetch (h : a.Faithful policy clock) {other : Text}
    (hother : other ≠ url) (hheaders : IsBare headers) (extras : List (Value × Value)) :
    (a.step (.fetch other headers extras)).receivedFrom url = a.receivedFrom url := by
  show (a.received ++ a.client.receivedIn _).filter _ = a.received.filter _
  rw [List.filter_append, List.append_right_eq_self, List.filter_eq_nil_iff]
  intro r hr
  rw [h.url_of_mem_receivedIn hheaders extras hr, beq_iff_eq]
  exact hother

theorem receivedFrom_wait (a : Account) (seconds : Number) (url : Text) :
    (a.step (.wait seconds)).receivedFrom url = a.receivedFrom url := by
  have hrequests : (Action.on a.client (.wait seconds)).requests = a.client.requests := by
    simp only [Action.on, Step.run, advance]
    split <;> rfl
  show (a.received ++ a.client.receivedIn _).filter _ = _
  rw [receivedIn_eq_nil hrequests, List.append_nil]
  rfl

/-- Without the fetches of other URLs, the same is received. -/
theorem Faithful.receivedFrom_steps {b : Account} {actions : List Action}
    (ha : a.Faithful policy clock) (hb : b.Faithful policy clock)
    (hsame : a.receivedFrom url = b.receivedFrom url)
    (hactions : ∀ action ∈ actions, action.Allowed clock ∧ action.url? ≠ some url) :
    (a.steps actions).receivedFrom url =
      (b.steps (actions.filter (·.url?.isNone))).receivedFrom url := by
  induction actions generalizing a b with
  | nil => exact hsame
  | cons action rest ih =>
      rw [List.forall_mem_cons] at hactions
      obtain ⟨⟨hallowed, hurl⟩, hrest⟩ := hactions
      cases action with
      | fetch other headers extras =>
          have hother : other ≠ url := fun heq => hurl (congrArg some heq)
          refine ih (ha.step hallowed) hb ?_ hrest
          rw [ha.receivedFrom_fetch hother hallowed, hsame]
      | forget => exact ih (ha.step hallowed) (hb.step trivial) rfl hrest
      | wait seconds =>
          refine ih (ha.step hallowed) (hb.step hallowed) ?_ hrest
          rw [receivedFrom_wait, receivedFrom_wait, hsame]

/-! ## How calls are answered -/

/-- What a call for a URL does: if a recent response was received from there, it answers by the last
one and makes no request; otherwise it makes requests, and what it answers was received with them,
or is that they all failed. -/
structure Answers (past : Account) (url : Text) (headers : Value) (extras : List (Value × Value))
    (ended : Ended Fault Client Response) : Prop where
  no_request_iff : ended.state.requests = past.client.requests ↔
    ∃ r ∈ past.receivedFrom url, past.IsRecent r
  recent : (∃ r ∈ past.receivedFrom url, past.IsRecent r) →
    ∃ last, (past.receivedFrom url).getLast? = some last ∧ ended.answer = .ok last.response
  requests : (¬∃ r ∈ past.receivedFrom url, past.IsRecent r) →
    ∃ made : ℕ, 1 ≤ made ∧ (made : ℤ) ≤ past.client.policy.attempts ∧
      ended.state.requests = past.client.requests ++
        List.replicate made ⟨url, past.client.policy.timeout, headers, extras⟩
  new : (¬∃ r ∈ past.receivedFrom url, past.IsRecent r) → ∀ r, ended.answer = .ok r →
    past.client.receivedIn ended.state = [⟨url, r, ended.state.clock⟩] ∨
    past.client.receivedIn ended.state = [] ∧ ∃ reason, r = givenUp past.client.policy reason
  forgotten : (¬∃ r ∈ past.receivedFrom url, past.IsRecent r) →
    ended.answer = ((get url headers extras).run past.client.forget).answer
  ends : past.client.policy.attempts ≤ 1025 → (∀ e ∈ past.client.script, e.IsExpected) →
    ∃ r, ended.answer = .ok r

theorem Faithful.answers (h : a.Faithful policy clock) (hattempts : 1 ≤ policy.attempts)
    (hport : Url.redacted url = .ok target) (hheaders : IsBare headers)
    (hextras : clashes extras = false) :
    a.Answers url headers extras ((get url headers extras).run a.client) := by
  by_cases hrecent : ∃ r ∈ a.receivedFrom url, a.IsRecent r
  · obtain ⟨last, hlast, hlastRecent⟩ := (h.exists_recent_iff url).mp hrecent
    rw [h.get_run_of_recent hport hheaders hlast hlastRecent]
    constructor
    · exact iff_of_true rfl hrecent
    · exact fun _ => ⟨last, hlast, rfl⟩
    · exact fun hnone => absurd hrecent hnone
    · exact fun hnone => absurd hrecent hnone
    · exact fun hnone => absurd hrecent hnone
    · exact fun _ _ => ⟨_, rfl⟩
  · obtain ⟨hanswer, hcourse⟩ := h.course hport hheaders hextras hrecent
    have hmade : 1 ≤ (tries a.client.script policy.attempts.toNat 0 none).1 :=
      tries_pos (by omega) _ _
    constructor
    · refine iff_of_false ?_ hrecent
      intro hsame
      have hlength := congrArg List.length (hcourse.requests.symm.trans hsame)
      rw [List.length_append, List.length_replicate] at hlength
      omega
    · exact fun h => absurd h hrecent
    · intro _
      refine ⟨_, hmade, ?_, ?_⟩
      · have hle := tries_le a.client.script policy.attempts.toNat 0 none
        rw [h.policy]
        omega
      · rw [h.policy]
        exact hcourse.requests
    · intro _ r hr
      rw [hanswer] at hr
      rw [h.policy]
      by_cases hfound : ∃ r, (tries a.client.script policy.attempts.toNat 0 none).2 = .ok (.ok r)
      · obtain ⟨r', hr'⟩ := hfound
        rw [hr'] at hr
        obtain rfl : r' = r := Except.ok.inj hr
        exact Or.inl (hcourse.found r' hr').1
      · refine Or.inr ⟨(hcourse.lost fun r hr => hfound ⟨r, hr⟩).1, ?_⟩
        cases hresult : (tries a.client.script policy.attempts.toNat 0 none).2 with
        | error fault =>
            rw [hresult] at hr
            cases hr
        | ok result =>
            cases result with
            | ok r' => exact absurd ⟨r', hresult⟩ hfound
            | error reason =>
                rw [hresult] at hr
                exact ⟨reason, (Except.ok.inj hr).symm⟩
    · intro _
      have hforgotten : ¬∃ r ∈ (⟨a.client.forget, []⟩ : Account).receivedFrom url,
          (⟨a.client.forget, []⟩ : Account).IsRecent r := by
        rintro ⟨r, hr, -⟩
        cases hr
      rw [hanswer, (h.forget.course hport hheaders hextras hforgotten).1]
      rfl
    · intro hfew hexpected
      rw [h.policy] at hfew
      have hpauses : policy.attempts.toNat + 0 ≤ 1025 := by omega
      obtain ⟨result, hresult⟩ := exists_tries hexpected hpauses none
      rw [hanswer, hresult]
      exact ⟨_, rfl⟩

/-- **A call is answered by the last response from its URL as long as that is recent, and by
requests otherwise.** This holds after calls on any URLs, waits and forgetting in any order, with
any script of responses and failures. Calls on other URLs in between do not change the answer, but
for the time and the exchanges that they take. -/
theorem get_answered_by_last_recent {policy : FetchPolicy} {clock : Number}
    {script : List Exchange} {actions : List Action} {url target : Text} {headers : Value}
    {extras : List (Value × Value)} (hattempts : 1 ≤ policy.attempts) (hclock : clock.IsReading)
    (hscript : ∀ e ∈ script, clock.Moves e.took)
    (hactions : ∀ action ∈ actions, action.Allowed clock)
    (hport : Url.redacted url = .ok target) (hheaders : IsBare headers)
    (hextras : clashes extras = false) :
    let past := (opened policy clock script).steps actions
    past.Answers url headers extras ((get url headers extras).run past.client) ∧
    ∀ others : List Action,
      (∀ action ∈ others, action.Allowed clock ∧ action.url? ≠ some url) →
      let after := past.steps others
      let without := past.steps (others.filter (·.url?.isNone))
      ((get url headers extras).run after.client).answer =
        ((get url headers extras).run { without.client with
          clock := after.client.clock, script := after.client.script }).answer := by
  intro past
  have hpast : past.Faithful policy clock := (faithful_opened hclock hscript).steps hactions
  refine ⟨hpast.answers hattempts hport hheaders hextras, ?_⟩
  intro others hothers after without
  have hafter : after.Faithful policy clock := hpast.steps fun action h => (hothers action h).1
  have hwithout : without.Faithful policy clock :=
    hpast.steps fun action h => (hothers action (List.mem_of_mem_filter h)).1
  have hsame := hpast.receivedFrom_steps hpast rfl hothers
  symm
  refine get_answer_of_alike (d := { without.client with
    clock := after.client.clock, script := after.client.script }) hafter.timely ?_ rfl rfl ?_
    hport hextras
  · exact hwithout.policy.trans hafter.policy.symm
  · rw [cacheKey_of_isBare hheaders, hafter.kept url]
    refine (hwithout.kept url).trans ?_
    rw [hsame]

/-- A page is found at the second request, another one is missing, and then nothing comes back. -/
def visited : List Exchange :=
  [⟨.response ⟨503, .map [], []⟩, .int 2⟩, ⟨.response ⟨200, .map [], "MIT".toList⟩, .int 3⟩,
    ⟨.response ⟨404, .map [], []⟩, .int 1⟩, ⟨.timeout, .int 30⟩, ⟨.timeout, .int 30⟩]

/-- The page that is found. -/
def page : Text := "https://example.org/licenses".toList

/-- Both pages are fetched, and seconds go by. -/
def visits (seconds : ℤ) : List Action :=
  [.fetch page .null [], .fetch "https://example.org/".toList .null [], .wait (.int seconds)]

theorem visits_allowed {seconds : ℤ} (h : 0 ≤ seconds) :
    ∀ action ∈ visits seconds, action.Allowed (.int 0) := by
  simp [visits, Action.Allowed, IsBare, headersKey, Number.Moves, h]

/-- The page was received after five seconds and lasts for three hundred. -/
theorem page_answered_while_recent :
    let past := (opened .builtin (.int 0) visited).steps (visits 298)
    let late := (opened .builtin (.int 0) visited).steps (visits 299)
    (∃ r, ((get page .null []).run past.client).answer = .ok r ∧ r.status = 200) ∧
    ((get page .null []).run past.client).state.requests = past.client.requests ∧
    ((get page .null []).run late.client).state.requests ≠ late.client.requests := by
  intro past late
  have hscript : ∀ e ∈ visited, (Number.int 0).Moves e.took := by
    simp [visited, Number.Moves]
  have hport : Url.redacted page = .ok page := by decide +kernel
  have hanswers : ∀ seconds : ℤ, 0 ≤ seconds →
      let past := (opened .builtin (.int 0) visited).steps (visits seconds)
      past.Answers page .null [] ((get page .null []).run past.client) := by
    intro seconds hseconds
    have hbare : IsBare .null := rfl
    have hclock : (Number.int 0).IsReading := trivial
    exact (get_answered_by_last_recent (by decide) hclock hscript (visits_allowed hseconds) hport
      hbare rfl).1
  have hpast : past.Answers page .null [] ((get page .null []).run past.client) :=
    hanswers 298 (by decide)
  have hlate : late.Answers page .null [] ((get page .null []).run late.client) :=
    hanswers 299 (by decide)
  -- at both times the page is all that was received from there, at five
  have hreceived : ∀ seconds, seconds = 298 ∨ seconds = 299 →
      (((opened .builtin (.int 0) visited).steps (visits seconds)).receivedFrom page).map
        (fun r => (r.response.status, r.receivedAt)) = [(200, .int 5)] := by
    rintro seconds (rfl | rfl) <;> decide +kernel
  have hpastReceived : (past.receivedFrom page).map
      (fun r => (r.response.status, r.receivedAt)) = [(200, .int 5)] := hreceived 298 (Or.inl rfl)
  have hlateReceived : (late.receivedFrom page).map
      (fun r => (r.response.status, r.receivedAt)) = [(200, .int 5)] := hreceived 299 (Or.inr rfl)
  obtain ⟨r, hr, hpage⟩ := List.map_eq_singleton_iff.mp hpastReceived
  obtain ⟨r', hr', hpage'⟩ := List.map_eq_singleton_iff.mp hlateReceived
  obtain ⟨hstatus, hmoment⟩ := Prod.mk.inj hpage
  obtain ⟨-, hmoment'⟩ := Prod.mk.inj hpage'
  have hclocks : past.client.clock = .int 304 ∧ past.client.policy.lifetime = .int 300 ∧
      late.client.clock = .int 305 ∧ late.client.policy.lifetime = .int 300 := by
    decide +kernel
  obtain ⟨hclock, hlifetime, hclock', hlifetime'⟩ := hclocks
  have hrecent : ∃ r ∈ past.receivedFrom page, past.IsRecent r := by
    refine ⟨r, ?_, .int 299, ?_, ?_⟩
    · rw [hr]
      exact List.mem_cons_self
    · rw [hclock, hmoment]
      rfl
    · rw [hlifetime]
      rfl
  refine ⟨?_, hpast.no_request_iff.mpr hrecent, ?_⟩
  · obtain ⟨last, hlast, hanswer⟩ := hpast.recent hrecent
    rw [hr] at hlast
    rw [← Option.some.inj hlast] at hanswer
    exact ⟨r.response, hanswer, hstatus⟩
  · intro hnothing
    obtain ⟨found, hfound, age, hage, hless⟩ := hlate.no_request_iff.mp hnothing
    rw [hr'] at hfound
    rw [List.mem_singleton.mp hfound, hmoment', hclock'] at hage
    rw [hlifetime', ← Option.some.inj hage] at hless
    cases hless

end Account
end DistroBallot
