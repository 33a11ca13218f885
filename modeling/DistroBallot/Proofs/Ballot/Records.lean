import DistroBallot.Proofs.Ballot.Polling
import DistroBallot.Settings.Checking
import Mathlib

/-!
# Records of votes in the log

An event is told apart by the fields of its record (`Log.Event.isKind`): votes and verdicts on
projects are the *voting* records, and only a checker tells them. The record of a vote shows what
the report says (`vote_shows`).

What the evaluators of a checker tell on the way is *quiet*: it has no voting record
(`Checker.Quiet`). Steps made of quiet steps are quiet, and so the checkers under settings are, whose
evaluators look for markers, read expressions and download the free identifiers.
-/

namespace DistroBallot
namespace Log
namespace Event

/-! ## Kinds of records -/

/-- A field of the record of an event, if it is set. -/
def field? (e : Event) (key : String) : Option Value :=
  Value.lookup? key.toList (setFields e.context)

/-- Whether the record of an event names this kind of event. -/
def isKind (kind : String) (e : Event) : Bool :=
  match e.field? "event" with
  | some (.text t) => t == kind.toList
  | _ => false

/-- Whether the record tells a vote or the verdict on a project. -/
def isVoting (e : Event) : Bool := e.isKind "vote" || e.isKind "project_verdict"

theorem isKind_vote (r : VoteReport) : (vote r).isKind "vote" = true := rfl

theorem eq_vote_of_isKind {e : Event} (h : e.isKind "vote" = true) : ∃ r, e = vote r := by
  cases e with
  | vote r => exact ⟨r, rfl⟩
  | _ => exact absurd h Bool.false_ne_true

theorem eq_projectVerdict_of_isKind {e : Event} (h : e.isKind "project_verdict" = true) :
    ∃ name votes freeVotes verdict, e = projectVerdict name votes freeVotes verdict := by
  cases e with
  | projectVerdict name votes freeVotes verdict => exact ⟨name, votes, freeVotes, verdict, rfl⟩
  | _ => exact absurd h Bool.false_ne_true

end Event

/-- A log that shows a kind of record has all records of that kind. -/
theorem filter_visible {kind : String} {threshold : Int} {events : List Event}
    (h : ∀ e : Event, e.isKind kind = true → shows threshold e.level = true) :
    (visible threshold events).filter (Event.isKind kind) = events.filter (Event.isKind kind) := by
  rw [visible, List.filter_filter]
  refine List.filter_congr fun e _ => ?_
  cases hkind : e.isKind kind with
  | false => rfl
  | true => rw [h e hkind, Bool.true_and]

theorem shows_vote {e : Event} (h : e.isKind "vote" = true) : shows debugLevel e.level = true := by
  obtain ⟨r, rfl⟩ := Event.eq_vote_of_isKind h
  rfl

theorem shows_projectVerdict {e : Event} (h : e.isKind "project_verdict" = true) :
    shows infoLevel e.level = true := by
  obtain ⟨name, votes, freeVotes, verdict, rfl⟩ := Event.eq_projectVerdict_of_isKind h
  rfl

end Log

/-! ## Records and reports -/

/-- A record shows of a report whose vote it is, on which package, and the verdict. -/
def Log.Event.Shows (e : Log.Event) (r : VoteReport) : Prop :=
  ∀ key ∈ ["repository", "repo", "package", "verdict"], e.field? key = r.toValue.field? key

theorem displayName_ne_null (p : Package) : p.displayName ≠ .null := by
  have horElse : ∀ v w : Value, w ≠ .null → v.orElse w ≠ .null := by
    intro v w hw
    unfold Value.orElse
    split
    · next h =>
        rintro rfl
        cases h
    · exact hw
  exact horElse _ _ (horElse _ _ (horElse _ _ Value.noConfusion))

/-- The record of a vote shows the report. -/
theorem vote_shows (r : VoteReport) : (Log.Event.vote r).Shows r := by
  have hset : Log.setFields (Log.Event.vote r).context = (Log.Event.vote r).context := by
    rw [Log.setFields, List.filter_eq_self]
    intro field hfield
    have hname := displayName_ne_null r.package
    simp only [Log.Event.context, List.mem_cons, List.not_mem_nil, or_false] at hfield
    rcases hfield with rfl | rfl | rfl | rfl | rfl | rfl
    · rfl
    · rfl
    · rfl
    · rfl
    · cases hvalue : r.package.displayName with
      | null => exact absurd hvalue hname
      | _ => rfl
    · rfl
  intro key hkey
  rw [Log.Event.field?, hset]
  simp only [List.mem_cons, List.not_mem_nil, or_false] at hkey
  rcases hkey with rfl | rfl | rfl | rfl <;> rfl

/-! ## Quiet steps -/

variable {ε σ τ α β : Type}

namespace Step

/-- No voting record is told on the way. -/
def Quiet (x : Step ε σ α) : Prop := ∀ s, ∀ e ∈ (x.run s).events, e.isVoting = false

theorem quiet_pure (a : α) : (pure a : Step ε σ α).Quiet := by
  intro s e he
  cases he

theorem quiet_fail (e : ε) : (fail e : Step ε σ α).Quiet := by
  intro s e he
  cases he

theorem quiet_state : (state : Step ε σ σ).Quiet := by
  intro s e he
  cases he

theorem quiet_modify (f : σ → σ) : (modify f : Step ε σ Unit).Quiet := by
  intro s e he
  cases he

theorem quiet_tell {event : Log.Event} (h : event.isVoting = false) :
    (tell event : Step ε σ Unit).Quiet := by
  intro s e he
  obtain rfl : e = event := List.mem_singleton.mp he
  exact h

theorem quiet_bind {x : Step ε σ α} {f : α → Step ε σ β} (hx : x.Quiet)
    (hf : ∀ a, (f a).Quiet) : (x >>= f).Quiet := by
  intro s e he
  cases hrun : x.run s with
  | mk answer t events =>
      have hevents := hx s
      rw [hrun] at hevents
      cases answer with
      | error fault =>
          rw [run_bind_of_error hrun] at he
          exact hevents e he
      | ok a =>
          rw [run_bind_of_ok hrun] at he
          rcases List.mem_append.mp he with he | he
          · exact hevents e he
          · exact hf a t e he

end Step

/-! ## Quiet downloads -/

namespace Client

open Step

theorem quiet_advance (seconds : Number) : (advance seconds).Quiet := by
  intro c e he
  unfold run advance at he
  split at he <;> cases he

theorem quiet_freshUnder (key : Text) : (freshUnder key).Quiet := by
  intro c e he
  unfold run freshUnder at he
  repeat' split at he
  all_goals cases he

theorem quiet_pauseBefore (number : Nat) : (pauseBefore number).Quiet := by
  cases number with
  | zero => exact quiet_pure ()
  | succ failed =>
      rw [pauseBefore]
      split
      · exact quiet_modify _
      · exact quiet_fail _

theorem quiet_exchange (request : Request) : (exchange request).Quiet :=
  quiet_bind quiet_state fun _ => quiet_bind (quiet_modify _) fun _ =>
    quiet_bind (quiet_advance _) fun _ => quiet_pure _

theorem quiet_attempt (key target url : Text) (headers : Value) (extras : List (Value × Value))
    (number : Nat) : (attempt key target url headers extras number).Quiet := by
  refine quiet_bind (quiet_pauseBefore number) fun _ => quiet_bind (quiet_tell rfl) fun _ => ?_
  split
  · exact quiet_fail _
  · refine quiet_bind quiet_state fun _ => quiet_bind (quiet_exchange _) fun done => ?_
    cases done.outcome with
    | response r =>
        dsimp only
        split
        · exact quiet_pure _
        · exact quiet_bind (quiet_modify _) fun _ => quiet_bind (quiet_tell rfl) fun _ =>
            quiet_pure _
    | timeout => exact quiet_bind (quiet_tell rfl) fun _ => quiet_pure _
    | failure reason => exact quiet_bind (quiet_tell rfl) fun _ => quiet_pure _
    | fault message => exact quiet_fail _

theorem quiet_attempts (key target url : Text) (headers : Value) (extras : List (Value × Value))
    (left number : Nat) (reason : Option Text) :
    (attempts key target url headers extras left number reason).Quiet := by
  induction left generalizing number reason with
  | zero => exact quiet_pure _
  | succ left ih =>
      refine quiet_bind (quiet_attempt key target url headers extras number) fun result => ?_
      cases result with
      | usable r => exact quiet_pure _
      | again reason => exact ih (number + 1) (some reason)

theorem quiet_get (url : Text) (headers : Value) (extras : List (Value × Value)) :
    (get url headers extras).Quiet := by
  unfold get
  dsimp only
  split
  · exact quiet_fail _
  · refine quiet_bind (quiet_freshUnder _) fun found => ?_
    cases found with
    | some k => exact quiet_bind (quiet_tell rfl) fun _ => quiet_pure _
    | none =>
        refine quiet_bind quiet_state fun c => ?_
        refine quiet_bind (quiet_attempts _ _ _ _ _ _ _ _) fun result => ?_
        cases result <;> exact quiet_pure _

end Client

theorem quiet_download (url : Text) (categories : List Text) :
    (License.Groups.download url categories).Quiet := by
  refine Step.quiet_bind ?_ fun answer => ?_
  · exact Step.quiet_bind (Client.quiet_get _ _ _) fun _ => Step.quiet_pure _
  · obtain ⟨status, body⟩ := answer
    dsimp only
    repeat' split
    all_goals first
      | exact Step.quiet_fail _
      | exact Step.quiet_bind (Step.quiet_tell rfl) fun _ => Step.quiet_pure _

/-! ## Quiet evaluators -/

namespace Checker

/-- The evaluators tell no voting record. -/
def Quiet (checker : Checker σ) : Prop :=
  ∀ ref evaluator, checker.evaluators ref = some evaluator → ∀ license, (evaluator license).Quiet

theorem quiet_ask {checker : Checker σ} (h : checker.Quiet) (s : σ) (q : Question) :
    ∀ e ∈ (checker.ask s q).2, e.isVoting = false := by
  intro e he
  rw [ask] at he
  cases hevaluator : checker.evaluators q.1 with
  | none => simp [hevaluator] at he
  | some evaluator =>
      rw [hevaluator] at he
      exact h q.1 evaluator hevaluator q.2 s e he

theorem quiet_askAll {checker : Checker σ} (h : checker.Quiet) (s : σ)
    (questions : List Question) : ∀ e ∈ (checker.askAll s questions).2, e.isVoting = false := by
  induction questions generalizing s with
  | nil =>
      intro e he
      cases he
  | cons q rest ih =>
      intro e he
      rw [askAll, List.mem_append] at he
      rcases he with he | he
      · exact quiet_ask h s q e he
      · exact ih _ e he

end Checker

theorem quiet_ofIdentifiers (identifiers : Option IdentifierSet) (license : Text) :
    (Evaluator.ofIdentifiers identifiers license : Step Fault σ Verdict).Quiet := by
  unfold Evaluator.ofIdentifiers
  split
  · exact Step.quiet_bind (Step.quiet_tell rfl) fun _ => Step.quiet_pure _
  · split
    · exact Step.quiet_pure _
    · exact Step.quiet_fail _

/-- A look into the cache tells what the fetch tells, and that the identifiers are unavailable. -/
theorem quiet_cache {fetch : Option (Step Fault σ (List Text))}
    (h : ∀ x, fetch = some x → x.Quiet) : (License.IdentifierCache.get fetch).Quiet := by
  intro c e he
  unfold Step.run License.IdentifierCache.get at he
  split at he
  · cases he
  · cases he
  · next fetch _ =>
      have hfetch := h fetch rfl c.source
      rw [Step.run] at hfetch
      unfold License.IdentifierCache.settle at he
      split at he
      · next heq => exact hfetch e (by rw [heq]; exact he)
      · next heq =>
          rcases List.mem_append.mp he with he | he
          · exact hfetch e (by rw [heq]; exact he)
          · obtain rfl := List.mem_singleton.mp he
            rfl
      · next heq => exact hfetch e (by rw [heq]; exact he)

theorem quiet_standard {fetch : Option (Step Fault σ (List Text))}
    (h : ∀ x, fetch = some x → x.Quiet) {ref : EvaluatorRef}
    {evaluator : Evaluator (License.IdentifierCache σ)}
    (hevaluator : Evaluator.standard fetch ref = some evaluator) (license : Text) :
    (evaluator license).Quiet := by
  unfold Evaluator.standard at hevaluator
  split at hevaluator
  · obtain rfl := Option.some.inj hevaluator
    exact Step.quiet_pure _
  · obtain rfl := Option.some.inj hevaluator
    exact Step.quiet_pure _
  · obtain rfl := Option.some.inj hevaluator
    exact Step.quiet_bind (quiet_cache h) fun identifiers => quiet_ofIdentifiers identifiers license
  · cases hevaluator

/-- **The evaluators under settings tell no voting record,** also when they download the free
identifiers. -/
theorem quiet_checker (settings : Settings) (offline : Bool) (threshold : Value)
    (hook : Option (List VoteReport → Option Fault)) :
    (settings.checker offline threshold hook).Quiet := by
  intro ref evaluator hevaluator license
  refine quiet_standard (fun fetch hfetch => ?_) hevaluator license
  cases offline with
  | true => cases hfetch
  | false =>
      obtain rfl := Option.some.inj hfetch
      exact Step.quiet_bind (quiet_download _ _) fun _ => Step.quiet_pure _

end DistroBallot
