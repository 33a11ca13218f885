import DistroBallot.Command.Run
import DistroBallot.Proofs.Ballot.Steady
import Mathlib

/-!
# Checking records together and alone

All records of an input share one session: the cache of the evaluators with the client in it, and
the reports. Offline the cache stays empty, and no check looks at more of it than that or changes it
(`Checker.check_ignores`); the reports are dropped before each record. So a record comes to a line,
or to the fault that ends the run, whatever the records before it (`Check.exists_comesTo`), and the
checks on a list print its lines up to the first fault (`Check.checkRecords_run`).

Two runs of `check` are compared by what they read before their first record (`Check.reading`). What
stops the run on a list before that, such as a log file that cannot be opened, stops the run on each
record alone as well; but where the list is empty there is no such record, and that run fails all
the same.
-/

namespace DistroBallot

open License

variable {ε σ τ κ α β : Type}

/-! ## What a step leaves -/

namespace Step

/-- The step leaves what `view` shows of the state. -/
def Keeps (view : σ → τ) (x : Step ε σ α) : Prop := ∀ s, view (x.run s).state = view s

theorem keeps_bind {view : σ → τ} {x : Step ε σ α} {f : α → Step ε σ β} (hx : x.Keeps view)
    (hf : ∀ a, (f a).Keeps view) : (x >>= f).Keeps view := by
  intro s
  have hs := hx s
  cases hrun : x.run s with
  | mk answer t events =>
      rw [hrun] at hs
      cases answer with
      | error e => rw [run_bind_of_error hrun, hs]
      | ok a => rw [run_bind_of_ok hrun, hf a t, hs]

/-- Each fault that can stop the step is of this kind. -/
def FailsBy (kind : ε → Prop) (x : Step ε σ α) : Prop :=
  ∀ s e, (x.run s).answer = .error e → kind e

theorem failsBy_bind {kind : ε → Prop} {x : Step ε σ α} {f : α → Step ε σ β}
    (hx : x.FailsBy kind) (hf : ∀ a, (f a).FailsBy kind) : (x >>= f).FailsBy kind := by
  intro s e h
  cases hrun : x.run s with
  | mk answer t events =>
      cases answer with
      | error e' =>
          rw [run_bind_of_error hrun] at h
          obtain rfl := Except.error.inj h
          exact hx s e' (by rw [hrun])
      | ok a =>
          rw [run_bind_of_ok hrun] at h
          exact hf a t e h

theorem failsBy_mapFault {δ : Type} (f : ε → δ) (x : Step ε σ α) :
    (x.mapFault f).FailsBy fun e => ∃ e', e = f e' := by
  intro s e h
  rw [run_mapFault] at h
  cases hanswer : (x.run s).answer with
  | error e' =>
      rw [hanswer] at h
      exact ⟨e', (Except.error.inj h).symm⟩
  | ok a =>
      rw [hanswer] at h
      cases h

/-- A state has two parts that `join` brings together. The step leaves the first part, if that is an
admitted one, and does the same whichever it is. -/
def Ignores (admitted : κ → Prop) (join : κ → τ → σ) (x : Step ε σ α) : Prop :=
  ∀ t, ∃ answer t' events, ∀ k, admitted k → x.run (join k t) = ⟨answer, join k t', events⟩

variable {admitted : κ → Prop} {join : κ → τ → σ}

theorem ignores_pure (a : α) : (pure a : Step ε σ α).Ignores admitted join :=
  fun t => ⟨.ok a, t, [], fun _ _ => rfl⟩

theorem ignores_fail (e : ε) : (fail e : Step ε σ α).Ignores admitted join :=
  fun t => ⟨.error e, t, [], fun _ _ => rfl⟩

theorem ignores_tell (event : Log.Event) : (tell event : Step ε σ Unit).Ignores admitted join :=
  fun t => ⟨.ok (), t, [event], fun _ _ => rfl⟩

theorem ignores_ofExcept (x : Except ε α) : (ofExcept x : Step ε σ α).Ignores admitted join :=
  fun t => ⟨x, t, [], fun _ _ => rfl⟩

theorem ignores_bind {x : Step ε σ α} {f : α → Step ε σ β} (hx : x.Ignores admitted join)
    (hf : ∀ a, (f a).Ignores admitted join) : (x >>= f).Ignores admitted join := by
  intro t
  obtain ⟨answer, t', events, hrun⟩ := hx t
  cases answer with
  | error e =>
      refine ⟨.error e, t', events, ?_⟩
      intro k hk
      exact run_bind_of_error (hrun k hk)
  | ok a =>
      obtain ⟨last, t'', more, hlast⟩ := hf a t'
      refine ⟨last, t'', events ++ more, ?_⟩
      intro k hk
      rw [run_bind_of_ok (hrun k hk), hlast k hk]

end Step

/-! ## Checks that ignore the evaluators -/

/-- The evaluators answer the same at every admitted state, and leave it. -/
def Checker.Indifferent (checker : Checker σ) (admitted : σ → Prop) : Prop :=
  ∀ ref evaluator, checker.evaluators ref = some evaluator →
    ∀ license, (evaluator license).Ignores admitted fun s (_ : Unit) => s

namespace Checker

variable {checker : Checker σ} {admitted : σ → Prop}

theorem firstNotFree_ignores {evaluator : Evaluator σ}
    (h : ∀ license, (evaluator license).Ignores admitted fun s (_ : Unit) => s)
    (licenses : List Text) :
    (firstNotFree evaluator licenses).Ignores admitted fun s (_ : Unit) => s := by
  induction licenses with
  | nil => exact Step.ignores_pure _
  | cons license rest ih =>
      rw [firstNotFree]
      apply Step.ignores_bind (h license)
      intro verdict
      split
      · exact ih
      · exact Step.ignores_pure _

theorem vote_ignores (h : checker.Indifferent admitted) (repository : Repository)
    (package : Package) :
    (checker.vote repository package).Ignores admitted fun s (_ : Unit) => s := by
  unfold vote
  split
  · exact Step.ignores_pure _
  · split
    · next evaluator hevaluator => exact firstNotFree_ignores (h _ evaluator hevaluator) _
    · exact Step.ignores_fail _
  · exact Step.ignores_fail _

/-- The hook goes by the reports alone. -/
theorem report_ignores (r : VoteReport) : (checker.report r).Ignores admitted Session.mk := by
  intro reports
  cases hobjection : checker.objection? reports r with
  | none =>
      refine ⟨.ok (), checker.collect reports r, [.vote r], ?_⟩
      intro s _
      rw [report_run, hobjection]
  | some fault =>
      refine ⟨.error fault, checker.collect reports r, [.vote r], ?_⟩
      intro s _
      rw [report_run, hobjection]

theorem castVote_ignores (h : checker.Indifferent admitted) (repository : Repository)
    (package : Package) : (checker.castVote repository package).Ignores admitted Session.mk := by
  have hvote : (evaluating (checker.vote repository package)).Ignores admitted Session.mk := by
    intro reports
    obtain ⟨answer, _, events, hrun⟩ := vote_ignores h repository package ()
    refine ⟨answer, reports, events, ?_⟩
    intro s hs
    rw [evaluating, Step.run_within, hrun s hs]
  apply Step.ignores_bind hvote
  intro verdict
  apply Step.ignores_bind (report_ignores _)
  intro _
  exact Step.ignores_pure _

theorem repositoryOf_ignores (package : Package) :
    (checker.repositoryOf package).Ignores admitted Session.mk := by
  unfold repositoryOf
  split
  · exact Step.ignores_pure _
  · exact Step.ignores_fail _

theorem poll_ignores (h : checker.Indifferent admitted) (packages : List Package) (t : Tally) :
    (checker.poll t packages).Ignores admitted Session.mk := by
  induction packages generalizing t with
  | nil => exact Step.ignores_pure _
  | cons package rest ih =>
      rw [poll]
      apply Step.ignores_bind (repositoryOf_ignores package)
      intro found
      rcases found with _ | ⟨place, repository⟩
      · exact ih t
      · dsimp only
        split
        · exact ih t
        · apply Step.ignores_bind (castVote_ignores h repository package)
          intro verdict
          exact ih (t.count place verdict)

/-- **A check does the same at every admitted state of the evaluators.** -/
theorem check_ignores (h : checker.Indifferent admitted) (subject : Subject) :
    (checker.check subject).Ignores admitted Session.mk := by
  cases subject with
  | other content => exact Step.ignores_fail _
  | package p =>
      apply Step.ignores_bind (repositoryOf_ignores p)
      intro found
      rcases found with _ | ⟨place, repository⟩
      · exact Step.ignores_pure _
      · exact castVote_ignores h repository p
  | project p =>
      apply Step.ignores_bind (poll_ignores h p.packages .start)
      intro t
      apply Step.ignores_bind (Step.ignores_ofExcept _)
      intro verdict
      apply Step.ignores_bind (Step.ignores_tell _)
      intro _
      exact Step.ignores_pure _

/-- With no way to fetch, all that an evaluator could see of an empty cache is that it is empty. -/
theorem indifferent_of_standard {checker : Checker (IdentifierCache σ)}
    (h : checker.evaluators = Evaluator.standard none) :
    checker.Indifferent fun c => c.held = none := by
  intro ref evaluator hevaluator license
  rw [h] at hevaluator
  unfold Evaluator.standard at hevaluator
  split at hevaluator
  · obtain rfl := Option.some.inj hevaluator
    exact Step.ignores_pure _
  · obtain rfl := Option.some.inj hevaluator
    exact Step.ignores_pure _
  · obtain rfl := Option.some.inj hevaluator
    intro _
    refine ⟨.ok .unknown, (), [.abstention], ?_⟩
    intro c hc
    rw [Evaluator.gentoo, Step.run_bind_of_ok (cache_run_of_settled (Or.inr rfl)), hc]
    rfl
  · cases hevaluator

end Checker

namespace Check

/-! ## Records -/

/-- The cache of the session is empty. -/
def State.IsBare (s : State) : Prop := s.session.evaluation.held = none

/-- How a check on a record ends that comes to `line`. -/
def endOf (line : Except CommandFault String) : Except Halt Unit :=
  (line.mapError Halt.fault).map fun _ => ()

/-- What a check on a record prints that comes to `line`. -/
def printedOf (line : Except CommandFault String) : String := line.toOption.getD ""

/-- Whatever went before, a check on this record comes to `line`: the line is printed, or the fault
ends the run. -/
def ComesTo (checker : Checker (IdentifierCache Client)) (record : Value)
    (line : Except CommandFault String) : Prop :=
  ∀ s : State, s.IsBare → ∃ t events, (checkRecord checker record).run s = ⟨endOf line, t, events⟩ ∧
    t.IsBare ∧ t.output = s.output ++ printedOf line

theorem checkRecord_run_of_error {checker : Checker (IdentifierCache Client)} {record : Value}
    {e : RecordError} (h : Subject.ofRecord record = .error e) (s : State) :
    (checkRecord checker record).run s = ⟨.error (.fault (.check (.record e))), s, []⟩ := by
  rw [checkRecord, h]
  exact Step.run_bind_of_error (Step.run_ofExcept _ s)

/-- The check starts without reports, whatever was collected before. -/
theorem checkRecord_run_of_ok {checker : Checker (IdentifierCache Client)} {record : Value}
    {subject : Subject} {s : State} {answer : Except Fault Verdict}
    {session : Session (IdentifierCache Client)} {events : List Log.Event}
    (h : Subject.ofRecord record = .ok subject)
    (hcheck : (checker.check subject).run ⟨s.session.evaluation, []⟩ = ⟨answer, session, events⟩) :
    (checkRecord checker record).run s =
      match answer with
      | .error fault => ⟨.error (.fault (.check fault)), { s with session }, events⟩
      | .ok verdict =>
        ⟨.ok (), { s with
          session, output := s.output ++ resultLine subject session.reports verdict ++ "\n" },
          events⟩ := by
  have hrun : (((checker.check subject).mapFault fun e => Halt.fault (.check e)).within
      State.session fun s session => { s with session }).run (forgetReports s) =
      ⟨answer.mapError fun e => .fault (.check e), { s with session }, events⟩ := by
    rw [Step.run_within, Step.run_mapFault]
    simp only [forgetReports, hcheck]
  rw [checkRecord, h]
  refine (Step.run_bind_of_ok (Step.run_ofExcept _ s)).trans ?_
  rw [Step.run_bind_of_ok (Step.run_modify _ s)]
  cases answer with
  | error fault =>
      rw [Step.run_bind_of_error hrun]
      rfl
  | ok verdict =>
      rw [Step.run_bind_of_ok hrun, Step.run_bind_of_ok (Step.run_state _), print,
        Step.run_modify]
      simp

/-- The text is the line for this record: it shows the verdict and the reports that a check on its
subject comes to in a session without reports and identifiers. -/
def IsLineFor (checker : Checker (IdentifierCache Client)) (record : Value) (text : String) :
    Prop :=
  ∃ subject reports verdict, Subject.ofRecord record = .ok subject ∧
    (∀ c : IdentifierCache Client, c.held = none → ∃ events,
      (checker.check subject).run ⟨c, []⟩ = ⟨.ok verdict, ⟨c, reports⟩, events⟩) ∧
    text = resultLine subject reports verdict ++ "\n"

/-- **A record comes to the same line whatever went before.** -/
theorem exists_comesTo {checker : Checker (IdentifierCache Client)}
    (h : checker.evaluators = Evaluator.standard none) (record : Value) :
    ∃ line, ComesTo checker record line ∧
      ∀ text, line = .ok text → IsLineFor checker record text := by
  cases hsubject : Subject.ofRecord record with
  | error e =>
      refine ⟨.error (.check (.record e)), ?_, ?_⟩
      · intro s hs
        exact ⟨s, [], checkRecord_run_of_error hsubject s, hs, String.append_empty.symm⟩
      · intro text htext
        cases htext
  | ok subject =>
      obtain ⟨answer, reports, events, hcheck⟩ :=
        Checker.check_ignores (Checker.indifferent_of_standard h) subject []
      cases answer with
      | error fault =>
          refine ⟨.error (.check fault), ?_, ?_⟩
          · intro s hs
            have hrun := checkRecord_run_of_ok hsubject (hcheck s.session.evaluation hs)
            exact ⟨_, events, hrun, hs, String.append_empty.symm⟩
          · intro text htext
            cases htext
      | ok verdict =>
          refine ⟨.ok (resultLine subject reports verdict ++ "\n"), ?_, ?_⟩
          · intro s hs
            have hrun := checkRecord_run_of_ok hsubject (hcheck s.session.evaluation hs)
            exact ⟨_, events, hrun, hs, String.append_assoc⟩
          · intro text htext
            obtain rfl := Except.ok.inj htext
            refine ⟨subject, reports, verdict, hsubject, ?_, rfl⟩
            intro c hc
            exact ⟨events, hcheck c hc⟩

/-- **The checks on a list come to the lines of its records, up to the first fault.** -/
theorem checkRecords_run {checker : Checker (IdentifierCache Client)}
    {line : Value → Except CommandFault String} (h : ∀ r, ComesTo checker r (line r))
    (records : List Value) {s : State} (hs : s.IsBare) :
    ∃ t events, (checkRecords checker records).run s =
      ⟨((records.find? fun r => !(line r).isOk).map fun r => endOf (line r)).getD (.ok ()),
        t, events⟩ ∧
    t.output = s.output ++
      String.join ((records.takeWhile fun r => (line r).isOk).map fun r => printedOf (line r)) := by
  induction records generalizing s with
  | nil => exact ⟨s, [], rfl, String.append_empty.symm⟩
  | cons r rest ih =>
      obtain ⟨t, events, hrun, ht, houtput⟩ := h r s hs
      cases hline : line r with
      | error e =>
          have hfails : (line r).isOk = false := by
            rw [hline]
            rfl
          rw [hline] at hrun houtput
          refine ⟨t, events, ?_, ?_⟩
          · rw [checkRecords, Step.run_bind_of_error hrun,
              List.find?_cons_of_pos (by simp [hfails]), Option.map_some, hline]
            rfl
          · rw [List.takeWhile_cons_of_neg (by simp [hfails])]
            exact houtput
      | ok text =>
          have hpasses : (line r).isOk = true := by
            rw [hline]
            rfl
          obtain ⟨t', more, hrest, hjoin⟩ := ih ht
          rw [hline] at hrun
          refine ⟨t', events ++ more, ?_, ?_⟩
          · rw [checkRecords, Step.run_bind_of_ok hrun, hrest,
              List.find?_cons_of_neg (by simp [hpasses])]
          · rw [hjoin, houtput, List.takeWhile_cons_of_pos (by simp [hpasses]), List.map_cons,
              String.join_cons, String.append_assoc]

/-! ## What a run reads -/

/-- What a run of `check` reads before its first record: the threshold in effect, or what stops the
run before that is known (a log file that cannot be opened, or configuration), and the records of
its input. -/
structure Reading where
  threshold : Except Halt Binary64
  records : Except Halt (List Value)

/-- The files once `check` has told this; its log may be written to one of them. -/
def filesTold (world : World) (invocation : Invocation) (log : Option LogFile)
    (told : List Log.Event) : Files :=
  world.filesAfter log (Log.lines invocation.logThreshold (.commandStart "check" :: told))

/-- What a run of this invocation reads in a world. The input is taken as it stands when
configuration has been read, and if the log file cannot be opened, as it stands at first. -/
def reading (read : Settings.DocumentReader) (world : World) (invocation : Invocation)
    (request : Command.CheckRequest) : Reading :=
  match world.logFile invocation.logFile with
  | .error e =>
    ⟨.error (.fault (.logFile e)),
      ((records world world.files request.input).run (State.start world)).answer⟩
  | .ok log =>
    let files := filesTold world invocation log
    let configured := (configure read world files request).run (State.start world)
    ⟨configured.answer,
      ((records world (files configured.events) request.input).run configured.state).answer⟩

/-! ## Configuration -/

theorem refuse_keeps (view : σ → τ) (path : Text) (e : Yaml.Error) :
    (Settings.refuse path e : Step ConfigFault σ (Option Value)).Keeps view := by
  intro s
  cases e <;> rfl

theorem ofEntry_keeps (view : σ → τ) (read : Settings.DocumentReader) (path : Text)
    (entry : Entry) :
    (Settings.ofEntry read path entry : Step ConfigFault σ (Option Value)).Keeps view := by
  intro s
  cases entry with
  | locked => rfl
  | missing => rfl
  | unreadable => rfl
  | file bytes =>
      simp only [Settings.ofEntry]
      cases Utf8.decode bytes with
      | none =>
          dsimp only
          cases read.refuses? bytes with
          | none => rfl
          | some e => exact refuse_keeps view path e s
      | some text =>
          simp only [Settings.ofDocument]
          split
          · rfl
          · split <;> rfl
          · exact refuse_keeps view path _ s

theorem locateAmong_keeps (view : σ → τ) (read : Settings.DocumentReader)
    (files : List Log.Event → Files) (paths : List Text) (told : List Log.Event) :
    (Settings.locateAmong read files told paths : Step ConfigFault σ Value).Keeps view := by
  induction paths generalizing told with
  | nil =>
      intro s
      rfl
  | cons path rest ih =>
      have hentry : ((Settings.ofEntry read path ((files told).entry path)).listen :
          Step ConfigFault σ (Option Value × List Log.Event)).Keeps view := by
        intro s
        exact ofEntry_keeps view read path _ s
      apply Step.keeps_bind hentry
      rintro ⟨found, more⟩
      cases found with
      | some config =>
          intro s
          rfl
      | none => exact ih (told ++ more)

/-- Configuration prints nothing and leaves the cache of the session. -/
theorem configure_keeps (read : Settings.DocumentReader) (world : World)
    (files : List Log.Event → Files) (request : Command.CheckRequest) :
    (configure read world files request).Keeps
      fun s => (s.output, s.session.evaluation.held) := by
  have hlocate : ((Settings.locate read files world.homes request.config world.configPath).mapFault
      (Halt.fault ∘ .config) : Run Value).Keeps
        fun s => (s.output, s.session.evaluation.held) := by
    intro s
    exact locateAmong_keeps (fun s : State => (s.output, s.session.evaluation.held)) read files _ []
      s
  apply Step.keeps_bind hlocate
  intro config
  -- what is left changes the settings, and the policy of the client by them
  apply Step.keeps_bind (fun _ => rfl)
  intro threshold
  apply Step.keeps_bind (fun _ => rfl)
  intro _ s
  rfl

/-- Configuration is stopped by faults only, and not by an exit code. -/
theorem configure_failsBy (read : Settings.DocumentReader) (world : World)
    (files : List Log.Event → Files) (request : Command.CheckRequest) :
    (configure read world files request).FailsBy fun halt => ∃ e, halt = .fault e := by
  apply Step.failsBy_bind
  · intro s halt h
    obtain ⟨e, rfl⟩ := Step.failsBy_mapFault _ _ s halt h
    exact ⟨.config e, rfl⟩
  intro config
  apply Step.failsBy_bind
  · intro s halt h
    obtain ⟨e, rfl⟩ := Step.failsBy_mapFault _ _ s.settings halt h
    exact ⟨.config e, rfl⟩
  intro threshold
  apply Step.failsBy_bind
  · intro s halt h
    cases h
  intro _ s halt h
  cases h

/-! ## Input -/

theorem records_keeps (view : State → τ) (world : World) (files : Files) (path : Text) :
    (records world files path).Keeps view := by
  have hin : ∀ bytes, (recordsIn path bytes).Keeps view := by
    intro bytes s
    unfold recordsIn
    split
    · unfold recordsOf
      split <;> rfl
    · rfl
  intro s
  unfold records
  split
  · exact hin _ s
  · split
    · rfl
    · unfold recordsAt
      split
      · exact hin _ s
      all_goals rfl

/-! ## Runs -/

/-- The checker of a run that works offline, whatever the settings. -/
def offlineChecker (threshold : Binary64) : Checker (IdentifierCache Client) :=
  Settings.builtin.checker true (.real threshold) (some fun _ => none)

variable {read : Settings.DocumentReader} {world : World} {files : List Log.Event → Files}
  {request : Command.CheckRequest}

theorem run_of_configure_error {s t : State} {halt : Halt} {told : List Log.Event}
    (h : (configure read world files request).run s = ⟨.error halt, t, told⟩) :
    (run read world files request).run s = ⟨.error halt, t, told⟩ := by
  have hlisten := Step.run_listen (configure read world files request) s
  rw [h] at hlisten
  exact Step.run_bind_of_error hlisten

/-- Once configuration has been read, what is left of the run are the input and the checks. -/
theorem run_of_configure {s t : State} {threshold : Binary64} {told : List Log.Event}
    (h : (configure read world files request).run s = ⟨.ok threshold, t, told⟩) :
    let ended := (checkInput world (files told) request threshold).run t
    (run read world files request).run s = ⟨ended.answer, ended.state, told ++ ended.events⟩ := by
  have hlisten := Step.run_listen (configure read world files request) s
  rw [h] at hlisten
  exact Step.run_bind_of_ok hlisten

/-- Once the input has been read, what is left are the checks. -/
theorem checkInput_of_records {input : Files} {t : State} {threshold : Binary64} {rs : List Value}
    {told : List Log.Event} (h : (records world input request.input).run t = ⟨.ok rs, t, told⟩) :
    let checked := (checkRecords (t.settings.checker request.offline (.real threshold)
      (some fun _ => none)) rs).run t
    (checkInput world input request threshold).run t =
      ⟨checked.answer, checked.state, told ++ checked.events⟩ := by
  intro checked
  rw [checkInput, Step.run_bind_of_ok (Step.run_state _)]
  dsimp only
  rw [Step.run_bind_of_ok h]
  rfl

/-- Where the input cannot be read, there are no checks. -/
theorem checkInput_of_records_error {input : Files} {t t' : State} {threshold : Binary64}
    {halt : Halt} {told : List Log.Event}
    (h : (records world input request.input).run t = ⟨.error halt, t', told⟩) :
    (checkInput world input request threshold).run t = ⟨.error halt, t', told⟩ := by
  rw [checkInput, Step.run_bind_of_ok (Step.run_state _)]
  dsimp only
  rw [Step.run_bind_of_error h]
  rfl

theorem run_of_records {s t : State} {threshold : Binary64} {told : List Log.Event}
    {rs : List Value} (hoffline : request.offline = true)
    (hconfigure : (configure read world files request).run s = ⟨.ok threshold, t, told⟩)
    (hrecords : ((records world (files told) request.input).run t).answer = .ok rs) :
    let checked := (checkRecords (offlineChecker threshold) rs).run t
    ∃ events, (run read world files request).run s = ⟨checked.answer, checked.state, events⟩ := by
  intro checked
  have hstate := records_keeps id world (files told) request.input t
  cases hinput : (records world (files told) request.input).run t with
  | mk answer t' events =>
      rw [hinput] at hstate hrecords
      obtain rfl : t' = t := hstate
      obtain rfl : answer = .ok rs := hrecords
      rw [run_of_configure hconfigure, checkInput_of_records hinput, hoffline]
      exact ⟨_, rfl⟩

/-- Where the input cannot be read, the run ends by that. -/
theorem run_of_records_error {s t : State} {threshold : Binary64} {told : List Log.Event}
    {halt : Halt}
    (hconfigure : (configure read world files request).run s = ⟨.ok threshold, t, told⟩)
    (hrecords : ((records world (files told) request.input).run t).answer = .error halt) :
    ((run read world files request).run s).answer = .error halt := by
  cases hinput : (records world (files told) request.input).run t with
  | mk answer t' events =>
      rw [hinput] at hrecords
      obtain rfl : answer = .error halt := hrecords
      rw [run_of_configure hconfigure, checkInput_of_records_error hinput]

/-! ## Transcripts -/

/-- How a run ends by its answer. -/
def endingOf : Except Halt Unit → Ending
  | .ok () => .exit .success
  | .error halt => (Command.settle halt).1

theorem conclude_ending (threshold : Int) (ended : Ended Halt State Unit) :
    (Command.conclude threshold ended).ending = endingOf ended.answer := by
  unfold Command.conclude endingOf
  cases ended.answer <;> rfl

/-- The transcript of a run in which the log file can be opened. -/
theorem runArguments_eq_conclude {arguments : List Text} {invocation : Invocation}
    {log : Option LogFile} (hinvocation : Invocation.ofArguments arguments = .ok invocation)
    (hcommand : invocation.command = .check request)
    (hlog : world.logFile invocation.logFile = .ok log) :
    let ended := (run read world (filesTold world invocation log) request).run (State.start world)
    Command.runArguments read world arguments = Command.conclude invocation.logThreshold
      ⟨ended.answer, ended.state, .commandStart "check" :: ended.events⟩ := by
  intro ended
  have hrun : (Command.runCommand read world (fun told => world.filesAfter log
        (Log.lines invocation.logThreshold told)) invocation.command).run (State.start world) =
      ⟨ended.answer, ended.state, .commandStart "check" :: ended.events⟩ := by
    rw [hcommand]
    exact Step.run_bind_of_ok (Step.run_tell _ _)
  rw [Command.runArguments, hinvocation]
  simp only [Command.runInvocation, hlog]
  rw [hrun]

/-- How a run ends in which the log file can be opened. -/
theorem runArguments_of_log {arguments : List Text} {invocation : Invocation}
    {log : Option LogFile} (hinvocation : Invocation.ofArguments arguments = .ok invocation)
    (hcommand : invocation.command = .check request)
    (hlog : world.logFile invocation.logFile = .ok log) :
    let ended := (run read world (filesTold world invocation log) request).run (State.start world)
    (Command.runArguments read world arguments).ending = endingOf ended.answer ∧
    (Command.runArguments read world arguments).output = ended.state.output := by
  rw [runArguments_eq_conclude hinvocation hcommand hlog]
  exact ⟨conclude_ending _ _, rfl⟩

theorem reading_of_log {invocation : Invocation} {log : Option LogFile} {t : State}
    {threshold : Except Halt Binary64} {told : List Log.Event}
    (hlog : world.logFile invocation.logFile = .ok log)
    (hconfigure : (configure read world (filesTold world invocation log) request).run
      (State.start world) = ⟨threshold, t, told⟩) :
    reading read world invocation request = ⟨threshold,
      ((records world (filesTold world invocation log told) request.input).run t).answer⟩ := by
  simp only [reading, hlog, hconfigure]

/-- Where a threshold was read, the log file could be opened and configuration was applied. -/
theorem exists_configured {invocation : Invocation} {threshold : Binary64}
    {input : Except Halt (List Value)}
    (h : reading read world invocation request = ⟨.ok threshold, input⟩) :
    ∃ log t told, world.logFile invocation.logFile = .ok log ∧
      (configure read world (filesTold world invocation log) request).run (State.start world) =
        ⟨.ok threshold, t, told⟩ ∧
      ((records world (filesTold world invocation log told) request.input).run t).answer =
        input := by
  cases hlog : world.logFile invocation.logFile with
  | error e =>
      simp only [reading, hlog] at h
      cases (Reading.mk.inj h).1
  | ok log =>
      cases hconfigure : (configure read world (filesTold world invocation log) request).run
          (State.start world) with
      | mk answer t told =>
          rw [reading_of_log hlog hconfigure] at h
          obtain ⟨rfl, hrecords⟩ := Reading.mk.inj h
          exact ⟨log, t, told, rfl, hconfigure, hrecords⟩

/-- A run whose configuration fails ends by that fault, and prints nothing. -/
theorem runArguments_of_error {arguments : List Text} {invocation : Invocation} {halt : Halt}
    (hinvocation : Invocation.ofArguments arguments = .ok invocation)
    (hcommand : invocation.command = .check request)
    (h : (reading read world invocation request).threshold = .error halt) :
    ∃ e, halt = .fault e ∧
      (Command.runArguments read world arguments).ending = (Command.settle (.fault e)).1 ∧
      (Command.runArguments read world arguments).output = "" := by
  cases hlog : world.logFile invocation.logFile with
  | error e =>
      simp only [reading, hlog] at h
      refine ⟨.logFile e, (Except.error.inj h).symm, ?_⟩
      rw [Command.runArguments, hinvocation]
      simp only [Command.runInvocation, hlog]
      exact ⟨rfl, True.intro⟩
  | ok log =>
      obtain ⟨hending, houtput⟩ := runArguments_of_log hinvocation hcommand hlog
      have hfails := configure_failsBy read world (filesTold world invocation log) request
        (State.start world)
      have hkeeps := configure_keeps read world (filesTold world invocation log) request
        (State.start world)
      cases hconfigure : (configure read world (filesTold world invocation log) request).run
          (State.start world) with
      | mk answer t told =>
          rw [hconfigure] at hfails hkeeps
          rw [reading_of_log hlog hconfigure] at h
          obtain rfl : answer = .error halt := h
          obtain ⟨e, rfl⟩ := hfails halt rfl
          rw [run_of_configure_error hconfigure] at hending houtput
          exact ⟨e, rfl, hending, houtput.trans (congrArg Prod.fst hkeeps)⟩

/-- A run offline prints the lines of its records up to the first fault, and ends by it. -/
theorem runArguments_of_ok {arguments : List Text} {invocation : Invocation}
    {threshold : Binary64} {rs : List Value} {line : Value → Except CommandFault String}
    (hinvocation : Invocation.ofArguments arguments = .ok invocation)
    (hcommand : invocation.command = .check request) (hoffline : request.offline = true)
    (h : reading read world invocation request = ⟨.ok threshold, .ok rs⟩)
    (hline : ∀ r, ComesTo (offlineChecker threshold) r (line r)) :
    (Command.runArguments read world arguments).ending =
      endingOf (((rs.find? fun r => !(line r).isOk).map fun r => endOf (line r)).getD (.ok ())) ∧
    (Command.runArguments read world arguments).output =
      String.join ((rs.takeWhile fun r => (line r).isOk).map fun r => printedOf (line r)) := by
  obtain ⟨log, t, told, hlog, hconfigure, hrecords⟩ := exists_configured h
  obtain ⟨hending, houtput⟩ := runArguments_of_log hinvocation hcommand hlog
  have hkeeps := configure_keeps read world (filesTold world invocation log) request
    (State.start world)
  rw [hconfigure] at hkeeps
  have hempty : t.output = "" := congrArg Prod.fst hkeeps
  have hbare : t.IsBare := congrArg Prod.snd hkeeps
  obtain ⟨events, hrun⟩ := run_of_records hoffline hconfigure hrecords
  obtain ⟨t', events', hchecked, hprinted⟩ := checkRecords_run hline rs hbare
  rw [hempty, String.empty_append] at hprinted
  rw [hrun, hchecked] at hending houtput
  exact ⟨hending, houtput.trans hprinted⟩

end Check

/-! ## Together and alone -/

/-- The run ended with the exit code for success. -/
def Transcript.succeeded (t : Transcript) : Bool :=
  match t.ending with
  | .exit code => code == .success
  | .fault _ => false

theorem takeWhile_congr {p q : α → Bool} {l : List α} (h : ∀ a ∈ l, p a = q a) :
    l.takeWhile p = l.takeWhile q := by
  induction l with
  | nil => rfl
  | cons a rest ih =>
      rw [List.forall_mem_cons] at h
      rw [List.takeWhile_cons, List.takeWhile_cons, h.1, ih h.2]

namespace Check

theorem succeeded_eq_isOk {t : Transcript} {line : Except CommandFault String}
    (h : t.ending = endingOf (endOf line)) : t.succeeded = line.isOk := by
  rw [Transcript.succeeded, h]
  cases line with
  | ok text => rfl
  | error e =>
      -- a fault that is the user's has an exit code too, but not that of success
      have hsettle : endingOf (endOf (.error e)) = (Command.settle (.fault e)).1 := rfl
      rw [hsettle, Command.settle]
      cases e.usageMessage? <;> rfl

/-- A run on a record alone comes to its line. -/
theorem runArguments_of_singleton {read : Settings.DocumentReader} {arguments : List Text}
    {invocation : Invocation} {request : Command.CheckRequest} {world : World}
    {threshold : Binary64} {r : Value} {line : Value → Except CommandFault String}
    (hinvocation : Invocation.ofArguments arguments = .ok invocation)
    (hcommand : invocation.command = .check request) (hoffline : request.offline = true)
    (h : reading read world invocation request = ⟨.ok threshold, .ok [r]⟩)
    (hline : ∀ r, ComesTo (offlineChecker threshold) r (line r)) :
    (Command.runArguments read world arguments).ending = endingOf (endOf (line r)) ∧
    (Command.runArguments read world arguments).output = printedOf (line r) := by
  obtain ⟨hending, houtput⟩ := runArguments_of_ok hinvocation hcommand hoffline h hline
  rw [hending, houtput]
  cases hr : line r with
  | error e => simp [hr, Except.isOk, Except.toBool, printedOf, Except.toOption]
  | ok text => simp [hr, Except.isOk, Except.toBool, endOf, Except.mapError, Except.map]

/-- A run on records is the runs on each of them alone: it prints what they print, up to the first
that fails, and ends as that one does. Where none fails it succeeds, if it came to read its
records. -/
structure Together (rs : List Value) (started : Prop) (whole : Transcript)
    (own : Value → Transcript) : Prop where
  output : whole.output =
    String.join ((rs.takeWhile fun r => (own r).succeeded).map fun r => (own r).output)
  failure : ∀ r, rs.find? (fun r => !(own r).succeeded) = some r →
    whole.ending = (own r).ending ∧ (own r).output = ""
  success : (∀ r ∈ rs, (own r).succeeded = true) → started → whole.ending = .exit .success

theorem together_of_lines {whole : Transcript} {own : Value → Transcript}
    {line : Value → Except CommandFault String} {rs : List Value} {started : Prop}
    (hown : ∀ r ∈ rs, (own r).ending = endingOf (endOf (line r)) ∧
      (own r).output = printedOf (line r))
    (hending : started → whole.ending =
      endingOf (((rs.find? fun r => !(line r).isOk).map fun r => endOf (line r)).getD (.ok ())))
    (houtput : whole.output =
      String.join ((rs.takeWhile fun r => (line r).isOk).map fun r => printedOf (line r)))
    (hstarted : rs ≠ [] → started) : Together rs started whole own := by
  have hsame : ∀ r ∈ rs, (own r).succeeded = (line r).isOk :=
    fun r hr => succeeded_eq_isOk (hown r hr).1
  have hfind : rs.find? (fun r => !(own r).succeeded) = rs.find? fun r => !(line r).isOk :=
    List.find?_congr fun r hr => by rw [hsame r hr]
  constructor
  case output =>
    rw [houtput, takeWhile_congr hsame]
    refine congrArg String.join (List.map_congr_left fun r hr => ?_)
    exact (hown r (List.takeWhile_subset _ hr)).2.symm
  case failure =>
    intro r hfirst
    rw [hfind] at hfirst
    have hr : r ∈ rs := List.mem_of_find?_eq_some hfirst
    have hfails := List.find?_some hfirst
    obtain ⟨hownEnding, hownOutput⟩ := hown r hr
    constructor
    · rw [hending (hstarted (List.ne_nil_of_mem hr)), hfirst, hownEnding]
      rfl
    · rw [hownOutput]
      cases hline : line r with
      | ok text => simp [hline, Except.isOk, Except.toBool] at hfails
      | error e => rfl
  case success =>
    intro hall h
    have hnone : rs.find? (fun r => !(own r).succeeded) = none := by
      simpa using hall
    rw [hending h, ← hfind, hnone]
    rfl

/-- **A list of records is checked as its records are alone, one after the other,** whatever reads
the documents of configuration. What is printed for a record that does not fail is its line. -/
theorem together_as_alone {read : Settings.DocumentReader} {arguments : List Text}
    {invocation : Invocation} {request : Command.CheckRequest} {world : World}
    {alone : Value → World}
    {threshold : Except Halt Binary64} {rs : List Value}
    (hinvocation : Invocation.ofArguments arguments = .ok invocation)
    (hcommand : invocation.command = .check request) (hoffline : request.offline = true)
    (hwhole : reading read world invocation request = ⟨threshold, .ok rs⟩)
    (halone : ∀ r ∈ rs, reading read (alone r) invocation request = ⟨threshold, .ok [r]⟩) :
    Together rs (rs ≠ [] ∨ threshold.isOk = true) (Command.runArguments read world arguments)
      (fun r => Command.runArguments read (alone r) arguments) ∧
    ∀ r ∈ rs, (Command.runArguments read (alone r) arguments).succeeded = true →
      ∃ limit, threshold = .ok limit ∧
        IsLineFor (offlineChecker limit) r
          (Command.runArguments read (alone r) arguments).output := by
  cases threshold with
  | error halt =>
      -- every run stops before its first record
      obtain ⟨e, rfl, hending, houtput⟩ := runArguments_of_error hinvocation hcommand
        (congrArg Reading.threshold hwhole)
      have hown : ∀ r ∈ rs,
          (Command.runArguments read (alone r) arguments).ending = endingOf (endOf (.error e)) ∧
          (Command.runArguments read (alone r) arguments).output = printedOf (.error e) := by
        intro r hr
        obtain ⟨e', he', hownEnding, hownOutput⟩ := runArguments_of_error hinvocation hcommand
          (congrArg Reading.threshold (halone r hr))
        obtain rfl := Halt.fault.inj he'
        exact ⟨hownEnding, hownOutput⟩
      refine ⟨together_of_lines hown ?_ ?_ Or.inl, ?_⟩
      · rintro (hnonempty | hconfigured)
        · obtain ⟨r, rest, rfl⟩ := List.exists_cons_of_ne_nil hnonempty
          exact hending
        · cases hconfigured
      · rw [houtput]
        cases rs <;> rfl
      · intro r hr hsucceeded
        rw [succeeded_eq_isOk (hown r hr).1] at hsucceeded
        cases hsucceeded
  | ok threshold =>
      have hevaluators : (offlineChecker threshold).evaluators = Evaluator.standard none := rfl
      choose line hline htext using exists_comesTo hevaluators
      obtain ⟨hending, houtput⟩ := runArguments_of_ok hinvocation hcommand hoffline hwhole hline
      have hown : ∀ r ∈ rs,
          (Command.runArguments read (alone r) arguments).ending = endingOf (endOf (line r)) ∧
          (Command.runArguments read (alone r) arguments).output = printedOf (line r) := by
        intro r hr
        exact runArguments_of_singleton hinvocation hcommand hoffline (halone r hr) hline
      refine ⟨together_of_lines hown (fun _ => hending) houtput Or.inl, ?_⟩
      intro r hr hsucceeded
      obtain ⟨hownEnding, hownOutput⟩ := hown r hr
      rw [succeeded_eq_isOk hownEnding] at hsucceeded
      refine ⟨threshold, rfl, ?_⟩
      rw [hownOutput]
      cases hr : line r with
      | error e =>
          rw [hr] at hsucceeded
          cases hsucceeded
      | ok text => exact htext r text hr

/-- A world in which standard input is all there is to read. -/
def desk (input : Text) : World where
  files _ := .missing
  openLog _ := .error .refused
  directory := "/work".toList
  homes := ⟨"/home".toList, fun _ => none⟩
  configPath := []
  input := input.flatMap String.utf8EncodeChar
  clock := .int 0
  network := []

/-- `check --offline -` -/
def deskRequest : Command.CheckRequest := ⟨"-".toList, [], true, ⟨.null, .null⟩⟩

def deskInvocation : Invocation := ⟨.check deskRequest, Log.warningLevel, []⟩

def deskArguments : List Text := ["check", "--offline", "-"].map String.toList

def viewerText : Text :=
  "\x7b\"name\":\"viewer\",\"packages\":[\x7b\"repo\":\"arch\"\x7d]\x7d".toList

def viewer : Value := .map [
  (.text "name".toList, .text "viewer".toList),
  (.text "packages".toList, .list [.map [(.text "repo".toList, .text "arch".toList)]])]

/-- The desk with a number alone, or with the project alone. -/
def deskAlone : Value → World
  | .int _ => desk ['[', '7', ']']
  | _ => desk ('[' :: viewerText ++ [']'])

/-- Behind a project stand numbers, which are no records. -/
theorem viewer_before_numbers_as_alone :
    let world := desk ('[' :: viewerText ++ [',', '7', ',', '7', ']'])
    let together := Command.runArguments Settings.yamlReader world deskArguments
    let first := Command.runArguments Settings.yamlReader (deskAlone viewer) deskArguments
    let second := Command.runArguments Settings.yamlReader (deskAlone (.int 7)) deskArguments
    Invocation.ofArguments deskArguments = .ok deskInvocation ∧
    reading Settings.yamlReader world deskInvocation deskRequest =
      ⟨.ok builtinThreshold, .ok [viewer, .int 7, .int 7]⟩ ∧
    (∀ r ∈ [viewer, .int 7, .int 7],
      reading Settings.yamlReader (deskAlone r) deskInvocation deskRequest =
        ⟨.ok builtinThreshold, .ok [r]⟩) ∧
    first.succeeded = true ∧ second.succeeded = false ∧
    together.output = first.output ∧ together.ending = second.ending ∧ second.output = "" := by
  intro world together first second
  have hinvocation : Invocation.ofArguments deskArguments = .ok deskInvocation := rfl
  have hwhole : reading Settings.yamlReader world deskInvocation deskRequest =
      ⟨.ok builtinThreshold, .ok [viewer, .int 7, .int 7]⟩ := rfl
  have halone : ∀ r ∈ [viewer, .int 7, .int 7],
      reading Settings.yamlReader (deskAlone r) deskInvocation deskRequest =
        ⟨.ok builtinThreshold, .ok [r]⟩ := by
    simp only [List.forall_mem_cons]
    exact ⟨rfl, rfl, rfl, fun _ h => by cases h⟩
  have hfirst : first.succeeded = true := by decide +kernel
  have hsecond : second.succeeded = false := by decide +kernel
  obtain ⟨own, hviewer, hseven, started, htogether⟩ : ∃ own, own viewer = first ∧
      own (.int 7) = second ∧ ∃ started, Together [viewer, .int 7, .int 7] started together own :=
    ⟨_, rfl, rfl, _, (together_as_alone hinvocation rfl rfl hwhole halone).1⟩
  refine ⟨hinvocation, hwhole, halone, hfirst, hsecond, ?_⟩
  rw [← hviewer] at hfirst ⊢
  rw [← hseven] at hsecond ⊢
  refine ⟨?_, htogether.failure (.int 7) ?_⟩
  · rw [htogether.output]
    simp [hfirst, hsecond]
  · simp [hfirst, hsecond]

/-! ## A list without records -/

/-- `check --offline --logfile logs/check.log in.json` -/
def loggedRequest : Command.CheckRequest := ⟨"in.json".toList, [], true, ⟨.null, .null⟩⟩

def loggedInvocation : Invocation :=
  ⟨.check loggedRequest, Log.warningLevel, "logs/check.log".toList⟩

def loggedArguments : List Text :=
  ["check", "--offline", "--logfile", "logs/check.log", "in.json"].map String.toList

/-- The input is `[]`, and there is no directory for a log file. -/
def emptyInput : World where
  files path := if path = "in.json".toList then .file [0x5b, 0x5d] else .missing
  openLog _ := .error .noDirectory
  directory := "/work".toList
  homes := ⟨"/home".toList, fun _ => none⟩
  configPath := []
  input := []
  clock := .int 0
  network := []

/-- No record of an empty list fails alone, and yet the run on the list can fail. -/
theorem empty_list_can_fail :
    let run := Command.runArguments Settings.yamlReader emptyInput loggedArguments
    Invocation.ofArguments loggedArguments = .ok loggedInvocation ∧
    loggedRequest.offline = true ∧
    (reading Settings.yamlReader emptyInput loggedInvocation loggedRequest).records = .ok [] ∧
    run.ending = .fault (.logFile .noDirectory) ∧ run.ending ≠ .exit .success := by
  intro run
  have hending : run.ending = .fault (.logFile .noDirectory) := rfl
  refine ⟨rfl, rfl, rfl, hending, ?_⟩
  rw [hending]
  exact fun h => by cases h

end Check
end DistroBallot
