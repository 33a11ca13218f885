import DistroBallot.Proofs.Command.RecordsAlone
import DistroBallot.Proofs.Settings.Candidates
import DistroBallot.Proofs.Text.Encoding
import Mathlib

/-!
# Files that cannot be read

A run of `check` reads files twice before its first record: the candidates for configuration, and
its input. What it makes of them is told here by their bytes.

A candidate that cannot be opened, or is malformed, is passed over with a warning. One that is read
up to bytes that are no text, or has a scalar that is none, is not: it stops the search, and the run
with it (`Look.Gives`, `Search`). The input gives records if it is text that writes a list or a map
(`Reads`). If it is missing, cannot be read, is malformed or writes something else, the run ends
with the code for file errors; but where its bytes are no text, or a number in it has too many
digits, it ends as wrong usage. Either way it ends before its first record, so that nothing is
printed or requested.

How the documents of configuration are read is left open: all of this holds for every reader.
-/

namespace DistroBallot

/-! ## Candidates by their bytes -/

namespace Settings

variable {σ : Type} {read : DocumentReader}

/-- What a reader finds wrong with bytes: with the text that they are, or, if they are none, with
what stands in front of the first that is no text. -/
def DocumentReader.Refuses (read : DocumentReader) (bytes : List UInt8) (e : Yaml.Error) : Prop :=
  (∃ text, bytes = Utf8.encode text ∧ read text.withLineFeeds = .error e) ∨
  ((∀ text, bytes ≠ Utf8.encode text) ∧ read.refuses? bytes = some e)

/-- What a look gives, by the bytes that are found: configuration, none, or a fault that stops the
search; and what is told of it. -/
inductive Look.Gives (read : DocumentReader) (l : Look) :
    Except ConfigFault (Option Value) → List Log.Event → Prop where
  | noFile (h : l.entry.isRegular = false) : Gives read l (.ok none) []
  | locked (h : l.entry = .locked) : Gives read l (.ok none) [.unreadableConfig l.path "..."]
  | noText {bytes : List UInt8} (h : l.entry = .file bytes)
      (hbytes : ∀ text, bytes ≠ Utf8.encode text) (hrefuses : read.refuses? bytes = none) :
      Gives read l (.error .notUtf8) []
  | malformed {bytes : List UInt8} (h : l.entry = .file bytes)
      (hrefuses : read.Refuses bytes .malformed) :
      Gives read l (.ok none) [.unreadableConfig l.path "..."]
  | noScalar {bytes : List UInt8} {e : Yaml.ScalarFault} (h : l.entry = .file bytes)
      (hrefuses : read.Refuses bytes (.scalar e)) : Gives read l (.error (.scalar e)) []
  | noConfig {text : Text} {v : Value} (h : l.entry = .file (Utf8.encode text))
      (hread : read text.withLineFeeds = .ok v) (hv : configOf? v = none) :
      Gives read l (.ok none) [.configNoMapping l.path]
  | config {text : Text} {v config : Value} (h : l.entry = .file (Utf8.encode text))
      (hread : read text.withLineFeeds = .ok v) (hv : configOf? v = some config) :
      Gives read l (.ok (some config)) []

theorem Look.exists_gives (read : DocumentReader) (l : Look) :
    ∃ found told, l.Gives read found told := by
  cases hentry : l.entry with
  | missing | unreadable => exact ⟨_, _, .noFile (by rw [hentry]; rfl)⟩
  | locked => exact ⟨_, _, .locked hentry⟩
  | file bytes =>
      by_cases htext : ∃ text, bytes = Utf8.encode text
      · obtain ⟨text, rfl⟩ := htext
        cases hread : read text.withLineFeeds with
        | error e =>
            have hrefuses : read.Refuses (Utf8.encode text) e := .inl ⟨text, rfl, hread⟩
            cases e with
            | malformed => exact ⟨_, _, .malformed hentry hrefuses⟩
            | scalar e => exact ⟨_, _, .noScalar hentry hrefuses⟩
        | ok v =>
            cases hv : configOf? v with
            | none => exact ⟨_, _, .noConfig hentry hread hv⟩
            | some config => exact ⟨_, _, .config hentry hread hv⟩
      · have hbytes : ∀ text, bytes ≠ Utf8.encode text := not_exists.mp htext
        cases hrefuses : read.refuses? bytes with
        | none => exact ⟨_, _, .noText hentry hbytes hrefuses⟩
        | some e =>
            cases e with
            | malformed => exact ⟨_, _, .malformed hentry (.inr ⟨hbytes, hrefuses⟩)⟩
            | scalar e => exact ⟨_, _, .noScalar hentry (.inr ⟨hbytes, hrefuses⟩)⟩

theorem ofEntry_encode (path text : Text) :
    (ofEntry read path (.file (Utf8.encode text)) : Step ConfigFault σ (Option Value)) =
      ofDocument read path text.withLineFeeds := by
  rw [ofEntry, Utf8.decode_eq_some_iff.mpr rfl]

theorem ofEntry_of_refuses {bytes : List UInt8} {e : Yaml.Error} (h : read.Refuses bytes e)
    (path : Text) :
    (ofEntry read path (.file bytes) : Step ConfigFault σ (Option Value)) = refuse path e := by
  rcases h with ⟨text, rfl, hread⟩ | ⟨hbytes, hrefuses⟩
  · rw [ofEntry_encode, ofDocument, hread]
  · rw [ofEntry, Utf8.decode_eq_none_iff.mpr hbytes]
    dsimp only
    rw [hrefuses]

theorem ofEntry_run_of_gives {l : Look} {found : Except ConfigFault (Option Value)}
    {told : List Log.Event} (h : l.Gives read found told) (s : σ) :
    (ofEntry read l.path l.entry).run s = ⟨found, s, told⟩ := by
  cases h with
  | noFile h =>
      cases hentry : l.entry with
      | missing | unreadable => rfl
      | file _ | locked =>
          rw [hentry] at h
          cases h
  | locked h =>
      rw [h]
      rfl
  | noText h hbytes hrefuses =>
      rw [h, ofEntry, Utf8.decode_eq_none_iff.mpr hbytes]
      dsimp only
      rw [hrefuses]
      rfl
  | malformed h hrefuses | noScalar h hrefuses =>
      rw [h, ofEntry_of_refuses hrefuses]
      rfl
  | noConfig h hread hv =>
      rw [h, ofEntry_encode, ofDocument_run (by rw [hread]; rintro _ ⟨⟩), hread]
      simp [Except.toOption, hv]
  | config h hread hv =>
      rw [h, ofEntry_encode, ofDocument_run (by rw [hread]; rintro _ ⟨⟩), hread]
      simp [Except.toOption, hv]

/-- How a search over paths goes: each path is passed over, up to the first that gives configuration
or stops the search. What was told so far says how files stand. -/
inductive Search (read : DocumentReader) (files : List Log.Event → Files) :
    List Log.Event → List Text → Except ConfigFault Value → List Log.Event → Prop where
  | nothing (told : List Log.Event) : Search read files told [] (.ok (.map [])) []
  | found {told warned : List Log.Event} {path : Text} {rest : List Text} {config : Value}
      (h : (Look.mk path ((files told).entry path)).Gives read (.ok (some config)) warned) :
      Search read files told (path :: rest) (.ok config) warned
  | stopped {told warned : List Log.Event} {path : Text} {rest : List Text} {fault : ConfigFault}
      (h : (Look.mk path ((files told).entry path)).Gives read (.error fault) warned) :
      Search read files told (path :: rest) (.error fault) warned
  | passedOver {told warned later : List Log.Event} {path : Text} {rest : List Text}
      {answer : Except ConfigFault Value}
      (h : (Look.mk path ((files told).entry path)).Gives read (.ok none) warned)
      (hrest : Search read files (told ++ warned) rest answer later) :
      Search read files told (path :: rest) answer (warned ++ later)

variable {files : List Log.Event → Files}

theorem exists_search (read : DocumentReader) (files : List Log.Event → Files)
    (told : List Log.Event) (paths : List Text) :
    ∃ answer warned, Search read files told paths answer warned := by
  induction paths generalizing told with
  | nil => exact ⟨_, _, .nothing told⟩
  | cons path rest ih =>
      obtain ⟨found, warned, hlook⟩ := Look.exists_gives read ⟨path, (files told).entry path⟩
      rcases found with fault | _ | config
      · exact ⟨_, _, .stopped hlook⟩
      · obtain ⟨answer, later, hrest⟩ := ih (told ++ warned)
        exact ⟨_, _, .passedOver hlook hrest⟩
      · exact ⟨_, _, .found hlook⟩

/-- **The search goes by the bytes of the candidates.** -/
theorem locateAmong_run_of_search {told warned : List Log.Event} {paths : List Text}
    {answer : Except ConfigFault Value} (h : Search read files told paths answer warned) (s : σ) :
    (locateAmong read files told paths).run s = ⟨answer, s, warned⟩ := by
  have hlisten : ∀ {told warned path found},
      (Look.mk path ((files told).entry path)).Gives read found warned →
      ((ofEntry read path ((files told).entry path)).listen :
        Step ConfigFault σ (Option Value × List Log.Event)).run s =
        ⟨found.map (·, warned), s, warned⟩ := by
    intro told warned path found hlook
    rw [Step.run_listen, ofEntry_run_of_gives hlook]
  induction h with
  | nothing told => rfl
  | found hlook =>
      rw [locateAmong, Step.run_bind_of_ok (hlisten hlook)]
      simp
  | stopped hlook => rw [locateAmong, Step.run_bind_of_error (hlisten hlook)]
  | passedOver hlook hrest ih =>
      rw [locateAmong, Step.run_bind_of_ok (hlisten hlook)]
      simp only [ih]

end Settings

namespace Check

open Settings (Search)

/-! ## Input by its bytes -/

/-- What stands at an input: standard input under a lone hyphen, and else what is under the path.
Nothing is under a path that is none. -/
def inputAt (world : World) (files : Files) (path : Text) : Option Entry :=
  if path = ['-'] then some (.file world.input)
  else if Path.holdsNull path then none
  else some (files path)

/-- Why an input gives no records. -/
inductive InputFault where
  | noPath
  | missing
  | unreadable
  | noText
  | malformed
  | longNumber (digits : ℕ)
  | noRecords
deriving DecidableEq, Repr

namespace InputFault

/-- The code that a run exits with for this reason. -/
def code : InputFault → ExitCode
  | .missing | .unreadable | .malformed | .noRecords => .fileError
  | .noPath | .noText | .longNumber _ => .usageError

/-- What is told of it. -/
def message (path : Text) : InputFault → String
  | .noPath => "embedded null byte"
  | .missing => "File not found: [Errno 2] No such file or directory: " ++
      s!"{String.ofList path.quoted}, aborting"
  | .unreadable | .malformed => s!"Could not read {String.ofList path}: ..., aborting"
  | .noText => "'utf-8' codec can't decode ..."
  | .longNumber digits => Numeral.tooLongMessage digits
  | .noRecords => "Input must be a JSON object or a list of objects, aborting"

end InputFault

/-- What an input is read as, by its bytes: the items of the list that they write, the one record
that they write, or a reason why there are no records. -/
inductive Reads : Option Entry → Except InputFault (List Value) → Prop where
  | noPath : Reads none (.error .noPath)
  | missing : Reads (some .missing) (.error .missing)
  | locked : Reads (some .locked) (.error .unreadable)
  | unreadable : Reads (some .unreadable) (.error .unreadable)
  | noText {bytes : List UInt8} (h : ∀ text, bytes ≠ Utf8.encode text) :
      Reads (some (.file bytes)) (.error .noText)
  | malformed {text : Text} (h : Json.read text.withLineFeeds = .error .malformed) :
      Reads (some (.file (Utf8.encode text))) (.error .malformed)
  | longNumber {text : Text} {digits : ℕ}
      (h : Json.read text.withLineFeeds = .error (.tooManyDigits digits)) :
      Reads (some (.file (Utf8.encode text))) (.error (.longNumber digits))
  | noRecords {text : Text} {v : Value} (h : Json.read text.withLineFeeds = .ok v)
      (hlist : ∀ items, v ≠ .list items) (hmap : ∀ entries, v ≠ .map entries) :
      Reads (some (.file (Utf8.encode text))) (.error .noRecords)
  | items {text : Text} {items : List Value}
      (h : Json.read text.withLineFeeds = .ok (.list items)) :
      Reads (some (.file (Utf8.encode text))) (.ok items)
  | record {text : Text} {entries : List (Value × Value)}
      (h : Json.read text.withLineFeeds = .ok (.map entries)) :
      Reads (some (.file (Utf8.encode text))) (.ok [.map entries])

theorem exists_reads (input : Option Entry) : ∃ outcome, Reads input outcome := by
  rcases input with _ | bytes | _ | _ | _
  · exact ⟨_, .noPath⟩
  · by_cases htext : ∃ text, bytes = Utf8.encode text
    · obtain ⟨text, rfl⟩ := htext
      cases hread : Json.read text.withLineFeeds with
      | error e =>
          cases e with
          | malformed => exact ⟨_, .malformed hread⟩
          | tooManyDigits digits => exact ⟨_, .longNumber hread⟩
      | ok v =>
          cases v with
          | list items => exact ⟨_, .items hread⟩
          | map entries => exact ⟨_, .record hread⟩
          | _ => exact ⟨_, .noRecords hread (by rintro _ ⟨⟩) (by rintro _ ⟨⟩)⟩
    · exact ⟨_, .noText (not_exists.mp htext)⟩
  · exact ⟨_, .locked⟩
  · exact ⟨_, .missing⟩
  · exact ⟨_, .unreadable⟩

theorem records_eq (world : World) (files : Files) (path : Text) : records world files path =
    match inputAt world files path with
    | none => Step.fail (.fault .inputPath)
    | some entry => recordsAt path entry := by
  unfold records inputAt
  by_cases hinput : path = ['-']
  · rw [if_pos hinput, if_pos hinput]
    rfl
  · rw [if_neg hinput, if_neg hinput]
    by_cases hnull : Path.holdsNull path = true
    · rw [if_pos hnull, if_pos hnull]
    · rw [if_neg hnull, if_neg hnull]

theorem recordsAt_encode (path text : Text) :
    recordsAt path (.file (Utf8.encode text)) = recordsOf path text.withLineFeeds := by
  rw [recordsAt, recordsIn, Utf8.decode_eq_some_iff.mpr rfl]

theorem records_run_of_ok {world : World} {files : Files} {path : Text} {rs : List Value}
    (h : Reads (inputAt world files path) (.ok rs)) (s : State) :
    (records world files path).run s = ⟨.ok rs, s, []⟩ := by
  rw [records_eq]
  generalize inputAt world files path = input at h
  cases h with
  | items hread | record hread =>
      dsimp only
      rw [recordsAt_encode, recordsOf, hread]
      rfl

/-- Where there are no records, the run halts: by an exit code of its own, after telling why, or by
a fault that is told to the user. -/
theorem records_run_of_fault {world : World} {files : Files} {path : Text} {fault : InputFault}
    (h : Reads (inputAt world files path) (.error fault)) (s : State) :
    ∃ halt told, (records world files path).run s = ⟨.error halt, s, told⟩ ∧
      (Command.settle halt).1 = .exit fault.code ∧
      told ++ (Command.settle halt).2 = [.error (fault.message path)] := by
  rw [records_eq]
  generalize inputAt world files path = input at h
  cases h with
  | noPath => exact ⟨.fault .inputPath, [], rfl, rfl, rfl⟩
  | missing => exact ⟨.exit .fileError, _, rfl, rfl, rfl⟩
  | locked | unreadable => exact ⟨.exit .fileError, _, rfl, rfl, rfl⟩
  | noText hbytes =>
      dsimp only
      rw [recordsAt, recordsIn, Utf8.decode_eq_none_iff.mpr hbytes]
      exact ⟨.fault .inputNotUtf8, [], rfl, rfl, rfl⟩
  | malformed hread =>
      dsimp only
      rw [recordsAt_encode, recordsOf, hread]
      exact ⟨.exit .fileError, _, rfl, rfl, rfl⟩
  | longNumber hread =>
      dsimp only
      rw [recordsAt_encode, recordsOf, hread]
      exact ⟨.fault (.inputNumber _), [], rfl, rfl, rfl⟩
  | @noRecords text v hread hlist hmap =>
      dsimp only
      rw [recordsAt_encode, recordsOf, hread]
      cases v with
      | list items => exact absurd rfl (hlist items)
      | map entries => exact absurd rfl (hmap entries)
      | _ => exact ⟨.exit .fileError, _, rfl, rfl, rfl⟩

/-! ## Configuration -/

/-- How configuration comes out: the threshold or a fault, the settings, and what is told. -/
inductive Configures (read : Settings.DocumentReader) (world : World)
    (files : List Log.Event → Files) (request : Command.CheckRequest) :
    Except ConfigFault Binary64 → Settings → List Log.Event → Prop where
  | stopped {fault : ConfigFault} {warned : List Log.Event}
      (h : Search read files [] ((Settings.candidates request.config world.configPath).map
        (Path.expandHome world.homes)) (.error fault) warned) :
      Configures read world files request (.error fault) .builtin warned
  | found {config : Value} {warned told : List Log.Event} {answer : Except ConfigFault Binary64}
      {settings : Settings}
      (h : Search read files [] ((Settings.candidates request.config world.configPath).map
        (Path.expandHome world.homes)) (.ok config) warned)
      (happlied : (Settings.applyOverrides request.flags config).run .builtin =
        ⟨answer, settings, told⟩) :
      Configures read world files request answer settings (warned ++ told)

theorem exists_configures (read : Settings.DocumentReader) (world : World)
    (files : List Log.Event → Files) (request : Command.CheckRequest) :
    ∃ answer settings told, Configures read world files request answer settings told := by
  obtain ⟨answer, warned, hsearch⟩ := Settings.exists_search read files []
    ((Settings.candidates request.config world.configPath).map (Path.expandHome world.homes))
  cases answer with
  | error fault => exact ⟨_, _, _, .stopped hsearch⟩
  | ok config => exact ⟨_, _, _, .found hsearch rfl⟩

/-- The state before the first record. -/
def configured (world : World) (settings : Settings) : State :=
  adopt { State.start world with settings }

variable {read : Settings.DocumentReader} {world : World} {files : List Log.Event → Files}
  {request : Command.CheckRequest} {settings : Settings} {told : List Log.Event}

theorem applyConfig_run (config : Value) (s : State) :
    let applied := (Settings.applyOverrides request.flags config).run s.settings
    (applyConfig request config).run s =
      match applied.answer with
      | .error e => ⟨.error (.fault (.config e)), { s with settings := applied.state },
          applied.events⟩
      | .ok threshold => ⟨.ok threshold, adopt { s with settings := applied.state },
          applied.events⟩ := by
  intro applied
  have hrun : (((Settings.applyOverrides request.flags config).mapFault
      (Halt.fault ∘ .config)).within State.settings fun s settings => { s with settings }).run s =
      ⟨applied.answer.mapError (Halt.fault ∘ .config), { s with settings := applied.state },
        applied.events⟩ := rfl
  cases hanswer : applied.answer with
  | error e =>
      rw [hanswer] at hrun
      exact Step.run_bind_of_error hrun
  | ok threshold =>
      rw [hanswer] at hrun
      rw [applyConfig, Step.run_bind_of_ok hrun, Step.run_bind_of_ok (Step.run_modify _ _)]
      simp

theorem configure_run {answer : Except ConfigFault Binary64}
    (h : Configures read world files request answer settings told) :
    (configure read world files request).run (State.start world) =
      match answer with
      | .error e =>
        ⟨.error (.fault (.config e)), { State.start world with settings }, told⟩
      | .ok threshold => ⟨.ok threshold, configured world settings, told⟩ := by
  have hlocate : ∀ {answer warned}, Search read files []
      ((Settings.candidates request.config world.configPath).map (Path.expandHome world.homes))
      answer warned →
      ((Settings.locate read files world.homes request.config world.configPath).mapFault
        (Halt.fault ∘ .config) : Run Value).run (State.start world) =
        ⟨answer.mapError (Halt.fault ∘ .config), State.start world, warned⟩ := by
    intro answer warned hsearch
    rw [Step.run_mapFault, Settings.locate, Settings.locateAmong_run_of_search hsearch]
  cases h with
  | stopped hsearch => exact Step.run_bind_of_error (hlocate hsearch)
  | @found config warned _ _ _ hsearch happlied =>
      have hconfig := @applyConfig_run request config (State.start world)
      rw [show (State.start world).settings = .builtin from rfl, happlied] at hconfig
      rw [configure, Step.run_bind_of_ok (hlocate hsearch), hconfig]
      cases answer <;> rfl

/-! ## How a run goes by its files -/

/-- What a run comes to that ends before its first record: how it ends, and what it has told. -/
def cutShort (invocation : Invocation) (ending : Ending) (told : List Log.Event) : Transcript :=
  ⟨ending, "", Log.lines invocation.logThreshold (.commandStart "check" :: told), []⟩

/-- How a run goes by the files that it reads. Files may hold what the log shows of what was told,
the input that of what was told in configuring. -/
structure GoesByFiles (read : Settings.DocumentReader) (world : World) (invocation : Invocation)
    (request : Command.CheckRequest) (log : Option LogFile) (run : Transcript) : Prop where
  /-- Configuration comes out in some way. -/
  configures : ∃ answer settings told,
    Configures read world (filesTold world invocation log) request answer settings told
  /-- A fault in it ends the run, as wrong usage if it has a message. -/
  unconfigured : ∀ {fault settings told},
    Configures read world (filesTold world invocation log) request (.error fault) settings told →
    run = match fault.message? with
      | some message => cutShort invocation (.exit .usageError) (told ++ [.error message])
      | none => cutShort invocation (.fault (.config fault)) told
  /-- An input without records ends the run with the code for its reason, which is told. -/
  unread : ∀ {threshold settings told fault},
    Configures read world (filesTold world invocation log) request (.ok threshold) settings told →
    Reads (inputAt world (filesTold world invocation log told) request.input) (.error fault) →
    run = cutShort invocation (.exit fault.code) (told ++ [.error (fault.message request.input)])
  /-- Otherwise the records are checked. -/
  checked : ∀ {threshold settings told records},
    Configures read world (filesTold world invocation log) request (.ok threshold) settings told →
    Reads (inputAt world (filesTold world invocation log told) request.input) (.ok records) →
    let ended := (checkRecords (settings.checker request.offline (.real threshold)
      (some fun _ => none)) records).run (configured world settings)
    run = Command.conclude invocation.logThreshold
      ⟨ended.answer, ended.state, .commandStart "check" :: (told ++ ended.events)⟩
  /-- The code for file errors is used for such inputs and for nothing else. -/
  fileError : run.ending = .exit .fileError ↔ ∃ threshold settings told fault,
    Configures read world (filesTold world invocation log) request (.ok threshold) settings told ∧
    Reads (inputAt world (filesTold world invocation log told) request.input) (.error fault) ∧
    fault.code = .fileError

theorem settle_fault_ne_fileError (e : CommandFault) :
    (Command.settle (.fault e)).1 ≠ .exit .fileError := by
  cases hmessage : e.usageMessage? <;> simp [Command.settle, hmessage]

/-- No check of a record halts by an exit code. -/
theorem checkRecord_failsBy (checker : Checker (License.IdentifierCache Client)) (record : Value) :
    (checkRecord checker record).FailsBy fun halt => ∃ e, halt = .fault e := by
  intro s halt h
  cases hsubject : Subject.ofRecord record with
  | error e =>
      rw [checkRecord_run_of_error hsubject] at h
      exact ⟨.check (.record e), (Except.error.inj h).symm⟩
  | ok subject =>
      cases hcheck : (checker.check subject).run ⟨s.session.evaluation, []⟩ with
      | mk answer session events =>
          rw [checkRecord_run_of_ok hsubject hcheck] at h
          cases answer with
          | error e => exact ⟨.check e, (Except.error.inj h).symm⟩
          | ok verdict => cases h

theorem checkRecords_failsBy (checker : Checker (License.IdentifierCache Client))
    (records : List Value) :
    (checkRecords checker records).FailsBy fun halt => ∃ e, halt = .fault e := by
  induction records with
  | nil =>
      intro s halt h
      cases h
  | cons record rest ih =>
      apply Step.failsBy_bind (checkRecord_failsBy checker record)
      intro _
      exact ih

variable {invocation : Invocation} {log : Option LogFile} {threshold : Binary64}
  {arguments : List Text}

/-- A run that halts before its first record has printed nothing and made no request. -/
theorem conclude_of_halt {halt : Halt} {t : State} (houtput : t.output = "")
    (hrequests : t.session.evaluation.source.requests = []) (told : List Log.Event) :
    Command.conclude invocation.logThreshold
      ⟨.error halt, t, .commandStart "check" :: told⟩ =
      cutShort invocation (Command.settle halt).1 (told ++ (Command.settle halt).2) := by
  simp [Command.conclude, cutShort, houtput, hrequests]

section

variable (hinvocation : Invocation.ofArguments arguments = .ok invocation)
  (hcommand : invocation.command = .check request)
  (hlog : world.logFile invocation.logFile = .ok log)

include hinvocation hcommand hlog

theorem runArguments_of_configFault {fault : ConfigFault}
    (h : Configures read world (filesTold world invocation log) request (.error fault) settings
      told) :
    Command.runArguments read world arguments = match fault.message? with
      | some message => cutShort invocation (.exit .usageError) (told ++ [.error message])
      | none => cutShort invocation (.fault (.config fault)) told := by
  have hmessage : (CommandFault.config fault).usageMessage? = fault.message? := rfl
  rw [runArguments_eq_conclude hinvocation hcommand hlog,
    run_of_configure_error (configure_run h), conclude_of_halt rfl rfl]
  cases hfault : fault.message? <;> simp [Command.settle, hmessage, hfault]

theorem runArguments_of_inputFault {fault : InputFault}
    (h : Configures read world (filesTold world invocation log) request (.ok threshold) settings
      told)
    (hinput : Reads (inputAt world (filesTold world invocation log told) request.input)
      (.error fault)) :
    Command.runArguments read world arguments =
      cutShort invocation (.exit fault.code) (told ++ [.error (fault.message request.input)]) := by
  obtain ⟨halt, events, hrecords, hcode, hmessage⟩ :=
    records_run_of_fault hinput (configured world settings)
  rw [runArguments_eq_conclude hinvocation hcommand hlog, run_of_configure (configure_run h),
    checkInput_of_records_error hrecords, conclude_of_halt rfl rfl, hcode, List.append_assoc,
    hmessage]

theorem runArguments_of_reads {records : List Value}
    (h : Configures read world (filesTold world invocation log) request (.ok threshold) settings
      told)
    (hinput : Reads (inputAt world (filesTold world invocation log told) request.input)
      (.ok records)) :
    let ended := (checkRecords (settings.checker request.offline (.real threshold)
      (some fun _ => none)) records).run (configured world settings)
    Command.runArguments read world arguments = Command.conclude invocation.logThreshold
      ⟨ended.answer, ended.state, .commandStart "check" :: (told ++ ended.events)⟩ := by
  intro ended
  rw [runArguments_eq_conclude hinvocation hcommand hlog, run_of_configure (configure_run h),
    checkInput_of_records (records_run_of_ok hinput _)]
  rfl

theorem exit_fileError_iff : (Command.runArguments read world arguments).ending =
      .exit .fileError ↔
    ∃ threshold settings told fault,
      Configures read world (filesTold world invocation log) request (.ok threshold) settings
        told ∧
      Reads (inputAt world (filesTold world invocation log told) request.input) (.error fault) ∧
      fault.code = .fileError := by
  constructor
  · intro hending
    obtain ⟨answer, settings, told, h⟩ :=
      exists_configures read world (filesTold world invocation log) request
    cases answer with
    | error fault =>
        rw [runArguments_of_configFault hinvocation hcommand hlog h] at hending
        cases hmessage : fault.message? <;> simp [hmessage, cutShort] at hending
    | ok threshold =>
        obtain ⟨outcome, hinput⟩ :=
          exists_reads (inputAt world (filesTold world invocation log told) request.input)
        cases outcome with
        | error fault =>
            rw [runArguments_of_inputFault hinvocation hcommand hlog h hinput] at hending
            exact ⟨threshold, settings, told, fault, h, hinput, Ending.exit.inj hending⟩
        | ok records =>
            rw [runArguments_of_reads hinvocation hcommand hlog h hinput, conclude_ending]
              at hending
            dsimp only at hending
            cases hanswer : ((checkRecords _ records).run (configured world settings)).answer with
            | ok _ =>
                rw [hanswer] at hending
                cases hending
            | error halt =>
                obtain ⟨e, rfl⟩ := checkRecords_failsBy _ records _ halt hanswer
                rw [hanswer] at hending
                exact absurd hending (settle_fault_ne_fileError e)
  · rintro ⟨threshold, settings, told, fault, h, hinput, hcode⟩
    rw [runArguments_of_inputFault hinvocation hcommand hlog h hinput, cutShort, hcode]

end

/-- **A check goes by its files,** whatever bytes they hold and whatever reads configuration.
Candidates are passed over up to the first that gives configuration, with a warning where there is a
file; one that is read up to bytes that are no text, or has a scalar that is none, ends the run. An
input that is missing, cannot be read, is malformed or holds no records ends it with the code for
file errors, which is used for nothing else; one whose bytes are no text, or with a number that is
too long, ends it as wrong usage. In all these cases nothing is printed or requested, and what is
told last is why. -/
theorem check_goes_by_files (read : Settings.DocumentReader) {arguments : List Text}
    (hinvocation : Invocation.ofArguments arguments = .ok invocation)
    (hcommand : invocation.command = .check request)
    (hlog : world.logFile invocation.logFile = .ok log) :
    GoesByFiles read world invocation request log (Command.runArguments read world arguments) where
  configures := exists_configures read world (filesTold world invocation log) request
  unconfigured := runArguments_of_configFault hinvocation hcommand hlog
  unread := runArguments_of_inputFault hinvocation hcommand hlog
  checked := runArguments_of_reads hinvocation hcommand hlog
  fileError := exit_fileError_iff hinvocation hcommand hlog

/-- `check --offline -c c.yml in.json` -/
def fileRequest : Command.CheckRequest :=
  ⟨"in.json".toList, "c.yml".toList, true, ⟨.null, .null⟩⟩

def fileArguments : List Text :=
  ["check", "--offline", "-c", "c.yml", "in.json"].map String.toList

/-- A desk with files on it. -/
def filing (entries : List (Text × Entry)) : World where
  files path := (entries.lookup path).getD .missing
  openLog _ := .error .refused
  directory := "/work".toList
  homes := ⟨"/home".toList, fun _ => none⟩
  configPath := []
  input := []
  clock := .int 0
  network := []

/-- Two candidates are no configuration, and the input is malformed. -/
theorem clutter_before_malformed_input :
    let world := filing [("c.yml".toList, Settings.fileOf "[\n"),
      ("freecheck.yml".toList, Settings.fileOf "- a\n"),
      ("in.json".toList, Settings.fileOf "\x7b")]
    let invocation : Invocation := ⟨.check fileRequest, Log.warningLevel, []⟩
    Invocation.ofArguments fileArguments = .ok invocation ∧
    world.logFile invocation.logFile = .ok none ∧
    Configures Settings.yamlReader world (filesTold world invocation none) fileRequest
      (.ok builtinThreshold) .builtin
      [.unreadableConfig "c.yml".toList "...", .configNoMapping "freecheck.yml".toList] ∧
    Reads (inputAt world world.files fileRequest.input) (.error .malformed) ∧
    Command.runArguments Settings.yamlReader world fileArguments = ⟨.exit .fileError, "",
      Log.lines Log.warningLevel [.commandStart "check",
        .unreadableConfig "c.yml".toList "...", .configNoMapping "freecheck.yml".toList,
        .error "Could not read in.json: ..., aborting"], []⟩ := by
  intro world invocation
  have hinvocation : Invocation.ofArguments fileArguments = .ok invocation := rfl
  have hlog : world.logFile invocation.logFile = .ok none := rfl
  have hopen : Settings.yamlReader (Text.withLineFeeds "[\n".toList) = .error .malformed := by cbv
  have hlist : Settings.yamlReader (Text.withLineFeeds "- a\n".toList) =
      .ok (.list [.ofString "a"]) := by cbv
  have hbrace : Json.read (Text.withLineFeeds "\x7b".toList) = .error .malformed := by cbv
  have hsearch : Search Settings.yamlReader (filesTold world invocation none) []
      ((Settings.candidates fileRequest.config world.configPath).map (Path.expandHome world.homes))
      (.ok (.map []))
      [.unreadableConfig "c.yml".toList "...", .configNoMapping "freecheck.yml".toList] := by
    refine .passedOver (.malformed rfl (.inl ⟨"[\n".toList, rfl, hopen⟩)) ?_
    refine .passedOver (@Settings.Look.Gives.noConfig _ _ "- a\n".toList _ rfl hlist rfl) ?_
    exact .passedOver (.noFile rfl) (.passedOver (.noFile rfl) (.nothing _))
  have happlied : (Settings.applyOverrides fileRequest.flags (.map [])).run .builtin =
      ⟨.ok builtinThreshold, .builtin, []⟩ := rfl
  have hconfigures := Configures.found hsearch happlied
  have hinput : Reads (inputAt world world.files fileRequest.input) (.error .malformed) :=
    .malformed hbrace
  refine ⟨hinvocation, hlog, hconfigures, hinput, ?_⟩
  rw [(check_goes_by_files Settings.yamlReader hinvocation rfl hlog).unread hconfigures hinput]
  rfl

/-- The byte `0xff` writes no text. As configuration it is not passed over, and as input it is no
file error: both are told as wrong usage. -/
theorem bytes_without_text_are_wrong_usage :
    let invocation : Invocation := ⟨.check fileRequest, Log.warningLevel, []⟩
    let asInput := Command.runArguments Settings.yamlReader
      (filing [("in.json".toList, .file [0xff])]) fileArguments
    let asConfiguration := Command.runArguments Settings.yamlReader
      (filing [("c.yml".toList, .file [0xff]), ("in.json".toList, Settings.fileOf "[]")])
      fileArguments
    Invocation.ofArguments fileArguments = .ok invocation ∧
    (∀ text, [0xff] ≠ Utf8.encode text) ∧
    asInput.ending = .exit .usageError ∧ asInput.ending ≠ .exit .fileError ∧
    asConfiguration.ending = .exit .usageError ∧ asConfiguration.ending ≠ .exit .success := by
  intro invocation asInput asConfiguration
  have hinput : asInput.ending = .exit .usageError := rfl
  have hconfiguration : asConfiguration.ending = .exit .usageError := rfl
  refine ⟨rfl, Utf8.decode_eq_none_iff.mp rfl, hinput, ?_, hconfiguration, ?_⟩
  · rw [hinput]
    rintro ⟨⟩
  · rw [hconfiguration]
    rintro ⟨⟩

end Check
end DistroBallot
