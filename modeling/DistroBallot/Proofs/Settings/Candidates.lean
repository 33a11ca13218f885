import DistroBallot.Settings.Locate
import Mathlib

/-!
# The first candidate prevails

The search for configuration looks at one path after the other. What stands there at that moment
decides alone what comes of a look (`Look`): the configuration is found, or the path is passed over,
in silence or with a warning. So the answer and the log of a whole search are read off the looks, as
the first configuration among them and the warnings about those before it (`locateAmong_run`). A
warning may be written to a file that is looked at later; this is why what is found depends on the
warnings so far (`looks`). Where files stay as they are, it does not (`looks_of_steady`).

How a document is read is left open. The one thing that is asked of a reader is that it either gives
a value or refuses the text as malformed.
-/

namespace DistroBallot
namespace Settings

variable {σ : Type}

/-! ## One look -/

/-- A path that has been looked at, with what stood there at that moment. -/
structure Look where
  path : Text
  entry : Entry

/-- The configuration that a document is: a map, or an empty one for what counts as nothing. -/
def configOf? : Value → Option Value
  | .map entries => some (.map entries)
  | v => if v.isTruthy then none else some (.map [])

namespace Look

variable (read : DocumentReader)

/-- The document that was found: that of a regular file whose text could be read. -/
def document? (l : Look) : Option Value :=
  match l.entry with
  | .file bytes => (Utf8.decode bytes).bind fun text => (read text.withLineFeeds).toOption
  | _ => none

/-- The configuration that was found. -/
def config? (l : Look) : Option Value := (l.document? read).bind configOf?

/-- The warning about a regular file without configuration in it. -/
def warning? (l : Look) : Option Log.Event :=
  match l.entry.isRegular, l.config? read with
  | true, none =>
    some (if (l.document? read).isSome then .configNoMapping l.path
      else .unreadableConfig l.path "...")
  | _, _ => none

/-- A regular file that was found and could be read is text, which is a document or malformed; or it
is malformed before the first byte that is no text. -/
def Legible (l : Look) : Prop :=
  ∀ bytes, l.entry = .file bytes →
    (∃ text, Utf8.decode bytes = some text ∧
      ∀ fault, read text.withLineFeeds ≠ .error (.scalar fault)) ∨
    (Utf8.decode bytes = none ∧ read.refuses? bytes = some .malformed)

variable {read}

theorem warning?_isSome_iff {l : Look} (h : l.config? read = none) :
    (l.warning? read).isSome = true ↔ l.entry.isRegular = true := by
  unfold warning?
  cases hregular : l.entry.isRegular <;> simp [h]

theorem warning?_of_config? {l : Look} {config : Value} (h : l.config? read = some config) :
    l.warning? read = none := by
  unfold warning?
  cases hregular : l.entry.isRegular <;> simp [h]

theorem level_of_warning? {l : Look} {e : Log.Event} (h : l.warning? read = some e) :
    e.level = Log.warningLevel := by
  unfold warning? at h
  split at h
  · obtain rfl := Option.some.inj h
    split <;> rfl
  · cases h

end Look

theorem ofDocument_run {read : DocumentReader} {path text : Text}
    (h : ∀ fault, read text ≠ .error (.scalar fault)) (s : σ) :
    (ofDocument read path text).run s =
      ⟨.ok ((read text).toOption.bind configOf?), s,
        match (read text).toOption with
        | none => [.unreadableConfig path "..."]
        | some v => if (configOf? v).isSome then [] else [.configNoMapping path]⟩ := by
  unfold ofDocument
  cases hread : read text with
  | error e =>
      cases e with
      | malformed => rfl
      | scalar fault => exact absurd hread (h fault)
  | ok v =>
      have hnoMap : (∀ entries, v ≠ .map entries) →
          ((if v.isTruthy then do
              Step.tell (.configNoMapping path)
              return none
            else pure (some (.map [])) : Step ConfigFault σ (Option Value)).run s) =
          ⟨.ok (configOf? v), s,
            if (configOf? v).isSome then [] else [.configNoMapping path]⟩ := by
        intro hv
        have hconfig : configOf? v = if v.isTruthy then none else some (.map []) := by
          cases v with
          | map entries => exact absurd rfl (hv entries)
          | _ => rfl
        rw [hconfig]
        by_cases htruthy : v.isTruthy = true
        · rw [if_pos htruthy, if_pos htruthy]
          rfl
        · rw [if_neg htruthy, if_neg htruthy]
          rfl
      cases v with
      | map entries => rfl
      | _ => exact hnoMap fun _ => by simp

/-- **What comes of a look** is the configuration that is found there, or a warning, or neither. -/
theorem ofEntry_run {read : DocumentReader} {path : Text} {entry : Entry}
    (h : (Look.mk path entry).Legible read) (s : σ) :
    (ofEntry read path entry).run s =
      ⟨.ok ((Look.mk path entry).config? read), s,
        ((Look.mk path entry).warning? read).toList⟩ := by
  cases entry with
  | locked => rfl
  | missing => rfl
  | unreadable => rfl
  | file bytes =>
      rcases h bytes rfl with ⟨text, htext, hread⟩ | ⟨htext, hrefuses⟩
      · simp only [ofEntry, Look.warning?, Look.config?, Look.document?, htext, Option.bind_some,
          Entry.isRegular]
        rw [ofDocument_run hread]
        cases (read text.withLineFeeds).toOption with
        | none => rfl
        | some v =>
            simp only [Option.bind_some, Option.isSome_some]
            cases configOf? v <;> rfl
      · simp only [ofEntry, Look.warning?, Look.config?, Look.document?, htext, hrefuses,
          Option.bind_none, Entry.isRegular]
        rfl

/-! ## The search -/

/-- The looks at paths one after the other: under each of them is found what stands there after the
warnings about those before. -/
def looks (read : DocumentReader) (files : List Log.Event → Files) :
    List Log.Event → List Text → List Look
  | _, [] => []
  | told, path :: rest =>
    let look : Look := ⟨path, (files told).entry path⟩
    look :: looks read files (told ++ (look.warning? read).toList) rest

theorem looks_of_steady (read : DocumentReader) (files : Files) (told : List Log.Event)
    (paths : List Text) :
    looks read (fun _ => files) told paths = paths.map fun path => ⟨path, files.entry path⟩ := by
  induction paths generalizing told with
  | nil => rfl
  | cons path rest ih => rw [looks, ih, List.map_cons]

/-- The looks before the first configuration is found. -/
def passedOver (read : DocumentReader) (found : List Look) : List Look :=
  found.takeWhile fun l => (l.config? read).isNone

variable {read : DocumentReader} {files : List Log.Event → Files}

theorem passedOver_cons_of_some {l : Look} {config : Value} (h : l.config? read = some config)
    (rest : List Look) : passedOver read (l :: rest) = [] := by
  simp [passedOver, h]

theorem passedOver_cons_of_none {l : Look} (h : l.config? read = none) (rest : List Look) :
    passedOver read (l :: rest) = l :: passedOver read rest := by
  simp [passedOver, h]

/-- One look at the head of the paths, and what follows it. -/
theorem locateAmong_run_cons {path : Text} {told : List Log.Event}
    (h : (Look.mk path ((files told).entry path)).Legible read) (rest : List Text) (s : σ) :
    let look : Look := ⟨path, (files told).entry path⟩
    (locateAmong read files told (path :: rest)).run s =
      match look.config? read with
      | some config => ⟨.ok config, s, []⟩
      | none =>
        let warned := (look.warning? read).toList
        let later := (locateAmong read files (told ++ warned) rest).run s
        ⟨later.answer, later.state, warned ++ later.events⟩ := by
  intro look
  have hlook : ((ofEntry read path ((files told).entry path)).listen :
      Step ConfigFault σ (Option Value × List Log.Event)).run s =
      ⟨.ok (look.config? read, (look.warning? read).toList), s, (look.warning? read).toList⟩ := by
    rw [Step.run_listen, ofEntry_run h]
    rfl
  rw [locateAmong, Step.run_bind_of_ok hlook]
  cases hconfig : look.config? read with
  | some config =>
      rw [Look.warning?_of_config? hconfig]
      rfl
  | none => rfl

/-- **The search is decided by what is found**: it answers with the first configuration, and warns
about the regular files before it. -/
theorem locateAmong_run {told : List Log.Event} {paths : List Text}
    (h : ∀ l ∈ looks read files told paths, l.Legible read) (s : σ) :
    let found := looks read files told paths
    (locateAmong read files told paths).run s =
      ⟨.ok ((found.findSome? (·.config? read)).getD (.map [])), s,
        (passedOver read found).filterMap (·.warning? read)⟩ := by
  induction paths generalizing told with
  | nil => rfl
  | cons path rest ih =>
      rw [looks] at h ⊢
      rw [locateAmong_run_cons (h _ List.mem_cons_self)]
      have hrest := ih fun l hl => h l (List.mem_cons_of_mem _ hl)
      dsimp only at hrest ⊢
      cases hconfig : (Look.mk path ((files told).entry path)).config? read with
      | some config =>
          rw [passedOver_cons_of_some hconfig, List.findSome?_cons, hconfig]
          rfl
      | none =>
          rw [passedOver_cons_of_none hconfig, List.findSome?_cons, hconfig, hrest,
            List.filterMap_cons]
          cases (Look.mk path ((files told).entry path)).warning? read <;> rfl

/-- Files that differ only behind the first configuration are searched in the same way. -/
theorem locateAmong_run_congr {files' : List Log.Event → Files} {told : List Log.Event}
    {paths : List Text} (h : ∀ l ∈ looks read files told paths, l.Legible read)
    (hsame : ∀ told', ∀ path ∈ paths.take
        ((passedOver read (looks read files told paths)).length + 1),
      (files' told').entry path = (files told').entry path) (s : σ) :
    (locateAmong read files' told paths).run s = (locateAmong read files told paths).run s := by
  induction paths generalizing told with
  | nil => rfl
  | cons path rest ih =>
      rw [looks] at h hsame
      have hlegible := h _ List.mem_cons_self
      have hpath : (files' told).entry path = (files told).entry path :=
        hsame told path (by rw [List.take_succ_cons]; exact List.mem_cons_self)
      rw [locateAmong_run_cons hlegible, locateAmong_run_cons (hpath ▸ hlegible), hpath]
      cases hconfig : (Look.mk path ((files told).entry path)).config? read with
      | some config => rfl
      | none =>
          rw [passedOver_cons_of_none hconfig, List.length_cons] at hsame
          have hrest := ih (fun l hl => h l (List.mem_cons_of_mem _ hl)) fun told' path' hpath' =>
            hsame told' path' (by rw [List.take_succ_cons]; exact List.mem_cons_of_mem _ hpath')
          simp only [hrest]

/-- **The first candidate that holds configuration prevails.** Candidates are a path that is given,
one that the environment names, and the default locations, with the home directories put in. The
answer is the first configuration that is found under them, or an empty one if there is none, and it
is always there. Each regular file before it is told in one warning, in order, and nothing else is.
Files that differ only behind the first configuration, whatever they hold there, make no
difference. -/
theorem first_candidate_prevails (read : DocumentReader) (files : List Log.Event → Files)
    (homes : Path.Homes) (given environment : Text) (s : σ) :
    let places := ([given, environment].filter (fun path => !path.isEmpty) ++
      ["freecheck.yml".toList, "freecheck.yaml".toList,
        "~/.config/freecheck/freecheck.yml".toList]).map (Path.expandHome homes)
    let found := looks read files [] places
    let passed := passedOver read found
    let ended := (locate read files homes given environment).run s
    (∀ l ∈ found, l.Legible read) →
    ended = ⟨.ok ((found.findSome? (·.config? read)).getD (.map [])), s,
      passed.filterMap (·.warning? read)⟩ ∧
    (∀ l ∈ passed, (l.warning? read).isSome = true ↔ l.entry.isRegular = true) ∧
    (∀ e ∈ ended.events, e.level = Log.warningLevel) ∧
    ∀ files' : List Log.Event → Files,
      (∀ told, ∀ path ∈ places.take (passed.length + 1),
        (files' told).entry path = (files told).entry path) →
      (locate read files' homes given environment).run s = ended := by
  intro places found passed ended hlegible
  have hended : ended = ⟨.ok ((found.findSome? (·.config? read)).getD (.map [])), s,
      passed.filterMap (·.warning? read)⟩ := locateAmong_run hlegible s
  refine ⟨hended, ?_, ?_, ?_⟩
  · intro l hl
    have hnone := List.mem_takeWhile_imp hl
    exact Look.warning?_isSome_iff (Option.isNone_iff_eq_none.mp hnone)
  · intro e he
    rw [hended] at he
    obtain ⟨l, -, hl⟩ := List.mem_filterMap.mp he
    exact Look.level_of_warning? hl
  · intro files' hsame
    exact locateAmong_run_congr hlegible hsame s

/-- A regular file with a text in it. -/
def fileOf (t : String) : Entry := .file (t.toList.flatMap String.utf8EncodeChar)

theorem legible_fileOf {path : Text} {t : String} {outcome : Except Yaml.Error Value}
    (htext : (Utf8.decode (t.toList.flatMap String.utf8EncodeChar)).map Text.withLineFeeds =
      some t.toList)
    (hread : read t.toList = outcome) (houtcome : ∀ fault, outcome ≠ .error (.scalar fault)) :
    (Look.mk path (fileOf t)).Legible read := by
  intro bytes hbytes
  obtain rfl := Entry.file.inj hbytes
  obtain ⟨text, hdecoded, hfeeds⟩ := Option.map_eq_some_iff.mp htext
  refine .inl ⟨text, hdecoded, ?_⟩
  rw [hfeeds, hread]
  exact houtcome

/-- A list, a malformed text, a directory and a map, and one more entry at home. -/
def manyFiles (last : Entry) : Files := fun path =>
  if path = "a.yml".toList then fileOf "- a\n"
  else if path = "/h/b.yml".toList then fileOf "[\n"
  else if path = "freecheck.yml".toList then .unreadable
  else if path = "freecheck.yaml".toList then fileOf "freedom: \x7b\x7d\n"
  else if path = "/h/.config/freecheck/freecheck.yml".toList then last
  else .missing

theorem fourth_of_many_files_prevails :
    let places := ["a.yml".toList, "/h/b.yml".toList, "freecheck.yml".toList,
      "freecheck.yaml".toList, "/h/.config/freecheck/freecheck.yml".toList]
    let homes : Path.Homes := ⟨"/h".toList, fun _ => none⟩
    let locating (last : Entry) := (locate yamlReader (fun _ => manyFiles last) homes
      "a.yml".toList "~/b.yml".toList).run ()
    (∀ l ∈ looks yamlReader (fun _ => manyFiles .missing) [] places, l.Legible yamlReader) ∧
    locating .missing = ⟨.ok (.map [(.ofString "freedom", .map [])]), (),
      [.configNoMapping "a.yml".toList, .unreadableConfig "/h/b.yml".toList "..."]⟩ ∧
    ∀ last, locating last = locating .missing := by
  intro places homes locating
  have hfound : looks yamlReader (fun _ => manyFiles .missing) [] places =
      [⟨"a.yml".toList, fileOf "- a\n"⟩, ⟨"/h/b.yml".toList, fileOf "[\n"⟩,
        ⟨"freecheck.yml".toList, .unreadable⟩,
        ⟨"freecheck.yaml".toList, fileOf "freedom: \x7b\x7d\n"⟩,
        ⟨"/h/.config/freecheck/freecheck.yml".toList, .missing⟩] := by
    rw [looks_of_steady]
    rfl
  have hlegible : ∀ l ∈ looks yamlReader (fun _ => manyFiles .missing) [] places,
      l.Legible yamlReader := by
    have hlist : Yaml.read "- a\n".toList = .ok (.list [.ofString "a"]) := by cbv
    have hopen : Yaml.read "[\n".toList = .error .malformed := by cbv
    have hmap : Yaml.read "freedom: \x7b\x7d\n".toList =
        .ok (.map [(.ofString "freedom", .map [])]) := by cbv
    rw [hfound]
    simp only [List.forall_mem_cons]
    refine ⟨legible_fileOf (by decide +kernel) hlist ?_,
      legible_fileOf (by decide +kernel) hopen ?_, ?_,
      legible_fileOf (by decide +kernel) hmap ?_, ?_, ?_⟩ <;>
    · intro _ h
      cases h
  obtain ⟨hended, -, -, hsame⟩ := first_candidate_prevails yamlReader
    (fun _ => manyFiles .missing) homes "a.yml".toList "~/b.yml".toList () hlegible
  change locating .missing = Ended.mk (.ok (((looks yamlReader _ [] places).findSome? _).getD _)) ()
    (List.filterMap _ (passedOver yamlReader (looks yamlReader _ [] places))) at hended
  have hthree : (passedOver yamlReader (looks yamlReader (fun _ => manyFiles .missing) []
      places)).length = 3 := by
    rw [hfound]
    cbv
  refine ⟨hlegible, ?_, ?_⟩
  · rw [hended, hfound]
    cbv
  · intro last
    refine hsame (fun _ => manyFiles last) ?_
    intro told path hpath
    change path ∈ places.take ((passedOver yamlReader (looks yamlReader _ [] places)).length + 1)
      at hpath
    rw [hthree] at hpath
    simp only [places, List.take_succ_cons, List.take_zero, List.mem_cons, List.not_mem_nil,
      or_false] at hpath
    rcases hpath with rfl | rfl | rfl | rfl <;> rfl

end Settings
end DistroBallot
