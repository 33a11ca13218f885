import DistroBallot.Proofs.Number.Clock
import DistroBallot.Proofs.Settings.Changes
import Mathlib

/-!
# The last configuration prevails

Configuration is applied again and again to the same settings, and some calls stop with a fault half
way. Whatever a call is given, all that it puts into the settings is usable, also when it stops; and
when it comes to its end it has put there the URL and the groups that it gives
(`Override.applyOverrides_writes`).

So the settings are usable after each call of any sequence, and where all calls come to their end
the last one that gives a URL or groups prevails (`last_override_prevails`). The threshold is not
kept: each call answers with its own.
-/

namespace DistroBallot

/-! ## Values that count as given are never written as nothing -/

namespace Binary64

theorem positional_ne_nil (digits : Text) (point : ℤ) : positional digits point ≠ [] := by
  unfold positional
  split_ifs <;> simp

theorem scientific_ne_nil (digits : Text) (point : ℤ) : scientific digits point ≠ [] := by
  unfold scientific
  split <;> simp [exponentText]

theorem text_ne_nil (x : Binary64) : x.text ≠ [] := by
  have hmagnitude : ∀ significand exponent, magnitudeText significand exponent ≠ [] := by
    intro significand exponent
    unfold magnitudeText
    split
    split_ifs
    · exact positional_ne_nil _ _
    · exact scientific_ne_nil _ _
  cases x with
  | nan => simp [text]
  | infinite negative => cases negative <;> simp [text]
  | finite negative significand exponent => cases negative <;> simp [text, hmagnitude]

end Binary64

namespace Value

theorem quoted_ne_nil (v : Value) : v.quoted ≠ [] := by
  cases v with
  | null => simp [quoted]
  | bool b => cases b <;> simp [quoted]
  | int n =>
      rw [quoted, Ne, String.toList_eq_nil_iff]
      cases n with
      | ofNat n => exact Nat.repr_ne_empty
      | negSucc n => simp [toString, Int.repr]
  | real x => exact x.text_ne_nil
  | text t => simp [quoted, Text.quoted]
  | moment m => simp [quoted, Moment.constructed]
  | bytes bs => simp [quoted, Text.quotedBytes]
  | list items => simp [quoted]
  | pair v w => simp [quoted]
  | set items => cases items <;> simp [quoted]
  | map entries => simp [quoted]

theorem display_ne_nil {v : Value} (h : v.isTruthy = true) : v.display ≠ [] := by
  cases v with
  | text t => simpa [isTruthy, display] using h
  | moment m => simp [display, Moment.text]
  | _ => exact quoted_ne_nil _

end Value

/-! ## Thresholds -/

namespace Binary64

/-- A number from zero on and below one. -/
def InUnit : Binary64 → Prop
  | .finite negative significand exponent =>
    0 ≤ value negative significand exponent ∧ value negative significand exponent < 1
  | _ => False

instance (x : Binary64) : Decidable x.InUnit :=
  match x with
  | .finite negative significand exponent =>
    inferInstanceAs (Decidable (0 ≤ value negative significand exponent ∧
      value negative significand exponent < 1))
  | .infinite _ => inferInstanceAs (Decidable False)
  | .nan => inferInstanceAs (Decidable False)

end Binary64

namespace Settings

open Binary64

theorem isThreshold_iff (x : Binary64) : isThreshold x = true ↔ x.InUnit := by
  cases x with
  | nan => simp [isThreshold, compareInt?, InUnit]
  | infinite negative => cases negative <;> simp [isThreshold, compareInt?, InUnit, infiniteOrder]
  | finite negative significand exponent =>
      have hzero := compareDyadic_eq_lt_iff
        (if negative then -(significand : ℤ) else significand) exponent 0 0
      have hone := compareDyadic_eq_lt_iff
        (if negative then -(significand : ℤ) else significand) exponent 1 0
      rw [Int.cast_zero, zero_mul] at hzero
      rw [Int.cast_one, zpow_zero, one_mul] at hone
      simp only [isThreshold, compareInt?, InUnit, value, Option.any_some, Bool.and_eq_true,
        bne_iff_ne, beq_iff_eq, Option.some_inj]
      rw [Ne, hzero, hone, not_lt]

/-- The threshold without configuration is one half. -/
theorem builtinThreshold_eq_half :
    ∃ significand exponent, builtinThreshold = .finite false significand exponent ∧
      value false significand exponent = 1 / 2 := by
  refine ⟨2 ^ 52, -53, by decide +kernel, ?_⟩
  rw [value]
  norm_num

theorem inUnit_builtinThreshold : builtinThreshold.InUnit := by
  obtain ⟨significand, exponent, heq, hvalue⟩ := builtinThreshold_eq_half
  rw [heq, InUnit, hvalue]
  norm_num

/-- The threshold that a value gives, if it gives one. -/
def usableThreshold? (v : Value) : Option Binary64 :=
  (toReal? v).toOption.join.filter fun x => decide x.InUnit

theorem inUnit_of_usableThreshold? {v : Value} {x : Binary64} (h : usableThreshold? v = some x) :
    x.InUnit := by
  have hfilter := (Option.filter_eq_some_iff.mp h).2
  exact of_decide_eq_true hfilter

theorem threshold?_eq_ok {v : Value} {found : Option Binary64} (h : threshold? v = .ok found) :
    found = usableThreshold? v := by
  unfold threshold? at h
  unfold usableThreshold?
  cases hreal : toReal? v with
  | error e =>
      rw [hreal] at h
      cases h
  | ok real =>
      rw [hreal] at h
      obtain rfl := Except.ok.inj h
      show real.filter isThreshold = real.filter _
      congr
      funext x
      rw [Bool.eq_iff_iff, isThreshold_iff, decide_eq_true_iff]

end Settings

/-! ## What the sections put into the settings -/

namespace Settings

open Step

theorem overrideThreshold_writes (before : Binary64) (given : Value) (refusal : Log.Event) :
    (overrideThreshold before given refusal).Writes fun answer c =>
      c = {} ∧ ∀ x, answer = .ok x → x = (usableThreshold? given).getD before := by
  unfold overrideThreshold
  apply writes_ofExcept_bind
  · intro e _
    simp
  · intro found h
    rw [← threshold?_eq_ok h]
    cases found with
    | some x => exact writes_pure (by simp)
    | none =>
        have htold : (Step.tell refusal).Writes fun _ c => c = {} := writes_tell rfl
        apply writes_bind htold
        · rintro e c rfl
          simp
        · rintro _ c rfl
          exact writes_pure (by simp [Changes.andThen])

theorem usableThreshold?_null : usableThreshold? .null = none := rfl

theorem applyFreedom_writes (config : Value) :
    (applyFreedom config).Writes fun answer c =>
      c = {} ∧ ∀ x, answer = .ok x →
        x = (usableThreshold? ((configSection config "freedom").field "threshold")).getD
          builtinThreshold := by
  unfold applyFreedom Value.field
  split
  · next h =>
      rw [h]
      exact writes_pure (by simp [usableThreshold?_null])
  · next given h =>
      rw [h]
      exact overrideThreshold_writes _ _ _

/-- The URL that a value gives, if it gives one. -/
def givenUrl? (v : Value) : Option Text :=
  if v.isTruthy then some v.display else none

/-- The groups that a value gives, if it lists any. -/
def givenCategories? : Value → Option (List Text)
  | .list (item :: rest) => some ((item :: rest).map Value.display)
  | _ => none

theorem usable_givenUrl? (v : Value) : Changes.Usable { groupsUrl := (givenUrl? v).map .text } where
  groupsUrl := by
    unfold givenUrl?
    split
    · next h => simpa using Value.display_ne_nil h
    · simp
  categories := by simp
  retries := by simp

theorem usable_givenCategories? (v : Value) :
    Changes.Usable { categories := givenCategories? v } where
  groupsUrl := by simp
  categories := by
    unfold givenCategories?
    split <;> simp
  retries := by simp

theorem writtenOut_eq_ok {v : Value} {t : Text} (h : writtenOut v = .ok t) : t = v.display := by
  unfold writtenOut at h
  split at h
  · exact (Except.ok.inj h).symm
  · cases h

theorem mapM_writtenOut_eq_ok {items : List Value} {ts : List Text}
    (h : items.mapM writtenOut = .ok ts) : ts = items.map Value.display := by
  induction items generalizing ts with
  | nil => exact (Except.ok.inj h).symm
  | cons v items ih =>
      rw [List.mapM_cons] at h
      cases hv : writtenOut v with
      | error e =>
          rw [hv] at h
          cases h
      | ok t =>
          rw [hv] at h
          cases hitems : items.mapM writtenOut with
          | error e =>
              rw [hitems] at h
              cases h
          | ok rest =>
              rw [hitems] at h
              rw [← Except.ok.inj h, List.map_cons, writtenOut_eq_ok hv, ih hitems]

theorem applyGroupsUrl_writes (given : Value) :
    (applyGroupsUrl given).Writes fun answer c =>
      c.Usable ∧ ∀ u, answer = .ok u → c = { groupsUrl := (givenUrl? given).map .text } := by
  have husable := usable_givenUrl? given
  unfold applyGroupsUrl
  split
  · next h =>
      apply writes_ofExcept_bind
      · intro e _
        exact ⟨Changes.usable_empty, by simp⟩
      · intro url hurl
        have hgiven : givenUrl? given = some url := by
          rw [givenUrl?, if_pos h, writtenOut_eq_ok hurl]
        rw [hgiven] at husable ⊢
        exact writes_modify { groupsUrl := some (.text url) } (fun _ => rfl)
          ⟨husable, fun _ _ => rfl⟩
  · next h =>
      have hgiven : givenUrl? given = none := by rw [givenUrl?, if_neg h]
      rw [hgiven]
      exact writes_pure ⟨Changes.usable_empty, fun _ _ => rfl⟩

theorem applyCategories_writes (given : Value) :
    (applyCategories given).Writes fun answer c =>
      c.Usable ∧ ∀ u, answer = .ok u → c = { categories := givenCategories? given } := by
  have husable := usable_givenCategories? given
  unfold applyCategories
  split
  · next item rest =>
      apply writes_ofExcept_bind
      · intro e _
        exact ⟨Changes.usable_empty, by simp⟩
      · intro categories h
        have hgiven : givenCategories? (.list (item :: rest)) = some categories := by
          rw [givenCategories?, mapM_writtenOut_eq_ok h]
        rw [hgiven] at husable ⊢
        exact writes_modify { categories := some categories } (fun _ => rfl)
          ⟨husable, fun _ _ => rfl⟩
  · next h =>
      have hgiven : givenCategories? given = none := by
        unfold givenCategories?
        split
        · exact absurd rfl (h _ _)
        · rfl
      rw [hgiven]
      exact writes_pure ⟨Changes.usable_empty, fun _ _ => rfl⟩

theorem applyGentoo_writes (config : Value) :
    (applyGentoo config).Writes fun answer c =>
      c.Usable ∧ ∀ u, answer = .ok u →
        c = { groupsUrl := (givenUrl? ((configSection config "gentoo").field
                "license_groups_url")).map .text
              categories := givenCategories? ((configSection config "gentoo").field
                "categories") } := by
  unfold applyGentoo
  refine writes_bind (applyGroupsUrl_writes _) ?_ ?_
  · rintro e c ⟨husable, -⟩
    exact ⟨husable, by simp⟩
  · rintro u c ⟨husable, hc⟩
    apply (applyCategories_writes _).imp
    rintro answer d ⟨husable', hd⟩
    refine ⟨husable.andThen husable', fun u' hu' => ?_⟩
    rw [hc u rfl, hd u' hu']
    simp [Changes.andThen]

/-- Changes of how requests are made only. -/
structure Changes.OfRequests (c : Changes) : Prop where
  usable : c.Usable
  groupsUrl : c.groupsUrl = none
  categories : c.categories = none

theorem Changes.OfRequests.andThen {c d : Changes} (hc : c.OfRequests) (hd : d.OfRequests) :
    (c.andThen d).OfRequests where
  usable := hc.usable.andThen hd.usable
  groupsUrl := by simp [Changes.andThen, hc.groupsUrl, hd.groupsUrl]
  categories := by simp [Changes.andThen, hc.categories, hd.categories]

theorem Changes.ofRequests_empty : Changes.OfRequests {} := ⟨Changes.usable_empty, rfl, rfl⟩

theorem setInteger_writes (given : Value) {put : ℤ → Settings → Settings} (change : ℤ → Changes)
    (hput : ∀ n s, put n s = (change n).apply s) (hchange : ∀ n, (change n).OfRequests) :
    (setInteger given put).Writes fun _ c => c.OfRequests := by
  unfold setInteger
  split
  · exact writes_pure Changes.ofRequests_empty
  · apply writes_ofExcept_bind
    · intro e _
      exact Changes.ofRequests_empty
    · intro found _
      cases found with
      | none => exact writes_pure Changes.ofRequests_empty
      | some n =>
          have hset : (Step.modify (put n)).Writes fun _ c => c.OfRequests :=
            writes_modify (change n) (hput n) (hchange n)
          apply writes_bind hset
          · intro _ _ h
            exact h
          · intro _ c hc
            exact writes_pure (hc.andThen Changes.ofRequests_empty)

theorem applyHttp_writes (config : Value) :
    (applyHttp config).Writes fun _ c => c.OfRequests := by
  unfold applyHttp
  have htimeout : ∀ n : ℤ, Changes.OfRequests { timeout := some n } := fun n =>
    ⟨⟨by simp, by simp, by simp⟩, rfl, rfl⟩
  have hretries : ∀ n : ℤ, Changes.OfRequests { retries := some (max 1 n) } := fun n =>
    ⟨⟨by simp, by simp, by simp⟩, rfl, rfl⟩
  have htold : ∀ usable : Bool, Step.Writes
      (if usable = true then pure () else tell (.invalidHttp (configSection config "http")))
      fun _ c => c.OfRequests := by
    intro usable
    split
    · exact writes_pure Changes.ofRequests_empty
    · exact writes_tell Changes.ofRequests_empty
  apply writes_bind
    (setInteger_writes _ (fun n => { timeout := some n }) (fun _ _ => rfl) htimeout)
  · intro e c hc
    exact hc
  · intro timeoutUsable c hc
    dsimp only
    split
    · apply writes_bind
        (setInteger_writes _ (fun n => { retries := some (max 1 n) }) (fun _ _ => rfl) hretries)
      · intro e d hd
        exact hc.andThen hd
      · intro usable d hd
        exact (htold usable).imp fun _ _ h => hc.andThen (hd.andThen h)
    · exact (htold false).imp fun _ _ h => hc.andThen h

/-! ## Calls -/

/-- One call that applies configuration: the flags of the command, of which the URL is a text if it
is given, and the configuration that was read. -/
structure Override where
  threshold : Value
  groupsUrl : Option Text
  config : Value

namespace Override

/-- The flags as the command hands them on. -/
def flags (o : Override) : Flags :=
  { threshold := o.threshold
    groupsUrl := match o.groupsUrl with
      | none => .null
      | some url => .text url }

/-- How the call ends in these settings. -/
def run (o : Override) (s : Settings) : Ended ConfigFault Settings Binary64 :=
  (applyOverrides o.flags o.config).run s

/-- What the configuration has under a key in a section; null if it has nothing there. -/
def entry (o : Override) (name key : String) : Value := (configSection o.config name).field key

/-- The threshold of the call: that of the flag if there is a usable one, else that of the
configuration, else the one without configuration. -/
def answer (o : Override) : Binary64 :=
  ((usableThreshold? o.threshold).or (usableThreshold? (o.entry "freedom" "threshold"))).getD
    builtinThreshold

/-- The URL that the call gives, the flag before the configuration. -/
def url? (o : Override) : Option Text :=
  (givenUrl? o.flags.groupsUrl).or (givenUrl? (o.entry "gentoo" "license_groups_url"))

/-- The groups that the call gives. -/
def categories? (o : Override) : Option (List Text) :=
  givenCategories? (o.entry "gentoo" "categories")

end Override

theorem Override.groupsUrl_flags (o : Override) (h : o.flags.groupsUrl.isTruthy = true) :
    o.flags.groupsUrl = .text o.flags.groupsUrl.display := by
  unfold Override.flags at h ⊢
  cases hurl : o.groupsUrl with
  | none =>
      rw [hurl] at h
      cases h
  | some url => rfl

theorem applyFlags_writes (o : Override) (before : Binary64) :
    (applyFlags o.flags before).Writes fun answer c =>
      c.Usable ∧ ∀ x, answer = .ok x →
        x = (usableThreshold? o.threshold).getD before ∧
        c = { groupsUrl := (givenUrl? o.flags.groupsUrl).map .text } := by
  have hset : ∀ threshold : Binary64, Step.Writes
      (if o.flags.groupsUrl.isTruthy = true then do
        Step.modify fun s => { s with groupsUrl := o.flags.groupsUrl }
        pure threshold
      else pure threshold) fun answer c => c.Usable ∧ ∀ x, answer = .ok x →
        x = threshold ∧ c = { groupsUrl := (givenUrl? o.flags.groupsUrl).map .text } := by
    intro threshold
    have husable := usable_givenUrl? o.flags.groupsUrl
    split
    · next h =>
        rw [givenUrl?, if_pos h, Option.map_some, ← o.groupsUrl_flags h] at husable ⊢
        exact ⟨.ok threshold, { groupsUrl := some o.flags.groupsUrl }, [], fun _ => rfl, husable,
          fun x hx => ⟨(Except.ok.inj hx).symm, rfl⟩⟩
    · next h =>
        rw [givenUrl?, if_neg h]
        exact writes_pure ⟨Changes.usable_empty, fun x hx => ⟨(Except.ok.inj hx).symm, rfl⟩⟩
  unfold applyFlags
  dsimp only
  split
  · next h =>
      have hthreshold : usableThreshold? o.threshold = none := by
        rw [show o.threshold = .null from h, usableThreshold?_null]
      rw [hthreshold]
      exact hset before
  · apply writes_bind (overrideThreshold_writes _ _ _)
    · rintro e c ⟨rfl, -⟩
      exact ⟨Changes.usable_empty, by simp⟩
    · rintro threshold c ⟨rfl, hthreshold⟩
      apply (hset threshold).imp
      rintro answer d ⟨husable, hd⟩
      rw [Changes.empty_andThen]
      refine ⟨husable, fun x hx => ?_⟩
      rw [(hd x hx).1, hthreshold threshold rfl]
      exact ⟨rfl, (hd x hx).2⟩

theorem configSection_of_configMap {config usable : Value} (h : configMap config = .ok usable)
    (name : String) : configSection usable name = configSection config name := by
  unfold configMap at h
  split at h
  · rw [← Except.ok.inj h]
  · next hmap =>
      split at h
      · cases h
      · rw [← Except.ok.inj h]
        -- nothing that is not a map has entries
        cases config with
        | map entries => exact absurd rfl (hmap entries)
        | _ => rfl

/-- **A call puts only usable values into the settings, and which it puts there depends on the call
alone.** When it comes to its end it answers with its own threshold, and it has put there the URL
and the groups that it gives. -/
theorem Override.applyOverrides_writes (o : Override) :
    (applyOverrides o.flags o.config).Writes fun answer c =>
      c.Usable ∧ ∀ x, answer = .ok x →
        x = o.answer ∧ c.groupsUrl = o.url?.map .text ∧ c.categories = o.categories? := by
  unfold applyOverrides
  apply writes_ofExcept_bind
  · intro e _
    exact ⟨Changes.usable_empty, by simp⟩
  · intro config hconfig
    have hsection := configSection_of_configMap hconfig
    apply writes_bind (applyFreedom_writes config)
    · rintro e c ⟨rfl, -⟩
      exact ⟨Changes.usable_empty, by simp⟩
    rintro threshold freedom ⟨rfl, hthreshold⟩
    apply writes_bind (applyGentoo_writes config)
    · rintro e gentoo ⟨husable, -⟩
      rw [Changes.empty_andThen]
      exact ⟨husable, by simp⟩
    rintro ⟨⟩ gentoo ⟨husable, hgentoo⟩
    apply writes_bind (applyHttp_writes config)
    · intro e http hhttp
      rw [Changes.empty_andThen]
      exact ⟨husable.andThen hhttp.usable, by simp⟩
    rintro ⟨⟩ http hhttp
    apply (applyFlags_writes o threshold).imp
    rintro answer flags ⟨husable', hflags⟩
    rw [Changes.empty_andThen]
    refine ⟨husable.andThen (hhttp.usable.andThen husable'), fun x hx => ?_⟩
    obtain ⟨rfl, rfl⟩ := hflags x hx
    rw [hthreshold threshold rfl, hgentoo () rfl, hsection, hsection]
    refine ⟨?_, ?_, ?_⟩
    · rw [Override.answer, Option.getD_or]
      rfl
    · rw [Override.url?, Option.map_or]
      simp [Changes.andThen, hhttp.groupsUrl, Override.entry]
    · simp [Changes.andThen, hhttp.categories, Override.categories?, Override.entry]

/-! ## Sequences of calls -/

/-- The settings after calls, one after the other. A call that stops leaves them as they are at
that moment. -/
def after (calls : List Override) (s : Settings) : Settings :=
  calls.foldl (fun s o => (o.run s).state) s

/-- All calls come to their end. -/
def AllReturn : List Override → Settings → Prop
  | [], _ => True
  | o :: rest, s => (∃ x, (o.run s).answer = .ok x) ∧ AllReturn rest (o.run s).state

theorem Override.usable_state (o : Override) {s : Settings} (hs : s.Usable) :
    (o.run s).state.Usable := by
  obtain ⟨answer, c, events, hrun, husable, -⟩ := o.applyOverrides_writes
  rw [Override.run, hrun]
  exact husable.apply hs

theorem after_usable (calls : List Override) {s : Settings} (hs : s.Usable) :
    (after calls s).Usable := by
  induction calls generalizing s with
  | nil => exact hs
  | cons o calls ih => exact ih (o.usable_state hs)

/-- A call that is made again ends in the same way, in the same settings. -/
theorem Override.run_again (o : Override) (s : Settings) : o.run (o.run s).state = o.run s := by
  obtain ⟨answer, c, events, hrun, -⟩ := o.applyOverrides_writes
  simp only [Override.run, hrun, Changes.apply_apply]

theorem Override.of_answer {o : Override} {s : Settings} {x : Binary64}
    (h : (o.run s).answer = .ok x) :
    x = o.answer ∧ (o.run s).state.groupsUrl = (o.url?.map Value.text).getD s.groupsUrl ∧
      (o.run s).state.categories = o.categories?.getD s.categories := by
  obtain ⟨answer, c, events, hrun, -, hpost⟩ := o.applyOverrides_writes
  rw [Override.run, hrun] at h ⊢
  obtain ⟨hx, hurl, hcategories⟩ := hpost x h
  rw [← hurl, ← hcategories]
  exact ⟨hx, rfl, rfl⟩

theorem Override.inUnit_answer (o : Override) : o.answer.InUnit := by
  unfold Override.answer
  cases hflag : usableThreshold? o.threshold with
  | some x => exact inUnit_of_usableThreshold? hflag
  | none =>
      cases hentry : usableThreshold? (o.entry "freedom" "threshold") with
      | some x => exact inUnit_of_usableThreshold? hentry
      | none => exact inUnit_builtinThreshold

/-- What each call puts in the place of what was there, if it gives something, is at the end what
the last one has put there. -/
theorem after_eq_getLast? {τ : Type} {part : Settings → τ} {given : Override → Option τ}
    (hpart : ∀ o s x, (o.run s).answer = .ok x → part (o.run s).state = (given o).getD (part s))
    {calls : List Override} {s : Settings} (h : AllReturn calls s) :
    part (after calls s) = (calls.filterMap given).getLast?.getD (part s) := by
  induction calls generalizing s with
  | nil => rfl
  | cons o calls ih =>
      obtain ⟨⟨x, hx⟩, hrest⟩ := h
      show part (after calls (o.run s).state) = _
      rw [ih hrest, hpart o s x hx]
      cases hgiven : given o with
      | none => rw [List.filterMap_cons_none hgiven, Option.getD_none]
      | some a =>
          rw [List.filterMap_cons_some hgiven, List.getLast?_cons]
          rfl

/-- **The last call that gives a setting prevails.** After each call of a sequence the settings are
usable, also after one that stopped. A call that comes to its end answers with its own threshold,
from zero on and below one, whatever the settings were. Where all calls come to their end, the URL
and the groups are those of the last call that gives any. A call made again changes nothing. -/
theorem last_override_prevails (calls : List Override) :
    (∀ earlier, earlier <+: calls → (after earlier builtin).Usable) ∧
    (∀ o ∈ calls, ∀ s x, (o.run s).answer = .ok x → x = o.answer ∧ x.InUnit) ∧
    (AllReturn calls builtin →
      (after calls builtin).groupsUrl =
        .text ((calls.filterMap Override.url?).getLast?.getD License.Groups.builtinUrl) ∧
      (after calls builtin).categories =
        (calls.filterMap Override.categories?).getLast?.getD License.Groups.builtinCategories) ∧
    (∀ o ∈ calls, ∀ s, o.run (o.run s).state = o.run s) := by
  refine ⟨?_, ?_, ?_, ?_⟩
  · intro earlier _
    exact after_usable earlier usable_builtin
  · intro o _ s x h
    have hx := (Override.of_answer h).1
    exact ⟨hx, hx ▸ o.inUnit_answer⟩
  · intro h
    constructor
    · calc (after calls builtin).groupsUrl
          = (calls.filterMap fun o => o.url?.map Value.text).getLast?.getD
              (.text License.Groups.builtinUrl) :=
            after_eq_getLast? (fun o s x hx => (Override.of_answer hx).2.1) h
        _ = .text ((calls.filterMap Override.url?).getLast?.getD License.Groups.builtinUrl) := by
            rw [← List.map_filterMap, List.getLast?_map, Option.getD_map]
    · exact after_eq_getLast? (fun o s x hx => (Override.of_answer hx).2.2) h
  · intro o _ s
    exact o.run_again s

/-- A call whose configuration gives a URL and groups. -/
def ofConfiguration : Override where
  threshold := .null
  groupsUrl := none
  config := .map [(.ofString "gentoo", .map [
    (.ofString "license_groups_url", .ofString "https://mirror/lg"),
    (.ofString "categories", .list [.ofString "MISC-FREE", .bool true])])]

/-- A call with flags, and with retries and groups that it does not give. -/
def ofFlags : Override where
  threshold := .ofString "0.9"
  groupsUrl := some "https://cli/lg".toList
  config := .map [(.ofString "gentoo", .map [(.ofString "categories", .list [])]),
    (.ofString "http", .map [(.ofString "retries", .int 0)])]

theorem last_override_prevails_over_configuration :
    AllReturn [ofConfiguration, ofFlags] builtin ∧
    (after [ofConfiguration, ofFlags] builtin).groupsUrl = .ofString "https://cli/lg" ∧
    (after [ofConfiguration, ofFlags] builtin).categories =
      ["MISC-FREE".toList, "True".toList] := by
  have hreturn : AllReturn [ofConfiguration, ofFlags] builtin := ⟨⟨_, rfl⟩, ⟨_, rfl⟩, trivial⟩
  obtain ⟨hurl, hcategories⟩ := (last_override_prevails [ofConfiguration, ofFlags]).2.2.1 hreturn
  exact ⟨hreturn, hurl, hcategories⟩

end Settings
end DistroBallot
