import DistroBallot.Proofs.Settings.Precedence
import Mathlib

/-!
# What configuration comes to

A value that is given for a setting is usable, or it is refused, or it cannot be converted at all.
The last is the case for integers out of the range of double precision where a threshold is wanted
(`Binary64.ofInt?_isSome_iff`), for infinities where an integer is wanted, and for what cannot be
written out where a text is wanted (`Convertible`).

As long as everything can be converted, a call that applies configuration comes to its end, and
which threshold it answers with, which settings it changes and what it tells are read off the
values. Otherwise it stops at the first value that cannot be converted (`Ending`, `exists_ending`).
Each step of it yields the same in all settings (`Step.Yields`).
-/

namespace DistroBallot

/-! ## Integers in double precision -/

namespace Binary64

/-- The least magnitude of integers that are out of range: it lies half way between the greatest
finite number and the next power of two, and the tie goes to the power. -/
def overflowBound : ℕ := 2 ^ 1024 - 2 ^ 970

theorem ofRatio_eq_infinite_iff (num : ℕ) :
    ofRatio false num 1 = .infinite false ↔ (2 : ℚ) ^ (1024 : ℤ) ≤ roundedValue num 1 := by
  have hreads : (ofRatio false num 1).Reads (limited (roundedValue num 1)) :=
    reads_ofRatio Nat.one_pos
  by_cases h : roundedValue num 1 < 2 ^ (1024 : ℤ)
  · rw [limited, if_pos h] at hreads
    refine ⟨fun hinfinite => ?_, fun hle => absurd h (not_lt.mpr hle)⟩
    rw [hinfinite] at hreads
    exact absurd (hreads.unique .infinite) WithTop.coe_ne_top
  · rw [limited, if_neg h] at hreads
    generalize ofRatio false num 1 = x at hreads ⊢
    cases hreads
    exact ⟨fun _ => not_lt.mp h, fun _ => rfl⟩

theorem ofRatio_eq_infinite_iff_le (num : ℕ) :
    ofRatio false num 1 = .infinite false ↔ overflowBound ≤ num := by
  have hbound : ofRatio false overflowBound 1 = .infinite false := by decide +kernel
  have hbelow : ofRatio false (overflowBound - 1) 1 ≠ .infinite false := by decide +kernel
  rw [ofRatio_eq_infinite_iff] at hbound
  rw [Ne, ofRatio_eq_infinite_iff, not_le] at hbelow
  rw [ofRatio_eq_infinite_iff]
  constructor
  · intro h
    by_contra hlt
    exact absurd (h.trans (roundedValue_mono Nat.one_pos (by omega))) (not_le.mpr hbelow)
  · intro h
    exact hbound.trans (roundedValue_mono Nat.one_pos h)

/-- The sign of a quotient has no part in whether it is out of range. -/
theorem exists_infinite_ofRatio_iff (negative : Bool) (num den : ℕ) :
    (∃ sign, ofRatio negative num den = .infinite sign) ↔
      ofRatio false num den = .infinite false := by
  unfold ofRatio
  split
  · simp [zero]
  · dsimp only
    split_ifs <;> simp

/-- **An integer is in the range of double precision** just when it is below the bound. -/
theorem ofInt?_isSome_iff (n : ℤ) : (ofInt? n).isSome = true ↔ n.natAbs < overflowBound := by
  rw [← not_le, ← ofRatio_eq_infinite_iff_le, ← exists_infinite_ofRatio_iff (decide (n < 0))]
  unfold ofInt? ofInt
  cases ofRatio (decide (n < 0)) n.natAbs 1 <;> simp

end Binary64

/-! ## Steps that yield the same in all settings -/

namespace Step

open Settings (Changes)

variable {α β : Type} {x : Step ConfigFault Settings α} {f : α → Step ConfigFault Settings β}
  {c d : Changes} {events more : List Log.Event}

/-- The step ends with this answer, these changes and these events, in all settings. -/
def Yields (x : Step ConfigFault Settings α) (answer : Except ConfigFault α) (c : Changes)
    (events : List Log.Event) : Prop :=
  ∀ s, x.run s = ⟨answer, c.apply s, events⟩

theorem yields_pure (a : α) : (pure a : Step ConfigFault Settings α).Yields (.ok a) {} [] :=
  fun _ => rfl

theorem yields_tell (event : Log.Event) :
    (tell event : Step ConfigFault Settings Unit).Yields (.ok ()) {} [event] :=
  fun _ => rfl

theorem yields_ofExcept (y : Except ConfigFault α) :
    (ofExcept y : Step ConfigFault Settings α).Yields y {} [] :=
  fun _ => rfl

theorem yields_modify {g : Settings → Settings} (hg : ∀ s, g s = c.apply s) :
    (modify g : Step ConfigFault Settings Unit).Yields (.ok ()) c [] := by
  intro s
  rw [run_modify, hg]

theorem yields_bind {a : α} {answer : Except ConfigFault β} (hx : x.Yields (.ok a) c events)
    (hf : (f a).Yields answer d more) :
    (x >>= f).Yields answer (c.andThen d) (events ++ more) := by
  intro s
  rw [run_bind_of_ok (hx s), hf, Changes.apply_andThen]

theorem yields_bind_of_error {e : ConfigFault} (hx : x.Yields (.error e) c events) :
    (x >>= f).Yields (.error e) c events := fun s => run_bind_of_error (hx s)

/-- A step that follows one which tells nothing. -/
theorem yields_quiet_bind {a : α} {answer : Except ConfigFault β} (hx : x.Yields (.ok a) c [])
    (hf : (f a).Yields answer d more) : (x >>= f).Yields answer (c.andThen d) more :=
  yields_bind hx hf

/-- A step that follows one which leaves everything as it is. -/
theorem yields_idle_bind {a : α} {answer : Except ConfigFault β} (hx : x.Yields (.ok a) {} [])
    (hf : (f a).Yields answer d more) : (x >>= f).Yields answer d more := by
  have hboth := yields_bind hx hf
  rwa [Changes.empty_andThen, List.nil_append] at hboth

/-- A step that leaves everything as it is, after another one. -/
theorem yields_bind_idle {a : α} {answer : Except ConfigFault β}
    (hx : x.Yields (.ok a) c events) (hf : (f a).Yields answer {} more) :
    (x >>= f).Yields answer c (events ++ more) := by
  have hboth := yields_bind hx hf
  rwa [show c.andThen {} = c by simp [Changes.andThen]] at hboth

end Step

namespace Settings

open Step

/-! ## What can be converted -/

/-- An integer is in the range of double precision; of other values nothing is asked. -/
def InRange (v : Value) : Prop := ∀ n, v = .int n → n.natAbs < Binary64.overflowBound

/-- The value is an infinity. -/
def IsInfinite (v : Value) : Prop := ∃ negative, v = .real (.infinite negative)

/-- The integer that a value gives, if it gives one. -/
def givenInteger? (v : Value) : Option ℤ := (toInteger? v).toOption.join

/-- Whether a value that is given for an integer stands for none. -/
def isRefused : Value → Bool
  | .null => false
  | v => match toInteger? v with
    | .ok none => true
    | _ => false

theorem threshold?_of_inRange {v : Value} (h : InRange v) :
    threshold? v = .ok (usableThreshold? v) := by
  have hreal : ∃ found, toReal? v = .ok found := by
    cases v with
    | int n =>
        obtain ⟨x, hx⟩ := Option.isSome_iff_exists.mp ((Binary64.ofInt?_isSome_iff n).mpr (h n rfl))
        exact ⟨some x, by rw [toReal?, hx]⟩
    | _ => exact ⟨_, rfl⟩
  obtain ⟨found, hfound⟩ := hreal
  have hthreshold : threshold? v = .ok (found.filter isThreshold) := by
    rw [threshold?, hfound]
    rfl
  rw [hthreshold, threshold?_eq_ok hthreshold]

theorem threshold?_of_not_inRange {v : Value} (h : ¬InRange v) :
    threshold? v = .error .overflow := by
  simp only [InRange, not_forall] at h
  obtain ⟨n, rfl, hn⟩ := h
  rw [← Binary64.ofInt?_isSome_iff, Bool.not_eq_true, Option.isSome_eq_false_iff,
    Option.isNone_iff_eq_none] at hn
  rw [threshold?, toReal?, hn]
  rfl

theorem exists_toInteger? {v : Value} (h : ¬IsInfinite v) :
    ∃ found, toInteger? v = .ok found := by
  cases v with
  | real x =>
      cases x with
      | infinite negative => exact absurd ⟨negative, rfl⟩ h
      | _ => exact ⟨_, rfl⟩
  | _ => exact ⟨_, rfl⟩

theorem mapM_writtenOut {items : List Value} (h : ∀ v ∈ items, v.isWritable = true) :
    items.mapM writtenOut = .ok (items.map Value.display) := by
  induction items with
  | nil => rfl
  | cons v items ih =>
      rw [List.forall_mem_cons] at h
      rw [List.mapM_cons, writtenOut, if_pos h.1, ih h.2]
      rfl

theorem mapM_writtenOut_of_not {items : List Value} (h : ¬∀ v ∈ items, v.isWritable = true) :
    items.mapM writtenOut = .error .unwritable := by
  induction items with
  | nil => exact absurd (fun _ hv => nomatch hv) h
  | cons v items ih =>
      rw [List.forall_mem_cons] at h
      rw [List.mapM_cons, writtenOut]
      by_cases hv : v.isWritable = true
      · rw [if_pos hv, ih fun hitems => h ⟨hv, hitems⟩]
        rfl
      · rw [if_neg hv]
        rfl

/-! ## What the sections yield -/

/-- What is told of a value that is given for a threshold. -/
def told (given : Value) (refusal : Log.Event) : List Log.Event :=
  if (usableThreshold? given).isSome then [] else [refusal]

theorem overrideThreshold_yields {given : Value} (h : InRange given) (before : Binary64)
    (refusal : Log.Event) :
    (overrideThreshold before given refusal).Yields
      (.ok ((usableThreshold? given).getD before)) {} (told given refusal) := by
  unfold overrideThreshold told
  rw [threshold?_of_inRange h]
  refine yields_idle_bind (yields_ofExcept _) ?_
  cases usableThreshold? given with
  | some x => exact yields_pure x
  | none =>
      exact yields_bind (f := fun _ => pure before) (yields_tell refusal) (yields_pure before)

theorem overrideThreshold_stops {given : Value} (h : ¬InRange given) (before : Binary64)
    (refusal : Log.Event) :
    (overrideThreshold before given refusal).Yields (.error .overflow) {} [] := by
  unfold overrideThreshold
  rw [threshold?_of_not_inRange h]
  exact yields_bind_of_error (yields_ofExcept _)

/-- What a configuration has under a key in a section; null if it has nothing there. -/
abbrev entry (config : Value) (name key : String) : Value := (configSection config name).field key

/-- What is told of the section `freedom`. -/
def toldOfFreedom (config : Value) : List Log.Event :=
  match (configSection config "freedom").field? "threshold" with
  | none => []
  | some given => told given (.invalidThreshold given)

theorem applyFreedom_yields {config : Value} (h : InRange (entry config "freedom" "threshold")) :
    (applyFreedom config).Yields
      (.ok ((usableThreshold? (entry config "freedom" "threshold")).getD builtinThreshold)) {}
      (toldOfFreedom config) := by
  unfold applyFreedom toldOfFreedom
  unfold entry Value.field at h ⊢
  cases hgiven : (configSection config "freedom").field? "threshold" with
  | none => exact yields_pure _
  | some given =>
      rw [hgiven] at h
      exact overrideThreshold_yields h _ _

theorem applyFreedom_stops {config : Value} (h : ¬InRange (entry config "freedom" "threshold")) :
    (applyFreedom config).Yields (.error .overflow) {} [] := by
  unfold applyFreedom
  unfold entry Value.field at h
  cases hgiven : (configSection config "freedom").field? "threshold" with
  | none =>
      rw [hgiven] at h
      exact absurd (fun n hn => nomatch hn) h
  | some given =>
      rw [hgiven] at h
      exact overrideThreshold_stops h _ _

theorem applyGroupsUrl_yields {given : Value}
    (h : given.isTruthy = true → given.isWritable = true) :
    (applyGroupsUrl given).Yields (.ok ()) { groupsUrl := (givenUrl? given).map .text } [] := by
  unfold applyGroupsUrl givenUrl?
  split
  · next htruthy =>
      rw [writtenOut, if_pos (h htruthy)]
      exact yields_idle_bind (yields_ofExcept _) (yields_modify fun _ => rfl)
  · exact yields_pure _

theorem applyGroupsUrl_stops {given : Value}
    (h : ¬(given.isTruthy = true → given.isWritable = true)) :
    (applyGroupsUrl given).Yields (.error .unwritable) {} [] := by
  obtain ⟨htruthy, hwritable⟩ := Classical.not_imp.mp h
  rw [applyGroupsUrl, if_pos htruthy, writtenOut, if_neg hwritable]
  exact yields_bind_of_error (yields_ofExcept _)

/-- All items of a list can be written out; of other values nothing is asked. -/
def ItemsWritable (v : Value) : Prop :=
  ∀ items, v = .list items → ∀ item ∈ items, item.isWritable = true

theorem applyCategories_yields {given : Value} (h : ItemsWritable given) :
    (applyCategories given).Yields (.ok ()) { categories := givenCategories? given } [] := by
  cases given with
  | list items =>
      cases items with
      | nil => exact yields_pure _
      | cons item rest =>
          rw [applyCategories, mapM_writtenOut (h _ rfl)]
          exact yields_idle_bind (yields_ofExcept _) (yields_modify fun _ => rfl)
  | _ => exact yields_pure _

theorem applyCategories_stops {given : Value} (h : ¬ItemsWritable given) :
    (applyCategories given).Yields (.error .unwritable) {} [] := by
  simp only [ItemsWritable, not_forall] at h
  obtain ⟨items, rfl, v, hv, hwritable⟩ := h
  cases items with
  | nil => cases hv
  | cons item rest =>
      rw [applyCategories, mapM_writtenOut_of_not fun hall => hwritable (hall v hv)]
      exact yields_bind_of_error (yields_ofExcept _)

/-- What the section `gentoo` gives can be written out. -/
structure GentooWritable (config : Value) : Prop where
  groupsUrl : (entry config "gentoo" "license_groups_url").isTruthy = true →
    (entry config "gentoo" "license_groups_url").isWritable = true
  categories : ItemsWritable (entry config "gentoo" "categories")

/-- What the section `gentoo` puts into the settings. -/
def gentooChanges (config : Value) : Changes :=
  { groupsUrl := (givenUrl? (entry config "gentoo" "license_groups_url")).map .text
    categories := givenCategories? (entry config "gentoo" "categories") }

theorem applyGentoo_yields {config : Value} (h : GentooWritable config) :
    (applyGentoo config).Yields (.ok ()) (gentooChanges config) [] := by
  have hboth : (applyGentoo config).Yields _ _ _ :=
    yields_bind (applyGroupsUrl_yields h.groupsUrl) (applyCategories_yields h.categories)
  simpa [Changes.andThen, gentooChanges] using hboth

/-- Where the section `gentoo` cannot be written out, the URL may have been set already. -/
theorem applyGentoo_stops {config : Value} (h : ¬GentooWritable config) :
    ∃ url, (applyGentoo config).Yields (.error .unwritable) { groupsUrl := url } [] := by
  by_cases hurl : (entry config "gentoo" "license_groups_url").isTruthy = true →
      (entry config "gentoo" "license_groups_url").isWritable = true
  · have hcategories : ¬ItemsWritable (entry config "gentoo" "categories") :=
      fun hitems => h ⟨hurl, hitems⟩
    have hboth : (applyGentoo config).Yields _ _ _ :=
      yields_bind (applyGroupsUrl_yields hurl) (applyCategories_stops hcategories)
    exact ⟨_, by simpa [Changes.andThen] using hboth⟩
  · exact ⟨none, yields_bind_of_error (applyGroupsUrl_stops hurl)⟩

theorem isRefused_eq {v : Value} {found : Option ℤ} (h : toInteger? v = .ok found)
    (hnull : v ≠ .null) : isRefused v = found.isNone := by
  unfold isRefused
  split
  · exact absurd rfl hnull
  · rw [h]
    cases found <;> rfl

/-- A number that is given is put in its place, unless it is refused. -/
theorem setInteger_yields {given : Value} (h : ¬IsInfinite given) {put : ℤ → Settings → Settings}
    (change : Option ℤ → Changes) (hnone : change none = {})
    (hput : ∀ n s, put n s = (change (some n)).apply s) :
    (setInteger given put).Yields (.ok (!isRefused given)) (change (givenInteger? given)) [] := by
  obtain ⟨found, hfound⟩ := exists_toInteger? h
  have hgiven : givenInteger? given = found := by
    rw [givenInteger?, hfound]
    rfl
  unfold setInteger
  split
  · obtain rfl := Except.ok.inj hfound
    rw [hgiven, hnone]
    exact yields_pure true
  · next hnull =>
      rw [isRefused_eq hfound fun heq => hnull heq, hgiven, hfound]
      refine yields_idle_bind (yields_ofExcept _) ?_
      cases found with
      | none =>
          rw [hnone]
          exact yields_pure false
      | some n =>
          have hset := yields_bind (yields_modify (hput n)) (f := fun _ => pure true)
            (yields_pure true)
          simpa [Changes.andThen] using hset

theorem setInteger_stops {given : Value} (h : IsInfinite given)
    (put : ℤ → Settings → Settings) :
    (setInteger given put).Yields (.error .overflow) {} [] := by
  obtain ⟨negative, rfl⟩ := h
  exact yields_bind_of_error (yields_ofExcept _)

/-- What the section `http` puts into the settings. Where the timeout is refused the retries are not
looked at. -/
def httpChanges (config : Value) : Changes :=
  { timeout := givenInteger? (entry config "http" "timeout")
    retries := if isRefused (entry config "http" "timeout") then none
      else (givenInteger? (entry config "http" "retries")).map (max 1) }

/-- What is told of the section `http`. -/
def toldOfHttp (config : Value) : List Log.Event :=
  if isRefused (entry config "http" "timeout") || isRefused (entry config "http" "retries") then
    [.invalidHttp (configSection config "http")]
  else []

theorem setTimeout_yields {given : Value} (h : ¬IsInfinite given) :
    (setInteger given fun n s => { s with timeout := n }).Yields (.ok (!isRefused given))
      { timeout := givenInteger? given } [] :=
  setInteger_yields h (fun n => { timeout := n }) rfl fun _ _ => rfl

theorem setRetries_yields {given : Value} (h : ¬IsInfinite given) :
    (setInteger given fun n s => { s with retries := max 1 n }).Yields (.ok (!isRefused given))
      { retries := (givenInteger? given).map (max 1) } [] :=
  setInteger_yields h (fun n => { retries := n.map (max 1) }) rfl fun _ _ => rfl

theorem applyHttp_yields {config : Value} (htimeout : ¬IsInfinite (entry config "http" "timeout"))
    (hretries : isRefused (entry config "http" "timeout") = false →
      ¬IsInfinite (entry config "http" "retries")) :
    (applyHttp config).Yields (.ok ()) (httpChanges config) (toldOfHttp config) := by
  have hchanges : httpChanges config =
      Changes.andThen { timeout := givenInteger? (entry config "http" "timeout") }
        { retries := if isRefused (entry config "http" "timeout") then none
            else (givenInteger? (entry config "http" "retries")).map (max 1) } := by
    simp [httpChanges, Changes.andThen]
  rw [hchanges]
  unfold applyHttp toldOfHttp
  refine yields_quiet_bind (setTimeout_yields htimeout) ?_
  cases hrefused : isRefused (entry config "http" "timeout") with
  | true => exact yields_tell _
  | false =>
      refine yields_bind_idle (setRetries_yields (hretries hrefused)) ?_
      cases isRefused (entry config "http" "retries") with
      | false => exact yields_pure ()
      | true => exact yields_tell _

theorem applyHttp_stops_at_timeout {config : Value}
    (h : IsInfinite (entry config "http" "timeout")) :
    (applyHttp config).Yields (.error .overflow) {} [] :=
  yields_bind_of_error (setInteger_stops h _)

theorem applyHttp_stops_at_retries {config : Value}
    (htimeout : ¬IsInfinite (entry config "http" "timeout"))
    (hrefused : isRefused (entry config "http" "timeout") = false)
    (h : IsInfinite (entry config "http" "retries")) :
    (applyHttp config).Yields (.error .overflow)
      { timeout := givenInteger? (entry config "http" "timeout") } [] := by
  refine yields_bind_idle (setTimeout_yields htimeout) ?_
  rw [hrefused]
  exact yields_bind_of_error (setInteger_stops h _)

/-- The URL that the flags give, if they give one. -/
def flagUrl? (flags : Flags) : Option Value :=
  if flags.groupsUrl.isTruthy then some flags.groupsUrl else none

/-- What is told of the flags. -/
def toldOfFlags (flags : Flags) : List Log.Event :=
  match flags.threshold with
  | .null => []
  | given => told given (.invalidFlag given)

theorem applyFlags_yields {flags : Flags} (h : InRange flags.threshold) (before : Binary64) :
    (applyFlags flags before).Yields (.ok ((usableThreshold? flags.threshold).getD before))
      { groupsUrl := flagUrl? flags } (toldOfFlags flags) := by
  have hurl : ∀ threshold : Binary64, Step.Yields
      (if flags.groupsUrl.isTruthy = true then do
        Step.modify fun s => { s with groupsUrl := flags.groupsUrl }
        pure threshold
      else pure threshold) (.ok threshold) { groupsUrl := flagUrl? flags } [] := by
    intro threshold
    unfold flagUrl?
    split
    · exact fun _ => rfl
    · exact yields_pure threshold
  unfold applyFlags
  dsimp only
  split
  · next hnull =>
      rw [toldOfFlags, hnull]
      exact hurl before
  · next hnull =>
      have htold : toldOfFlags flags = told flags.threshold (.invalidFlag flags.threshold) := by
        unfold toldOfFlags
        split
        · next heq => exact absurd heq hnull
        · rfl
      rw [htold, ← Changes.empty_andThen { groupsUrl := flagUrl? flags },
        ← List.append_nil (told _ _)]
      exact yields_bind (overrideThreshold_yields h _ _) (hurl _)

theorem applyFlags_stops {flags : Flags} (h : ¬InRange flags.threshold) (before : Binary64) :
    (applyFlags flags before).Yields (.error .overflow) {} [] := by
  unfold applyFlags
  dsimp only
  split
  · next hnull =>
      rw [hnull] at h
      exact absurd (fun n hn => nomatch hn) h
  · exact yields_bind_of_error (overrideThreshold_stops h _ _)

/-! ## How a call ends -/

/-- Everything that is given for a setting can be converted. The retries are not looked at where the
timeout is refused. -/
structure Convertible (flags : Flags) (config : Value) : Prop where
  threshold : InRange (entry config "freedom" "threshold")
  gentoo : GentooWritable config
  timeout : ¬IsInfinite (entry config "http" "timeout")
  retries : isRefused (entry config "http" "timeout") = false →
    ¬IsInfinite (entry config "http" "retries")
  flag : InRange flags.threshold

/-- The threshold in effect: that of the flags, if it is usable, else that of the configuration, if
it is usable, else the builtin one. -/
def thresholdOf (flags : Flags) (config : Value) : Binary64 :=
  ((usableThreshold? flags.threshold).or
    (usableThreshold? (entry config "freedom" "threshold"))).getD builtinThreshold

/-- What a call puts into the settings. -/
def changesOf (flags : Flags) (config : Value) : Changes :=
  (gentooChanges config).andThen ((httpChanges config).andThen { groupsUrl := flagUrl? flags })

/-- What a call tells: what is refused, in the order in which it is looked at. -/
def toldOf (flags : Flags) (config : Value) : List Log.Event :=
  toldOfFreedom config ++ (toldOfHttp config ++ toldOfFlags flags)

/-- The ways a call ends. It stops at the first value that cannot be converted, with what it has
changed and told until then. -/
inductive Ending (flags : Flags) (config : Value) :
    Except ConfigFault Binary64 → Changes → List Log.Event → Prop
  | threshold : ¬InRange (entry config "freedom" "threshold") →
      Ending flags config (.error .overflow) {} []
  | gentoo (url : Option Value) : ¬GentooWritable config →
      Ending flags config (.error .unwritable) { groupsUrl := url } (toldOfFreedom config)
  | timeout : IsInfinite (entry config "http" "timeout") →
      Ending flags config (.error .overflow) (gentooChanges config) (toldOfFreedom config)
  | retries : isRefused (entry config "http" "timeout") = false →
      IsInfinite (entry config "http" "retries") →
      Ending flags config (.error .overflow)
        ((gentooChanges config).andThen
          { timeout := givenInteger? (entry config "http" "timeout") })
        (toldOfFreedom config)
  | flag : ¬InRange flags.threshold →
      Ending flags config (.error .overflow) ((gentooChanges config).andThen (httpChanges config))
        (toldOfFreedom config ++ toldOfHttp config)
  | complete : Convertible flags config →
      Ending flags config (.ok (thresholdOf flags config)) (changesOf flags config)
        (toldOf flags config)

section

variable {flags : Flags} {entries : List (Value × Value)} {answer : Except ConfigFault Binary64}
  {c : Changes} {events : List Log.Event}

theorem applyOverrides_stops_at_freedom
    (h : ¬InRange (entry (.map entries) "freedom" "threshold")) :
    (applyOverrides flags (.map entries)).Yields (.error .overflow) {} [] :=
  yields_idle_bind (yields_ofExcept (.ok _)) (yields_bind_of_error (applyFreedom_stops h))

/-- What follows the section `freedom`. -/
theorem applyOverrides_yields_of_freedom
    (h : InRange (entry (.map entries) "freedom" "threshold"))
    (hrest : Step.Yields (do
        applyGentoo (.map entries)
        applyHttp (.map entries)
        applyFlags flags ((usableThreshold? (entry (.map entries) "freedom" "threshold")).getD
          builtinThreshold)) answer c events) :
    (applyOverrides flags (.map entries)).Yields answer c
      (toldOfFreedom (.map entries) ++ events) := by
  rw [← Changes.empty_andThen c]
  exact yields_idle_bind (yields_ofExcept (.ok _)) (yields_bind (applyFreedom_yields h) hrest)

/-- What follows the sections `freedom` and `gentoo`. -/
theorem applyOverrides_yields_of_gentoo
    (h : InRange (entry (.map entries) "freedom" "threshold"))
    (hgentoo : GentooWritable (.map entries))
    (hrest : Step.Yields (do
        applyHttp (.map entries)
        applyFlags flags ((usableThreshold? (entry (.map entries) "freedom" "threshold")).getD
          builtinThreshold)) answer c events) :
    (applyOverrides flags (.map entries)).Yields answer ((gentooChanges (.map entries)).andThen c)
      (toldOfFreedom (.map entries) ++ events) :=
  applyOverrides_yields_of_freedom h (yields_quiet_bind (applyGentoo_yields hgentoo) hrest)

theorem Ending.of_convertible {config : Value} (hend : Ending flags config answer c events)
    (h : Convertible flags config) :
    answer = .ok (thresholdOf flags config) ∧ c = changesOf flags config ∧
      events = toldOf flags config := by
  cases hend with
  | threshold hthreshold => exact absurd h.threshold hthreshold
  | gentoo url hgentoo => exact absurd h.gentoo hgentoo
  | timeout htimeout => exact absurd htimeout h.timeout
  | retries hrefused hretries => exact absurd hretries (h.retries hrefused)
  | flag hflag => exact absurd h.flag hflag
  | complete => exact ⟨rfl, rfl, rfl⟩

theorem Ending.of_not_convertible {config : Value} (hend : Ending flags config answer c events)
    (h : ¬Convertible flags config) : answer = .error .overflow ∨ answer = .error .unwritable := by
  cases hend with
  | complete hconvertible => exact absurd hconvertible h
  | gentoo => exact .inr rfl
  | _ => exact .inl rfl

end

/-- **Every call ends in one of these ways**, in all settings. -/
theorem exists_ending (flags : Flags) (entries : List (Value × Value)) :
    ∃ answer c events, Ending flags (.map entries) answer c events ∧
      (applyOverrides flags (.map entries)).Yields answer c events := by
  by_cases hthreshold : InRange (entry (.map entries) "freedom" "threshold")
  swap
  · exact ⟨_, _, _, .threshold hthreshold, applyOverrides_stops_at_freedom hthreshold⟩
  by_cases hgentoo : GentooWritable (.map entries)
  swap
  · obtain ⟨url, hurl⟩ := applyGentoo_stops hgentoo
    refine ⟨_, _, _, .gentoo url hgentoo, ?_⟩
    rw [← List.append_nil (toldOfFreedom _)]
    exact applyOverrides_yields_of_freedom hthreshold (yields_bind_of_error hurl)
  by_cases htimeout : IsInfinite (entry (.map entries) "http" "timeout")
  · refine ⟨_, _, _, .timeout htimeout, ?_⟩
    rw [← List.append_nil (toldOfFreedom _)]
    exact applyOverrides_yields_of_gentoo hthreshold hgentoo
      (yields_bind_of_error (applyHttp_stops_at_timeout htimeout))
  by_cases hretries : isRefused (entry (.map entries) "http" "timeout") = false ∧
      IsInfinite (entry (.map entries) "http" "retries")
  · refine ⟨_, _, _, .retries hretries.1 hretries.2, ?_⟩
    rw [← List.append_nil (toldOfFreedom _)]
    exact applyOverrides_yields_of_gentoo hthreshold hgentoo
      (yields_bind_of_error (applyHttp_stops_at_retries htimeout hretries.1 hretries.2))
  have hhttp := applyHttp_yields htimeout fun hrefused h => hretries ⟨hrefused, h⟩
  by_cases hflag : InRange flags.threshold
  · refine ⟨_, _, _, .complete ⟨hthreshold, hgentoo, htimeout, ?_, hflag⟩, ?_⟩
    · exact fun hrefused h => hretries ⟨hrefused, h⟩
    · rw [thresholdOf, Option.getD_or]
      exact applyOverrides_yields_of_gentoo hthreshold hgentoo
        (yields_bind hhttp (applyFlags_yields hflag _))
  · refine ⟨_, _, _, .flag hflag, ?_⟩
    rw [← List.append_nil (toldOfHttp _)]
    exact applyOverrides_yields_of_gentoo hthreshold hgentoo
      (yields_bind_idle hhttp (applyFlags_stops hflag _))

theorem inUnit_thresholdOf (flags : Flags) (config : Value) :
    (thresholdOf flags config).InUnit :=
  Override.inUnit_answer ⟨flags.threshold, none, config⟩

/-- **A call returns just when everything can be converted.** For all flags, all configuration and
in all settings it then answers with the threshold of the flags, or else of the configuration, or
else the builtin one, of those that are usable; it puts into the settings what is given and usable,
and what is refused is told. Otherwise it stops with a number out of range, or with one that has too
many digits to be written. -/
theorem overrides_return_iff_convertible (flags : Flags) (entries : List (Value × Value))
    (s : Settings) :
    let config := Value.map entries
    let ended := (applyOverrides flags config).run s
    ((∃ x, ended.answer = .ok x) ↔ Convertible flags config) ∧
    (Convertible flags config →
      ended = ⟨.ok (thresholdOf flags config), (changesOf flags config).apply s,
        toldOf flags config⟩ ∧ (thresholdOf flags config).InUnit) ∧
    (¬Convertible flags config →
      ended.answer = .error .overflow ∨ ended.answer = .error .unwritable) := by
  intro config ended
  obtain ⟨answer, c, events, hend, hyields⟩ := exists_ending flags entries
  have hended : ended = ⟨answer, c.apply s, events⟩ := hyields s
  have hcomplete : Convertible flags config → ended = ⟨.ok (thresholdOf flags config),
      (changesOf flags config).apply s, toldOf flags config⟩ := by
    intro h
    obtain ⟨rfl, rfl, rfl⟩ := hend.of_convertible h
    exact hended
  have hstopped : ¬Convertible flags config →
      ended.answer = .error .overflow ∨ ended.answer = .error .unwritable := by
    intro h
    rw [hended]
    exact hend.of_not_convertible h
  refine ⟨⟨?_, ?_⟩, ?_, hstopped⟩
  · rintro ⟨x, hx⟩
    by_contra h
    rcases hstopped h with hanswer | hanswer
    · exact nomatch hx.symm.trans hanswer
    · exact nomatch hx.symm.trans hanswer
  · intro h
    rw [hcomplete h]
    exact ⟨_, rfl⟩
  · intro h
    exact ⟨hcomplete h, inUnit_thresholdOf flags config⟩

/-- Flags with nothing in them. -/
def noFlags : Flags := { threshold := .null, groupsUrl := .null }

/-- Configuration none of which is usable. -/
def unusable : List (Value × Value) :=
  [(.ofString "freedom", .map [(.ofString "threshold", .real .nan)]),
    (.ofString "gentoo", .map [(.ofString "license_groups_url", .list []),
      (.ofString "categories", .ofString "GPL")]),
    (.ofString "http", .map [(.ofString "timeout", .list [.int 5]),
      (.ofString "retries", .real (.infinite false))])]

theorem unusable_is_told_and_passed_over :
    let flags : Flags := { threshold := .ofString "2", groupsUrl := .null }
    Convertible flags (.map unusable) ∧
    (applyOverrides flags (.map unusable)).run builtin =
      ⟨.ok builtinThreshold, builtin, [.invalidThreshold (.real .nan),
        .invalidHttp (.map [(.ofString "timeout", .list [.int 5]),
          (.ofString "retries", .real (.infinite false))]),
        .invalidFlag (.ofString "2")]⟩ := by
  intro flags
  have hentries : entry (.map unusable) "freedom" "threshold" = .real .nan ∧
      entry (.map unusable) "gentoo" "license_groups_url" = .list [] ∧
      entry (.map unusable) "gentoo" "categories" = .ofString "GPL" ∧
      entry (.map unusable) "http" "timeout" = .list [.int 5] := ⟨rfl, rfl, rfl, rfl⟩
  obtain ⟨hthreshold, hurl, hcategories, htimeout⟩ := hentries
  have hconvertible : Convertible flags (.map unusable) := by
    constructor
    · rw [hthreshold]
      exact fun n hn => nomatch hn
    · constructor
      · rw [hurl]
        exact fun h => nomatch h
      · rw [hcategories]
        exact fun items hitems => nomatch hitems
    · rw [htimeout]
      exact fun ⟨negative, h⟩ => nomatch h
    · rw [htimeout]
      exact fun h => nomatch h
    · exact fun n hn => nomatch hn
  obtain ⟨hended, -⟩ := (overrides_return_iff_convertible flags unusable builtin).2.1 hconvertible
  have hflag : usableThreshold? (.ofString "2") = none :=
    Option.isNone_iff_eq_none.mp (by decide +kernel)
  have hfreedom : usableThreshold? (.real .nan) = none := rfl
  have hanswer : thresholdOf flags (.map unusable) = builtinThreshold := by
    rw [thresholdOf, hthreshold, hflag, hfreedom]
    rfl
  have hchanges : (changesOf flags (.map unusable)).apply builtin = builtin := rfl
  have htold : toldOf flags (.map unusable) = [.invalidThreshold (.real .nan),
      .invalidHttp (.map [(.ofString "timeout", .list [.int 5]),
        (.ofString "retries", .real (.infinite false))]),
      .invalidFlag (.ofString "2")] := by
    have hlast : toldOfFlags flags = [.invalidFlag (.ofString "2")] := by
      show told (.ofString "2") _ = _
      rw [told, hflag]
      rfl
    rw [toldOf, hlast]
    rfl
  rw [hended, hanswer, hchanges, htold]
  exact ⟨hconvertible, rfl⟩

/-- An integer out of the range of double precision. -/
def hugeThreshold : List (Value × Value) :=
  [(.ofString "freedom", .map [(.ofString "threshold", .int (10 ^ 400))])]

theorem huge_threshold_overflows :
    (applyOverrides noFlags (.map hugeThreshold)).run builtin =
      ⟨.error .overflow, builtin, []⟩ := by
  have hout : ¬InRange (entry (.map hugeThreshold) "freedom" "threshold") := by
    intro h
    exact absurd (h (10 ^ 400) rfl) (by decide +kernel)
  exact applyOverrides_stops_at_freedom hout builtin

end Settings
end DistroBallot
