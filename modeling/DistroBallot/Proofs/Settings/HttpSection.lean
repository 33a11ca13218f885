import DistroBallot.Proofs.Settings.Conversions
import Mathlib

/-!
# The section `http` is applied from front to back

The section `http` gives the timeout and the retries, and one event tells that it is ignored. It is
told when either of the two is refused, and then the retries stay as they are, even those that are
usable. The timeout comes first: if it is usable, it has been set when the retries are refused, and
stays set (`http_section_applied_from_front`). So the event says less of the timeout than it seems.

A call that stops with a fault does so before it applies anything of the section, or at the retries,
or behind the section. Which of these it is can be told by the way it ends (`Ending.httpPart`).
-/

namespace DistroBallot
namespace Settings

variable {config : Value}

/-- It is told that the section `http` is ignored. -/
def TellsHttp (events : List Log.Event) : Prop := ∃ given, Log.Event.invalidHttp given ∈ events

theorem tellsHttp_append_iff {events more : List Log.Event} :
    TellsHttp (events ++ more) ↔ TellsHttp events ∨ TellsHttp more := by
  simp only [TellsHttp, List.mem_append, exists_or]

theorem not_tellsHttp_nil : ¬TellsHttp [] := fun ⟨_, h⟩ => nomatch h

theorem not_tellsHttp_told {given : Value} {refusal : Log.Event}
    (h : ∀ value, refusal ≠ .invalidHttp value) : ¬TellsHttp (told given refusal) := by
  rintro ⟨value, hvalue⟩
  unfold told at hvalue
  split at hvalue
  · cases hvalue
  · exact h value (List.mem_singleton.mp hvalue).symm

theorem not_tellsHttp_toldOfFreedom : ¬TellsHttp (toldOfFreedom config) := by
  unfold toldOfFreedom
  split
  · exact not_tellsHttp_nil
  · exact not_tellsHttp_told fun _ h => nomatch h

theorem not_tellsHttp_toldOfFlags (flags : Flags) : ¬TellsHttp (toldOfFlags flags) := by
  unfold toldOfFlags
  split
  · exact not_tellsHttp_nil
  · exact not_tellsHttp_told fun _ h => nomatch h

theorem tellsHttp_toldOfHttp_iff : TellsHttp (toldOfHttp config) ↔
    isRefused (entry config "http" "timeout") = true ∨
      isRefused (entry config "http" "retries") = true := by
  rw [← Bool.or_eq_true]
  unfold toldOfHttp
  split
  · next h => exact ⟨fun _ => h, fun _ => ⟨_, List.mem_singleton_self _⟩⟩
  · next h =>
      exact ⟨fun htells => absurd htells not_tellsHttp_nil, fun hrefused => absurd hrefused h⟩

theorem givenInteger?_of_isRefused {v : Value} (h : isRefused v = true) :
    givenInteger? v = none := by
  unfold isRefused at h
  split at h
  · cases h
  · split at h
    · next hinteger =>
        rw [givenInteger?, hinteger]
        rfl
    · cases h

/-- Where the section is told to be ignored the retries are left as they are. -/
theorem retries_httpChanges_of_isRefused
    (h : isRefused (entry config "http" "timeout") = true ∨
      isRefused (entry config "http" "retries") = true) : (httpChanges config).retries = none := by
  unfold httpChanges
  dsimp only
  split
  · rfl
  · next htimeout =>
      have hretries := h.resolve_left htimeout
      rw [givenInteger?_of_isRefused hretries, Option.map_none]

/-- What becomes of the section `http` in a call: the call stops before anything of it is applied,
or at the retries, or all of it has been applied as far as it is usable. -/
inductive HttpPart (config : Value) :
    Except ConfigFault Binary64 → Changes → List Log.Event → Prop
  | untouched {e : ConfigFault} {c : Changes} {events : List Log.Event} :
      ¬TellsHttp events → c.timeout = none → c.retries = none →
      HttpPart config (.error e) c events
  | stopped {e : ConfigFault} {c : Changes} {events : List Log.Event} :
      ¬TellsHttp events → IsInfinite (entry config "http" "retries") →
      c.timeout = givenInteger? (entry config "http" "timeout") → c.retries = none →
      HttpPart config (.error e) c events
  | applied {answer : Except ConfigFault Binary64} {c : Changes} {events : List Log.Event} :
      (TellsHttp events ↔ isRefused (entry config "http" "timeout") = true ∨
        isRefused (entry config "http" "retries") = true) →
      c.timeout = (httpChanges config).timeout → c.retries = (httpChanges config).retries →
      HttpPart config answer c events

theorem timeout_gentooChanges_andThen (c : Changes) :
    ((gentooChanges config).andThen c).timeout = c.timeout := by
  simp [Changes.andThen, gentooChanges]

theorem retries_gentooChanges_andThen (c : Changes) :
    ((gentooChanges config).andThen c).retries = c.retries := by
  simp [Changes.andThen, gentooChanges]

/-- The other sections and the flags have no part in it. -/
theorem Ending.httpPart {flags : Flags} {answer : Except ConfigFault Binary64} {c : Changes}
    {events : List Log.Event} (h : Ending flags config answer c events) :
    HttpPart config answer c events := by
  have hfreedom : ¬TellsHttp (toldOfFreedom config) := not_tellsHttp_toldOfFreedom
  cases h with
  | threshold => exact .untouched not_tellsHttp_nil rfl rfl
  | gentoo url => exact .untouched hfreedom rfl rfl
  | timeout => exact .untouched hfreedom rfl rfl
  | retries _ hinfinite =>
      exact .stopped hfreedom hinfinite (timeout_gentooChanges_andThen _) rfl
  | flag =>
      refine .applied ?_ (timeout_gentooChanges_andThen _) (retries_gentooChanges_andThen _)
      rw [tellsHttp_append_iff, or_iff_right hfreedom, tellsHttp_toldOfHttp_iff]
  | complete =>
      refine .applied ?_ (timeout_gentooChanges_andThen _) (retries_gentooChanges_andThen _)
      rw [toldOf, tellsHttp_append_iff, or_iff_right hfreedom, tellsHttp_append_iff,
        or_iff_left (not_tellsHttp_toldOfFlags flags), tellsHttp_toldOfHttp_iff]

section

variable {answer : Except ConfigFault Binary64} {c : Changes} {events : List Log.Event}

theorem HttpPart.of_tells (h : HttpPart config answer c events) (htells : TellsHttp events) :
    c.retries = none ∧
      (isRefused (entry config "http" "timeout") = true ∧ c.timeout = none ∨
        isRefused (entry config "http" "timeout") = false ∧
          isRefused (entry config "http" "retries") = true ∧
          c.timeout = givenInteger? (entry config "http" "timeout")) := by
  cases h with
  | untouched hsilent => exact absurd htells hsilent
  | stopped hsilent => exact absurd htells hsilent
  | applied hiff htimeout hretries =>
      have hrefused := hiff.mp htells
      refine ⟨hretries.trans (retries_httpChanges_of_isRefused hrefused), ?_⟩
      cases hfirst : isRefused (entry config "http" "timeout") with
      | true => exact .inl ⟨rfl, htimeout.trans (givenInteger?_of_isRefused hfirst)⟩
      | false =>
          have hsecond := hrefused.resolve_left (by simp [hfirst])
          exact .inr ⟨rfl, hsecond, htimeout⟩

theorem usable_of_silent
    (hiff : TellsHttp events ↔ isRefused (entry config "http" "timeout") = true ∨
      isRefused (entry config "http" "retries") = true) (hsilent : ¬TellsHttp events) :
    isRefused (entry config "http" "timeout") = false ∧
      isRefused (entry config "http" "retries") = false ∧
      (httpChanges config).retries =
        (givenInteger? (entry config "http" "retries")).map (max 1) := by
  rw [hiff, not_or, Bool.not_eq_true, Bool.not_eq_true] at hsilent
  refine ⟨hsilent.1, hsilent.2, ?_⟩
  rw [httpChanges, hsilent.1]
  rfl

end

/-- **The section `http` is applied from front to back.** For all flags, all configuration and in
all settings: if it is told that the section is ignored, one of its two values is refused and the
retries are as before; so is the timeout if it is the one refused, and otherwise it is set already.
If the call answers and this is not told, both are as given, the retries at least one. A call that
stops without telling it has set neither, or the timeout only, or both. -/
theorem http_section_applied_from_front (flags : Flags) (entries : List (Value × Value))
    (s : Settings) :
    let timeout := entry (.map entries) "http" "timeout"
    let retries := entry (.map entries) "http" "retries"
    let ended := (applyOverrides flags (.map entries)).run s
    let timeoutSet := ended.state.timeout = (givenInteger? timeout).getD s.timeout
    let retriesSet := ended.state.retries = ((givenInteger? retries).map (max 1)).getD s.retries
    (TellsHttp ended.events → ended.state.retries = s.retries ∧
      (isRefused timeout = true ∧ ended.state.timeout = s.timeout ∨
        isRefused timeout = false ∧ isRefused retries = true ∧ timeoutSet)) ∧
    (¬TellsHttp ended.events → (∃ x, ended.answer = .ok x) →
      isRefused timeout = false ∧ isRefused retries = false ∧ timeoutSet ∧ retriesSet) ∧
    (¬TellsHttp ended.events → (∃ e, ended.answer = .error e) →
      ended.state.timeout = s.timeout ∧ ended.state.retries = s.retries ∨
      timeoutSet ∧ ended.state.retries = s.retries ∧ IsInfinite retries ∨
      timeoutSet ∧ retriesSet) := by
  intro timeout retries ended timeoutSet retriesSet
  obtain ⟨answer, c, events, hend, hyields⟩ := exists_ending flags entries
  have hended : ended = ⟨answer, c.apply s, events⟩ := hyields s
  have hpart : HttpPart (.map entries) answer c events := hend.httpPart
  have htimeout : ended.state.timeout = c.timeout.getD s.timeout := by
    rw [hended]
    rfl
  have hretries : ended.state.retries = c.retries.getD s.retries := by
    rw [hended]
    rfl
  simp only [timeoutSet, retriesSet, htimeout, hretries]
  rw [hended]
  refine ⟨?_, ?_, ?_⟩
  · intro htells
    obtain ⟨hnone, hor⟩ := hpart.of_tells htells
    rw [hnone]
    refine ⟨rfl, hor.imp ?_ ?_⟩
    · rintro ⟨hrefused, hkept⟩
      exact ⟨hrefused, by rw [hkept]; rfl⟩
    · rintro ⟨hfirst, hsecond, hset⟩
      exact ⟨hfirst, hsecond, by rw [hset]⟩
  · rintro hsilent ⟨x, rfl⟩
    cases hpart with
    | applied hiff hset hset' =>
        obtain ⟨hfirst, hsecond, hchanges⟩ := usable_of_silent hiff hsilent
        exact ⟨hfirst, hsecond, by rw [hset]; rfl, by rw [hset', hchanges]⟩
  · rintro hsilent -
    cases hpart with
    | untouched _ hnone hnone' => exact .inl ⟨by rw [hnone]; rfl, by rw [hnone']; rfl⟩
    | stopped _ hinfinite hset hnone' =>
        exact .inr (.inl ⟨by rw [hset], by rw [hnone']; rfl, hinfinite⟩)
    | applied hiff hset hset' =>
        obtain ⟨-, -, hchanges⟩ := usable_of_silent hiff hsilent
        exact .inr (.inr ⟨by rw [hset]; rfl, by rw [hset', hchanges]⟩)

/-- A timeout, and retries that are below one. -/
def lowRetries : List (Value × Value) :=
  [(.ofString "http", .map [(.ofString "timeout", .real (Binary64.ofInt 20)),
    (.ofString "retries", .int (-3))])]

theorem low_retries_are_raised :
    let ended := (applyOverrides noFlags (.map lowRetries)).run builtin
    (¬TellsHttp ended.events ∧ ∃ x, ended.answer = .ok x) ∧
      ended.state.timeout = 20 ∧ ended.state.retries = 1 := by
  intro ended
  have hended : ended = ⟨.ok builtinThreshold, { builtin with timeout := 20, retries := 1 }, []⟩ :=
    rfl
  have hsilent : ¬TellsHttp ended.events := by
    rw [hended]
    exact not_tellsHttp_nil
  have hanswer : ∃ x, ended.answer = .ok x := ⟨_, by rw [hended]⟩
  obtain ⟨-, -, htimeout, hretries⟩ :=
    (http_section_applied_from_front noFlags lowRetries builtin).2.1 hsilent hanswer
  exact ⟨⟨hsilent, hanswer⟩, htimeout, hretries⟩

/-- A timeout, and retries that are no number. -/
def wordRetries : List (Value × Value) :=
  [(.ofString "http", .map [(.ofString "timeout", .int 5), (.ofString "retries", .ofString "x")])]

/-- The section is told to be ignored, and its timeout has been set. -/
theorem ignored_section_sets_timeout :
    (applyOverrides noFlags (.map wordRetries)).run builtin =
      ⟨.ok builtinThreshold, { builtin with timeout := 5 },
        [.invalidHttp (.map [(.ofString "timeout", .int 5),
          (.ofString "retries", .ofString "x")])]⟩ ∧
    builtin.timeout ≠ 5 :=
  ⟨rfl, by decide⟩

end Settings
end DistroBallot
