import DistroBallot.Settings.Overrides
import Mathlib

/-!
# Steps that change settings

What applying configuration does to the settings is to put values into some of them. Which values go
into which settings does not depend on what was there, and neither do the answer and what is told on
the way (`Step.Writes`). Steps of this kind compose (`writes_bind`): the changes of the second go
over those of the first, and after a fault those of the first remain.

So what has to be known of a step is which changes it makes. Where they are usable they keep
settings usable (`Changes.Usable.apply`), and to make them again changes nothing
(`Changes.apply_apply`).
-/

namespace DistroBallot

variable {α β : Type}

namespace Settings

/-! ## Changes -/

/-- What a call puts into the settings, for each of them. -/
structure Changes where
  groupsUrl : Option Value := none
  categories : Option (List Text) := none
  timeout : Option ℤ := none
  retries : Option ℤ := none

namespace Changes

/-- The settings after the changes. -/
def apply (c : Changes) (s : Settings) : Settings :=
  { groupsUrl := c.groupsUrl.getD s.groupsUrl
    categories := c.categories.getD s.categories
    timeout := c.timeout.getD s.timeout
    retries := c.retries.getD s.retries }

/-- The changes and then others, which go over them. -/
def andThen (c d : Changes) : Changes :=
  { groupsUrl := d.groupsUrl.or c.groupsUrl
    categories := d.categories.or c.categories
    timeout := d.timeout.or c.timeout
    retries := d.retries.or c.retries }

theorem apply_andThen (c d : Changes) (s : Settings) :
    (c.andThen d).apply s = d.apply (c.apply s) := by
  simp only [apply, andThen, Option.getD_or]

/-- To make the same changes again changes nothing. -/
theorem apply_apply (c : Changes) (s : Settings) : c.apply (c.apply s) = c.apply s := by
  have hself : ∀ {τ : Type} (d : Option τ) (a : τ), d.getD (d.getD a) = d.getD a := by
    intro τ d a
    cases d <;> rfl
  simp only [apply, hself]

theorem empty_andThen (c : Changes) : Changes.andThen {} c = c := by
  simp [andThen]

end Changes

/-- Settings with which the license groups can be fetched and searched: a URL, groups, and one
attempt at least. -/
structure Usable (s : Settings) : Prop where
  groupsUrl : ∃ url : Text, url ≠ [] ∧ s.groupsUrl = .text url
  categories : s.categories ≠ []
  retries : 1 ≤ s.retries

/-- Changes that keep settings usable. -/
structure Changes.Usable (c : Changes) : Prop where
  groupsUrl : ∀ v ∈ c.groupsUrl, ∃ url : Text, url ≠ [] ∧ v = .text url
  categories : ∀ l ∈ c.categories, l ≠ []
  retries : ∀ n ∈ c.retries, 1 ≤ n

theorem builtinUrl_ne_nil : License.Groups.builtinUrl ≠ [] := by
  unfold License.Groups.builtinUrl
  decide +kernel

theorem usable_builtin : builtin.Usable where
  groupsUrl := ⟨License.Groups.builtinUrl, builtinUrl_ne_nil, rfl⟩
  categories := List.cons_ne_nil _ _
  retries := by decide

namespace Changes

variable {c d : Changes}

theorem Usable.apply (hc : c.Usable) {s : Settings} (hs : s.Usable) : (c.apply s).Usable where
  groupsUrl := by
    cases h : c.groupsUrl with
    | none => simpa [Changes.apply, h] using hs.groupsUrl
    | some v => simpa [Changes.apply, h] using hc.groupsUrl v h
  categories := by
    cases h : c.categories with
    | none => simpa [Changes.apply, h] using hs.categories
    | some l => simpa [Changes.apply, h] using hc.categories l h
  retries := by
    cases h : c.retries with
    | none => simpa [Changes.apply, h] using hs.retries
    | some n => simpa [Changes.apply, h] using hc.retries n h

theorem usable_empty : Changes.Usable {} where
  groupsUrl := by simp
  categories := by simp
  retries := by simp

theorem forall_mem_or {τ : Type} {p : τ → Prop} {x y : Option τ} (hx : ∀ a ∈ x, p a)
    (hy : ∀ a ∈ y, p a) : ∀ a ∈ x.or y, p a := by
  cases x with
  | none => exact hy
  | some b => exact hx

theorem Usable.andThen (hc : c.Usable) (hd : d.Usable) : (c.andThen d).Usable where
  groupsUrl := forall_mem_or hd.groupsUrl hc.groupsUrl
  categories := forall_mem_or hd.categories hc.categories
  retries := forall_mem_or hd.retries hc.retries

end Changes

end Settings

/-! ## Steps that put values into the settings -/

namespace Step

open Settings (Changes)

variable {post mid : Except ConfigFault α → Changes → Prop}

/-- The step ends in the same way in all settings, and what it does to them is to make the same
changes, of which `post` holds. -/
def Writes (x : Step ConfigFault Settings α) (post : Except ConfigFault α → Changes → Prop) :
    Prop :=
  ∃ answer changes events, (∀ s, x.run s = ⟨answer, changes.apply s, events⟩) ∧
    post answer changes

theorem writes_pure {a : α} (h : post (.ok a) {}) :
    (pure a : Step ConfigFault Settings α).Writes post :=
  ⟨.ok a, {}, [], fun _ => rfl, h⟩

theorem writes_tell {post : Except ConfigFault Unit → Changes → Prop} {event : Log.Event}
    (h : post (.ok ()) {}) : (tell event : Step ConfigFault Settings Unit).Writes post :=
  ⟨.ok (), {}, [event], fun _ => rfl, h⟩

theorem writes_ofExcept_bind {x : Except ConfigFault α} {f : α → Step ConfigFault Settings β}
    {post : Except ConfigFault β → Changes → Prop} (herror : ∀ e, x = .error e → post (.error e) {})
    (hok : ∀ a, x = .ok a → (f a).Writes post) :
    ((ofExcept x : Step ConfigFault Settings α) >>= f).Writes post := by
  cases x with
  | error e => exact ⟨.error e, {}, [], fun _ => rfl, herror e rfl⟩
  | ok a => exact hok a rfl

theorem writes_modify {post : Except ConfigFault Unit → Changes → Prop} {f : Settings → Settings}
    (c : Changes) (hf : ∀ s, f s = c.apply s) (h : post (.ok ()) c) :
    (modify f : Step ConfigFault Settings Unit).Writes post :=
  ⟨.ok (), c, [], fun s => by rw [run_modify, hf], h⟩

theorem Writes.imp {x : Step ConfigFault Settings α} (h : x.Writes mid)
    (himp : ∀ answer c, mid answer c → post answer c) : x.Writes post := by
  obtain ⟨answer, c, events, hrun, hmid⟩ := h
  exact ⟨answer, c, events, hrun, himp answer c hmid⟩

/-- The changes of two steps are those of the first and then those of the second, which are left
out after a fault. -/
theorem writes_bind {x : Step ConfigFault Settings α} {f : α → Step ConfigFault Settings β}
    {post : Except ConfigFault β → Changes → Prop} (hx : x.Writes mid)
    (herror : ∀ e c, mid (.error e) c → post (.error e) c)
    (hok : ∀ a c, mid (.ok a) c → (f a).Writes fun answer d => post answer (c.andThen d)) :
    (x >>= f).Writes post := by
  obtain ⟨answer, c, events, hrun, hmid⟩ := hx
  cases answer with
  | error e =>
      exact ⟨.error e, c, events, fun s => run_bind_of_error (hrun s), herror e c hmid⟩
  | ok a =>
      obtain ⟨answer, d, more, hrest, hpost⟩ := hok a c hmid
      refine ⟨answer, c.andThen d, events ++ more, fun s => ?_, hpost⟩
      rw [run_bind_of_ok (hrun s), hrest, Changes.apply_andThen]

end Step
end DistroBallot
