import DistroBallot.Log.Event

/-!
# Steps

A step runs on a state. It ends with an answer or with a fault; either way it has reached a state,
and it has told events on the way. So nothing that happened before a fault is lost: a fault leaves
the state as it is at that moment.

Steps compose by `bind`: the second step starts where the first ended, and does not start at all
after a fault.
-/

namespace DistroBallot

/-- How a step ended: its answer or the fault that stopped it, the state it reached, and the events
it told, the oldest first. -/
structure Ended (ε σ α : Type) where
  answer : Except ε α
  state : σ
  events : List Log.Event

/-- A computation on a state that may stop with a fault. -/
def Step (ε σ α : Type) := σ → Ended ε σ α

namespace Step

variable {ε σ τ α β : Type}

/-- Runs a step. -/
def run (x : Step ε σ α) (s : σ) : Ended ε σ α := x s

/-- The step that answers at once. -/
protected def pure (a : α) : Step ε σ α := fun s => ⟨.ok a, s, []⟩

/-- The step that stops at once. -/
def fail (e : ε) : Step ε σ α := fun s => ⟨.error e, s, []⟩

/-- One step and then another that depends on its answer. -/
protected def bind (x : Step ε σ α) (f : α → Step ε σ β) : Step ε σ β := fun s =>
  match x s with
  | ⟨.error e, t, events⟩ => ⟨.error e, t, events⟩
  | ⟨.ok a, t, events⟩ =>
    let last := f a t
    { last with events := events ++ last.events }

instance : Monad (Step ε σ) where
  pure := Step.pure
  bind := Step.bind

/-- The step that tells one event. -/
def tell (event : Log.Event) : Step ε σ Unit := fun s => ⟨.ok (), s, [event]⟩

/-- The step that answers with the state. -/
def state : Step ε σ σ := fun s => ⟨.ok s, s, []⟩

/-- The step that changes the state. -/
def modify (f : σ → σ) : Step ε σ Unit := fun s => ⟨.ok (), f s, []⟩

/-- The step that answers as given or stops. -/
def ofExcept (x : Except ε α) : Step ε σ α := fun s => ⟨x, s, []⟩

/-- A step whose answer comes with what it told. -/
def listen (x : Step ε σ α) : Step ε σ (α × List Log.Event) := fun s =>
  let ended := x s
  ⟨ended.answer.map (·, ended.events), ended.state, ended.events⟩

/-- A step with its fault seen as another one. -/
def mapFault {δ : Type} (f : ε → δ) (x : Step ε σ α) : Step δ σ α := fun s =>
  let ended := x s
  ⟨ended.answer.mapError f, ended.state, ended.events⟩

/-- A step on a part of the state. -/
def within (x : Step ε σ α) (part : τ → σ) (put : τ → σ → τ) : Step ε τ α := fun t =>
  let ended := x (part t)
  ⟨ended.answer, put t ended.state, ended.events⟩

/-! ## How steps run -/

@[simp] theorem run_pure (a : α) (s : σ) : (pure a : Step ε σ α).run s = ⟨.ok a, s, []⟩ := rfl

@[simp] theorem run_fail (e : ε) (s : σ) : (fail e : Step ε σ α).run s = ⟨.error e, s, []⟩ := rfl

@[simp] theorem run_tell (event : Log.Event) (s : σ) :
    (tell event : Step ε σ Unit).run s = ⟨.ok (), s, [event]⟩ := rfl

@[simp] theorem run_state (s : σ) : (state : Step ε σ σ).run s = ⟨.ok s, s, []⟩ := rfl

@[simp] theorem run_modify (f : σ → σ) (s : σ) :
    (modify f : Step ε σ Unit).run s = ⟨.ok (), f s, []⟩ := rfl

@[simp] theorem run_ofExcept (x : Except ε α) (s : σ) :
    (ofExcept x : Step ε σ α).run s = ⟨x, s, []⟩ := rfl

@[simp] theorem run_listen (x : Step ε σ α) (s : σ) :
    x.listen.run s =
      ⟨(x.run s).answer.map (·, (x.run s).events), (x.run s).state, (x.run s).events⟩ := rfl

@[simp] theorem run_mapFault {δ : Type} (f : ε → δ) (x : Step ε σ α) (s : σ) :
    (x.mapFault f).run s = ⟨(x.run s).answer.mapError f, (x.run s).state, (x.run s).events⟩ := rfl

@[simp] theorem run_within (part : τ → σ) (put : τ → σ → τ) (x : Step ε σ α) (t : τ) :
    (x.within part put).run t =
      ⟨(x.run (part t)).answer, put t (x.run (part t)).state, (x.run (part t)).events⟩ := rfl

theorem pure_bind (a : α) (f : α → Step ε σ β) : (pure a >>= f) = f a := rfl

/-- After an answer the second step runs from where the first ended. -/
theorem run_bind_of_ok {x : Step ε σ α} {f : α → Step ε σ β} {s t : σ} {a : α}
    {events : List Log.Event} (h : x.run s = ⟨.ok a, t, events⟩) :
    (x >>= f).run s =
      ⟨((f a).run t).answer, ((f a).run t).state, events ++ ((f a).run t).events⟩ := by
  show Step.bind x f s = _
  simp only [run] at h
  simp only [Step.bind, h, run]

/-- After a fault the second step does not run. -/
theorem run_bind_of_error {x : Step ε σ α} {f : α → Step ε σ β} {s t : σ} {e : ε}
    {events : List Log.Event} (h : x.run s = ⟨.error e, t, events⟩) :
    (x >>= f).run s = ⟨.error e, t, events⟩ := by
  show Step.bind x f s = _
  simp only [run] at h
  simp only [Step.bind, h]

end Step
end DistroBallot
