import DistroBallot.Proofs.Ballot.Fetching
import Mathlib

/-!
# The cache of identifiers is assigned once

Looks into the cache come one after the other. Each of them fetches as long as no fetch has found
identifiers; the first that does assigns the cache, and every later look gives what it holds
(`Assigns`). An empty collection is found like any other. A fetch that fails leaves the cache as it
was: where the identifiers are unavailable that is told and the answer is none, and any other fault
passes through.

A look that may have to fetch goes through a lock, under which it looks a second time. The lock is
given back however the look ends, so that a look by itself never waits (`LockedCache.get_of_free`).
-/

namespace DistroBallot
namespace License

variable {σ : Type}

/-! ## The lock -/

/-- A cache with its lock. -/
structure LockedCache (σ : Type) where
  cache : IdentifierCache σ
  isTaken : Bool

/-- How a look into a cache ends. -/
abbrev Look (σ : Type) := Ended Fault (LockedCache σ) (Option IdentifierSet)

namespace LockedCache

/-- A look under the lock, which is given back at its end, also after a fault. Where the lock is
taken already it is waited for, and there is no end. -/
def underLock (x : Step Fault (IdentifierCache σ) (Option IdentifierSet)) (c : LockedCache σ) :
    Option (Look σ) :=
  if c.isTaken then none
  else some ⟨(x.run c.cache).answer, ⟨(x.run c.cache).state, false⟩, (x.run c.cache).events⟩

/-- A look into the cache. Only where it may have to fetch it takes the lock, and then it looks
again. -/
def get (fetch : Option (Step Fault σ (List Text))) (c : LockedCache σ) : Option (Look σ) :=
  match c.cache.held, fetch with
  | some identifiers, _ => some ⟨.ok (some identifiers), c, []⟩
  | none, none => some ⟨.ok none, c, []⟩
  | none, some fetch => c.underLock (IdentifierCache.get (some fetch))

/-- Looks one after the other, if all of them end. -/
def looks (fetch : Option (Step Fault σ (List Text))) : ℕ → LockedCache σ → Option (List (Look σ))
  | 0, _ => some []
  | n + 1, c => do
    let look ← c.get fetch
    let later ← looks fetch n look.state
    return look :: later

/-- The cache after looks. -/
def after (c : LockedCache σ) (ls : List (Look σ)) : LockedCache σ :=
  ls.foldl (fun _ look => look.state) c

/-- The fetches made so far. -/
def fetches (c : LockedCache (σ × Fetches)) : Fetches := c.cache.source.2

/-- With the lock free, a look is one into the cache itself, and the lock is free after it. -/
theorem get_of_free {c : LockedCache σ} (h : c.isTaken = false)
    (fetch : Option (Step Fault σ (List Text))) :
    let ended := (IdentifierCache.get fetch).run c.cache
    c.get fetch = some ⟨ended.answer, ⟨ended.state, false⟩, ended.events⟩ := by
  obtain ⟨cache, isTaken⟩ := c
  obtain rfl : isTaken = false := h
  unfold get
  cases hheld : cache.held with
  | some identifiers => rw [cache_run_of_settled (Or.inl (by simp [hheld])), hheld]
  | none =>
      cases fetch with
      | none => rw [cache_run_of_settled (Or.inr rfl), hheld]
      | some fetch => rfl

end LockedCache

/-! ## One look -/

/-- What a look does, by the fetches made before it. Once a fetch has found identifiers, it gives
them and leaves everything as it is. Until then it fetches, and takes what is found, tells that the
identifiers are unavailable, or stops by another fault. -/
inductive Assigns (fetch : Step Fault σ (List Text)) (before : LockedCache (σ × Fetches)) :
    Look (σ × Fetches) → Prop where
  | held {found : List Text} (earlier : firstFound before.fetches = some found) :
      Assigns fetch before ⟨.ok (some (.ofLower found)), before, []⟩
  | found {found : List Text} {source : σ} {events : List Log.Event}
      (earlier : firstFound before.fetches = none)
      (fetched : fetch.run before.cache.source.1 = ⟨.ok found, source, events⟩) :
      Assigns fetch before ⟨.ok (some (.ofLower found)),
        ⟨⟨some (.ofLower found), (source, before.fetches ++ [.ok found])⟩, false⟩, events⟩
  | unavailable {reason : GroupsUnavailable} {source : σ} {events : List Log.Event}
      (earlier : firstFound before.fetches = none)
      (fetched : fetch.run before.cache.source.1 = ⟨.error (.groups reason), source, events⟩) :
      Assigns fetch before ⟨.ok none,
        ⟨⟨before.cache.held, (source, before.fetches ++ [.error (.groups reason)])⟩, false⟩,
        events ++ [.groupsUnavailable reason.message]⟩
  | stopped {fault : Fault} {source : σ} {events : List Log.Event}
      (earlier : firstFound before.fetches = none) (other : ∀ reason, fault ≠ .groups reason)
      (fetched : fetch.run before.cache.source.1 = ⟨.error fault, source, events⟩) :
      Assigns fetch before ⟨.error fault,
        ⟨⟨before.cache.held, (source, before.fetches ++ [.error fault])⟩, false⟩, events⟩

/-- The cache is filled just when a fetch has found identifiers, and its lock is free. -/
def LockedCache.Sound (c : LockedCache (σ × Fetches)) : Prop :=
  c.cache.Faithful ∧ c.isTaken = false

theorem settle_of_other {fault : Fault} (h : ∀ reason, fault ≠ .groups reason) (source : σ)
    (events : List Log.Event) :
    IdentifierCache.settle ⟨.error fault, source, events⟩ =
      ⟨.error fault, ⟨none, source⟩, events⟩ := by
  cases fault with
  | groups reason => exact absurd rfl (h reason)
  | _ => rfl

theorem assigns_get (fetch : Step Fault σ (List Text)) {c : LockedCache (σ × Fetches)}
    (h : c.Sound) : ∃ look, c.get (some (recordedFetch fetch)) = some look ∧
      Assigns fetch c look := by
  obtain ⟨hfaithful, hfree⟩ := h
  refine ⟨_, LockedCache.get_of_free hfree _, ?_⟩
  rw [IdentifierCache.Faithful] at hfaithful
  cases hearlier : firstFound c.cache.source.2 with
  | some found =>
      rw [hearlier, Option.map_some] at hfaithful
      rw [cache_run_of_settled (Or.inl (by simp [hfaithful])), hfaithful, ← hfree]
      exact .held hearlier
  | none =>
      rw [hearlier, Option.map_none] at hfaithful
      rw [cache_run_of_empty hfaithful]
      cases hrun : fetch.run c.cache.source.1 with
      | mk answer source events =>
          have hrecorded : (recordedFetch fetch).run c.cache.source =
              ⟨answer, (source, c.cache.source.2 ++ [answer]), events⟩ := by
            show (⟨_, _, _⟩ : Ended _ _ _) = _
            rw [hrun]
          rw [hrecorded]
          cases answer with
          | ok found => exact .found hearlier hrun
          | error fault =>
              by_cases hgroups : ∃ reason, fault = .groups reason
              · obtain ⟨reason, rfl⟩ := hgroups
                have hlook := Assigns.unavailable hearlier hrun
                rw [hfaithful] at hlook
                exact hlook
              · have hother : ∀ reason, fault ≠ .groups reason :=
                  fun reason hreason => hgroups ⟨reason, hreason⟩
                have hlook := Assigns.stopped hearlier hother hrun
                rw [hfaithful] at hlook
                rw [settle_of_other hother]
                exact hlook

theorem Assigns.sound {fetch : Step Fault σ (List Text)} {c : LockedCache (σ × Fetches)}
    {look : Look (σ × Fetches)} (h : Assigns fetch c look) (hc : c.Sound) : look.state.Sound := by
  cases h with
  | held earlier => exact hc
  | found earlier fetched =>
      refine ⟨?_, rfl⟩
      rw [IdentifierCache.Faithful]
      show _ = (firstFound (c.fetches ++ _)).map _
      rw [firstFound_append_ok earlier]
      rfl
  | unavailable earlier fetched =>
      refine ⟨?_, rfl⟩
      rw [IdentifierCache.Faithful]
      show c.cache.held = (firstFound (c.fetches ++ _)).map _
      rw [firstFound_append_error earlier, hc.1]
      exact congrArg _ earlier
  | stopped earlier other fetched =>
      refine ⟨?_, rfl⟩
      rw [IdentifierCache.Faithful]
      show c.cache.held = (firstFound (c.fetches ++ _)).map _
      rw [firstFound_append_error earlier, hc.1]
      exact congrArg _ earlier

/-! ## Looks in a row -/

theorem exists_looks (fetch : Step Fault σ (List Text)) {c : LockedCache (σ × Fetches)}
    (h : c.Sound) (n : ℕ) :
    ∃ ls, c.looks (some (recordedFetch fetch)) n = some ls ∧ ls.length = n ∧
      ∀ earlier look later, ls = earlier ++ look :: later →
        Assigns fetch (c.after earlier) look ∧ look.state.Sound := by
  induction n generalizing c with
  | zero => exact ⟨[], rfl, rfl, by simp⟩
  | succ n ih =>
      obtain ⟨look, hget, hlook⟩ := assigns_get fetch h
      have hsound := hlook.sound h
      obtain ⟨ls, hls, hlength, hall⟩ := ih hsound
      refine ⟨look :: ls, ?_, by rw [List.length_cons, hlength], ?_⟩
      · rw [LockedCache.looks, hget]
        show (LockedCache.looks _ n look.state).bind _ = _
        rw [hls]
        rfl
      · intro earlier other later hsplit
        cases earlier with
        | nil =>
            obtain ⟨rfl, -⟩ := List.cons.inj hsplit
            exact ⟨hlook, hsound⟩
        | cons first earlier =>
            obtain ⟨rfl, hrest⟩ := List.cons.inj hsplit
            exact hall earlier other later hrest

theorem looks_of_get {fetch : Option (Step Fault σ (List Text))} {c : LockedCache σ}
    {answer : Except Fault (Option IdentifierSet)} (h : c.get fetch = some ⟨answer, c, []⟩)
    (n : ℕ) : c.looks fetch n = some (List.replicate n ⟨answer, c, []⟩) := by
  induction n with
  | zero => rfl
  | succ n ih =>
      rw [LockedCache.looks, h]
      show (c.looks fetch n).bind _ = _
      rw [ih]
      rfl

/-- **The cache is assigned once, by the first fetch that finds identifiers.** Looks into an empty
cache all end, and leave the lock free; the cache is filled from the first fetch on that has found
identifiers, be they none. What is given are the lower-case forms of what was found. A cache that
was filled from the start, and one that has no way to fetch, never change. -/
theorem looks_assign_once (fetch : Step Fault σ (List Text)) (source : σ) (n : ℕ) :
    let empty : LockedCache (σ × Fetches) := ⟨.empty (source, []), false⟩
    (∃ ls, empty.looks (some (recordedFetch fetch)) n = some ls ∧ ls.length = n ∧
      ∀ earlier look later, ls = earlier ++ look :: later →
        Assigns fetch (empty.after earlier) look ∧ look.state.isTaken = false ∧
        (look.state.cache.isLoaded = true ↔
          ∃ found, firstFound look.state.fetches = some found)) ∧
    (∀ found x, (IdentifierSet.ofLower found).contains x = true ↔
      ∃ identifier ∈ found, identifier.lower = x) ∧
    (∀ fetch identifiers,
      let filled : LockedCache σ := ⟨.preloaded identifiers source, false⟩
      filled.looks fetch n =
        some (List.replicate n ⟨.ok (some (.ofLower identifiers)), filled, []⟩)) ∧
    let unavailable : LockedCache σ := ⟨.empty source, false⟩
    unavailable.looks none n = some (List.replicate n ⟨.ok none, unavailable, []⟩) := by
  intro empty
  refine ⟨?_, ?_, ?_, looks_of_get rfl n⟩
  · obtain ⟨ls, hls, hlength, hall⟩ := exists_looks fetch (c := empty) ⟨rfl, rfl⟩ n
    refine ⟨ls, hls, hlength, ?_⟩
    intro earlier look later hsplit
    obtain ⟨hlook, hfaithful, hfree⟩ := hall earlier look later hsplit
    refine ⟨hlook, hfree, ?_⟩
    rw [IdentifierCache.isLoaded, hfaithful, Option.isSome_map, Option.isSome_iff_exists]
    rfl
  · intro found x
    rw [IdentifierSet.ofLower, IdentifierSet.contains_ofList, List.mem_map]
  · intro fetch identifiers filled
    exact looks_of_get rfl n

/-- A fetch that ends as a script says. -/
def playEnds : Step Fault Fetches (List Text) := fun script =>
  match script with
  | answer :: rest => ⟨answer, rest, []⟩
  | [] => ⟨.error (.groups (.reported "offline")), [], []⟩

-- an empty collection is found, so that the fetch after it is not made
example :
    ((LockedCache.looks (some playEnds) 5 ⟨.empty [.error (.groups (.reported "offline")),
      .error .hook, .ok [], .ok ["MIT".toList]], false⟩).map fun ls => ls.map Ended.answer) =
    some [.ok none, .error .hook, .ok (some ⟨[]⟩), .ok (some ⟨[]⟩), .ok (some ⟨[]⟩)] := rfl

end License
end DistroBallot
