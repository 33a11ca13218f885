import DistroBallot.Proofs.Ballot.Questions
import Mathlib

/-!
# Checks one after the other

Whatever one checker is asked to check, one subject after the other, comes down to one list of
ballots (`Checker.ballotsOnAll`): each is cast where the one before it left the session, also when
the check that it belongs to has been stopped since. What a ballot preserves is then preserved by
any number of checks (`Cast`), and in one check a repository casts one ballot at most
(`nodup_home_ballotsOn`).
-/

namespace DistroBallot

variable {σ : Type}

/-- The packages of what is to be checked. -/
def Subject.packages : Subject → List Package
  | .package p => [p]
  | .project p => p.packages
  | .other _ => []

namespace Checker

/-- The ballots of one check. -/
def ballotsOn (checker : Checker σ) (s : Session σ) (subject : Subject) : List (Ballot σ) :=
  checker.ballots s (checker.registry.voters (checker.reached subject.packages))

/-- The ballots of checks one after the other. -/
def ballotsOnAll (checker : Checker σ) : Session σ → List Subject → List (Ballot σ)
  | _, [] => []
  | s, subject :: rest =>
    checker.ballotsOn s subject ++
      checker.ballotsOnAll (sessionAfter s (checker.ballotsOn s subject)) rest

theorem check_state (checker : Checker σ) (s : Session σ) (subject : Subject) :
    ((checker.check subject).run s).state = sessionAfter s (checker.ballotsOn s subject) := by
  cases subject with
  | package p => exact congrArg Ended.state (packageVerdict_run checker p s)
  | project project => exact congrArg Ended.state (projectVerdict_run_reached checker project s)
  | other content => rfl

theorem sessionAfter_append (s : Session σ) (bs bs' : List (Ballot σ)) :
    sessionAfter s (bs ++ bs') = sessionAfter (sessionAfter s bs) bs' :=
  List.foldl_append

/-- **All that checks do to the session, they do by ballots,** whether or not they come to a
verdict. -/
theorem checks_state (checker : Checker σ) (subjects : List Subject) (s : Session σ) :
    subjects.foldl (fun s subject => ((checker.check subject).run s).state) s =
      sessionAfter s (checker.ballotsOnAll s subjects) := by
  induction subjects generalizing s with
  | nil => rfl
  | cons subject rest ih =>
      rw [List.foldl_cons, ih, check_state, ballotsOnAll, sessionAfter_append]

/-! ## What ballots preserve -/

/-- Ballots of repositories of the registry, each cast where the one before it left the session. -/
inductive Cast (checker : Checker σ) : Session σ → List (Ballot σ) → Prop where
  | nil (s : Session σ) : Cast checker s []
  | cons {s : Session σ} {voter : Repository × Package} {rest : List (Ballot σ)}
      (known : voter.1 ∈ checker.registry)
      (later : Cast checker (checker.ballot s voter).after rest) :
      Cast checker s (checker.ballot s voter :: rest)

theorem Cast.append {checker : Checker σ} {s : Session σ} {bs bs' : List (Ballot σ)}
    (h : Cast checker s bs) (h' : Cast checker (sessionAfter s bs) bs') :
    Cast checker s (bs ++ bs') := by
  induction h with
  | nil s => exact h'
  | cons known later ih => exact .cons known (ih h')

/-- A ballot among others is cast by a voter where those before it left the session. -/
theorem Cast.split {checker : Checker σ} {s : Session σ} {earlier later : List (Ballot σ)}
    {b : Ballot σ} (h : Cast checker s (earlier ++ b :: later)) :
    Cast checker s earlier ∧ ∃ voter : Repository × Package, voter.1 ∈ checker.registry ∧
      b = checker.ballot (sessionAfter s earlier) voter := by
  induction earlier generalizing s with
  | nil =>
      cases h with
      | cons known later => exact ⟨.nil s, _, known, rfl⟩
  | cons first earlier ih =>
      cases h with
      | cons known later =>
          obtain ⟨hearlier, hvoter⟩ := ih later
          exact ⟨.cons known hearlier, hvoter⟩

/-- What each ballot preserves holds after ballots. -/
theorem Cast.preserves {checker : Checker σ} {P : Session σ → Prop}
    (hstep : ∀ s (voter : Repository × Package), voter.1 ∈ checker.registry → P s →
      P (checker.ballot s voter).after)
    {s : Session σ} {bs : List (Ballot σ)} (h : Cast checker s bs) (hs : P s) :
    P (sessionAfter s bs) := by
  induction h with
  | nil s => exact hs
  | cons known later ih => exact ih (hstep _ _ known hs)

theorem cast_ballots {checker : Checker σ} {voters : List (Repository × Package)}
    (hvoters : ∀ v ∈ voters, v.1 ∈ checker.registry) (s : Session σ) :
    Cast checker s (checker.ballots s voters) := by
  induction voters generalizing s with
  | nil => exact .nil s
  | cons voter rest ih =>
      rw [List.forall_mem_cons] at hvoters
      cases hv : (checker.ballot s voter).verdict with
      | error fault =>
          rw [ballots_cons_of_error hv]
          exact .cons hvoters.1 (.nil _)
      | ok verdict =>
          rw [ballots_cons_of_ok hv]
          exact .cons hvoters.1 (ih hvoters.2 _)

theorem cast_ballotsOnAll (checker : Checker σ) (subjects : List Subject) (s : Session σ) :
    Cast checker s (checker.ballotsOnAll s subjects) := by
  induction subjects generalizing s with
  | nil => exact .nil s
  | cons subject rest ih =>
      have hfirst : Cast checker s (checker.ballotsOn s subject) :=
        cast_ballots (fun _ hv => mem_registry_of_mem_voters hv) s
      exact hfirst.append (ih _)

/-- A ballot leaves the evaluators where the vote leaves them. -/
theorem ballot_evaluation (checker : Checker σ) (s : Session σ)
    (voter : Repository × Package) : (checker.ballot s voter).after.evaluation =
      ((checker.vote voter.1 voter.2).run s.evaluation).state := by
  rw [vote_run, ballot]
  cases checker.verdictOn s.evaluation voter.1 voter.2 <;> rfl

/-! ## One ballot of each repository -/

theorem ballots_initial (checker : Checker σ) (voters : List (Repository × Package))
    (s : Session σ) :
    (checker.ballots s voters).map (fun b => (b.repository, b.package)) <+: voters := by
  induction voters generalizing s with
  | nil => exact List.prefix_rfl
  | cons voter rest ih =>
      cases hv : (checker.ballot s voter).verdict with
      | error fault =>
          rw [ballots_cons_of_error hv, List.map_singleton, ballot_voter]
          exact ⟨rest, rfl⟩
      | ok verdict =>
          rw [ballots_cons_of_ok hv, List.map_cons, ballot_voter]
          exact List.prefix_cons_inj voter |>.mpr (ih _)

/-- In one check no two ballots are of packages of the same repository. -/
theorem nodup_home_ballotsOn (checker : Checker σ) (s : Session σ) (subject : Subject) :
    ((checker.ballotsOn s subject).map fun b => checker.registry.home b.package).Nodup := by
  have hinitial := (ballots_initial checker
    (checker.registry.voters (checker.reached subject.packages)) s).map
      (fun voter => checker.registry.home voter.2)
  rw [List.map_map, Registry.map_home_voters] at hinitial
  have hplaces : (checker.registry.places (checker.reached subject.packages)).Nodup :=
    Registry.nodup_eraseDups _
  exact (hplaces.map (Option.some_injective Nat)).sublist hinitial.sublist

/-- A ballot is cast through the first of the packages that belong to the same repository. -/
theorem find?_of_mem_ballotsOn {checker : Checker σ} {s : Session σ} {subject : Subject}
    {b : Ballot σ} (hb : b ∈ checker.ballotsOn s subject) :
    subject.packages.find? (fun p => checker.registry.home p == checker.registry.home b.package) =
      some b.package := by
  have hinitial := ballots_initial checker
    (checker.registry.voters (checker.reached subject.packages)) s
  have hvoter : (b.repository, b.package) ∈
      checker.registry.voters (checker.reached subject.packages) :=
    hinitial.subset (List.mem_map_of_mem hb)
  obtain ⟨place, -, hplace⟩ := List.mem_filterMap.mp hvoter
  obtain ⟨hhome, hfirst⟩ := Registry.home_of_voterAt hplace
  rw [hhome]
  exact (List.takeWhile_prefix _).find?_eq_some hfirst

end Checker
end DistroBallot
