import DistroBallot.Registry.Pattern

/-!
# Reference repositories

A reference repository is a trusted source of license data. It is matched by its name and, where it
has a second pattern, by the name of the sub-repository. Its rule gives one verdict for all of its
packages, or leaves each license to an evaluator.

A registry is an ordered list of reference repositories; a package belongs to the first that
matches. `Registry.builtin` has five, no two of which match the same package.
-/

namespace DistroBallot

/-- The license evaluators. -/
inductive EvaluatorId where
  | arch
  | opensuse
  | gentoo
deriving DecidableEq, Repr

namespace EvaluatorId

/-- The name of an evaluator. -/
def name : EvaluatorId → String
  | .arch => "arch"
  | .opensuse => "opensuse"
  | .gentoo => "gentoo"

/-- The evaluator of this name. -/
def ofName? (s : String) : Option EvaluatorId :=
  [arch, opensuse, gentoo].find? (fun e => e.name == s)

end EvaluatorId

/-- What a rule names as its evaluator: one of the evaluators, or a name that none has. -/
inductive EvaluatorRef where
  | known (id : EvaluatorId)
  | unknown (name : Text)
deriving DecidableEq, Repr

/-- The evaluator that a rule names, in a message. -/
def EvaluatorRef.shown : EvaluatorRef → String
  | .known id => s!"<EvaluatorId.{id.name.toUpper}: '{id.name}'>"
  | .unknown name => String.ofList name.quoted

/-- How a repository votes: with a fixed verdict, by an evaluator, or not at all because what
stands there is no rule. -/
inductive Rule where
  | fixed (isFree : Bool)
  | evaluator (ref : EvaluatorRef)
  | invalid (content : Value)
deriving Repr, Inhabited

/-- A fixed verdict was given that is no truth value. -/
structure FixedVerdictError where
  given : Value
deriving Repr

/-- The message for the error. -/
def FixedVerdictError.message (e : FixedVerdictError) : String :=
  s!"FixedRule verdict must be True or False, not {String.ofList e.given.quoted}"

/-- The rule with a fixed verdict, which must be a truth value. -/
def Rule.ofFixed (v : Value) : Except FixedVerdictError Rule :=
  match v with
  | .bool b => .ok (.fixed b)
  | v => .error ⟨v⟩

/-- A trusted source of license data. -/
structure Repository where
  name : Text
  repo : Pattern
  subrepo : Option Pattern
  rule : Rule

/-- Whether the repository matches a package's repository and sub-repository. The sub-repository
is looked at only if the repository's name matches; one that is not given matches no pattern. -/
def Repository.accepts (r : Repository) (repo subrepo : Value) : Except NotText Bool :=
  match r.repo.search repo with
  | .error e => .error e
  | .ok false => .ok false
  | .ok true =>
    match r.subrepo, subrepo with
    | none, _ => .ok true
    | some _, .null => .ok false
    | some p, v => p.search v

/-- An ordered list of reference repositories. -/
abbrev Registry := List Repository

namespace Registry

/-- The first repository that matches, with its place in the list. -/
def findFrom (repo subrepo : Value) (place : Nat) :
    Registry → Except NotText (Option (Nat × Repository))
  | [] => .ok none
  | r :: rest =>
    match r.accepts repo subrepo with
    | .error e => .error e
    | .ok true => .ok (some (place, r))
    | .ok false => findFrom repo subrepo (place + 1) rest

/-- The first repository that matches, with its place in the registry. -/
def find? (registry : Registry) (repo subrepo : Value) :
    Except NotText (Option (Nat × Repository)) :=
  findFrom repo subrepo 0 registry

/-- The reference repositories that are known without configuration. -/
def builtin : Registry := [
  ⟨"arch".toList, .whole ["arch".toList], none, .evaluator (.known .arch)⟩,
  ⟨"debian".toList, .startsWith "debian_".toList,
    some (.whole ["main".toList, "contrib".toList]), .fixed true⟩,
  ⟨"debian-non-free".toList, .startsWith "debian_".toList,
    some (.startsWith "non-free".toList), .fixed false⟩,
  ⟨"gentoo".toList, .whole ["gentoo".toList], none, .evaluator (.known .gentoo)⟩,
  ⟨"opensuse".toList, .startsWith "opensuse_".toList, none, .evaluator (.known .opensuse)⟩]

end Registry
end DistroBallot
