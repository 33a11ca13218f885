import DistroBallot.Ballot.Evaluator
import DistroBallot.License.Groups
import DistroBallot.Proofs.License.Scanning
import DistroBallot.Proofs.Text.LetterCase
import Mathlib

/-!
# Licenses without regard to case

With small letters for capitals a license text has the same tokens but for the case of their texts
(`tokens_map_toLower`), so it is read into the same expression but for the case of its names and
flags (`parse_map_lowered`). An expression is evaluated by the lower case of its names alone, which
knows nothing of the case before (`Expression.evaluate_lowered`).

The free identifiers are in lower case themselves, whether they are members of groups of a file
(`Groups.members_congr`) or given as a list (`ofLower_congr`). So no verdict depends on the case of
any ASCII letter in what it is made from.
-/

namespace DistroBallot

theorem IdentifierSet.ofLower_congr {l l' : List Text} (h : List.Forall₂ Text.SameButCase l l') :
    ofLower l = ofLower l' := by
  have hlower : l.map Text.lower = l'.map Text.lower := by
    induction h with
    | nil => rfl
    | cons hx _ ih => rw [List.map_cons, List.map_cons, hx.lower_eq, ih]
  rw [ofLower, ofLower, hlower]

namespace License

/-! ## Tokens -/

/-- The token with small letters for capitals. -/
def Token.lowered (t : Token) : Token := ⟨t.kind, t.text.map Char.toLower⟩

namespace Token

theorem isFlagChar_toLower (c : Char) : isFlagChar c.toLower = isFlagChar c :=
  apply_toLower isFlagChar (by decide) c

theorem isNameChar_toLower (c : Char) : isNameChar c.toLower = isNameChar c :=
  apply_toLower isNameChar (by decide) c

theorem flagText?_map_toLower (t : Text) :
    flagText? (t.map Char.toLower) = (flagText? t).map (·.map Char.toLower) := by
  unfold flagText?
  rw [Text.takeWhile_map_toLower isFlagChar_toLower, Text.dropWhile_map_toLower isFlagChar_toLower]
  cases t.takeWhile isFlagChar with
  | nil => rfl
  | cons c name =>
      cases t.dropWhile isFlagChar with
      | nil => rfl
      | cons d after =>
          have hmark : d.toLower = '?' ↔ d = '?' := toLower_eq_iff (by decide)
          by_cases hd : d = '?'
          · subst hd
            simp
          · simp [hd, hmark]

theorem paramText?_map_toLower (t : Text) :
    paramText? (t.map Char.toLower) = (paramText? t).map (·.map Char.toLower) := by
  cases t with
  | nil => rfl
  | cons c rest =>
      have hsign : c.toLower = '!' ↔ c = '!' := toLower_eq_iff (by decide)
      by_cases hc : c = '!'
      · subst hc
        rw [List.map_cons, show Char.toLower '!' = '!' by decide, paramText?, paramText?,
          flagText?_map_toLower, Option.map_map, Option.map_map]
        rfl
      · rw [paramText?.eq_2 _ (by simp [hsign, hc]), paramText?.eq_2 _ (by simp [hc]),
          flagText?_map_toLower]

end Token

theorem TokenKind.fitting?_map_toLower (kind : TokenKind) (t : Text) :
    kind.fitting? (t.map Char.toLower) = (kind.fitting? t).map (·.map Char.toLower) := by
  cases kind with
  | param => exact Token.paramText?_map_toLower t
  | opening =>
      simp only [fitting?, Text.head?_map_toLower_iff (show '('.isAlpha = false by decide)]
      split <;> rfl
  | closing =>
      simp only [fitting?, Text.head?_map_toLower_iff (show ')'.isAlpha = false by decide)]
      split <;> rfl
  | either =>
      have hsign : ['|', '|'].isPrefixOf (t.map Char.toLower) = ['|', '|'].isPrefixOf t := by
        have hbar := toLower_beq (show '|'.isAlpha = false by decide)
        cases t with
        | nil => rfl
        | cons c rest =>
            cases rest with
            | nil => simp [List.isPrefixOf]
            | cons d rest => simp [List.isPrefixOf, Bool.beq_comm (a := '|'), hbar]
      simp only [fitting?, hsign]
      split <;> rfl
  | identifier =>
      simp only [fitting?, Text.takeWhile_map_toLower Token.isNameChar_toLower, List.map_eq_nil_iff]
      split <;> rfl

theorem findFitting?_map_toLower (t : Text) :
    findFitting? (t.map Char.toLower) = (findFitting? t).map Token.lowered := by
  unfold findFitting?
  induction TokenKind.inOrder with
  | nil => rfl
  | cons kind kinds ih =>
      rw [List.findSome?_cons, List.findSome?_cons, kind.fitting?_map_toLower, ih]
      cases kind.fitting? t <;> rfl

/-- The token in front of a text is there in any case. -/
theorem Token.first_map_toLower {c : Char} (hc : isBlank c = false) (rest : Text) :
    first ((c :: rest).map Char.toLower) = (first (c :: rest)).lowered := by
  have hfound := findFitting?_map_toLower (c :: rest)
  rw [findFitting?_cons hc, List.map_cons, findFitting?_cons (by rw [isBlank_toLower, hc])] at hfound
  exact Option.some.inj hfound

theorem tokensFrom_map_toLower (skip : Nat) (t : Text) :
    tokensFrom skip (t.map Char.toLower) = (tokensFrom skip t).map Token.lowered := by
  induction t generalizing skip with
  | nil => cases skip <;> rfl
  | cons c rest ih =>
      cases skip with
      | succ skip => exact ih skip
      | zero =>
          rw [List.map_cons, tokensFrom, tokensFrom, isBlank_toLower]
          cases hc : isBlank c with
          | true => exact ih 0
          | false =>
              have hfirst := Token.first_map_toLower hc rest
              rw [List.map_cons] at hfirst
              simp only [hfirst, Token.lowered, List.length_map, ih, List.map_cons,
                Bool.false_eq_true, if_false]

theorem tokens_map_toLower (t : Text) :
    tokens (t.map Char.toLower) = (tokens t).map Token.lowered :=
  tokensFrom_map_toLower 0 t

/-! ## Expressions -/

namespace Expression

mutual

/-- The expression with small letters for capitals in its names and flags. -/
def lowered : Expression → Expression
  | .license name => .license (name.map Char.toLower)
  | .all members => .all (loweredAll members)
  | .any members => .any (loweredAll members)
  | .conditional flag negated body => .conditional (flag.map Char.toLower) negated (lowered body)
  | .foreign content => .foreign content

/-- The members with small letters for capitals. -/
def loweredAll : List Expression → List Expression
  | [] => []
  | e :: rest => lowered e :: loweredAll rest

end

theorem loweredAll_eq_map (members : List Expression) :
    loweredAll members = members.map lowered := by
  induction members with
  | nil => rfl
  | cons e rest ih => rw [loweredAll, ih, List.map_cons]

mutual

/-- **The case of names and flags does not count.** -/
theorem evaluate_lowered (free : IdentifierSet) :
    ∀ e : Expression, evaluate free e.lowered = evaluate free e
  | .license name => by rw [lowered, evaluate, evaluate, Text.lower_map_toLower]
  | .all members => by rw [lowered, evaluate, evaluate, evaluateAll_loweredAll free members]
  | .any members => by rw [lowered, evaluate, evaluate, evaluateAny_loweredAll free members]
  | .conditional flag negated body => by
      rw [lowered, evaluate, evaluate, evaluate_lowered free body]
  | .foreign content => rfl

theorem evaluateAll_loweredAll (free : IdentifierSet) :
    ∀ members, evaluateAll free (loweredAll members) = evaluateAll free members
  | [] => rfl
  | e :: rest => by
      rw [loweredAll, evaluateAll, evaluateAll, evaluate_lowered free e,
        evaluateAll_loweredAll free rest]

theorem evaluateAny_loweredAll (free : IdentifierSet) :
    ∀ members, evaluateAny free (loweredAll members) = evaluateAny free members
  | [] => rfl
  | e :: rest => by
      rw [loweredAll, evaluateAny, evaluateAny, evaluate_lowered free e,
        evaluateAny_loweredAll free rest]

end

end Expression

/-! ## Reading -/

/-- The head with small letters for capitals. -/
def Head.lowered : Head → Head
  | .plain => .plain
  | .either => .either
  | .flag name negated => .flag (name.map Char.toLower) negated

theorem Head.ofParam_map_toLower (text : Text) :
    ofParam (text.map Char.toLower) = (ofParam text).lowered := by
  have hsign := toLower_beq (show '!'.isAlpha = false by decide)
  have hmark := toLower_beq (show '?'.isAlpha = false by decide)
  have hhead : ((text.map Char.toLower).head? == some '!') = (text.head? == some '!') := by
    rw [Bool.eq_iff_iff, beq_iff_eq, beq_iff_eq, Text.head?_map_toLower_iff (by decide)]
  rw [ofParam, hhead, Text.dropWhile_map_toLower hsign, ← List.map_reverse,
    Text.dropWhile_map_toLower hmark, ← List.map_reverse]
  rfl

theorem Head.group_lowered (head : Head) (members : List Expression) :
    head.lowered.group (members.map Expression.lowered) = (head.group members).lowered := by
  cases head <;> simp [lowered, group, Expression.lowered, Expression.loweredAll_eq_map]

/-- The error with small letters for capitals in the text that it tells. -/
def SyntaxError.lowered : SyntaxError → SyntaxError
  | .unexpectedEnd => .unexpectedEnd
  | .unexpected text => .unexpected (text.map Char.toLower)
  | .expectedOpening text => .expectedOpening (text.map Char.toLower)

namespace Reader

/-- The open group with small letters for capitals. -/
def loweredGroup (g : OpenGroup) : OpenGroup := ⟨g.head.lowered, g.before.map Expression.lowered⟩

/-- The reader with small letters for capitals in what it has read. -/
def lowered (r : Reader) : Reader :=
  ⟨r.groups.map loweredGroup, r.members.map Expression.lowered, r.pending.map Head.lowered⟩

theorem take_lowered (r : Reader) (t : Token) :
    r.lowered.take t.lowered = ((r.take t).map lowered).mapError SyntaxError.lowered := by
  obtain ⟨groups, members, pending⟩ := r
  obtain ⟨kind, text⟩ := t
  cases pending with
  | some head => cases kind <;> rfl
  | none =>
      cases kind with
      | identifier => rfl
      | param =>
          simp [take, lowered, Token.lowered, Head.ofParam_map_toLower, Except.map, Except.mapError]
      | either => rfl
      | opening => rfl
      | closing =>
          cases groups with
          | nil => rfl
          | cons g outer =>
              simp [take, lowered, loweredGroup, Token.lowered, ← Head.group_lowered, Except.map,
                Except.mapError]

theorem takeAll_lowered (r : Reader) (ts : List Token) :
    r.lowered.takeAll (ts.map Token.lowered) =
      ((r.takeAll ts).map lowered).mapError SyntaxError.lowered := by
  induction ts generalizing r with
  | nil => rfl
  | cons t ts ih =>
      rw [List.map_cons, takeAll, takeAll, take_lowered]
      cases r.take t with
      | ok next => exact ih next
      | error e => rfl

theorem finish_lowered (r : Reader) :
    r.lowered.finish = (r.finish.map (·.map Expression.lowered)).mapError SyntaxError.lowered := by
  obtain ⟨groups, members, pending⟩ := r
  cases pending with
  | some head => rfl
  | none =>
      cases groups with
      | nil => simp [finish, lowered, Except.map, Except.mapError]
      | cons g outer => rfl

end Reader

/-- **Tokens are read in any case**, into the same expression or error but for the case. -/
theorem parse_map_lowered (ts : List Token) :
    parse (ts.map Token.lowered) =
      ((parse ts).map Expression.lowered).mapError SyntaxError.lowered := by
  rw [parse, show Reader.start = Reader.start.lowered from rfl, Reader.takeAll_lowered, parse]
  cases Reader.start.takeAll ts with
  | error e => rfl
  | ok r =>
      show r.lowered.finish.map Expression.all =
        ((r.finish.map Expression.all).map Expression.lowered).mapError SyntaxError.lowered
      rw [Reader.finish_lowered]
      cases r.finish with
      | error e => rfl
      | ok members =>
          simp [Except.map, Except.mapError, Expression.lowered, Expression.loweredAll_eq_map]

theorem isFree_map_toLower (t : Text) (free : IdentifierSet) :
    isFree (some (t.map Char.toLower)) free = isFree (some t) free := by
  simp only [isFree, Text.isBlankText_map_toLower, tokens_map_toLower, parse_map_lowered]
  cases parse (tokens t) with
  | error e => rfl
  | ok e => simp only [Except.map, Except.mapError, Expression.evaluate_lowered]

theorem isFree_eq_of_sameButCase {t u : Text} (h : t.SameButCase u) (free : IdentifierSet) :
    isFree (some t) free = isFree (some u) free := by
  rw [← isFree_map_toLower t, ← isFree_map_toLower u, h]

/-! ## Groups -/

namespace Groups

theorem lineWords_map_toLower (line : Text) :
    lineWords (line.map Char.toLower) = (lineWords line).map (·.map Char.toLower) := by
  have hsign : ∀ c : Char, (c.toLower != '#') = (c != '#') := by
    intro c
    rw [bne, toLower_beq (by decide), bne]
  rw [lineWords, Text.takeWhile_map_toLower hsign, Text.words_map_toLower, lineWords]

theorem lineMembers_map_toLower (wanted : List Text) (line : Text) :
    lineMembers wanted (line.map Char.toLower) = lineMembers wanted line := by
  have href : ∀ m : Text, ((m.map Char.toLower).head? != some '@') = (m.head? != some '@') := by
    intro m
    rw [Bool.eq_iff_iff, bne_iff_ne, bne_iff_ne, ne_eq, Text.head?_map_toLower_iff (by decide)]
  rw [lineMembers, lineWords_map_toLower, lineMembers]
  cases lineWords line with
  | nil => rfl
  | cons group members =>
      simp only [List.map_cons, Text.upper_map_toLower, List.filter_map, List.map_map]
      congr 1
      rw [show Text.lower ∘ List.map Char.toLower = Text.lower from
        funext Text.lower_map_toLower]
      exact congrArg (fun keep => (members.filter keep).map Text.lower) (funext href)

theorem members_map_toLower (file : Text) (categories : List Text) :
    members (file.map Char.toLower) categories = members file categories := by
  rw [members, Text.lines_map_toLower, List.flatMap_map, members]
  exact congrArg (IdentifierSet.ofList <| file.lines.flatMap ·)
    (funext (lineMembers_map_toLower (categories.map Text.upper)))

/-- **Groups and their members are read in any case.** -/
theorem members_congr {file file' : Text} {categories categories' : List Text}
    (hfile : file.SameButCase file') (hcategories : List.Forall₂ Text.SameButCase categories
      categories') : members file categories = members file' categories' := by
  have hupper : categories.map Text.upper = categories'.map Text.upper := by
    induction hcategories with
    | nil => rfl
    | cons hx _ ih => rw [List.map_cons, List.map_cons, hx.upper_eq, ih]
  rw [← members_map_toLower file, hfile, members_map_toLower, members, hupper, members]

/-- The fetch that reads the identifiers off a file of license groups. -/
def reading {σ : Type} (file : Text) (categories : List Text) : Step Fault σ (List Text) :=
  pure (members file categories).toList

end Groups

end License

/-! ## Verdicts -/

namespace Evaluator

open License

variable {σ : Type}

theorem ofIdentifiers_congr {t u : Text} (h : t.SameButCase u)
    (identifiers : Option IdentifierSet) :
    (ofIdentifiers identifiers t : Step Fault σ Verdict) = ofIdentifiers identifiers u := by
  cases identifiers with
  | none => rfl
  | some free => simp only [ofIdentifiers, isFree_eq_of_sameButCase h]

/-- **The case of ASCII letters does not count for the evaluator of license expressions.** It may
change in the names and members of license groups, in the names of the categories, in identifiers
given beforehand and in the license text; the evaluator ends the same way whatever its cache holds. -/
theorem gentoo_run_eq_of_sameButCase {file file' text text' : Text}
    {categories categories' identifiers identifiers' : List Text}
    (hfile : file.SameButCase file')
    (hcategories : List.Forall₂ Text.SameButCase categories categories')
    (hidentifiers : List.Forall₂ Text.SameButCase identifiers identifiers')
    (htext : text.SameButCase text') (cache : IdentifierCache σ)
    (fetch : Option (Step Fault σ (List Text))) (source : σ) :
    (gentoo (some (Groups.reading file categories)) text).run cache =
      (gentoo (some (Groups.reading file' categories')) text').run cache ∧
    (gentoo fetch text).run (.preloaded identifiers source) =
      (gentoo fetch text').run (.preloaded identifiers' source) := by
  have hverdict : ∀ fetch : Option (Step Fault σ (List Text)),
      gentoo fetch text = gentoo fetch text' := by
    intro fetch
    simp only [gentoo, ofIdentifiers_congr htext]
  constructor
  · rw [hverdict, Groups.reading, Groups.members_congr hfile hcategories, Groups.reading]
  · rw [hverdict, IdentifierCache.preloaded, IdentifierSet.ofLower_congr hidentifiers,
      IdentifierCache.preloaded]

/-- A license is free under a name in other letters than those of the file or of the list. -/
theorem gentoo_run_eq_in_any_case :
    ((gentoo (some (Groups.reading "Free mit @other zLIB\n".toList ["FREE".toList]))
      "|| ( MIT DOC? ( x11 ) )".toList).run (.empty ())).answer = .ok .free ∧
    ((gentoo none "|| ( MIT DOC? ( x11 ) )".toList).run
      (.preloaded ["Mit".toList] ())).answer = .ok .free := by
  obtain ⟨hgroups, hpreloaded⟩ := gentoo_run_eq_of_sameButCase
    (show Text.SameButCase "Free mit @other zLIB\n".toList "free mit @other zlib\n".toList by decide)
    (.cons (show Text.SameButCase "FREE".toList "free".toList by decide) .nil)
    (.cons (show Text.SameButCase "Mit".toList "mit".toList by decide) .nil)
    (show Text.SameButCase "|| ( MIT DOC? ( x11 ) )".toList "|| ( mit doc? ( x11 ) )".toList
      by decide) (.empty ()) none ()
  rw [hgroups, hpreloaded]
  exact ⟨rfl, rfl⟩

end Evaluator
end DistroBallot
