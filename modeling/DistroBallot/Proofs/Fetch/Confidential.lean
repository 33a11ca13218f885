import DistroBallot.License.Download
import DistroBallot.Proofs.Fetch.Freshness
import Mathlib

/-!
# What a download tells of its URL

A URL leads to a *place*: a scheme, a host, maybe a port, and a path. What else stands in it, its
*asides*, are credentials, a query and a fragment. What is shown of a URL is a function of the place
(`Url.redacted_url`), and a URL is told only as it is shown.

That nothing else of it gets out is a statement about two runs. They start alike, except that the
URLs differ in their asides and that the network may give other reasons for its failures, as these
may well quote the URL; and each step keeps them alike (`Step.Alike`): it tells the same events and
ends in the same way. What may differ on the way are the requests made, the responses kept, and the
reason of the last failure.
-/

namespace DistroBallot

variable {ε σ τ α β : Type}

/-! ## Cutting -/

namespace Text

theorem takeWhile_bne_append {c : Char} {a : Text} (h : c ∉ a) (b : Text) :
    (a ++ b).takeWhile (· != c) = a ++ b.takeWhile (· != c) := by
  apply List.takeWhile_append_of_pos
  intro d hd
  rw [bne_iff_ne]
  rintro rfl
  exact h hd

theorem cutAt_of_not_mem {c : Char} {a : Text} (h : c ∉ a) : cutAt c a = (a, none) := by
  have hall : ∀ d ∈ a, (d != c) = true := by
    intro d hd
    rw [bne_iff_ne]
    rintro rfl
    exact h hd
  rw [cutAt, List.takeWhile_eq_self_iff.mpr hall, List.dropWhile_eq_nil_iff.mpr hall]
  rfl

theorem cutAt_append_cons {c : Char} {a : Text} (h : c ∉ a) (b : Text) :
    cutAt c (a ++ c :: b) = (a, some b) := by
  have hall : ∀ d ∈ a, (d != c) = true := by
    intro d hd
    rw [bne_iff_ne]
    rintro rfl
    exact h hd
  rw [cutAt, takeWhile_bne_append h, List.dropWhile_append_of_pos hall]
  simp

theorem afterLast_append {c : Char} {a b : Text} (ha : a = [] ∨ a.getLast? = some c)
    (hb : c ∉ b) : afterLast c (a ++ b) = b := by
  have hreverse : c ∉ b.reverse := by
    rwa [List.mem_reverse]
  rw [afterLast, List.reverse_append, takeWhile_bne_append hreverse]
  rcases ha with rfl | ha
  · simp
  · obtain ⟨front, rfl⟩ := List.getLast?_eq_some_iff.mp ha
    simp

end Text

/-! ## Places and asides -/

namespace Url

/-- Printable ASCII characters that neither end an authority nor put an address in brackets. -/
def isAuthorityChar (c : Char) : Bool :=
  32 < c.toNat && c.toNat < 127 && c ∉ ['/', '?', '#', '[', ']']

/-- Where a URL leads to: a scheme that starts with a letter, a host, the digits of a port if one is
given, and a path that is empty or starts with a slash. -/
structure Place where
  scheme : Text
  host : Text
  port : Option Text
  path : Text
  lettered : scheme.head?.any Char.isAlpha = true
  schemed : ∀ c ∈ scheme, isSchemeChar c = true
  hosted : ∀ c ∈ host, c.isAlphanum = true ∨ c = '.' ∨ c = '-'
  numbered : ∀ digits, port = some digits → ∀ c ∈ digits, c.isDigit = true
  rooted : path = [] ∨ path.head? = some '/'
  direct : ∀ c ∈ path, c ≠ '?' ∧ c ≠ '#'

/-- What else stands in a URL, as far as it is given: credentials, which may hold colons and at
signs, a query and a fragment. -/
structure Asides where
  userinfo : Option Text
  query : Option Text
  fragment : Option Text
  printable : ∀ u, userinfo = some u → ∀ c ∈ u, isAuthorityChar c = true

/-- Host and port as they are written. -/
def Place.address (p : Place) : Text :=
  p.host ++ (p.port.map (':' :: ·)).getD []

/-- The credentials as they stand in front of a host. -/
def Asides.front (a : Asides) : Text :=
  (a.userinfo.map (· ++ ['@'])).getD []

/-- Query and fragment as they stand behind a path. -/
def Asides.behind (a : Asides) : Text :=
  (a.query.map ('?' :: ·)).getD [] ++ (a.fragment.map ('#' :: ·)).getD []

/-- The URL that leads to a place and has these asides. -/
def Place.url (p : Place) (a : Asides) : Text :=
  p.scheme ++ ':' :: '/' :: '/' :: ((a.front ++ p.address) ++ (p.path ++ a.behind))

/-! ## Characters -/

theorem isAuthorityChar_of_isAlphanum {c : Char} (h : c.isAlphanum = true) :
    isAuthorityChar c = true := by
  have hsigns : c ∉ ['/', '?', '#', '[', ']'] := by
    intro hc
    simp only [List.mem_cons, List.not_mem_nil, or_false] at hc
    rcases hc with rfl | rfl | rfl | rfl | rfl <;> exact absurd h (by decide)
  have hrange : 48 ≤ c.toNat ∧ c.toNat ≤ 122 := by
    simp only [Char.isAlphanum, Char.isAlpha, Char.isUpper, Char.isLower, Char.isDigit,
      Bool.or_eq_true, Bool.and_eq_true, decide_eq_true_eq, UInt32.le_iff_toNat_le, ge_iff_le] at h
    change ((65 ≤ c.toNat ∧ c.toNat ≤ 90) ∨ (97 ≤ c.toNat ∧ c.toNat ≤ 122)) ∨
      (48 ≤ c.toNat ∧ c.toNat ≤ 57) at h
    omega
  simp only [isAuthorityChar, Bool.and_eq_true, decide_eq_true_eq]
  exact ⟨⟨by omega, by omega⟩, hsigns⟩

theorem Place.isAuthorityChar_of_mem_host (p : Place) {c : Char} (h : c ∈ p.host) :
    isAuthorityChar c = true := by
  rcases p.hosted c h with hc | rfl | rfl
  · exact isAuthorityChar_of_isAlphanum hc
  · decide
  · decide

theorem Place.isAuthorityChar_of_mem_address (p : Place) {c : Char} (h : c ∈ p.address) :
    isAuthorityChar c = true := by
  rw [address, List.mem_append] at h
  rcases h with h | h
  · exact p.isAuthorityChar_of_mem_host h
  · cases hport : p.port with
    | none =>
        rw [hport] at h
        cases h
    | some digits =>
        rw [hport] at h
        rcases List.mem_cons.mp h with rfl | hc
        · decide
        · have hdigit := p.numbered digits hport c hc
          exact isAuthorityChar_of_isAlphanum (by simp [Char.isAlphanum, hdigit])

theorem Asides.isAuthorityChar_of_mem_front (a : Asides) {c : Char} (h : c ∈ a.front) :
    isAuthorityChar c = true := by
  rw [front] at h
  cases huserinfo : a.userinfo with
  | none =>
      rw [huserinfo] at h
      cases h
  | some u =>
      rw [huserinfo] at h
      rcases List.mem_append.mp h with hc | hc
      · exact a.printable u huserinfo c hc
      · obtain rfl := List.mem_singleton.mp hc
        decide

/-- No sign that a URL is cut at stands in its authority, but for colons and at signs. -/
theorem not_mem_authority (p : Place) (a : Asides) {c : Char} (h : isAuthorityChar c = false) :
    c ∉ a.front ++ p.address := by
  intro hc
  rcases List.mem_append.mp hc with hc | hc
  · rw [a.isAuthorityChar_of_mem_front hc] at h
    cases h
  · rw [p.isAuthorityChar_of_mem_address hc] at h
    cases h

/-! ## What is shown -/

/-- A text without tabulations and line ends. -/
def tidied (t : Text) : Text := t.filter fun c => c != '\t' && c != '\r' && c != '\n'

theorem tidied_eq_self {t : Text} (h : ∀ c ∈ t, 32 < c.toNat) : tidied t = t := by
  refine List.filter_eq_self.mpr ?_
  intro c hc
  have hc := h c hc
  have hne : ∀ d : Char, d.toNat ≤ 32 → (c != d) = true := by
    intro d hd
    rw [bne_iff_ne]
    rintro rfl
    omega
  rw [hne '\t' (by decide), hne '\r' (by decide), hne '\n' (by decide)]
  rfl

theorem lt_toNat_of_isSchemeChar {c : Char} (h : isSchemeChar c = true) : 32 < c.toNat := by
  simp only [isSchemeChar, Bool.or_eq_true, beq_iff_eq] at h
  rcases h with ((h | rfl) | rfl) | rfl
  · have hauthority := isAuthorityChar_of_isAlphanum h
    simp only [isAuthorityChar, Bool.and_eq_true, decide_eq_true_eq] at hauthority
    exact hauthority.1.1
  · decide
  · decide
  · decide

/-- A URL has nothing in front of its scheme that is dropped, and nothing in its authority. -/
theorem cleaned_url (p : Place) (a : Asides) : cleaned (p.url a) =
    p.scheme ++ ':' :: '/' :: '/' ::
      ((a.front ++ p.address) ++ (tidied p.path ++ tidied a.behind)) := by
  have hscheme : tidied p.scheme = p.scheme :=
    tidied_eq_self fun c hc => lt_toNat_of_isSchemeChar (p.schemed c hc)
  have hauthority : tidied (a.front ++ p.address) = a.front ++ p.address := by
    refine tidied_eq_self ?_
    intro c hc
    by_contra hle
    refine not_mem_authority p a ?_ hc
    rw [isAuthorityChar, decide_eq_false hle]
    rfl
  have hdrop : (p.url a).dropWhile (fun c => c.toNat ≤ 32) = p.url a := by
    have hlettered := p.lettered
    have hschemed := p.schemed
    rw [Place.url]
    cases hp : p.scheme with
    | nil =>
        rw [hp] at hlettered
        cases hlettered
    | cons c rest =>
        rw [hp] at hschemed
        have hc := lt_toNat_of_isSchemeChar (hschemed c List.mem_cons_self)
        rw [List.cons_append, List.dropWhile_cons_of_neg (by simpa using hc)]
  rw [cleaned, hdrop]
  show tidied (p.url a) = _
  rw [tidied] at hscheme hauthority ⊢
  rw [Place.url, List.filter_append, hscheme]
  simp only [List.filter_cons, List.filter_append]
  rw [List.filter_append] at hauthority
  rw [hauthority]
  rfl

theorem splitScheme_of_lettered (p : Place) (rest : Text) :
    splitScheme (p.scheme ++ ':' :: rest) = (p.scheme.map Char.toLower, rest) := by
  have hcolon : ':' ∉ p.scheme := by
    intro hc
    cases p.schemed ':' hc
  have hall : p.scheme.all isSchemeChar = true := List.all_eq_true.mpr p.schemed
  simp only [splitScheme, Text.cutAt_append_cons hcolon, p.lettered, hall, Bool.and_self, if_true]

/-- The authority ends where the path starts, or where the query or the fragment does. -/
theorem splitAuthority_of_ended {authority rest : Text}
    (h : ∀ c ∈ authority, c ≠ '/' ∧ c ≠ '?' ∧ c ≠ '#')
    (hrest : ∀ c, rest.head? = some c → c = '/' ∨ c = '?' ∨ c = '#') :
    splitAuthority ('/' :: '/' :: (authority ++ rest)) = (authority, rest) := by
  have hinside : ∀ c ∈ authority, (!(c == '/' || c == '?' || c == '#')) = true := by
    intro c hc
    obtain ⟨hslash, hmark, hsign⟩ := h c hc
    simp [hslash, hmark, hsign]
  simp only [splitAuthority]
  rw [List.takeWhile_append_of_pos hinside, List.dropWhile_append_of_pos hinside]
  cases rest with
  | nil => simp
  | cons c more =>
      rcases hrest c rfl with rfl | rfl | rfl <;> simp

/-- What stands behind a path starts with a question mark or a number sign. -/
theorem head_tidied_behind (a : Asides) {c : Char} (h : (tidied a.behind).head? = some c) :
    c = '?' ∨ c = '#' := by
  rw [Asides.behind] at h
  cases hquery : a.query with
  | some query =>
      rw [hquery] at h
      exact Or.inl (Option.some.inj h).symm
  | none =>
      rw [hquery] at h
      cases hfragment : a.fragment with
      | some fragment =>
          rw [hfragment] at h
          exact Or.inr (Option.some.inj h).symm
      | none =>
          rw [hfragment] at h
          cases h

/-- A URL is cut into its place, with the credentials still in front of the host. -/
theorem split?_url (p : Place) (a : Asides) : split? (p.url a) =
    some ⟨p.scheme.map Char.toLower, a.front ++ p.address, tidied p.path⟩ := by
  have hnot : ∀ c, isAuthorityChar c = false → c ∉ a.front ++ p.address :=
    fun _ => not_mem_authority p a
  have hpath : ∀ c ∈ tidied p.path, c ≠ '?' ∧ c ≠ '#' :=
    fun c hc => p.direct c (List.mem_of_mem_filter hc)
  have hauthority : splitAuthority
      ('/' :: '/' :: ((a.front ++ p.address) ++ (tidied p.path ++ tidied a.behind))) =
      (a.front ++ p.address, tidied p.path ++ tidied a.behind) := by
    apply splitAuthority_of_ended
    · intro c hc
      refine ⟨?_, ?_, ?_⟩ <;> rintro rfl <;> exact hnot _ (by decide) hc
    · intro c hc
      rcases p.rooted with hempty | hslash
      · rw [hempty] at hc
        exact Or.inr (head_tidied_behind a hc)
      · obtain ⟨rest, hrest⟩ := List.head?_eq_some_iff.mp hslash
        rw [hrest] at hc
        exact Or.inl (Option.some.inj hc).symm
  -- the path is what stands before the first number sign and then before the first question mark
  have hcut : (Text.cutAt '?' (Text.cutAt '#' (tidied p.path ++ tidied a.behind)).1).1 =
      tidied p.path := by
    have hsign : '#' ∉ tidied p.path := fun hc => (hpath _ hc).2 rfl
    have hmark : '?' ∉ tidied p.path := fun hc => (hpath _ hc).1 rfl
    have hbehind : ((tidied a.behind).takeWhile (· != '#')).takeWhile (· != '?') = [] := by
      cases hb : tidied a.behind with
      | nil => rfl
      | cons c rest =>
          rcases head_tidied_behind a (c := c) (by rw [hb]; rfl) with rfl | rfl <;> simp
    rw [Text.cutAt, Text.cutAt, Text.takeWhile_bne_append hsign, Text.takeWhile_bne_append hmark,
      hbehind, List.append_nil]
  have hallowed : authorityAllowed (a.front ++ p.address) = true := by
    have hopen : (a.front ++ p.address).contains '[' = false := by
      rw [← Bool.not_eq_true, List.contains_iff_mem]
      exact hnot _ (by decide)
    have hclose : (a.front ++ p.address).contains ']' = false := by
      rw [← Bool.not_eq_true, List.contains_iff_mem]
      exact hnot _ (by decide)
    have hdivisive : (a.front ++ p.address).all (fun c => !divisive.contains c.toNat) = true := by
      rw [List.all_eq_true]
      intro c hc
      have hrange : c.toNat < 127 := by
        by_contra hle
        refine hnot c ?_ hc
        rw [isAuthorityChar, decide_eq_false hle, Bool.and_false, Bool.false_and]
      rw [Bool.not_eq_true', ← Bool.not_eq_true, List.contains_iff_mem]
      intro hmem
      have hleast : ∀ n ∈ divisive, 127 ≤ n := by decide
      have := hleast _ hmem
      omega
    rw [authorityAllowed, hdivisive, bracketsAllowed, hopen, hclose]
    rfl
  simp only [split?, cleaned_url, splitScheme_of_lettered, hauthority, hcut, hallowed, if_true]

/-- What is shown of the URLs that lead to a place. -/
def Place.shown (p : Place) : Except PortError Text :=
  (portNumber (p.port.getD [])).map fun number =>
    let port := match number with
      | some n => if n = 0 then [] else ':' :: Nat.toDigits 10 n
      | none => []
    unsplit ⟨p.scheme.map Char.toLower, shownHost p.host ++ port, tidied p.path⟩

/-- **What is shown of a URL is a function of its place.** -/
theorem redacted_url (p : Place) (a : Asides) : redacted (p.url a) = p.shown := by
  have hcut : hostAndPort (a.front ++ p.address) = p.address := by
    apply Text.afterLast_append
    · rw [Asides.front]
      cases a.userinfo with
      | none => exact Or.inl rfl
      | some u => exact Or.inr List.getLast?_concat
    · intro hc
      rw [Place.address, List.mem_append] at hc
      rcases hc with hc | hc
      · rcases p.hosted _ hc with h | h | h <;> exact absurd h (by decide)
      · cases hport : p.port with
        | none =>
            rw [hport] at hc
            cases hc
        | some digits =>
            rw [hport] at hc
            rcases List.mem_cons.mp hc with h | h
            · exact absurd h (by decide)
            · exact absurd (p.numbered digits hport _ h) (by decide)
  have hbracket : '[' ∉ p.address := by
    intro hc
    cases p.isAuthorityChar_of_mem_address hc
  have hcolon : ':' ∉ p.host := by
    intro hc
    rcases p.hosted _ hc with h | h | h <;> exact absurd h (by decide)
  have hsplit : splitPort (a.front ++ p.address) = (p.host, p.port.getD []) := by
    rw [splitPort, hcut, Text.cutAt_of_not_mem hbracket, Place.address]
    cases p.port with
    | none =>
        simp only [Option.map_none, Option.getD_none, List.append_nil,
          Text.cutAt_of_not_mem hcolon]
    | some digits =>
        simp only [Option.map_some, Option.getD_some, Text.cutAt_append_cons hcolon]
  simp only [redacted, split?_url, hsplit, Place.shown]
  cases portNumber (p.port.getD []) with
  | error e => rfl
  | ok number => rfl

end Url

/-! ## Two runs -/

/-- The same fault, or related answers. -/
inductive AlikeAnswers (same : α → β → Prop) : Except ε α → Except ε β → Prop where
  | ok {a : α} {b : β} (h : same a b) : AlikeAnswers same (.ok a) (.ok b)
  | error (e : ε) : AlikeAnswers same (.error e) (.error e)

theorem AlikeAnswers.eq {x y : Except ε α} (h : AlikeAnswers Eq x y) : x = y := by
  cases h with
  | ok hab => rw [hab]
  | error e => rfl

theorem AlikeAnswers.map {α' β' : Type} {same : α → β → Prop} {same' : α' → β' → Prop}
    {x : Except ε α} {y : Except ε β} {f : α → α'} {g : β → β'} (h : AlikeAnswers same x y)
    (hfg : ∀ a b, same a b → same' (f a) (g b)) : AlikeAnswers same' (x.map f) (y.map g) := by
  cases h with
  | ok hab => exact .ok (hfg _ _ hab)
  | error e => exact .error e

/-- Two runs told the same and ended alike, in related states. -/
structure AlikeEnds (linked : σ → τ → Prop) (same : α → β → Prop) (x : Ended ε σ α)
    (y : Ended ε τ β) : Prop where
  answer : AlikeAnswers same x.answer y.answer
  state : linked x.state y.state
  events : x.events = y.events

namespace Step

variable {linked : σ → τ → Prop}

/-- From related states two steps go alike. -/
def Alike (linked : σ → τ → Prop) (same : α → β → Prop) (x : Step ε σ α) (y : Step ε τ β) : Prop :=
  ∀ s t, linked s t → AlikeEnds linked same (x.run s) (y.run t)

theorem alike_pure {same : α → β → Prop} {a : α} {b : β} (h : same a b) :
    Alike linked same (pure a : Step ε σ α) (pure b : Step ε τ β) :=
  fun _ _ hs => ⟨.ok h, hs, rfl⟩

theorem alike_fail {same : α → β → Prop} (e : ε) :
    Alike linked same (fail e : Step ε σ α) (fail e : Step ε τ β) :=
  fun _ _ hs => ⟨.error e, hs, rfl⟩

theorem alike_tell (event : Log.Event) :
    Alike linked Eq (tell event : Step ε σ Unit) (tell event : Step ε τ Unit) :=
  fun _ _ hs => ⟨.ok rfl, hs, rfl⟩

theorem alike_state : Alike linked linked (state : Step ε σ σ) (state : Step ε τ τ) :=
  fun _ _ hs => ⟨.ok hs, hs, rfl⟩

theorem alike_modify {f : σ → σ} {g : τ → τ} (h : ∀ s t, linked s t → linked (f s) (g t)) :
    Alike linked Eq (modify f : Step ε σ Unit) (modify g : Step ε τ Unit) :=
  fun s t hs => ⟨.ok rfl, h s t hs, rfl⟩

variable {α' β' : Type} {same : α → β → Prop} {same' : α' → β' → Prop} {x : Step ε σ α}
  {y : Step ε τ β} {f : α → Step ε σ α'} {g : β → Step ε τ β'}

/-- Two runs that have gone alike so far go on alike. -/
theorem alikeEnds_bind {s : σ} {t : τ} (h : AlikeEnds linked same (x.run s) (y.run t))
    (hfg : ∀ a b, same a b → Alike linked same' (f a) (g b)) :
    AlikeEnds linked same' ((x >>= f).run s) ((y >>= g).run t) := by
  cases hx : x.run s with
  | mk answer s' events =>
      cases hy : y.run t with
      | mk answer' t' events' =>
          rw [hx, hy] at h
          obtain ⟨hanswer, hstate, hevents⟩ := h
          dsimp only at hanswer hstate hevents
          subst hevents
          cases hanswer with
          | error e =>
              rw [run_bind_of_error hx, run_bind_of_error hy]
              exact ⟨.error e, hstate, rfl⟩
          | ok hab =>
              obtain ⟨hanswer, hstate, hevents⟩ := hfg _ _ hab s' t' hstate
              rw [run_bind_of_ok hx, run_bind_of_ok hy]
              exact ⟨hanswer, hstate, congrArg _ hevents⟩

theorem alike_bind (h : Alike linked same x y)
    (hfg : ∀ a b, same a b → Alike linked same' (f a) (g b)) :
    Alike linked same' (x >>= f) (y >>= g) :=
  fun s t hs => alikeEnds_bind (h s t hs) hfg

end Step

/-! ## Requests that go alike -/

/-- The same outcome, but for the reason of a failure. -/
inductive Outcome.Alike : Outcome → Outcome → Prop where
  | same (o : Outcome) : Alike o o
  | failure (reason reason' : Text) : Alike (.failure reason) (.failure reason')

/-- The same exchange, but for the reason of a failure. -/
structure Exchange.Alike (e e' : Exchange) : Prop where
  outcome : e.outcome.Alike e'.outcome
  took : e.took = e'.took

theorem Exchange.Alike.milliseconds {e e' : Exchange} (h : e.Alike e') :
    e.milliseconds = e'.milliseconds := by
  rw [Exchange.milliseconds, Exchange.milliseconds, h.took]

namespace Client

open Step

/-- Clients with the same policy and clock on networks that go alike. They may have made other
requests and may keep other responses. -/
structure Alike (c d : Client) : Prop where
  policy : c.policy = d.policy
  clock : c.clock = d.clock
  script : List.Forall₂ Exchange.Alike c.script d.script

/-- The same result of an attempt, but for the reason to make it again. -/
inductive Attempt.Alike : Attempt → Attempt → Prop where
  | usable (r : Response) : Alike (.usable r) (.usable r)
  | again (reason reason' : Text) : Alike (.again reason) (.again reason')

/-- The same response, or no response for whatever reason. -/
def AlikeResults : Except (Option Text) Response → Except (Option Text) Response → Prop
  | .ok r, .ok r' => r = r'
  | .error _, .error _ => True
  | _, _ => False

theorem alike_pauseBefore (number : ℕ) :
    Step.Alike Client.Alike Eq (pauseBefore number) (pauseBefore number) := by
  cases number with
  | zero => exact alike_pure rfl
  | succ failed =>
      rw [pauseBefore]
      split
      · exact alike_modify fun _ _ h => ⟨h.policy, h.clock, h.script⟩
      · exact alike_fail _

theorem alike_advance (seconds : Number) :
    Step.Alike Client.Alike Eq (advance seconds) (advance seconds) := by
  intro c d h
  simp only [Step.run, advance, h.clock]
  cases d.clock.add? seconds with
  | none => exact ⟨.error _, h, rfl⟩
  | some now => exact ⟨.ok rfl, ⟨h.policy, rfl, h.script⟩, rfl⟩

theorem alike_head {script script' : List Exchange}
    (h : List.Forall₂ Exchange.Alike script script') :
    (script.head?.getD exhausted).Alike (script'.head?.getD exhausted) := by
  cases h with
  | nil => exact ⟨.same _, rfl⟩
  | cons hfirst hrest => exact hfirst

theorem alike_tail {script script' : List Exchange}
    (h : List.Forall₂ Exchange.Alike script script') :
    List.Forall₂ Exchange.Alike script.tail script'.tail := by
  cases h with
  | nil => exact .nil
  | cons hfirst hrest => exact hrest

theorem alike_exchange (request request' : Request) :
    Step.Alike Client.Alike Exchange.Alike (exchange request) (exchange request') := by
  refine alike_bind alike_state ?_
  intro c d h
  have hnext := alike_head h.script
  refine alike_bind (alike_modify fun c d h => ⟨h.policy, h.clock, alike_tail h.script⟩) ?_
  intro _ _ _
  rw [hnext.took]
  exact alike_bind (alike_advance _) fun _ _ _ => alike_pure hnext

variable {url url' : Text}

theorem alike_attempt (key key' target url url' : Text) (headers : Value)
    (extras : List (Value × Value)) (number : ℕ) :
    Step.Alike Client.Alike Attempt.Alike (attempt key target url headers extras number)
      (attempt key' target url' headers extras number) := by
  refine alike_bind (alike_pauseBefore number) fun _ _ _ => ?_
  refine alike_bind (alike_tell _) fun _ _ _ => ?_
  split
  · exact alike_fail _
  · refine alike_bind alike_state fun _ _ _ => ?_
    refine alike_bind (alike_exchange _ _) ?_
    rintro ⟨o, took⟩ ⟨o', took'⟩ he
    have hmilliseconds := he.milliseconds
    cases he.outcome with
    | failure reason reason' =>
        exact alike_bind (alike_tell _) fun _ _ _ => alike_pure (.again _ _)
    | same o =>
        cases o with
        | timeout => exact alike_bind (alike_tell _) fun _ _ _ => alike_pure (.again _ _)
        | failure reason => exact alike_bind (alike_tell _) fun _ _ _ => alike_pure (.again _ _)
        | fault message => exact alike_fail _
        | response r =>
            dsimp only
            split
            · exact alike_pure (.again _ _)
            · refine alike_bind (alike_modify fun _ _ h => ⟨h.policy, h.clock, h.script⟩) ?_
              intro _ _ _
              rw [hmilliseconds]
              exact alike_bind (alike_tell _) fun _ _ _ => alike_pure (.usable r)

theorem alike_attempts (key key' target url url' : Text) (headers : Value)
    (extras : List (Value × Value)) (left number : ℕ) (reason reason' : Option Text) :
    Step.Alike Client.Alike AlikeResults
      (attempts key target url headers extras left number reason)
      (attempts key' target url' headers extras left number reason') := by
  induction left generalizing number reason reason' with
  | zero => exact alike_pure True.intro
  | succ left ih =>
      refine alike_bind (alike_attempt key key' target url url' headers extras number) ?_
      intro result result' hresult
      cases hresult with
      | usable r => exact alike_pure rfl
      | again last last' => exact ih (number + 1) (some last) (some last')

/-- Bodies of the same status are the same where that is 200. -/
def AlikeResponses (r r' : Response) : Prop :=
  r.status = r'.status ∧ (r.status = 200 → r.body = r'.body)

theorem alike_answered {policy : FetchPolicy} {result result' : Except (Option Text) Response}
    (h : AlikeResults result result') :
    AlikeResponses (answered policy result) (answered policy result') := by
  cases result with
  | ok r =>
      cases result' with
      | ok r' =>
          obtain rfl : r = r' := h
          exact ⟨rfl, fun _ => rfl⟩
      | error reason' => exact h.elim
  | error reason =>
      cases result' with
      | ok r' => exact h.elim
      | error reason' => exact ⟨rfl, fun h => by cases h⟩

theorem get_run_of_port {headers : Value} {extras : List (Value × Value)} {e : PortError}
    (hport : Url.redacted url = .error e) (c : Client) :
    (get url headers extras).run c = ⟨.error (.port e), c, []⟩ := by
  rw [get, hport]
  rfl

/-- Calls for URLs that are shown alike go alike where no response is kept for either. -/
theorem alikeEnds_get (hshown : Url.redacted url = Url.redacted url') (headers : Value)
    (extras : List (Value × Value)) {c d : Client} (h : c.Alike d) (hc : c.kept = [])
    (hd : d.kept = []) :
    AlikeEnds Client.Alike AlikeResponses ((get url headers extras).run c)
      ((get url' headers extras).run d) := by
  have hnone : ∀ (c : Client), c.kept = [] → ∀ key k, c.keptUnder? key = some k →
      c.isFresh? k = some false := by
    intro c hc key k hk
    rw [keptUnder?, hc] at hk
    cases hk
  cases hport : Url.redacted url with
  | error e =>
      rw [get_run_of_port hport, get_run_of_port (hshown ▸ hport)]
      exact ⟨.error _, h, rfl⟩
  | ok target =>
      rw [get_run_of_stale extras hport (hnone c hc _),
        get_run_of_stale extras (hshown ▸ hport) (hnone d hd _), h.policy]
      obtain ⟨hanswer, hstate, hevents⟩ := alike_attempts (cacheKey url headers)
        (cacheKey url' headers) target url url' headers extras d.policy.attempts.toNat 0 none none
        c d h
      exact ⟨hanswer.map fun _ _ => alike_answered, hstate, hevents⟩

end Client

/-! ## Downloads that go alike -/

open License

theorem alikeEnds_download {url url' : Text} (hshown : Url.redacted url = Url.redacted url')
    (categories : List Text) {c d : Client} (h : c.Alike d) (hc : c.kept = [])
    (hd : d.kept = []) :
    AlikeEnds Client.Alike Eq ((Groups.download url categories).run c)
      ((Groups.download url' categories).run d) := by
  have htext : AlikeEnds Client.Alike Eq ((Client.getText url .null []).run c)
      ((Client.getText url' .null []).run d) := by
    refine Step.alikeEnds_bind (Client.alikeEnds_get hshown .null [] h hc hd) ?_
    rintro r r' ⟨hstatus, hbody⟩
    apply Step.alike_pure
    by_cases hok : r.status = 200
    · rw [if_pos hok, if_pos (hstatus ▸ hok), hstatus, hbody hok]
    · rw [if_neg hok, if_neg (hstatus ▸ hok), hstatus]
  refine Step.alikeEnds_bind htext ?_
  rintro ⟨status, body⟩ _ rfl
  dsimp only
  rw [hshown]
  cases Url.redacted url' with
  | error e => exact Step.alike_fail _
  | ok target =>
      cases body with
      | none => exact Step.alike_fail _
      | some text =>
          dsimp only
          split
          · exact Step.alike_fail _
          · exact Step.alike_bind (Step.alike_tell _) fun _ _ _ => Step.alike_pure rfl

/-- **A download hides the asides of its URL.** Two downloads from URLs that lead to the same place,
each by a client that has done nothing yet, show the same records in logs of every level and come to
the same identifiers or to the same fault; also if the network gives other reasons for failures. -/
theorem download_hides_asides (p : Url.Place) (a a' : Url.Asides) (categories : List Text)
    (policy : FetchPolicy) (clock : Number) {script script' : List Exchange}
    (h : List.Forall₂ Exchange.Alike script script') :
    let ended := (Groups.download (p.url a) categories).run (.fresh policy clock script)
    let ended' := (Groups.download (p.url a') categories).run (.fresh policy clock script')
    ended.answer = ended'.answer ∧
      ∀ level, Log.visible level ended.events = Log.visible level ended'.events := by
  intro ended ended'
  have hshown : Url.redacted (p.url a) = Url.redacted (p.url a') := by
    rw [Url.redacted_url, Url.redacted_url]
  obtain ⟨hanswer, -, hevents⟩ := alikeEnds_download hshown categories
    (c := .fresh policy clock script) (d := .fresh policy clock script') ⟨rfl, rfl, h⟩ rfl rfl
  exact ⟨hanswer.eq, fun level => congrArg (Log.visible level) hevents⟩

/-- `https://example.org:8080/groups` -/
def groupsPlace : Url.Place where
  scheme := "https".toList
  host := "example.org".toList
  port := some "8080".toList
  path := "/groups".toList
  lettered := rfl
  schemed := List.all_eq_true.mp rfl
  hosted := by
    have hall : "example.org".toList.all (fun c => c.isAlphanum || c == '.' || c == '-') = true :=
      rfl
    intro c hc
    simpa [or_assoc] using List.all_eq_true.mp hall c hc
  numbered := by
    rintro _ ⟨⟩
    exact List.all_eq_true.mp rfl
  rooted := Or.inr rfl
  direct := by
    have hall : "/groups".toList.all (fun c => c != '?' && c != '#') = true := rfl
    intro c hc
    simpa using List.all_eq_true.mp hall c hc

/-- Credentials with a colon and an at sign in the password, and a token. -/
def signedAsides : Url.Asides where
  userinfo := some "ann:p@ss:word".toList
  query := some "token=1#2".toList
  fragment := some "top".toList
  printable := by
    rintro _ ⟨⟩
    exact List.all_eq_true.mp rfl

def noAsides : Url.Asides := ⟨none, none, none, fun _ h => by cases h⟩

/-- A network that fails first, for a reason that quotes the URL. -/
def quoting (url : Text) : List Exchange :=
  [⟨.failure ("no route to ".toList ++ url), .int 1⟩,
    ⟨.response ⟨200, .map [], "FREE MIT\n".toList⟩, .int 1⟩]

example : Url.redacted (groupsPlace.url signedAsides) =
    .ok "https://example.org:8080/groups".toList := by decide +kernel

theorem download_hides_token :
    let url := groupsPlace.url signedAsides
    let url' := groupsPlace.url noAsides
    let ended := (Groups.download url ["free".toList]).run (.fresh .builtin (.int 0) (quoting url))
    let ended' :=
      (Groups.download url' ["free".toList]).run (.fresh .builtin (.int 0) (quoting url'))
    List.Forall₂ Exchange.Alike (quoting url) (quoting url') ∧
    ended.answer = ended'.answer ∧ ended'.answer.toOption = some ⟨["mit".toList]⟩ ∧
    (∀ level, Log.visible level ended.events = Log.visible level ended'.events) ∧
    (Log.visible Log.debugLevel ended'.events).length = 5 := by
  intro url url' ended ended'
  have hquoting : List.Forall₂ Exchange.Alike (quoting url) (quoting url') :=
    .cons ⟨.failure _ _, rfl⟩ (.cons ⟨.same _, rfl⟩ .nil)
  obtain ⟨hanswer, hevents⟩ := download_hides_asides groupsPlace signedAsides noAsides
    ["free".toList] .builtin (.int 0) hquoting
  have hfound : ended'.answer.toOption = some ⟨["mit".toList]⟩ := by decide +kernel
  have htold : (Log.visible Log.debugLevel ended'.events).length = 5 := by decide +kernel
  exact ⟨hquoting, hanswer, hfound, hevents, htold⟩

end DistroBallot
