import DistroBallot.Version.Order
import Mathlib

/-!
# The comparison of versions as an order

A version is seen as the sequence of its components, continued by zeros without end
(`componentAt`). The comparison goes by the first place where two sequences differ
(`compare_of_differFirstAt`), and there by the *keys* of the two components
(`Component.order_eq_lt_iff`), which are linearly ordered. Different components may have one key;
that is a tie, and the only way in which different sequences come out equal.

Being older is a strict order because first differences compose: of two consecutive ones the
earlier decides. Ties compose with nothing but identical sequences.
-/

namespace DistroBallot
namespace Component

/-! ## Keys -/

/-- What components of one class are compared by: the length of a number and its digits, the first
letter of a word. -/
def magnitude : Component → ℕ ×ₗ Text
  | .preRelease w => toLex (initial w, [])
  | .zero => toLex (0, [])
  | .postRelease w => toLex (initial w, [])
  | .number d => toLex (d.length, d)
  | .letterSuffix w => toLex (initial w, [])

/-- What components are compared by: the class, then the magnitude. -/
def key (a : Component) : ℕ ×ₗ ℕ ×ₗ Text := toLex (a.rank.level, a.magnitude)

theorem key_lt_iff {a b : Component} : a.key < b.key ↔
    a.rank.level < b.rank.level ∨ a.rank.level = b.rank.level ∧ a.magnitude < b.magnitude := by
  rw [key, key, Prod.Lex.toLex_lt_toLex]

theorem key_eq_iff {a b : Component} : a.key = b.key ↔
    a.rank.level = b.rank.level ∧ a.magnitude = b.magnitude := by
  rw [key, key, toLex_inj, Prod.mk.injEq]

theorem compareDigits_eq_lt_iff {x y : Text} :
    compareDigits x y = .lt ↔ toLex (x.length, x) < toLex (y.length, y) := by
  rw [compareDigits, Ordering.then_eq_lt, Nat.compare_eq_lt, Nat.compare_eq_eq,
    compareOfLessAndEq_eq_lt, Prod.Lex.toLex_lt_toLex]

theorem compareDigits_eq_eq_iff {x y : Text} : compareDigits x y = .eq ↔ x = y := by
  rw [compareDigits, Ordering.then_eq_eq, Nat.compare_eq_eq,
    compareOfLessAndEq_eq_eq le_refl not_le]
  exact ⟨And.right, fun h => ⟨congrArg List.length h, h⟩⟩

theorem order_eq_lt_iff {a b : Component} : a.order b = .lt ↔ a.key < b.key := by
  rw [key_lt_iff]
  cases a <;> cases b <;>
    simp [order, rank, Rank.level, magnitude, Nat.compare_eq_lt, compareDigits_eq_lt_iff,
      Prod.Lex.toLex_lt_toLex]

theorem order_eq_eq_iff {a b : Component} : a.order b = .eq ↔ a.key = b.key := by
  rw [key_eq_iff]
  cases a <;> cases b <;>
    simp [order, rank, Rank.level, magnitude, compareDigits_eq_eq_iff]
  -- only two numbers are left: equal digits have equal lengths
  exact congrArg List.length

theorem order_eq_gt_iff {a b : Component} : a.order b = .gt ↔ b.key < a.key := by
  rw [← not_iff_not, not_lt, le_iff_lt_or_eq, ← order_eq_lt_iff, ← order_eq_eq_iff]
  cases a.order b <;> simp

theorem order_swap (a b : Component) : (a.order b).swap = b.order a := by
  rcases lt_trichotomy a.key b.key with h | h | h
  · rw [order_eq_lt_iff.mpr h, order_eq_gt_iff.mpr h]
    rfl
  · rw [order_eq_eq_iff.mpr h, order_eq_eq_iff.mpr h.symm]
    rfl
  · rw [order_eq_gt_iff.mpr h, order_eq_lt_iff.mpr h]
    rfl

/-! ## Ties -/

/-- The word of an alphabetic component. -/
def word? : Component → Option Text
  | .preRelease w => some w
  | .zero => none
  | .postRelease w => some w
  | .number _ => none
  | .letterSuffix w => some w

/-- Two alphabetic components of one class whose words have the same first letter, ignoring
case. -/
def Tied (a b : Component) : Prop :=
  a.rank = b.rank ∧ ∃ x y, a.word? = some x ∧ b.word? = some y ∧
    x.head?.map Char.toLower = y.head?.map Char.toLower

/-- A component whose word, if it has one, is not empty. -/
def Lettered (a : Component) : Prop := ∀ w, a.word? = some w → w ≠ []

theorem initial_eq_iff {x y : Text} (hx : x ≠ []) (hy : y ≠ []) :
    initial x = initial y ↔ x.head?.map Char.toLower = y.head?.map Char.toLower := by
  cases x with
  | nil => exact absurd rfl hx
  | cons c x =>
      cases y with
      | nil => exact absurd rfl hy
      | cons d y => simp [initial, Char.toNat_inj]

/-- Different components are of equal order just when they tie. -/
theorem order_eq_eq_iff_tied {a b : Component} (hne : a ≠ b) (ha : a.Lettered)
    (hb : b.Lettered) : a.order b = .eq ↔ a.Tied b := by
  rw [order_eq_eq_iff, key_eq_iff]
  cases a <;> cases b <;>
    simp_all [Tied, rank, Rank.level, magnitude, word?, Lettered, initial_eq_iff]

end Component

namespace Version

/-! ## The words of versions -/

/-- A run of digits or letters that is not empty and holds nothing else. -/
def Segment.Formed : Segment → Prop
  | .gap => True
  | .digits run => run ≠ [] ∧ ∀ c ∈ run, c.isDigit = true
  | .letters run => run ≠ [] ∧ ∀ c ∈ run, c.isAlpha = true

theorem formed_of_mem_pushChar {c : Char} {segments : List Segment}
    (h : ∀ s ∈ segments, s.Formed) : ∀ s ∈ pushChar c segments, s.Formed := by
  unfold pushChar
  split
  · split <;> simp_all [Segment.Formed]
  · split
    · split <;> simp_all [Segment.Formed]
    · split <;> simp_all [Segment.Formed]

theorem formed_of_mem_segments {v : Text} : ∀ s ∈ segments v, s.Formed := by
  induction v with
  | nil => simp
  | cons c v ih =>
      rw [segments_cons]
      exact formed_of_mem_pushChar ih

theorem lettered_ofDigits (run : Text) : (ofDigits run).Lettered := by
  unfold ofDigits
  split <;> simp [Component.Lettered, Component.word?]

theorem lettered_ofLetters {run : Text} (suffix : Bool) (h : run ≠ []) :
    (ofLetters run suffix).Lettered := by
  simp only [ofLetters]
  split_ifs <;> simpa [Component.Lettered, Component.word?] using h

theorem lettered_of_mem_ofSegments {afterNumber : Bool} {segments : List Segment}
    (h : ∀ s ∈ segments, s.Formed) : ∀ a ∈ ofSegments afterNumber segments, a.Lettered := by
  induction segments generalizing afterNumber with
  | nil => simp [ofSegments]
  | cons s segments ih =>
      rw [List.forall_mem_cons] at h
      cases s with
      | gap => exact ih h.2
      | digits run =>
          rw [ofSegments, List.forall_mem_cons]
          exact ⟨lettered_ofDigits run, ih h.2⟩
      | letters run =>
          rw [ofSegments, List.forall_mem_cons]
          exact ⟨lettered_ofLetters _ h.1.1, ih h.2⟩

/-! ## Components at places -/

/-- The component of a version at a place. After the last one there are zeros without end. -/
def componentAt (v : Text) (i : Nat) : Component := (components v).getD i .zero

theorem lettered_componentAt (v : Text) (i : Nat) : (componentAt v i).Lettered := by
  rw [componentAt, List.getD_eq_getElem?_getD]
  cases h : (components v)[i]? with
  | none => simp [Component.Lettered, Component.word?]
  | some a => exact lettered_of_mem_ofSegments formed_of_mem_segments a (List.mem_of_getElem? h)

/-- The place `i` is the first at which two versions differ. -/
def DifferFirstAt (v w : Text) (i : Nat) : Prop :=
  (∀ j < i, componentAt v j = componentAt w j) ∧ componentAt v i ≠ componentAt w i

/-- Two versions tie when their components at the first difference do. -/
def Tie (v w : Text) : Prop :=
  ∃ i, DifferFirstAt v w i ∧ (componentAt v i).Tied (componentAt w i)

/-! ## The first difference decides -/

theorem align_nil_right (as : List Component) : align as [] = as.map (fun a => (a, .zero)) := by
  cases as <;> rfl

/-- Aligned lists start with both heads, that of an empty list being zero. -/
theorem align_eq_cons {as bs : List Component} (h : ¬ (as = [] ∧ bs = [])) :
    align as bs = (as.getD 0 .zero, bs.getD 0 .zero) :: align as.tail bs.tail := by
  cases as with
  | nil =>
      cases bs with
      | nil => exact absurd ⟨rfl, rfl⟩ h
      | cons b bs => rfl
  | cons a as =>
      cases bs with
      | nil => simp [align, align_nil_right]
      | cons b bs => rfl

theorem getD_tail (as : List Component) (i : Nat) :
    as.tail.getD i .zero = as.getD (i + 1) .zero := by
  cases as <;> simp

/-- Lists that agree at every place are of equal order. -/
theorem orderAligned_of_agree {as bs : List Component}
    (h : ∀ i, as.getD i .zero = bs.getD i .zero) : orderAligned (align as bs) = .eq := by
  -- the longer list runs out last, so the induction is on both lengths together
  induction n : as.length + bs.length using Nat.strongRecOn generalizing as bs with
  | _ n ih =>
      by_cases hnil : as = [] ∧ bs = []
      · rw [hnil.1, hnil.2]
        rfl
      · rw [align_eq_cons hnil, orderAligned, if_pos (h 0)]
        refine ih (as.tail.length + bs.tail.length) ?_ (fun i => ?_) rfl
        · rcases not_and_or.mp hnil with hne | hne
          all_goals
            have := List.length_pos_of_ne_nil hne
            simp only [List.length_tail]
            omega
        · rw [getD_tail, getD_tail, h]

/-- Lists are ordered as their components at the first difference. -/
theorem orderAligned_of_differ {as bs : List Component} {i : Nat}
    (h : ∀ j < i, as.getD j .zero = bs.getD j .zero)
    (hne : as.getD i .zero ≠ bs.getD i .zero) :
    orderAligned (align as bs) = (as.getD i .zero).order (bs.getD i .zero) := by
  have hnil : ¬ (as = [] ∧ bs = []) := by
    rintro ⟨rfl, rfl⟩
    exact hne rfl
  induction i generalizing as bs with
  | zero => rw [align_eq_cons hnil, orderAligned, if_neg hne]
  | succ i ih =>
      rw [align_eq_cons hnil, orderAligned, if_pos (h 0 (Nat.succ_pos i))]
      rw [← getD_tail, ← getD_tail] at hne ⊢
      refine ih (fun j hj => ?_) hne ?_
      · rw [getD_tail, getD_tail, h (j + 1) (Nat.succ_lt_succ hj)]
      · rintro ⟨has, hbs⟩
        rw [has, hbs] at hne
        exact hne rfl

variable {u v w : Text}

theorem compare_of_agree (h : ∀ i, componentAt v i = componentAt w i) : compare v w = .eq :=
  orderAligned_of_agree h

theorem compare_of_differFirstAt {i : Nat} (h : DifferFirstAt v w i) :
    compare v w = (componentAt v i).order (componentAt w i) :=
  orderAligned_of_differ h.1 h.2

theorem exists_differFirstAt (h : ¬ ∀ i, componentAt v i = componentAt w i) :
    ∃ i, DifferFirstAt v w i := by
  rw [not_forall] at h
  classical
  exact ⟨Nat.find h, fun j hj => not_not.mp (Nat.find_min h hj), Nat.find_spec h⟩

theorem DifferFirstAt.symm {i : Nat} (h : DifferFirstAt v w i) : DifferFirstAt w v i :=
  ⟨fun j hj => (h.1 j hj).symm, h.2.symm⟩

/-! ## Laws of the comparison -/

theorem compare_swap (v w : Text) : (compare v w).swap = compare w v := by
  by_cases h : ∀ i, componentAt v i = componentAt w i
  · rw [compare_of_agree h, compare_of_agree fun i => (h i).symm]
    rfl
  · obtain ⟨i, hi⟩ := exists_differFirstAt h
    rw [compare_of_differFirstAt hi, compare_of_differFirstAt hi.symm, Component.order_swap]

/-- A version is older than another just when it has the lesser key at the first difference. -/
theorem isOlder_iff : isOlder v w = true ↔
    ∃ i, DifferFirstAt v w i ∧ (componentAt v i).key < (componentAt w i).key := by
  rw [isOlder, beq_iff_eq]
  constructor
  · intro hlt
    by_cases h : ∀ i, componentAt v i = componentAt w i
    · rw [compare_of_agree h] at hlt
      cases hlt
    · obtain ⟨i, hi⟩ := exists_differFirstAt h
      rw [compare_of_differFirstAt hi, Component.order_eq_lt_iff] at hlt
      exact ⟨i, hi, hlt⟩
  · rintro ⟨i, hi, hlt⟩
    rw [compare_of_differFirstAt hi, Component.order_eq_lt_iff]
    exact hlt

theorem compare_eq_eq_iff :
    compare v w = .eq ↔ (∀ i, componentAt v i = componentAt w i) ∨ Tie v w := by
  by_cases h : ∀ i, componentAt v i = componentAt w i
  · simp only [compare_of_agree h, h, implies_true, true_or]
  · have htied : ∀ {i}, DifferFirstAt v w i →
        (compare v w = .eq ↔ (componentAt v i).Tied (componentAt w i)) := by
      intro i hi
      rw [compare_of_differFirstAt hi]
      exact Component.order_eq_eq_iff_tied hi.2 (lettered_componentAt v i)
        (lettered_componentAt w i)
    simp only [h, false_or]
    constructor
    · intro heq
      obtain ⟨i, hi⟩ := exists_differFirstAt h
      exact ⟨i, hi, (htied hi).mp heq⟩
    · rintro ⟨i, hi, ht⟩
      exact (htied hi).mpr ht

/-- Versions tie when they are equal without having the same components. -/
theorem tie_iff : Tie v w ↔ compare v w = .eq ∧ ¬ ∀ i, componentAt v i = componentAt w i := by
  constructor
  · intro h
    obtain ⟨i, hi, -⟩ := id h
    exact ⟨compare_eq_eq_iff.mpr (Or.inr h), fun hsame => hi.2 (hsame i)⟩
  · rintro ⟨heq, hne⟩
    exact (compare_eq_eq_iff.mp heq).resolve_left hne

theorem componentAt_of_length_le {i : Nat} (h : (components v).length ≤ i) :
    componentAt v i = .zero :=
  List.getD_eq_default _ _ h

/-- Two versions have the same components when they agree up to the end of the longer one. -/
theorem agree_iff : (∀ i, componentAt v i = componentAt w i) ↔
    ∀ i < max (components v).length (components w).length,
      componentAt v i = componentAt w i := by
  constructor
  · exact fun h i _ => h i
  · intro h i
    by_cases hi : i < max (components v).length (components w).length
    · exact h i hi
    · rw [not_lt, max_le_iff] at hi
      rw [componentAt_of_length_le hi.1, componentAt_of_length_le hi.2]

instance (v w : Text) : Decidable (Tie v w) :=
  decidable_of_iff (compare v w = .eq ∧ ¬ ∀ i < max (components v).length (components w).length,
    componentAt v i = componentAt w i) (by rw [tie_iff, agree_iff])

/-- Versions with the same components stand in the same order to every other. -/
theorem compare_congr_left (h : ∀ i, componentAt u i = componentAt v i) :
    compare u w = compare v w := by
  by_cases hw : ∀ i, componentAt v i = componentAt w i
  · rw [compare_of_agree hw, compare_of_agree fun i => (h i).trans (hw i)]
  · obtain ⟨i, hi⟩ := exists_differFirstAt hw
    have hi' : DifferFirstAt u w i := ⟨fun j hj => (h j).trans (hi.1 j hj), h i ▸ hi.2⟩
    rw [compare_of_differFirstAt hi, compare_of_differFirstAt hi', h i]

theorem compare_congr_right (h : ∀ i, componentAt v i = componentAt w i) :
    compare u v = compare u w := by
  rw [← compare_swap v u, ← compare_swap w u, compare_congr_left h]

theorem isOlder_irrefl (v : Text) : isOlder v v = false := by
  rw [isOlder, compare_of_agree fun _ => rfl]
  rfl

theorem isOlder_asymm (h : isOlder v w = true) : isOlder w v = false := by
  rw [isOlder, beq_iff_eq] at h
  rw [isOlder, ← compare_swap v w, h]
  rfl

/-- Of two first differences in a row the earlier is the first difference of the outer two. -/
theorem isOlder_trans (huv : isOlder u v = true) (hvw : isOlder v w = true) :
    isOlder u w = true := by
  obtain ⟨i, ⟨hi, _⟩, hlt⟩ := isOlder_iff.mp huv
  obtain ⟨k, ⟨hk, _⟩, hlt'⟩ := isOlder_iff.mp hvw
  have hbelow : ∀ j < min i k, componentAt u j = componentAt w j := fun j hj =>
    (hi j (lt_of_lt_of_le hj (min_le_left i k))).trans
      (hk j (lt_of_lt_of_le hj (min_le_right i k)))
  have hkey : (componentAt u (min i k)).key < (componentAt w (min i k)).key := by
    rcases lt_trichotomy i k with hik | rfl | hki
    · rw [min_eq_left hik.le, ← hk i hik]
      exact hlt
    · rw [min_self]
      exact hlt.trans hlt'
    · rw [min_eq_right hki.le, hi k hki]
      exact hlt'
  exact isOlder_iff.mpr ⟨min i k, ⟨hbelow, fun h => hkey.ne (congrArg _ h)⟩, hkey⟩

/-- Equality passes on wherever one of two pairs has the same components. -/
theorem compare_eq_trans (huv : compare u v = .eq) (hvw : compare v w = .eq)
    (h : ¬ (Tie u v ∧ Tie v w)) : compare u w = .eq := by
  rcases compare_eq_eq_iff.mp huv with hsame | htie
  · rw [compare_congr_left hsame, hvw]
  · rcases compare_eq_eq_iff.mp hvw with hsame | htie'
    · rw [← compare_congr_right hsame, huv]
    · exact absurd ⟨htie, htie'⟩ h

/-- Exactly one of older, newer and equal holds. -/
theorem count_isOlder_or_eq (v w : Text) :
    [isOlder v w, isOlder w v, compare v w == .eq].count true = 1 := by
  rw [isOlder, isOlder, ← compare_swap v w]
  cases compare v w <;> rfl

/-- **Being older is a strict order, and being equal is agreement or a tie.** Comparing the other
way round gives the mirror image, and of older, newer and equal exactly one holds. Equality passes
on from pair to pair, except from one tie to another. -/
theorem isOlder_strict_and_equal_iff_agree_or_tie (u v w : Text) :
    isOlder u u = false ∧
    (isOlder u v = true → isOlder v u = false) ∧
    (isOlder u v = true → isOlder v w = true → isOlder u w = true) ∧
    compare v u = (compare u v).swap ∧
    [isOlder u v, isOlder v u, compare u v == .eq].count true = 1 ∧
    (compare u v = .eq ↔ (∀ i, componentAt u i = componentAt v i) ∨ Tie u v) ∧
    (compare u v = .eq → compare v w = .eq → ¬ (Tie u v ∧ Tie v w) → compare u w = .eq) :=
  ⟨isOlder_irrefl u, isOlder_asymm, isOlder_trans, (compare_swap u v).symm,
    count_isOlder_or_eq u v, compare_eq_eq_iff, compare_eq_trans⟩

-- two ties in a row: the outer versions are told apart by what stands after the word
example : compare "x.1".toList "xx".toList = .eq ∧ compare "xx".toList "x.2".toList = .eq ∧
    isOlder "x.1".toList "x.2".toList = true := by
  decide +kernel

end Version
end DistroBallot
