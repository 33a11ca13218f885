import DistroBallot.Number.Basic
import Mathlib

/-!
# Rounding keeps the order of quotients

The greater of two quotients with one denominator is not rounded to the lesser number
(`roundedValue_mono`). Where both are rounded in one unit, that is the order of rounded integers.
Where the units differ, the lesser quotient is rounded to `2 ^ 53` of the smaller unit at most, and
the other one to `2 ^ 52` of the greater unit at least.

What can be written without rounding is rounded to itself (`roundedValue_eq_self`), so that rounding
passes over no number that can be written. With exact comparison (`compare?_eq_gt_iff`), where a
quotient exceeds a limit after rounding, so does every greater one.
-/

namespace DistroBallot

/-! ## Exact comparison -/

namespace Binary64

/-- The value of a significand with its sign and an exponent. -/
def value (negative : Bool) (significand : ℕ) (exponent : ℤ) : ℚ :=
  (if negative then -(significand : ℤ) else significand : ℤ) * 2 ^ exponent

end Binary64

/-- A limit lies strictly below an exact value. -/
def Number.IsBelow (limit : Number) (q : ℚ) : Prop :=
  match limit with
  | .int n => (n : ℚ) < q
  | .real (.finite negative significand exponent) =>
    Binary64.value negative significand exponent < q
  | .real (.infinite negative) => negative = true
  | .real .nan => False

instance (limit : Number) (q : ℚ) : Decidable (limit.IsBelow q) :=
  match limit with
  | .int n => inferInstanceAs (Decidable ((n : ℚ) < q))
  | .real (.finite negative significand exponent) =>
    inferInstanceAs (Decidable (Binary64.value negative significand exponent < q))
  | .real (.infinite negative) => inferInstanceAs (Decidable (negative = true))
  | .real .nan => inferInstanceAs (Decidable False)

theorem Number.IsBelow.mono {limit : Number} {q r : ℚ} (h : limit.IsBelow q) (hqr : q ≤ r) :
    limit.IsBelow r := by
  unfold IsBelow at h ⊢
  split at h
  · exact lt_of_lt_of_le h hqr
  · exact lt_of_lt_of_le h hqr
  · exact h
  · exact h

namespace Binary64

theorem two_zpow_pos (e : ℤ) : (0 : ℚ) < 2 ^ e := zpow_pos two_pos e

theorem inUnits_eq {exponent unit : ℤ} (h : unit ≤ exponent) (v : ℤ) :
    (inUnits v exponent unit : ℚ) * 2 ^ unit = v * 2 ^ exponent := by
  have hpow : ((Nat.pow 2 (exponent - unit).toNat : ℕ) : ℚ) = 2 ^ (exponent - unit) := by
    rw [Nat.pow_eq, Nat.cast_pow, Nat.cast_ofNat, ← zpow_natCast,
      Int.toNat_of_nonneg (sub_nonneg.mpr h)]
  rw [inUnits, Int.cast_mul, Int.cast_natCast, hpow, mul_assoc, ← zpow_add₀ two_ne_zero,
    sub_add_cancel]

theorem compareDyadic_eq_gt_iff (a e b f : ℤ) :
    compareDyadic a e b f = .gt ↔ (b : ℚ) * 2 ^ f < a * 2 ^ e := by
  rw [compareDyadic, compare_gt_iff_gt, ← inUnits_eq (min_le_left e f) a,
    ← inUnits_eq (min_le_right e f) b, mul_lt_mul_iff_left₀ (two_zpow_pos _), Int.cast_lt]

/-- A finite number compares as its value. -/
theorem compare?_eq_gt_iff (negative : Bool) (significand : ℕ) (exponent : ℤ) (limit : Number) :
    (Number.real (.finite negative significand exponent)).compare? limit = some .gt ↔
      limit.IsBelow (value negative significand exponent) := by
  cases limit with
  | int n =>
      have h := compareDyadic_eq_gt_iff
        (if negative then -(significand : ℤ) else significand) exponent n 0
      rw [zpow_zero, mul_one] at h
      simpa [Number.compare?, compareInt?, Number.IsBelow, value] using h
  | real y =>
      cases y with
      | finite signed m e =>
          have h := compareDyadic_eq_gt_iff
            (if negative then -(significand : ℤ) else significand) exponent
            (if signed then -(m : ℤ) else m) e
          simpa [Number.compare?, compare?, Number.IsBelow, value] using h
      | infinite signed =>
          cases signed <;> simp [Number.compare?, compare?, Number.IsBelow, infiniteOrder]
      | nan => simp [Number.compare?, compare?, Number.IsBelow]

/-! ## The unit of rounding -/

theorem zpow_log2_le {n : ℕ} (h : 0 < n) : (2 : ℚ) ^ (n.log2 : ℤ) ≤ n := by
  rw [zpow_natCast]
  exact_mod_cast Nat.log2_self_le h.ne'

theorem lt_zpow_log2 {n : ℕ} (h : 0 < n) : (n : ℚ) < 2 ^ ((n.log2 : ℤ) + 1) := by
  have hlt := (Nat.log2_lt h.ne').mp (Nat.lt_succ_self n.log2)
  rw [← Nat.cast_succ, zpow_natCast]
  exact_mod_cast hlt

theorem scaleDown_eq (num den : ℕ) (e : ℤ) :
    ((scaleDown num den e).1 : ℚ) / (scaleDown num den e).2 = num / den / 2 ^ e := by
  unfold scaleDown
  split
  · next h =>
      have hpow : ((Nat.pow 2 e.toNat : ℕ) : ℚ) = 2 ^ e := by
        rw [Nat.pow_eq, Nat.cast_pow, Nat.cast_ofNat, ← zpow_natCast, Int.toNat_of_nonneg h]
      rw [Nat.cast_mul, hpow, div_div]
  · next h =>
      have hpow : ((Nat.pow 2 (-e).toNat : ℕ) : ℚ) = (2 ^ e)⁻¹ := by
        rw [Nat.pow_eq, Nat.cast_pow, Nat.cast_ofNat, ← zpow_natCast,
          Int.toNat_of_nonneg (by omega), zpow_neg]
      rw [Nat.cast_mul, hpow, mul_div_right_comm, div_eq_mul_inv _ ((2 : ℚ) ^ e)]

theorem scaleDown_den_pos {den : ℕ} (hden : 0 < den) (num : ℕ) (e : ℤ) :
    0 < (scaleDown num den e).2 := by
  unfold scaleDown
  split
  · exact Nat.mul_pos hden (Nat.pow_pos two_pos)
  · exact hden

theorem binaryOrder_spec {num den : ℕ} (hnum : 0 < num) (hden : 0 < den) :
    (2 : ℚ) ^ binaryOrder num den ≤ num / den ∧
      (num : ℚ) / den < 2 ^ (binaryOrder num den + 1) := by
  have hden' : (0 : ℚ) < den := Nat.cast_pos.mpr hden
  let guess : ℤ := (num.log2 : ℤ) - den.log2
  have hupper : (num : ℚ) / den < 2 ^ (guess + 1) := by
    rw [div_lt_iff₀ hden']
    calc (num : ℚ) < 2 ^ ((num.log2 : ℤ) + 1) := lt_zpow_log2 hnum
      _ = 2 ^ (guess + 1) * 2 ^ (den.log2 : ℤ) := by
        rw [← zpow_add₀ two_ne_zero]
        congr 1
        omega
      _ ≤ 2 ^ (guess + 1) * den :=
        mul_le_mul_of_nonneg_left (zpow_log2_le hden) (two_zpow_pos _).le
  have hlower : (2 : ℚ) ^ (guess - 1) ≤ num / den := by
    rw [le_div_iff₀ hden']
    calc (2 : ℚ) ^ (guess - 1) * den ≤ 2 ^ (guess - 1) * 2 ^ ((den.log2 : ℤ) + 1) :=
        mul_le_mul_of_nonneg_left (lt_zpow_log2 hden).le (two_zpow_pos _).le
      _ = 2 ^ (num.log2 : ℤ) := by
        rw [← zpow_add₀ two_ne_zero]
        congr 1
        omega
      _ ≤ num := zpow_log2_le hnum
  have hscaled := scaleDown_eq num den guess
  have hpos : (0 : ℚ) < (scaleDown num den guess).2 :=
    Nat.cast_pos.mpr (scaleDown_den_pos hden num guess)
  have hguess : (scaleDown num den guess).2 ≤ (scaleDown num den guess).1 ↔
      (2 : ℚ) ^ guess ≤ num / den := by
    rw [← Nat.cast_le (α := ℚ), ← one_le_div hpos, hscaled, one_le_div (two_zpow_pos guess)]
  show (2 : ℚ) ^ (if (scaleDown num den guess).2 ≤ (scaleDown num den guess).1
    then guess else guess - 1) ≤ _ ∧ _ < (2 : ℚ) ^ ((if (scaleDown num den guess).2 ≤
    (scaleDown num den guess).1 then guess else guess - 1) + 1)
  split
  · next h => exact ⟨hguess.mp h, hupper⟩
  · next h =>
      rw [hguess, not_le] at h
      rw [sub_add_cancel]
      exact ⟨hlower, h⟩

theorem binaryOrder_mono {num num' den : ℕ} (hnum : 0 < num) (hden : 0 < den)
    (h : num ≤ num') : binaryOrder num den ≤ binaryOrder num' den := by
  have hlower := (binaryOrder_spec hnum hden).1
  have hupper := (binaryOrder_spec (lt_of_lt_of_le hnum h) hden).2
  have hquotients : (num : ℚ) / den ≤ num' / den :=
    div_le_div_of_nonneg_right (Nat.cast_le.mpr h) den.cast_nonneg
  have hlt := (zpow_lt_zpow_iff_right₀ one_lt_two).mp
    (lt_of_le_of_lt (hlower.trans hquotients) hupper)
  omega

/-! ## Rounding -/

theorem div_le_roundQuotient (num den : ℕ) : num / den ≤ roundQuotient num den := by
  simp only [roundQuotient]
  split_ifs <;> omega

theorem roundQuotient_le (num den : ℕ) : roundQuotient num den ≤ num / den + 1 := by
  simp only [roundQuotient]
  split_ifs <;> omega

theorem roundQuotient_mono {num num' den : ℕ} (h : num ≤ num') :
    roundQuotient num den ≤ roundQuotient num' den := by
  rcases (Nat.div_le_div_right h : num / den ≤ num' / den).lt_or_eq with hlt | heq
  · have hle := roundQuotient_le num den
    have hge := div_le_roundQuotient num' den
    omega
  · -- with equal quotients the rests are in the order of the numerators
    have hrest : num % den ≤ num' % den := by
      have hnum := Nat.div_add_mod num den
      have hnum' := Nat.div_add_mod num' den
      rw [heq] at hnum
      omega
    simp only [roundQuotient, heq]
    split_ifs <;> omega

/-- The exponent in whose unit a quotient is rounded. -/
def unitExponent (num den : ℕ) : ℤ := max (binaryOrder num den - 52) leastExponent

/-- The significand to which a quotient is rounded in the unit of an exponent. -/
def significandAt (num den : ℕ) (e : ℤ) : ℕ :=
  roundQuotient (scaleDown num den e).1 (scaleDown num den e).2

/-- The value to which a quotient is rounded. -/
def roundedValue (num den : ℕ) : ℚ :=
  significandAt num den (unitExponent num den) * 2 ^ unitExponent num den

theorem significandAt_mono {num num' : ℕ} (h : num ≤ num') (den : ℕ) (e : ℤ) :
    significandAt num den e ≤ significandAt num' den e := by
  unfold significandAt scaleDown
  split
  · exact roundQuotient_mono h
  · exact roundQuotient_mono (Nat.mul_le_mul_right _ h)

theorem significandAt_le {num den : ℕ} (hnum : 0 < num) (hden : 0 < den) :
    significandAt num den (unitExponent num den) ≤ 2 ^ 53 := by
  have hpos := scaleDown_den_pos hden num (unitExponent num den)
  have hbelow : ((scaleDown num den (unitExponent num den)).1 : ℚ) /
      (scaleDown num den (unitExponent num den)).2 < ((2 ^ 53 : ℕ) : ℚ) := by
    rw [scaleDown_eq, div_lt_iff₀ (two_zpow_pos _)]
    refine lt_of_lt_of_le (binaryOrder_spec hnum hden).2 ?_
    rw [Nat.cast_pow, Nat.cast_ofNat, ← zpow_natCast, ← zpow_add₀ two_ne_zero]
    refine zpow_le_zpow_right₀ one_le_two ?_
    have := le_max_left (binaryOrder num den - 52) leastExponent
    simp only [unitExponent]
    omega
  rw [div_lt_iff₀ (Nat.cast_pos.mpr hpos), ← Nat.cast_mul, Nat.cast_lt] at hbelow
  have hquotient := (Nat.div_lt_iff_lt_mul hpos).mpr hbelow
  have hle := roundQuotient_le (scaleDown num den (unitExponent num den)).1
    (scaleDown num den (unitExponent num den)).2
  rw [significandAt]
  omega

theorem le_significandAt {num den : ℕ} (hnum : 0 < num) (hden : 0 < den)
    (h : unitExponent num den = binaryOrder num den - 52) :
    2 ^ 52 ≤ significandAt num den (unitExponent num den) := by
  have hpos := scaleDown_den_pos hden num (unitExponent num den)
  have habove : ((2 ^ 52 : ℕ) : ℚ) ≤ ((scaleDown num den (unitExponent num den)).1 : ℚ) /
      (scaleDown num den (unitExponent num den)).2 := by
    rw [scaleDown_eq, le_div_iff₀ (two_zpow_pos _), h, Nat.cast_pow, Nat.cast_ofNat,
      ← zpow_natCast, ← zpow_add₀ two_ne_zero]
    refine le_trans (le_of_eq ?_) (binaryOrder_spec hnum hden).1
    congr 1
    omega
  rw [le_div_iff₀ (Nat.cast_pos.mpr hpos), ← Nat.cast_mul, Nat.cast_le] at habove
  exact ((Nat.le_div_iff_mul_le hpos).mpr habove).trans (div_le_roundQuotient _ _)

theorem roundedValue_zero (den : ℕ) : roundedValue 0 den = 0 := by
  have hscaled : (scaleDown 0 den (unitExponent 0 den)).1 = 0 := by
    unfold scaleDown
    split
    · rfl
    · exact Nat.zero_mul _
  have hzero : significandAt 0 den (unitExponent 0 den) = 0 := by
    rw [significandAt, hscaled]
    simp [roundQuotient]
  rw [roundedValue, hzero]
  simp

/-- **Rounding keeps the order of quotients.** -/
theorem roundedValue_mono {num num' den : ℕ} (hden : 0 < den) (h : num ≤ num') :
    roundedValue num den ≤ roundedValue num' den := by
  rcases Nat.eq_zero_or_pos num with rfl | hnum
  · rw [roundedValue_zero, roundedValue]
    exact mul_nonneg (Nat.cast_nonneg _) (two_zpow_pos _).le
  · have hunits : unitExponent num den ≤ unitExponent num' den := by
      have := binaryOrder_mono hnum hden h
      simp only [unitExponent]
      omega
    rcases hunits.eq_or_lt with heq | hlt
    · rw [roundedValue, roundedValue, ← heq]
      exact mul_le_mul_of_nonneg_right (Nat.cast_le.mpr (significandAt_mono h den _))
        (two_zpow_pos _).le
    · have hleast := le_max_right (binaryOrder num den - 52) leastExponent
      have hunit' : unitExponent num' den = binaryOrder num' den - 52 := by
        simp only [unitExponent] at hlt ⊢
        omega
      have hsmall := significandAt_le hnum hden
      have hgreat := le_significandAt (lt_of_lt_of_le hnum h) hden hunit'
      calc roundedValue num den
          ≤ ((2 ^ 53 : ℕ) : ℚ) * 2 ^ unitExponent num den :=
            mul_le_mul_of_nonneg_right (Nat.cast_le.mpr hsmall) (two_zpow_pos _).le
        _ = ((2 ^ 52 : ℕ) : ℚ) * 2 ^ (unitExponent num den + 1) := by
            rw [zpow_add_one₀ two_ne_zero]
            push_cast
            ring
        _ ≤ ((2 ^ 52 : ℕ) : ℚ) * 2 ^ unitExponent num' den :=
            mul_le_mul_of_nonneg_left (zpow_le_zpow_right₀ one_le_two hlt) (Nat.cast_nonneg _)
        _ ≤ roundedValue num' den :=
            mul_le_mul_of_nonneg_right (Nat.cast_le.mpr hgreat) (two_zpow_pos _).le

/-! ## Quotients with any denominators -/

theorem roundQuotient_mul_right (num den : ℕ) {k : ℕ} (hk : 0 < k) :
    roundQuotient (num * k) (den * k) = roundQuotient num den := by
  have hbelow : 2 * (num % den * k) < den * k ↔ 2 * (num % den) < den := by
    rw [← Nat.mul_assoc, Nat.mul_lt_mul_right hk]
  have habove : den * k < 2 * (num % den * k) ↔ den < 2 * (num % den) := by
    rw [← Nat.mul_assoc, Nat.mul_lt_mul_right hk]
  simp only [roundQuotient, Nat.mul_div_mul_right _ _ hk, Nat.mul_mod_mul_right, hbelow, habove]

theorem scaleDown_mul_right (num den k : ℕ) (e : ℤ) : scaleDown (num * k) (den * k) e =
    ((scaleDown num den e).1 * k, (scaleDown num den e).2 * k) := by
  unfold scaleDown
  split <;> simp only [Nat.mul_right_comm]

theorem binaryOrder_mul_right {num den k : ℕ} (hnum : 0 < num) (hden : 0 < den) (hk : 0 < k) :
    binaryOrder (num * k) (den * k) = binaryOrder num den := by
  have hquotient : ((num * k : ℕ) : ℚ) / (den * k : ℕ) = num / den := by
    rw [Nat.cast_mul, Nat.cast_mul]
    exact mul_div_mul_right _ _ (Nat.cast_ne_zero.mpr hk.ne')
  obtain ⟨hlower, hupper⟩ := binaryOrder_spec hnum hden
  obtain ⟨hlower', hupper'⟩ := binaryOrder_spec (Nat.mul_pos hnum hk) (Nat.mul_pos hden hk)
  rw [hquotient] at hlower' hupper'
  have hle := (zpow_lt_zpow_iff_right₀ (one_lt_two (α := ℚ))).mp (lt_of_le_of_lt hlower hupper')
  have hge := (zpow_lt_zpow_iff_right₀ (one_lt_two (α := ℚ))).mp (lt_of_le_of_lt hlower' hupper)
  omega

theorem roundedValue_mul_right {num den k : ℕ} (hden : 0 < den) (hk : 0 < k) :
    roundedValue (num * k) (den * k) = roundedValue num den := by
  rcases Nat.eq_zero_or_pos num with rfl | hnum
  · rw [Nat.zero_mul, roundedValue_zero, roundedValue_zero]
  · simp only [roundedValue, significandAt, unitExponent, binaryOrder_mul_right hnum hden hk,
      scaleDown_mul_right, roundQuotient_mul_right _ _ hk]

/-- The greater of two quotients is not rounded to the lesser number. -/
theorem roundedValue_le {num den num' den' : ℕ} (hden : 0 < den) (hden' : 0 < den')
    (h : (num : ℚ) / den ≤ num' / den') : roundedValue num den ≤ roundedValue num' den' := by
  have hcross : num * den' ≤ num' * den := by
    rw [div_le_div_iff₀ (Nat.cast_pos.mpr hden) (Nat.cast_pos.mpr hden')] at h
    exact_mod_cast h
  calc roundedValue num den = roundedValue (num * den') (den * den') :=
        (roundedValue_mul_right hden hden').symm
    _ ≤ roundedValue (num' * den) (den * den') := roundedValue_mono (Nat.mul_pos hden hden') hcross
    _ = roundedValue (num' * den) (den' * den) := by rw [Nat.mul_comm den den']
    _ = roundedValue num' den' := roundedValue_mul_right hden' hden

/-- What has a significand and an exponent in range is not changed by rounding. -/
theorem roundedValue_eq_self {num den significand : ℕ} {exponent : ℤ} (hden : 0 < den)
    (hsignificand : significand < 2 ^ 53) (hexponent : leastExponent ≤ exponent)
    (h : (num : ℚ) / den = significand * 2 ^ exponent) :
    roundedValue num den = significand * 2 ^ exponent := by
  rcases Nat.eq_zero_or_pos num with rfl | hnum
  · rw [roundedValue_zero, ← h, Nat.cast_zero, zero_div]
  · have hunit : unitExponent num den ≤ exponent := by
      have hbound : (significand : ℚ) * 2 ^ exponent < 2 ^ (exponent + 53) := by
        rw [zpow_add₀ two_ne_zero, mul_comm ((2 : ℚ) ^ exponent)]
        refine mul_lt_mul_of_pos_right ?_ (two_zpow_pos exponent)
        exact_mod_cast hsignificand
      have horder := (zpow_lt_zpow_iff_right₀ (one_lt_two (α := ℚ))).mp
        (lt_of_le_of_lt (binaryOrder_spec hnum hden).1 (h ▸ hbound))
      simp only [unitExponent]
      omega
    -- in its unit the quotient is an integer, which is rounded to itself
    let whole := significand * 2 ^ (exponent - unitExponent num den).toNat
    have hwhole : (significand : ℚ) * 2 ^ exponent = whole * 2 ^ unitExponent num den := by
      rw [Nat.cast_mul, Nat.cast_pow, Nat.cast_ofNat, ← zpow_natCast,
        Int.toNat_of_nonneg (sub_nonneg.mpr hunit), mul_assoc, ← zpow_add₀ two_ne_zero,
        sub_add_cancel]
    have hpos := scaleDown_den_pos hden num (unitExponent num den)
    have hscaled : (scaleDown num den (unitExponent num den)).1 =
        whole * (scaleDown num den (unitExponent num den)).2 := by
      have hquotient := scaleDown_eq num den (unitExponent num den)
      rw [h, hwhole, mul_div_cancel_right₀ _ (two_zpow_pos _).ne',
        div_eq_iff (Nat.cast_ne_zero.mpr hpos.ne')] at hquotient
      exact_mod_cast hquotient
    have hround : significandAt num den (unitExponent num den) = whole := by
      rw [significandAt, hscaled, roundQuotient, Nat.mul_div_cancel _ hpos, Nat.mul_mod_left]
      simp [hpos]
    rw [roundedValue, hround, hwhole]

/-- A positive quotient is rounded to its significand in its unit; where that is carried over, the
unit is the next one. -/
theorem ofRatio_eq {num : ℕ} (hnum : 0 < num) (den : ℕ) : ofRatio false num den =
    if significandAt num den (unitExponent num den) = 2 ^ 53 then
      if greatestExponent < unitExponent num den + 1 then .infinite false
      else .finite false (2 ^ 52) (unitExponent num den + 1)
    else if greatestExponent < unitExponent num den then .infinite false
      else .finite false (significandAt num den (unitExponent num den))
        (unitExponent num den) := by
  rw [ofRatio, if_neg hnum.ne']
  simp only [unitExponent, significandAt, Nat.pow_eq]
  split
  · next hcarry =>
      simp only [hcarry, if_true]
      rfl
  · next hcarry =>
      simp only [hcarry, if_false]
      rfl

/-- A quotient that is at most one is rounded to a finite number. -/
theorem exists_ofRatio {num den : ℕ} (hden : 0 < den) (h : num ≤ den) :
    ∃ significand exponent, ofRatio false num den = .finite false significand exponent ∧
      value false significand exponent = roundedValue num den := by
  rcases Nat.eq_zero_or_pos num with rfl | hnum
  · refine ⟨0, leastExponent, rfl, ?_⟩
    rw [roundedValue_zero]
    simp [value]
  · have horder : binaryOrder num den ≤ 0 := by
      have hlower := (binaryOrder_spec hnum hden).1
      have hone : (num : ℚ) / den ≤ 2 ^ (0 : ℤ) := by
        rw [zpow_zero, div_le_one (Nat.cast_pos.mpr hden)]
        exact Nat.cast_le.mpr h
      exact (zpow_le_zpow_iff_right₀ one_lt_two).mp (hlower.trans hone)
    have hunit : unitExponent num den < greatestExponent := by
      simp only [unitExponent, leastExponent, greatestExponent]
      omega
    have hcarried : ¬greatestExponent < unitExponent num den + 1 := by omega
    rw [ofRatio_eq hnum, if_neg hcarried, if_neg (by omega : ¬greatestExponent < _), roundedValue]
    split
    · -- the carry changes the unit and not the value
      next hcarry =>
        refine ⟨_, _, rfl, ?_⟩
        rw [hcarry, value, zpow_add_one₀ two_ne_zero]
        push_cast
        ring
    · refine ⟨_, _, rfl, ?_⟩
      simp [value]

end Binary64
end DistroBallot
