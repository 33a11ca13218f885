import DistroBallot.Proofs.Number.Rounding
import Mathlib

/-!
# Clocks

A clock is read in integers or in double precision, and moved forward by seconds that are not
negative (`Number.Moves`). It never goes back: a sum is rounded to a number that is not less than
the reading before it, because that reading is rounded to itself (`exists_add?`).

Of two moments the later one has the lesser age, and ages grow with time. In double precision they
are rounded as well, and as rounding keeps the order, a moment is recent if an earlier one is so at
a later time (`IsRecent.of_notAfter`).
-/

namespace DistroBallot
namespace Binary64

/-! ## Readings in double precision -/

/-- The exact value of a reading; there is none beyond the greatest finite number. -/
inductive Reads : Binary64 → WithTop ℚ → Prop where
  | finite {significand : ℕ} {exponent : ℤ} (below : significand < 2 ^ 53)
      (least : leastExponent ≤ exponent) :
      Reads (.finite false significand exponent) ((significand * 2 ^ exponent : ℚ) : WithTop ℚ)
  | infinite : Reads (.infinite false) ⊤

theorem Reads.unique {x : Binary64} {p q : WithTop ℚ} (hp : x.Reads p) (hq : x.Reads q) :
    p = q := by
  cases hp <;> cases hq <;> rfl

/-- A value as far as it is in range. -/
def limited (q : ℚ) : WithTop ℚ := if q < 2 ^ (1024 : ℤ) then (q : WithTop ℚ) else ⊤

theorem limited_mono {q r : ℚ} (h : q ≤ r) : limited q ≤ limited r := by
  unfold limited
  split_ifs with hq hr
  · exact WithTop.coe_le_coe.mpr h
  · exact le_top
  · exact absurd (lt_of_le_of_lt h ‹_›) hq
  · exact le_rfl

theorem le_limited (q : ℚ) : (q : WithTop ℚ) ≤ limited q := by
  unfold limited
  split_ifs
  · exact le_rfl
  · exact le_top

theorem reads_zero : (zero false).Reads (limited 0) := by
  have hzero : limited 0 = (((0 : ℕ) : ℚ) * 2 ^ leastExponent : ℚ) := by
    rw [limited, if_pos (two_zpow_pos _), Nat.cast_zero, zero_mul]
  rw [hzero]
  exact .finite (by norm_num) le_rfl

/-- A quotient that is not negative is rounded to a reading. -/
theorem reads_ofRatio {num den : ℕ} (hden : 0 < den) :
    (ofRatio false num den).Reads (limited (roundedValue num den)) := by
  rcases Nat.eq_zero_or_pos num with rfl | hnum
  · rw [roundedValue_zero]
    exact reads_zero
  · have hleast := le_max_right (binaryOrder num den - 52) leastExponent
    have hsignificand := significandAt_le hnum hden
    change leastExponent ≤ unitExponent num den at hleast
    rw [ofRatio_eq hnum]
    split
    · -- the carry changes the unit and not the value
      next hcarry =>
        have hvalue : roundedValue num den =
            ((2 ^ 52 : ℕ) : ℚ) * 2 ^ (unitExponent num den + 1) := by
          rw [roundedValue, hcarry, zpow_add_one₀ two_ne_zero]
          push_cast
          ring
        have hpower : roundedValue num den = 2 ^ (unitExponent num den + 53) := by
          rw [roundedValue, hcarry, Nat.cast_pow, Nat.cast_ofNat, ← zpow_natCast,
            ← zpow_add₀ two_ne_zero, add_comm]
          rfl
        have hrange : roundedValue num den < 2 ^ (1024 : ℤ) ↔
            unitExponent num den + 53 < 1024 := by
          rw [hpower, zpow_lt_zpow_iff_right₀ one_lt_two]
        split
        · next hover =>
            rw [limited, if_neg]
            · exact .infinite
            · rw [hrange]
              simp only [greatestExponent] at hover
              omega
        · next hover =>
            rw [limited, if_pos, hvalue]
            · exact .finite (by norm_num) (by omega)
            · rw [hrange]
              simp only [greatestExponent] at hover
              omega
    · next hcarry =>
        have hlt : significandAt num den (unitExponent num den) < 2 ^ 53 :=
          lt_of_le_of_ne hsignificand hcarry
        split
        · next hover =>
            -- a unit this great is not the least one, so that the significand is great, too
            have hunit : unitExponent num den = binaryOrder num den - 52 := by
              simp only [unitExponent, greatestExponent, leastExponent] at hover ⊢
              omega
            have hgreat := le_significandAt hnum hden hunit
            rw [limited, if_neg]
            · exact .infinite
            · rw [not_lt, roundedValue]
              calc (2 : ℚ) ^ (1024 : ℤ) = ((2 ^ 52 : ℕ) : ℚ) * 2 ^ (972 : ℤ) := by
                    rw [Nat.cast_pow, Nat.cast_ofNat, ← zpow_natCast, ← zpow_add₀ two_ne_zero]
                    rfl
                _ ≤ ((2 ^ 52 : ℕ) : ℚ) * 2 ^ unitExponent num den := by
                    refine mul_le_mul_of_nonneg_left ?_ (Nat.cast_nonneg _)
                    refine zpow_le_zpow_right₀ one_le_two ?_
                    simp only [greatestExponent] at hover
                    omega
                _ ≤ _ := mul_le_mul_of_nonneg_right (Nat.cast_le.mpr hgreat) (two_zpow_pos _).le
        · next hover =>
            rw [limited, if_pos]
            · exact .finite hlt hleast
            · rw [roundedValue]
              calc (significandAt num den (unitExponent num den) : ℚ) * 2 ^ unitExponent num den
                  < ((2 ^ 53 : ℕ) : ℚ) * 2 ^ unitExponent num den :=
                    mul_lt_mul_of_pos_right (Nat.cast_lt.mpr hlt) (two_zpow_pos _)
                _ ≤ ((2 ^ 53 : ℕ) : ℚ) * 2 ^ (971 : ℤ) := by
                    refine mul_le_mul_of_nonneg_left ?_ (Nat.cast_nonneg _)
                    refine zpow_le_zpow_right₀ one_le_two ?_
                    simp only [greatestExponent] at hover
                    omega
                _ = 2 ^ (1024 : ℤ) := by
                    rw [Nat.cast_pow, Nat.cast_ofNat, ← zpow_natCast, ← zpow_add₀ two_ne_zero]
                    rfl

/-! ## Sums and differences -/

theorem value_false (significand : ℕ) (exponent : ℤ) :
    value false significand exponent = significand * 2 ^ exponent := by
  simp [value]

theorem value_true (significand : ℕ) (exponent : ℤ) :
    value true significand exponent = -(significand * 2 ^ exponent) := by
  simp [value]

/-- The quotient by which a dyadic number is rounded. -/
theorem scaleDown_dyadic (magnitude : ℕ) (e : ℤ) :
    ((scaleDown magnitude 1 (-e)).1 : ℚ) / (scaleDown magnitude 1 (-e)).2 = magnitude * 2 ^ e := by
  rw [scaleDown_eq, Nat.cast_one, div_one, zpow_neg, div_inv_eq_mul]

/-- A sum of finite numbers that is not negative is the exact one, rounded. -/
theorem reads_add_finite {na nb : Bool} {a b : ℕ} {e f : ℤ} (hsigns : (na && nb) = false)
    (h : 0 ≤ value na a e + value nb b f) :
    ∃ num den : ℕ, 0 < den ∧ (num : ℚ) / den = value na a e + value nb b f ∧
      (add (.finite na a e) (.finite nb b f)).Reads (limited (roundedValue num den)) := by
  let sum := inUnits (if na then -(a : ℤ) else a) e (min e f) +
    inUnits (if nb then -(b : ℤ) else b) f (min e f)
  have hsum : (sum : ℚ) * 2 ^ min e f = value na a e + value nb b f := by
    rw [Int.cast_add, add_mul, inUnits_eq (min_le_left e f), inUnits_eq (min_le_right e f)]
    rfl
  have hnonneg : 0 ≤ sum := by
    rw [← hsum] at h
    exact_mod_cast nonneg_of_mul_nonneg_left h (two_zpow_pos _)
  have hadd : add (.finite na a e) (.finite nb b f) =
      if sum = 0 then zero (na && nb) else ofDyadic (decide (sum < 0)) sum.natAbs (min e f) := rfl
  rw [hadd]
  split
  · next hzero =>
      refine ⟨0, 1, Nat.one_pos, ?_, ?_⟩
      · rw [← hsum, hzero]
        simp
      · rw [hsigns, roundedValue_zero]
        exact reads_zero
  · have hsign : decide (sum < 0) = false := decide_eq_false (not_lt.mpr hnonneg)
    have hden := scaleDown_den_pos Nat.one_pos sum.natAbs (-min e f)
    refine ⟨(scaleDown sum.natAbs 1 (-min e f)).1, _, hden, ?_, ?_⟩
    · rw [scaleDown_dyadic, ← hsum]
      congr 1
      rw [Nat.cast_natAbs, abs_of_nonneg hnonneg]
    · rw [hsign]
      exact reads_ofRatio hden

/-- A sum of readings is a reading that is not less. -/
theorem Reads.add {x y : Binary64} {p q : WithTop ℚ} (hx : x.Reads p) (hy : y.Reads q) :
    ∃ r, (x.add y).Reads r ∧ p ≤ r := by
  cases hx with
  | infinite => cases hy <;> exact ⟨⊤, .infinite, le_rfl⟩
  | @finite m e below least =>
      cases hy with
      | infinite => exact ⟨⊤, .infinite, le_top⟩
      | @finite m' e' below' least' =>
          have hx : (0 : ℚ) ≤ m * 2 ^ e := mul_nonneg (Nat.cast_nonneg _) (two_zpow_pos _).le
          have hy : (0 : ℚ) ≤ m' * 2 ^ e' := mul_nonneg (Nat.cast_nonneg _) (two_zpow_pos _).le
          rw [← value_false] at hx hy
          obtain ⟨num, den, hden, hexact, hreads⟩ := reads_add_finite rfl (add_nonneg hx hy)
          refine ⟨_, hreads, le_trans (WithTop.coe_le_coe.mpr ?_) (le_limited _)⟩
          -- the reading before is rounded to itself, and the sum is not less than it
          have hquotient := scaleDown_den_pos Nat.one_pos m (-e)
          rw [← roundedValue_eq_self hquotient below least (scaleDown_dyadic m e)]
          refine roundedValue_le hquotient hden ?_
          rw [scaleDown_dyadic, hexact, ← value_false]
          exact le_add_of_nonneg_right hy

/-- The difference of two readings is the exact one, rounded. -/
theorem Reads.sub {x y : Binary64} {a b : ℚ} (hx : x.Reads a) (hy : y.Reads b) (h : a ≤ b) :
    ∃ num den : ℕ, 0 < den ∧ (num : ℚ) / den = b - a ∧
      (y.sub x).Reads (limited (roundedValue num den)) := by
  generalize hp : (a : WithTop ℚ) = p at hx
  generalize hq : (b : WithTop ℚ) = q at hy
  cases hx with
  | infinite => exact absurd hp (WithTop.coe_ne_top)
  | @finite m e below least =>
      cases hy with
      | infinite => exact absurd hq (WithTop.coe_ne_top)
      | @finite m' e' below' least' =>
          have ha : a = m * 2 ^ e := WithTop.coe_injective hp
          have hb : b = m' * 2 ^ e' := WithTop.coe_injective hq
          have hdifference : value false m' e' + value true m e = b - a := by
            rw [value_false, value_true, ha, hb, sub_eq_add_neg]
          rw [← hdifference]
          refine reads_add_finite rfl ?_
          rw [hdifference]
          exact sub_nonneg.mpr h

theorem compareDyadic_eq_lt_iff (a e b f : ℤ) :
    compareDyadic a e b f = .lt ↔ (a : ℚ) * 2 ^ e < b * 2 ^ f := by
  rw [compareDyadic, compare_lt_iff_lt, ← inUnits_eq (min_le_left e f) a,
    ← inUnits_eq (min_le_right e f) b, mul_lt_mul_iff_left₀ (two_zpow_pos _), Int.cast_lt]

end Binary64

open Binary64

namespace Number

/-! ## Comparison with a limit -/

/-- A limit lies strictly above an exact value. -/
def IsAbove (limit : Number) (q : ℚ) : Prop :=
  match limit with
  | .int n => q < n
  | .real (.finite negative significand exponent) =>
    q < Binary64.value negative significand exponent
  | .real (.infinite negative) => negative = false
  | .real .nan => False

theorem IsAbove.of_le {limit : Number} {q r : ℚ} (h : limit.IsAbove r) (hqr : q ≤ r) :
    limit.IsAbove q := by
  unfold IsAbove at h ⊢
  split at h
  · exact lt_of_le_of_lt hqr h
  · exact lt_of_le_of_lt hqr h
  · exact h
  · exact h

theorem isLess_int_iff (n : ℤ) (limit : Number) :
    (int n).isLess limit = true ↔ limit.IsAbove n := by
  rw [isLess, beq_iff_eq]
  cases limit with
  | int m => simp [compare?, IsAbove, compare_lt_iff_lt]
  | real y =>
      cases y with
      | finite signed m e =>
          have h := compareDyadic_eq_gt_iff (if signed then -(m : ℤ) else m) e n 0
          rw [zpow_zero, mul_one] at h
          simpa [compare?, compareInt?, IsAbove, value] using h
      | infinite signed => cases signed <;> simp [compare?, compareInt?, IsAbove, infiniteOrder]
      | nan => simp [compare?, compareInt?, IsAbove]

theorem isLess_finite_iff (negative : Bool) (significand : ℕ) (exponent : ℤ) (limit : Number) :
    (real (.finite negative significand exponent)).isLess limit = true ↔
      limit.IsAbove (value negative significand exponent) := by
  rw [isLess, beq_iff_eq]
  cases limit with
  | int n =>
      have h := compareDyadic_eq_lt_iff
        (if negative then -(significand : ℤ) else significand) exponent n 0
      rw [zpow_zero, mul_one] at h
      simpa [compare?, compareInt?, IsAbove, value] using h
  | real y =>
      cases y with
      | finite signed m e =>
          have h := compareDyadic_eq_lt_iff
            (if negative then -(significand : ℤ) else significand) exponent
            (if signed then -(m : ℤ) else m) e
          simpa [compare?, Binary64.compare?, IsAbove, value] using h
      | infinite signed =>
          cases signed <;> simp [compare?, Binary64.compare?, IsAbove, infiniteOrder]
      | nan => simp [compare?, Binary64.compare?, IsAbove]

/-- A reading is less than a limit just when it is finite and the limit lies above it. -/
theorem isLess_reads_iff {x : Binary64} {p : WithTop ℚ} (h : x.Reads p) (limit : Number) :
    (real x).isLess limit = true ↔ ∃ q : ℚ, p = q ∧ limit.IsAbove q := by
  cases h with
  | @finite m e below least =>
      rw [isLess_finite_iff, value_false]
      constructor
      · intro habove
        exact ⟨_, rfl, habove⟩
      · rintro ⟨q, hq, habove⟩
        rwa [WithTop.coe_injective hq]
  | infinite =>
      constructor
      · intro hless
        cases limit with
        | int n => cases hless
        | real y =>
            rw [isLess, beq_iff_eq] at hless
            cases y with
            | infinite signed =>
                cases signed <;> simp [compare?, Binary64.compare?, infiniteOrder] at hless
            | finite signed m e => simp [compare?, Binary64.compare?, infiniteOrder] at hless
            | nan => simp [compare?, Binary64.compare?] at hless
      · rintro ⟨q, hq, -⟩
        exact absurd hq.symm WithTop.coe_ne_top

/-! ## Moments -/

/-- A number can be read from a clock. -/
def IsReading : Number → Prop
  | .int _ => True
  | .real x => ∃ p, x.Reads p

/-- One reading of a clock is not after another one. -/
inductive NotAfter : Number → Number → Prop where
  | int {m n : ℤ} (h : m ≤ n) : NotAfter (.int m) (.int n)
  | real {x y : Binary64} {p q : WithTop ℚ} (hx : x.Reads p) (hy : y.Reads q) (h : p ≤ q) :
      NotAfter (.real x) (.real y)

/-- Seconds that move a clock forward: whole ones if it is read in integers, and otherwise what is
a number in double precision. -/
def Moves (clock seconds : Number) : Prop :=
  match clock, seconds with
  | .int _, .int n => 0 ≤ n
  | .int _, .real _ => False
  | .real _, seconds => ∃ x p, seconds.toReal? = some x ∧ x.Reads p

/-- A moment lies less than a lifetime back. -/
def IsRecent (now moment lifetime : Number) : Prop :=
  ∃ age, now.sub? moment = some age ∧ age.isLess lifetime = true

theorem IsReading.notAfter_self {a : Number} (h : a.IsReading) : a.NotAfter a := by
  cases a with
  | int n => exact .int le_rfl
  | real x =>
      obtain ⟨p, hp⟩ := h
      exact .real hp hp le_rfl

theorem NotAfter.self {a b : Number} (h : a.NotAfter b) : a.NotAfter a := by
  cases h with
  | int h => exact .int le_rfl
  | real hx hy h => exact .real hx hx le_rfl

theorem NotAfter.isReading {a b : Number} (h : a.NotAfter b) : b.IsReading := by
  cases h with
  | int h => trivial
  | real hx hy h => exact ⟨_, hy⟩

theorem NotAfter.trans {a b c : Number} (hab : a.NotAfter b) (hbc : b.NotAfter c) :
    a.NotAfter c := by
  cases hab with
  | int h =>
      cases hbc with
      | int h' => exact .int (h.trans h')
  | real hx hy h =>
      cases hbc with
      | real hy' hz h' =>
          rw [hy'.unique hy] at h'
          exact .real hx hz (h.trans h')

/-- Which seconds move a clock does not depend on its reading. -/
theorem NotAfter.moves_iff {a b : Number} (h : a.NotAfter b) (seconds : Number) :
    b.Moves seconds ↔ a.Moves seconds := by
  cases h <;> cases seconds <;> rfl

/-- **A clock never goes back.** -/
theorem exists_add? {clock seconds : Number} (h : clock.IsReading) (hs : clock.Moves seconds) :
    ∃ now, clock.add? seconds = some now ∧ clock.NotAfter now := by
  cases clock with
  | int m =>
      cases seconds with
      | int n => exact ⟨.int (m + n), rfl, .int (le_add_of_nonneg_right hs)⟩
      | real y => exact absurd hs id
  | real x =>
      obtain ⟨p, hp⟩ := h
      obtain ⟨y, q, hy, hq⟩ := hs
      obtain ⟨r, hr, hle⟩ := hp.add hq
      refine ⟨.real (x.add y), ?_, .real hp hr hle⟩
      cases seconds with
      | int n =>
          show (do return real ((← some x).add (← (int n).toReal?))) = _
          rw [hy]
          rfl
      | real z =>
          obtain rfl : z = y := Option.some.inj hy
          rfl

/-- There is an age of a moment that is not after now. -/
theorem NotAfter.exists_sub? {moment now : Number} (h : moment.NotAfter now) :
    ∃ age, now.sub? moment = some age := by
  cases h with
  | int h => exact ⟨_, rfl⟩
  | real hx hy h => exact ⟨_, rfl⟩

/-- Nothing is recent at the end of the clock. -/
theorem ne_top_of_isLess_sub {x z : Binary64} {p r : WithTop ℚ} {limit : Number} (hx : x.Reads p)
    (hz : z.Reads r) (h : (real (z.sub x)).isLess limit = true) : r ≠ ⊤ := by
  rintro rfl
  cases hz
  cases hx with
  | finite below least =>
      obtain ⟨q, hq, -⟩ := (isLess_reads_iff .infinite limit).mp h
      exact WithTop.coe_ne_top hq.symm
  | infinite =>
      cases limit with
      | int n => cases h
      | real y => cases y <;> cases h

/-- **A moment is recent if an earlier one is so at a later time.** -/
theorem IsRecent.of_notAfter {now after earlier later lifetime : Number}
    (h : after.IsRecent earlier lifetime) (hearlier : earlier.NotAfter later)
    (hlater : later.NotAfter now) (hnow : now.NotAfter after) : now.IsRecent later lifetime := by
  obtain ⟨age, hage, hless⟩ := h
  cases hearlier with
  | @int m n hmn =>
      cases hlater with
      | @int _ k hnk =>
          cases hnow with
          | @int _ l hkl =>
              obtain rfl : Number.int (l - m) = age := Option.some.inj hage
              refine ⟨.int (k - n), rfl, ?_⟩
              rw [isLess_int_iff] at hless ⊢
              exact hless.of_le (by exact_mod_cast Int.sub_le_sub hkl hmn)
  | @real x y p q hx hy hxy =>
      cases hlater with
      | @real _ z _ r hy' hz hyz =>
          cases hnow with
          | @real _ w _ t hz' hw hzw =>
              obtain rfl : Number.real (w.sub x) = age := Option.some.inj hage
              rw [hy'.unique hy] at hyz
              rw [hz'.unique hz] at hzw
              refine ⟨.real (z.sub y), rfl, ?_⟩
              obtain ⟨d, rfl⟩ := WithTop.ne_top_iff_exists.mp (ne_top_of_isLess_sub hx hw hless)
              obtain ⟨c, rfl, hcd⟩ := WithTop.le_coe_iff.mp hzw
              obtain ⟨b, rfl, hbc⟩ := WithTop.le_coe_iff.mp hyz
              obtain ⟨a, rfl, hab⟩ := WithTop.le_coe_iff.mp hxy
              obtain ⟨num, den, hden, hexact, hage⟩ := hx.sub hw (hab.trans (hbc.trans hcd))
              obtain ⟨num', den', hden', hexact', hage'⟩ := hy.sub hz hbc
              have hages : (num' : ℚ) / den' ≤ num / den := by
                rw [hexact, hexact']
                exact sub_le_sub hcd hab
              obtain ⟨age, heq, habove⟩ := (isLess_reads_iff hage lifetime).mp hless
              have hle := limited_mono (roundedValue_le hden' hden hages)
              rw [heq] at hle
              obtain ⟨age', heq', hle'⟩ := WithTop.le_coe_iff.mp hle
              exact (isLess_reads_iff hage' lifetime).mpr ⟨age', heq', habove.of_le hle'⟩

end Number
end DistroBallot
