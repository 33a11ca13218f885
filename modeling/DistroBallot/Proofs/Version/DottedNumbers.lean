import DistroBallot.Number.Numeral
import DistroBallot.Proofs.Version.Concatenation
import Mathlib

/-!
# Versions of numbers only

Digits without leading zeros are compared by their count and then as text, which is the order of the
numbers that they denote (`compareDigits_eq_compare`). Digits that denote zero have a class of their
own below all other numbers. So versions that are numbers with points between them are in the
lexicographic order of these numbers, where the shorter list is filled up with zeros
(`compare_join_eq_compare_rightpad`). No number is ever worked out for that, however many digits it
has.
-/

namespace DistroBallot

/-! ## The numbers that digits denote -/

namespace Numeral

variable {c : Char} {t x y : Text}

theorem digitsValue_cons (c : Char) (t : Text) :
    digitsValue (c :: t) = 10 ^ t.length * (c.toNat - 48) + digitsValue t := by
  have h : Nat.ofDigitChars 10 t (c.toNat - 48) =
      10 ^ t.length * (c.toNat - 48) + Nat.ofDigitChars 10 t 0 :=
    Nat.ofDigitChars_eq_ofDigitChars_zero
  rw [Nat.ofDigitChars_eq_foldl, Nat.ofDigitChars_eq_foldl] at h
  show t.foldl (fun v c => 10 * v + (c.toNat - 48)) (10 * 0 + (c.toNat - 48)) = _
  rw [Nat.mul_zero, Nat.zero_add]
  exact h

theorem toNat_of_isDigit (hc : c.isDigit = true) : 48 ≤ c.toNat ∧ c.toNat ≤ 57 :=
  Char.isDigit_iff_toNat.mp hc

theorem digitsValue_lt (ht : ∀ c ∈ t, c.isDigit = true) : digitsValue t < 10 ^ t.length := by
  induction t with
  | nil => decide
  | cons c t ih =>
      rw [List.forall_mem_cons] at ht
      have hdigit := toNat_of_isDigit ht.1
      have hhead : 10 ^ t.length * (c.toNat - 48) ≤ 10 ^ t.length * 9 :=
        Nat.mul_le_mul_left _ (by omega)
      have hrest := ih ht.2
      rw [digitsValue_cons, List.length_cons, pow_succ]
      omega

/-- The digits of fewer places denote the lesser number, if the others do not start with zero. -/
theorem digitsValue_lt_of_length_lt (hx : ∀ c ∈ x, c.isDigit = true)
    (hy : ∀ c ∈ y, c.isDigit = true) (hzero : y.head? ≠ some '0') (h : x.length < y.length) :
    digitsValue x < digitsValue y := by
  cases y with
  | nil => exact absurd h (Nat.not_lt_zero _)
  | cons d y =>
      have hd : 1 ≤ d.toNat - 48 := by
        have hdigit := toNat_of_isDigit (hy d List.mem_cons_self)
        have hne : d.toNat ≠ '0'.toNat := by
          rw [Ne, Char.toNat_inj]
          simpa using hzero
        have hcode : '0'.toNat = 48 := rfl
        omega
      calc digitsValue x < 10 ^ x.length := digitsValue_lt hx
        _ ≤ 10 ^ y.length := Nat.pow_le_pow_right (by decide) (Nat.le_of_lt_succ h)
        _ ≤ 10 ^ y.length * (d.toNat - 48) := Nat.le_mul_of_pos_right _ hd
        _ ≤ digitsValue (d :: y) := by
          rw [digitsValue_cons]
          exact Nat.le_add_right _ _

/-- Of as many digits the lesser text denotes the lesser number. -/
theorem digitsValue_lt_of_lt (hx : ∀ c ∈ x, c.isDigit = true) (hy : ∀ c ∈ y, c.isDigit = true)
    (hlength : x.length = y.length) (h : x < y) : digitsValue x < digitsValue y := by
  induction x generalizing y with
  | nil =>
      rw [List.eq_nil_of_length_eq_zero hlength.symm] at h
      exact absurd h (List.not_lt_nil _)
  | cons c x ih =>
      cases y with
      | nil => cases hlength
      | cons d y =>
          rw [List.forall_mem_cons] at hx hy
          have hrest : x.length = y.length := Nat.succ.inj hlength
          rw [digitsValue_cons, digitsValue_cons, hrest]
          rcases List.cons_lt_cons_iff.mp h with hlt | ⟨rfl, hlt⟩
          · -- the first digits differ by one at least, and that is more than the rest makes up
            have hbound : digitsValue x < 10 ^ y.length := hrest ▸ digitsValue_lt hx.2
            have hdigit := toNat_of_isDigit hx.1
            have hcode : c.toNat < d.toNat := hlt
            have hfirst : 10 ^ y.length * (c.toNat - 48 + 1) ≤ 10 ^ y.length * (d.toNat - 48) :=
              Nat.mul_le_mul_left _ (by omega)
            rw [Nat.mul_succ] at hfirst
            omega
          · have := ih hx.2 hy.2 hrest hlt
            omega

theorem digitsValue_dropWhile_zeros (t : Text) :
    digitsValue (t.dropWhile (· == '0')) = digitsValue t := by
  induction t with
  | nil => rfl
  | cons c t ih =>
      by_cases hc : c = '0'
      · rw [hc, digitsValue_cons]
        simpa using ih
      · rw [List.dropWhile_cons_of_neg (by simpa using hc)]

end Numeral

namespace Component

open Numeral

variable {a b : Component} {x y : Text}

theorem digitsValue_lt_of_key_lt (hx : (number x).Formed) (hy : (number y).Formed)
    (h : toLex (x.length, x) < toLex (y.length, y)) : digitsValue x < digitsValue y := by
  rcases Prod.Lex.toLex_lt_toLex.mp h with hlength | ⟨hlength, hlt⟩
  · exact digitsValue_lt_of_length_lt hx.2.1 hy.2.1 hy.2.2 hlength
  · exact digitsValue_lt_of_lt hx.2.1 hy.2.1 hlength hlt

/-- **Digits without leading zeros are in the order of the numbers that they denote.** -/
theorem compareDigits_eq_compare (hx : (number x).Formed) (hy : (number y).Formed) :
    compareDigits x y = compare (digitsValue x) (digitsValue y) := by
  rcases lt_trichotomy (toLex (x.length, x)) (toLex (y.length, y)) with h | h | h
  · rw [compareDigits_eq_lt_iff.mpr h, eq_comm, Nat.compare_eq_lt]
    exact digitsValue_lt_of_key_lt hx hy h
  · obtain rfl : x = y := congrArg Prod.snd (toLex.injective h)
    rw [compareDigits_eq_eq_iff.mpr rfl, eq_comm, Nat.compare_eq_eq]
  · have hswap : (compareDigits y x).swap = compareDigits x y := order_swap (number y) (number x)
    rw [← hswap, compareDigits_eq_lt_iff.mpr h, eq_comm, Ordering.swap_lt, Nat.compare_eq_gt]
    exact digitsValue_lt_of_key_lt hy hx h

/-- The number that a component denotes, if it is one. -/
def amount : Component → ℕ
  | number digits => digitsValue digits
  | _ => 0

/-- A component that is a number, written without leading zeros. -/
def IsAmount (a : Component) : Prop := a.isNumeric = true ∧ a.Formed

theorem amount_pos (hx : (number x).Formed) : 0 < (number x).amount :=
  digitsValue_lt_of_length_lt (x := []) (by simp) hx.2.1 hx.2.2 (List.length_pos_of_ne_nil hx.1)

/-- Numbers are in the order of what they denote. -/
theorem order_eq_compare_amount (ha : a.IsAmount) (hb : b.IsAmount) :
    a.order b = compare a.amount b.amount := by
  obtain ⟨hnumeric, hformed⟩ := ha
  obtain ⟨hnumeric', hformed'⟩ := hb
  cases a with
  | zero =>
      cases b with
      | zero => rfl
      | number y => exact (Nat.compare_eq_lt.mpr (amount_pos hformed')).symm
      | _ => cases hnumeric'
  | number x =>
      cases b with
      | zero => exact (Nat.compare_eq_gt.mpr (amount_pos hformed)).symm
      | number y => exact compareDigits_eq_compare hformed hformed'
      | _ => cases hnumeric'
  | _ => cases hnumeric

theorem eq_iff_amount_eq (ha : a.IsAmount) (hb : b.IsAmount) : a = b ↔ a.amount = b.amount := by
  rw [← Nat.compare_eq_eq, ← order_eq_compare_amount ha hb, order_eq_eq_iff, key_eq_iff]
  obtain ⟨hnumeric, -⟩ := ha
  obtain ⟨hnumeric', -⟩ := hb
  cases a <;> cases b <;> simp_all [isNumeric, rank, Rank.level, magnitude]

end Component

namespace Version

open Component (IsAmount)

variable {as bs : List Component} {ds es : List Text}

/-! ## Lists filled up with zeros -/

theorem rightpad_succ {α : Type} (n : ℕ) (a : α) (l : List α) :
    l.rightpad (n + 1) a = l.headD a :: l.tail.rightpad n a := by
  cases l with
  | nil => rfl
  | cons x l => simp [List.rightpad]

theorem headD_map_amount (as : List Component) :
    (as.map Component.amount).headD 0 = (as.getD 0 .zero).amount := by
  cases as <;> rfl

theorem isAmount_getD (has : ∀ a ∈ as, a.IsAmount) (i : ℕ) : (as.getD i .zero).IsAmount := by
  rw [List.getD_eq_getElem?_getD]
  cases h : as[i]? with
  | none => exact ⟨rfl, trivial⟩
  | some a => exact has a (List.mem_of_getElem? h)

/-- Aligned numbers are in the lexicographic order of what they denote, filled up with zeros to
any number of places that is enough for both. -/
theorem orderAligned_eq_compare_rightpad (has : ∀ a ∈ as, a.IsAmount) (hbs : ∀ b ∈ bs, b.IsAmount)
    {n : ℕ} (hn : as.length ≤ n) (hn' : bs.length ≤ n) :
    orderAligned (align as bs) = Ord.compare ((as.map Component.amount).rightpad n 0)
      ((bs.map Component.amount).rightpad n 0) := by
  induction n generalizing as bs with
  | zero =>
      rw [List.eq_nil_of_length_eq_zero (Nat.le_zero.mp hn),
        List.eq_nil_of_length_eq_zero (Nat.le_zero.mp hn')]
      rfl
  | succ n ih =>
      by_cases hnil : as = [] ∧ bs = []
      · rw [hnil.1, hnil.2]
        exact Std.ReflCmp.compare_self.symm
      · have htail : orderAligned (align as.tail bs.tail) =
            Ord.compare ((as.tail.map Component.amount).rightpad n 0)
              ((bs.tail.map Component.amount).rightpad n 0) :=
          ih (fun a ha => has a (List.mem_of_mem_tail ha))
            (fun b hb => hbs b (List.mem_of_mem_tail hb))
            (by rw [List.length_tail]; omega) (by rw [List.length_tail]; omega)
        have hheads := isAmount_getD has 0
        have hheads' := isAmount_getD hbs 0
        rw [rightpad_succ, rightpad_succ, headD_map_amount, headD_map_amount,
          List.compare_eq_compareLex, List.compareLex_cons_cons, ← List.compare_eq_compareLex,
          ← List.map_tail, ← List.map_tail, ← htail, align_eq_cons hnil, orderAligned]
        split
        · next h =>
            rw [h, Nat.compare_eq_eq.mpr rfl]
            rfl
        · next h =>
            rw [Component.order_eq_compare_amount hheads hheads']
            have hne : Ord.compare (as.getD 0 .zero).amount (bs.getD 0 .zero).amount ≠ .eq := by
              rw [Ne, Nat.compare_eq_eq, ← Component.eq_iff_amount_eq hheads hheads']
              exact h
            cases hcompare : Ord.compare (as.getD 0 .zero).amount (bs.getD 0 .zero).amount with
            | eq => exact absurd hcompare hne
            | lt => rfl
            | gt => rfl

/-! ## Numbers with points between them -/

theorem isAmount_ofDigits {d : Text} (hd : (Segment.digits d).Formed) : (ofDigits d).IsAmount :=
  ⟨isNumeric_ofDigits d, formed_ofDigits hd⟩

theorem amount_ofDigits (d : Text) : (ofDigits d).amount = Numeral.digitsValue d := by
  rw [← Numeral.digitsValue_dropWhile_zeros]
  unfold ofDigits
  split
  · next h =>
      rw [h]
      rfl
  · rfl

theorem components_join (hds : ∀ d ∈ ds, (Segment.digits d).Formed) :
    components (Text.join ['.'] ds) = ds.map ofDigits := by
  unfold Text.join
  induction ds with
  | nil => rfl
  | cons d ds ih =>
      rw [List.forall_mem_cons] at hds
      cases ds with
      | nil => simpa using components_digits hds.1
      | cons e ds =>
          have hpoint : '.'.isAlphanum = false := rfl
          rw [List.intersperse_cons_cons, List.flatten_cons, List.flatten_cons,
            List.singleton_append, components_append_cons hpoint, components_digits hds.1,
            ih hds.2]
          rfl

/-- **Versions that are numbers with points between them are in the lexicographic order of the
numbers**, where the shorter list is filled up with zeros to the length of the longer. They are
equal to the comparison just when the filled lists are the same. -/
theorem compare_join_eq_compare_rightpad (hds : ∀ d ∈ ds, (Segment.digits d).Formed)
    (hes : ∀ e ∈ es, (Segment.digits e).Formed) :
    compare (Text.join ['.'] ds) (Text.join ['.'] es) =
        Ord.compare ((ds.map Numeral.digitsValue).rightpad (max ds.length es.length) 0)
          ((es.map Numeral.digitsValue).rightpad (max ds.length es.length) 0) ∧
      (compare (Text.join ['.'] ds) (Text.join ['.'] es) = .eq ↔
        (ds.map Numeral.digitsValue).rightpad (max ds.length es.length) 0 =
          (es.map Numeral.digitsValue).rightpad (max ds.length es.length) 0) := by
  have hamounts : ∀ ts : List Text, (∀ t ∈ ts, (Segment.digits t).Formed) →
      ∀ a ∈ ts.map ofDigits, a.IsAmount := by
    intro ts hts a ha
    obtain ⟨t, ht, rfl⟩ := List.mem_map.mp ha
    exact isAmount_ofDigits (hts t ht)
  have hvalues : ∀ ts : List Text,
      (ts.map ofDigits).map Component.amount = ts.map Numeral.digitsValue := by
    intro ts
    rw [List.map_map]
    exact List.map_congr_left fun t _ => amount_ofDigits t
  have hcompare : compare (Text.join ['.'] ds) (Text.join ['.'] es) =
      Ord.compare ((ds.map Numeral.digitsValue).rightpad (max ds.length es.length) 0)
        ((es.map Numeral.digitsValue).rightpad (max ds.length es.length) 0) := by
    unfold compare
    rw [components_join hds, components_join hes,
      orderAligned_eq_compare_rightpad (hamounts ds hds) (hamounts es hes)
        (n := max ds.length es.length) (by simp) (by simp), hvalues, hvalues]
  refine ⟨hcompare, ?_⟩
  rw [hcompare]
  exact Std.LawfulEqOrd.compare_eq_iff_eq

theorem compare_join_with_leading_zeros :
    (∀ d ∈ ["1".toList, "007".toList], (Segment.digits d).Formed) ∧
    (∀ e ∈ ["01".toList, "7".toList, "0".toList], (Segment.digits e).Formed) ∧
    compare "1.007".toList "01.7.0".toList = .eq := by
  have hds : ∀ d ∈ ["1".toList, "007".toList], (Segment.digits d).Formed := by
    simp [Segment.Formed]
  have hes : ∀ e ∈ ["01".toList, "7".toList, "0".toList], (Segment.digits e).Formed := by
    simp [Segment.Formed]
  exact ⟨hds, hes, (compare_join_eq_compare_rightpad hds hes).2.mpr rfl⟩

end Version
end DistroBallot
