import DistroBallot.Text.Utf8
import Mathlib

/-!
# What bytes are text

The bytes of a text are those of its characters one after the other (`Utf8.encode`). Decoding gives
a text just where its bytes are read (`decode_eq_some_iff`), so that bytes are not UTF-8 just where
no text is written by them (`decode_eq_none_iff`).

A character is a number in base 64: its last digits stand in the bytes behind the first one
(`tail`), and what is left of it in the first byte (`lead`). A sequence under way leads to the
numbers that begin with the digits read so far and go on within its bounds (`Sequence.LeadsTo`).
The bounds of a first byte are such that these are characters which need so many bytes, and no
others (`leadsTo_of_opened?`, `exists_opened?`).
-/

namespace DistroBallot
namespace Utf8

/-- The bytes that write a text. -/
def encode (t : Text) : List UInt8 := t.flatMap String.utf8EncodeChar

/-! ## Numbers in bytes -/

/-- How many bytes follow the first one where a number is written. -/
def following (n : ℕ) : ℕ :=
  if n < 0x80 then 0 else if n < 0x800 then 1 else if n < 0x10000 then 2 else 3

/-- The first byte of a number. -/
def lead (n : ℕ) : ℕ :=
  if n < 0x80 then n
  else if n < 0x800 then 0xC0 + n / 64
  else if n < 0x10000 then 0xE0 + n / 4096
  else 0xF0 + n / 262144

/-- The last bytes of a number, so many of them: each has a digit in base 64. -/
def tail : ℕ → ℕ → List UInt8
  | 0, _ => []
  | k + 1, n => UInt8.ofNat (0x80 + n / 64 ^ k % 64) :: tail k n

theorem utf8EncodeChar_eq (c : Char) :
    String.utf8EncodeChar c = UInt8.ofNat (lead c.toNat) :: tail (following c.toNat) c.toNat := by
  have hbound : c.toNat < 0x110000 := by
    have hvalid : c.toNat.isValidChar := c.valid
    omega
  simp only [String.utf8EncodeChar, Char.toNat_val, lead, following]
  generalize c.toNat = n at hbound ⊢
  have hlast : n % 64 + 0x80 = 0x80 + n / 64 ^ 0 % 64 := by omega
  have hsecond : n / 64 % 64 + 0x80 = 0x80 + n / 64 ^ 1 % 64 := by omega
  have hthird : n / 4096 % 64 + 0x80 = 0x80 + n / 64 ^ 2 % 64 := by omega
  by_cases h1 : n < 0x80
  · rw [if_pos (by omega), if_pos h1, if_pos h1, tail]
  rw [if_neg (by omega), if_neg h1, if_neg h1]
  by_cases h2 : n < 0x800
  · rw [if_pos (by omega), if_pos h2, if_pos h2, hlast,
      show n / 64 % 32 + 0xC0 = 0xC0 + n / 64 by omega]
    rfl
  rw [if_neg (by omega), if_neg h2, if_neg h2]
  by_cases h3 : n < 0x10000
  · rw [if_pos (by omega), if_pos h3, if_pos h3, hlast, hsecond,
      show n / 4096 % 16 + 0xE0 = 0xE0 + n / 4096 by omega]
    rfl
  · rw [if_neg (by omega), if_neg h3, if_neg h3, hlast, hsecond, hthird,
      show n / 262144 % 8 + 0xF0 = 0xF0 + n / 262144 by omega]
    rfl

/-! ## Sequences under way -/

/-- The number begins with what has been read, and its next byte lies within the bounds. -/
structure Sequence.LeadsTo (s : Sequence) (n : ℕ) : Prop where
  begins : n / 64 ^ (s.after + 1) = s.bits
  low : s.low ≤ 0x80 + n / 64 ^ s.after % 64
  high : 0x80 + n / 64 ^ s.after % 64 ≤ s.high

theorem bounds_of_opened? {b : ℕ} {s : Sequence} (h : opened? b = some s) :
    0x80 ≤ s.low ∧ s.high ≤ 0xBF := by
  unfold opened? at h
  split_ifs at h <;> (obtain rfl := Option.some.inj h; simp)

/-- What a first byte leads to are characters that begin with it. -/
theorem leadsTo_of_opened? {b n : ℕ} {s : Sequence} (h : opened? b = some s) (hn : s.LeadsTo n) :
    n.isValidChar ∧ 0x80 ≤ n ∧ lead n = b ∧ following n = s.after + 1 := by
  obtain ⟨hbegins, hlow, hhigh⟩ := hn
  unfold opened? at h
  simp only [Nat.isValidChar, lead, following]
  -- one case for each kind of first byte, with its bounds
  split_ifs at h with h1 h2 h3 h4 h5 h6 h7 <;> obtain rfl := Option.some.inj h <;>
    simp only [Bool.and_eq_true, decide_eq_true_eq, beq_iff_eq] at * <;>
    norm_num at hbegins hlow hhigh <;>
    refine ⟨by omega, by omega, ?_, ?_⟩ <;> split_ifs <;> omega

theorem opened?_ne_none {b : ℕ} (hlow : 0xC2 ≤ b) (hhigh : b ≤ 0xF4) : opened? b ≠ none := by
  intro h
  unfold opened? at h
  split_ifs at h
  simp only [Bool.and_eq_true, decide_eq_true_eq, beq_iff_eq] at *
  omega

/-- Each character that needs more than one byte is led to by the first of them. -/
theorem exists_opened? {n : ℕ} (hvalid : n.isValidChar) (hn : 0x80 ≤ n) :
    ∃ s, opened? (lead n) = some s ∧ s.LeadsTo n ∧ following n = s.after + 1 := by
  have hlead : 0xC2 ≤ lead n ∧ lead n ≤ 0xF4 := by
    simp only [lead]
    split_ifs <;> omega
  obtain ⟨s, hs⟩ := Option.ne_none_iff_exists'.mp (opened?_ne_none hlead.1 hlead.2)
  refine ⟨s, hs, ?_⟩
  unfold opened? at hs
  simp only [lead, following] at hs ⊢
  split_ifs at hs ⊢ <;> obtain rfl := Option.some.inj hs <;>
    simp only [Bool.and_eq_true, decide_eq_true_eq, beq_iff_eq] at * <;>
    refine ⟨⟨?_, ?_, ?_⟩, ?_⟩ <;> norm_num <;> omega

/-- One byte of a sequence: six more bits of the number. -/
theorem eq_append_bits_iff {b bits q : ℕ} (hlow : 0x80 ≤ b) (hhigh : b ≤ 0xBF) :
    q = 64 * bits + (b - 0x80) ↔ q / 64 = bits ∧ 0x80 + q % 64 = b := by
  omega

theorem cons_eq_tail_append_iff {b : UInt8} {rest more : List UInt8} {k n : ℕ} :
    b :: rest = tail (k + 1) n ++ more ↔
      0x80 + n / 64 ^ k % 64 = b.toNat ∧ rest = tail k n ++ more := by
  have hbyte : b = UInt8.ofNat (0x80 + n / 64 ^ k % 64) ↔ 0x80 + n / 64 ^ k % 64 = b.toNat := by
    rw [← UInt8.toNat_inj, UInt8.toNat_ofNat', Nat.mod_eq_of_lt (by omega), eq_comm]
  rw [tail, List.cons_append, List.cons.injEq, hbyte]

/-- A number is led to byte by byte. -/
theorem Sequence.leadsTo_cons_iff {b bits low high k n : ℕ} (hlow : 0x80 ≤ low)
    (hhigh : high ≤ 0xBF) :
    (Sequence.mk bits low high k).LeadsTo n ∧ 0x80 + n / 64 ^ k % 64 = b ↔
      (low ≤ b ∧ b ≤ high) ∧ n / 64 ^ k = 64 * bits + (b - 0x80) := by
  have hdiv : n / 64 ^ (k + 1) = n / 64 ^ k / 64 := by
    rw [pow_succ, Nat.div_div_eq_div_mul]
  constructor
  · rintro ⟨⟨hbegins, hl, hh⟩, rfl⟩
    rw [hdiv] at hbegins
    dsimp only at hl hh
    exact ⟨⟨hl, hh⟩, (eq_append_bits_iff (by omega) (by omega)).mpr ⟨hbegins, rfl⟩⟩
  · rintro ⟨⟨hl, hh⟩, hn⟩
    obtain ⟨hbegins, rfl⟩ := (eq_append_bits_iff (by omega) (by omega)).mp hn
    exact ⟨⟨hdiv.trans hbegins, hl, hh⟩, rfl⟩

theorem Sequence.leadsTo_iff_div {bits k n : ℕ} :
    (Sequence.mk bits 0x80 0xBF k).LeadsTo n ↔ n / 64 ^ (k + 1) = bits := by
  constructor
  · exact fun h => h.begins
  · exact fun h => ⟨h, by dsimp only; omega, by dsimp only; omega⟩

/-- **A sequence under way is read as a number that it leads to,** and the bytes behind it. -/
theorem decodeFrom_some_iff {bits low high k : ℕ} (hlow : 0x80 ≤ low) (hhigh : high ≤ 0xBF)
    {bytes : List UInt8} {text : Text} :
    decodeFrom (some ⟨bits, low, high, k⟩) bytes = some text ↔
      ∃ n behind more, (Sequence.mk bits low high k).LeadsTo n ∧
        bytes = tail (k + 1) n ++ behind ∧
        text = Char.ofNat n :: more ∧ decodeFrom none behind = some more := by
  induction k generalizing bits low high bytes with
  | zero =>
      cases bytes with
      | nil => simp [decodeFrom, tail]
      | cons b rest =>
          simp only [decodeFrom, cons_eq_tail_append_iff, Bool.and_eq_true, decide_eq_true_eq]
          constructor
          · intro h
            split_ifs at h with hb
            obtain ⟨more, hmore, rfl⟩ := Option.map_eq_some_iff.mp h
            obtain ⟨hn, hbyte⟩ := (Sequence.leadsTo_cons_iff (k := 0) hlow hhigh).mpr
              ⟨hb, Nat.div_one (64 * bits + (b.toNat - 0x80))⟩
            exact ⟨_, rest, more, hn, ⟨hbyte, rfl⟩, rfl, hmore⟩
          · rintro ⟨n, behind, more, hn, ⟨hbyte, rfl⟩, rfl, hmore⟩
            obtain ⟨hb, hdigits⟩ := (Sequence.leadsTo_cons_iff hlow hhigh).mp ⟨hn, hbyte⟩
            rw [pow_zero, Nat.div_one] at hdigits
            rw [if_pos hb, ← hdigits]
            exact congrArg (Option.map (Char.ofNat n :: ·)) hmore
  | succ k ih =>
      cases bytes with
      | nil => simp [decodeFrom, tail]
      | cons b rest =>
          simp only [decodeFrom, cons_eq_tail_append_iff, Bool.and_eq_true, decide_eq_true_eq]
          rw [Option.ite_none_right_eq_some, ih (le_refl _) (le_refl _)]
          simp only [Sequence.leadsTo_iff_div]
          constructor
          · rintro ⟨hb, n, behind, more, hdigits, rfl, rfl, hmore⟩
            obtain ⟨hn, hbyte⟩ := (Sequence.leadsTo_cons_iff hlow hhigh).mpr ⟨hb, hdigits⟩
            exact ⟨n, behind, more, hn, ⟨hbyte, rfl⟩, rfl, hmore⟩
          · rintro ⟨n, behind, more, hn, ⟨hbyte, rfl⟩, rfl, hmore⟩
            obtain ⟨hb, hdigits⟩ := (Sequence.leadsTo_cons_iff hlow hhigh).mp ⟨hn, hbyte⟩
            exact ⟨hb, n, behind, more, hdigits, rfl, rfl, hmore⟩

/-! ## Texts -/

theorem cons_eq_utf8EncodeChar_iff {b : UInt8} {c : Char} {bytes : List UInt8} :
    b :: bytes = String.utf8EncodeChar c ↔
      lead c.toNat = b.toNat ∧ bytes = tail (following c.toNat) c.toNat := by
  have hlead : lead c.toNat < 0x100 := by
    have hvalid : c.toNat.isValidChar := c.valid
    simp only [lead]
    split_ifs <;> omega
  rw [utf8EncodeChar_eq, List.cons.injEq, ← UInt8.toNat_inj, UInt8.toNat_ofNat',
    Nat.mod_eq_of_lt hlead, eq_comm (a := b.toNat)]

/-- A byte of ASCII is a character of its own. -/
theorem cons_eq_utf8EncodeChar_iff_of_lt {b : UInt8} (hb : b.toNat < 0x80) {c : Char}
    {bytes : List UInt8} :
    b :: bytes = String.utf8EncodeChar c ↔ c = Char.ofNat b.toNat ∧ bytes = [] := by
  rw [cons_eq_utf8EncodeChar_iff]
  constructor
  · rintro ⟨hlead, rfl⟩
    have hc : c.toNat < 0x80 := by
      simp only [lead] at hlead
      split_ifs at hlead <;> omega
    rw [lead, if_pos hc] at hlead
    rw [← hlead, Char.ofNat_toNat, following, if_pos hc]
    exact ⟨rfl, rfl⟩
  · rintro ⟨rfl, rfl⟩
    have hc : (Char.ofNat b.toNat).toNat = b.toNat := by
      rw [Char.toNat_ofNat, if_pos (.inl (by omega))]
    rw [hc, lead, following, if_pos hb, if_pos hb]
    exact ⟨rfl, rfl⟩

/-- Another byte has to open a sequence that leads to the character. -/
theorem cons_eq_utf8EncodeChar_iff_of_le {b : UInt8} (hb : 0x80 ≤ b.toNat) {c : Char}
    {bytes : List UInt8} :
    b :: bytes = String.utf8EncodeChar c ↔
      ∃ s, opened? b.toNat = some s ∧ s.LeadsTo c.toNat ∧ bytes = tail (s.after + 1) c.toNat := by
  rw [cons_eq_utf8EncodeChar_iff]
  constructor
  · rintro ⟨hlead, rfl⟩
    have hc : 0x80 ≤ c.toNat := by
      simp only [lead] at hlead
      split_ifs at hlead <;> omega
    obtain ⟨s, hs, hleads, hafter⟩ := exists_opened? c.valid hc
    rw [Char.toNat_val, hlead] at hs
    exact ⟨s, hs, hleads, by rw [← hafter]; rfl⟩
  · rintro ⟨s, hs, hc, rfl⟩
    obtain ⟨-, -, hlead, hafter⟩ := leadsTo_of_opened? hs hc
    exact ⟨hlead, by rw [hafter]⟩

/-- **Between sequences a text is read character by character.** -/
theorem decodeFrom_none_cons_iff {b : UInt8} {rest : List UInt8} {text : Text} :
    decodeFrom none (b :: rest) = some text ↔ ∃ c bytes behind more,
      b :: bytes = String.utf8EncodeChar c ∧ rest = bytes ++ behind ∧ text = c :: more ∧
        decodeFrom none behind = some more := by
  rw [decodeFrom]
  by_cases hb : b.toNat < 0x80
  · simp only [if_pos hb, cons_eq_utf8EncodeChar_iff_of_lt hb, Option.map_eq_some_iff]
    constructor
    · rintro ⟨more, hmore, rfl⟩
      exact ⟨_, [], rest, more, ⟨rfl, rfl⟩, rfl, rfl, hmore⟩
    · rintro ⟨c, bytes, behind, more, ⟨rfl, rfl⟩, rfl, rfl, hmore⟩
      exact ⟨more, hmore, rfl⟩
  · simp only [if_neg hb, cons_eq_utf8EncodeChar_iff_of_le (Nat.le_of_not_lt hb),
      Option.bind_eq_some_iff]
    constructor
    · rintro ⟨s, hs, h⟩
      obtain ⟨hlow, hhigh⟩ := bounds_of_opened? hs
      obtain ⟨n, behind, more, hn, rfl, rfl, hmore⟩ := (decodeFrom_some_iff hlow hhigh).mp h
      have hc : (Char.ofNat n).toNat = n := by
        rw [Char.toNat_ofNat, if_pos (leadsTo_of_opened? hs hn).1]
      refine ⟨Char.ofNat n, _, behind, more, ⟨s, hs, ?_, rfl⟩, ?_, rfl, hmore⟩
      · rw [hc]
        exact hn
      · rw [hc]
    · rintro ⟨c, bytes, behind, more, ⟨s, hs, hc, rfl⟩, rfl, rfl, hmore⟩
      obtain ⟨hlow, hhigh⟩ := bounds_of_opened? hs
      refine ⟨s, hs, (decodeFrom_some_iff hlow hhigh).mpr ?_⟩
      exact ⟨c.toNat, behind, more, hc, rfl, by rw [Char.ofNat_toNat], hmore⟩

theorem decodeFrom_none_iff {bytes : List UInt8} {text : Text} :
    decodeFrom none bytes = some text ↔ bytes = encode text := by
  induction text generalizing bytes with
  | nil =>
      cases bytes with
      | nil => exact iff_of_true rfl rfl
      | cons b rest =>
          rw [decodeFrom_none_cons_iff]
          refine iff_of_false ?_ (by simp [encode])
          rintro ⟨c, bytes, behind, more, -, -, ⟨⟩, -⟩
  | cons c text ih =>
      cases bytes with
      | nil => simp [decodeFrom, encode, String.utf8EncodeChar_ne_nil]
      | cons b rest =>
          rw [decodeFrom_none_cons_iff, encode, List.flatMap_cons]
          constructor
          · rintro ⟨c, bytes, behind, more, hc, rfl, ⟨⟩, hmore⟩
            rw [← hc, ih.mp hmore, encode, List.cons_append]
          · intro h
            obtain ⟨first, others, hc⟩ := List.exists_cons_of_ne_nil
              (String.utf8EncodeChar_ne_nil (c := c))
            rw [hc, List.cons_append] at h
            obtain ⟨rfl, rfl⟩ := List.cons.inj h
            exact ⟨c, others, encode text, text, hc.symm, rfl, rfl, ih.mpr rfl⟩

/-- **Bytes are read as a text just where they write it.** -/
theorem decode_eq_some_iff {bytes : List UInt8} {text : Text} :
    decode bytes = some text ↔ bytes = encode text :=
  decodeFrom_none_iff

/-- **Bytes are not UTF-8 just where no text is written by them.** -/
theorem decode_eq_none_iff {bytes : List UInt8} :
    decode bytes = none ↔ ∀ text, bytes ≠ encode text := by
  simp only [Option.eq_none_iff_forall_ne_some, ne_eq, decode_eq_some_iff]

end Utf8
end DistroBallot
