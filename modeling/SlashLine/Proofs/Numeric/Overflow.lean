import SlashLine.Proofs.Numeric.Decimals

/-!
# Numbers beyond the format

The greatest finite number has 53 bits, all of them ones. Half a unit of the last place above it
lies between it and the next power of two, which has the even significand of the two, so from there
on everything is rounded to an infinity. Texts for numbers so large or so small that their powers of
ten are not worked out are well beyond that point, or well below it.

* `roundQuotient_le_iff_of_odd`: up to which quotient an odd number is not exceeded.
* `roundToUnits_lt_iff`: up to which quotient rounding stays below a power of two.
* `Binary64.isFinite_ofUnits_iff`: the quotients that are rounded to a finite number.
* `Numeral.isFinite_toBinary64_iff`: the same for what a numeral stands for.
* `parseNumber_accepts_iff`: the texts that are accepted as numbers.
-/

namespace SlashLine

/-! ## Rounding up to a power of two -/

variable {num den : Nat}

/-- From half a unit above an odd number on, the even one after it is nearest. -/
theorem roundQuotient_le_iff_of_odd {k : Nat} (hk : k % 2 = 1) (hden : 0 < den) :
    roundQuotient num den ≤ k ↔ 2 * num < (2 * k + 1) * den := by
  have hsplit : den * (num / den) + num % den = num := Nat.div_add_mod num den
  have hleft : num % den < den := Nat.mod_lt num hden
  have hdouble : (2 * k + 1) * den = 2 * (den * k) + den := by ring
  rw [hdouble]
  rcases Nat.lt_trichotomy (num / den) k with hlt | heq | hgt
  · have hround := roundQuotient_le_succ num den
    have hmul : den * (num / den + 1) ≤ den * k := Nat.mul_le_mul_left den hlt
    rw [Nat.mul_add_one] at hmul
    exact iff_of_true (by omega) (by omega)
  · -- Here the remainder decides; a half goes up, away from the odd number.
    have hhalf : 2 * num < 2 * (den * k) + den ↔ 2 * (num % den) < den := by
      rw [heq] at hsplit
      omega
    have hodd : ¬ num / den % 2 = 0 := by omega
    rw [hhalf, roundQuotient]
    simp only [hodd, beq_iff_eq, Bool.or_eq_true, decide_eq_true_eq, Bool.and_eq_true, and_false,
      or_false]
    split <;> omega
  · have hround := le_roundQuotient num den
    have hmul : den * (k + 1) ≤ den * (num / den) := Nat.mul_le_mul_left den hgt
    rw [Nat.mul_add_one] at hmul
    exact iff_of_false (by omega) (by omega)

theorem roundToUnits_eq (num den : Nat) :
    roundToUnits num den =
      roundQuotient num (den * 2 ^ spareBits num den) * 2 ^ spareBits num den := rfl

/-- Rounding does not fall below a power of two that the quotient has reached. -/
theorem pow_le_roundToUnits {bits : Nat} (hbits : 52 ≤ bits) (h : 2 ^ bits ≤ num / den) :
    2 ^ bits ≤ roundToUnits num den := by
  have hne : num / den ≠ 0 := Nat.ne_of_gt (Nat.lt_of_lt_of_le (Nat.two_pow_pos bits) h)
  have hlog : bits ≤ (num / den).log2 := (Nat.le_log2 hne).mpr h
  have hspare : (num / den).log2 = 52 + spareBits num den := by
    unfold spareBits
    omega
  have hfloor : 2 ^ 52 ≤ num / (den * 2 ^ spareBits num den) := by
    rw [← Nat.div_div_eq_div_mul, Nat.le_div_iff_mul_le (Nat.two_pow_pos _), ← Nat.pow_add,
      ← hspare]
    exact Nat.log2_self_le hne
  calc 2 ^ bits
      ≤ 2 ^ (52 + spareBits num den) := Nat.pow_le_pow_right (by decide) (hspare ▸ hlog)
    _ = 2 ^ 52 * 2 ^ spareBits num den := Nat.pow_add _ _ _
    _ ≤ roundToUnits num den :=
      Nat.mul_le_mul_right _ (Nat.le_trans hfloor (le_roundQuotient _ _))

/-- Rounding stays below a power of two exactly if the quotient is below the middle between that
power and the number before it. -/
theorem roundToUnits_lt_iff {shift : Nat} (hden : 0 < den) (hshift : 0 < shift) :
    roundToUnits num den < 2 ^ (53 + shift) ↔ 2 * num < (2 ^ 54 - 1) * (den * 2 ^ shift) := by
  have hunit : 0 < den * 2 ^ shift := Nat.mul_pos hden (Nat.two_pow_pos shift)
  have hpow : 2 ^ (53 + shift) = 2 ^ 53 * 2 ^ shift := Nat.pow_add _ _ _
  rcases Nat.lt_trichotomy (spareBits num den) shift with hlt | heq | hgt
  · have hfloor : num / den < 2 ^ (52 + shift) := by
      refine Nat.lt_of_lt_of_le Nat.lt_log2_self (Nat.pow_le_pow_right (by decide) ?_)
      unfold spareBits at hlt
      omega
    have hnum : num < 2 ^ (52 + shift) * den := (Nat.div_lt_iff_lt_mul hden).mp hfloor
    rw [Nat.pow_add, Nat.mul_assoc, Nat.mul_comm _ den] at hnum
    refine iff_of_true ?_ (by omega)
    exact Nat.lt_of_le_of_lt (roundToUnits_le (by omega) hfloor)
      (Nat.pow_lt_pow_right (by decide) (by omega))
  · -- Only here are the bits just those that are kept, so that rounding decides.
    rw [roundToUnits_eq, heq, hpow, Nat.mul_lt_mul_right (Nat.two_pow_pos shift)]
    exact Nat.lt_succ_iff.trans (roundQuotient_le_iff_of_odd (by decide) hunit)
  · have hlog : 53 + shift ≤ (num / den).log2 := by
      unfold spareBits at hgt
      omega
    have hne : num / den ≠ 0 := by
      intro hzero
      rw [hzero, Nat.log2_zero] at hlog
      omega
    have hfloor : 2 ^ (53 + shift) ≤ num / den := (Nat.le_log2 hne).mp hlog
    have hnum : 2 ^ (53 + shift) * den ≤ num := (Nat.le_div_iff_mul_le hden).mp hfloor
    rw [hpow, Nat.mul_assoc, Nat.mul_comm _ den] at hnum
    exact iff_of_false (Nat.not_lt.mpr (pow_le_roundToUnits (by omega) hfloor)) (by omega)

/-! ## The limit -/

theorem pow_sub_pow_eq (last : Nat) :
    (2 ^ (54 + last) - 2 ^ last : ℚ) = ((2 ^ 54 - 1) * 2 ^ last : ℕ) := by
  push_cast [Nat.one_le_two_pow]
  ring

theorem one_le_pow_sub_pow (last : Nat) : (1 : ℚ) ≤ 2 ^ (54 + last) - 2 ^ last := by
  have hpos : 1 ≤ (2 ^ 54 - 1) * 2 ^ last := Nat.mul_pos (by decide) (Nat.two_pow_pos last)
  rw [pow_sub_pow_eq]
  exact Nat.one_le_cast.mpr hpos

/-- The same limit for a count of units, and for the number that it makes. -/
theorem roundToUnits_mul_lt_iff (num : Nat) (hden : 0 < den) (unit last : Nat) :
    roundToUnits (num * Nat.pow 2 unit) den < 2 ^ (53 + (unit + last + 1)) ↔
      (num : ℚ) / den < 2 ^ (54 + last) - 2 ^ last := by
  have hnum : 2 * (num * 2 ^ unit) = 2 * 2 ^ unit * num := by ring
  have hbound : (2 ^ 54 - 1) * (den * 2 ^ (unit + last + 1)) =
      2 * 2 ^ unit * ((2 ^ 54 - 1) * 2 ^ last * den) := by ring
  rw [Nat.pow_eq, roundToUnits_lt_iff hden (Nat.succ_pos _), hnum, hbound,
    Nat.mul_lt_mul_left (Nat.mul_pos Nat.two_pos (Nat.two_pow_pos unit)), pow_sub_pow_eq,
    div_lt_iff₀ (Nat.cast_pos.mpr hden), ← Nat.cast_mul, Nat.cast_lt]

namespace Binary64

/-- The least distance from zero that is rounded to an infinity. -/
def overflow : ℚ := 2 ^ 1024 - 2 ^ 970

theorem one_le_overflow : 1 ≤ overflow := one_le_pow_sub_pow 970

theorem overflow_le : overflow ≤ 10 ^ 310 := by
  have hnat : (2 : ℕ) ^ 1024 ≤ 10 ^ 310 := by decide +kernel
  have hpow : (2 : ℚ) ^ 1024 ≤ 10 ^ 310 := mod_cast hnat
  exact (sub_le_self _ (pow_nonneg zero_le_two 970)).trans hpow

/-- A quotient rounds to a finite number exactly if it is below the overflow. -/
theorem isFinite_ofUnits_iff (negative : Bool) (num : Nat) (hden : 0 < den) :
    (ofUnits negative (num * one) den).isFinite = true ↔ (num : ℚ) / den < overflow := by
  have hrange : (ofUnits negative (num * one) den).isFinite = true ↔
      roundToUnits (num * one) den < 2 ^ 2098 := by
    have hlog {n bits : Nat} (hbits : 0 < bits) : n.log2 < bits ↔ n < 2 ^ bits := by
      by_cases hzero : n = 0
      · rw [hzero, Nat.log2_zero]
        exact iff_of_true hbits (Nat.two_pow_pos bits)
      · exact Nat.log2_lt hzero
    rw [← hlog (by decide), ofUnits]
    split
    · next h => exact iff_of_true rfl h
    · next h => exact iff_of_false Bool.false_ne_true h
  rw [hrange]
  exact roundToUnits_mul_lt_iff num hden 1074 970

end Binary64

/-! ## Numerals -/

namespace Numeral

variable {n : Numeral}

theorem abs_value (n : Numeral) : |n.value| = n.digits * 10 ^ n.exponent := by
  have hsign : |(if n.negative then -1 else 1 : ℚ)| = 1 := by
    split
    · rw [abs_neg, abs_one]
    · exact abs_one
  have hscale : (0 : ℚ) ≤ 10 ^ n.exponent := zpow_nonneg (by decide) _
  rw [value, abs_mul, abs_mul, hsign, one_mul, Nat.abs_cast, abs_of_nonneg hscale]

theorem exists_digitCount {digits : Nat} (h : digits ≠ 0) :
    ∃ k, digitCount digits = k + 1 ∧ 10 ^ k ≤ digits ∧ digits < 10 ^ (k + 1) := by
  obtain ⟨k, hk⟩ : ∃ k, (Nat.toDigits 10 digits).length = k + 1 :=
    Nat.exists_eq_succ_of_ne_zero (Nat.ne_of_gt Nat.length_toDigits_pos)
  have hfits {j : Nat} (hj : 0 < j) : k + 1 ≤ j ↔ digits < 10 ^ j := by
    rw [← hk]
    exact Nat.length_toDigits_le_iff (by decide) hj
  refine ⟨k, by rw [digitCount, if_neg h, hk], ?_, (hfits k.succ_pos).mp le_rfl⟩
  cases k with
  | zero => exact Nat.one_le_iff_ne_zero.mpr h
  | succ j => exact Nat.le_of_not_lt fun hlt => Nat.not_succ_le_self _ ((hfits j.succ_pos).mpr hlt)

/-- The place of the first digit bounds the number from both sides. -/
theorem exists_abs_value_bounds (h : n.digits ≠ 0) :
    ∃ k : ℤ, (digitCount n.digits : ℤ) + n.exponent = k + 1 ∧
      10 ^ k ≤ |n.value| ∧ |n.value| < 10 ^ (k + 1) := by
  obtain ⟨k, hcount, hlow, hhigh⟩ := exists_digitCount h
  have hten : (10 : ℚ) ≠ 0 := by decide
  have hscale : (0 : ℚ) < 10 ^ n.exponent := zpow_pos (by decide) _
  refine ⟨k + n.exponent, by rw [hcount]; push_cast; ring, ?_, ?_⟩
  · rw [abs_value, zpow_add₀ hten, zpow_natCast]
    exact mul_le_mul_of_nonneg_right (mod_cast hlow) hscale.le
  · rw [abs_value, add_right_comm, zpow_add₀ hten]
    exact mul_lt_mul_of_pos_right (mod_cast hhigh) hscale

/-- Where the power of ten is worked out, rounding decides; beyond that the place of the first digit
tells the side. -/
theorem isFinite_toBinary64_iff (n : Numeral) :
    n.toBinary64.isFinite = true ↔ |n.value| < Binary64.overflow := by
  have hten : (1 : ℚ) ≤ 10 := by decide
  by_cases hzero : n.digits = 0
  · have hvalue : |n.value| = 0 := by rw [abs_value, hzero, Nat.cast_zero, zero_mul]
    rw [toBinary64, if_pos hzero, hvalue]
    exact iff_of_true rfl (lt_of_lt_of_le zero_lt_one Binary64.one_le_overflow)
  obtain ⟨k, htop, hlow, hhigh⟩ := exists_abs_value_bounds hzero
  rw [toBinary64, if_neg hzero]
  dsimp only
  rw [htop]
  split
  · next hlarge =>
    have hpow : (10 : ℚ) ^ (310 : ℤ) ≤ 10 ^ k := zpow_le_zpow_right₀ hten (by omega)
    exact iff_of_false Bool.false_ne_true
      (not_lt.mpr ((Binary64.overflow_le.trans hpow).trans hlow))
  · split
    · next hsmall =>
      have hpow : (10 : ℚ) ^ (k + 1) ≤ 10 ^ (0 : ℤ) := zpow_le_zpow_right₀ hten (by omega)
      rw [zpow_zero] at hpow
      exact iff_of_true rfl (hhigh.trans_le (hpow.trans Binary64.one_le_overflow))
    · split
      · next hwhole =>
        obtain ⟨e, he⟩ := Int.eq_ofNat_of_zero_le hwhole
        rw [Binary64.isFinite_ofUnits_iff _ _ Nat.one_pos, abs_value, he]
        simp
      · next hpart =>
        obtain ⟨e, he⟩ : ∃ e : Nat, n.exponent = -e := ⟨(-n.exponent).toNat, by omega⟩
        rw [Nat.pow_eq, Binary64.isFinite_ofUnits_iff _ _ (Nat.pow_pos (by decide)), abs_value, he]
        simp [div_eq_mul_inv]

end Numeral

/-- A text is accepted as a number exactly if it reads as a numeral whose nearest number is
finite. -/
theorem exists_parseNumber_iff {s : String} :
    (∃ x, parseNumber s = some x) ↔
      ∃ n, Numeral.readList? (Text.trimList s.toList) = some n ∧ n.toBinary64.isFinite = true := by
  rw [parseNumber, Numeral.read?]
  cases Numeral.readList? (Text.trimList s.toList) with
  | none => simp
  | some n => cases hn : n.toBinary64 <;> simp [hn, Binary64.isFinite]

/-- A text is accepted as a number exactly if, blanks around it aside, it is written by the rules
for decimal numbers, and the exact number that it denotes, which is the only one, is less than half
a unit of the last place beyond the finite numbers of the format. -/
theorem parseNumber_accepts_iff (s : String) :
    (∀ q q', Numeral.Denotes (Text.trimList s.toList) q →
      Numeral.Denotes (Text.trimList s.toList) q' → q = q') ∧
    ((∃ x, parseNumber s = some x) ↔
      ∃ q, Numeral.Denotes (Text.trimList s.toList) q ∧ |q| < Binary64.overflow) := by
  refine ⟨fun q q' hq hq' => hq.unique hq', exists_parseNumber_iff.trans ⟨?_, ?_⟩⟩
  · rintro ⟨n, hread, hfinite⟩
    exact ⟨n.value, Numeral.denotes_of_readList? hread, n.isFinite_toBinary64_iff.mp hfinite⟩
  · rintro ⟨q, hdenotes, hlimit⟩
    obtain ⟨n, hread, rfl⟩ := hdenotes.exists_readList?
    exact ⟨n, hread, n.isFinite_toBinary64_iff.mpr hlimit⟩

end SlashLine
