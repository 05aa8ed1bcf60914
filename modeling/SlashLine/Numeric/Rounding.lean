/-!
# Rounding a quotient

The whole number nearest to a quotient, a half going to the even neighbour, and the nearest number
of at most 53 significant bits.

* `le_roundQuotient`, `roundQuotient_le_succ`: the result is the floor of the quotient or the next
  number.
* `significand_le`: the rounded significand has at most 53 bits, or is the next power of two.
* `log2_roundToUnits_le`: rounding goes no further than the next power of two.
-/

namespace SlashLine

/-- The whole number nearest to `num / den`; of two equally near ones the even one. -/
def roundQuotient (num den : Nat) : Nat :=
  let below := num / den
  let left := num % den
  if 2 * left < den || (2 * left == den && below % 2 == 0) then below else below + 1

/-- How many of the lowest bits of a quotient lie beyond the first 53. -/
def spareBits (num den : Nat) : Nat := (num / den).log2 - 52

/-- The leading bits of a quotient, rounded to nearest. -/
def significand (num den : Nat) : Nat :=
  roundQuotient num (den * Nat.pow 2 (spareBits num den))

/-- The number of at most 53 significant bits that is nearest to `num / den`, none of its bits
below the unit. -/
def roundToUnits (num den : Nat) : Nat := significand num den * Nat.pow 2 (spareBits num den)

/-! ## Bounds -/

theorem le_roundQuotient (num den : Nat) : num / den ≤ roundQuotient num den := by
  unfold roundQuotient; simp only; split <;> omega

theorem roundQuotient_le_succ (num den : Nat) : roundQuotient num den ≤ num / den + 1 := by
  unfold roundQuotient; simp only; split <;> omega

theorem div_lt_of_spareBits (num den : Nat) :
    num / (den * Nat.pow 2 (spareBits num den)) < Nat.pow 2 53 := by
  show num / (den * 2 ^ spareBits num den) < 2 ^ 53
  have hq : num / den < 2 ^ ((num / den).log2 + 1) := Nat.lt_log2_self
  rw [← Nat.div_div_eq_div_mul, Nat.div_lt_iff_lt_mul (Nat.two_pow_pos _), ← Nat.pow_add]
  refine Nat.lt_of_lt_of_le hq (Nat.pow_le_pow_right (by decide) ?_)
  unfold spareBits
  omega

theorem significand_le (num den : Nat) : significand num den ≤ Nat.pow 2 53 :=
  Nat.le_trans (roundQuotient_le_succ _ _) (div_lt_of_spareBits num den)

theorem mul_pow_lt {n bits : Nat} (h : n < Nat.pow 2 bits) (shift : Nat) :
    n * Nat.pow 2 shift < Nat.pow 2 (bits + shift) := by
  have hpos : 0 < Nat.pow 2 shift := Nat.two_pow_pos shift
  calc n * Nat.pow 2 shift
      < Nat.pow 2 bits * Nat.pow 2 shift := Nat.mul_lt_mul_of_pos_right h hpos
    _ = Nat.pow 2 (bits + shift) := (Nat.pow_add 2 bits shift).symm

theorem roundToUnits_le {num den bits : Nat} (hbits : 53 ≤ bits) (h : num / den < Nat.pow 2 bits) :
    roundToUnits num den ≤ Nat.pow 2 bits := by
  have hspare : spareBits num den ≤ bits - 53 := by
    have hlog : (num / den).log2 < bits := by
      by_cases hzero : num / den = 0
      · rw [hzero, Nat.log2_zero]
        omega
      · exact (Nat.log2_lt hzero).mpr h
    unfold spareBits
    omega
  calc roundToUnits num den
      ≤ Nat.pow 2 53 * Nat.pow 2 (bits - 53) :=
        Nat.mul_le_mul (significand_le num den) (Nat.pow_le_pow_right (by decide) hspare)
    _ = Nat.pow 2 bits := by
      have hsum : 53 + (bits - 53) = bits := by omega
      exact (Nat.pow_add 2 53 (bits - 53)).symm.trans (congrArg (Nat.pow 2) hsum)

theorem log2_roundToUnits_le {num den bits : Nat} (hbits : 53 ≤ bits)
    (h : num / den < Nat.pow 2 bits) : (roundToUnits num den).log2 ≤ bits := by
  by_cases hzero : roundToUnits num den = 0
  · rw [hzero, Nat.log2_zero]
    exact Nat.zero_le bits
  · have hle := roundToUnits_le hbits h
    have hlt : roundToUnits num den < 2 ^ (bits + 1) :=
      Nat.lt_of_le_of_lt hle (Nat.pow_lt_pow_right (by decide) (Nat.lt_succ_self bits))
    exact Nat.le_of_lt_succ ((Nat.log2_lt hzero).mpr hlt)

end SlashLine
