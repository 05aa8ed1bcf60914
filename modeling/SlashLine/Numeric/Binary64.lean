import SlashLine.Numeric.Rounding

/-!
# Binary floating-point numbers of 64 bits

A number is kept exactly: a sign and a whole count of units, one unit being 2⁻¹⁰⁷⁴, the least
positive number of the format. Every operation rounds once, to the nearest number, a half going to
the even significand.

* `representable_roundToUnits`: a rounded count within the range is one the format has.
* `ofUnits`: the result of a rounding, an infinity at the limit and beyond.
* `ofInt?_isSome`: whole numbers below the limit have a number nearest to them.
-/

namespace SlashLine

/-- The counts of units the format has: at most 53 significant bits, and no bit from the 2098th on,
which is worth 2¹⁰²⁴. -/
def IsRepresentable (units : Nat) : Prop :=
  ∃ m s, m < Nat.pow 2 53 ∧ units = m * Nat.pow 2 s ∧ units.log2 < 2098

/-- The distance of a finite number from zero, in units. -/
structure Magnitude where
  units : Nat
  representable : IsRepresentable units
  deriving DecidableEq

/-- A 64-bit floating-point number: all not-a-number patterns are one value, and the two zeros are
apart. -/
inductive Binary64 where
  | nan
  | infinite (negative : Bool)
  | finite (negative : Bool) (magnitude : Magnitude)
  deriving DecidableEq

namespace Magnitude

/-- No distance at all. -/
def zero : Magnitude := ⟨0, 0, 0, by decide, by decide, by decide⟩

instance : Inhabited Magnitude := ⟨zero⟩

/-- A power of two. -/
def power (e : Nat) (h : e < 2098) : Magnitude :=
  ⟨Nat.pow 2 e, 1, e, by decide, (Nat.one_mul _).symm, by
    rw [Nat.pow_eq, Nat.log2_two_pow]
    exact h⟩

end Magnitude

theorem representable_roundToUnits {num den : Nat} (h : (roundToUnits num den).log2 < 2098) :
    IsRepresentable (roundToUnits num den) := by
  have hle : significand num den ≤ 2 ^ 53 := significand_le num den
  by_cases heq : significand num den = 2 ^ 53
  · refine ⟨2 ^ 52, spareBits num den + 1, by decide, ?_, h⟩
    have hpow : (2 : Nat) ^ 53 = 2 ^ 52 * 2 := by decide
    rw [roundToUnits, heq, hpow, Nat.mul_assoc]
    exact congrArg _ Nat.pow_succ'.symm
  · have hlt : significand num den < 2 ^ 53 := Nat.lt_of_le_of_ne hle heq
    exact ⟨significand num den, spareBits num den, hlt, rfl, h⟩

namespace Binary64

instance : Inhabited Binary64 := ⟨nan⟩

/-- The number nearest to `num / den` units, with the given sign. -/
def ofUnits (negative : Bool) (num den : Nat) : Binary64 :=
  if h : (roundToUnits num den).log2 < 2098 then
    finite negative ⟨roundToUnits num den, representable_roundToUnits h⟩
  else infinite negative

/-- How many units make one. -/
def one : Nat := Nat.pow 2 1074

/-- One, as a distance from zero. -/
def oneMagnitude : Magnitude :=
  Magnitude.power 1074 (by decide)

/-- The number `±0`. -/
def zero (negative : Bool) : Binary64 := finite negative Magnitude.zero

/-! ## Kinds of numbers -/

/-- Neither infinite nor not a number. -/
def isFinite : Binary64 → Bool
  | finite _ _ => true
  | _ => false

/-- The signed count of units of a finite number. -/
def units? : Binary64 → Option Int
  | finite negative m => some (if negative then -(m.units : Int) else m.units)
  | _ => none

/-- A finite number without a fraction. -/
def isIntegral : Binary64 → Bool
  | finite _ m => m.units % one == 0
  | _ => false

/-- `x < y` as real numbers and infinities; false if one is not a number. -/
def lt : Binary64 → Binary64 → Bool
  | nan, _ => false
  | _, nan => false
  | infinite negative, infinite negative' => negative && !negative'
  | infinite negative, finite _ _ => negative
  | finite _ _, infinite negative => !negative
  | finite negative m, finite negative' m' =>
    (if negative then -(m.units : Int) else m.units) <
      (if negative' then -(m'.units : Int) else m'.units)

/-! ## Whole numbers -/

/-- A number, unless it is infinite. -/
def bounded? : Binary64 → Option Binary64
  | infinite _ => none
  | x => some x

/-- The number nearest to a whole number; none if that is beyond the finite ones. -/
def ofInt? (i : Int) : Option Binary64 := bounded? (ofUnits (i < 0) (i.natAbs * one) 1)

theorem isFinite_ofUnits {num den bits : Nat} (hbits : 53 ≤ bits) (hlimit : bits < 2098)
    (h : num / den < Nat.pow 2 bits) (negative : Bool) :
    (ofUnits negative num den).isFinite = true := by
  have hlog : (roundToUnits num den).log2 < 2098 :=
    Nat.lt_of_le_of_lt (log2_roundToUnits_le hbits h) hlimit
  rw [ofUnits, dif_pos hlog]
  rfl

theorem mul_one_lt {n bits : Nat} (h : n < Nat.pow 2 bits) :
    n * one < Nat.pow 2 (bits + 1074) := mul_pow_lt h _

theorem isFinite_ofUnits_mul_one {n bits : Nat} (hbits : bits < 1024) (h : n < Nat.pow 2 bits)
    (negative : Bool) : (ofUnits negative (n * one) 1).isFinite = true := by
  have hunits : n * one / 1 < Nat.pow 2 (bits + 1074) := by
    rw [Nat.div_one]
    exact mul_one_lt h
  exact isFinite_ofUnits (by omega) (by omega) hunits negative

theorem ofInt?_isSome {i : Int} {bits : Nat} (hbits : bits < 1024) (h : i.natAbs < Nat.pow 2 bits) :
    (ofInt? i).isSome = true := by
  have hfinite := isFinite_ofUnits_mul_one hbits h (i < 0)
  rw [ofInt?]
  cases hnearest : ofUnits (i < 0) (i.natAbs * one) 1 with
  | nan => rfl
  | infinite negative =>
    rw [hnearest] at hfinite
    cases hfinite
  | finite negative m => rfl

/-- Why a number has no whole part. -/
inductive NoWholePart where
  | infinite
  | notANumber
  deriving DecidableEq, Repr

/-- The whole part: the fraction is dropped, towards zero. -/
def truncate : Binary64 → Except NoWholePart Int
  | nan => .error .notANumber
  | infinite _ => .error .infinite
  | finite negative m =>
    .ok (if negative then -((m.units / one : Nat) : Int) else (m.units / one : Nat))

/-! ## Scaling by powers of two -/

/-- The product with `2 ^ n`; none from `2 ^ 1024` on, which is no number of the format. Below the
least positive number the power itself is zero. -/
def scale? (x : Binary64) (n : Int) : Option Binary64 :=
  if 1024 ≤ n then none
  else if n < -1074 then
    match x with
    | finite negative _ => some (zero negative)
    | _ => some nan
  else match x with
    | finite negative m =>
      some (if 0 ≤ n then ofUnits negative (m.units * Nat.pow 2 n.toNat) 1
        else ofUnits negative m.units (Nat.pow 2 (-n).toNat))
    | x => some x

/-! ## Bit patterns -/

/-- The bit of the sign. -/
def signBit : Nat := 0x8000000000000000

/-- The first bit of a significand of full length, the one that is not written. -/
def hiddenBit : Nat := 0x10000000000000

/-- The bit pattern: sign, eleven bits of exponent, 52 bits of fraction. -/
def toBits : Binary64 → Nat
  | nan => 0x7ff8000000000000
  | infinite negative => (if negative then signBit else 0) + 0x7ff0000000000000
  | finite negative m =>
    let spare := m.units.log2 - 52
    (if negative then signBit else 0) + spare * hiddenBit + m.units / Nat.pow 2 spare

/-- The number with a bit pattern; bits from the 65th on are ignored. -/
def ofBits (bits : Nat) : Binary64 :=
  let negative := bits / signBit % 2 == 1
  let exponent := bits / hiddenBit % 2048
  let fraction := bits % hiddenBit
  if exponent == 2047 then if fraction == 0 then infinite negative else nan
  else if exponent == 0 then ofUnits negative fraction 1
  else ofUnits negative ((hiddenBit + fraction) * Nat.pow 2 (exponent - 1)) 1

end Binary64

end SlashLine
