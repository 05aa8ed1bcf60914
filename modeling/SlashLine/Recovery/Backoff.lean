import SlashLine.Fault
import SlashLine.Numeric.Binary64

/-!
# Back-off

How long to wait before each new attempt: a base delay, doubled with every attempt.

* `Backoff.delay?`: the wait, which there is for the first 1023 attempts at least.
-/

namespace SlashLine.Recovery

/-- A base delay in seconds that is not negative. -/
structure Backoff where
  base : Binary64
  not_negative : base.lt (.zero false) = false

namespace Backoff

/-- What is said about a base delay below zero. -/
def negativeMessage : String := "base_delay cannot be negative"

/-- The back-off with a base delay, if that is not negative. -/
def create? (base : Binary64) : Option Backoff :=
  if h : base.lt (.zero false) = false then some ⟨base, h⟩ else none

/-- One second. -/
def second : Backoff where
  base := .finite false Binary64.oneMagnitude
  not_negative := by
    simp only [Binary64.lt, Binary64.zero, Magnitude.zero, decide_eq_false_iff_not, Int.not_lt]
    exact Int.natCast_nonneg _

/-- The wait before an attempt, counted from one; none if the power of two, or its exponent, is
beyond every number. -/
def delay? (b : Backoff) (attempt : Int) : Option Binary64 :=
  if (Binary64.ofInt? attempt).isNone then none else b.base.scale? attempt

theorem delay?_isSome (b : Backoff) {attempt : Nat} (h : attempt ≤ 1023) :
    (b.delay? attempt).isSome = true := by
  have hattempt : (attempt : Int).natAbs < Nat.pow 2 10 := Nat.lt_succ_of_le h
  have hint : (Binary64.ofInt? attempt).isSome = true :=
    Binary64.ofInt?_isSome (by decide) hattempt
  have hnone : ¬ (Binary64.ofInt? attempt).isNone = true := by
    obtain ⟨x, hx⟩ := Option.isSome_iff_exists.mp hint
    rw [hx]
    exact Bool.false_ne_true
  have hlimit : ¬ (1024 : Int) ≤ attempt := by omega
  have hleast : ¬ (attempt : Int) < -1074 := by omega
  rw [delay?, if_neg hnone]
  unfold Binary64.scale?
  rw [if_neg hlimit, if_neg hleast]
  cases b.base with
  | nan => rfl
  | infinite negative => rfl
  | finite negative m => rfl

/-- The fault of an attempt that has no wait. -/
def overflow : Fault := .other "OverflowError" "int too large to convert to float"

end Backoff

end SlashLine.Recovery
