import Mathlib.Algebra.Order.Field.Power
import Mathlib.Data.Nat.Digits.Defs
import Mathlib.Tactic.FieldSimp
import Mathlib.Tactic.Ring
import SlashLine.Numeric.Numeral

/-!
# Decimal numbers as they are written

A number is written as a sign, digits with or without a point, and a power of ten. The rules say
what such a text denotes, an exact rational number, and nothing about how it is read. Reading finds
the parts one after the other, each as long as it can be; none of them can be followed by what would
make it longer, so reading and the rules agree.

* `Numeral.Denotes`: the number that a text denotes.
* `Numeral.takeSign_spelled`, `Numeral.takeDigits_spelled`, `Numeral.MantissaSpelled.exists_take`,
  `Numeral.PowerSpelled.readExponent?`: each part is read as it is spelled.
* `Numeral.denotes_of_readList?`, `Numeral.Denotes.exists_readList?`: the numeral that is read has
  the value that the text denotes.
* `Numeral.Denotes.unique`: a text denotes one number at most.
-/

namespace SlashLine.Numeral

/-! ## Rules for writing -/

/-- A sign, or none. -/
inductive SignSpelled : List Char → Bool → Prop
  | absent : SignSpelled [] false
  | plus : SignSpelled ['+'] false
  | minus : SignSpelled ['-'] true

/-- Digits one after the other, each of any script. -/
def DigitsSpelled (cs : List Char) (ds : List Nat) : Prop :=
  List.Forall₂ (fun c d => Text.digit? c = some d) cs ds

/-- Digits, which a point and more digits may follow, or a point and digits. -/
inductive MantissaSpelled : List Char → List Nat → List Nat → Prop
  | whole {cs : List Char} {ds : List Nat} (hwhole : DigitsSpelled cs ds) (hne : ds ≠ []) :
      MantissaSpelled cs ds []
  | pointed {cs fs : List Char} {ds es : List Nat} (hwhole : DigitsSpelled cs ds) (hne : ds ≠ [])
      (hfraction : DigitsSpelled fs es) : MantissaSpelled (cs ++ '.' :: fs) ds es
  | fraction {fs : List Char} {es : List Nat} (hfraction : DigitsSpelled fs es) (hne : es ≠ []) :
      MantissaSpelled ('.' :: fs) [] es

/-- The whole number with the given decimal digits, the most significant one first. -/
def wholeOf (ds : List Nat) : Nat := Nat.ofDigits 10 ds.reverse

/-- A power of ten: `e` or `E`, a sign and digits, or nothing. -/
inductive PowerSpelled : List Char → Int → Prop
  | absent : PowerSpelled [] 0
  | given {mark : Char} {sign cs : List Char} {negative : Bool} {ds : List Nat}
      (hmark : mark = 'e' ∨ mark = 'E') (hsign : SignSpelled sign negative)
      (hdigits : DigitsSpelled cs ds) (hne : ds ≠ []) :
      PowerSpelled (mark :: (sign ++ cs)) (if negative then -(wholeOf ds : Int) else wholeOf ds)

/-- The number that a text denotes. -/
inductive Denotes : List Char → ℚ → Prop
  | intro {sign mantissa power : List Char} {negative : Bool} {whole fraction : List Nat}
      {exponent : Int} (hsign : SignSpelled sign negative)
      (hmantissa : MantissaSpelled mantissa whole fraction)
      (hpower : PowerSpelled power exponent) :
      Denotes (sign ++ (mantissa ++ power))
        ((if negative then -1 else 1) *
          (wholeOf whole + wholeOf fraction / 10 ^ fraction.length) * 10 ^ exponent)

/-! ## Signs and digits -/

variable {cs rest tail : List Char} {ds whole fraction : List Nat} {negative : Bool}
  {exponent : Int}

/-- No sign comes first. -/
def NoSign (cs : List Char) : Prop := ∀ c ∈ cs.head?, c ≠ '-' ∧ c ≠ '+'

theorem takeSign_spelled (h : SignSpelled cs negative) (hrest : NoSign rest) :
    takeSign (cs ++ rest) = (negative, rest) := by
  cases h with
  | absent =>
    cases rest with
    | nil => rfl
    | cons c rest =>
      obtain ⟨hminus, hplus⟩ := hrest c rfl
      unfold takeSign
      split
      · next heq => exact absurd (List.cons.inj heq).1 hminus
      · next heq => exact absurd (List.cons.inj heq).1 hplus
      · rfl
  | plus => rfl
  | minus => rfl

theorem exists_signSpelled (h : takeSign cs = (negative, rest)) :
    ∃ sign, SignSpelled sign negative ∧ cs = sign ++ rest := by
  unfold takeSign at h
  split at h
  · cases h
    exact ⟨_, .minus, rfl⟩
  · cases h
    exact ⟨_, .plus, rfl⟩
  · cases h
    exact ⟨_, .absent, rfl⟩

theorem takeDigits_spelled (h : DigitsSpelled cs ds)
    (hrest : ∀ c ∈ rest.head?, Text.digit? c = none) : takeDigits (cs ++ rest) = (ds, rest) := by
  induction h with
  | nil =>
    cases rest with
    | nil => rfl
    | cons c rest => rw [List.nil_append, takeDigits, hrest c rfl]
  | cons hdigit hlater ih => rw [List.cons_append, takeDigits, hdigit, ih]

theorem exists_digitsSpelled (h : takeDigits cs = (ds, rest)) :
    ∃ written, DigitsSpelled written ds ∧ cs = written ++ rest := by
  induction cs generalizing ds with
  | nil =>
    cases h
    exact ⟨[], .nil, rfl⟩
  | cons c cs ih =>
    rw [takeDigits] at h
    cases hdigit : Text.digit? c with
    | none =>
      rw [hdigit] at h
      cases h
      exact ⟨[], .nil, rfl⟩
    | some d =>
      rw [hdigit] at h
      cases h
      obtain ⟨written, hwritten, hcs⟩ := ih rfl
      exact ⟨c :: written, .cons hdigit hwritten, congrArg (c :: ·) hcs⟩

/-- A digit is no sign. -/
theorem DigitsSpelled.noSign (h : DigitsSpelled cs ds) (hne : ds ≠ []) (later : List Char) :
    NoSign (cs ++ later) := by
  have hminus : Text.digit? '-' = none := by decide
  have hplus : Text.digit? '+' = none := by decide
  cases h with
  | nil => exact absurd rfl hne
  | cons hdigit hlater =>
    rintro c ⟨⟩
    refine ⟨?_, ?_⟩
    · rintro rfl
      rw [hminus] at hdigit
      cases hdigit
    · rintro rfl
      rw [hplus] at hdigit
      cases hdigit

/-- Reading counts from the most significant digit on. -/
theorem ofDigits_eq_wholeOf (ds : List Nat) : ofDigits ds = wholeOf ds := by
  have hstep : (fun d n : Nat => 10 * n + d) = fun d n => d + 10 * n :=
    funext fun d => funext fun n => Nat.add_comm _ _
  rw [ofDigits, wholeOf, List.foldl_eq_foldr_reverse, Nat.ofDigits_eq_foldr, hstep]
  rfl

/-! ## The mantissa -/

/-- Neither a digit nor a point comes first. -/
def EndsMantissa (tail : List Char) : Prop := ∀ c ∈ tail.head?, Text.digit? c = none ∧ c ≠ '.'

theorem takeFraction_of_endsMantissa (h : EndsMantissa tail) :
    takeFraction tail = ([], tail) := by
  unfold takeFraction
  split
  · exact absurd rfl (h _ rfl).2
  · rfl

namespace MantissaSpelled

/-- The two parts of a mantissa are read off its spelling, whatever ends it. -/
theorem exists_take (h : MantissaSpelled cs whole fraction) (htail : EndsMantissa tail) :
    ∃ rest, takeDigits (cs ++ tail) = (whole, rest) ∧ takeFraction rest = (fraction, tail) := by
  have hend : ∀ c ∈ tail.head?, Text.digit? c = none := fun c hc => (htail c hc).1
  have hpoint : Text.digit? '.' = none := by decide
  cases h with
  | whole hwhole hne =>
    exact ⟨tail, takeDigits_spelled hwhole hend, takeFraction_of_endsMantissa htail⟩
  | @pointed cs fs ds es hwhole hne hfraction =>
    have hrest : ∀ c ∈ ('.' :: (fs ++ tail)).head?, Text.digit? c = none := by
      rintro c ⟨⟩
      exact hpoint
    refine ⟨'.' :: (fs ++ tail), ?_, takeDigits_spelled hfraction hend⟩
    rw [List.append_assoc]
    exact takeDigits_spelled hwhole hrest
  | @fraction fs es hfraction hne =>
    refine ⟨'.' :: (fs ++ tail), ?_, takeDigits_spelled hfraction hend⟩
    rw [List.cons_append, takeDigits, hpoint]

theorem isEmpty_eq_false (h : MantissaSpelled cs whole fraction) :
    (whole.isEmpty && fraction.isEmpty) = false := by
  cases h with
  | whole hwhole hne => rw [List.isEmpty_eq_false_iff.mpr hne, Bool.false_and]
  | pointed hwhole hne hfraction => rw [List.isEmpty_eq_false_iff.mpr hne, Bool.false_and]
  | fraction hfraction hne => rw [List.isEmpty_eq_false_iff.mpr hne, Bool.and_false]

theorem noSign (h : MantissaSpelled cs whole fraction) (tail : List Char) :
    NoSign (cs ++ tail) := by
  cases h with
  | whole hwhole hne => exact hwhole.noSign hne tail
  | pointed hwhole hne hfraction =>
    rw [List.append_assoc]
    exact hwhole.noSign hne _
  | fraction hfraction hne =>
    rintro c ⟨⟩
    decide

end MantissaSpelled

/-- What is read as a mantissa is spelled as one. -/
theorem exists_mantissaSpelled (hwhole : takeDigits cs = (whole, rest))
    (hfraction : takeFraction rest = (fraction, tail))
    (hne : (whole.isEmpty && fraction.isEmpty) = false) :
    ∃ mantissa, MantissaSpelled mantissa whole fraction ∧ cs = mantissa ++ tail := by
  obtain ⟨written, hwritten, hcs⟩ := exists_digitsSpelled hwhole
  unfold takeFraction at hfraction
  split at hfraction
  · next later =>
    obtain ⟨behind, hbehind, hlater⟩ := exists_digitsSpelled hfraction
    by_cases hnone : whole = []
    · subst hnone
      cases hwritten
      refine ⟨'.' :: behind, .fraction hbehind (by simpa using hne), ?_⟩
      rw [hcs, hlater, List.nil_append, List.cons_append]
    · refine ⟨written ++ '.' :: behind, .pointed hwritten hnone hbehind, ?_⟩
      rw [hcs, hlater, List.append_assoc, List.cons_append]
  · cases hfraction
    exact ⟨written, .whole hwritten (by simpa using hne), hcs⟩

/-! ## The power of ten -/

/-- What is read as an exponent is spelled as one. -/
theorem powerSpelled_of_readExponent? (h : readExponent? cs = some exponent) :
    PowerSpelled cs exponent := by
  cases cs with
  | nil =>
    cases h
    exact .absent
  | cons mark cs =>
    obtain ⟨⟨negative, unsigned⟩, hsign⟩ : ∃ p, takeSign cs = p := ⟨_, rfl⟩
    rw [readExponent?, hsign] at h
    dsimp only at h
    split at h
    · next hmark =>
      split at h
      · cases h
      · next ds hne htake =>
        cases h
        obtain ⟨sign, hspelled, rfl⟩ := exists_signSpelled hsign
        obtain ⟨digits, hdigits, rfl⟩ := exists_digitsSpelled htake
        rw [List.append_nil, ofDigits_eq_wholeOf]
        exact .given (by simpa using hmark) hspelled hdigits hne
      · cases h
    · cases h

namespace PowerSpelled

theorem readExponent? (h : PowerSpelled cs exponent) :
    readExponent? cs = some exponent := by
  cases h with
  | absent => rfl
  | @given mark sign digits negative ds hmark hsign hdigits hne =>
    have hletter : (mark == 'e' || mark == 'E') = true := by simpa using hmark
    have hunsigned := hdigits.noSign hne []
    have htake : takeDigits (digits ++ []) = (ds, []) :=
      takeDigits_spelled hdigits fun c hc => nomatch hc
    rw [List.append_nil] at hunsigned htake
    rw [Numeral.readExponent?, if_pos hletter, takeSign_spelled hsign hunsigned]
    dsimp only
    rw [htake]
    cases ds with
    | nil => exact absurd rfl hne
    | cons d ds => rw [← ofDigits_eq_wholeOf]

theorem endsMantissa (h : PowerSpelled cs exponent) : EndsMantissa cs := by
  cases h with
  | absent => exact fun c hc => nomatch hc
  | given hmark hsign hdigits hne =>
    rintro c ⟨⟩
    rcases hmark with rfl | rfl
    · decide
    · decide

end PowerSpelled

/-! ## Numerals -/

/-- The exact number that a numeral stands for. -/
def value (n : Numeral) : ℚ := (if n.negative then -1 else 1) * n.digits * 10 ^ n.exponent

/-- The digits after the point are digits like the others, of a lower power of ten. -/
theorem value_of_parts (negative : Bool) (whole fraction : List Nat) (exponent : Int) :
    value ⟨negative, ofDigits (whole ++ fraction), exponent - fraction.length⟩ =
      (if negative then -1 else 1) * (wholeOf whole + wholeOf fraction / 10 ^ fraction.length) *
        10 ^ exponent := by
  have hdigits : ofDigits (whole ++ fraction) =
      wholeOf fraction + 10 ^ fraction.length * wholeOf whole := by
    rw [ofDigits_eq_wholeOf, wholeOf, List.reverse_append, Nat.ofDigits_append,
      List.length_reverse, wholeOf, wholeOf]
  have hten : (10 : ℚ) ≠ 0 := by decide
  rw [value, hdigits, zpow_sub₀ hten, zpow_natCast]
  push_cast
  field_simp
  ring

theorem readList?_of_parts {unsigned : List Char} (hsign : takeSign cs = (negative, unsigned))
    (hwhole : takeDigits unsigned = (whole, rest))
    (hfraction : takeFraction rest = (fraction, tail)) :
    readList? cs =
      if whole.isEmpty && fraction.isEmpty then none
      else (readExponent? tail).map fun exponent =>
        ⟨negative, ofDigits (whole ++ fraction), exponent - fraction.length⟩ := by
  unfold readList?
  rw [hsign]
  dsimp only
  rw [hwhole]
  dsimp only
  rw [hfraction]

/-- What is read denotes the value of what is read. -/
theorem denotes_of_readList? {n : Numeral} (h : readList? cs = some n) : Denotes cs n.value := by
  obtain ⟨⟨negative, unsigned⟩, hsign⟩ : ∃ p, takeSign cs = p := ⟨_, rfl⟩
  obtain ⟨⟨whole, rest⟩, hwhole⟩ : ∃ p, takeDigits unsigned = p := ⟨_, rfl⟩
  obtain ⟨⟨fraction, tail⟩, hfraction⟩ : ∃ p, takeFraction rest = p := ⟨_, rfl⟩
  rw [readList?_of_parts hsign hwhole hfraction] at h
  split at h
  · cases h
  · next hne =>
    obtain ⟨exponent, hexponent, rfl⟩ := Option.map_eq_some_iff.mp h
    obtain ⟨sign, hsigned, rfl⟩ := exists_signSpelled hsign
    obtain ⟨mantissa, hmantissa, rfl⟩ :=
      exists_mantissaSpelled hwhole hfraction (by simpa using hne)
    rw [value_of_parts]
    exact .intro hsigned hmantissa (powerSpelled_of_readExponent? hexponent)

namespace Denotes

variable {q q' : ℚ}

/-- What denotes a value is read, and as that value. -/
theorem exists_readList? (h : Denotes cs q) : ∃ n, readList? cs = some n ∧ n.value = q := by
  obtain @⟨sign, mantissa, power, negative, whole, fraction, exponent, hsign, hmantissa,
    hpower⟩ := h
  obtain ⟨rest, hwhole, hfraction⟩ := hmantissa.exists_take hpower.endsMantissa
  have hsigned := takeSign_spelled hsign (hmantissa.noSign power)
  refine ⟨_, ?_, value_of_parts negative whole fraction exponent⟩
  rw [readList?_of_parts hsigned hwhole hfraction, hmantissa.isEmpty_eq_false,
    hpower.readExponent?]
  rfl

/-- A text denotes one value at most. -/
theorem unique (h : Denotes cs q) (h' : Denotes cs q') : q = q' := by
  obtain ⟨n, hread, rfl⟩ := h.exists_readList?
  obtain ⟨n', hread', rfl⟩ := h'.exists_readList?
  rw [hread] at hread'
  cases hread'
  rfl

end Denotes

end SlashLine.Numeral
