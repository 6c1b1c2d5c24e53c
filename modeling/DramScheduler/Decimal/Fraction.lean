/-!
# Exact values of floating-point numbers

A report prints numbers that were computed in floating point. To print them without a second
rounding error, a number is first turned into the fraction it stands for. Only finite numbers
that are not negative occur, because they are ratios of counts.

## Main definitions

* `Fraction.ofFloat` — the exact value of a number of 64 bits;
* `roundDiv` — a quotient rounded to the nearest whole number, a half going to the even one.

## Main results

* `roundDiv_eq_of_dvd` — a quotient without remainder is not changed;
* `two_mul_den_mul_roundDiv_le`, `le_two_mul_den_mul_roundDiv` — the rounded quotient is
  within one half of the exact one.
-/

namespace DramScheduler.Decimal

/-- The bits of a floating-point number that belong to its significand. -/
def significandBits : Nat := 52

/-- A number of 64 bits taken apart: it is `significand · 2 ^ (exponent - 1074)`. -/
structure Binary where
  /-- The significand, the hidden bit included. -/
  significand : Nat
  /-- The exponent, counted from the smallest one. -/
  exponent : Nat
  deriving DecidableEq, Repr, Inhabited

namespace Binary

/-- The places after the binary point of the finest numbers. -/
def places : Nat := 1074

/-- The parts of a finite number that is not negative. -/
def ofFloat (x : Float) : Binary :=
  let bits := x.toBits.toNat % 1 <<< 63
  let field := bits >>> significandBits
  let low := bits % 1 <<< significandBits
  if field = 0 then ⟨low, 0⟩ else ⟨1 <<< significandBits + low, field - 1⟩

/-- Whether the next lower number is only half as far away as the next higher one. -/
def isBinadeStart (b : Binary) : Bool :=
  b.significand == 1 <<< significandBits && b.exponent != 0

end Binary

/-- An exact value that is not negative. -/
structure Fraction where
  /-- The numerator. -/
  num : Nat
  /-- The denominator, which is not zero in the values of floating-point numbers. -/
  den : Nat
  deriving DecidableEq, Repr, Inhabited

namespace Fraction

/-- The fraction `n · 2 ^ exponent / 2 ^ places`. -/
def scaled (n exponent places : Nat) : Fraction :=
  if exponent < places then ⟨n, 1 <<< (places - exponent)⟩ else ⟨n <<< (exponent - places), 1⟩

/-- The exact value of a finite number that is not negative. -/
def ofFloat (x : Float) : Fraction :=
  let b := Binary.ofFloat x
  scaled b.significand b.exponent Binary.places

end Fraction

/-- A quotient rounded to the nearest whole number, a half going to the even one. -/
def roundDiv (num den : Nat) : Nat :=
  let quotient := num / den
  let twice := 2 * (num % den)
  if den < twice || (twice == den && quotient % 2 == 1) then quotient + 1 else quotient

/-- A quotient without remainder is not changed. -/
theorem roundDiv_eq_of_dvd {num den : Nat} (hden : 0 < den) (h : den ∣ num) :
    roundDiv num den = num / den := by
  have hmod : num % den = 0 := Nat.mod_eq_zero_of_dvd h
  unfold roundDiv
  rw [hmod]
  rw [if_neg]
  simp
  omega

/-- The rounded quotient is at most one half above the exact one. -/
theorem two_mul_den_mul_roundDiv_le (num den : Nat) :
    2 * (den * roundDiv num den) ≤ 2 * num + den := by
  have hdiv := Nat.div_add_mod num den
  unfold roundDiv
  dsimp only
  split
  · rename_i h
    have : den ≤ 2 * (num % den) := by
      simp only [Bool.or_eq_true, decide_eq_true_eq, Bool.and_eq_true, beq_iff_eq] at h
      omega
    rw [Nat.mul_add]
    omega
  · omega

/-- The rounded quotient is at most one half below the exact one. -/
theorem le_two_mul_den_mul_roundDiv {num den : Nat} (hden : 0 < den) :
    2 * num ≤ 2 * (den * roundDiv num den) + den := by
  have hdiv := Nat.div_add_mod num den
  have hmod := Nat.mod_lt num hden
  unfold roundDiv
  dsimp only
  split
  · rw [Nat.mul_add]
    omega
  · rename_i h
    have : 2 * (num % den) ≤ den := by
      simp only [Bool.or_eq_true, decide_eq_true_eq, Bool.and_eq_true, beq_iff_eq, not_or] at h
      omega
    omega

end DramScheduler.Decimal
