import DramScheduler.Decimal.Fraction

/-!
# Decimal texts of numbers

Two ways of printing an exact value: with a fixed number of places (`fixed`), and with the
fewest digits that read back as the same floating-point number (`shortest`).

For the second way a number is known by the interval of values that round to it. One digit is
tried first, then two, and so on. For each count only the two neighbours of the value on the
grid of that many digits have to be looked at, since the interval surrounds the value and so
contains a neighbour as soon as it contains any point of the grid. The nearer of two hits is
taken, the even one if they are equally near.
-/

namespace DramScheduler.Decimal

/-- The factor that moves a decimal point by the given number of places. -/
def tenTo (places : Nat) : Nat :=
  Nat.pow 10 places

/-- A row of zeros. -/
def zeros (count : Nat) : List Char :=
  List.replicate count '0'

/-- The digits of a number, zeros put in front up to the given length. -/
def padded (length n : Nat) : List Char :=
  let digits := Nat.toDigits 10 n
  zeros (length - digits.length) ++ digits

/-- A fraction with the given number of places, at least one, rounded to the nearest and a
half to even. -/
def fixed (places : Nat) (f : Fraction) : String :=
  let n := roundDiv (f.num * tenTo places) f.den
  String.ofList (Nat.toDigits 10 (n / tenTo places) ++ '.' :: padded places (n % tenTo places))

/-! ### Shortest digits -/

/-- The number `digits · 10 ^ (scale - shift)`, the exponent given as a difference of natural
numbers. -/
structure Scientific where
  /-- The digits, read as one number. -/
  digits : Nat
  /-- Places by which the digits are moved to the left. -/
  up : Nat
  /-- Places by which the digits are moved to the right. -/
  down : Nat
  deriving DecidableEq, Repr, Inhabited

namespace Scientific

/-- Moves zeros at the end of the digits into the exponent. The first argument bounds the
number of zeros looked for. -/
def trim : Nat → Scientific → Scientific
  | 0, s => s
  | n + 1, s =>
    if s.digits % 10 == 0 && s.digits != 0 then trim n ⟨s.digits / 10, s.up + 1, s.down⟩ else s

end Scientific

/-- The values that round to a number: those between `low` and `high` in steps of
`2 ^ (exponent - 1076)`, the ends included or not. -/
structure Interval where
  low : Nat
  /-- The number itself. -/
  mid : Nat
  high : Nat
  /-- Whether the ends round to the number as well. -/
  closed : Bool
  deriving DecidableEq, Repr, Inhabited

namespace Interval

/-- The interval of a number: half a step to either side, a quarter step down to a lower
neighbour that is nearer. The ends round to the number if its significand is even. -/
def ofBinary (b : Binary) : Interval where
  low := 4 * b.significand - (if b.isBinadeStart then 1 else 2)
  mid := 4 * b.significand
  high := 4 * b.significand + 2
  closed := b.significand % 2 == 0

/-- Whether a value lies in the interval, both given on the scale of the interval. -/
def contains (i : Interval) (scale value : Nat) : Bool :=
  if i.closed then i.low * scale ≤ value && value ≤ i.high * scale
  else i.low * scale < value && value < i.high * scale

end Interval

/-- More decimal places than the leading digit of any number can lie behind the point. -/
def leadingPlaces : Nat := 330

/-- The number of digits of a fraction before a point that stands `leadingPlaces` places
further to the right. -/
def magnitude (f : Fraction) : Nat :=
  (Nat.toDigits 10 (f.num * tenTo leadingPlaces / f.den)).length

/-- The nearest number of `count` digits that lies in the interval, if one does. -/
def ofCount? (i : Interval) (exponent count : Nat) : Option Scientific :=
  let unit := Fraction.scaled 1 exponent (Binary.places + 2)
  let size := magnitude ⟨i.mid * unit.num, unit.den⟩
  let up := size - (leadingPlaces + count)
  let down := leadingPlaces + count - size
  let scale := unit.num * tenTo down
  let grid := unit.den * tenTo up
  let below := i.mid * scale / grid
  let hits := [below, below + 1].filter fun d => i.contains scale (d * grid)
  let nearest := match hits with
    | [_, _] => some (roundDiv (i.mid * scale) grid)
    | _ => hits.head?
  nearest.map fun d => Scientific.trim (count + 1) ⟨d, up, down⟩

/-- Digits that are always enough. -/
def maxDigits : Nat := 17

/-- The fewest digits that read back as the given number, which is not zero. -/
def shortest (x : Float) : Scientific :=
  let b := Binary.ofFloat x
  let i := Interval.ofBinary b
  ((List.range maxDigits).findSome? fun n => ofCount? i b.exponent (n + 1)).getD default

/-! ### Writing digits -/

/-- How numbers are written: positionally while the point stands in a given range, with an
exponent otherwise. -/
structure Style where
  /-- The most digits before the point. -/
  maxBefore : Nat
  /-- The most zeros between the point and the first digit that is not zero. -/
  maxZeros : Nat
  deriving DecidableEq, Repr, Inhabited

/-- The digits of a number with the point after the given number of them. -/
def pointAfter (count : Nat) (digits : List Char) : List Char :=
  digits.take count ++ '.' :: digits.drop count

/-- Writes a number. In positional form there is always a point with a digit on either side. -/
def Scientific.write (style : Style) (s : Scientific) : String :=
  let digits := Nat.toDigits 10 s.digits
  let count := digits.length
  let text :=
    if s.down ≤ s.up && count + (s.up - s.down) ≤ style.maxBefore then
      digits ++ zeros (s.up - s.down) ++ ['.', '0']
    else if s.down < s.up + count && s.up + count ≤ style.maxBefore + s.down then
      pointAfter (s.up + count - s.down) digits
    else if s.up + count ≤ s.down && s.down - (s.up + count) ≤ style.maxZeros then
      '0' :: '.' :: zeros (s.down - (s.up + count)) ++ digits
    else
      let mantissa := if count = 1 then digits else pointAfter 1 digits
      if s.down < s.up + count then
        mantissa ++ 'e' :: Nat.toDigits 10 (s.up + count - s.down - 1)
      else mantissa ++ 'e' :: '-' :: Nat.toDigits 10 (s.down + 1 - (s.up + count))
  String.ofList text

/-- Writes a finite number that is not negative, with the fewest digits. -/
def write (style : Style) (x : Float) : String :=
  if (Binary.ofFloat x).significand = 0 then "0.0" else (shortest x).write style

end DramScheduler.Decimal
