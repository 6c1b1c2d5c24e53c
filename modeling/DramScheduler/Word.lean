/-!
# 32-bit words

Configuration parameters and cycle counters are words of 32 bits. They are held as natural
numbers, so this module only fixes the places where the width can be seen: sums and
products stop at the largest word instead of wrapping, and a word has a lowest set bit.

## Main definitions

* `Word.top` — the largest word;
* `Word.add`, `Word.mul` — arithmetic that saturates at `Word.top`;
* `Word.add?` — a sum that refuses to saturate;
* `Word.trailingZeros` — the place of the lowest set bit;
* `Word.isPowerOfTwo` — the test behind rank counts and width ratios.

## Main results

* `Word.add?_eq_some_iff` — the checked sum succeeds exactly on sums that fit, and is then
  the plain sum;
* `Word.add_eq_of_le`, `Word.mul_eq_of_le` — saturation is invisible while the result fits.
-/

namespace DramScheduler.Word

/-- Bits of a word. -/
def width : Nat := 32

/-- The largest word, at which counters and derived parameters stop. -/
def top : Nat := 1 <<< width - 1

/-- Sum of two words, stopping at the largest one. A derived parameter that does not fit is then too
large for every later check instead of being small by accident. -/
def add (a b : Nat) : Nat :=
  min (a + b) top

/-- Product of two words, stopping at the largest one. -/
def mul (a b : Nat) : Nat :=
  min (a * b) top

/-- Sum of two words, or nothing when it needs more than 32 bits. -/
def add? (a b : Nat) : Option Nat :=
  if a + b ≤ top then some (a + b) else none

/-- The place of the lowest set bit of a word; the zero word has none and answers the
width. -/
def trailingZeros (n : Nat) : Nat :=
  ((List.range width).find? n.testBit).getD width

/-- Whether a word is a power of two. Zero is not one, since the power found for it is `2 ^ 0`. -/
def isPowerOfTwo (n : Nat) : Bool :=
  1 <<< n.log2 == n

/-- Division rounded up: how many groups of `b` are needed to hold `a`, as when memory clocks are
counted in cycles of several phases. -/
def divUp (a b : Nat) : Nat :=
  (a + b - 1) / b

/-- The largest word as a number. -/
theorem top_eq : top = 4294967295 := by
  decide

/-- A sum that fits is the plain one. -/
theorem add_eq_of_le {a b : Nat} (h : a + b ≤ top) : add a b = a + b :=
  Nat.min_eq_left h

/-- A product that fits is the plain one. -/
theorem mul_eq_of_le {a b : Nat} (h : a * b ≤ top) : mul a b = a * b :=
  Nat.min_eq_left h

/-- A sum is always a word. -/
theorem add_le_top (a b : Nat) : add a b ≤ top :=
  Nat.min_le_right _ _

/-- A product is always a word. -/
theorem mul_le_top (a b : Nat) : mul a b ≤ top :=
  Nat.min_le_right _ _

/-- The checked sum succeeds exactly on the sums that fit into a word, and is then the plain one. -/
theorem add?_eq_some_iff {a b c : Nat} : add? a b = some c ↔ a + b ≤ top ∧ c = a + b := by
  unfold add?
  split
  · simp_all [eq_comm]
  · simp only [reduceCtorEq, false_iff]
    omega

end DramScheduler.Word
