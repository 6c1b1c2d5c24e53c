import DramScheduler.Proofs.Traffic.Addresses
import Mathlib.Data.FinEnum
import Mathlib.Data.LawfulXor.Basic
import Mathlib.Dynamics.PeriodicPts.Lemmas

/-!
# Chance does not run out

The shift-register generator cannot leave zero, so it is of use only as long as it does not get
there. Each of its stages lays a shifted copy of a word over the word. The bits that fall off are
lost to the copy only: two words that become the same differ by a word that is its own shift, and
shifting that one on and on leaves nothing of it. So no stage takes two words to one, whichever way
it shifts and however far, if it shifts at all.

A step takes no two states to one either, so the states go round. Zero goes round by itself, no
other state gets there, and generators in different states never meet.

All masters of a run are given the same seed. Each lays a multiple of its number over it and sets
the lowest bit, so that its state is not zero, whatever the seed. The multiples of two numbers
differ in more than that bit, unless the numbers are more than `2 ^ 59` apart.

## Main results

* `Shifts.xor_injective` — no stage takes two words to one;
* `xorshift_injective`, `iterate_xorshift_eq_zero_iff`, `exists_iterate_xorshift_eq` — neither does
  a step, zero is reached from zero only, and every state comes back;
* `Traffic.state_after` — how many steps the requests of a generator take;
* `Traffic.state_new_ne` — masters start in different states;
* `Traffic.new_neverDegenerates` — the chance of every generator, draw by draw.
-/

namespace DramScheduler

/-! ### Stages -/

section Stages

variable {width places : Nat} {shift : BitVec width → Nat → BitVec width}

/-- A way of shifting words: by one distance after another, bit by bit, and out in the end. Both
directions are instances. -/
structure Shifts (shift : BitVec width → Nat → BitVec width) : Prop where
  /-- Shifts add up. -/
  add : ∀ x m n, shift x (m + n) = shift (shift x m) n
  /-- Every bit is shifted by itself. -/
  xor : ∀ x y n, shift (x ^^^ y) n = shift x n ^^^ shift y n
  /-- Nothing of a word is left in the end. -/
  out : ∀ x n, width ≤ n → shift x n = 0

namespace Shifts

/-- Shifting up is one. -/
theorem left : Shifts fun (x : BitVec width) n => x <<< n where
  add := BitVec.shiftLeft_add
  xor := BitVec.shiftLeft_xor_distrib
  out _ _ := BitVec.shiftLeft_eq_zero

/-- Shifting down is one. -/
theorem right : Shifts fun (x : BitVec width) n => x >>> n where
  add := BitVec.shiftRight_add
  xor := BitVec.ushiftRight_xor_distrib
  out _ _ := BitVec.ushiftRight_eq_zero

/-- A word that is its own shift is zero. It is its own shift for every multiple of the distance,
and nothing is left of that. -/
theorem eq_zero_of_fixed (shifts : Shifts shift) (moves : 0 < places) {x : BitVec width}
    (fixed : shift x places = x) : x = 0 := by
  have stays : ∀ n, shift x (places * (n + 1)) = x := by
    intro n
    induction n with
    | zero => rwa [Nat.zero_add, Nat.mul_one]
    | succ n ih => rw [Nat.mul_succ, shifts.add, ih, fixed]
  have far : width ≤ places * (width + 1) :=
    (Nat.le_succ width).trans (Nat.le_mul_of_pos_left _ moves)
  rw [← stays width]
  exact shifts.out x _ far

/-- **A word can be told from what it becomes** when its shift is laid over it. Two words that
become the same differ by one that is its own shift. -/
theorem xor_injective (shifts : Shifts shift) (moves : 0 < places) :
    Function.Injective fun x => x ^^^ shift x places := by
  intro x y (same : x ^^^ shift x places = y ^^^ shift y places)
  have fixed : shift (x ^^^ y) places = x ^^^ y := by
    calc shift (x ^^^ y) places
        = x ^^^ (x ^^^ shift x places) ^^^ shift y places := by rw [xor_cancel_left, shifts.xor]
      _ = x ^^^ (y ^^^ shift y places ^^^ shift y places) := by rw [same, xor_assoc]
      _ = x ^^^ y := by rw [xor_cancel_right]
  exact xor_eq_zero_iff.1 (shifts.eq_zero_of_fixed moves fixed)

end Shifts

end Stages

/-! ### Steps -/

section Steps

variable {x y : UInt64}

/-- Zero cannot be left. -/
theorem xorshift_zero : xorshift 0 = 0 := by
  decide

/-- **A step takes no two states to one**, because none of its three stages does. The stages shift
by different distances and in both directions. -/
theorem xorshift_injective : Function.Injective xorshift := by
  have first : Function.Injective fun x : BitVec 64 => x ^^^ (x <<< 13) :=
    Shifts.left.xor_injective (by decide)
  have second : Function.Injective fun x : BitVec 64 => x ^^^ (x >>> 7) :=
    Shifts.right.xor_injective (by decide)
  have third : Function.Injective fun x : BitVec 64 => x ^^^ (x <<< 17) :=
    Shifts.left.xor_injective (by decide)
  intro x y same
  -- on the bits of a word the three stages are what a step does
  have bits := congrArg UInt64.toBitVec same
  exact UInt64.toBitVec_inj.1 (third.comp (second.comp first) bits)

/-- Neither do any number of steps. -/
theorem iterate_xorshift_eq_iff (n : Nat) : xorshift^[n] x = xorshift^[n] y ↔ x = y :=
  (xorshift_injective.iterate n).eq_iff

/-- Zero is reached from zero only. -/
theorem iterate_xorshift_eq_zero_iff (n : Nat) : xorshift^[n] x = 0 ↔ x = 0 := by
  have stays : xorshift^[n] 0 = 0 := Function.iterate_fixed xorshift_zero n
  calc xorshift^[n] x = 0 ↔ xorshift^[n] x = xorshift^[n] 0 := by rw [stays]
    _ ↔ x = 0 := iterate_xorshift_eq_iff n

/-- Every state comes back: there are finitely many, and no two lead to one. -/
theorem exists_iterate_xorshift_eq (x : UInt64) : ∃ period > 0, xorshift^[period] x = x :=
  xorshift_injective.mem_periodicPts x

end Steps

/-! ### Generators -/

/-- How many draws a request takes: up to three for its location, and one for its direction. -/
def TrafficPattern.draws : TrafficPattern → Nat
  | random => 4
  | sequential | rowConflict => 1

namespace Traffic

variable {t : Traffic} {master other : Nat}

/-- The generator after draws below the given bounds. -/
def drawn (t : Traffic) (bounds : List Nat) : Traffic :=
  bounds.foldl (fun t bound => (t.draw bound).2) t

/-- A draw is one step, whatever its bound. -/
theorem state_drawn (t : Traffic) (bounds : List Nat) :
    (t.drawn bounds).state = xorshift^[bounds.length] t.state := by
  induction bounds generalizing t with
  | nil => rfl
  | cons bound rest ih => exact ih (t.draw bound).2

/-- A request takes as many steps as its pattern draws. -/
theorem state_next (t : Traffic) (c : Config) :
    (t.next c).2.state = xorshift^[t.pattern.draws] t.state := by
  rw [next, location]
  cases t.pattern with
  | sequential => rfl
  | random => rfl
  | rowConflict => rfl

/-- Requests take equally many steps each, as many as the pattern draws. -/
theorem state_after (t : Traffic) (c : Config) (n : Nat) :
    (t.after c n).state = xorshift^[t.pattern.draws * n] t.state := by
  induction n with
  | zero => rfl
  | succ n ih =>
    obtain ⟨state, shown⟩ := t.after_eq c n
    have pattern : (t.after c n).pattern = t.pattern := by rw [shown]
    rw [after, state_next, pattern, ih, ← Function.iterate_add_apply, Nat.mul_succ, Nat.add_comm]

/-- What is certain of the state of a generator, whatever is drawn from it and for whichever
configuration. -/
structure NeverDegenerates (t : Traffic) : Prop where
  /-- A draw is one step, whatever its bound. -/
  state_drawn : ∀ bounds, (t.drawn bounds).state = xorshift^[bounds.length] t.state
  /-- Requests take equally many steps each. -/
  state_after : ∀ c n, (t.after c n).state = xorshift^[t.pattern.draws * n] t.state
  /-- No steps lead to the state that cannot be left. -/
  iterate_ne_zero : ∀ n, xorshift^[n] t.state ≠ 0
  /-- The state comes back. -/
  recurs : ∃ period > 0, xorshift^[period] t.state = t.state

/-- Two generators that have drawn equally often are in the same state only if they were from the
start. -/
structure StaysApart (t u : Traffic) : Prop where
  /-- This is so draw by draw, whatever the bounds. -/
  drawn_eq_iff : ∀ bounds bounds', bounds.length = bounds'.length →
    ((t.drawn bounds).state = (u.drawn bounds').state ↔ t.state = u.state)
  /-- And it is so request by request, for patterns with equally many draws. -/
  after_eq_iff : t.pattern.draws = u.pattern.draws → ∀ c c' n,
    ((t.after c n).state = (u.after c' n).state ↔ t.state = u.state)

/-- A generator whose state is not zero never degenerates. -/
theorem neverDegenerates (start : t.state ≠ 0) : t.NeverDegenerates where
  state_drawn := t.state_drawn
  state_after := t.state_after
  iterate_ne_zero n := mt (iterate_xorshift_eq_zero_iff n).1 start
  recurs := exists_iterate_xorshift_eq t.state

/-- Any two generators stay apart, since steps take no two states to one. -/
theorem staysApart (t u : Traffic) : t.StaysApart u where
  drawn_eq_iff bounds bounds' long := by
    rw [state_drawn, state_drawn, long]
    exact iterate_xorshift_eq_iff _
  after_eq_iff draws c c' n := by
    rw [state_after, state_after, draws]
    exact iterate_xorshift_eq_iff _

/-! ### Where a generator starts -/

/-- The lowest bit is set, so no generator starts at zero. -/
theorem state_new_ne_zero (pattern : TrafficPattern) (master : Nat) (seed : UInt64)
    (writes : Nat) : (new pattern master seed writes).state ≠ 0 := by
  intro zero
  obtain ⟨-, bit⟩ := UInt64.or_eq_zero_iff.1 zero
  exact absurd bit (by decide)

section Masters

variable {i j : Nat}

/-- The word that undoes a multiplication by the step from seed to seed. -/
def seedStepInverse : UInt64 := 0xF1DE83E19937733D

/-- A multiplication by the step can be undone, since the step is odd. -/
theorem mul_seedStep_mul_inverse (x : UInt64) : x * seedStep * seedStepInverse = x := by
  rw [UInt64.mul_assoc, show seedStep * seedStepInverse = 1 by decide, UInt64.mul_one]

/-- Near numbers are words. -/
theorem toNat_ofNat_of_near (near : i ≤ 2 ^ 59) : (UInt64.ofNat i).toNat = i :=
  UInt64.toNat_ofNat_of_lt (Nat.lt_of_le_of_lt near (by decide))

/-- Multiples of near numbers are not next to each other: the numbers of which the multiples are lie
as far apart as the inverse. -/
theorem mul_seedStep_ne_add_one (first : i ≤ 2 ^ 59) (second : j ≤ 2 ^ 59) :
    UInt64.ofNat i * seedStep ≠ UInt64.ofNat j * seedStep + 1 := by
  intro next
  have apart : UInt64.ofNat i = UInt64.ofNat j + seedStepInverse := by
    rw [← mul_seedStep_mul_inverse (UInt64.ofNat i), next, UInt64.add_mul,
      mul_seedStep_mul_inverse, UInt64.one_mul]
  have far := congrArg UInt64.toNat apart
  have inverse : seedStepInverse.toNat = 17428512612931826493 := rfl
  rw [UInt64.toNat_add, toNat_ofNat_of_near first, toNat_ofNat_of_near second, inverse] at far
  omega

/-- Words that agree above the lowest bit are neighbours if they are not the same. -/
theorem eq_or_next_of_shiftRight_eq {x y : UInt64} (same : x >>> 1 = y >>> 1) :
    x = y ∨ x = y + 1 ∨ y = x + 1 := by
  have halves : x.toNat >>> 1 = y.toNat >>> 1 := congrArg UInt64.toNat same
  rw [Nat.shiftRight_eq_div_pow, Nat.shiftRight_eq_div_pow] at halves
  have above := x.toNat_lt
  have below := y.toNat_lt
  rw [← UInt64.toNat_inj, ← UInt64.toNat_inj, ← UInt64.toNat_inj, UInt64.toNat_add,
    UInt64.toNat_add, UInt64.toNat_one]
  omega

/-- Multiples of near numbers differ in more than the lowest bit. -/
theorem eq_of_mul_seedStep_shiftRight_eq (first : i ≤ 2 ^ 59) (second : j ≤ 2 ^ 59)
    (same : (UInt64.ofNat i * seedStep) >>> 1 = (UInt64.ofNat j * seedStep) >>> 1) : i = j := by
  obtain equal | next | next := eq_or_next_of_shiftRight_eq same
  · rw [← toNat_ofNat_of_near first, ← toNat_ofNat_of_near second,
      ← mul_seedStep_mul_inverse (UInt64.ofNat i), equal, mul_seedStep_mul_inverse]
  · exact absurd next (mul_seedStep_ne_add_one first second)
  · exact absurd next (mul_seedStep_ne_add_one second first)

/-- **Masters start in different states**, for every seed. Setting the lowest bit could make two
states equal only if the multiples were next to each other. -/
theorem state_new_ne (near : master < 2 ^ 59) (near' : other < 2 ^ 59) (differ : other ≠ master)
    (pattern pattern' : TrafficPattern) (seed : UInt64) (writes writes' : Nat) :
    (new pattern' other seed writes').state ≠ (new pattern master seed writes).state := by
  intro same
  have above : ∀ number, ((seed ^^^ (UInt64.ofNat number * seedStep)) ||| 1) >>> 1 =
      (seed >>> 1) ^^^ ((UInt64.ofNat number * seedStep) >>> 1) := by
    intro number
    rw [UInt64.shiftRight_or, UInt64.shiftRight_xor]
    exact UInt64.or_zero
  have shifted := congrArg (fun x : UInt64 => x >>> 1) same
  dsimp only [new] at shifted
  rw [above, above, UInt64.xor_right_inj] at shifted
  have numbered := eq_of_mul_seedStep_shiftRight_eq near' near shifted
  exact differ (Nat.succ.inj numbered)

end Masters

/-- **The chance of traffic never degenerates.** A step takes no two states to one, so generators in
different states stay apart, and none gets to zero, because none starts there. -/
theorem new_neverDegenerates :
    Function.Injective xorshift ∧ (∀ t u : Traffic, t.StaysApart u) ∧
      ∀ pattern master seed writes,
        (new pattern master seed writes).NeverDegenerates ∧
        (master + 1 < 2 ^ 64 →
          newM pattern master seed writes = .ok (new pattern master seed writes)) ∧
        (master < 2 ^ 59 → ∀ other < 2 ^ 59, other ≠ master → ∀ pattern' writes',
          (new pattern' other seed writes').state ≠ (new pattern master seed writes).state) := by
  refine ⟨xorshift_injective, staysApart, fun pattern master seed writes => ⟨?_, ?_, ?_⟩⟩
  · exact neverDegenerates (state_new_ne_zero pattern master seed writes)
  · intro counted
    exact newM_eq_ok counted pattern seed writes
  · intro near other near' differ pattern' writes'
    exact state_new_ne near near' differ pattern pattern' seed writes writes'

-- the multiple of the last master of all is zero, and with a seed of zero one bit is left
example : (new .random (2 ^ 64 - 1) 0 50).state = 1 := by decide

end Traffic

end DramScheduler
