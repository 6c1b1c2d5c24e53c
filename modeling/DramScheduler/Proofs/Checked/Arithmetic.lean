import Mathlib.Algebra.Group.Nat.Defs
import Mathlib.Data.List.Basic

/-!
# Arithmetic that can fail

The scheduler is defined over natural numbers and total lists. What carries it out has words of 32
and 64 bits and lists with ends, and stops with a `Fault` where an operation has no result: a sum
that needs more bits than its word has, a difference below zero, a shift by the width of the word or
more, a division by zero, an entry past the end of a list.

Functions whose names end in `M` carry out a function of the scheduler with these operations, in the
order in which the hardware does. Beside each stands a lemma that it comes to the same result as the
function itself, with the conditions under which none of its operations fails.

## Main definitions

* `Checked` — a result, or the fault that prevents it;
* `Checked.add`, `Checked.sub`, `Checked.mul`, `Checked.shiftLeft`, `Checked.shiftRight`,
  `Checked.rem`, `Checked.div`, `Checked.get`, `Checked.modify` — the operations that can fail;
* `Checked.raise`, `Checked.lower` — counters of events.

## Main results

* `Checked.mapM_eq_ok`, `Checked.mapM_zipIdx_eq_ok`, `Checked.foldlM_eq_ok` — loops whose every turn
  has a result;
* `Checked.getElem?_foldl_modify` — what a loop of writes leaves at a place.
-/

namespace DramScheduler

/-- Why an operation has no result. The program stops there, so a cycle with a fault is one that is
never completed. -/
inductive Fault where
  /-- A sum or a product does not fit its word. -/
  | overflow
  /-- A difference is below zero. -/
  | underflow
  /-- A word is shifted by its width or more. -/
  | shift
  /-- A divisor is zero. -/
  | division
  /-- There is no such entry. -/
  | index
  deriving DecidableEq, Repr

/-- A result, or the fault that prevents it. All arithmetic of the machines is carried out with it
once more. -/
abbrev Checked (α : Type) := Except Fault α

namespace Checked

variable {α β σ : Type} {width a b n i : Nat}

/-! ### Operations -/

/-- The sum of two words, if it is one itself. -/
def add (width a b : Nat) : Checked Nat :=
  if a + b < 2 ^ width then .ok (a + b) else .error .overflow

/-- The difference of two words, which has to be a natural number. There are no words below zero. -/
def sub (a b : Nat) : Checked Nat :=
  if b ≤ a then .ok (a - b) else .error .underflow

/-- The product of two words, if it is one itself. -/
def mul (width a b : Nat) : Checked Nat :=
  if a * b < 2 ^ width then .ok (a * b) else .error .overflow

/-- A word shifted up; the bits that leave it are lost, and the number of places has to be below its
width. -/
def shiftLeft (width a n : Nat) : Checked Nat :=
  if n < width then .ok (a <<< n % 2 ^ width) else .error .shift

/-- A word shifted down, by less than its width. -/
def shiftRight (width a n : Nat) : Checked Nat :=
  if n < width then .ok (a >>> n) else .error .shift

/-- A counter that goes up by one if something happened. -/
def raise (width counter : Nat) (event : Bool) : Checked Nat :=
  if event then add width counter 1 else .ok counter

/-- A counter that goes down by one if something happened. -/
def lower (counter : Nat) (event : Bool) : Checked Nat :=
  if event then sub counter 1 else .ok counter

/-- The remainder of a division. -/
def rem (a b : Nat) : Checked Nat :=
  if b = 0 then .error .division else .ok (a % b)

/-- The quotient of a division, rounded down. -/
def div (a b : Nat) : Checked Nat :=
  if b = 0 then .error .division else .ok (a / b)

/-- An entry of a list, which has to be there. -/
def get (l : List α) (i : Nat) : Checked α :=
  match l[i]? with
  | some a => .ok a
  | none => .error .index

/-- A list with one entry changed, which has to be there. -/
def modify (l : List α) (i : Nat) (f : α → α) : Checked (List α) :=
  if i < l.length then .ok (l.modify i f) else .error .index

/-- The mask of the lowest bits of a word, made by a shift and a difference; all of the bits at once
cannot be masked that way. -/
def mask (width n : Nat) : Checked Nat := do
  sub (← shiftLeft width 1 n) 1

/-! ### When they have a result -/

/-- What follows an operation with a result is carried on with the result. -/
theorem ok_bind (a : α) (f : α → Checked β) : (Except.ok a >>= f) = f a :=
  rfl

/-- A sum that fits has a result. -/
theorem add_eq_ok (fits : a + b < 2 ^ width) : add width a b = .ok (a + b) :=
  if_pos fits

/-- A difference that is not below zero has a result. -/
theorem sub_eq_ok (le : b ≤ a) : sub a b = .ok (a - b) :=
  if_pos le

/-- A product that fits has a result. -/
theorem mul_eq_ok (fits : a * b < 2 ^ width) : mul width a b = .ok (a * b) :=
  if_pos fits

/-- A counter goes up without a fault if there is room for one more, in case there is one. -/
theorem raise_eq_ok {counter : Nat} {event : Bool}
    (fits : event = true → counter + 1 < 2 ^ width) :
    raise width counter event = .ok (counter + event.toNat) := by
  cases event with
  | false => rfl
  | true => exact add_eq_ok (fits rfl)

/-- A counter goes down without a fault if it is not zero, in case there is something to take
off. -/
theorem lower_eq_ok {counter : Nat} {event : Bool} (positive : event = true → 1 ≤ counter) :
    lower counter event = .ok (counter - event.toNat) := by
  cases event with
  | false => rfl
  | true => exact sub_eq_ok (positive rfl)

/-- A shift by less than the width has a result. -/
theorem shiftLeft_eq_ok (narrow : n < width) :
    shiftLeft width a n = .ok (a <<< n % 2 ^ width) :=
  if_pos narrow

/-- A shift by less than the width has a result. -/
theorem shiftRight_eq_ok (narrow : n < width) : shiftRight width a n = .ok (a >>> n) :=
  if_pos narrow

/-- A remainder by a positive number has a result. -/
theorem rem_eq_ok (positive : 0 < b) : rem a b = .ok (a % b) :=
  if_neg (Nat.ne_of_gt positive)

/-- A quotient by a positive number has a result. -/
theorem div_eq_ok (positive : 0 < b) : div a b = .ok (a / b) :=
  if_neg (Nat.ne_of_gt positive)

/-- An entry that is there is found. -/
theorem get_eq_ok {l : List α} {a : α} (found : l[i]? = some a) : get l i = .ok a := by
  rw [get, found]

/-- An entry that is there can be changed. -/
theorem modify_eq_ok {l : List α} (inRange : i < l.length) (f : α → α) :
    modify l i f = .ok (l.modify i f) :=
  if_pos inRange

/-- The mask of fewer bits than a word has is the number of their values less one. -/
theorem mask_eq_ok (narrow : n < width) : mask width n = .ok (2 ^ n - 1) := by
  have fits : 2 ^ n < 2 ^ width := Nat.pow_lt_pow_right (by decide) narrow
  rw [mask, shiftLeft_eq_ok narrow, ok_bind, Nat.one_shiftLeft, Nat.mod_eq_of_lt fits,
    sub_eq_ok (Nat.one_le_two_pow)]

/-! ### Loops -/

/-- A loop that has a result for every member of a list. Induction on the list. -/
theorem mapM_eq_ok {f : α → Checked β} {g : α → β} {l : List α}
    (each : ∀ a ∈ l, f a = .ok (g a)) : l.mapM f = .ok (l.map g) := by
  induction l with
  | nil => rfl
  | cons a rest ih =>
    rw [List.mapM_cons, each a List.mem_cons_self, ok_bind,
      ih fun other mem => each other (List.mem_cons_of_mem _ mem)]
    rfl

/-- A loop that has a result for every member of a list and its number. Induction on the list, from
any number on. -/
theorem mapM_zipIdx_eq_ok {f : α × Nat → Checked β} {g : Nat → α → β} {l : List α}
    (each : ∀ i a, l[i]? = some a → f (a, i) = .ok (g i a)) :
    l.zipIdx.mapM f = .ok (l.mapIdx g) := by
  rw [List.mapIdx_eq_zipIdx_map]
  refine mapM_eq_ok fun numbered mem => ?_
  exact each numbered.2 numbered.1 (List.mem_zipIdx_iff_getElem?.1 mem)

/-- A loop that keeps what each of its turns relies on has a result. Induction on the turns, carried
by the property that they keep. -/
theorem foldlM_eq_ok {f : σ → α → Checked σ} {g : σ → α → σ} {P : σ → Prop} {l : List α}
    (each : ∀ s, P s → ∀ a ∈ l, f s a = .ok (g s a) ∧ P (g s a)) {s : σ} (start : P s) :
    l.foldlM f s = .ok (l.foldl g s) := by
  induction l generalizing s with
  | nil => rfl
  | cons a rest ih =>
    obtain ⟨turn, kept⟩ := each s start a List.mem_cons_self
    rw [List.foldlM_cons, turn, ok_bind, List.foldl_cons]
    exact ih (fun s before other mem => each s before other (List.mem_cons_of_mem _ mem)) kept

/-! ### Loops of writes -/

/-- **Each place sees the writes to it**, in their order. The writes to other places do not matter
to it. -/
theorem getElem?_foldl_modify (place : α → Nat) (change : α → β → β) (writes : List α)
    (entries : List β) (i : Nat) :
    (writes.foldl (fun now a => now.modify (place a) (change a)) entries)[i]? =
      entries[i]?.map fun b =>
        (writes.filter fun a => place a == i).foldl (fun now a => change a now) b := by
  induction writes generalizing entries with
  | nil => simp
  | cons a rest ih =>
    rw [List.foldl_cons, ih, List.getElem?_modify, Option.map_eq_map, Option.map_map,
      List.filter_cons]
    refine congrArg (Option.map · _) (funext fun b => ?_)
    by_cases here : place a = i
    · simp [here]
    · simp [here]

/-- A place that is only given one value has it, once it is given it at all, in whatever order the
writes come. -/
theorem foldl_eq_of_agree {value : α → β} {v : β} {writes : List α}
    (agree : ∀ a ∈ writes, value a = v) (b : β) :
    writes.foldl (fun _ a => value a) b = if writes.isEmpty then b else v := by
  induction writes generalizing b with
  | nil => rfl
  | cons a rest ih =>
    rw [List.foldl_cons, ih fun other mem => agree other (List.mem_cons_of_mem _ mem),
      agree a List.mem_cons_self]
    cases rest <;> rfl

/-- A place that is only ever set is set if it was, or if one of the writes sets it. -/
theorem foldl_or (value : α → Bool) (writes : List α) (b : Bool) :
    writes.foldl (fun now a => now || value a) b = (b || writes.any value) := by
  induction writes generalizing b with
  | nil => exact (Bool.or_false b).symm
  | cons a rest ih => rw [List.foldl_cons, ih, List.any_cons, Bool.or_assoc]

end Checked

end DramScheduler
