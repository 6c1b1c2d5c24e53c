/-!
# First in, first out

A sequence that grows at its end and shrinks at its front, with its length at hand. It is held
as two lists, the older elements in order and the later ones reversed, so that neither end has
to be reached through the whole sequence: the later ones are turned over once the older ones
have run out.

`Fifo.toList` is the sequence itself, and each operation has one lemma that says what it does
to it.

## Main results

* `Fifo.length_toList` — the length at hand is that of the sequence;
* `Fifo.toList_push`, `Fifo.toList_tail` — growing and shrinking;
* `Fifo.head?_eq` — the element in front.
-/

namespace DramScheduler

/-- A sequence that grows at its end and shrinks at its front, as a queue of requests does. Its two
halves and its length fit together by construction, so that no operation has to check them. -/
structure Fifo (α : Type) where
  /-- The older elements, the oldest first. -/
  older : List α
  /-- The later elements, the latest first. -/
  later : List α
  /-- The length at hand, so that asking for room takes no walk along the sequence. -/
  size : Nat
  /-- The number of elements is kept up to date. -/
  size_eq : size = older.length + later.length
  /-- The later elements are turned over once there are no older ones. -/
  later_eq_nil : older = [] → later = []
  deriving DecidableEq, Repr

namespace Fifo

variable {α : Type}

/-- The sequence, the oldest element first. What an operation means is said about this list. -/
def toList (q : Fifo α) : List α :=
  q.older ++ q.later.reverse

/-- The sequence of a list, whose head is the oldest element. -/
def ofList (l : List α) : Fifo α where
  older := l
  later := []
  size := l.length
  size_eq := rfl
  later_eq_nil _ := rfl

/-- The sequence without an element. -/
def empty : Fifo α :=
  ofList []

/-- An unspecified sequence is the empty one. -/
instance : Inhabited (Fifo α) := ⟨empty⟩

/-- Whether there is no element. The older half alone decides it, since the later elements are
turned over as soon as that half runs out. -/
def isEmpty (q : Fifo α) : Bool :=
  q.older.isEmpty

/-- The oldest element, if there is one. It is always at hand in the older half. -/
def head? (q : Fifo α) : Option α :=
  q.older.head?

/-- Whether some element passes a test, in either half. -/
def any (q : Fifo α) (p : α → Bool) : Bool :=
  q.older.any p || q.later.any p

/-- The sequence with an element put at its end. The first element of an empty sequence goes to the
older half, where it can be seen at once. -/
def push (q : Fifo α) (a : α) : Fifo α :=
  match h : q.older with
  | [] => ofList [a]
  | oldest :: rest =>
    { older := oldest :: rest
      later := a :: q.later
      size := q.size + 1
      size_eq := by simp [q.size_eq, h, Nat.add_assoc]
      later_eq_nil := fun hnil => nomatch hnil }

/-- The sequence without its oldest element. Taking the last one of the older half turns the later
half over, so that each element is moved once on its way through. -/
def tail (q : Fifo α) : Fifo α :=
  match h : q.older with
  | [] => q
  | [_] => ofList q.later.reverse
  | _ :: next :: rest =>
    { older := next :: rest
      later := q.later
      size := q.size - 1
      size_eq := by
        rw [q.size_eq, h]
        simp only [List.length_cons]
        omega
      later_eq_nil := fun hnil => nomatch hnil }

/-- The length at hand is that of the sequence, so that nothing has to be counted for it. -/
@[simp] theorem length_toList (q : Fifo α) : q.toList.length = q.size := by
  simp [toList, q.size_eq]

/-- A list comes back from the sequence made of it. -/
@[simp] theorem toList_ofList (l : List α) : (ofList l).toList = l := by
  simp [toList, ofList]

/-- The empty sequence has no element. -/
@[simp] theorem toList_empty : (empty : Fifo α).toList = [] := rfl

/-- A pushed element comes after all that were there, whichever half it is put in. -/
@[simp] theorem toList_push (q : Fifo α) (a : α) : (q.push a).toList = q.toList ++ [a] := by
  unfold push
  split
  · next h => simp [toList, h, q.later_eq_nil h, ofList]
  · next h => simp [toList, h]

/-- Taking an element removes the one in front, turned over or not, and leaves an empty sequence as
it is. -/
@[simp] theorem toList_tail (q : Fifo α) : q.tail.toList = q.toList.tail := by
  unfold tail
  split
  · next h => simp [toList, h, q.later_eq_nil h]
  · next h => simp [toList, h, ofList]
  · next h => simp [toList, h]

/-- The element in front is the first of the sequence. -/
@[simp] theorem head?_eq (q : Fifo α) : q.head? = q.toList.head? := by
  unfold head? toList
  cases h : q.older with
  | nil => simp [q.later_eq_nil h]
  | cons oldest rest => rfl

/-- There is no element exactly if the sequence is empty. -/
@[simp] theorem isEmpty_eq (q : Fifo α) : q.isEmpty = q.toList.isEmpty := by
  unfold isEmpty toList
  cases h : q.older with
  | nil => simp [q.later_eq_nil h]
  | cons oldest rest => rfl

/-- Testing does not depend on how the sequence is held. -/
@[simp] theorem any_eq (q : Fifo α) (p : α → Bool) : q.any p = q.toList.any p := by
  simp [any, toList]

end Fifo

end DramScheduler
