/-!
# The window of four activations

At most four rows may be opened in any stretch of as many cycles as the window is long. What
is kept are the rows opened in the previous `window - 1` cycles, each by its age: how many
cycles have gone by since the one in which it was opened. A further row may be opened while
there are fewer than four of them. A window of zero or one cycle keeps none and delays
nothing.

Ages grow by one at every clock edge, and a row is forgotten when its age reaches the depth of
the window; `mem_tick` says which ages there are after an edge.
-/

namespace DramScheduler

/-- A sliding window over the rows opened lately. It keeps ages instead of a bit for every cycle, so
its size does not depend on its depth. -/
structure ActivateWindow where
  /-- The ages of the rows opened within the window, the latest first. -/
  ages : List Nat
  /-- The number of cycles the window reaches back. -/
  depth : Nat
  deriving DecidableEq, Repr, Inhabited

namespace ActivateWindow

/-- The number of rows that may be opened within the window. -/
def limit : Nat := 4

/-- A window in which no row was opened. The present cycle belongs to a stretch as well, so one
cycle less is kept than the window is long. -/
def new (window : Nat) : ActivateWindow :=
  ⟨[], window - 1⟩

/-- An empty window for a parameter that may be left out; without it nothing is ever delayed. -/
def ofOption (window : Option Nat) : ActivateWindow :=
  new (window.getD 0)

/-- The number of rows opened within the window. -/
def active (w : ActivateWindow) : Nat :=
  w.ages.length

/-- Whether a row may be opened in this cycle: fewer than the limit were opened lately. -/
def ready (w : ActivateWindow) : Bool :=
  w.active < limit

/-- One clock edge, after a cycle in which a row was opened or not. Rows that leave the window are
forgotten. -/
def tick (w : ActivateWindow) (event : Bool) : ActivateWindow :=
  let older := w.ages.map (· + 1)
  { w with ages := (if event then 0 :: older else older).filter (· < w.depth) }

/-- The ages after an edge: zero for a row opened in the cycle before it, and one more for
every other row, as long as they lie within the window. -/
theorem mem_tick {w : ActivateWindow} {event : Bool} {age : Nat} :
    age ∈ (w.tick event).ages ↔
      age < w.depth ∧ ((event = true ∧ age = 0) ∨ ∃ before ∈ w.ages, before + 1 = age) := by
  cases event <;> simp [tick, and_comm]

/-- No row is kept past the depth of the window. -/
theorem lt_depth_of_mem_tick {w : ActivateWindow} {event : Bool} {age : Nat}
    (h : age ∈ (w.tick event).ages) : age < (w.tick event).depth :=
  (mem_tick.1 h).1

end ActivateWindow

end DramScheduler
