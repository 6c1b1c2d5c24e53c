/-!
# Minimum spacing of two events

A countdown that keeps two events at least `spacing` cycles apart. An event in cycle `t`
holds `ready` low in the cycles `t + 1` to `t + spacing - 1`, so the next one may come in
cycle `t + spacing`. A spacing of zero or one never delays anything.

`ready` and `remaining` read the register before the edge; `tick` applies the edge, told
whether the event took place in the cycle that ends. Nothing here stops an event that comes
too early: it arms the countdown afresh (`tick_true`).
-/

namespace DramScheduler

/-- A countdown between two events of one kind. -/
structure Spacing where
  /-- Cycles from one event to the next. -/
  spacing : Nat
  /-- Cycles until the next event may come. -/
  remaining : Nat
  deriving DecidableEq, Repr, Inhabited

namespace Spacing

/-- A countdown at rest: the first event is not delayed. -/
def new (spacing : Nat) : Spacing :=
  ⟨spacing, 0⟩

/-- A countdown at rest for a parameter that may be left out; without it nothing is ever delayed. -/
def ofOption (spacing : Option Nat) : Spacing :=
  new (spacing.getD 0)

/-- Whether the event may take place in this cycle, before its edge. -/
def ready (s : Spacing) : Bool :=
  s.remaining == 0

/-- One clock edge, after a cycle with or without the event. The cycle that ends is counted in, so
the countdown is armed with one less than the spacing. -/
def tick (s : Spacing) (event : Bool) : Spacing :=
  { s with remaining := if event then s.spacing - 1 else s.remaining - 1 }

/-- A clock edge keeps the spacing asked for. -/
@[simp] theorem spacing_tick (s : Spacing) (event : Bool) : (s.tick event).spacing = s.spacing :=
  rfl

/-- An event arms the countdown, whatever was left of it. -/
@[simp] theorem tick_true (s : Spacing) : (s.tick true).remaining = s.spacing - 1 := rfl

/-- A cycle without the event takes one off the countdown. -/
@[simp] theorem tick_false (s : Spacing) : (s.tick false).remaining = s.remaining - 1 := rfl

end Spacing

end DramScheduler
