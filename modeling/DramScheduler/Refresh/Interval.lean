/-!
# When refreshes are due

Refreshes are due at a fixed mean distance, and several may be put off and made up for in one
round. Two counters that go round decide when to ask for one: the timer is over once every
period, and the postponer asks at every so many-th expiry of the timer. Both are read before
their clock edge; a period or a factor of zero acts as one.
-/

namespace DramScheduler

/-- A counter that is over once every `period` cycles. -/
structure RefreshTimer where
  /-- Cycles from one expiry to the next. -/
  period : Nat
  /-- Cycles until the next expiry. -/
  remaining : Nat
  deriving DecidableEq, Repr, Inhabited

namespace RefreshTimer

/-- A timer that is first over in the last cycle of its first period. -/
def new (period : Nat) : RefreshTimer :=
  ⟨period, period - 1⟩

/-- Whether the period is over in this cycle, before its edge. -/
def expired (t : RefreshTimer) : Bool :=
  t.remaining == 0

/-- One clock edge. A period that is over starts anew, and one of zero cycles is over in every
cycle. -/
def tick (t : RefreshTimer) : RefreshTimer :=
  { t with remaining := if t.expired then t.period - 1 else t.remaining - 1 }

end RefreshTimer

/-- A counter that asks for a refresh at every `factor`-th expiry, so that the refreshes put off in
between are made up for in one round. -/
structure Postponer where
  /-- Expiries from one request to the next. -/
  factor : Nat
  /-- Expiries that are still let pass. -/
  remaining : Nat
  deriving DecidableEq, Repr, Inhabited

namespace Postponer

/-- A postponer that first asks at the `factor`-th expiry. -/
def new (factor : Nat) : Postponer :=
  ⟨max factor 1, max factor 1 - 1⟩

/-- Whether a round is asked for in this cycle, given whether the timer is over. -/
def requests (p : Postponer) (expired : Bool) : Bool :=
  expired && p.remaining == 0

/-- One clock edge; nothing changes in a cycle in which the timer is not over. -/
def tick (p : Postponer) (expired : Bool) : Postponer :=
  if expired then
    { p with remaining := if p.remaining = 0 then p.factor - 1 else p.remaining - 1 }
  else p

end Postponer

/-- The timer with the postponer behind it, which together ask for a round once in as many cycles as
period and factor multiply to. -/
structure RefreshInterval where
  /-- When single refreshes are due. -/
  timer : RefreshTimer
  /-- How many of them make a round. -/
  postponer : Postponer
  deriving DecidableEq, Repr, Inhabited

namespace RefreshInterval

/-- Both counters at their start. -/
def new (period factor : Nat) : RefreshInterval :=
  ⟨.new period, .new factor⟩

/-- Whether a round is asked for in this cycle. -/
def requests (i : RefreshInterval) : Bool :=
  i.postponer.requests i.timer.expired

/-- One clock edge of both. The postponer sees the expiry of the cycle that ends. -/
def tick (i : RefreshInterval) : RefreshInterval :=
  ⟨i.timer.tick, i.postponer.tick i.timer.expired⟩

end RefreshInterval

end DramScheduler
