/-!
# The budget of a direction

Moving data in one direction while requests for the other wait is limited by a budget of
cycles. The budget shrinks while its direction has the bus and is filled up again in every
other cycle. A budget of zero cycles never runs out.
-/

namespace DramScheduler

/-- A budget of cycles for one direction of the bus. -/
structure Budget where
  /-- The whole budget; zero sets no limit. -/
  cycles : Nat
  /-- Cycles left after the present one. -/
  remaining : Nat
  deriving DecidableEq, Repr, Inhabited

namespace Budget

/-- A budget that is full, before the first cycle of its direction. -/
def new (cycles : Nat) : Budget :=
  ⟨cycles, cycles - 1⟩

/-- Whether the present cycle is the last of the budget, or a later one. The budget is then no
reason any more to go on. -/
def expired (b : Budget) : Bool :=
  0 < b.cycles && b.remaining == 0

/-- One clock edge, after a cycle in which the direction had the bus or not. A cycle of any other
kind fills the budget up. -/
def tick (b : Budget) (inUse : Bool) : Budget :=
  { b with remaining := if inUse then b.remaining - 1 else b.cycles - 1 }

end Budget

end DramScheduler
