import DramScheduler.Proofs.Bus.Agreement
import DramScheduler.Proofs.Run
import Mathlib.Data.List.Induction

/-!
# Budgets are exact

A direction may keep the bus for as many cycles as its budget has while the other direction waits. A
budget counts down while its direction moves data and is filled up again in every other cycle, so
what it holds is known from the number of cycles for which the bus has been in its state
(`CommandBus.held`), whatever brought it there: a turn, a refresh round, or the start. It runs out
in the last of its cycles, and stays so for as long as the direction goes on without need to turn.

## Main results

* `CommandBus.Budgeted.next` — the budgets go on to count the cycles of a state over a clock edge;
* `CommandBus.Budgeted.leaves_iff` — when the bus leaves a direction;
* `CommandBus.new_keepsBudgets` — budgets are kept over every run, and never cut short.
-/

namespace DramScheduler

/-! ### The two directions -/

namespace Direction

/-- The other direction. -/
def other : Direction → Direction
  | read => write
  | write => read

/-- The state in which the bus moves data in a direction. -/
def state : Direction → BusState
  | read => .read
  | write => .write

end Direction

/-- The cycles for which a direction may keep the bus while the other one waits. Zero sets no
limit. -/
def Config.budget (c : Config) : Direction → Nat
  | .read => c.settings.readTime
  | .write => c.settings.writeTime

/-- Where the bus goes when it turns away from a direction. To writing it may be there at once. -/
def Config.turnFrom (c : Config) : Direction → BusState
  | .read => if c.readToWrite ≤ 1 then .write else .readToWrite (c.readToWrite - 1)
  | .write => .writeToRead

/-- Whether there is work in a direction. -/
def Decision.available (decision : Decision) : Direction → Bool
  | .read => decision.readAvailable
  | .write => decision.writeAvailable

namespace CommandBus

/-- The budget of a direction. -/
def budget (b : CommandBus) : Direction → Budget
  | .read => b.readBudget
  | .write => b.writeBudget

/-- For how many cycles the bus has been in the state that it is in after a run, the present cycle
included. -/
def held (start : CommandBus) (past : List BusInput) : Nat :=
  ((Run.cycles next start past).reverse.takeWhile fun cycle =>
    cycle.1.state == (start.run past).state).length + 1

/-- The decision of a cycle, given what comes to the bus in it. -/
def decides (b : CommandBus) (input : BusInput) : Decision :=
  b.evaluate input.banks input.refresh

variable {c : Config} {b : CommandBus} {d : Direction} {k : Nat} {input : BusInput}

/-- One more cycle comes after the run. -/
theorem run_concat (b : CommandBus) (past : List BusInput) (input : BusInput) :
    b.run (past ++ [input]) = (b.run past).next input :=
  List.foldl_append

/-- The latest cycle comes first in the history looked at backwards. -/
theorem reverse_cycles_concat (b : CommandBus) (past : List BusInput) (input : BusInput) :
    (Run.cycles next b (past ++ [input])).reverse =
      (b.run past, input) :: (Run.cycles next b past).reverse := by
  rw [Run.cycles_concat, List.reverse_append]
  rfl

/-- A cycle more in the same state, or the first one in another. -/
theorem held_concat (b : CommandBus) (past : List BusInput) (input : BusInput) :
    b.held (past ++ [input]) =
      if (b.run past).state = ((b.run past).next input).state then b.held past + 1 else 1 := by
  rw [held, reverse_cycles_concat, run_concat, List.takeWhile_cons]
  split
  · next same =>
    rw [beq_iff_eq] at same
    rw [if_pos same, List.length_cons, held, same]
  · next other =>
    rw [beq_iff_eq] at other
    rw [if_neg other]
    rfl

-- three cycles have passed, and the present one counts too
example : (CommandBus.new {}).held (List.replicate 3 default) = 4 := by decide

/-! ### What a budget holds -/

/-- The registers in the cycle of a number in a state. -/
structure Budgeted (c : Config) (b : CommandBus) (k : Nat) : Prop where
  /-- The distance of a turn is that of the configuration. -/
  readToWrite : b.readToWrite = c.readToWrite
  /-- So are the budgets. -/
  cycles : ∀ d, (b.budget d).cycles = c.budget d
  /-- A budget has shrunk since the direction has had the bus. -/
  remaining : ∀ d, b.state = d.state → (b.budget d).remaining = c.budget d - k

/-- A new bus is in its first cycle of reading, with the budgets full. -/
theorem budgeted_new (c : Config) : (CommandBus.new c).Budgeted c 1 where
  readToWrite := rfl
  cycles d := by cases d <;> rfl
  remaining d state := by
    cases d with
    | read => rfl
    | write => cases state

/-- A budget shrinks while its direction has the bus. -/
theorem budget_next (b : CommandBus) (input : BusInput) (d : Direction) :
    (b.next input).budget d = (b.budget d).tick (b.state == d.state) := by
  cases d <;> rfl

/-- **The budgets go on to count the cycles of a state over a clock edge.** Entering a direction
finds its budget full, since it was filled up in every other cycle. -/
theorem Budgeted.next (budgeted : b.Budgeted c k) (input : BusInput) :
    (b.next input).Budgeted c (if b.state = (b.next input).state then k + 1 else 1) where
  readToWrite := budgeted.readToWrite
  cycles d := by
    rw [budget_next]
    exact budgeted.cycles d
  remaining d after := by
    rw [budget_next, Budget.tick, after]
    dsimp only
    by_cases moving : b.state = d.state
    · rw [if_pos (beq_iff_eq.2 moving), if_pos moving, budgeted.remaining d moving, Nat.sub_sub]
    · rw [if_neg (by simpa using moving), if_neg moving, budgeted.cycles]

/-- What a budget holds is known after every run from how long the bus has been in its state. -/
theorem budgeted_run (c : Config) (past : List BusInput) :
    ((CommandBus.new c).run past).Budgeted c ((CommandBus.new c).held past) := by
  induction past using List.reverseRecOn with
  | nil => exact budgeted_new c
  | append_singleton past input ih =>
    rw [run_concat, held_concat]
    exact ih.next input

/-- A budget has run out from the cycle of its number on, and one of zero never does. -/
theorem Budgeted.expired_iff (budgeted : b.Budgeted c k) (moving : b.state = d.state) :
    (b.budget d).expired = true ↔ 1 ≤ c.budget d ∧ c.budget d ≤ k := by
  rw [Budget.expired, Bool.and_eq_true, decide_eq_true_eq, beq_iff_eq, budgeted.cycles,
    budgeted.remaining d moving, Nat.sub_eq_zero_iff_le]
  rfl

/-! ### One cycle -/

/-- Where the bus goes from a direction: to the refresher, away to the other direction, or
nowhere. -/
theorem Budgeted.nextState_eq (budgeted : b.Budgeted c k) (moving : b.state = d.state)
    (decision : Decision) (refresh : RefresherOutputs) :
    b.nextState decision refresh =
      if decision.goToRefresh then .refresh
      else if decision.available d.other && (!decision.available d || (b.budget d).expired) then
        c.turnFrom d
      else d.state := by
  rw [nextState, moving]
  cases d with
  | read =>
    rw [Config.turnFrom, ← budgeted.readToWrite]
    rfl
  | write => rfl

/-- The bus is in no direction after a turn, or in the other. -/
theorem turnFrom_ne (c : Config) (d : Direction) : c.turnFrom d ≠ d.state := by
  cases d with
  | read =>
    rw [Config.turnFrom]
    split <;> simp [Direction.state]
  | write => simp [Config.turnFrom, Direction.state]

/-- **When the bus leaves a direction**: when only the other one has work, or when it has work and
the budget is used up. -/
theorem Budgeted.leaves_iff (budgeted : b.Budgeted c k) (moving : b.state = d.state)
    {decision : Decision} (stays : decision.goToRefresh = false) (refresh : RefresherOutputs) :
    b.nextState decision refresh ≠ d.state ↔
      decision.available d.other = true ∧
        (decision.available d = false ∨ 1 ≤ c.budget d ∧ c.budget d ≤ k) := by
  rw [budgeted.nextState_eq moving, stays, if_neg Bool.false_ne_true, ← budgeted.expired_iff moving,
    ← Bool.not_eq_true', ← Bool.or_eq_true, ← Bool.and_eq_true]
  split
  · next turns => simp [turns, turnFrom_ne]
  · next keeps => simp [keeps]

/-- How the bus goes on after a cycle in which it has moved data in a direction for as many cycles
as given. -/
structure KeepsBudget (c : Config) (d : Direction) (k : Nat) (decision : Decision)
    (after : BusState) : Prop where
  /-- The refresher comes first. -/
  handsOver : decision.goToRefresh = true → after = .refresh
  /-- Else it leaves a direction if the other one has work, and this one has none or has used up its
  budget. -/
  leaves_iff : decision.goToRefresh = false →
    (after ≠ d.state ↔ decision.available d.other = true ∧
      (decision.available d = false ∨ 1 ≤ c.budget d ∧ c.budget d ≤ k))
  /-- Other than to the refresher, the bus leaves for the other direction. -/
  turns : decision.goToRefresh = false → after ≠ d.state → after = c.turnFrom d

/-- A cycle keeps the budget of the direction that it moves data in. -/
theorem Budgeted.keepsBudget (budgeted : b.Budgeted c k) (moving : b.state = d.state)
    (input : BusInput) : KeepsBudget c d k (b.decides input) (b.next input).state where
  handsOver goes := by
    show b.nextState (b.decides input) input.refresh = .refresh
    rw [budgeted.nextState_eq moving, goes, if_pos rfl]
  leaves_iff stays := budgeted.leaves_iff moving stays input.refresh
  turns stays leaves := by
    have after : (b.next input).state = b.nextState (b.decides input) input.refresh := rfl
    rw [after, budgeted.nextState_eq moving, stays, if_neg Bool.false_ne_true] at leaves ⊢
    split at leaves
    · next turns => rw [if_pos turns]
    · exact absurd rfl leaves

/-! ### Runs -/

/-- How a bus shares its time between the directions, in the course of every run: when it leaves
one, and that it never does so too early or without need. -/
structure KeepsBudgets (c : Config) (start : CommandBus) : Prop where
  /-- Every edge decides by the work of both directions and by how long one has had the bus. -/
  step : ∀ past input d, (start.run past).state = d.state →
    KeepsBudget c d (start.held past) ((start.run past).decides input)
      ((start.run past).next input).state
  /-- Where a direction has had the bus for longer than its budget, the other one has had no work
  since it was used up. -/
  within : ∀ past d, (start.run past).state = d.state → 1 ≤ c.budget d →
    ∀ cycle ∈ (Run.cycles CommandBus.next start past).reverse.take (start.held past - c.budget d),
      (cycle.1.decides cycle.2).available d.other = false
  /-- While both directions have work, neither is cut short. -/
  whole : ∀ past input d, (start.run past).state = d.state →
    ((start.run past).decides input).goToRefresh = false →
    ((start.run past).decides input).available d = true →
    c.budget d = 0 ∨ start.held past < c.budget d →
      ((start.run past).next input).state = d.state

/-- A direction that keeps the bus although its budget is used up is not waited for. -/
theorem KeepsBudget.available_of_stays {decision : Decision} {after : BusState}
    (keeps : KeepsBudget c d k decision after) (stays : after = d.state) (limited : 1 ≤ c.budget d)
    (used : c.budget d ≤ k) : decision.available d.other = false := by
  have own : decision.goToRefresh = false := by
    by_contra goes
    have handed := keeps.handsOver (Bool.not_eq_false _ ▸ goes)
    rw [stays] at handed
    cases d <;> cases handed
  by_contra work
  exact (keeps.leaves_iff own).2 ⟨Bool.not_eq_false _ ▸ work, .inr ⟨limited, used⟩⟩ stays

/-- A direction goes on after its budget only if the other one has no work. Induction on the run,
cycle by cycle since the budget was used up. -/
theorem available_of_overrun (c : Config) (past : List BusInput)
    (moving : ((CommandBus.new c).run past).state = d.state) (limited : 1 ≤ c.budget d) :
    ∀ cycle ∈ (Run.cycles CommandBus.next (CommandBus.new c) past).reverse.take
        ((CommandBus.new c).held past - c.budget d),
      (cycle.1.decides cycle.2).available d.other = false := by
  induction past using List.reverseRecOn with
  | nil =>
    intro cycle mem
    cases List.mem_of_mem_take mem
  | append_singleton past input ih =>
    rw [run_concat] at moving
    rw [held_concat, reverse_cycles_concat]
    by_cases before : ((CommandBus.new c).run past).state = d.state
    · have keeps := (budgeted_run c past).keepsBudget before input
      rw [if_pos (before.trans moving.symm)]
      rcases Nat.lt_or_ge ((CommandBus.new c).held past) (c.budget d) with early | used
      · rw [Nat.sub_eq_zero_of_le early, List.take_zero]
        exact fun _ mem => absurd mem List.not_mem_nil
      · rw [Nat.succ_sub used, List.take_succ_cons, List.forall_mem_cons]
        exact ⟨keeps.available_of_stays moving limited used, ih before⟩
    · rw [if_neg (moving ▸ before), Nat.sub_eq_zero_of_le limited, List.take_zero]
      exact fun _ mem => absurd mem List.not_mem_nil

/-- **Budgets are kept and never cut short**, whatever the banks and the refresher show. When the
bus leaves a direction is decided by what its budget has counted along the run. -/
theorem new_keepsBudgets (c : Config) : KeepsBudgets c (CommandBus.new c) where
  step past input d moving := (budgeted_run c past).keepsBudget moving input
  within past d moving limited := available_of_overrun c past moving limited
  whole past input d moving stays work early := by
    by_contra leaves
    obtain ⟨-, none | ⟨limited, used⟩⟩ :=
      (((budgeted_run c past).keepsBudget moving input).leaves_iff stays).1 leaves
    · rw [work] at none
      cases none
    · omega

end CommandBus

end DramScheduler
