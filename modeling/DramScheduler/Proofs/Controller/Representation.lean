import DramScheduler.Proofs.Bank.Representation
import DramScheduler.Proofs.Bus.Closing
import DramScheduler.Proofs.Bus.Guards
import DramScheduler.Proofs.Controller.RefreshTiming
import DramScheduler.Proofs.Refresh.Measure

/-!
# What the registers of a controller can hold together

Each machine of a controller keeps its own registers within bounds, and needs little of the others
for it. A turn of the bus is counted down from what the configuration asks for and ends at one. A
round is counted up to its length, so its cycle never goes past it; that the length is a plain sum
(`Refresher.length_eq`) holds of a round that is played because rounds are played only where they
are switched on. A bank is handed a request only while it is ready.

## Main results

* `Refresher.within_commit` — the cycle of a round;
* `CommandBus.Turning.commit` — what is left of a turn;
* `Controller.Reachable.represented` — the registers of every reachable controller.
-/

namespace DramScheduler

/-! ### The refresher -/

/-- A round takes a cycle at least. -/
theorem RefreshTimeline.length_pos (t : RefreshTimeline) (calibrate : Bool) :
    1 ≤ t.length calibrate := by
  have first : 1 ≤ t.firstRefresh := by
    simp only [firstRefresh, Word.add, Word.top_eq]
    omega
  have done : 1 ≤ t.refreshesDone := by
    simp only [refreshesDone, Word.add, Word.top_eq]
    omega
  rw [length]
  split
  · simp only [Word.add, Word.top_eq]
    omega
  · exact done

namespace Refresher

variable {c : Config} {r : Refresher}

/-- A round that is played has begun and has not gone past its last cycle. -/
def Within (r : Refresher) : Prop :=
  ∀ elapsed calibrate, r.state = .sequence elapsed calibrate →
    1 ≤ elapsed ∧ elapsed ≤ r.timeline.length calibrate

/-- No round is played at first. -/
theorem within_new (c : Config) : (Refresher.new c).Within := by
  intro elapsed calibrate state
  cases state

/-- **A round goes on only while its last cycle is still to come**, so its cycle never goes past the
last one. -/
theorem within_commit (off : r.enabled = false → r.state = .idle) (granted : Bool) :
    (r.commit granted).Within := by
  intro elapsed calibrate after
  rw [timeline_commit]
  rcases sequence_cases off after with ⟨-, -, rfl⟩ | ⟨before, -, more, rfl⟩
  · exact ⟨Nat.le_refl 1, r.timeline.length_pos calibrate⟩
  · rw [isLast, decide_eq_false_iff_not, Nat.not_le] at more
    exact ⟨Nat.succ_pos before, more⟩

end Refresher

/-! ### The bus -/

namespace CommandBus

variable {b : CommandBus}

/-- A turn to writing that is under way is not over, and has begun. -/
def Turning (b : CommandBus) : Prop :=
  ∀ remaining, b.state = .readToWrite remaining → 1 ≤ remaining ∧ remaining < b.readToWrite

/-- A new bus is not turning. -/
theorem turning_new (c : Config) : (CommandBus.new c).Turning := by
  intro remaining state
  cases state

/-- A turn is counted down by one in a cycle, and ends instead of reaching zero, so that nothing is
ever taken from zero. -/
theorem Turning.commit (turning : b.Turning) (d : Decision) (refresh : RefresherOutputs) :
    (b.commit d refresh).Turning := by
  intro remaining after
  have move := b.moves_nextState d refresh
  rw [show b.nextState d refresh = .readToWrite remaining from after] at move
  show 1 ≤ remaining ∧ remaining < b.readToWrite
  cases move with
  | turnToWrite _ _ _ long => omega
  | keepTurning state more =>
    have before := turning _ state
    omega

end CommandBus

/-! ### The controller -/

namespace Controller

variable {c : Config} {k : Controller} {i : Nat} {m : BankMachine}

/-- The registers of a controller fit together, part by part. -/
structure Represented (c : Config) (k : Controller) : Prop where
  /-- The registers of each bank fit together. -/
  banks : ∀ (i : Nat) (m : BankMachine), k.banks[i]? = some m →
    m.Consistent ∧ m.queue.depth = max c.settings.bufferDepth 1
  /-- Those of the bus are within their bounds. -/
  bus : k.bus.BuiltFrom c ∧ k.bus.Bounded c.banks ∧ k.bus.Turning
  /-- The refresher is within its round. -/
  refresher : k.refresher.Within

/-- They do so in a controller at rest. -/
theorem represented_build (a : c.Accepted) : (build c).Represented c where
  banks := by
    intro i m found
    obtain rfl := eq_new_of_build found
    exact ⟨BankMachine.consistent_new i c, rfl⟩
  bus := ⟨CommandBus.builtFrom_new c, CommandBus.bounded_new (a.banks_eq ▸ Nat.two_pow_pos _),
    CommandBus.turning_new c⟩
  refresher := Refresher.within_new c

/-- A bank takes a request only while it is ready. -/
theorem ready_of_takes {offers : List (Option BankRequest)} (found : k.banks[i]? = some m)
    (taken : (k.takes offers i).isSome = true) : m.ready = true := by
  rw [takes, ready, found] at taken
  by_contra full
  rw [Option.any_some, if_neg full] at taken
  cases taken

/-- **A cycle keeps the registers fitting together.** A bank takes a request only while it is ready,
so its queue has room for it. -/
theorem Represented.step (represented : k.Represented c) (hand : k.Handover)
    (offers : List (Option BankRequest)) : (k.step offers).1.Represented c where
  banks := by
    intro i m found
    obtain ⟨before, earlier, rfl⟩ := exists_of_banks_step found
    obtain ⟨consistent, depth⟩ := represented.banks i before earlier
    exact ⟨consistent.commit _ _ (ready_of_takes earlier),
      (RequestQueue.depth_commit _ _ _).trans depth⟩
  bus := by
    obtain ⟨built, bounded, turning⟩ := represented.bus
    rw [bus_step]
    exact ⟨built.commit _ _, bounded.commit _ _, turning.commit _ _⟩
  refresher := by
    rw [refresher_step]
    exact Refresher.within_commit hand.idle_of_disabled _

/-- **The registers of every reachable controller fit together.** Induction on the way to it. -/
theorem Reachable.represented (a : c.Accepted) (reached : Reachable c k) : k.Represented c := by
  induction reached with
  | build => exact represented_build a
  | step offers reached ih => exact ih.step reached.handover offers

/-- A round that is played is as long as the sum of its parts, because rounds are only played where
validation has measured them. -/
theorem Reachable.length_eq (a : c.Accepted) (reached : Reachable c k) {elapsed : Nat}
    {calibrate : Bool} (running : k.refresher.state = .sequence elapsed calibrate) :
    k.refresher.timeline.length calibrate = k.refresher.timeline.plainLength calibrate := by
  have built := reached.builtFrom a
  have busy : k.refresher.state ≠ .idle := by
    rw [running]
    intro idle
    cases idle
  rw [built.timeline]
  refine Refresher.length_eq a (reached.handover.refreshEnabled built busy) ?_
  rintro rfl
  exact reached.zqcsInterval_isSome running

end Controller

end DramScheduler
