import DramScheduler.Proofs.Run
import Mathlib.Data.List.Induction

/-!
# Events that wait until they may take place

The registers behind a timing rule say in every cycle whether the event that they watch may take
place, and are told at the clock edge whether it did. By themselves they stop nothing; it is up to
who causes the event to ask first. A `Gate` with a train of wishes is this use of them: in every
cycle the event takes place if it is wanted and may (`Gate.passed`).

A rule is a set of trains of events. A gate enforces it if it never lets through a train that breaks
it, and holds nothing back that would have kept it. For both it is enough that the registers are
right about one more event after every train that keeps the rule (`Gate.Foresees`).

## Main results

* `Gate.foldl_passed` — the registers behind a gate are those of the train that it lets through;
* `Gate.Foresees.enforces` — registers that foresee a rule enforce it.
-/

namespace DramScheduler

/-- Registers that say whether an event may take place, and are told whether it did. -/
structure Gate (σ : Type) where
  /-- Whether the event may take place. -/
  ready : σ → Bool
  /-- The registers after an edge, given whether it did. -/
  tick : σ → Bool → σ

namespace Gate

variable {σ : Type} {g : Gate σ} {start : σ} {rule : List Bool → Prop}

/-- One clock edge, after a cycle in which the event was wanted or not. -/
def next (g : Gate σ) (s : σ) (want : Bool) : σ :=
  g.tick s (want && g.ready s)

/-- The events that are let through, cycle by cycle. -/
def passed (g : Gate σ) (start : σ) (wants : List Bool) : List Bool :=
  (Run.cycles g.next start wants).map fun cycle => cycle.2 && g.ready cycle.1

/-- A further wish is granted if the event may take place after those before. -/
theorem passed_concat (g : Gate σ) (start : σ) (wants : List Bool) (want : Bool) :
    g.passed start (wants ++ [want]) =
      g.passed start wants ++ [want && g.ready (wants.foldl g.next start)] := by
  rw [passed, Run.cycles_concat, List.map_append]
  rfl

/-- **The registers behind a gate** are those of the train that it lets through. So what is known of
registers after a train holds of them. -/
theorem foldl_passed (g : Gate σ) (start : σ) (wants : List Bool) :
    (g.passed start wants).foldl g.tick start = wants.foldl g.next start := by
  induction wants using List.reverseRecOn with
  | nil => rfl
  | append_singleton wants want ih =>
    rw [passed_concat, List.foldl_append, List.foldl_append, ih]
    rfl

/-- What it is for a gate to enforce a rule, and nothing beyond it: it lets through what keeps the
rule, and only that. -/
structure Enforces (g : Gate σ) (start : σ) (rule : List Bool → Prop) : Prop where
  /-- What is let through keeps the rule. -/
  keeps : ∀ wants, rule (g.passed start wants)
  /-- An event is held back exactly if it would break the rule. -/
  ready_iff : ∀ wants,
    g.ready (wants.foldl g.next start) = true ↔ rule (g.passed start wants ++ [true])
  /-- A train that keeps the rule is let through as it is. -/
  passed_eq : ∀ wants, rule wants → g.passed start wants = wants

/-- After a train that keeps a rule, the registers know whether one more event would keep it. Rules
of this kind look back and not ahead. -/
structure Foresees (g : Gate σ) (start : σ) (rule : List Bool → Prop) : Prop where
  /-- No event breaks no rule. -/
  nil : rule []
  /-- They are ready exactly if one more event would keep it. -/
  ready_iff : ∀ pulses, rule pulses →
    (g.ready (pulses.foldl g.tick start) = true ↔ rule (pulses ++ [true]))
  /-- Nothing is broken by a cycle without the event. -/
  pause : ∀ pulses, rule pulses → rule (pulses ++ [false])
  /-- What keeps the rule has kept it all along. -/
  init : ∀ pulses pulse, rule (pulses ++ [pulse]) → rule pulses

/-- **Registers that foresee a rule enforce it.** Induction on the wishes: what was let through
keeps the rule, so the registers are right about the next event. -/
theorem Foresees.enforces (foresees : g.Foresees start rule) : g.Enforces start rule := by
  have keeps : ∀ wants, rule (g.passed start wants) := by
    intro wants
    induction wants using List.reverseRecOn with
    | nil => exact foresees.nil
    | append_singleton wants want ih =>
      rw [passed_concat, ← foldl_passed]
      cases happens : want && g.ready ((g.passed start wants).foldl g.tick start) with
      | false => exact foresees.pause _ ih
      | true => exact (foresees.ready_iff _ ih).1 (Bool.and_eq_true_iff.1 happens).2
  refine ⟨keeps, fun wants => ?_, fun wants => ?_⟩
  · rw [← foldl_passed]
    exact foresees.ready_iff _ (keeps wants)
  · induction wants using List.reverseRecOn with
    | nil => exact fun _ => rfl
    | append_singleton wants want ih =>
      intro kept
      have before := foresees.init wants want kept
      rw [passed_concat, ← foldl_passed, ih before]
      cases want with
      | false => rfl
      | true => rw [(foresees.ready_iff wants before).2 kept]; rfl

end Gate

end DramScheduler
