import DramScheduler.Proofs.Bus.Issue

/-!
# What the bus decides, apart from where it puts it

A bus with two choosers decides what is issued without a look at the phases: they only say where
a command goes. `CommandBus.schedule` is the bus with the phases and the width of its data left
out, and buses with the same schedule decide alike and stay so.

That a decision does not depend on the phases takes an argument, because acceptance is found by
going through them. Where commands of a cycle do not get into each other's way
(`CommandBus.WellPlaced`), every choice is met exactly once on the way, whatever the order.

## Main results

* `CommandBus.evaluate_alike` — buses with the same schedule decide alike;
* `CommandBus.schedule_commit` — and they have the same schedule after the edge.
-/

namespace DramScheduler

/-- A column count without the width of the data that it counts. -/
def Bandwidth.counts (b : Bandwidth) : Bandwidth :=
  { b with dataWidth := 0, sample := { b.sample with dataWidth := 0 } }

/-- The width of the data has no part in the counting. -/
theorem Bandwidth.counts_tick (b : Bandwidth) (read write : Bool) :
    (b.tick read write).counts = b.counts.tick read write := by
  rw [tick, tick]
  by_cases whole : b.cycle + 1 = b.period
  · rw [if_pos whole, if_pos (show b.counts.cycle + 1 = b.counts.period from whole)]
    rfl
  · rw [if_neg whole, if_neg (show ¬ b.counts.cycle + 1 = b.counts.period from whole)]
    rfl

/-- Two decisions agree on everything but the phases on which the commands are issued. -/
structure Decision.Alike (one other : Decision) : Prop where
  /-- All but the phases is the same. -/
  eq_with : other = { one with issued := other.issued }
  /-- The same commands are issued, wherever they are put. -/
  commands_perm : one.commands.Perm other.commands

/-- Decisions that agree issue commands of the same kinds. -/
theorem Decision.Alike.any_commands {one other : Decision} (alike : one.Alike other)
    (kind : Command → Bool) : other.commands.any kind = one.commands.any kind :=
  (alike.commands_perm.any_eq).symm

namespace CommandBus

variable {b b' : CommandBus} {banks : List BankOutputs} {refresh : RefresherOutputs}

/-- The bus without what the interface to the memory has to do with: the phases, and the width of
the data in its column count. -/
def schedule (b : CommandBus) : CommandBus :=
  { b with phases := default, bandwidth := b.bandwidth.map Bandwidth.counts }

/-- A bus with the same schedule differs in the phases and the column count only. -/
theorem exists_of_schedule_eq (same : b.schedule = b'.schedule) :
    ∃ phases bandwidth, b' = { b with phases := phases, bandwidth := bandwidth } ∧
      b.bandwidth.map Bandwidth.counts = bandwidth.map Bandwidth.counts := by
  refine ⟨b'.phases, b'.bandwidth, ?_, congrArg CommandBus.bandwidth same⟩
  cases b
  cases b'
  simp only [schedule, mk.injEq] at same ⊢
  obtain ⟨state, column, row, -, rest⟩ := same
  exact ⟨state.symm, column.symm, row.symm, trivial, by simp [rest]⟩

/-- Buses with the same schedule make the same choices: the choosers do not look at the phases. -/
theorem choices_eq_of_schedule_eq (same : b.schedule = b'.schedule) (banks : List BankOutputs)
    (refresh : RefresherOutputs) :
    (b'.evaluate banks refresh).choices = (b.evaluate banks refresh).choices := by
  obtain ⟨phases, bandwidth, rfl, -⟩ := exists_of_schedule_eq same
  rfl

/-- **Buses with the same schedule decide alike**, wherever they put the commands. Acceptance is
found by going through the phases, but every choice is met once on the way. -/
theorem evaluate_alike (same : b.schedule = b'.schedule) (placed : b.WellPlaced)
    (placed' : b'.WellPlaced) :
    (b.evaluate banks refresh).Alike (b'.evaluate banks refresh) := by
  have choices := choices_eq_of_schedule_eq same banks refresh
  have accepted : (b'.evaluate banks refresh).accepted = (b.evaluate banks refresh).accepted := by
    rw [accepted_evaluate, accepted_evaluate]
    refine List.map_congr_left fun i _ => ?_
    rw [(taken_perm placed').any_eq, (taken_perm placed).any_eq, choices]
  have commands : (b.evaluate banks refresh).commands.Perm
      (b'.evaluate banks refresh).commands := by
    have state : b'.state = b.state := (congrArg CommandBus.state same).symm
    by_cases handed : b.state = .refresh
    · rw [commands_of_refresh placed handed, commands_of_refresh placed' (state.trans handed)]
    · have chosen : (b'.evaluate banks refresh).commands.Perm
          ((b'.evaluate banks refresh).choices.map Choice.command) :=
        commands_perm placed' (state ▸ handed)
      rw [choices] at chosen
      exact (commands_perm placed handed).trans chosen.symm
  refine ⟨?_, commands⟩
  have eq_with : b'.evaluate banks refresh =
      { b.evaluate banks refresh with
        accepted := (b'.evaluate banks refresh).accepted
        issued := (b'.evaluate banks refresh).issued } := by
    obtain ⟨phases, bandwidth, rfl, -⟩ := exists_of_schedule_eq same
    rfl
  rwa [accepted] at eq_with

/-- **Buses with the same schedule keep it**, if they commit decisions that agree. The registers
look at which commands were issued, and not where. -/
theorem schedule_commit (same : b.schedule = b'.schedule) {d d' : Decision} (alike : d.Alike d')
    (refresh : RefresherOutputs) :
    (b.commit d refresh).schedule = (b'.commit d' refresh).schedule := by
  obtain ⟨phases, bandwidth, rfl, counts⟩ := exists_of_schedule_eq same
  obtain ⟨issued, rfl⟩ : ∃ issued, d' = { d with issued := issued } := ⟨_, alike.eq_with⟩
  have kinds := alike.any_commands
  have counted : ∀ read write : Bool,
      (bandwidth.map fun counter => counter.tick read write).map Bandwidth.counts =
        (b.bandwidth.map fun counter => counter.tick read write).map Bandwidth.counts := by
    intro read write
    have ticked := congrArg (Option.map fun counter => counter.tick read write) counts
    simpa only [Option.map_map, Function.comp_def, Bandwidth.counts_tick] using ticked.symm
  simp only [commit, schedule, kinds, counted]
  rfl

/-- What is published is the same up to the width of the data. -/
theorem schedule_publish (same : b.schedule = b'.schedule) :
    b.publish.schedule = b'.publish.schedule := by
  obtain ⟨phases, bandwidth, rfl, counts⟩ := exists_of_schedule_eq same
  have published := congrArg (Option.map Bandwidth.publish) counts
  have each : ∀ counter : Option Bandwidth, (counter.map Bandwidth.publish).map Bandwidth.counts =
      (counter.map Bandwidth.counts).map Bandwidth.publish := by
    intro counter
    cases counter <;> rfl
  simp only [publish, schedule, each, published]

end CommandBus

end DramScheduler
