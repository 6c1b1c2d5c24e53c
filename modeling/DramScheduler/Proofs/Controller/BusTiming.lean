import DramScheduler.Proofs.Bus.Guards
import DramScheduler.Proofs.Controller.Handover

/-!
# The commands on the bus keep their distances

What the memory asks of commands to different banks, over whole runs and across any number of
refresh rounds: rows are not opened too soon after another, nor too many in a row, data moves at
some distance, and is written some time after it was last read. A cycle has one command of each
of these kinds at most, so that distances between cycles say all there is to say.

A round has no commands of these kinds. Outside a round each of them was checked against the
registers of the bus (`CommandBus.Permits`), and the registers cover the trace so far
(`CommandBus.Guarded`).

## Main results

* `Trace.KeepsBusTiming` — the distances, as the memory sees them;
* `Controller.KeepsBusTiming.step` — a cycle keeps them;
* `Controller.exists_new_keepsBusTiming` — every run keeps them.
-/

namespace DramScheduler

open Command

/-- The commands to any banks keep their distances, as far as the bus as a whole has to keep
them. -/
structure Trace.KeepsBusTiming (T : Trace) (c : Config) : Prop where
  /-- One row is opened at most in a cycle. -/
  oneActivate : ∀ t, ((T.commandsAt t).filter isActivate).length ≤ 1
  /-- Data is moved once at most in a cycle. -/
  oneColumn : ∀ t, ((T.commandsAt t).filter isColumn).length ≤ 1
  /-- Rows are opened at some distance. -/
  activateToActivate : T.Apart isActivate isActivate (c.timing.tRRD.getD 0)
  /-- Four rows are opened at most in every stretch of cycles as long as the window. -/
  fourActivates : ∀ window, c.timing.tFAW = some window → ∀ t,
    (((T.drop t).take window).flatten.filter isActivate).length ≤ 4
  /-- Data is moved at some distance. -/
  columnToColumn : T.Apart isColumn isColumn (c.timing.tCCD.getD 0)
  /-- Data is written some time after it was last read. -/
  readToWrite : T.Apart isRead isWrite c.readToWrite

/-! ### Counting commands -/

/-- Every entry of a trace is the commands of a cycle. -/
theorem Trace.exists_commandsAt {T : Trace} {commands : List Command} (mem : commands ∈ T) :
    ∃ t, T.commandsAt t = commands := by
  obtain ⟨t, within, rfl⟩ := List.mem_iff_getElem.1 mem
  exact ⟨t, List.getD_eq_getElem _ _ within⟩

/-- Where a cycle opens one row at most, a stretch of cycles opens four at most if and only if
four of its cycles at most open one. -/
theorem Trace.limited_iff {T : Trace}
    (single : ∀ t, ((T.commandsAt t).filter isActivate).length ≤ 1) (window : Nat) :
    ActivateWindow.Limited (T.map fun commands => commands.any isActivate) window ↔
      ∀ t, (((T.drop t).take window).flatten.filter isActivate).length ≤ 4 := by
  refine forall_congr' fun t => ?_
  have part : ∀ commands ∈ (T.drop t).take window, (commands.filter isActivate).length ≤ 1 := by
    intro commands mem
    obtain ⟨s, rfl⟩ := exists_commandsAt (List.mem_of_mem_drop (List.mem_of_mem_take mem))
    exact single s
  rw [length_filter_flatten part, List.map_take, List.map_drop]
  rfl

namespace Controller

variable {c : Config} {k : Controller} {T : Trace} {offers : List (Option BankRequest)}

/-! ### One cycle -/

/-- What is on the bus has been checked, or belongs to a round, whose commands are of none of these
kinds. -/
theorem permits_step (built : k.BuiltFrom c) {command : Command}
    (mem : command ∈ (k.step offers).2.commands) :
    k.bus.Permits k.refresher.evaluate command := by
  by_cases state : k.bus.state = .refresh
  · constructor <;> intro kind <;>
      rcases command_of_refresh built state mem with ⟨-, rfl⟩ | rfl | rfl <;> cases kind
  · exact CommandBus.permits_of_mem_commands built.placed state mem

/-- Some command of a kind on the bus has been checked, or belongs to a round. -/
theorem exists_permits_step (built : k.BuiltFrom c) {kind : Command → Bool}
    (h : (k.step offers).2.commands.any kind = true) :
    ∃ command, kind command = true ∧ k.bus.Permits k.refresher.evaluate command := by
  obtain ⟨command, mem, ofKind⟩ := List.any_eq_true.1 h
  exact ⟨command, ofKind, permits_step built mem⟩

/-- A cycle opens one row at most. -/
theorem length_activates_le_one (built : k.BuiltFrom c) (offers : List (Option BankRequest)) :
    ((k.step offers).2.commands.filter isActivate).length ≤ 1 := by
  by_cases state : k.bus.state = .refresh
  · exact Nat.le_trans (List.length_filter_le _ _) (length_commands_of_refresh built state offers)
  · have rows : ((k.step offers).2.commands.filter isRow).length ≤ 1 :=
      CommandBus.length_rows_le_one built.placed state
    have fewer : ((k.step offers).2.commands.filter isActivate).Sublist
        ((k.step offers).2.commands.filter isRow) :=
      List.monotone_filter_right _ fun _ => isRow_of_isActivate
    exact Nat.le_trans fewer.length_le rows

/-- A cycle moves data once at most. -/
theorem length_columns_le_one (built : k.BuiltFrom c) (offers : List (Option BankRequest)) :
    ((k.step offers).2.commands.filter isColumn).length ≤ 1 := by
  by_cases state : k.bus.state = .refresh
  · exact Nat.le_trans (List.length_filter_le _ _) (length_commands_of_refresh built state offers)
  · exact CommandBus.length_columns_le_one built.placed state

/-- **A cycle keeps the distances**, since its commands were checked against registers that cover
the trace so far. -/
theorem KeepsBusTiming.step (kept : T.KeepsBusTiming c) (built : k.BuiltFrom c)
    (timings : k.bus.BuiltFrom c) (guarded : k.bus.Guarded T) (offers : List (Option BankRequest)) :
    Trace.KeepsBusTiming (T ++ [(k.step offers).2.commands]) c := by
  have oneActivate : ∀ t, ((Trace.commandsAt (T ++ [(k.step offers).2.commands]) t).filter
      isActivate).length ≤ 1 := by
    intro t
    rw [Trace.commandsAt_concat]
    split
    · exact length_activates_le_one built offers
    · exact kept.oneActivate t
  refine ⟨oneActivate, ?_, ?_, ?_, ?_, ?_⟩
  · intro t
    rw [Trace.commandsAt_concat]
    split
    · exact length_columns_le_one built offers
    · exact kept.oneColumn t
  · refine kept.activateToActivate.concat fun now s before => ?_
    obtain ⟨command, opens, permits⟩ := exists_permits_step built now
    rw [← timings.rowToRow]
    exact guarded.rowToRow.of_ready (permits.activate opens).1 before
  · intro window asked
    have limited := (Trace.limited_iff kept.oneActivate window).2 (kept.fourActivates window asked)
    rw [← Trace.limited_iff oneActivate, List.map_append]
    refine limited.concat fun now => ?_
    obtain ⟨command, opens, permits⟩ := exists_permits_step built now
    have room := guarded.activateWindow.ready_iff.1 (permits.activate opens).2.1
    rwa [timings.activateWindow, asked] at room
  · refine kept.columnToColumn.concat fun now s before => ?_
    obtain ⟨command, moves, permits⟩ := exists_permits_step built now
    rw [← timings.columnToColumn]
    exact guarded.columnToColumn.of_ready (permits.column moves) before
  · refine kept.readToWrite.concat fun now s before => ?_
    obtain ⟨command, writes, permits⟩ := exists_permits_step built now
    rw [← timings.readToWrite]
    exact guarded.writing (permits.write writes) s before

/-! ### Runs -/

/-- The registers of the bus are right, and so are the distances. -/
structure BusTimed (c : Config) (k : Controller) (T : Trace) : Prop where
  /-- The distances are those of the configuration. -/
  timings : k.bus.BuiltFrom c
  /-- The registers guard the commands so far. -/
  guarded : k.bus.Guarded T
  /-- The distances were kept so far. -/
  kept : T.KeepsBusTiming c

/-- Nothing has been issued at first. -/
theorem busTimed_build (c : Config) : BusTimed c (build c) [] where
  timings := CommandBus.builtFrom_new c
  guarded := CommandBus.guarded_new c
  kept :=
    { oneActivate := fun _ => Nat.zero_le 1
      oneColumn := fun _ => Nat.zero_le 1
      activateToActivate := Trace.apart_nil _ _ _
      fourActivates := fun window _ t => by
        rw [List.drop_nil, List.take_nil]
        exact Nat.zero_le 4
      columnToColumn := Trace.apart_nil _ _ _
      readToWrite := Trace.apart_nil _ _ _ }

/-- A cycle keeps the registers right, and the distances with them. What is issued was checked
against registers that were right before. -/
theorem BusTimed.step (built : k.BuiltFrom c) (timed : BusTimed c k T)
    (offers : List (Option BankRequest)) :
    BusTimed c (k.step offers).1 (T ++ [(k.step offers).2.commands]) where
  timings := by
    rw [bus_step]
    exact timed.timings.commit _ _
  guarded := by
    rw [bus_step]
    have reading : (k.step offers).2.commands.any isRead = true → k.bus.state = .read := by
      intro now
      obtain ⟨command, reads, permits⟩ := exists_permits_step built now
      exact permits.read reads
    exact timed.guarded.commit reading _
  kept := KeepsBusTiming.step timed.kept built timed.timings timed.guarded offers

/-- The registers of the bus and the distances are right after every run. -/
theorem busTimed_run (a : c.Accepted) (past : List (List (Option BankRequest))) :
    BusTimed c ((build c).run past).1 ((build c).trace past) := by
  refine trace_induction (P := BusTimed c) (busTimed_build c) ?_ past
  intro k T offers reached timed
  exact timed.step (reached.builtFrom a) offers

/-- **The distances between all banks are kept.** A controller for an accepted configuration
keeps them over every run, whatever is offered to it and however often it refreshes. -/
theorem exists_new_keepsBusTiming (accepted : c.validate = .ok ()) :
    ∃ start, Controller.new c = .ok start ∧
      ∀ past, Trace.KeepsBusTiming (start.trace past) c := by
  have a := Config.validate_eq_ok_iff.1 accepted
  exact ⟨build c, new_of_accepted accepted, fun past => (busTimed_run a past).kept⟩

/-- All four distances between banks are asked for, on an interface of a single phase. -/
def allBusTimings : Config where
  phy := { phases := 1, writePhase := 0, readRowPhase := 0 }
  timing := { tRRD := some 3, tFAW := some 16, tCCD := some 2, tRTW := some 5 }

/-- Every distance between banks may be asked for, on a single phase as well. -/
theorem new_keepsBusTiming_of_all_timings :
    allBusTimings.validate = .ok () ∧
      ∃ start, Controller.new allBusTimings = .ok start ∧
        ∀ past, Trace.KeepsBusTiming (start.trace past) allBusTimings :=
  ⟨by decide, exists_new_keepsBusTiming (by decide)⟩

end Controller

end DramScheduler
