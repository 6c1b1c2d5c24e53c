import DramScheduler.Proofs.Bus.Moves
import DramScheduler.Proofs.Bus.Permits
import DramScheduler.Proofs.Memory.Trace
import DramScheduler.Proofs.Timing.Window

/-!
# The countdowns of the bus

The bus keeps the distances between commands to different banks. Three countdowns and the
activation window are armed by the commands that they guard. The turn from reading to writing has
no countdown of its own: the states on the way count the cycles that are left, and
`CommandBus.Guarded` says how much of the distance they cover.

## Main results

* `CommandBus.BuiltFrom.commit` — what a bus was built from never changes;
* `CommandBus.Guarded.commit` — the registers go on to guard the trace over a clock edge.
-/

namespace DramScheduler.CommandBus

open Command

variable {c : Config} {b : CommandBus} {T : Trace} {d : Decision} {refresh : RefresherOutputs}

/-- The distances that the configuration of a bus asks for. -/
structure BuiltFrom (c : Config) (b : CommandBus) : Prop where
  rowToRow : b.rowToRow.spacing = c.timing.tRRD.getD 0
  activateWindow : b.activateWindow.depth = c.timing.tFAW.getD 0 - 1
  columnToColumn : b.columnToColumn.spacing = c.timing.tCCD.getD 0
  writeToRead : b.writeToRead.spacing = c.writeToRead
  readToWrite : b.readToWrite = c.readToWrite

/-- A new bus asks for the distances of its configuration. -/
theorem builtFrom_new (c : Config) : (CommandBus.new c).BuiltFrom c :=
  ⟨rfl, rfl, rfl, rfl, rfl⟩

/-- A clock edge keeps the distances that are asked for: a countdown is armed or falls, and neither
changes its spacing. -/
theorem BuiltFrom.commit (built : b.BuiltFrom c) (d : Decision) (refresh : RefresherOutputs) :
    (b.commit d refresh).BuiltFrom c :=
  ⟨built.rowToRow, built.activateWindow, built.columnToColumn, built.writeToRead,
    built.readToWrite⟩

/-- The registers of a bus guard the commands on it: what they have left covers the distance from
the last command of their kind. -/
structure Guarded (b : CommandBus) (T : Trace) : Prop where
  /-- From one activate to the next, of any banks. -/
  rowToRow : b.rowToRow.Guards T isActivate
  /-- The activates that the window reaches back to. -/
  activateWindow : b.activateWindow.Tracks (T.map fun commands => commands.any isActivate)
  /-- From one column command to the next. -/
  columnToColumn : b.columnToColumn.Guards T isColumn
  /-- From a write to a read. -/
  writeToRead : b.writeToRead.Guards T isWrite
  /-- The bus is writing when it may. -/
  writing : b.state = .write → ∀ s, T.At isRead s → s + b.readToWrite ≤ T.length
  /-- The bus is turned to writing by the time it may write. -/
  turning : ∀ remaining, b.state = .readToWrite remaining →
    ∀ s, T.At isRead s → s + b.readToWrite ≤ T.length + remaining

/-- Nothing has been issued yet that there would be a distance to. -/
theorem guarded_new (c : Config) : (CommandBus.new c).Guarded [] where
  rowToRow := .nil _ _
  activateWindow := ActivateWindow.tracks_new _
  columnToColumn := .nil _ _
  writeToRead := .nil _ _
  writing state := by cases state
  turning _ state := by cases state

/-- Nothing is read in a cycle in which the bus is not reading. -/
theorem at_isRead_of_concat (reading : d.commands.any isRead = true → b.state = .read)
    (state : b.state ≠ .read) {s : Nat} (read : Trace.At (T ++ [d.commands]) isRead s) :
    T.At isRead s := by
  rcases Trace.at_concat_iff.1 read with before | ⟨-, now⟩
  · exact before
  · exact absurd (reading now) state

/-- **The registers go on to guard the trace over a clock edge**, given that data is read only while
the bus is reading. -/
theorem Guarded.commit (guarded : b.Guarded T)
    (reading : d.commands.any isRead = true → b.state = .read) (refresh : RefresherOutputs) :
    (b.commit d refresh).Guarded (T ++ [d.commands]) where
  rowToRow := guarded.rowToRow.tick id
  activateWindow := by
    rw [List.map_append]
    exact guarded.activateWindow.tick _
  columnToColumn := by
    refine guarded.columnToColumn.tick fun column => ?_
    obtain ⟨command, mem, kind⟩ := List.any_eq_true.1 column
    rw [isColumn, Bool.or_eq_true] at kind
    rw [Bool.or_eq_true, List.any_eq_true, List.any_eq_true]
    rcases kind with reads | writes
    · exact .inl ⟨command, mem, reads⟩
    · exact .inr ⟨command, mem, writes⟩
  writeToRead := guarded.writeToRead.tick id
  writing := by
    intro after s read
    have move := b.moves_nextState d refresh
    rw [show b.nextState d refresh = .write from after] at move
    have same : (b.commit d refresh).readToWrite = b.readToWrite := rfl
    have past := Trace.lt_length_of_at read
    rw [List.length_append, List.length_singleton] at past
    rw [same, List.length_append, List.length_singleton]
    cases move with
    | turnAtOnce _ _ _ short => omega
    | turned state ends =>
      have covered := guarded.turning _ state s (at_isRead_of_concat reading (by simp [state]) read)
      omega
    | keepWriting state =>
      have covered := guarded.writing state s (at_isRead_of_concat reading (by simp [state]) read)
      omega
  turning := by
    intro remaining after s read
    have move := b.moves_nextState d refresh
    rw [show b.nextState d refresh = .readToWrite remaining from after] at move
    have same : (b.commit d refresh).readToWrite = b.readToWrite := rfl
    have past := Trace.lt_length_of_at read
    rw [List.length_append, List.length_singleton] at past
    rw [same, List.length_append, List.length_singleton]
    cases move with
    | turnToWrite _ _ _ long => omega
    | keepTurning state more =>
      have covered := guarded.turning _ state s (at_isRead_of_concat reading (by simp [state]) read)
      omega

end DramScheduler.CommandBus
