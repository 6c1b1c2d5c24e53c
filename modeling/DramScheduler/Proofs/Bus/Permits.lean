import DramScheduler.Proofs.Bus.Issue

/-!
# What the bus lets through

A command reaches a phase only if a chooser looked for its kind and the bus found the distances
kept that concern all banks. `CommandBus.Permits` collects what has been checked by then, and
`CommandBus.permits_of_mem_commands` says that it has been checked for every command that is
issued while the bus is not the refresher's. Which of the choosers found the command, and whether
there are two of them, no longer matters after that.

## Main results

* `CommandBus.permits_of_mem_commands` — what has been checked for a command on the bus;
* `CommandBus.length_rows_le_one` — a cycle issues one row command at most;
* `CommandBus.issued_of_refresh` — the phases during a refresh round.
-/

namespace DramScheduler

open Command

/-- Commands that open a row are row commands. -/
theorem Command.isRow_of_isActivate {command : Command} (h : command.isActivate = true) :
    command.isRow = true := by
  cases command <;> first | rfl | cases h

namespace CommandBus

variable {b : CommandBus} {banks : List BankOutputs} {refresh : RefresherOutputs}
  {command : Command}

/-- What the bus has checked of a command before it issues it. The distances inside a bank are not
among it; the bank itself keeps them. -/
structure Permits (b : CommandBus) (refresh : RefresherOutputs) (command : Command) : Prop where
  /-- Rows are opened at some distance, and not while a refresh is requested. -/
  activate : command.isActivate = true →
    b.rowToRow.ready = true ∧ b.activateWindow.ready = true ∧ refresh.valid = false
  /-- Data is moved at some distance. -/
  column : command.isColumn = true → b.columnToColumn.ready = true
  /-- Data is read while the bus is reading. -/
  read : command.isRead = true → b.state = .read
  /-- Data is written while the bus is writing. -/
  write : command.isWrite = true → b.state = .write

/-- The columns that the bus looks for are those of its direction. -/
theorem columnChooserWants_columns (b : CommandBus) (refresh : RefresherOutputs) :
    (b.columnChooserWants refresh).reads = (b.state == .read) ∧
      (b.columnChooserWants refresh).writes = (b.state == .write) := by
  rw [columnChooserWants]
  cases b.state with
  | read => cases b.rowChooser <;> exact ⟨rfl, rfl⟩
  | write => cases b.rowChooser <;> exact ⟨rfl, rfl⟩
  | refresh => exact ⟨rfl, rfl⟩
  | writeToRead => exact ⟨rfl, rfl⟩
  | readToWrite => exact ⟨rfl, rfl⟩

/-- Column commands that the bus looks for move data in its direction. -/
theorem state_of_wanted (column : command.isColumn = true)
    (wanted : (b.columnChooserWants refresh).admits command = true) :
    (command.isRead = true → b.state = .read) ∧ (command.isWrite = true → b.state = .write) := by
  obtain ⟨reads, writes⟩ := b.columnChooserWants_columns refresh
  rw [Wants.admits, not_isRow_of_isColumn column, if_neg Bool.false_ne_true, reads, writes]
    at wanted
  cases command with
  | read => simpa [isRead, isWrite] using wanted
  | write => simpa [isRead, isWrite] using wanted
  | nop | activate | precharge | refresh | calibrate => cases column

/-- The distances that the bus has found kept when it lets a choice through, whichever chooser shows
it. -/
theorem ready_of_admits {chosen : Choice} (admitted : b.admits refresh (some chosen) = true) :
    (chosen.command.isActivate = true →
      b.rowToRow.ready = true ∧ b.activateWindow.ready = true ∧ refresh.valid = false) ∧
    (chosen.command.isColumn = true → b.columnToColumn.ready = true) := by
  rw [admits, Bool.and_eq_true, Option.any_some] at admitted
  obtain ⟨-, checked⟩ := admitted
  constructor
  · intro opens
    have row := isRow_of_isActivate opens
    have notColumn : chosen.command.isColumn = false := by
      by_contra column
      rw [not_isRow_of_isColumn (Bool.not_eq_false _ ▸ column)] at row
      cases row
    rw [if_neg (by rw [notColumn]; exact Bool.false_ne_true), opens, Bool.not_true, Bool.false_or,
      rowAllowed, Bool.and_eq_true, Bool.and_eq_true, Bool.not_eq_true'] at checked
    exact ⟨checked.1.1, checked.1.2, checked.2⟩
  · intro column
    rwa [if_pos column] at checked

/-- **What the bus has checked of a command on it**, whichever of the choosers found it and whether
there are two of them. -/
theorem permits_of_mem_commands (placed : b.WellPlaced) (state : b.state ≠ .refresh)
    (mem : command ∈ (b.evaluate banks refresh).commands) : b.Permits refresh command := by
  obtain ⟨chosen, chosenMem, rfl⟩ := List.mem_map.1 ((commands_perm placed state).mem_iff.1 mem)
  rw [Decision.choices, List.mem_append, Option.mem_toList, Option.mem_toList] at chosenMem
  rcases chosenMem with column | row
  · obtain ⟨-, wanted, admitted⟩ := taken_column column
    obtain ⟨opening, moving⟩ := ready_of_admits admitted
    refine ⟨opening, moving, ?_, ?_⟩
    · intro reads
      exact (state_of_wanted (by rw [isColumn, reads, Bool.true_or]) wanted).1 reads
    · intro writes
      exact (state_of_wanted (by rw [isColumn, writes, Bool.or_true]) wanted).2 writes
  · obtain ⟨-, -, -, admitted⟩ := taken_row row
    obtain ⟨opening, moving⟩ := ready_of_admits admitted
    have notColumn : chosen.command.isColumn = false := by
      by_contra column
      have kind := not_isRow_of_isColumn (Bool.not_eq_false _ ▸ column)
      rw [isRow_of_taken_row row] at kind
      cases kind
    rw [isColumn, Bool.or_eq_false_iff] at notColumn
    refine ⟨opening, moving, ?_, ?_⟩
    · intro reads
      rw [notColumn.1] at reads
      cases reads
    · intro writes
      rw [notColumn.2] at writes
      cases writes

/-- **One row command at most.** Whatever the phases, a cycle issues at most one row command,
because the column chooser looks for them only where there is no row chooser. -/
theorem length_rows_le_one (placed : b.WellPlaced) (state : b.state ≠ .refresh) :
    ((b.evaluate banks refresh).commands.filter isRow).length ≤ 1 := by
  refine length_filter_le_one placed state fun _ _ column row isRow => ?_
  rw [not_isRow_of_taken_column (taken_row row).1 column] at isRow
  cases isRow

/-- What is on each phase during a refresh round: the refresher's command on the first, and nothing
on the others. -/
theorem issued_of_refresh (state : b.state = .refresh) :
    (b.evaluate banks refresh).issued =
      (List.range b.phases.count).map fun i => if i = 0 then refresh.command else none := by
  have resting : b.state.direction? = none := by rw [state]; rfl
  rw [issued_evaluate, sources, state]
  dsimp only
  rw [Phases.refreshSources, List.map_map]
  refine List.map_congr_left fun i _ => ?_
  by_cases first : i = 0
  · simp [first]
  · simp [first, taken_of_not_moving resting]

end CommandBus

end DramScheduler
