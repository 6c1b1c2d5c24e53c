import DramScheduler.Address
import DramScheduler.Bank.Queue
import DramScheduler.Command
import Mathlib.Logic.Function.Basic

/-!
# Open rows, as the memory sees them

The memory knows nothing of machines and their states. All it sees is a sequence of commands,
and these alone decide which row of which bank is open. `OpenRows.replay` plays a sequence on
banks that start with given rows, and `OpenRows.Legal` is what a command has to respect.

Commands to one bank leave the rows of the others as they are, so a sequence without commands
to all banks can be replayed bank by bank (`OpenRows.replay_filter`).

## Main definitions

* `OpenRows.replay` — the open rows after a sequence of commands;
* `OpenRows.Legal` — what is asked of a command while given rows are open;
* `OpenRows.bursts` — the column commands, each with the row that it finds open.
-/

namespace DramScheduler

/-- For each bank, the row that is open, if there is one. -/
abbrev OpenRows : Type :=
  Nat → Option Nat

/-- A column command, with the row that is open in its bank when it comes. -/
structure Burst where
  /-- A column command. -/
  command : Command
  /-- The row that it finds open. -/
  row : Option Nat
  deriving DecidableEq, Repr, Inhabited

/-- A burst moves the data of a location, in the given direction. -/
def Burst.Moves (burst : Burst) (isWrite : Bool) (l : Location) : Prop :=
  (∃ autoPrecharge, burst.command =
    if isWrite then .write l.bank l.col autoPrecharge else .read l.bank l.col autoPrecharge) ∧
    burst.row = some l.row

namespace OpenRows

variable {rows : OpenRows} {bank : Nat} {command : Command} {commands : List Command}

/-- No row is open in any bank. -/
def allClosed : OpenRows :=
  fun _ => none

/-- The open rows after a command. A column command may close the row that it has used, and a
precharge closes one bank or all of them. -/
def apply (rows : OpenRows) : Command → OpenRows
  | .activate bank row => Function.update rows bank (some row)
  | .precharge _ true => allClosed
  | .precharge bank false => Function.update rows bank none
  | .read bank _ true | .write bank _ true => Function.update rows bank none
  | _ => rows

/-- The open rows after a sequence of commands, played one after another. -/
def replay (rows : OpenRows) (commands : List Command) : OpenRows :=
  commands.foldl apply rows

/-- What a command has to respect while the given rows are open: rows are opened in closed
banks and closed in open ones, data moves in the row of the request that the bank is serving,
and commands to all banks find every bank closed. -/
def Legal (split : RowSplit) (serving : Nat → Option BankRequest) (rows : OpenRows) :
    Command → Prop
  | .nop => True
  | .activate bank _ => rows bank = none
  | .precharge bank false => (rows bank).isSome
  | .precharge _ true | .refresh _ | .calibrate => rows = allClosed
  | .read bank col _ => ∃ request, serving bank = some request ∧ request.isWrite = false ∧
      col = split.col request.address ∧ rows bank = some (split.row request.address)
  | .write bank col _ => ∃ request, serving bank = some request ∧ request.isWrite = true ∧
      col = split.col request.address ∧ rows bank = some (split.row request.address)

/-- The bursts among a sequence of commands. -/
def bursts (rows : OpenRows) : List Command → List Burst
  | [] => []
  | command :: rest =>
    (if command.isColumn then [⟨command, command.bank?.bind rows⟩] else []) ++
      (rows.apply command).bursts rest

/-! ### Replaying -/

/-- Nothing changes without a command. -/
@[simp] theorem replay_nil (rows : OpenRows) : rows.replay [] = rows :=
  rfl

/-- The first command is played first. -/
@[simp] theorem replay_cons (rows : OpenRows) (command : Command) (commands : List Command) :
    rows.replay (command :: commands) = (rows.apply command).replay commands :=
  rfl

/-- A sequence can be played in two parts. -/
@[simp] theorem replay_append (rows : OpenRows) (first second : List Command) :
    rows.replay (first ++ second) = (rows.replay first).replay second :=
  List.foldl_append

/-- Commands that leave the rows as they are do so one after another. -/
theorem replay_of_apply_eq (still : ∀ command ∈ commands, rows.apply command = rows) :
    rows.replay commands = rows := by
  induction commands with
  | nil => rfl
  | cons command rest ih =>
    rw [replay_cons, still command (by simp)]
    exact ih fun later mem => still later (by simp [mem])

/-- A command to one bank leaves the rows of the others as they are. -/
theorem apply_of_ne {other : Nat} (single : command.bank? = some other) (h : other ≠ bank) :
    rows.apply command bank = rows bank := by
  cases command with
  | activate b row =>
    cases single
    exact Function.update_of_ne h.symm _ _
  | precharge b all =>
    cases all with
    | true => cases single
    | false =>
      cases single
      exact Function.update_of_ne h.symm _ _
  | read b col ap | write b col ap =>
    cases ap with
    | true =>
      cases single
      exact Function.update_of_ne h.symm _ _
    | false => rfl
  | nop | refresh _ | calibrate => rfl

/-- What a command makes of the row of a bank depends on that row alone, even if the command is to
all banks. -/
theorem apply_congr {rows' : OpenRows} (same : rows bank = rows' bank) (command : Command) :
    rows.apply command bank = rows'.apply command bank := by
  by_cases single : ∃ other, command.bank? = some other ∧ other ≠ bank
  · obtain ⟨other, addressed, h⟩ := single
    rw [apply_of_ne addressed h, apply_of_ne addressed h, same]
  · cases command with
    | activate b row =>
      have here : b = bank := by simpa [Command.bank?] using single
      simp [apply, here]
    | precharge b all =>
      cases all with
      | true => rfl
      | false =>
        have here : b = bank := by simpa [Command.bank?] using single
        simp [apply, here]
    | read b col ap | write b col ap =>
      have here : b = bank := by simpa [Command.bank?] using single
      cases ap <;> simp [apply, here, same]
    | nop | refresh _ | calibrate => exact same

/-- The row of a bank depends on the commands to that bank alone, if there are none to all banks.
Induction on the commands, each of which is to the bank or leaves its row alone. -/
theorem replay_filter (singles : ∀ command ∈ commands, command.bank?.isSome) (rows : OpenRows)
    (bank : Nat) :
    rows.replay commands bank =
      rows.replay (commands.filter fun command => command.bank? == some bank) bank := by
  suffices generalized : ∀ rows' : OpenRows, rows bank = rows' bank → rows.replay commands bank =
      rows'.replay (commands.filter fun command => command.bank? == some bank) bank from
    generalized rows rfl
  induction commands generalizing rows with
  | nil => exact fun _ same => same
  | cons command rest ih =>
    intro rows' same
    obtain ⟨other, addressed⟩ := Option.isSome_iff_exists.1 (singles command (by simp))
    have later : ∀ command ∈ rest, command.bank?.isSome := fun command mem =>
      singles command (by simp [mem])
    by_cases h : other = bank
    · have here : (command.bank? == some bank) = true := by simp [addressed, h]
      rw [List.filter_cons, if_pos here, replay_cons, replay_cons]
      exact ih later _ _ (apply_congr same command)
    · have elsewhere : ¬ (command.bank? == some bank) = true := by simp [addressed, h]
      rw [List.filter_cons, if_neg elsewhere, replay_cons]
      exact ih later _ _ ((apply_of_ne addressed h).trans same)

/-- Commands to other banks leave the row of a bank as it is. -/
theorem replay_of_filter_eq_nil (singles : ∀ command ∈ commands, command.bank?.isSome)
    (none_here : (commands.filter fun command => command.bank? == some bank) = []) :
    rows.replay commands bank = rows bank := by
  rw [replay_filter singles, none_here, replay_nil]

/-! ### Bursts -/

/-- The bursts of the second part find the rows open that the first part leaves. -/
theorem bursts_append (rows : OpenRows) (first second : List Command) :
    rows.bursts (first ++ second) = rows.bursts first ++ (rows.replay first).bursts second := by
  induction first generalizing rows with
  | nil => rfl
  | cons command rest ih => rw [List.cons_append, bursts, bursts, ih, List.append_assoc]; rfl

/-- There is one burst for each column command. -/
theorem map_command_bursts (rows : OpenRows) (commands : List Command) :
    (rows.bursts commands).map Burst.command = commands.filter Command.isColumn := by
  induction commands generalizing rows with
  | nil => rfl
  | cons command rest ih =>
    rw [bursts, List.map_append, ih, List.filter_cons]
    split
    · rfl
    · exact List.nil_append _

/-- Every burst is one of the commands. -/
theorem command_mem_of_mem_bursts {burst : Burst} (h : burst ∈ rows.bursts commands) :
    burst.command ∈ commands ∧ burst.command.isColumn = true := by
  have among := List.mem_map_of_mem (f := Burst.command) h
  rw [map_command_bursts] at among
  exact List.mem_filter.1 among

/-- There are as many bursts as column commands. -/
theorem length_bursts (rows : OpenRows) (commands : List Command) :
    (rows.bursts commands).length = (commands.filter Command.isColumn).length := by
  rw [← map_command_bursts rows, List.length_map]

/-- There is no burst without a column command. -/
theorem bursts_eq_nil (rowsOnly : ∀ command ∈ commands, command.isColumn = false) :
    rows.bursts commands = [] := by
  refine List.eq_nil_iff_forall_not_mem.2 fun burst h => ?_
  obtain ⟨mem, column⟩ := command_mem_of_mem_bursts h
  rw [rowsOnly _ mem] at column
  cases column

/-- The bursts of a bank depend on the commands to that bank alone, if there are none to all banks:
neither which of them there are nor the rows they find open is up to the others. -/
theorem bursts_filter (singles : ∀ command ∈ commands, command.bank?.isSome) (rows : OpenRows)
    (bank : Nat) :
    (rows.bursts commands).filter (fun burst => burst.command.bank? == some bank) =
      rows.bursts (commands.filter fun command => command.bank? == some bank) := by
  suffices generalized : ∀ rows' : OpenRows, rows bank = rows' bank →
      (rows.bursts commands).filter (fun burst => burst.command.bank? == some bank) =
        rows'.bursts (commands.filter fun command => command.bank? == some bank) from
    generalized rows rfl
  induction commands generalizing rows with
  | nil => exact fun _ _ => rfl
  | cons command rest ih =>
    intro rows' same
    obtain ⟨other, addressed⟩ := Option.isSome_iff_exists.1 (singles command (by simp))
    have later : ∀ command ∈ rest, command.bank?.isSome := fun command mem =>
      singles command (by simp [mem])
    rw [bursts, List.filter_append, List.filter_cons]
    by_cases h : other = bank
    · have here : (command.bank? == some bank) = true := by simp [addressed, h]
      have row : command.bank?.bind rows = command.bank?.bind rows' := by
        simp [addressed, h, same]
      rw [ih later _ _ (apply_congr same command), if_pos here, bursts, row]
      congr 1
      split <;> simp [here]
    · have elsewhere : ¬ (command.bank? == some bank) = true := by simp [addressed, h]
      rw [ih later _ _ ((apply_of_ne addressed h).trans same), if_neg elsewhere]
      split <;> simp [elsewhere]

end OpenRows

end DramScheduler
