/-!
# Commands on the command bus

A `Command` is what the scheduler puts on the bus in one cycle: it opens a row, closes one,
moves a burst, or maintains the device. Banks are numbered over all ranks, the rank in the
upper bits.

Two views of a command are given here. The *classes* (`isRow`, `isRead`, `isWrite`, …) are
what arbitration asks for; every command except `nop` lies in exactly one of row, read and
write (`isRow_or_isColumn`). The *pins* are the levels of the three strobes and the address
bus. Address bit 10 carries the flag of a command: auto-precharge on a column command, all
banks on a precharge or a refresh.
-/

namespace DramScheduler

/-- A command of the scheduler, with the bank, row or column that it needs. The idle bus carries
`nop`. -/
inductive Command where
  /-- Nothing on the bus. -/
  | nop
  /-- Open `row` in `bank`. -/
  | activate (bank row : Nat)
  /-- Close the open row of `bank`, or of every bank when `allBanks` is set. -/
  | precharge (bank : Nat) (allBanks : Bool)
  /-- Read a burst at `col` of the open row, closing the row afterwards if asked to. -/
  | read (bank col : Nat) (autoPrecharge : Bool)
  /-- Write a burst at `col` of the open row, closing the row afterwards if asked to. -/
  | write (bank col : Nat) (autoPrecharge : Bool)
  /-- Refresh one bank, or all of them when no bank is named. -/
  | refresh (bank : Option Nat)
  /-- A short calibration of the drivers, of all ranks at once. -/
  | calibrate
  deriving DecidableEq, Repr, Inhabited

namespace Command

/-! ### Classes -/

/-- Row and maintenance commands: those that open and close rows, refresh or calibrate. -/
def isRow : Command → Bool
  | activate .. | precharge .. | refresh _ | calibrate => true
  | _ => false

/-- Commands that move a burst out of the memory. -/
def isRead : Command → Bool
  | read .. => true
  | _ => false

/-- Commands that move a burst into the memory. -/
def isWrite : Command → Bool
  | write .. => true
  | _ => false

/-- Column commands, which occupy the data bus: the reads and the writes. -/
def isColumn (c : Command) : Bool :=
  c.isRead || c.isWrite

/-- Commands that open a row. -/
def isActivate : Command → Bool
  | activate .. => true
  | _ => false

/-- Commands that close one row or every row. -/
def isPrecharge : Command → Bool
  | precharge .. => true
  | _ => false

/-- Column commands that close their row once the burst is over, without a command of its own. -/
def autoPrecharge : Command → Bool
  | read _ _ ap | write _ _ ap => ap
  | _ => false

/-- The bank a command addresses, if it addresses a single one. A precharge of all banks carries a
bank field, but addresses none. -/
def bank? : Command → Option Nat
  | activate b _ | precharge b false | read b .. | write b .. => some b
  | refresh b => b
  | _ => none

/-- Commands that every rank has to see in the same cycle, because they concern the device as a
whole. -/
def selectsAllRanks : Command → Bool
  | precharge _ true | refresh none | calibrate => true
  | _ => false

/-- Every command but `nop` is either a row command or a column command, so the two choices of the
bus leave none out. -/
theorem isRow_or_isColumn (c : Command) : (c.isRow || c.isColumn) = (c != nop) := by
  cases c <;> rfl

/-- No command is both a row command and a column command, so none can be issued twice in a
cycle. -/
theorem not_isRow_of_isColumn {c : Command} (h : c.isColumn) : c.isRow = false := by
  cases c <;> first | rfl | cases h

/-! ### Pins -/

/-- The place of the address bit that carries a command's flag, the line A10 of the device. -/
def flagBit : Nat := 10

/-- The flag bit as a value on the address bus, nothing where the flag is low. -/
def flag (on : Bool) : Nat :=
  if on then 1 <<< flagBit else 0

/-- Levels of the control pins, active high, and the value of the address bus. Wires invert them
where they are active low. -/
structure Pins where
  ras : Bool
  cas : Bool
  we : Bool
  address : Nat
  deriving DecidableEq, Repr, Inhabited

/-- The levels that carry a command. Chip selects and the bank bus are not among them, since they
depend on how many ranks and banks there are. -/
def pins : Command → Pins
  | nop => ⟨false, false, false, 0⟩
  | activate _ row => ⟨true, false, false, row⟩
  | precharge _ all => ⟨true, false, true, flag all⟩
  | read _ col ap => ⟨false, true, false, col ||| flag ap⟩
  | write _ col ap => ⟨false, true, true, col ||| flag ap⟩
  | refresh b => ⟨true, true, false, flag b.isNone⟩
  | calibrate => ⟨false, false, true, 0⟩

end Command

end DramScheduler
