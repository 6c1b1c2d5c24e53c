import DramScheduler.Proofs.Checked.Arbiter
import DramScheduler.Proofs.Config.Acceptance
import DramScheduler.Proofs.Timing.History

/-!
# A command bus without faults

The decision of a cycle takes the entries of lists with a default and computes nothing. It is the
edge that does: two grants move, the activation window and the column counter count, a turn counts
down, and every command that was issued is put on its phase. There the rank of its bank selects a
line, and the bank number has to be one that the configuration has for the line to be there
(`Phases.Wired`).

## Main results

* `Phases.commitM_eq_ok` — commands are put on the phases;
* `Bandwidth.tickM_eq_ok` — the column counter stays below its period;
* `CommandBus.commitM_eq_ok` — the clock edge of the bus.
-/

namespace DramScheduler

open Checked

/-! ### Phases -/

namespace Phase

variable {bankBits ranks rank : Nat}

/-- All selects released. As many ranks as there are lines are told apart first, because their mask
cannot be made by a shift. -/
def releasedM (ranks : Nat) : Checked Nat :=
  if maxRanks ≤ ranks then return Word.top else mask 32 ranks

/-- The selects of a command for a rank: all of them released, but for the one line that is
pulled. -/
def selectM (command : Command) (ranks rank : Nat) : Checked Nat := do
  let all ← releasedM ranks
  if command.selectsAllRanks || ranks ≤ 1 then return 0
  else return all &&& (Word.top ^^^ (← shiftLeft 32 1 rank))

/-- Puts a command on a phase, in words of the machine. -/
def driveM (command : Command) (bankBits ranks : Nat) : Checked Phase := do
  let index := command.bank?.getD 0
  let rank ← shiftRight 64 index bankBits
  let csN ← selectM command ranks (rank % 2 ^ 32)
  let banks ← mask 64 bankBits
  let pins := command.pins
  return {
    csN := csN
    bank := (index &&& banks) % bankBusBound
    address := pins.address
    rasN := !pins.ras
    casN := !pins.cas
    weN := !pins.we
    readEnable := command.isRead
    writeEnable := command.isWrite }

/-- The released selects have a line for every rank, also where there are as many ranks as lines. -/
theorem releasedM_eq_ok (few : ranks ≤ maxRanks) : releasedM ranks = .ok (2 ^ ranks - 1) := by
  rw [releasedM]
  split
  · next many =>
    rw [Nat.le_antisymm few many]
    rfl
  · next fewer => exact mask_eq_ok (Nat.lt_of_not_le fewer)

/-- Every select is released but the one of a rank. -/
theorem and_xor_eq_selectOnly (few : ranks ≤ maxRanks) (inRange : rank < ranks) :
    (2 ^ ranks - 1) &&& (Word.top ^^^ 2 ^ rank) = selectOnly ranks rank := by
  have line : rank % maxRanks = rank := Nat.mod_eq_of_lt (Nat.lt_of_lt_of_le inRange few)
  have all : released ranks = 2 ^ ranks - 1 := by
    rw [released, Nat.min_eq_left few, Nat.one_shiftLeft]
  have top : Word.top = 2 ^ 32 - 1 := by decide
  have below : 2 ^ rank < 2 ^ ranks := Nat.pow_lt_pow_right (by decide) inRange
  have word : ranks ≤ 32 := few
  rw [selectOnly, line, all, Nat.testBit_two_pow_sub_one, decide_eq_true inRange, if_pos rfl,
    Nat.one_shiftLeft, top]
  refine Nat.eq_of_testBit_eq fun i => ?_
  rw [Nat.sub_sub, Nat.add_comm 1, Nat.testBit_two_pow_sub_succ below, Nat.testBit_and,
    Nat.testBit_xor, Nat.testBit_two_pow_sub_one, Nat.testBit_two_pow_sub_one]
  rcases Nat.lt_or_ge i ranks with within | beyond
  · rw [decide_eq_true within, decide_eq_true (Nat.lt_of_lt_of_le within word), Bool.true_xor]
  · rw [decide_eq_false (Nat.not_lt.2 beyond)]
    rfl

/-- The selects are made without faults if there is a line for the rank. -/
theorem selectM_eq_ok (few : ranks ≤ maxRanks) (inRange : rank < ranks) (command : Command) :
    selectM command ranks rank = .ok
      (if command.selectsAllRanks || ranks ≤ 1 then 0 else selectOnly ranks rank) := by
  have line : rank < 32 := Nat.lt_of_lt_of_le inRange few
  have fits : 2 ^ rank < 2 ^ 32 := Nat.pow_lt_pow_right (by decide) line
  rw [selectM, releasedM_eq_ok few, ok_bind]
  split
  · rfl
  · rw [shiftLeft_eq_ok line, Nat.one_shiftLeft, Nat.mod_eq_of_lt fits, ok_bind,
      and_xor_eq_selectOnly few inRange]
    rfl

/-- A command is put on a phase without faults if the rank of its bank has a select. -/
theorem driveM_eq_ok (narrow : bankBits < 64) (few : ranks ≤ maxRanks) {command : Command}
    (inRange : command.bank?.getD 0 >>> bankBits < ranks) :
    driveM command bankBits ranks = .ok (drive command bankBits ranks) := by
  have word : command.bank?.getD 0 >>> bankBits < 2 ^ 32 :=
    Nat.lt_trans (Nat.lt_of_lt_of_le inRange few) (by decide)
  rw [driveM, shiftRight_eq_ok narrow, ok_bind, Nat.mod_eq_of_lt word,
    selectM_eq_ok few inRange, ok_bind, mask_eq_ok narrow, ok_bind,
    Nat.and_two_pow_sub_one_eq_mod, drive, Nat.one_shiftLeft]
  rfl

end Phase

namespace Phases

variable {p : Phases} {c : Config}

/-- The layout of the banks on the phases is the one of the configuration. -/
structure Wired (c : Config) (p : Phases) : Prop where
  /-- The bank bus has the lines of the geometry. -/
  bankBits : p.bankBits = c.geometry.bankBits
  /-- There is a select for every rank. -/
  ranks : p.ranks = c.phy.ranks

/-- Registers the commands issued in a cycle, one entry per phase, each driven in words of the
machine. -/
def commitM (p : Phases) (issued : List (Option Command)) : Checked Phases := do
  let driven ← (issued.take p.count).mapM fun
    | some command => Phase.driveM command p.bankBits p.ranks
    | none => return Phase.idle
  return { p with registers := driven ++ p.registers.drop issued.length }

/-- The rank of a bank has a select: the banks are numbered over all ranks. -/
theorem Wired.rank_lt (wired : p.Wired c) (a : c.Accepted) {bank : Nat} (inRange : bank < c.banks) :
    bank >>> p.bankBits < p.ranks := by
  rw [a.banks_eq, a.bankIndexBits_eq, Nat.pow_add] at inRange
  rw [wired.bankBits, wired.ranks, a.ranks_eq, Nat.shiftRight_eq_div_pow]
  exact Nat.div_lt_of_lt_mul inRange

/-- **Commands for the banks are put on the phases** without faults, since the layout has a select
for the rank of every bank. -/
theorem commitM_eq_ok (wired : p.Wired c) (a : c.Accepted) {issued : List (Option Command)}
    (inRange : ∀ command, some command ∈ issued → command.bank?.getD 0 < c.banks) :
    p.commitM issued = .ok (p.commit issued) := by
  have narrow : p.bankBits < 64 := by
    have few := a.bankIndexBits_le
    rw [a.bankIndexBits_eq] at few
    rw [wired.bankBits]
    omega
  have lines : p.ranks ≤ Phase.maxRanks := by
    rw [wired.ranks]
    exact a.ranks.2
  rw [commitM, commit, mapM_eq_ok (g := fun
    | some command => Phase.drive command p.bankBits p.ranks
    | none => Phase.idle), ok_bind, List.map_take]
  · rfl
  · intro entry mem
    cases entry with
    | none => rfl
    | some command =>
      have bank := inRange command (List.mem_of_mem_take mem)
      exact Phase.driveM_eq_ok narrow lines (wired.rank_lt a bank)

end Phases

/-! ### Counting columns -/

namespace Bandwidth

variable {b : Bandwidth}

/-- The counts of a period are no higher than its cycles, and its cycles can be counted. -/
structure Countable (b : Bandwidth) : Prop where
  /-- A cycle has one read at most. -/
  reads_le : b.reads ≤ b.cycle
  /-- It has one write at most. -/
  writes_le : b.writes ≤ b.cycle
  /-- The period is not over. -/
  cycle_lt : b.cycle < b.period
  /-- A period can be counted. -/
  period_le : b.period ≤ 2 ^ 63

/-- A counter at its start is within its words, however long its period. -/
theorem countable_new (periodBits dataWidth : Nat) : (new periodBits dataWidth).Countable where
  reads_le := Nat.le_refl 0
  writes_le := Nat.le_refl 0
  cycle_lt := by
    rw [new]
    dsimp only
    rw [Nat.one_shiftLeft]
    exact Nat.two_pow_pos _
  period_le := by
    rw [new]
    dsimp only
    rw [Nat.one_shiftLeft]
    exact Nat.pow_le_pow_right (by decide) (Nat.min_le_right _ _)

/-- A clock edge leaves the counts within the period: each cycle has a read and a write at most. -/
theorem Countable.tick (countable : b.Countable) (read write : Bool) :
    (b.tick read write).Countable := by
  obtain ⟨reads, writes, running, period⟩ := countable
  have one : ∀ event : Bool, event.toNat ≤ 1 := Bool.toNat_le
  have first := one read
  have second := one write
  rw [Bandwidth.tick]
  split
  · exact ⟨Nat.le_refl 0, Nat.le_refl 0, by dsimp only; omega, period⟩
  · exact ⟨by dsimp only; omega, by dsimp only; omega, by dsimp only; omega, period⟩

/-- One clock edge, with counters of 64 bits. They go up by one at most, and start anew with a
period. -/
def tickM (b : Bandwidth) (read write : Bool) : Checked Bandwidth := do
  let reads ← add 64 b.reads read.toNat
  let writes ← add 64 b.writes write.toNat
  let cycle ← add 64 b.cycle 1
  if cycle = b.period then
    return { b with
      cycle := 0, reads := 0, writes := 0, latchedReads := reads, latchedWrites := writes }
  else return { b with cycle := cycle, reads := reads, writes := writes }

/-- **The column counter stays within its words**, because no count is ever higher than the cycles
of its period. -/
theorem tickM_eq_ok (countable : b.Countable) (read write : Bool) :
    b.tickM read write = .ok (b.tick read write) := by
  obtain ⟨reads, writes, running, period⟩ := countable
  have first := Bool.toNat_le read
  have second := Bool.toNat_le write
  rw [tickM, add_eq_ok (by omega), ok_bind, add_eq_ok (by omega), ok_bind, add_eq_ok (by omega),
    ok_bind, Bandwidth.tick]
  split <;> rfl

end Bandwidth

/-! ### The bus -/

namespace CommandBus

variable {b : CommandBus} {c : Config} {d : Decision} {refresh : RefresherOutputs}
  {h : ActivateHistory}

/-- What the arithmetic of a bus relies on. All of it is kept by every edge. -/
structure Countable (c : Config) (b : CommandBus) : Prop where
  /-- The registers are within their bounds. -/
  bounded : b.Bounded c.banks
  /-- The banks are laid out as the configuration says. -/
  wired : b.phases.Wired c
  /-- The column count is within its period, if it is kept. -/
  bandwidth : ∀ counter, b.bandwidth = some counter → counter.Countable

/-- The arithmetic of a new bus has what it relies on, as soon as there is a bank. -/
theorem countable_new (some_bank : 0 < c.banks) : (CommandBus.new c).Countable c where
  bounded := bounded_new some_bank
  wired := ⟨rfl, rfl⟩
  bandwidth := by
    intro counter found
    rw [new] at found
    dsimp only at found
    split at found
    · cases found
      exact Bandwidth.countable_new _ _
    · cases found

/-- A clock edge keeps what the arithmetic relies on, whatever was decided. -/
theorem Countable.commit (countable : b.Countable c) (d : Decision) (refresh : RefresherOutputs) :
    (b.commit d refresh).Countable c where
  bounded := countable.bounded.commit d refresh
  wired := ⟨countable.wired.bankBits, countable.wired.ranks⟩
  bandwidth := by
    intro counter found
    obtain ⟨before, earlier, rfl⟩ := Option.map_eq_some_iff.1 found
    exact (countable.bandwidth before earlier).tick _ _

/-- The row chooser after an edge, if there is one. -/
def commitRowM (b : CommandBus) (d : Decision) : Checked (Option Chooser) :=
  match b.rowChooser, d.row with
  | some chooser, some selection => return some (← chooser.commitM selection d.rowReady)
  | chooser, _ => return chooser

/-- The column count after an edge, if it is kept. -/
def countM (b : CommandBus) (read write : Bool) : Checked (Option Bandwidth) :=
  match b.bandwidth with
  | some counter => return some (← counter.tickM read write)
  | none => return none

/-- Where the bus goes; only a turn to writing counts, and it ends before it would count below
zero. -/
def nextStateM (b : CommandBus) (d : Decision) (refresh : RefresherOutputs) : Checked BusState :=
  match b.state with
  | .readToWrite remaining =>
    if remaining ≤ 1 then return .write else return .readToWrite (← sub remaining 1)
  | _ => return b.nextState d refresh

/-- One clock edge after the given decision, of the bus and of its activation window. The window
comes along in its register form, whose counter could go below zero. -/
def commitM (b : CommandBus) (h : ActivateHistory) (d : Decision) (refresh : RefresherOutputs) :
    Checked (CommandBus × ActivateHistory) := do
  let commands := d.commands
  let activate := commands.any Command.isActivate
  let read := commands.any Command.isRead
  let write := commands.any Command.isWrite
  let columnChooser ← b.columnChooser.commitM d.column d.columnReady
  let rowChooser ← b.commitRowM d
  let history ← h.tickM activate
  let bandwidth ← b.countM read write
  let next ← b.nextStateM d refresh
  let switches ← raise 64 b.switches (turns b.state next)
  let phases ← b.phases.commitM d.issued
  return ({ b with
    state := next
    columnChooser := columnChooser
    rowChooser := rowChooser
    phases := phases
    rowToRow := b.rowToRow.tick activate
    activateWindow := b.activateWindow.tick activate
    columnToColumn := b.columnToColumn.tick (read || write)
    writeToRead := b.writeToRead.tick write
    readBudget := b.readBudget.tick (b.state == .read)
    writeBudget := b.writeBudget.tick (b.state == .write)
    bandwidth := bandwidth
    switches := switches }, history)

/-- The row chooser moves its grant without faults. -/
theorem commitRowM_eq_ok (countable : b.Countable c) (few : c.banks ≤ maxBanks) (d : Decision)
    (refresh : RefresherOutputs) : b.commitRowM d = .ok (b.commit d refresh).rowChooser := by
  have addressable : c.banks ≤ 2 ^ 63 := few.trans (by decide)
  rw [commitRowM, commit]
  cases rows : b.rowChooser with
  | none => rfl
  | some chooser =>
    cases d.row with
    | none => rfl
    | some selection =>
      dsimp only
      rw [Chooser.commitM_eq_ok (countable.bounded.row chooser rows) addressable]
      rfl

/-- The columns of a cycle are counted without faults. -/
theorem countM_eq_ok (countable : b.Countable c) (read write : Bool) :
    b.countM read write = .ok (b.bandwidth.map fun counter => counter.tick read write) := by
  rw [countM]
  cases kept : b.bandwidth with
  | none => rfl
  | some counter =>
    dsimp only
    rw [Bandwidth.tickM_eq_ok (countable.bandwidth counter kept)]
    rfl

/-- The bus goes where it goes without faults: a turn that counts down has cycles left. -/
theorem nextStateM_eq_ok (b : CommandBus) (d : Decision) (refresh : RefresherOutputs) :
    b.nextStateM d refresh = .ok (b.nextState d refresh) := by
  rw [nextStateM]
  split
  · next remaining state =>
    rw [nextState, state]
    dsimp only
    split
    · rfl
    · next more =>
      rw [sub_eq_ok (by omega)]
      rfl
  · rfl

/-- A clock edge turns the bus around once at most. -/
theorem switches_commit_le (b : CommandBus) (d : Decision) (refresh : RefresherOutputs) :
    (b.commit d refresh).switches ≤ b.switches + 1 :=
  Nat.add_le_add_left (Bool.toNat_le _) _

/-- **The clock edge of the bus**, if its commands are for banks that there are, if rows are opened
while the window has room, and if one more turn can be counted. -/
theorem commitM_eq_ok (countable : b.Countable c) (a : c.Accepted) {pulses : List Bool}
    (records : h.Records pulses)
    (room : d.commands.any Command.isActivate = true → h.active < ActivateWindow.limit)
    (fits : b.switches + 1 < 2 ^ 64)
    (inRange : ∀ command, some command ∈ d.issued → command.bank?.getD 0 < c.banks) :
    b.commitM h d refresh =
      .ok (b.commit d refresh, h.tick (d.commands.any Command.isActivate)) := by
  have addressable : c.banks ≤ 2 ^ 63 := a.banks_le.trans (by decide)
  rw [commitM, Chooser.commitM_eq_ok countable.bounded.column addressable, ok_bind,
    commitRowM_eq_ok countable a.banks_le d refresh, ok_bind, records.tickM_eq_ok room,
    ok_bind, countM_eq_ok countable, ok_bind, nextStateM_eq_ok, ok_bind,
    raise_eq_ok fun _ => fits, ok_bind, Phases.commitM_eq_ok countable.wired a inRange]
  rfl

end CommandBus

end DramScheduler
