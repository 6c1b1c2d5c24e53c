import DramScheduler.Proofs.Bus.Wires
import DramScheduler.Proofs.Controller.RefreshTiming

/-!
# The memory sees what was issued

The commands issued in a cycle are put on the phases of the interface and seen by the memory in the
next one. Every bank that a controller has can be told apart on the wires, and every command comes
back, but for one bit: where columns are wide enough to have a bit on the line of the flag, a column
command closes its row although it was not told to, and moves data of another column.

## Main results

* `Controller.column_lt` — columns are as wide as the geometry says;
* `Controller.Wired` — what the phases carry after a cycle;
* `Controller.exists_new_wired` — they do so over every run;
* `Controller.not_decode_eq_issued` — a column can raise the flag.
-/

namespace DramScheduler

open Command

/-! ### The phases after a cycle -/

/-- The registers carry what was issued, phase by phase, and a phase without a command is idle. -/
theorem Phases.getElem?_registers_commit {p : Phases} {issued : List (Option Command)}
    (whole : issued.length = p.count) (i : Nat) :
    (p.commit issued).registers[i]? = issued[i]?.map fun entry =>
      (entry.map fun command => Phase.drive command p.bankBits p.ranks).getD .idle := by
  have rest : p.registers.drop issued.length = [] :=
    List.drop_eq_nil_of_le (Nat.le_of_eq whole.symm)
  rw [commit, rest, List.append_nil, List.take_of_length_le (by simp [whole]), List.getElem?_map]
  congr 1
  funext entry
  cases entry <;> rfl

/-- There is a source for every phase. -/
theorem CommandBus.length_sources (b : CommandBus) : b.sources.length = b.phases.count := by
  rw [sources]
  split <;> simp [Phases.refreshSources, Phases.sources, Phases.noSources]

namespace Controller

variable {c : Config} {k : Controller} {offers : List (Option BankRequest)}

/-- The phases are those of the configuration. -/
theorem Reachable.phases (reached : Reachable c k) :
    k.bus.phases.count = c.phy.phases ∧ k.bus.phases.bankBits = c.geometry.bankBits ∧
      k.bus.phases.ranks = c.phy.ranks := by
  induction reached with
  | build => exact ⟨List.length_replicate, rfl, rfl⟩
  | step offers _ ih => exact ⟨(Phases.count_commit _ _).trans ih.1, ih.2⟩

/-- There is an entry for every phase in what is issued in a cycle. -/
theorem length_issued_step (k : Controller) (offers : List (Option BankRequest)) :
    (k.step offers).2.issued.length = k.bus.phases.count := by
  have issued : (k.step offers).2.issued =
      (k.bus.evaluate k.evaluate.banks k.refresher.evaluate).issued := rfl
  rw [issued, CommandBus.issued_evaluate, List.length_map, CommandBus.length_sources]

/-- A column command addresses the column of its request. -/
theorem column_columnCommand (m : BankMachine) (request : BankRequest) :
    (m.columnCommand request).column = m.split.col request.address := by
  rw [BankMachine.columnCommand]
  split <;> rfl

/-- Columns are as wide as the geometry says: the machine cuts them out of the address with as many
bits. -/
theorem column_lt (a : c.Accepted) (built : k.BuiltFrom c) {command : Command}
    (mem : command ∈ (k.step offers).2.commands) : command.column < 2 ^ c.geometry.colBits := by
  have some_column : 0 < 2 ^ c.geometry.colBits := Nat.two_pow_pos _
  by_cases state : k.bus.state = .refresh
  · rcases command_of_refresh built state mem with ⟨-, rfl⟩ | rfl | rfl <;> exact some_column
  · obtain ⟨i, m, found, -, offered⟩ := bank?_of_mem_commands built state mem
    cases offered with
    | @column request =>
      rw [column_columnCommand, (built.bank i m found).split]
      have word : request.address % 1 <<< c.wordBits < 2 ^ c.wordBits := by
        rw [Nat.one_shiftLeft]
        exact Nat.mod_lt _ (Nat.two_pow_pos _)
      have whole : c.wordBits + c.burstBits = c.geometry.colBits :=
        Nat.sub_add_cancel (Nat.le_of_lt a.colBits.1)
      calc c.rowSplit.col request.address
          ≤ (request.address % 1 <<< c.wordBits) <<< c.burstBits := Nat.mod_le _ _
        _ = request.address % 1 <<< c.wordBits * 2 ^ c.burstBits := Nat.shiftLeft_eq _ _
        _ < 2 ^ c.wordBits * 2 ^ c.burstBits :=
          Nat.mul_lt_mul_of_pos_right word (Nat.two_pow_pos _)
        _ = 2 ^ c.geometry.colBits := by rw [← Nat.pow_add, whole]
    | close => exact some_column
    | openRow => exact some_column

/-- A precharge of all banks names bank zero. It comes from the refresher, which puts nothing else
there. -/
theorem eq_zero_of_precharge (built : k.BuiltFrom c) {bank : Nat}
    (mem : .precharge bank true ∈ (k.step offers).2.commands) : bank = 0 := by
  by_cases state : k.bus.state = .refresh
  · rcases command_of_refresh built state mem with ⟨-, all⟩ | other | other
    · injection all
    · cases other
    · cases other
  · have single := isSome_bank?_of_mem_commands built state mem
    cases single

/-! ### What the memory sees -/

/-- The phases carry what was issued in a cycle, but for the bit of a column that is on the line of
the flag. -/
structure Wired (c : Config) (after : Controller) (cycle : ControllerCycle) : Prop where
  /-- There is an entry for every phase. -/
  phases : cycle.issued.length = c.phy.phases ∧
    after.bus.phases.registers.length = c.phy.phases
  /-- What is read off a phase is what was issued on it, as the wires carry it. -/
  carried : ∀ p : Nat,
    after.bus.phases.registers[p]?.map (fun phase => phase.decode c.geometry.bankBits) =
      cycle.issued[p]?.map fun issued => (issued.getD .nop).carried
  /-- This is the command itself exactly if its column has no bit on the line of the flag. -/
  exact_iff : ∀ (p : Nat) (command : Command), cycle.issued[p]? = some (some command) →
    (after.bus.phases.registers[p]?.map (fun phase => phase.decode c.geometry.bankBits) =
      some command ↔ Phase.flagOf command.column = false)
  /-- The line of the flag is high with a column command if the command closes its row, or if its
  column has a bit there. -/
  flag : ∀ (p : Nat) (command : Command) (phase : Phase),
    cycle.issued[p]? = some (some command) → after.bus.phases.registers[p]? = some phase →
    command.isColumn = true →
    Phase.flagOf phase.address = (command.autoPrecharge || Phase.flagOf command.column)
  /-- Narrow columns have no bit there. -/
  narrow : c.geometry.colBits ≤ flagBit →
    ∀ command ∈ cycle.commands, Phase.flagOf command.column = false

/-- The registers carry the commands of the cycle on the wires of the configuration, and a phase
without one is idle. -/
theorem registers_step (reached : Reachable c k) (offers : List (Option BankRequest)) (p : Nat) :
    (k.step offers).1.bus.phases.registers[p]? =
      (k.step offers).2.issued[p]?.map fun entry => (entry.map fun command =>
        Phase.drive command c.geometry.bankBits c.phy.ranks).getD .idle := by
  obtain ⟨-, bits, ranks⟩ := reached.phases
  rw [← bits, ← ranks]
  exact Phases.getElem?_registers_commit (length_issued_step k offers) p

/-- What is issued in a cycle comes back from the wires as they carry it: the controller has no more
banks and ranks than there are lines for, and a precharge of all banks names none of them. -/
theorem decode_drive_of_issued (a : c.Accepted) (built : k.BuiltFrom c) {p : Nat}
    {command : Command} (issued : (k.step offers).2.issued[p]? = some (some command)) :
    (Phase.drive command c.geometry.bankBits c.phy.ranks).decode c.geometry.bankBits =
      command.carried := by
  have mem : command ∈ (k.step offers).2.commands :=
    List.mem_filterMap.2 ⟨_, List.mem_of_getElem? issued, rfl⟩
  have few : c.phy.ranks ≤ Phase.maxRanks := a.ranks.2
  have thin : c.geometry.bankBits ≤ 32 := by
    have few := a.bankIndexBits_le
    rw [a.bankIndexBits_eq] at few
    omega
  refine Phase.decode_drive few thin ?_ ?_
  · rintro bank rfl
    exact eq_zero_of_precharge built mem
  · rw [← a.banks_eq_ranks]
    cases addressed : command.bank? with
    | none =>
      rw [a.banks_eq]
      exact Nat.two_pow_pos _
    | some bank => exact lt_banks_of_mem_commands built mem addressed

/-- Every phase is read back as what was issued on it, as the wires carry it. -/
theorem decode_registers_step (a : c.Accepted) (reached : Reachable c k)
    (offers : List (Option BankRequest)) (p : Nat) :
    (k.step offers).1.bus.phases.registers[p]?.map
        (fun phase => phase.decode c.geometry.bankBits) =
      (k.step offers).2.issued[p]?.map fun issued => (issued.getD .nop).carried := by
  rw [registers_step reached]
  cases issued : (k.step offers).2.issued[p]? with
  | none => rfl
  | some entry =>
    cases entry with
    | none => rfl
    | some command => exact congrArg some (decode_drive_of_issued a (reached.builtFrom a) issued)

/-- **The phases carry what was issued** in a cycle. All parts follow from how a single phase is
read back. -/
theorem wired_step (a : c.Accepted) (reached : Reachable c k)
    (offers : List (Option BankRequest)) : Wired c (k.step offers).1 (k.step offers).2 where
  phases := by
    have count := reached.phases.1
    exact ⟨(length_issued_step k offers).trans count, (Phases.count_commit _ _).trans count⟩
  carried := decode_registers_step a reached offers
  exact_iff p command issued := by
    rw [decode_registers_step a reached, issued, Option.map_some, Option.some.injEq]
    exact carried_eq_self_iff
  flag p command phase issued found moves := by
    rw [registers_step reached, issued, Option.map_some, Option.some.injEq] at found
    subst found
    exact Phase.flagOf_address_drive moves
  narrow narrow command mem :=
    Nat.testBit_lt_two_pow (Nat.lt_of_lt_of_le (column_lt a (reached.builtFrom a) mem)
      (Nat.pow_le_pow_right (by decide) narrow))

/-! ### Runs -/

/-- **The memory sees what was issued.** In every cycle of a controller for an accepted
configuration, whatever is offered to it, the phases carry the commands of the cycle. -/
theorem exists_new_wired (accepted : c.validate = .ok ()) :
    ∃ start, Controller.new c = .ok start ∧ ∀ past offers,
      Wired c ((start.run past).1.step offers).1 ((start.run past).1.step offers).2 :=
  ⟨build c, new_of_accepted accepted, fun past offers =>
    wired_step (Config.validate_eq_ok_iff.1 accepted) (reachable_run c past) offers⟩

/-- Four ranks of four banks each, with columns of twelve bits. -/
def fourRanks : Config where
  phy := { ranks := 4 }
  geometry := { bankBits := 2, colBits := 12 }

/-- Ranks of their own chip selects, and columns that reach past the line of the flag. -/
theorem new_wired_of_ranks :
    fourRanks.validate = .ok () ∧
      ∃ start, Controller.new fourRanks = .ok start ∧
        ∀ past offers, Wired fourRanks
          ((start.run past).1.step offers).1 ((start.run past).1.step offers).2 :=
  ⟨by decide, exists_new_wired (by decide)⟩

/-- A memory of a single bank with columns of eleven bits. -/
def wideColumns : Config where
  phy := { phases := 1, writePhase := 0, readRowPhase := 0 }
  geometry := { bankBits := 0, colBits := 11 }
  timing := { tRP := 1, tRCD := 1 }

/-- **A column can raise the flag.** The read of column 1024 is not told to close its row, but it is
read back as one that is, and of column zero. -/
theorem not_decode_eq_issued :
    ¬ ∀ (c : Config) (start : Controller), c.validate = .ok () → Controller.new c = .ok start →
      ∀ past offers (p : Nat),
        ((start.run past).1.step offers).1.bus.phases.registers[p]?.map
            (fun phase => phase.decode c.geometry.bankBits) =
          ((start.run past).1.step offers).2.issued[p]?.map fun issued => issued.getD .nop := by
  intro claimed
  have accepted : wideColumns.validate = .ok () := by decide
  have same := claimed wideColumns (build wideColumns) accepted (new_of_accepted accepted)
    ([some ⟨false, 256⟩] :: List.replicate 3 []) [] 0
  have issued : (((build wideColumns).run
      ([some ⟨false, 256⟩] :: List.replicate 3 [])).1.step []).2.issued[0]? =
        some (some (.read 0 1024 false)) := by decide +kernel
  have seen : (((build wideColumns).run
      ([some ⟨false, 256⟩] :: List.replicate 3 [])).1.step []).1.bus.phases.registers[0]?.map
        (fun phase => phase.decode wideColumns.geometry.bankBits) = some (.read 0 0 true) := by
    decide +kernel
  rw [issued, seen] at same
  exact absurd same (by decide)

end Controller

end DramScheduler
