import DramScheduler.Proofs.Bank.Parking
import DramScheduler.Proofs.Bus.Moves
import DramScheduler.Proofs.Bus.Permits
import DramScheduler.Proofs.RoundRobin

/-!
# How the bus closes the rows before a refresh

Once a refresh is requested the banks offer precharges and nothing else. The bus finishes a turn
that it has begun (`CommandBus.Settling`) and begins no other. From then on one chooser does all the
work, the row chooser or, on a single phase, the column chooser (`CommandBus.closer`): what the bank
with the grant offers is issued, and the grant moves on to another bank that offers something.

## Main results

* `CommandBus.Settling.commit` — a cycle brings the bus closer to the end of its turn;
* `CommandBus.granted_of_closing` — the bank with the grant is the one whose row is closed;
* `CommandBus.grant_closer_commit` — where the grant goes.
-/

namespace DramScheduler

open Command

/-! ### Choosers -/

namespace Chooser

variable {chooser : Chooser} {offers : List (Option Command)} {wants : Wants} {banks : Nat}

/-- The grant of a chooser is the number of a bank. -/
structure InRange (chooser : Chooser) (banks : Nat) : Prop where
  /-- The bank that is granted is one of them. -/
  grant_lt : chooser.grant < banks
  /-- The arbiter goes around all banks. -/
  size_eq : chooser.arbiter.size = banks

/-- A new chooser grants the first bank, as soon as there is one. -/
theorem inRange_new (some_bank : 0 < banks) : (Chooser.new banks).InRange banks :=
  ⟨some_bank, rfl⟩

/-- A clock edge keeps the grant within the banks, since the search goes around them. -/
theorem InRange.commit (inRange : chooser.InRange banks) (selection : Selection) (taken : Bool) :
    (chooser.commit selection taken).InRange banks := by
  refine ⟨?_, (RoundRobin.size_commit _ _ _).trans inRange.size_eq⟩
  rw [grant, Chooser.commit, RoundRobin.commit]
  split
  · rw [← inRange.size_eq]
    exact RoundRobin.next_lt (by rw [inRange.size_eq]; exact inRange.grant_lt) _
  · exact inRange.grant_lt

/-- A chooser that wants whatever is offered shows what the bank with the grant offers, and every
bank that offers something is a candidate. -/
theorem evaluate_of_admits (all : ∀ command, some command ∈ offers → wants.admits command = true) :
    chooser.evaluate offers wants =
      ⟨offers.map Option.isSome, offers[chooser.grant]?.join.map (Choice.mk chooser.grant)⟩ := by
  have candidates : (offers.map fun offer => offer.any wants.admits) =
      offers.map Option.isSome := by
    refine List.map_congr_left fun offer mem => ?_
    cases offer with
    | none => rfl
    | some command => exact all command mem
  have shown : offers[chooser.grant]?.join.filter wants.admits = offers[chooser.grant]?.join := by
    cases offered : offers[chooser.grant]?.join with
    | none => rfl
    | some command =>
      have mem := List.mem_of_getElem? (Option.join_eq_some_iff.1 offered)
      rw [Option.filter_some, if_pos (all command mem)]
  rw [evaluate, candidates, choice, shown]

/-- A chooser that wants nothing of what is offered shows nothing. -/
theorem choice_of_not_admits
    (others : ∀ command, some command ∈ offers → wants.admits command = false) :
    chooser.choice offers wants = none := by
  rw [choice, Option.map_eq_none_iff, Option.filter_eq_none_iff]
  intro command offered
  have unwanted := others command (List.mem_of_getElem? (Option.join_eq_some_iff.1 offered))
  rw [unwanted]
  exact Bool.false_ne_true

/-- The grant moves on if what is shown is taken, and if nothing is shown. -/
theorem grant_commit_of_taken {selection : Selection} {taken : Bool}
    (all : selection.choice.isSome → taken = true) :
    (chooser.commit selection taken).grant = chooser.arbiter.next selection.candidates := by
  have moves : (taken || selection.choice.isNone) = true := by
    cases shown : selection.choice with
    | none => exact Bool.or_true _
    | some _ => rw [all (Option.isSome_of_eq_some shown), Bool.true_or]
  rw [grant, commit, RoundRobin.commit, if_pos moves]

end Chooser

namespace CommandBus

variable {b : CommandBus} {banks : List BankOutputs} {refresh : RefresherOutputs} {n : Nat}

/-! ### Finishing a turn -/

/-- The registers of the bus are no higher than a turn leaves them, and its grants are numbers of
banks. -/
structure Bounded (b : CommandBus) (banks : Nat) : Prop where
  /-- A turn to writing takes no longer than its distance. -/
  turning : ∀ remaining, b.state = .readToWrite remaining → remaining ≤ b.readToWrite - 1
  /-- The countdown of written data is within its spacing. -/
  settling : b.writeToRead.Bounded
  /-- The column chooser grants a bank. -/
  column : b.columnChooser.InRange banks
  /-- So does the row chooser, if there is one. -/
  row : ∀ chooser, b.rowChooser = some chooser → chooser.InRange banks

/-- A new bus is not turning. -/
theorem bounded_new {c : Config} (some_bank : 0 < c.banks) :
    (CommandBus.new c).Bounded c.banks where
  turning _ state := by cases state
  settling := Spacing.bounded_new _
  column := Chooser.inRange_new some_bank
  row := by
    intro chooser found
    rw [new] at found
    dsimp only at found
    split at found
    · cases found
      exact Chooser.inRange_new some_bank
    · cases found

/-- A clock edge leaves the registers within their bounds, whatever was decided. A turn begins with
one cycle less than the distance asked for, and only falls from there. -/
theorem Bounded.commit {banks : Nat} (bounded : b.Bounded banks) (d : Decision)
    (refresh : RefresherOutputs) : (b.commit d refresh).Bounded banks where
  turning := by
    intro remaining after
    have move := b.moves_nextState d refresh
    rw [show b.nextState d refresh = .readToWrite remaining from after] at move
    cases move with
    | turnToWrite => exact Nat.le_refl _
    | keepTurning state => exact Nat.le_trans (Nat.sub_le _ _) (bounded.turning _ state)
  settling := bounded.settling.tick _
  column := bounded.column.commit _ _
  row := by
    intro chooser found
    rw [CommandBus.commit] at found
    dsimp only at found
    cases before : b.rowChooser with
    | none =>
      rw [before] at found
      cases found
    | some earlier =>
      rw [before] at found
      cases shown : d.row with
      | none =>
        rw [shown] at found
        cases found
        exact bounded.row chooser before
      | some selection =>
        rw [shown] at found
        cases found
        exact (bounded.row earlier before).commit _ _

/-- A number of cycles later data may move in one of the directions, if no turn is begun. -/
def Settling (b : CommandBus) (d : Nat) : Prop :=
  (b.state = .read ∨ b.state = .write) ∨ (b.state = .writeToRead ∧ b.writeToRead.remaining < d) ∨
    ∃ remaining, b.state = .readToWrite remaining ∧ 0 < d ∧ remaining ≤ d

/-- **A cycle brings the bus closer to the end of its turn**, if there is nothing to turn for; or
the bus is handed over. -/
theorem Settling.commit {d : Nat} {decision : Decision} (settling : b.Settling d)
    (reads : decision.readAvailable = false) (writes : decision.writeAvailable = false)
    (quiet : decision.commands.any isWrite = false) :
    (b.commit decision refresh).state = .refresh ∨
      (b.commit decision refresh).Settling (d - 1) := by
  have after : (b.commit decision refresh).state = b.nextState decision refresh := rfl
  have countdown : (b.commit decision refresh).writeToRead.remaining =
      b.writeToRead.remaining - 1 := by
    show (b.writeToRead.tick (decision.commands.any isWrite)).remaining = _
    rw [quiet, Spacing.tick_false]
  have move := b.moves_nextState decision refresh
  rw [Settling, countdown, after]
  generalize b.nextState decision refresh = next at move ⊢
  cases move with
  | handOver => exact .inl rfl
  | keepReading => exact .inr (.inl (.inl rfl))
  | turnAtOnce _ _ turn => simp [writes] at turn
  | turnToWrite _ _ turn => simp [writes] at turn
  | keepTurning state more =>
    right
    rcases settling with (before | before) | ⟨before, -⟩ | ⟨remaining, before, positive, few⟩
    · rw [state] at before
      cases before
    · rw [state] at before
      cases before
    · rw [state] at before
      cases before
    · rw [state] at before
      cases before
      exact .inr (.inr ⟨_, rfl, by omega, by omega⟩)
  | turned => exact .inr (.inl (.inr rfl))
  | keepWriting => exact .inr (.inl (.inr rfl))
  | turnToRead _ _ turn => simp [reads] at turn
  | keepSettling state early =>
    right
    rcases settling with (before | before) | ⟨-, few⟩ | ⟨remaining, before, -⟩
    · rw [state] at before
      cases before
    · rw [state] at before
      cases before
    · have left : b.writeToRead.remaining ≠ 0 := by simpa [Spacing.ready] using early
      exact .inr (.inl ⟨rfl, by omega⟩)
    · rw [state] at before
      cases before
  | settled => exact .inr (.inl (.inl rfl))
  | keepRefreshing => exact .inl rfl
  | handBack => exact .inr (.inl (.inl rfl))

/-- When no cycle is left of a turn, data may move in one of the directions. -/
theorem Settling.moving (settled : b.Settling 0) : b.state = .read ∨ b.state = .write := by
  rcases settled with moving | ⟨-, left⟩ | ⟨remaining, -, left, -⟩
  · exact moving
  · exact absurd left (Nat.not_lt_zero _)
  · exact absurd left (Nat.lt_irrefl 0)

/-! ### Closing rows -/

/-- The chooser that picks row commands: the row chooser, or the only one that there is. -/
def closer (b : CommandBus) : Chooser :=
  b.rowChooser.getD b.columnChooser

/-- It grants a bank, as each of the two choosers does. -/
theorem Bounded.closer {banks : Nat} (bounded : b.Bounded banks) : b.closer.InRange banks := by
  rw [CommandBus.closer]
  cases found : b.rowChooser with
  | none => exact bounded.column
  | some chooser => exact bounded.row chooser found

/-- What the bank with a number offers, if there is such a bank and it offers something. -/
def offered (banks : List BankOutputs) (i : Nat) : Option Command :=
  banks[i]?.bind BankOutputs.command

/-- Precharges are all that is offered. -/
def Closing (banks : List BankOutputs) : Prop :=
  ∀ i command, offered banks i = some command → command.isPrecharge = true

/-- What a bank offers, looked up among what all of them offer. -/
theorem join_offers (banks : List BankOutputs) (i : Nat) :
    (banks.map BankOutputs.command)[i]?.join = offered banks i := by
  rw [List.getElem?_map, offered]
  cases banks[i]? <;> rfl

/-- What is offered by some bank is a precharge. -/
theorem Closing.isPrecharge (closing : Closing banks) {command : Command}
    (mem : some command ∈ banks.map BankOutputs.command) : command.isPrecharge = true := by
  obtain ⟨i, found⟩ := List.mem_iff_getElem?.1 mem
  refine closing i command ?_
  rw [← join_offers, found]
  rfl

/-- The closer looks for precharges, in either direction. Where there are two choosers, the other
one does not. -/
theorem admits_precharge {command : Command} (kind : command.isPrecharge = true)
    (moving : b.state = .read ∨ b.state = .write) :
    (b.rowWants refresh).admits command = true ∧
      (b.rowChooser = none → (b.columnChooserWants refresh).admits command = true) ∧
      (b.rowChooser.isSome → (b.columnChooserWants refresh).admits command = false) := by
  have rows : ∀ wants : Wants, wants.admits command = wants.rows := by
    intro wants
    cases command with
    | precharge => simp [Wants.admits, isRow, isActivate]
    | nop | activate | read | write | refresh | calibrate => cases kind
  rw [rows, rows]
  refine ⟨rfl, fun single => ?_, fun two => ?_⟩
  · rcases moving with state | state <;> simp [columnChooserWants, state, single, rowWants,
      BusState.direction?]
  · rcases moving with state | state <;> simp [columnChooserWants, state, two, columnWants,
      BusState.direction?]

/-- A precharge that is shown is issued: it has no distance to keep on the bus. -/
theorem admits_of_isPrecharge {chosen : Choice} (kind : chosen.command.isPrecharge = true)
    (moving : b.state = .read ∨ b.state = .write) :
    b.admits refresh (some chosen) = true := by
  have others : chosen.command.isColumn = false ∧ chosen.command.isActivate = false := by
    cases command : chosen.command with
    | precharge => exact ⟨rfl, rfl⟩
    | nop | activate | read | write | refresh | calibrate =>
      rw [command] at kind
      cases kind
  rw [admits, Option.any_some, others.1, if_neg Bool.false_ne_true, others.2, Bool.not_false,
    Bool.true_or, Bool.and_true]
  rcases moving with state | state <;> rw [state] <;> rfl

/-- A chooser that looks for precharges shows what the bank with the grant offers. -/
theorem evaluate_of_closing (closing : Closing banks) (chooser : Chooser) {wants : Wants}
    (wanted : ∀ command, command.isPrecharge = true → wants.admits command = true) :
    chooser.evaluate (banks.map BankOutputs.command) wants =
      ⟨banks.map fun outputs => outputs.command.isSome,
        (offered banks chooser.grant).map (Choice.mk chooser.grant)⟩ := by
  rw [Chooser.evaluate_of_admits fun command mem => wanted command (closing.isPrecharge mem),
    join_offers, List.map_map]
  rfl

/-- Whatever is shown of a bank is issued. -/
theorem admits_of_closing (moving : b.state = .read ∨ b.state = .write) (closing : Closing banks)
    {i : Nat} (something : ((offered banks i).map (Choice.mk i)).isSome) :
    b.admits refresh ((offered banks i).map (Choice.mk i)) = true := by
  cases shown : offered banks i with
  | none =>
    rw [shown] at something
    cases something
  | some command => exact admits_of_isPrecharge (closing i command shown) moving

/-- What is shown of a bank is taken. -/
theorem taken_of_closing (moving : b.state = .read ∨ b.state = .write) (closing : Closing banks)
    (i : Nat) : (if b.admits refresh ((offered banks i).map (Choice.mk i)) then
        (offered banks i).map (Choice.mk i) else none) = (offered banks i).map (Choice.mk i) := by
  split
  · rfl
  · next unissued =>
    cases shown : (offered banks i).map (Choice.mk i) with
    | none => rfl
    | some _ => exact absurd (admits_of_closing moving closing (by rw [shown]; rfl)) unissued

/-- Beside a row chooser, the column chooser shows no precharge. -/
theorem choice_column_of_closing (moving : b.state = .read ∨ b.state = .write)
    (closing : Closing banks) (two : b.rowChooser.isSome) :
    (b.evaluate banks refresh).column.choice = none :=
  Chooser.choice_of_not_admits fun _ mem =>
    (admits_precharge (closing.isPrecharge mem) moving).2.2 two

/-- While data moves the row chooser looks for row commands. -/
theorem rowChooserWants_of_moving (moving : b.state = .read ∨ b.state = .write)
    (two : b.rowChooser.isSome) : b.rowChooserWants refresh = b.rowWants refresh := by
  have both : (b.state.direction?.isSome && b.rowChooser.isSome) = true := by
    rw [two]
    rcases moving with state | state <;> rw [state] <;> rfl
  rw [rowChooserWants, if_pos both]

/-- What the column chooser shows on a single phase. -/
theorem column_of_closing (moving : b.state = .read ∨ b.state = .write) (closing : Closing banks)
    (single : b.rowChooser = none) : (b.evaluate banks refresh).column =
      ⟨banks.map fun outputs => outputs.command.isSome,
        (offered banks b.columnChooser.grant).map (Choice.mk b.columnChooser.grant)⟩ :=
  evaluate_of_closing closing b.columnChooser
    fun _ kind => (admits_precharge kind moving).2.1 single

/-- What the row chooser shows. -/
theorem row_of_closing (moving : b.state = .read ∨ b.state = .write) (closing : Closing banks)
    {chooser : Chooser} (rows : b.rowChooser = some chooser) : (b.evaluate banks refresh).row =
      some ⟨banks.map fun outputs => outputs.command.isSome,
        (offered banks chooser.grant).map (Choice.mk chooser.grant)⟩ := by
  have wants : b.rowChooserWants refresh = b.rowWants refresh :=
    rowChooserWants_of_moving moving (by rw [rows]; rfl)
  rw [evaluate]
  dsimp only
  rw [rows, Option.map_some, wants,
    evaluate_of_closing closing chooser fun _ kind => (admits_precharge kind moving).1]

/-- The bank with the grant is chosen, while precharges are all that is offered. -/
theorem choices_of_closing (moving : b.state = .read ∨ b.state = .write)
    (closing : Closing banks) : (b.evaluate banks refresh).choices =
      ((offered banks b.closer.grant).map (Choice.mk b.closer.grant)).toList := by
  cases rows : b.rowChooser with
  | none =>
    have column : (b.evaluate banks refresh).taken .column =
        (offered banks b.columnChooser.grant).map (Choice.mk b.columnChooser.grant) := by
      have ready : (b.evaluate banks refresh).columnReady =
          b.admits refresh (b.evaluate banks refresh).column.choice := rfl
      rw [Decision.taken, ready, column_of_closing moving closing rows]
      exact taken_of_closing moving closing _
    have row : (b.evaluate banks refresh).taken .row = none := by
      simp [Decision.taken, evaluate, rows]
    rw [Decision.choices, column, row, closer, rows, Option.getD_none, Option.toList_none,
      List.append_nil]
  | some chooser =>
    have column : (b.evaluate banks refresh).taken .column = none := by
      rw [Decision.taken, choice_column_of_closing moving closing (by rw [rows]; rfl), ite_self]
    have row : (b.evaluate banks refresh).taken .row =
        (offered banks chooser.grant).map (Choice.mk chooser.grant) := by
      have ready : (b.evaluate banks refresh).rowReady =
          b.admits refresh ((b.evaluate banks refresh).row.bind Selection.choice) := rfl
      rw [Decision.taken, ready, row_of_closing moving closing rows]
      exact taken_of_closing moving closing _
    rw [Decision.choices, column, row, closer, rows, Option.getD_some, Option.toList_none,
      List.nil_append]

/-- **The bank with the grant is the one whose row is closed**, while precharges are all that is
offered. -/
theorem granted_of_closing (placed : b.WellPlaced) (moving : b.state = .read ∨ b.state = .write)
    (closing : Closing banks) (i : Nat) :
    b.granted banks refresh i = if i = b.closer.grant then offered banks i else none := by
  have chosen : (b.evaluate banks refresh).accepted.getD i false = true ↔
      i = b.closer.grant ∧ (offered banks i).isSome := by
    rw [accepted_iff placed, choices_of_closing moving closing]
    simp only [Option.mem_toList, Option.map_eq_some_iff]
    constructor
    · rintro ⟨_, ⟨command, shown, rfl⟩, rfl⟩
      exact ⟨rfl, Option.isSome_of_eq_some shown⟩
    · rintro ⟨rfl, something⟩
      obtain ⟨command, shown⟩ := Option.isSome_iff_exists.1 something
      exact ⟨_, ⟨command, shown, rfl⟩, rfl⟩
  rw [granted, ← offered]
  by_cases here : i = b.closer.grant
  · rw [if_pos here]
    cases shown : offered banks i with
    | none => exact ite_self _
    | some command => exact if_pos (chosen.2 ⟨here, Option.isSome_of_eq_some shown⟩)
  · rw [if_neg here, if_neg]
    exact fun accepted => here (chosen.1 accepted).1

/-- **The grant moves on** to a bank that offers something, since what the holder offered was
issued. -/
theorem grant_closer_commit (moving : b.state = .read ∨ b.state = .write)
    (closing : Closing banks) :
    (b.commit (b.evaluate banks refresh) refresh).closer.grant =
      b.closer.arbiter.next (banks.map fun outputs => outputs.command.isSome) := by
  cases rows : b.rowChooser with
  | none =>
    have after : (b.commit (b.evaluate banks refresh) refresh).closer =
        b.columnChooser.commit (b.evaluate banks refresh).column
          (b.evaluate banks refresh).columnReady := by
      simp [closer, commit, rows]
    have ready : (b.evaluate banks refresh).columnReady =
        b.admits refresh (b.evaluate banks refresh).column.choice := rfl
    rw [after, ready, column_of_closing moving closing rows, closer, rows, Option.getD_none]
    exact Chooser.grant_commit_of_taken fun shown => admits_of_closing moving closing shown
  | some chooser =>
    have found : (b.evaluate banks refresh).row = _ := row_of_closing moving closing rows
    have after : (b.commit (b.evaluate banks refresh) refresh).closer =
        chooser.commit ⟨banks.map fun outputs => outputs.command.isSome,
            (offered banks chooser.grant).map (Choice.mk chooser.grant)⟩
          (b.evaluate banks refresh).rowReady := by
      rw [closer, commit]
      dsimp only
      rw [rows, found]
      rfl
    have ready : (b.evaluate banks refresh).rowReady =
        b.admits refresh ((b.evaluate banks refresh).row.bind Selection.choice) := rfl
    rw [after, ready, found, closer, rows, Option.getD_some]
    exact Chooser.grant_commit_of_taken fun shown => admits_of_closing moving closing shown

end CommandBus

end DramScheduler
