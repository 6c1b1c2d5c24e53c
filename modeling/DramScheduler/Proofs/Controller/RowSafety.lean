import DramScheduler.Proofs.Config.Acceptance
import DramScheduler.Proofs.Controller.Handover
import DramScheduler.Proofs.Memory.OpenRows

/-!
# Rows are opened and closed in order

The machines keep the open rows in registers of their own, and they forget a row in the cycle
in which a column command closes it, long before the array has. The memory has only the
commands to go by. Both have the same picture at every clock edge, and each command is legal in
the picture that the commands before it leave, those of its own cycle included.

## Main results

* `Controller.openRows_step` — the machines' rows follow the commands of a cycle;
* `Controller.legal_step` — every command of a cycle is legal in its turn;
* `Controller.exists_new_keepsRows` — both over whole runs.
-/

namespace DramScheduler

/-- What the machine makes of its open row is what the memory makes of the row of its bank. -/
theorem BankMachine.nextRow_eq_apply {m : BankMachine} {refreshRequest : Bool} {rows : OpenRows}
    {command : Command} (offers : m.Offers refreshRequest command)
    (same : rows m.index = m.openRow) :
    m.nextRow command = rows.apply command m.index := by
  cases offers with
  | column =>
    simp only [columnCommand]
    split
    · cases m.closesAfter _ <;> simp [nextRow, OpenRows.apply, same]
    · cases m.closesAfter _ <;> simp [nextRow, OpenRows.apply, same]
  | close => simp [prechargeCommand, nextRow, OpenRows.apply]
  | openRow => simp [nextRow, OpenRows.apply]

/-- The memory's row follows the command that the machine issues, as the machine's does. A bank that
issues nothing keeps its row. -/
theorem BankMachine.replay_issue {m : BankMachine} {rows : OpenRows}
    (refreshRequest accepted : Bool) (same : rows m.index = m.openRow)
    (push : Option BankRequest) :
    rows.replay (m.issue refreshRequest accepted).toList m.index =
      (m.commit refreshRequest accepted push).openRow := by
  have row : (m.commit refreshRequest accepted push).openRow =
      m.nextRow (m.issued refreshRequest accepted) := rfl
  rw [row, issued_eq]
  cases issued : m.issue refreshRequest accepted with
  | none => exact same
  | some command => exact (nextRow_eq_apply (offers_of_issue issued) same).symm

/-- What a machine offers is legal while the row of its bank is the machine's. -/
theorem BankMachine.RowsKept.legal {m : BankMachine} (kept : m.RowsKept) {refreshRequest : Bool}
    {split : RowSplit} {serving : Nat → Option BankRequest} {rows : OpenRows} {command : Command}
    (splits : m.split = split) (front : serving m.index = m.queue.current)
    (same : rows m.index = m.openRow) (offers : m.Offers refreshRequest command) :
    OpenRows.Legal split serving rows command := by
  cases offers with
  | @column request _ _ _ current hit =>
    have served : serving m.index = some request := front.trans current
    have row : rows m.index = some (split.row request.address) := by
      rw [same, hit, rowOf, splits]
    simp only [columnCommand]
    split
    · next writes => exact ⟨request, served, writes, by rw [splits], row⟩
    · next reads => exact ⟨request, served, by simpa using reads, by rw [splits], row⟩
  | close state =>
    show (rows m.index).isSome
    rw [same]
    rcases state with closing | ⟨-, row⟩
    · exact kept.closing closing
    · exact row
  | openRow state =>
    show rows m.index = none
    rw [same]
    exact kept.closed (.inr state)

namespace Controller

variable {c : Config} {k : Controller} {offers : List (Option BankRequest)}

/-- The open rows as the machines have them. There is none where there is no machine. -/
def openRows (k : Controller) : OpenRows :=
  fun bank => k.banks[bank]?.bind BankMachine.openRow

/-- The request that each bank is serving. -/
def serving (k : Controller) (bank : Nat) : Option BankRequest :=
  k.banks[bank]?.bind fun m => m.queue.current

/-! ### One cycle -/

/-- The rows of a bank follow the command that the bank issues, whatever the others do. -/
theorem openRows_step_apply (built : k.BuiltFrom c) (offers : List (Option BankRequest))
    (bank : Nat) :
    (k.step offers).1.openRows bank = k.openRows.replay (k.issues bank).toList bank := by
  rw [openRows, getElem?_banks_step, issues]
  cases found : k.banks[bank]? with
  | none => simp [openRows, found]
  | some m =>
    have same : k.openRows m.index = m.openRow := by
      rw [(built.bank bank m found).index, openRows, found]
      rfl
    have effect := BankMachine.replay_issue k.refreshRequest (k.accepts bank) same
      (k.takes offers bank)
    rw [(built.bank bank m found).index] at effect
    exact effect.symm

/-- Every bank is closed at first. -/
theorem openRows_build (c : Config) : (build c).openRows = OpenRows.allClosed := by
  funext bank
  cases found : (build c).banks[bank]? with
  | none => simp [openRows, found, OpenRows.allClosed]
  | some m =>
    obtain rfl := eq_new_of_build found
    rw [openRows, found]
    rfl

/-- Every bank is closed in a refresh round, as the bus was handed over by banks at rest. -/
theorem openRows_of_refresh (hand : k.Handover) (state : k.bus.state = .refresh) :
    k.openRows = OpenRows.allClosed := by
  funext bank
  rw [openRows]
  cases found : k.banks[bank]? with
  | none => rfl
  | some m => exact (hand.parked state bank m found).2

/-- **The machines' rows follow the commands of a cycle.** Outside rounds the command of a bank is
the one that its machine issued, and in a round every bank is closed and remains so. -/
theorem openRows_step (built : k.BuiltFrom c) (hand : k.Handover)
    (offers : List (Option BankRequest)) :
    (k.step offers).1.openRows = k.openRows.replay (k.step offers).2.commands := by
  funext bank
  rw [openRows_step_apply built]
  by_cases state : k.bus.state = .refresh
  · have onBus : ∀ command ∈ (k.step offers).2.commands,
        OpenRows.allClosed.apply command = OpenRows.allClosed := by
      intro command mem
      rcases command_of_refresh built state mem with ⟨-, rfl⟩ | rfl | rfl <;> rfl
    rw [issues_of_refresh built state, openRows_of_refresh hand state,
      OpenRows.replay_of_apply_eq onBus]
    rfl
  · have singles : ∀ command ∈ (k.step offers).2.commands, command.bank?.isSome :=
      fun command mem => isSome_bank?_of_mem_commands built state mem
    rw [OpenRows.replay_filter singles, filter_commands_step built state]

/-- **Every command of a cycle is legal in its turn.** The commands before it in the cycle are to
other banks and leave the row of its own as it was. -/
theorem legal_step (built : k.BuiltFrom c) (hand : k.Handover)
    (kept : ∀ (i : Nat) (m : BankMachine), k.banks[i]? = some m → m.RowsKept)
    {before after : List Command} {command : Command}
    (turn : (k.step offers).2.commands = before ++ command :: after) :
    OpenRows.Legal c.rowSplit k.serving (k.openRows.replay before) command := by
  have mem : command ∈ (k.step offers).2.commands := by simp [turn]
  by_cases state : k.bus.state = .refresh
  · have few := length_commands_of_refresh built state offers
    rw [turn, List.length_append, List.length_cons] at few
    have first : before = [] := List.eq_nil_of_length_eq_zero (by omega)
    rw [first, OpenRows.replay_nil, openRows_of_refresh hand state]
    rcases command_of_refresh built state mem with ⟨-, rfl⟩ | rfl | rfl <;> rfl
  · obtain ⟨i, m, found, addressed, offered⟩ := bank?_of_mem_commands built state mem
    have index := (built.bank i m found).index
    have singles : ∀ command ∈ before, command.bank?.isSome := by
      intro earlier mem
      have present : earlier ∈ (k.step offers).2.commands := by simp [turn, mem]
      exact isSome_bank?_of_mem_commands built state present
    -- a bank issues one command in a cycle, so the ones before are to other banks
    have none_here : (before.filter fun command => command.bank? == some i) = [] := by
      have few := congrArg List.length (filter_commands_step built state offers i)
      rw [turn, List.filter_append, List.filter_cons, if_pos (by simp [addressed])] at few
      have most : (k.issues i).toList.length ≤ 1 := Option.length_toList_le
      rw [List.length_append, List.length_cons] at few
      exact List.eq_nil_of_length_eq_zero (by omega)
    refine (kept i m found).legal (built.bank i m found).split ?_ ?_ offered
    · rw [serving, index, found]
      rfl
    · rw [OpenRows.replay_of_filter_eq_nil singles (by rw [index]; exact none_here), index,
        openRows, found]
      rfl

/-! ### Runs -/

/-- The rows are right over every run: the commands of every cycle are legal in their turn, and
the machines have the rows that the commands so far lead to. -/
structure KeepsRows (start : Controller) (c : Config) : Prop where
  /-- Every command is legal after the commands before it. -/
  legal : ∀ (past : List (List (Option BankRequest))) (offers : List (Option BankRequest))
    (before after : List Command) (command : Command),
    ((start.run past).1.step offers).2.commands = before ++ command :: after →
    OpenRows.Legal c.rowSplit (start.run past).1.serving
      (OpenRows.allClosed.replay ((start.trace past).flatten ++ before)) command
  /-- The commands lead to the rows that the machines have. -/
  agrees : ∀ past : List (List (Option BankRequest)),
    OpenRows.allClosed.replay (start.trace past).flatten = (start.run past).1.openRows

/-- After every run the machines have the rows that the commands lead to. Induction on the run,
cycle by cycle. -/
theorem openRows_run (a : c.Accepted) (past : List (List (Option BankRequest))) :
    OpenRows.allClosed.replay ((build c).trace past).flatten = ((build c).run past).1.openRows := by
  rw [trace_eq_map_history]
  refine (run_induction (P := fun k seen => OpenRows.allClosed.replay
    (seen.map fun cycle => cycle.2.commands).flatten = k.openRows) ?_ ?_ past).2
  · exact (openRows_build c).symm
  · intro now seen offers reached same
    rw [List.map_append, List.flatten_append, OpenRows.replay_append, same,
      openRows_step (reached.builtFrom a) reached.handover]
    simp

/-- **Rows are safe.** A controller for an accepted configuration opens closed banks only,
closes open ones only, moves data in the row of the request it serves, and refreshes and
calibrates while every bank is closed. -/
theorem exists_new_keepsRows (accepted : c.validate = .ok ()) :
    ∃ start, Controller.new c = .ok start ∧ start.KeepsRows c := by
  have a := Config.validate_eq_ok_iff.1 accepted
  refine ⟨build c, new_of_accepted accepted, ?_, openRows_run a⟩
  intro past offers before after command turn
  have reached := reachable_run c past
  rw [OpenRows.replay_append, openRows_run a]
  exact legal_step (reached.builtFrom a) reached.handover reached.rowsKept turn

/-- The default configuration is an accepted one. -/
theorem new_default_keepsRows :
    ({} : Config).validate = .ok () ∧
      ∃ start, Controller.new {} = .ok start ∧ start.KeepsRows {} :=
  ⟨by decide, exists_new_keepsRows (by decide)⟩

end Controller

end DramScheduler
