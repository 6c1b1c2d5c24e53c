import DramScheduler.Bank.Machine
import Mathlib.Data.List.Basic

/-!
# What a bank machine can issue

A bank machine offers three kinds of commands: the column command that serves the request in
front, the precharge of its own row, and the activate of the row that is needed. The relation
`BankMachine.Offers` has one constructor for each, with everything the machine has checked by
then, and `offer_eq_some_iff` says that the offered command is given by it. Proofs about the
clock edge split into the kinds of edges that `Edge` lists.

## Main results

* `BankMachine.offer_eq_some_iff` — the relation and the function agree;
* `BankMachine.edge_commit` — every clock edge is of one of the listed kinds;
* `BankMachine.BuiltFrom.commit` — what a machine was built from never changes;
* `BankMachine.RowsKept.commit` — the open row fits the state, in every state.
-/

namespace DramScheduler.BankMachine

variable {m : BankMachine} {refreshRequest accepted : Bool} {push : Option BankRequest}

/-- The commands a machine may offer, with the grounds on which it does. What a machine checks
before it offers a command can be read off its constructor. -/
inductive Offers (m : BankMachine) (refreshRequest : Bool) : Command → Prop
  /-- The request in front is served from the open row. -/
  | column {request : BankRequest} (state : m.state = .regular)
      (quiet : refreshRequest = false) (spaced : m.rowToColumn.ready)
      (front : m.queue.current = some request) (hit : m.openRow = some (m.rowOf request)) :
      Offers m refreshRequest (m.columnCommand request)
  /-- The open row is closed, for another row or for a refresh. -/
  | close (state : m.state = .precharge ∨ m.state = .refresh ∧ m.openRow.isSome)
      (spaced : m.mayPrecharge) : Offers m refreshRequest m.prechargeCommand
  /-- The row of the request in front is opened. -/
  | openRow {request : BankRequest} (state : m.state = .activate)
      (quiet : refreshRequest = false) (cycled : m.rowCycle.ready) (closed : m.rowPrecharge.ready)
      (front : m.queue.current = some request) :
      Offers m refreshRequest (.activate m.index (m.rowOf request))

/-- **The offered command is one of the three kinds**, and each is offered whenever its grounds are
there. -/
theorem offer_eq_some_iff {command : Command} :
    m.offer refreshRequest = some command ↔ m.Offers refreshRequest command := by
  constructor
  · intro offered
    rw [offer] at offered
    cases state : m.state with
    | regular =>
      simp only [state, Option.ite_none_left_eq_some, Bool.or_eq_true, not_or,
        Bool.not_eq_true] at offered
      obtain ⟨⟨quiet, spaced⟩, offered⟩ := offered
      cases front : m.queue.current with
      | none => simp [front] at offered
      | some request =>
        simp only [front, Option.ite_none_right_eq_some, beq_iff_eq, Option.some.injEq] at offered
        obtain ⟨hit, rfl⟩ := offered
        exact .column state quiet (by simpa using spaced) front hit
    | precharge =>
      simp only [state, Option.ite_none_right_eq_some, Option.some.injEq] at offered
      obtain ⟨spaced, rfl⟩ := offered
      exact .close (.inl state) spaced
    | autoPrecharge => simp [state] at offered
    | activate =>
      simp only [state, Option.ite_none_left_eq_some, Bool.or_eq_true, not_or,
        Bool.not_eq_true, Option.map_eq_some_iff] at offered
      obtain ⟨⟨quiet, spaced⟩, request, front, rfl⟩ := offered
      simp only [Bool.not_eq_false', Bool.and_eq_true] at spaced
      exact .openRow state quiet spaced.1 spaced.2 front
    | refresh =>
      simp only [state, Option.ite_none_right_eq_some, Option.some.injEq, Bool.and_eq_true]
        at offered
      obtain ⟨⟨row, spaced⟩, rfl⟩ := offered
      exact .close (.inr ⟨state, row⟩) spaced
  · intro offers
    cases offers with
    | column state quiet spaced front hit => simp [offer, state, quiet, spaced, front, hit]
    | close state spaced =>
      rcases state with state | ⟨state, row⟩
      · simp [offer, state, spaced]
      · simp [offer, state, spaced, row]
    | openRow state quiet cycled closed front =>
      simp [offer, state, quiet, cycled, closed, front]

/-- A machine offers commands to its own bank only. -/
theorem Offers.bank? {command : Command} (offers : m.Offers refreshRequest command) :
    command.bank? = some m.index := by
  cases offers with
  | column => simp only [columnCommand]; split <;> rfl
  | close => rfl
  | openRow => rfl

/-! ### Classes of the offered commands -/

/-- A column command moves data. -/
@[simp] theorem isColumn_columnCommand (m : BankMachine) (request : BankRequest) :
    (m.columnCommand request).isColumn = true := by
  simp only [columnCommand]
  split <;> rfl

/-- It writes if its request does. -/
@[simp] theorem isWrite_columnCommand (m : BankMachine) (request : BankRequest) :
    (m.columnCommand request).isWrite = request.isWrite := by
  simp only [columnCommand]
  split <;> simp_all [Command.isWrite]

/-- It opens no row. -/
@[simp] theorem isActivate_columnCommand (m : BankMachine) (request : BankRequest) :
    (m.columnCommand request).isActivate = false := by
  simp only [columnCommand]
  split <;> rfl

/-- It is no precharge, even if it closes its row. -/
@[simp] theorem isPrecharge_columnCommand (m : BankMachine) (request : BankRequest) :
    (m.columnCommand request).isPrecharge = false := by
  simp only [columnCommand]
  split <;> rfl

/-- It closes its row if the request after it is known to need another one. -/
@[simp] theorem autoPrecharge_columnCommand (m : BankMachine) (request : BankRequest) :
    (m.columnCommand request).autoPrecharge = m.closesAfter (m.rowOf request) := by
  simp only [columnCommand]
  split <;> rfl

/-- A column command closes the row or leaves it as it is. -/
theorem nextRow_columnCommand (m : BankMachine) (request : BankRequest) :
    m.nextRow (m.columnCommand request) =
      if m.closesAfter (m.rowOf request) then none else m.openRow := by
  simp only [columnCommand, nextRow]
  cases m.closesAfter (m.rowOf request) <;> cases request.isWrite <;> rfl

/-! ### Issue -/

/-- The command that a machine issues in a cycle, given whether the offered one was accepted. -/
def issue (m : BankMachine) (refreshRequest accepted : Bool) : Option Command :=
  if accepted then m.offer refreshRequest else none

/-- The command that a clock edge is told of is the issued one, or `nop`. -/
theorem issued_eq (m : BankMachine) (refreshRequest accepted : Bool) :
    m.issued refreshRequest accepted = (m.issue refreshRequest accepted).getD .nop := by
  cases accepted <;> rfl

/-- What a machine issues it has offered. -/
theorem offers_of_issue {command : Command}
    (h : m.issue refreshRequest accepted = some command) : m.Offers refreshRequest command := by
  rw [issue, Option.ite_none_right_eq_some] at h
  exact offer_eq_some_iff.1 h.2

/-- Without a column command the request in front is not over. -/
theorem consumes_of_rows
    (rows : ∀ command, m.issue refreshRequest accepted = some command → command.isColumn = false) :
    consumes (m.issued refreshRequest accepted) = false := by
  rw [issued_eq]
  cases issued : m.issue refreshRequest accepted with
  | none => rfl
  | some command => exact rows command issued

/-! ### The grant of a refresh -/

/-- A machine that grants the refresh is parked, its row is closed, and written data and the
precharge are waited for no longer. -/
theorem grantsRefresh_iff :
    m.grantsRefresh = true ↔ m.state = .refresh ∧ m.openRow = none ∧
      m.writeToPrecharge.ready = true ∧ m.rowPrecharge.ready = true := by
  simp only [grantsRefresh, Bool.and_eq_true, beq_iff_eq, Option.isNone_iff_eq_none, and_assoc]

/-! ### The clock edge -/

/-- What a clock edge can do to the state and the open row, given the command that is issued in its
cycle. Every invariant of these registers is checked against its constructors. -/
inductive Edge (m : BankMachine) (refreshRequest : Bool) :
    Option Command → BankState → Option Nat → Prop
  /-- A refresh is requested of a machine that serves or is about to open a row. -/
  | park (state : m.state = .regular ∨ m.state = .activate) (request : refreshRequest = true) :
      Edge m refreshRequest none .refresh m.openRow
  /-- A request is served and the row stays open. -/
  | serve {request : BankRequest} (state : m.state = .regular) (quiet : refreshRequest = false)
      (spaced : m.rowToColumn.ready) (front : m.queue.current = some request)
      (hit : m.openRow = some (m.rowOf request))
      (stays : m.closesAfter (m.rowOf request) = false) :
      Edge m refreshRequest (some (m.columnCommand request)) .regular m.openRow
  /-- A request is served as the last one of the row. -/
  | serveLast {request : BankRequest} (state : m.state = .regular)
      (quiet : refreshRequest = false) (spaced : m.rowToColumn.ready)
      (front : m.queue.current = some request) (hit : m.openRow = some (m.rowOf request))
      (closes : m.closesAfter (m.rowOf request) = true) :
      Edge m refreshRequest (some (m.columnCommand request)) .autoPrecharge none
  /-- Nothing is served, and the machine looks for the row it needs. -/
  | seek (state : m.state = .regular) (quiet : refreshRequest = false) :
      Edge m refreshRequest none m.seekRow m.openRow
  /-- The row is closed for another one. -/
  | close (state : m.state = .precharge) (spaced : m.mayPrecharge) :
      Edge m refreshRequest (some m.prechargeCommand) .activate none
  /-- The row is not closed yet. -/
  | holdClose (state : m.state = .precharge) :
      Edge m refreshRequest none .precharge m.openRow
  /-- A row that a column command closed counts as closed. -/
  | settle (state : m.state = .autoPrecharge) (spaced : m.mayPrecharge) :
      Edge m refreshRequest none .activate m.openRow
  /-- A row that a column command closed is still to be waited for. -/
  | holdSettle (state : m.state = .autoPrecharge) (early : m.mayPrecharge = false) :
      Edge m refreshRequest none .autoPrecharge m.openRow
  /-- The row of the request in front is opened. -/
  | openRow {request : BankRequest} (state : m.state = .activate)
      (quiet : refreshRequest = false) (cycled : m.rowCycle.ready) (closed : m.rowPrecharge.ready)
      (front : m.queue.current = some request) :
      Edge m refreshRequest (some (.activate m.index (m.rowOf request))) .regular
        (some (m.rowOf request))
  /-- The row is not opened yet. -/
  | holdOpen (state : m.state = .activate) (quiet : refreshRequest = false) :
      Edge m refreshRequest none .activate m.openRow
  /-- A parked machine closes its row. -/
  | closeParked (state : m.state = .refresh) (row : m.openRow.isSome) (spaced : m.mayPrecharge) :
      Edge m refreshRequest (some m.prechargeCommand)
        (if refreshRequest then .refresh else .regular) none
  /-- A parked machine waits, or goes on once the request is over. -/
  | holdParked (state : m.state = .refresh) :
      Edge m refreshRequest none (if refreshRequest then .refresh else .regular) m.openRow

/-- **Every clock edge is one of these.** The cases are those of the state, and in each of them of
what was issued. -/
theorem edge_commit (m : BankMachine) (refreshRequest accepted : Bool)
    (push : Option BankRequest) :
    m.Edge refreshRequest (m.issue refreshRequest accepted)
      (m.commit refreshRequest accepted push).state
      (m.commit refreshRequest accepted push).openRow := by
  have state : (m.commit refreshRequest accepted push).state =
      m.nextState refreshRequest (m.issued refreshRequest accepted) := rfl
  have row : (m.commit refreshRequest accepted push).openRow =
      m.nextRow (m.issued refreshRequest accepted) := rfl
  rw [state, row, issued_eq]
  cases issued : m.issue refreshRequest accepted with
  | none =>
    show m.Edge refreshRequest none (m.nextState refreshRequest .nop) m.openRow
    cases before : m.state with
    | regular =>
      cases refreshRequest with
      | false => simpa [nextState, before, Command.isColumn, Command.isRead, Command.isWrite]
          using Edge.seek before rfl
      | true => simpa [nextState, before] using Edge.park (.inl before) rfl
    | precharge => simpa [nextState, before, Command.isPrecharge] using Edge.holdClose before
    | autoPrecharge =>
      cases spaced : m.mayPrecharge with
      | false => simpa [nextState, before, spaced] using Edge.holdSettle before spaced
      | true => simpa [nextState, before, spaced] using Edge.settle before spaced
    | activate =>
      cases refreshRequest with
      | false => simpa [nextState, before, Command.isActivate] using Edge.holdOpen before rfl
      | true => simpa [nextState, before] using Edge.park (.inr before) rfl
    | refresh => simpa [nextState, before] using Edge.holdParked before
  | some command =>
    rw [Option.getD_some]
    cases offers_of_issue issued with
    | @column request before quiet spaced front hit =>
      rw [nextRow_columnCommand]
      cases closes : m.closesAfter (m.rowOf request) with
      | false =>
        simpa [nextState, before, quiet, closes] using
          Edge.serve before rfl spaced front hit closes
      | true =>
        simpa [nextState, before, quiet, closes] using
          Edge.serveLast before rfl spaced front hit closes
    | close before spaced =>
      rcases before with before | ⟨before, row⟩
      · simpa [nextState, before, nextRow, prechargeCommand, Command.isPrecharge] using
          Edge.close before spaced
      · simpa [nextState, before, nextRow, prechargeCommand] using
          Edge.closeParked before row spaced
    | openRow before quiet cycled closed front =>
      simpa [nextState, before, nextRow, quiet, Command.isActivate] using
        Edge.openRow before rfl cycled closed front

/-! ### What stays -/

/-- The parts of a machine that its configuration and its bank number fix, the distances that its
countdowns keep among them. -/
structure BuiltFrom (c : Config) (i : Nat) (m : BankMachine) : Prop where
  index : m.index = i
  split : m.split = c.rowSplit
  writeToPrecharge : m.writeToPrecharge.spacing = c.writeToPrecharge
  rowCycle : m.rowCycle.spacing = c.timing.tRC.getD 0
  rowActive : m.rowActive.spacing = c.timing.tRAS.getD 0
  rowToColumn : m.rowToColumn.spacing = c.timing.tRCD
  rowPrecharge : m.rowPrecharge.spacing = c.timing.tRP

/-- A new machine is built from its configuration. -/
theorem builtFrom_new (i : Nat) (c : Config) : (BankMachine.new i c).BuiltFrom c i :=
  ⟨rfl, rfl, rfl, rfl, rfl, rfl, rfl⟩

/-- A clock edge keeps what the machine was built from. Only its state, its row, its queue and its
countdowns change. -/
theorem BuiltFrom.commit {c : Config} {i : Nat} (built : m.BuiltFrom c i) :
    (m.commit refreshRequest accepted push).BuiltFrom c i :=
  ⟨built.index, built.split, built.writeToPrecharge, built.rowCycle, built.rowActive,
    built.rowToColumn, built.rowPrecharge⟩

/-! ### The open row and the state -/

/-- A machine that closes a row has one, and a machine that opens a row, or waits to, has
none. -/
structure RowsKept (m : BankMachine) : Prop where
  /-- There is a row to close. -/
  closing : m.state = .precharge → m.openRow.isSome
  /-- No row is open when one is to be opened. -/
  closed : m.state = .autoPrecharge ∨ m.state = .activate → m.openRow = none

/-- A new machine has no row open, and is about to open none. -/
theorem rowsKept_new (i : Nat) (c : Config) : (BankMachine.new i c).RowsKept := by
  refine ⟨?_, ?_⟩
  · intro state
    cases state
  · rintro (state | state) <;> cases state

/-- A machine that seeks a row closes one only if one is open, and opens one only if none is. -/
theorem kept_seekRow (m : BankMachine) :
    (m.seekRow = .precharge → m.openRow.isSome) ∧
      (m.seekRow = .autoPrecharge ∨ m.seekRow = .activate → m.openRow = none) := by
  rw [seekRow]
  cases m.queue.current with
  | none => simp
  | some request =>
    cases m.openRow with
    | none => simp
    | some row =>
      dsimp only
      split <;> simp

/-- **A clock edge keeps the open row in step with the state**, whatever is requested and
accepted. -/
theorem RowsKept.commit (kept : m.RowsKept) (refreshRequest accepted : Bool)
    (push : Option BankRequest) : (m.commit refreshRequest accepted push).RowsKept := by
  suffices fits : ∀ {command state row}, m.Edge refreshRequest command state row →
      (state = .precharge → row.isSome) ∧
        (state = .autoPrecharge ∨ state = .activate → row = none) by
    have result := fits (m.edge_commit refreshRequest accepted push)
    exact ⟨result.1, result.2⟩
  intro command state row edge
  cases edge with
  | park before => simp
  | serve => simp
  | serveLast => simp
  | seek => exact m.kept_seekRow
  | close => simp
  | holdClose before => simp [kept.closing before]
  | settle before => simp [kept.closed (.inl before)]
  | holdSettle before => simp [kept.closed (.inl before)]
  | openRow => simp
  | holdOpen before => simp [kept.closed (.inr before)]
  | closeParked => split <;> simp
  | holdParked => split <;> simp

end DramScheduler.BankMachine
