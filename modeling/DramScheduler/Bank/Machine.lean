import DramScheduler.Bank.Queue
import DramScheduler.Command
import DramScheduler.Config.Derived
import DramScheduler.Timing.Spacing

/-!
# Bank machines

A bank machine turns the requests of one bank into the commands that serve them. It opens the
row of the request being served, issues the column command, and closes the row again when a
request for another row comes, either by a command of its own or by the last column command
that hits the row. It keeps the spacings that concern its bank alone; those between banks are
kept by the command bus.

A cycle has two halves. `evaluate` reads the registers and says what the bank offers;
`commit` applies the clock edge, told whether the offered command was issued and which request
was taken. When a refresh is requested the machine stops opening rows and moving data, closes
its row, and reports as soon as its bank is at rest.

## Main definitions

* `BankMachine.offer` — the command of this cycle;
* `BankMachine.evaluate` — all outputs of this cycle;
* `BankMachine.commit` — the clock edge, put together from `nextState`, `nextRow`, `consumes`
  and `closesRow`.
-/

namespace DramScheduler

/-- The states of a bank machine. It goes from one to the next at clock edges only, and what it
offers in a cycle depends on the state and on the countdowns. -/
inductive BankState where
  /-- Serving requests from the open row, or waiting for one. -/
  | regular
  /-- Closing the open row by a command. -/
  | precharge
  /-- Waiting until the row that a column command closes may count as closed. -/
  | autoPrecharge
  /-- Opening the row of the request being served. -/
  | activate
  /-- Parked for a refresh. -/
  | refresh
  deriving DecidableEq, Repr, Inhabited

/-- The name under which a state is shown. -/
def BankState.name : BankState → String
  | regular => "Regular"
  | precharge => "Precharge"
  | autoPrecharge => "AutoPrecharge"
  | activate => "Activate"
  | refresh => "Refresh"

/-- What a bank machine shows in one cycle, read off its registers before the edge. Only the offered
command depends on an input, the refresh request. -/
structure BankOutputs where
  /-- A request can be taken in this cycle. -/
  ready : Bool := false
  /-- There is work in the queue, or the bank is parked for a refresh. -/
  locked : Bool := false
  /-- The command that the bank offers to the bus, which may hold it back. -/
  command : Option Command := none
  /-- The bank is at rest and a refresh may begin. -/
  refreshGrant : Bool := false
  deriving DecidableEq, Repr, Inhabited

/-- The registers of a bank machine, and the parts of the configuration that it goes by. Five
countdowns keep the spacings inside the bank. -/
structure BankMachine where
  /-- Bank number over all ranks. -/
  index : Nat
  /-- How an address within the bank is split into row and column. -/
  split : RowSplit
  /-- Whether rows may be closed by column commands. -/
  autoPrecharge : Bool
  /-- The request being served and those that wait. -/
  queue : RequestQueue
  /-- What the machine is at. -/
  state : BankState
  /-- The open row, if there is one. -/
  openRow : Option Nat
  /-- From a write to a precharge, its burst and its recovery included. -/
  writeToPrecharge : Spacing
  /-- From one activate to the next. -/
  rowCycle : Spacing
  /-- From an activate to a precharge. -/
  rowActive : Spacing
  /-- From an activate to a column command. -/
  rowToColumn : Spacing
  /-- From a precharge to an activate. -/
  rowPrecharge : Spacing
  deriving DecidableEq, Repr, Inhabited

namespace BankMachine

/-- The machine of a bank, its row closed, its queue empty and every countdown over. What it needs
of the configuration is copied into it once. -/
def new (index : Nat) (c : Config) : BankMachine where
  index := index
  split := c.rowSplit
  autoPrecharge := c.settings.autoPrecharge
  queue := .new c.settings.bufferDepth
  state := .regular
  openRow := none
  writeToPrecharge := .new c.writeToPrecharge
  rowCycle := .ofOption c.timing.tRC
  rowActive := .ofOption c.timing.tRAS
  rowToColumn := .new c.timing.tRCD
  rowPrecharge := .new c.timing.tRP

/-! ### Outputs -/

/-- Whether a request can be taken in this cycle. It depends on the registers alone, so a request
never waits for what becomes of the command. -/
def ready (m : BankMachine) : Bool :=
  m.queue.ready

/-- Whether there is work in the queue or the bank is parked for a refresh. For as long the grant of
the bank stays, and its holder competes for no other bank. -/
def locked (m : BankMachine) : Bool :=
  m.queue.pending || m.state == .refresh

/-- The row of a request. -/
def rowOf (m : BankMachine) (request : BankRequest) : Nat :=
  m.split.row request.address

/-- Whether the open row may be closed: written data has reached the array and the row has been open
for long enough. -/
def mayPrecharge (m : BankMachine) : Bool :=
  m.writeToPrecharge.ready && m.rowActive.ready

/-- The command that closes this bank's row, and no other's. -/
def prechargeCommand (m : BankMachine) : Command :=
  .precharge m.index false

/-- Whether a column command to the given row should close it: the request after it is known and
needs another row. With an empty lookahead the row stays open. -/
def closesAfter (m : BankMachine) (row : Nat) : Bool :=
  m.autoPrecharge && m.queue.next?.any fun next => m.rowOf next != row

/-- The column command that serves a request from its row. It closes the row where the next request
is known to need another one. -/
def columnCommand (m : BankMachine) (request : BankRequest) : Command :=
  let col := m.split.col request.address
  let close := m.closesAfter (m.rowOf request)
  if request.isWrite then .write m.index col close else .read m.index col close

/-- The command that the bank offers in a cycle, if it has one. Under a refresh request it offers no
activate and no column command any more, but goes on to close its row. -/
def offer (m : BankMachine) (refreshRequest : Bool) : Option Command :=
  match m.state with
  | .regular =>
    if refreshRequest || !m.rowToColumn.ready then none
    else match m.queue.current with
      | some request =>
        if m.openRow == some (m.rowOf request) then some (m.columnCommand request) else none
      | none => none
  | .precharge => if m.mayPrecharge then some m.prechargeCommand else none
  | .autoPrecharge => none
  | .activate =>
    if refreshRequest || !(m.rowCycle.ready && m.rowPrecharge.ready) then none
    else m.queue.current.map fun request => .activate m.index (m.rowOf request)
  | .refresh =>
    if m.openRow.isSome && m.mayPrecharge then some m.prechargeCommand else none

/-- Whether the bank is at rest for a refresh: parked, its row closed, written data in the array and
the precharge over. -/
def grantsRefresh (m : BankMachine) : Bool :=
  m.state == .refresh && m.openRow.isNone && m.writeToPrecharge.ready && m.rowPrecharge.ready

/-- All outputs of a cycle. Of the inputs only the refresh request is looked at. -/
def evaluate (m : BankMachine) (refreshRequest : Bool) : BankOutputs where
  ready := m.ready
  locked := m.locked
  command := m.offer refreshRequest
  refreshGrant := m.grantsRefresh

/-! ### The clock edge -/

/-- The command issued in a cycle, given whether the offered one was accepted; `nop` where none
was. -/
def issued (m : BankMachine) (refreshRequest accepted : Bool) : Command :=
  if accepted then (m.offer refreshRequest).getD .nop else .nop

/-- Where a machine goes that serves requests and issued no column command: to close a row that the
request does not need, to open the one that it needs, or nowhere. -/
def seekRow (m : BankMachine) : BankState :=
  match m.queue.current, m.openRow with
  | some request, some row => if row != m.rowOf request then .precharge else .regular
  | some _, none => .activate
  | none, _ => .regular

/-- The state after the edge. A refresh request is answered from `regular` and `activate` at once,
while a precharge that has been begun is finished first. -/
def nextState (m : BankMachine) (refreshRequest : Bool) (issued : Command) : BankState :=
  match m.state with
  | .regular =>
    if refreshRequest then .refresh
    else if issued.isColumn then (if issued.autoPrecharge then .autoPrecharge else .regular)
    else m.seekRow
  | .precharge => if issued.isPrecharge then .activate else .precharge
  | .autoPrecharge => if m.mayPrecharge then .activate else .autoPrecharge
  | .activate =>
    if refreshRequest then .refresh else if issued.isActivate then .regular else .activate
  | .refresh => if refreshRequest then .refresh else .regular

/-- The open row after the edge. A row that a column command closes counts as closed from the edge
on. -/
def nextRow (m : BankMachine) (issued : Command) : Option Nat :=
  match issued with
  | .activate _ row => some row
  | .precharge .. => none
  | .read _ _ true | .write _ _ true => none
  | _ => m.openRow

/-- Whether the request being served is over: its column command was issued. -/
def consumes (issued : Command) : Bool :=
  issued.isColumn

/-- Whether the precharge of the bank begins in this cycle, either by its own command or as the end
of a column command. -/
def closesRow (m : BankMachine) (issued : Command) : Bool :=
  issued.isPrecharge || (m.state == .autoPrecharge && m.mayPrecharge)

/-- One clock edge: the same refresh request as in `evaluate`, whether the offered command was
issued, and the request that was taken. Each countdown is armed by the command that it counts
from. -/
def commit (m : BankMachine) (refreshRequest accepted : Bool) (push : Option BankRequest) :
    BankMachine :=
  let issued := m.issued refreshRequest accepted
  { m with
    state := m.nextState refreshRequest issued
    openRow := m.nextRow issued
    queue := m.queue.commit (consumes issued) push
    writeToPrecharge := m.writeToPrecharge.tick issued.isWrite
    rowCycle := m.rowCycle.tick issued.isActivate
    rowActive := m.rowActive.tick issued.isActivate
    rowToColumn := m.rowToColumn.tick issued.isActivate
    rowPrecharge := m.rowPrecharge.tick (m.closesRow issued) }

/-! ### Cycles on their own -/

/-- What a bank machine did in one cycle: what it showed, and where the edge led. -/
structure Cycle where
  /-- What it showed. -/
  outputs : BankOutputs
  /-- The machine after the edge. -/
  after : BankMachine
  deriving DecidableEq, Repr, Inhabited

/-- One cycle of a machine by itself: an offered command is issued unless it is held back, and a
request is taken if there is room for it. -/
def cycle (m : BankMachine) (refreshRequest stall : Bool) (push : Option BankRequest) : Cycle :=
  let outputs := m.evaluate refreshRequest
  let accepted := outputs.command.isSome && !stall
  ⟨outputs, m.commit refreshRequest accepted (if outputs.ready then push else none)⟩

end BankMachine

end DramScheduler
