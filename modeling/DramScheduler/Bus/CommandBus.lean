import DramScheduler.Bank.Machine
import DramScheduler.Bus.Bandwidth
import DramScheduler.Bus.Budget
import DramScheduler.Bus.Chooser
import DramScheduler.Bus.Phases
import DramScheduler.Refresh.Refresher
import DramScheduler.Timing.ActivateWindow

/-!
# The command bus

The command bus takes what the bank machines offer and decides what is issued in each cycle.
Data moves in one direction at a time. In either direction a chooser picks one column command;
a second chooser picks one row command, unless the interface has a single phase, where both
kinds share the first chooser. Spacings that hold between banks are kept here.

The bus turns around when only the other direction has work, or when it has work and the
budget of the present one is used up. Turning to writing takes a fixed number of cycles,
turning to reading waits until written data has settled. Once a refresh is requested and every
bank is at rest, the bus goes to the refresher until its round is over.

A cycle has two halves: `evaluate` makes the decision of the cycle from the registers, and
`commit` applies the clock edge to it.

## Main definitions

* `CommandBus.evaluate` — the decision of a cycle, a `Decision`;
* `CommandBus.nextState` — where the bus goes after a cycle;
* `CommandBus.commit` — the clock edge.
-/

namespace DramScheduler

/-- The states of the command bus. Data moves in `read` and `write` alone; the two states of turning
issue nothing. -/
inductive BusState where
  /-- Issuing reads and row commands. -/
  | read
  /-- Issuing writes and row commands. -/
  | write
  /-- The bus is the refresher's until its round is over. -/
  | refresh
  /-- Waiting for written data before reading. -/
  | writeToRead
  /-- Waiting for the data bus before writing, with the cycles left. -/
  | readToWrite (remaining : Nat)
  deriving DecidableEq, Repr, Inhabited

namespace BusState

/-- The name under which a state is shown, with the cycles left where there are any. -/
def name : BusState → String
  | read => "Read"
  | write => "Write"
  | refresh => "Refresh"
  | writeToRead => "WriteToRead"
  | readToWrite remaining => s!"ReadToWrite({remaining})"

/-- The direction in which data moves, if it does. In every other state no command of a bank is
issued. -/
def direction? : BusState → Option Direction
  | read => some .read
  | write => some .write
  | _ => none

end BusState

/-- What the bus decided in one cycle, before the clock edge is applied to it. Everything that the
cycle shows to the banks, the refresher and the memory is read off it. -/
structure Decision where
  /-- Finding of the column chooser. -/
  column : Selection
  /-- Finding of the row chooser, if there is one. -/
  row : Option Selection
  /-- The column chooser's command is issued. -/
  columnReady : Bool
  /-- The row chooser's command is issued. -/
  rowReady : Bool
  /-- The bus is with the refresher. -/
  refreshReady : Bool
  /-- For each bank, whether its command was issued. -/
  accepted : List Bool
  /-- For each phase, the command issued on it. -/
  issued : List (Option Command)
  /-- Some bank offers a read. -/
  readAvailable : Bool
  /-- Some bank offers a write. -/
  writeAvailable : Bool
  /-- A refresh is requested and every bank is at rest. -/
  goToRefresh : Bool
  deriving DecidableEq, Repr, Inhabited

/-- The commands issued in a cycle, in the order of their phases. -/
def Decision.commands (d : Decision) : List Command :=
  d.issued.filterMap id

/-- The registers of the command bus, with the parts of the configuration that it goes by. Four
countdowns keep the spacings between banks. -/
structure CommandBus where
  /-- What the bus is at. -/
  state : BusState
  /-- The column chooser; on a single phase it also picks row commands. -/
  columnChooser : Chooser
  /-- The row chooser of an interface with several phases. -/
  rowChooser : Option Chooser
  /-- The phases of the interface, onto which commands are registered. -/
  phases : Phases
  /-- From an activate to an activate of another bank. -/
  rowToRow : Spacing
  /-- The window in which four activates at most may be issued. -/
  activateWindow : ActivateWindow
  /-- From a column command to the next one. -/
  columnToColumn : Spacing
  /-- From a write to a read, its burst included. -/
  writeToRead : Spacing
  /-- Cycles that turning to writing takes. -/
  readToWrite : Nat
  /-- Cycles for which reading may go on while writes wait. -/
  readBudget : Budget
  /-- Cycles for which writing may go on while reads wait. -/
  writeBudget : Budget
  /-- The column count, if it is kept. -/
  bandwidth : Option Bandwidth
  /-- Turns of the bus so far. -/
  switches : Nat
  deriving DecidableEq, Repr, Inhabited

namespace CommandBus

/-- The bus of a configuration, reading, with every countdown over. An interface of a single phase
has no place for a second command, and so no row chooser. -/
def new (c : Config) : CommandBus where
  state := .read
  columnChooser := .new c.banks
  rowChooser := if c.phy.phases > 1 then some (.new c.banks) else none
  phases := .new c.phy c.geometry.bankBits
  rowToRow := .ofOption c.timing.tRRD
  activateWindow := .ofOption c.timing.tFAW
  columnToColumn := .ofOption c.timing.tCCD
  writeToRead := .new c.writeToRead
  readToWrite := c.readToWrite
  readBudget := .new c.settings.readTime
  writeBudget := .new c.settings.writeTime
  bandwidth :=
    if c.settings.bandwidthEnabled then some (.new c.settings.bandwidthPeriodBits c.nativeWidth)
    else none
  switches := 0

/-! ### The decision of a cycle -/

/-- Whether a row may be opened in this cycle: both spacings of activates are kept, and no refresh
is requested. -/
def rowAllowed (b : CommandBus) (refresh : RefresherOutputs) : Bool :=
  b.rowToRow.ready && b.activateWindow.ready && !refresh.valid

/-- Whether a column command may be issued in this cycle, as far as the other column commands go.
The direction is looked at elsewhere. -/
def columnAllowed (b : CommandBus) : Bool :=
  b.columnToColumn.ready

/-- The row commands wanted while data moves. Rows are closed at any time, but opened only when
allowed. -/
def rowWants (b : CommandBus) (refresh : RefresherOutputs) : Wants :=
  { rows := true, activates := b.rowAllowed refresh }

/-- The column commands wanted in a direction. -/
def columnWants : Direction → Wants
  | .read => { reads := true }
  | .write => { writes := true }

/-- What the column chooser looks for: the commands of the present direction. Without a row chooser
it looks for row commands, too. -/
def columnChooserWants (b : CommandBus) (refresh : RefresherOutputs) : Wants :=
  match b.state.direction? with
  | none => {}
  | some d =>
    if b.rowChooser.isSome then columnWants d
    else
      { b.rowWants refresh with reads := (columnWants d).reads, writes := (columnWants d).writes }

/-- What the row chooser looks for, if there is one: row commands while data moves, nothing while
the bus turns or is with the refresher. -/
def rowChooserWants (b : CommandBus) (refresh : RefresherOutputs) : Wants :=
  if b.state.direction?.isSome && b.rowChooser.isSome then b.rowWants refresh else {}

/-- Whether a command that a chooser shows may be issued in this cycle. Column commands and
activates have spacings to keep, precharges have none on the bus. -/
def admits (b : CommandBus) (refresh : RefresherOutputs) (choice : Option Choice) : Bool :=
  b.state.direction?.isSome && choice.any fun chosen =>
    if chosen.command.isColumn then b.columnAllowed
    else !chosen.command.isActivate || b.rowAllowed refresh

/-- What is put on each phase in this cycle, which the state of the bus alone decides, whatever the
choosers show. -/
def sources (b : CommandBus) : List Source :=
  match b.state with
  | .refresh => b.phases.refreshSources
  | .read => b.phases.sources .read
  | .write => b.phases.sources .write
  | _ => b.phases.noSources

/-- **The decision of a cycle**, from the outputs of every bank machine and of the refresher. A
command is issued if its chooser shows it, the bus admits it and a phase is there for it; its bank
is told so in the same cycle. -/
def evaluate (b : CommandBus) (banks : List BankOutputs) (refresh : RefresherOutputs) :
    Decision :=
  let offers := banks.map BankOutputs.command
  let column := b.columnChooser.evaluate offers (b.columnChooserWants refresh)
  let row := b.rowChooser.map fun chooser => chooser.evaluate offers (b.rowChooserWants refresh)
  let columnReady := b.admits refresh column.choice
  let rowReady := b.admits refresh (row.bind Selection.choice)
  let taken (source : Source) : Option Choice :=
    match source with
    | .column => if columnReady then column.choice else none
    | .row => if rowReady then row.bind Selection.choice else none
    | _ => none
  let sources := b.sources
  let choices := sources.filterMap taken
  { column := column
    row := row
    columnReady := columnReady
    rowReady := rowReady
    refreshReady := b.state == .refresh
    accepted := (List.range banks.length).map fun i => choices.any fun chosen => chosen.bank == i
    issued := sources.map fun source =>
      if source = .refresh then refresh.command else (taken source).map Choice.command
    readAvailable := offers.any fun offer => offer.any Command.isRead
    writeAvailable := offers.any fun offer => offer.any Command.isWrite
    goToRefresh := refresh.valid && !banks.isEmpty && banks.all BankOutputs.refreshGrant }

/-! ### The clock edge -/

/-- The state in which the bus turns to writing. Where turning takes a single cycle or none, the bus
is there at the next edge. -/
def turnToWrite (b : CommandBus) : BusState :=
  if b.readToWrite ≤ 1 then .write else .readToWrite (b.readToWrite - 1)

/-- Where the bus goes after a cycle. Handing it to the refresher comes before turning it around,
and turning takes work in the other direction that has none against it in this one, or a budget that
is used up. -/
def nextState (b : CommandBus) (d : Decision) (refresh : RefresherOutputs) : BusState :=
  match b.state with
  | .read =>
    if d.goToRefresh then .refresh
    else if d.writeAvailable && (!d.readAvailable || b.readBudget.expired) then b.turnToWrite
    else .read
  | .write =>
    if d.goToRefresh then .refresh
    else if d.readAvailable && (!d.writeAvailable || b.writeBudget.expired) then .writeToRead
    else .write
  | .refresh => if refresh.last then .read else .refresh
  | .writeToRead => if b.writeToRead.ready then .read else .writeToRead
  | .readToWrite remaining => if remaining ≤ 1 then .write else .readToWrite (remaining - 1)

/-- Whether going from one state to another turns the bus around. The turn is counted when it
begins. -/
def turns : BusState → BusState → Bool
  | .read, .readToWrite _ | .read, .write | .write, .writeToRead => true
  | _, _ => false

/-- One clock edge after the given decision. The countdowns are armed by the commands that were
issued, and a budget shrinks in the cycles of its own direction. -/
def commit (b : CommandBus) (d : Decision) (refresh : RefresherOutputs) : CommandBus :=
  let commands := d.commands
  let activate := commands.any Command.isActivate
  let read := commands.any Command.isRead
  let write := commands.any Command.isWrite
  let next := b.nextState d refresh
  { b with
    state := next
    columnChooser := b.columnChooser.commit d.column d.columnReady
    rowChooser := match b.rowChooser, d.row with
      | some chooser, some selection => some (chooser.commit selection d.rowReady)
      | chooser, _ => chooser
    phases := b.phases.commit d.issued
    rowToRow := b.rowToRow.tick activate
    activateWindow := b.activateWindow.tick activate
    columnToColumn := b.columnToColumn.tick (read || write)
    writeToRead := b.writeToRead.tick write
    readBudget := b.readBudget.tick (b.state == .read)
    writeBudget := b.writeBudget.tick (b.state == .write)
    bandwidth := b.bandwidth.map fun counter => counter.tick read write
    switches := b.switches + (turns b.state next).toNat }

/-- Publishes the column counts, if they are kept, for a reader outside. -/
def publish (b : CommandBus) : CommandBus :=
  { b with bandwidth := b.bandwidth.map Bandwidth.publish }

/-- The sample published last, if the column counts are kept. -/
def sample? (b : CommandBus) : Option BandwidthSample :=
  b.bandwidth.map Bandwidth.sample

end CommandBus

end DramScheduler
