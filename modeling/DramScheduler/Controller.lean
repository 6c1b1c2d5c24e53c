import DramScheduler.Bus.CommandBus
import DramScheduler.Config.Validation
import DramScheduler.Entries
import DramScheduler.Statistics.Basic

/-!
# The controller

A controller is one bank machine per bank, the command bus and the refresher on one clock. In
a cycle the refresher, the bank machines and the bus read their registers in this order; then
the clock edge is applied to all of them. Requests come in already addressed to a bank, and an
offered request is taken exactly if its bank has room for it.

## Main definitions

* `Controller.new` — a controller for a configuration that passes validation;
* `Controller.evaluate` — what is decided in a cycle, from the registers alone;
* `Controller.step` — one cycle, its clock edge included;
* `Controller.run` — a sequence of cycles.
-/

namespace DramScheduler

/-- The data strobes of a bank in one cycle. -/
structure BankResponse where
  /-- A write of this bank was issued; its data is taken after the write latency. -/
  writeData : Bool
  /-- A read of this bank was issued; its data comes after the read latency. -/
  readData : Bool
  deriving DecidableEq, Repr, Inhabited

namespace BankResponse

/-- No strobe at all. -/
def silent : BankResponse :=
  ⟨false, false⟩

/-- The strobes that an issued command gives rise to. -/
def ofCommand (issued : Option Command) : BankResponse :=
  ⟨issued.any Command.isWrite, issued.any Command.isRead⟩

end BankResponse

/-- What can be seen of one cycle of a controller from outside: what it took, what it issued, and
what it told the masters. -/
structure ControllerCycle where
  /-- For each bank, whether the offered request was taken. -/
  accepted : List Bool
  /-- For each bank, its data strobes. -/
  responses : List BankResponse
  /-- For each phase, the command issued; the memory sees it in the next cycle. -/
  issued : List (Option Command)
  /-- The refresher asked for the bus in this cycle. -/
  refreshRequest : Bool
  deriving DecidableEq, Repr, Inhabited

/-- The commands issued in a cycle, in the order of their phases. -/
def ControllerCycle.commands (c : ControllerCycle) : List Command :=
  c.issued.filterMap id

/-- A controller: the registers of all its parts, and the counts of its run so far. All parts take
the same clock edge. -/
structure Controller where
  /-- The configuration it was built for. -/
  config : Config
  /-- The bank machines, by bank number. -/
  banks : List BankMachine
  /-- The command bus. -/
  bus : CommandBus
  /-- The refresher. -/
  refresher : Refresher
  /-- The counts so far. -/
  statistics : Statistics
  deriving DecidableEq, Repr

namespace Controller

/-- A controller at rest, whatever its configuration. Its banks are numbered over all ranks. -/
def build (c : Config) : Controller where
  config := c
  banks := (List.range c.banks).map fun index => .new index c
  bus := .new c
  refresher := .new c
  statistics := {}

/-- A controller at rest, or what is wrong with its configuration. Once it is built, a controller
reports no error any more. -/
def new (c : Config) : Except ConfigError Controller := do
  c.validate
  return build c

/-! ### Looking at a controller -/

/-- Whether a bank can take a request in this cycle. -/
def ready (c : Controller) (bank : Nat) : Bool :=
  c.banks[bank]?.any BankMachine.ready

/-- Whether a bank has work or is parked for a refresh. -/
def locked (c : Controller) (bank : Nat) : Bool :=
  c.banks[bank]?.any BankMachine.locked

/-- Whether no bank holds a request. -/
def idle (c : Controller) : Bool :=
  c.banks.all fun bank => bank.queue.isEmpty

/-! ### One cycle -/

/-- Everything that is decided in a cycle before its clock edge, from the registers alone. Offers
have no part in it. -/
structure Evaluation where
  /-- What the refresher shows. -/
  refresh : RefresherOutputs
  /-- What each bank shows. -/
  banks : List BankOutputs
  /-- What the bus decides. -/
  decision : Decision
  deriving DecidableEq, Repr

/-- What is decided in a cycle, from the registers alone. The requests offered in the cycle have no
say in it. -/
def evaluate (c : Controller) : Evaluation :=
  let refresh := c.refresher.evaluate
  let banks := c.banks.map fun bank => bank.evaluate refresh.valid
  ⟨refresh, banks, c.bus.evaluate banks refresh⟩

namespace Evaluation

/-- The request a bank takes, given what is offered to it. -/
def taken (outputs : BankOutputs) (offer : Option BankRequest) : Option BankRequest :=
  if outputs.ready then offer else none

/-- For each bank, the request it takes. Banks without an entry are offered nothing. -/
def pushes (e : Evaluation) (offers : List (Option BankRequest)) : List (Option BankRequest) :=
  mapEntries taken none e.banks offers

/-- The data strobes of a bank, given whether its command was issued. -/
def response (outputs : BankOutputs) (accepted : Bool) : BankResponse :=
  .ofCommand (if accepted then outputs.command else none)

/-- The data strobes of every bank, by bank number. -/
def responses (e : Evaluation) : List BankResponse :=
  mapEntries response false e.banks e.decision.accepted

/-- What happens at the edge of each bank: whether its command was issued, and the request it
takes. -/
def edges (e : Evaluation) (pushes : List (Option BankRequest)) :
    List (Bool × Option BankRequest) :=
  mapEntries (fun push accepted => (accepted, push)) false pushes e.decision.accepted

end Evaluation

/-- The counts after a cycle, from what could be seen of it and from the bus around its edge: its
state before and its turns after. -/
def countCycle (s : Statistics) (before after : CommandBus) (cycle : ControllerCycle) :
    Statistics :=
  let counted : Statistics :=
    { s with
      cycles := s.cycles + 1
      refreshCycles := s.refreshCycles + (before.state == .refresh).toNat
      directionSwitches := after.switches
      requestsAccepted := s.requestsAccepted + cycle.accepted.count true
      writesCompleted := s.writesCompleted + cycle.responses.countP BankResponse.writeData
      readsCompleted := s.readsCompleted + cycle.responses.countP BankResponse.readData }
  counted.recordAll cycle.commands

/-- One cycle with the given offers by bank number: the controller after it and what could be seen
of it. All parts take the edge together, each with what was decided before it. -/
def step (c : Controller) (offers : List (Option BankRequest)) : Controller × ControllerCycle :=
  let e := c.evaluate
  let pushes := e.pushes offers
  let cycle : ControllerCycle :=
    { accepted := pushes.map Option.isSome
      responses := e.responses
      issued := e.decision.issued
      refreshRequest := e.refresh.valid }
  let bus := c.bus.commit e.decision e.refresh
  ({ c with
      banks := mapEntries
        (fun bank (accepted, push) => bank.commit e.refresh.valid accepted push) (false, none)
        c.banks (e.edges pushes)
      bus := bus
      refresher := c.refresher.commit e.decision.refreshReady
      statistics := countCycle c.statistics c.bus bus cycle }, cycle)

/-- A run over the given offers, one entry per cycle: the controller after it and what could
be seen of each cycle. -/
def run (c : Controller) : List (List (Option BankRequest)) → Controller × List ControllerCycle
  | [] => (c, [])
  | offers :: rest =>
    let (after, cycle) := c.step offers
    let (final, cycles) := after.run rest
    (final, cycle :: cycles)

/-- A run over two parts is a run over the first and then over the second. -/
theorem run_append (c : Controller) (first second : List (List (Option BankRequest))) :
    c.run (first ++ second) =
      (((c.run first).1.run second).1, (c.run first).2 ++ ((c.run first).1.run second).2) := by
  induction first generalizing c with
  | nil => rfl
  | cons offers rest ih => simp only [List.cons_append, run, ih]

end Controller

end DramScheduler
