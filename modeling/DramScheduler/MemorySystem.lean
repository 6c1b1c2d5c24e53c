import DramScheduler.Crossbar.Crossbar

/-!
# The system

A system is a controller behind its crossbar, on one clock. In a cycle the crossbar forwards
requests according to what the banks show before the edge, the controller does its cycle with
them, and the crossbar hands the strobes of this cycle on to the masters.
-/

namespace DramScheduler

/-- What can be seen of one cycle of a system. -/
structure MemoryCycle where
  /-- The handshakes of every port, by number of the master. -/
  ports : List PortStatus
  /-- What could be seen of the controller. -/
  controller : ControllerCycle
  deriving DecidableEq, Repr, Inhabited

/-- A controller behind its crossbar. -/
structure MemorySystem where
  /-- The controller. -/
  controller : Controller
  /-- The crossbar in front of it. -/
  crossbar : Crossbar
  deriving DecidableEq, Repr

namespace MemorySystem

/-- A system at rest with the ports of its configuration, or the first thing that is wrong with
it. -/
def new (c : Config) : Except ConfigError MemorySystem := do
  let controller ← Controller.new c
  let ports ← Port.ofConfigs c.nativeWidth 0 c.ports
  let crossbar ← Crossbar.new c ports
  return ⟨controller, crossbar⟩

/-- Whether no request is held by a bank and no strobe is under way. -/
def idle (s : MemorySystem) : Bool :=
  s.controller.idle && !s.crossbar.busy

/-- The counts of the controller. -/
def statistics (s : MemorySystem) : Statistics :=
  s.controller.statistics

/-- What the crossbar does in a cycle with the given requests of the masters. The banks show whether
they are ready and locked before the edge. -/
def route (s : MemorySystem) (commands : List (Option Request)) : Routing :=
  s.crossbar.route commands (s.controller.banks.map BankMachine.ready)
    (s.controller.banks.map BankMachine.locked)

/-- One cycle with the request each master offers: the system after it and what could be seen
of it. -/
def step (s : MemorySystem) (commands : List (Option Request)) : MemorySystem × MemoryCycle :=
  let routing := s.route commands
  let (controller, cycle) := s.controller.step routing.offers
  let (crossbar, ports) := s.crossbar.commit routing cycle.responses
  (⟨controller, crossbar⟩, ⟨ports, cycle⟩)

/-- Publishes the column counts, if they are kept. -/
def publish (s : MemorySystem) : MemorySystem :=
  { s with controller := { s.controller with bus := s.controller.bus.publish } }

/-- A run over the given requests, one entry per cycle: the system after it and what could be
seen of each cycle. -/
def run (s : MemorySystem) : List (List (Option Request)) → MemorySystem × List MemoryCycle
  | [] => (s, [])
  | commands :: rest =>
    let (after, cycle) := s.step commands
    let (final, cycles) := after.run rest
    (final, cycle :: cycles)

end MemorySystem

end DramScheduler
