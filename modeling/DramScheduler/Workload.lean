import DramScheduler.MemorySystem

/-!
# Queued requests

A workload is a system with a queue of requests in front of every port. In a queue cycle every
master offers the request at the front of its queue and drops it once it is taken. The cycles
worth reporting are logged: those in which a command was issued, a handshake took place, or
the command bus or the refresh request changed.

Cycles can also be driven past the queues with any requests; they count as cycles, but leave
the queues and the comparison of the log alone.
-/

namespace DramScheduler

/-- What is logged of one cycle: what the memory, the masters and the data buses saw of it. -/
structure LogEntry where
  /-- Number of the cycle, from zero. -/
  cycle : Nat
  /-- For each phase, the command issued. -/
  issued : List (Option Command)
  /-- The handshakes of every port. -/
  ports : List PortStatus
  /-- The master whose data is taken. -/
  writeSource : Option Nat
  /-- The master that gets data. -/
  readSink : Option Nat
  /-- The bus after the cycle. -/
  state : BusState
  /-- The refresher asked for the bus in the cycle. -/
  refreshRequest : Bool
  deriving DecidableEq, Repr, Inhabited

/-- Whether a port had no handshake. -/
def PortStatus.quiet (p : PortStatus) : Bool :=
  !p.accepted && !p.writeData && !p.readData

/-- A system with a queue of requests in front of every port. The first of a queue is offered until
it is taken. -/
structure Workload where
  /-- The system. -/
  system : MemorySystem
  /-- The requests of each master, oldest first. -/
  queues : List (List Request)
  /-- Cycles so far. -/
  cycles : Nat
  /-- The bus after the last queue cycle, and whether a refresh was requested in it. -/
  shown : BusState × Bool
  deriving DecidableEq, Repr

namespace Workload

/-- A system with empty queues. The log compares its first cycle with a bus that reads and no
refresh requested. -/
def new (system : MemorySystem) : Workload where
  system := system
  queues := List.replicate system.crossbar.masters []
  cycles := 0
  shown := (.read, false)

/-- Puts a request at the end of a master's queue. -/
def push (w : Workload) (master : Nat) (request : Request) : Workload :=
  { w with queues := w.queues.modify master fun queue => queue ++ [request] }

/-- Whether there is nothing left to do. -/
def finished (w : Workload) : Bool :=
  w.queues.all List.isEmpty && w.system.idle

/-- One cycle with the given requests, whatever is queued. -/
def step (w : Workload) (commands : List (Option Request)) : Workload × MemoryCycle :=
  let (system, cycle) := w.system.step commands
  ({ w with system := system, cycles := w.cycles + 1 }, cycle)

/-- Publishes the column counts, if they are kept. -/
def publish (w : Workload) : Workload :=
  { w with system := w.system.publish }

/-- The queues after a cycle with the given handshakes. -/
def dropAccepted (queues : List (List Request)) (ports : List PortStatus) :
    List (List Request) :=
  mapEntries (fun queue accepted => if accepted then queue.tail else queue) false queues
    (ports.map PortStatus.accepted)

/-- One queue cycle, with its log entry if it is worth one: every master offers the request at the
front of its queue. -/
def queueCycle (w : Workload) : Workload × Option LogEntry :=
  let (after, cycle) := w.step (w.queues.map List.head?)
  let state := after.system.controller.bus.state
  let shown := (state, cycle.controller.refreshRequest)
  let entry : LogEntry :=
    { cycle := w.cycles
      issued := cycle.controller.issued
      ports := cycle.ports
      writeSource := after.system.crossbar.writeSource
      readSink := after.system.crossbar.readSink
      state := state
      refreshRequest := cycle.controller.refreshRequest }
  let worth := !cycle.controller.commands.isEmpty || !cycle.ports.all PortStatus.quiet ||
    shown != w.shown
  ({ after with queues := dropAccepted w.queues cycle.ports, shown := shown },
    if worth then some entry else none)

/-- Queue cycles while the condition does not hold, but no more than the given number. The log
is kept last first. -/
def cyclesUntil (stop : Workload → Bool) : Nat → Workload → List LogEntry →
    Workload × List LogEntry
  | 0, w, log => (w, log)
  | n + 1, w, log =>
    if stop w then (w, log)
    else
      let (after, entry) := w.queueCycle
      cyclesUntil stop n after (entry.toList ++ log)

/-- The given number of queue cycles, with their log. -/
def run (w : Workload) (cycles : Nat) : Workload × List LogEntry :=
  let (after, log) := cyclesUntil (fun _ => false) cycles w []
  (after, log.reverse)

/-- Queue cycles until there is nothing left to do, but no more than the given number, with
their log. -/
def drain (w : Workload) (limit : Nat) : Workload × List LogEntry :=
  let (after, log) := cyclesUntil finished limit w []
  (after, log.reverse)

end Workload

end DramScheduler
