import DramScheduler.MemorySystem
import DramScheduler.Traffic.Generator

/-!
# Runs under traffic

A traffic run drives every port of a system from a generator of its own. A master keeps its
request on offer until it is taken and then makes up the next one.
-/

namespace DramScheduler

/-- A master that is never without a request. -/
structure TrafficMaster where
  /-- The generator that its requests come from. -/
  traffic : Traffic
  /-- The request on offer. -/
  offered : Request
  deriving DecidableEq, Repr, Inhabited

/-- A system whose masters are all driven by generators. Each of them offers its request until it is
taken. -/
structure TrafficRun where
  /-- The configuration the addresses are made for. -/
  config : Config
  /-- The system under traffic. -/
  system : MemorySystem
  /-- The masters, by number. -/
  masters : List TrafficMaster
  deriving DecidableEq, Repr

namespace TrafficRun

/-- A master with a request of the given generator on offer. -/
def offering (c : Config) (traffic : Traffic) : TrafficMaster :=
  let (request, traffic) := traffic.next c
  ⟨traffic, request⟩

/-- A system at rest with the first request of every master on offer, or what is wrong with
the configuration. -/
def new (c : Config) (pattern : TrafficPattern) (seed : UInt64) (writes : Nat) :
    Except ConfigError TrafficRun := do
  let system ← MemorySystem.new c
  return {
    config := c
    system := system
    masters := (List.range c.ports.length).map fun master =>
      offering c (.new pattern master seed writes) }

/-- One cycle, in which every master offers its request, and those whose request was taken make up
the next one. -/
def step (r : TrafficRun) : TrafficRun :=
  let (system, cycle) := r.system.step (r.masters.map fun m => some m.offered)
  { r with
    system := system
    masters := mapEntries
      (fun m accepted => if accepted then offering r.config m.traffic else m) false
      r.masters (cycle.ports.map PortStatus.accepted) }

/-- A number of cycles, one after the other. -/
def run : Nat → TrafficRun → TrafficRun
  | 0, r => r
  | n + 1, r => run n r.step

end TrafficRun

end DramScheduler
