import DramScheduler.Config.Validation

/-!
# Master ports

A port records what a master looks like from the crossbar: its data width against the native
width, and the clock domain it runs in. Converting widths and crossing clock domains is done
outside; a port only exists if its width can be converted.
-/

namespace DramScheduler

/-- A master port as it was built, with its ratio of widths worked out. Nothing is converted here:
the port says what a converter has to do. -/
structure Port where
  /-- The number of the master. -/
  index : Nat
  /-- The width of the master's data bus in bits. -/
  dataWidth : Nat
  /-- The clock domain the master runs in. -/
  clockDomain : String
  /-- The wider of the data width and the native width, divided by the other. -/
  ratio : Nat
  /-- Whether the port is wider than a controller word. -/
  wider : Bool
  deriving DecidableEq, Repr, Inhabited

namespace Port

/-- The port of a master, if its width can be converted to the native width. A master that asks for
no width has the native one. -/
def new (index : Nat) (config : PortConfig) (native : Nat) : Except ConfigError Port := do
  let width ← config.validate native
  let wider := decide (native < width)
  return {
    index := index
    dataWidth := width
    clockDomain := config.clockDomain
    ratio := if wider then width / native else native / width
    wider := wider }

/-- Whether data has to change its width on the way. -/
def needsConversion (p : Port) : Bool :=
  p.ratio != 1

/-- Whether the master runs in a clock domain of its own, so that its requests have to cross
over. -/
def isAsync (p : Port) : Bool :=
  p.clockDomain != systemDomain

/-- The ports of masters numbered from `first` on, or what is wrong with the first bad one. -/
def ofConfigs (native : Nat) (first : Nat) : List PortConfig → Except ConfigError (List Port)
  | [] => .ok []
  | config :: rest => do
    let port ← new first config native
    let ports ← ofConfigs native (first + 1) rest
    return port :: ports

end Port

/-- The handshakes of a port in one cycle. All three are strobes: each lasts for the cycle alone and
waits for no answer. -/
structure PortStatus where
  /-- The offered request was taken. -/
  accepted : Bool
  /-- Data of an earlier write is taken. -/
  writeData : Bool
  /-- Data of an earlier read is here. -/
  readData : Bool
  deriving DecidableEq, Repr, Inhabited

end DramScheduler
