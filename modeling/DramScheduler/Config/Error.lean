import DramScheduler.Config.Basic

/-!
# What can be wrong with a configuration

A `ConfigError` names the first rule that a configuration breaks, with the values that break
it; `ConfigError.message` words it. There are no errors after this stage: a controller that
was built answers congestion with backpressure alone.
-/

namespace DramScheduler

/-- Timing parameters with a lower bound. -/
inductive BoundedTime where
  | tRP | tRCD | tRFC | tREFI | tRC
  deriving DecidableEq, Repr, Inhabited

/-- The name of a parameter in messages. -/
def BoundedTime.name : BoundedTime → String
  | tRP => "tRP"
  | tRCD => "tRCD"
  | tRFC => "tRFC"
  | tREFI => "tREFI"
  | tRC => "tRC"

/-- Timings derived by a sum, which may need more than 32 bits. -/
inductive DerivedTime where
  | writeToPrecharge | writeToRead
  deriving DecidableEq, Repr, Inhabited

/-- The name of a derived timing in messages. -/
def DerivedTime.name : DerivedTime → String
  | writeToPrecharge => "write-to-precharge"
  | writeToRead => "write-to-read"

/-- The four kinds of command that are assigned to phases. -/
inductive PhaseUse where
  | read | write | readRow | writeRow
  deriving DecidableEq, Repr, Inhabited

/-- The name of a use in messages, which is that of its field. -/
def PhaseUse.name : PhaseUse → String
  | read => "rdphase"
  | write => "wrphase"
  | readRow => "rdcmdphase"
  | writeRow => "wrcmdphase"

/-- What can be wrong with an interface. -/
inductive PhyFault where
  /-- There is no phase to put a command on. -/
  | noPhases
  /-- A use is assigned to a phase that does not exist. -/
  | noSuchPhase (use : PhaseUse) (phase phases : Nat)
  /-- Column and row commands share a phase in some direction. -/
  | sharedPhase (read readRow write writeRow : Nat)
  /-- The number of ranks is not a power of two, or too large. -/
  | rankCount (ranks : Nat)
  /-- The data bus has no line. -/
  | noData
  deriving DecidableEq, Repr, Inhabited

/-- What can be wrong with the shape of an array. -/
inductive GeometryFault where
  /-- The row address has no bits, or more than the address bus has lines. -/
  | rowBits (bits : Nat)
  /-- The column address does not exceed the burst bits, or has too many bits. -/
  | colBits (burstBits bits : Nat)
  /-- There are more banks over all ranks than there may be. -/
  | bankCount (banks : Nat)
  /-- Master addresses would need more bits than they have. -/
  | addressWidth (width : Nat)
  deriving DecidableEq, Repr, Inhabited

/-- What can be wrong with the settings of a scheduler. -/
inductive SettingsFault where
  /-- Too many refreshes are made up for in one round, or none. -/
  | postponing (count : Nat)
  /-- Calibrations are to come every zero rounds. -/
  | zqcsInterval
  /-- The period of the column count is no power of two that it can have. -/
  | bandwidthPeriodBits (bits : Nat)
  /-- There is no master. -/
  | noPorts
  deriving DecidableEq, Repr, Inhabited

/-- The first rule a configuration breaks, with the values that break it. Each has a wording of its
own. -/
inductive ConfigError where
  /-- No controller can be built for this order of the address fields. -/
  | unsupportedMapping (mapping : AddressMapping)
  /-- A port's width is no power of two away from the native width. -/
  | widthRatio (port native : Nat)
  /-- A timing parameter is below its lower bound. -/
  | timingTooTight (parameter : BoundedTime) (value minimum : Nat)
  /-- A refresh round takes as long as the time between two of them. -/
  | refreshSaturated (cycles window : Nat)
  /-- A derived timing needs more than 32 bits. -/
  | timingOverflow (derived : DerivedTime)
  /-- The shape of the array cannot be addressed. -/
  | geometry (fault : GeometryFault)
  /-- The interface cannot be driven. -/
  | phy (fault : PhyFault)
  /-- A setting is out of its range. -/
  | settings (fault : SettingsFault)
  /-- The document is not well formed, or a field of it has the wrong type. -/
  | malformed
  /-- The document could not be read. -/
  | unreadable (reason : String)
  deriving DecidableEq, Repr, Inhabited

/-- The largest number of ranks, which is that of the chip selects. -/
def maxRanks : Nat := 32

/-- The largest number of banks over all ranks. -/
def maxBanks : Nat := 64

/-- The most refreshes that may be made up for in one round. -/
def maxPostponing : Nat := 8

/-- The wording of a fault of the interface. -/
def PhyFault.message : PhyFault → String
  | noPhases => "nphases must be at least 1"
  | noSuchPhase use phase phases =>
    s!"{use.name} = {phase} is not a phase of a {phases}-phase PHY"
  | sharedPhase read readRow write writeRow =>
    s!"column and row commands need distinct phases, got rd {read}/{readRow} and " ++
    s!"wr {write}/{writeRow}"
  | rankCount ranks => s!"nranks must be a power of two up to {maxRanks}, got {ranks}"
  | noData => "databits must be non-zero"

/-- The wording of a fault of the geometry. -/
def GeometryFault.message : GeometryFault → String
  | rowBits bits => s!"rowbits must be in 1..=32, got {bits}"
  | colBits burstBits bits =>
    s!"colbits must exceed the burst alignment ({burstBits}) and be at most 32, got {bits}"
  | bankCount banks => s!"{banks} banks exceed the supported maximum of {maxBanks}"
  | addressWidth width => s!"address width of {width} bits does not fit a 64-bit address"

/-- The wording of a fault of the settings. -/
def SettingsFault.message : SettingsFault → String
  | postponing count => s!"refresh_postponing must be in 1..={maxPostponing}, got {count}"
  | zqcsInterval => "zqcs_interval must be at least one refresh round"
  | bandwidthPeriodBits bits => s!"bandwidth_period_bits must be in 1..=63, got {bits}"
  | noPorts => "crossbar needs at least one master port"

/-- The wording of an error. What is wrong with a malformed document is not said. -/
def ConfigError.message : ConfigError → String
  | unsupportedMapping mapping =>
    s!"unsupported address mapping {mapping.name}: only RowBankCol is supported"
  | widthRatio port native =>
    s!"port data width {port} bits has no integer power-of-two ratio to the native width " ++
    s!"{native} bits"
  | timingTooTight parameter value minimum =>
    s!"timing parameter {parameter.name} = {value} is below the minimum of {minimum} cycles"
  | refreshSaturated cycles window =>
    s!"refresh sequence of {cycles} cycles does not fit into a refresh window of {window} cycles"
  | timingOverflow derived => s!"derived timing {derived.name} overflows 32 bits"
  | geometry fault => s!"invalid geometry: {fault.message}"
  | phy fault => s!"invalid PHY settings: {fault.message}"
  | settings fault => s!"invalid controller settings: {fault.message}"
  | malformed => "failed to parse configuration: "
  | unreadable reason => s!"failed to read configuration: {reason}"

end DramScheduler
