/-!
# Configurations

What a controller is built from: the interface to the memory (`Phy`), the shape of the array
(`Geometry`), the timing set (`Timing`), the scheduler's own settings (`Settings`) and the
master ports (`PortConfig`). Times are given in controller cycles unless said otherwise.

Every field has a default, the whole of them describing a sixteen-bit DDR2 device behind an
interface of two phases. An optional timing parameter that is left out constrains nothing,
with two exceptions: columns are spaced by one cycle, and the turn from reading to writing
then takes the read latency.
-/

namespace DramScheduler

/-- The protocol generations. Only the length of a burst and the data rate depend on them here. -/
inductive MemoryType where
  | sdr | ddr | lpddr | ddr2 | ddr3 | ddr4 | lpddr4 | ddr5 | lpddr5
  deriving DecidableEq, Repr, Inhabited

namespace MemoryType

/-- Every generation, in the order in which they are listed. -/
def all : List MemoryType :=
  [sdr, ddr, lpddr, ddr2, ddr3, ddr4, lpddr4, ddr5, lpddr5]

/-- Column bits inside one burst. Accesses are aligned to bursts, so these bits are zero in every
column that is addressed. -/
def burstBits : MemoryType → Nat
  | sdr => 0
  | ddr | lpddr | ddr2 => 2
  | ddr3 | ddr4 => 3
  | lpddr4 | ddr5 | lpddr5 => 4

/-- Beats of one burst, a power of two. -/
def burstLength (t : MemoryType) : Nat :=
  1 <<< t.burstBits

/-- Beats per clock of the memory: one for the single data rate, two otherwise. -/
def dataRate : MemoryType → Nat
  | sdr => 1
  | _ => 2

/-- The name of a generation in reports. Documents may write it in capitals, too. -/
def name : MemoryType → String
  | sdr => "Sdr"
  | ddr => "Ddr"
  | lpddr => "Lpddr"
  | ddr2 => "Ddr2"
  | ddr3 => "Ddr3"
  | ddr4 => "Ddr4"
  | lpddr4 => "Lpddr4"
  | ddr5 => "Ddr5"
  | lpddr5 => "Lpddr5"

end MemoryType

/-- Orders of the row, bank and column fields in a master address. The order decides which accesses
meet in one bank. -/
inductive AddressMapping where
  /-- Bank bits directly above the column bits. -/
  | rowBankCol
  /-- Bank bits at the bottom; named in documents, built by no controller. -/
  | rowColBank
  deriving DecidableEq, Repr, Inhabited

/-- The name of an order in documents and messages. -/
def AddressMapping.name : AddressMapping → String
  | rowBankCol => "RowBankCol"
  | rowColBank => "RowColBank"

/-- The interface to the memory: its width and latencies, its phases, and which of them carry which
commands. -/
structure Phy where
  /-- The protocol generation of the device. -/
  memoryType : MemoryType := .ddr2
  /-- Width of the memory's data bus. -/
  dataBits : Nat := 16
  /-- Command phases per controller cycle. -/
  phases : Nat := 2
  /-- Chip selects. -/
  ranks : Nat := 1
  /-- The phase of column commands while reading. -/
  readPhase : Nat := 0
  /-- The phase of column commands while writing. -/
  writePhase : Nat := 1
  /-- The phase of row commands while reading. -/
  readRowPhase : Nat := 1
  /-- The phase of row commands while writing. -/
  writeRowPhase : Nat := 0
  /-- CAS latency in memory clocks. -/
  casLatency : Nat := 3
  /-- CAS write latency in memory clocks. -/
  casWriteLatency : Nat := 3
  /-- From a READ to its data. -/
  readLatency : Nat := 5
  /-- From a WRITE to the sampling of its data. -/
  writeLatency : Nat := 2
  deriving DecidableEq, Repr, Inhabited

/-- The shape of the array, in widths of its three address fields. All sizes are powers of two. -/
structure Geometry where
  /-- Bank address bits within a rank. -/
  bankBits : Nat := 3
  /-- Row address bits. -/
  rowBits : Nat := 13
  /-- Column address bits, those inside a burst included. -/
  colBits : Nat := 10
  deriving DecidableEq, Repr, Inhabited

/-- The timing set, in controller cycles: least distances between commands, and the times that
commands take. The optional ones may be left out. -/
structure Timing where
  /-- Precharge to activate, same bank. -/
  tRP : Nat := 2
  /-- Activate to column command, same bank. -/
  tRCD : Nat := 2
  /-- From the end of a written burst to a precharge, same bank. -/
  tWR : Nat := 2
  /-- From the end of a written burst to a read, any bank. -/
  tWTR : Nat := 2
  /-- Mean distance of refreshes. -/
  tREFI : Nat := 780
  /-- From a refresh to the next command. -/
  tRFC : Nat := 16
  /-- Window of four activates. -/
  tFAW : Option Nat := none
  /-- Column command to column command. -/
  tCCD : Option Nat := some 1
  /-- Activate to activate, different banks. -/
  tRRD : Option Nat := none
  /-- Activate to activate, same bank. -/
  tRC : Option Nat := none
  /-- Activate to precharge, same bank. -/
  tRAS : Option Nat := none
  /-- Length of a short calibration. -/
  tZQCS : Option Nat := none
  /-- Read to write; the read latency when left out. -/
  tRTW : Option Nat := none
  deriving DecidableEq, Repr, Inhabited

/-- The settings of the scheduler itself: its buffers, the budgets of the two directions, refreshes
and counts. -/
structure Settings where
  /-- Requests a bank machine looks ahead; zero acts as one. -/
  bufferDepth : Nat := 8
  /-- Cycles reading may go on while writes wait; zero sets no limit. -/
  readTime : Nat := 32
  /-- Cycles writing may go on while reads wait; zero sets no limit. -/
  writeTime : Nat := 16
  /-- Whether refreshes are issued at all. -/
  refreshEnabled : Bool := true
  /-- Whether a row is closed by its last access when the next request needs another. -/
  autoPrecharge : Bool := true
  /-- Whether column commands are counted over fixed periods. -/
  bandwidthEnabled : Bool := false
  /-- The order of the address fields. -/
  mapping : AddressMapping := .rowBankCol
  /-- Refreshes made up for in one round. -/
  postponing : Nat := 1
  /-- Rounds from one calibration to the next. -/
  zqcsInterval : Option Nat := none
  /-- The period of the column count is this power of two. -/
  bandwidthPeriodBits : Nat := 24
  deriving DecidableEq, Repr, Inhabited

/-- The clock domain of the controller. -/
def systemDomain : String := "sys"

/-- A master port as asked for. By default it has the native width and runs with the controller, so
that nothing has to be converted. -/
structure PortConfig where
  /-- Data width in bits; the native width when left out. -/
  dataWidth : Option Nat := none
  /-- The clock domain the master runs in. -/
  clockDomain : String := systemDomain
  deriving DecidableEq, Repr, Inhabited

/-- A configuration, accepted or not. What a controller does is determined by it and by the
requests. -/
structure Config where
  /-- The interface to the memory. -/
  phy : Phy := {}
  /-- The shape of the array. -/
  geometry : Geometry := {}
  /-- The timing set. -/
  timing : Timing := {}
  /-- The scheduler's own settings. -/
  settings : Settings := {}
  /-- The master ports, by number of the master. -/
  ports : List PortConfig := [{}]
  deriving DecidableEq, Repr

/-- The configuration in which every field has its default. -/
instance : Inhabited Config := ⟨{}⟩

end DramScheduler
