import DramScheduler.Address
import DramScheduler.Config.Basic
import DramScheduler.Word

/-!
# Parameters derived from a configuration

Every quantity the controller is built from that is not a field of the configuration itself.
They are words and defined for every configuration, accepted or not: where a sum or product
does not fit it stops at the largest word. The write recovery times also come in a checked
form (`Config.writeRecovery?`), by which validation refuses the configurations where the
saturation would show.
-/

namespace DramScheduler.Config

/-! ### Geometry -/

/-- Column bits inside one burst; they are zero in every access. -/
def burstBits (c : Config) : Nat :=
  c.phy.memoryType.burstBits

/-- Width of a rank number. A rank count that is no power of two counts as the largest one that
divides it. -/
def rankBits (c : Config) : Nat :=
  Word.trailingZeros c.phy.ranks

/-- Width of a bank number over all ranks, the rank in the upper bits. -/
def bankIndexBits (c : Config) : Nat :=
  Word.add c.geometry.bankBits c.rankBits

/-- Number of banks over all ranks. Where it has more than 64 bits it is the largest number
that has not. -/
def banks (c : Config) : Nat :=
  if c.bankIndexBits < 64 then 1 <<< c.bankIndexBits else 1 <<< 64 - 1

/-- Width of the word index within a row: the column without its burst bits. -/
def wordBits (c : Config) : Nat :=
  c.geometry.colBits - c.burstBits

/-- Width of a master address: row, word index and bank number side by side. -/
def addressWidth (c : Config) : Nat :=
  Word.add (Word.add c.geometry.rowBits c.wordBits) c.bankIndexBits

/-- Bits moved by one column command, which is the width of a controller word. Every phase moves as
many beats as the data rate says. -/
def nativeWidth (c : Config) : Nat :=
  Word.mul (Word.mul c.phy.dataBits c.phy.memoryType.dataRate) c.phy.phases

/-- How an address within a bank is split. -/
def rowSplit (c : Config) : RowSplit :=
  .ofGeometry c.geometry.rowBits c.geometry.colBits c.burstBits

/-- Where the bank number is in a master address: directly above the word index. -/
def bankField (c : Config) : BankField :=
  ⟨c.bankIndexBits, c.wordBits⟩

/-- The map from master addresses to places in the memory. -/
def addressMap (c : Config) : AddressMap :=
  ⟨c.bankField, c.rowSplit⟩

/-! ### Timing -/

/-- CAS write latency in controller cycles, rounded up to a whole one. -/
def casWriteCycles (c : Config) : Nat :=
  Word.divUp c.phy.casWriteLatency c.phy.phases

/-- A recovery time counted from the WRITE: the time itself, the latency of the write data
and one burst. Nothing when it has more than 32 bits. -/
def writeRecovery? (c : Config) (time : Nat) : Option Nat :=
  (Word.add? time c.casWriteCycles).bind (Word.add? · (c.timing.tCCD.getD 0))

/-- From a WRITE to a precharge of its bank: the write recovery time counted from the command. -/
def writeToPrecharge (c : Config) : Nat :=
  (c.writeRecovery? c.timing.tWR).getD Word.top

/-- From a WRITE to a READ of any bank: the turnaround time counted from the command. -/
def writeToRead (c : Config) : Nat :=
  (c.writeRecovery? c.timing.tWTR).getD Word.top

/-- From a READ to a WRITE of any bank. Unless given otherwise, the data of the read have to be
over. -/
def readToWrite (c : Config) : Nat :=
  c.timing.tRTW.getD c.phy.readLatency

/-- Cycles one refresh round holds the command bus: the precharge, the refreshes and, where rounds
calibrate at all, a calibration. Whether a round may be that long is judged by this number. -/
def refreshCycles (c : Config) : Nat :=
  let calibration := if c.settings.zqcsInterval.isSome then c.timing.tZQCS.getD 0 else 0
  Word.add (Word.add (Word.add 1 c.timing.tRP) (Word.mul c.settings.postponing c.timing.tRFC))
    calibration

/-- Cycles from one refresh round to the next, since a round makes up for all the refreshes put
off. -/
def refreshWindow (c : Config) : Nat :=
  Word.mul c.timing.tREFI c.settings.postponing

end DramScheduler.Config
