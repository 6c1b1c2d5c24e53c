import DramScheduler.Proofs.Address
import Mathlib.Algebra.Order.Floor.Div

/-!
# Derived parameters in plain arithmetic

A derived parameter is a word, and a sum or product that does not fit into one stops at the largest
word. Nothing says so where the parameter is used, so validation has to refuse the configurations in
which it happens. It does so for the number of banks and the address width by their bounds, for the
recovery times by a sum that can fail, and for the length of a refresh round by the window, which is
a word itself. In an accepted configuration all of them are what plain arithmetic makes of the
fields.

The native width is the one that no rule looks at. A bus that is wide enough is accepted, and its
native width is then the largest word, against which the widths of the ports are measured.

## Main results

* `Config.getD_writeRecovery?_eq` — the recovery times are plain sums;
* `Config.nativeWidth_eq` — the native width is the plain product, or the largest word;
* `Config.derivesExactly` — every derived parameter of an accepted configuration;
* `Config.not_nativeWidth_eq_mul` — an accepted configuration can have a saturated native width.
-/

namespace DramScheduler

/-- Saturating twice is saturating once, unless the last factor is zero. -/
theorem Word.mul_mul_eq {a b c : Nat} (positive : 0 < c) :
    Word.mul (Word.mul a b) c = min (a * b * c) Word.top := by
  have larger : Word.top ≤ Word.top * c := Nat.le_mul_of_pos_right _ positive
  rw [Word.mul, Word.mul, ← Nat.mul_min_mul_right, Nat.min_assoc, Nat.min_eq_right larger]

/-- Groups that hold a number are counted by the division rounded up. -/
theorem Word.divUp_eq (a b : Nat) : Word.divUp a b = a ⌈/⌉ b :=
  (Nat.ceilDiv_eq_add_pred_div a b).symm

/-- The column bits inside a burst are the logarithm of its length. -/
theorem MemoryType.burstBits_eq (t : MemoryType) : t.burstBits = t.burstLength.log2 := by
  rw [burstLength, Nat.one_shiftLeft, Nat.log2_two_pow]

namespace Config

variable {c : Config} {time : Nat}

/-- A recovery time that fits into a word is a plain sum. -/
theorem writeRecovery?_eq_some {total : Nat} (found : c.writeRecovery? time = some total) :
    total = time + c.phy.casWriteLatency ⌈/⌉ c.phy.phases + c.timing.tCCD.getD 0 := by
  obtain ⟨latency, first, last⟩ := Option.bind_eq_some_iff.1 found
  obtain ⟨-, rfl⟩ := Word.add?_eq_some_iff.1 first
  obtain ⟨-, rfl⟩ := Word.add?_eq_some_iff.1 last
  rw [casWriteCycles, Word.divUp_eq]

/-- A recovery time is a plain sum where validation has made sure that it fits, and its default is
never used. -/
theorem getD_writeRecovery?_eq (fits : (c.writeRecovery? time).isSome) :
    (c.writeRecovery? time).getD Word.top =
      time + c.phy.casWriteLatency ⌈/⌉ c.phy.phases + c.timing.tCCD.getD 0 := by
  obtain ⟨total, found⟩ := Option.isSome_iff_exists.1 fits
  rw [found, Option.getD_some, writeRecovery?_eq_some found]

/-- The native width is the plain product, or the largest word if that is less. No rule keeps the
product below it. -/
theorem nativeWidth_eq (phases : 0 < c.phy.phases) :
    c.nativeWidth = min (c.phy.dataBits * c.phy.memoryType.dataRate * c.phy.phases) Word.top :=
  Word.mul_mul_eq phases

namespace Accepted

/-- Chip selects are numbered by a logarithm. -/
theorem rankBits_eq (a : c.Accepted) : c.rankBits = c.phy.ranks.log2 := by
  rw [a.ranks_eq, Nat.log2_two_pow]

/-- An address has room for a row, a bank, and a column without its burst bits. -/
theorem addressWidth_add (a : c.Accepted) :
    c.addressWidth + c.phy.memoryType.burstLength.log2 =
      c.geometry.rowBits + c.geometry.colBits + c.geometry.bankBits + c.phy.ranks.log2 := by
  have parts : c.addressWidth = c.geometry.rowBits + c.wordBits + c.bankIndexBits := by
    rw [a.addressWidth_eq, AddressMap.width]
    simp only [addressMap, rowSplit, bankField, RowSplit.ofGeometry]
    omega
  have columns : c.wordBits + c.phy.memoryType.burstBits = c.geometry.colBits := a.colBits_eq
  rw [parts, a.bankIndexBits_eq, ← a.rankBits_eq, ← MemoryType.burstBits_eq]
  omega

end Accepted

/-- The derived parameters in arithmetic without bounds, but for the one that saturates. Each of the
others is the plain sum or product that its name says. -/
structure DerivesExactly (c : Config) : Prop where
  /-- Banks are counted over all ranks. -/
  banks : c.banks = c.phy.ranks * 2 ^ c.geometry.bankBits
  /-- They can be numbered by six bits. -/
  banks_le : c.banks ≤ 64
  /-- An address has the bits of all fields, less those inside a burst. -/
  addressWidth : c.addressWidth + c.phy.memoryType.burstLength.log2 =
    c.geometry.rowBits + c.geometry.colBits + c.geometry.bankBits + c.phy.ranks.log2
  /-- It leaves a bit of its word free. -/
  addressWidth_le : c.addressWidth ≤ 63
  /-- The only parameter that saturates. -/
  nativeWidth : c.nativeWidth =
    min (c.phy.dataBits * c.phy.memoryType.dataRate * c.phy.phases) Word.top
  /-- Write recovery is counted from the end of the data. -/
  writeToPrecharge : c.writeToPrecharge =
    c.timing.tWR + c.phy.casWriteLatency ⌈/⌉ c.phy.phases + c.timing.tCCD.getD 0
  /-- So is the turnaround. -/
  writeToRead : c.writeToRead =
    c.timing.tWTR + c.phy.casWriteLatency ⌈/⌉ c.phy.phases + c.timing.tCCD.getD 0
  /-- A round is made of its precharge, its refreshes and a calibration if they are asked for. -/
  refreshCycles : c.settings.refreshEnabled = true → c.refreshCycles =
    1 + c.timing.tRP + c.settings.postponing * c.timing.tRFC +
      if c.settings.zqcsInterval.isSome then c.timing.tZQCS.getD 0 else 0

/-- **Derived parameters are exact** in every accepted configuration, but for the native width,
which is so as long as it fits into a word. -/
theorem derivesExactly (accepted : c.validate = .ok ()) : c.DerivesExactly := by
  have a := validate_eq_ok_iff.1 accepted
  exact {
    banks := a.banks_eq_ranks
    banks_le := a.banks_le
    addressWidth := a.addressWidth_add
    addressWidth_le := a.addressWidth_le
    nativeWidth := nativeWidth_eq a.phases_pos
    writeToPrecharge := getD_writeRecovery?_eq a.writeToPrecharge_fits
    writeToRead := getD_writeRecovery?_eq a.writeToRead_fits
    refreshCycles := a.refreshCycles_eq }

/-- Two ranks behind four phases, with a write latency that does not fill its last cycle, rounds of
several refreshes, and times that leave a word with nothing to spare. -/
def fullRecovery : Config where
  phy := { memoryType := .ddr3, dataBits := 64, phases := 4, ranks := 2, casWriteLatency := 5 }
  timing := { tWR := 4294967292, tWTR := 4294967200, tZQCS := some 64 }
  settings := { postponing := 4, zqcsInterval := some 128 }

/-- A recovery time may leave nothing of its word. -/
theorem derivesExactly_of_fullRecovery :
    fullRecovery.validate = .ok () ∧ fullRecovery.settings.refreshEnabled = true ∧
      fullRecovery.DerivesExactly ∧ fullRecovery.writeToPrecharge = Word.top :=
  ⟨by decide, rfl, derivesExactly (by decide), by decide⟩

/-- A data bus of which one controller word holds `2 ^ 33` bits. -/
def wideBus : Config where
  phy := { dataBits := 2 ^ 31 }

/-- **The native width can be a saturated one**, although the configuration is accepted: there is no
rule about the number of data lines that would exclude it. -/
theorem not_nativeWidth_eq_mul :
    ¬ ∀ c : Config, c.validate = .ok () →
      c.nativeWidth = c.phy.dataBits * c.phy.memoryType.dataRate * c.phy.phases := by
  intro claimed
  exact absurd (claimed wideBus (by decide)) (by decide)

end Config

end DramScheduler
