import DramScheduler.Config.Validation
import Mathlib.Algebra.Group.Nat.Defs

/-!
# What an accepted configuration promises

`Config.validate` walks through its rules one after the other and stops at the first that is
broken. `Config.Accepted` states the same rules at once, and `Config.validate_eq_ok_iff` says
that validation accepts exactly the configurations that keep all of them. What is built from an
accepted configuration relies on the rules through the fields of this structure.

## Main results

* `Config.validate_eq_ok_iff` — validation decides `Config.Accepted`;
* `Config.Accepted.refreshCycles_eq` — where refreshes are issued, the length of a round is
  exact, not a saturated sum.
-/

namespace DramScheduler

/-- The test on the logarithm finds exactly the powers of two. -/
theorem Word.isPowerOfTwo_iff {n : Nat} : Word.isPowerOfTwo n = true ↔ ∃ k, n = 2 ^ k := by
  rw [isPowerOfTwo, beq_iff_eq, Nat.one_shiftLeft]
  constructor
  · intro power
    exact ⟨n.log2, power.symm⟩
  · rintro ⟨k, rfl⟩
    rw [Nat.log2_two_pow]

/-- The lowest set bit of a power of two is its only one. -/
theorem Word.trailingZeros_two_pow {k : Nat} (within : k < Word.width) :
    Word.trailingZeros (2 ^ k) = k := by
  have found : (List.range Word.width).find? (2 ^ k).testBit = some k := by
    rw [List.find?_range_eq_some]
    refine ⟨by simp, List.mem_range.2 within, fun j earlier => ?_⟩
    rw [Nat.testBit_two_pow, decide_eq_false (Nat.ne_of_gt earlier)]
    rfl
  rw [Word.trailingZeros, found, Option.getD_some]

/-- A check after another one passes exactly if both pass. Every rule of a sequence is reached by
it. -/
theorem bind_eq_ok_iff {ε α β : Type} {x : Except ε α} {f : α → Except ε β} {b : β} :
    (x >>= f) = .ok b ↔ ∃ a, x = .ok a ∧ f a = .ok b := by
  cases x with
  | error e => simp [bind, Except.bind]
  | ok a => simp [bind, Except.bind]

/-- Every use has a phase that exists. -/
theorem Phy.validatePlacement_eq_ok_iff {p : Phy} {u : Unit} :
    p.validatePlacement = .ok u ↔
      p.readPhase < p.phases ∧ p.writePhase < p.phases ∧ p.readRowPhase < p.phases ∧
        p.writeRowPhase < p.phases := by
  rw [Phy.validatePlacement, Phy.misplaced?]
  split
  · next use phase found =>
    have misplaced := List.find?_some found
    have used := List.mem_of_find?_eq_some found
    simp only [Phy.uses, List.mem_cons, Prod.mk.injEq, List.not_mem_nil, or_false] at used
    simp only [ge_iff_le, decide_eq_true_eq] at misplaced
    simp only [reduceCtorEq, false_iff]
    omega
  · next found =>
    simpa [Phy.uses] using found

/-- The rules of a configuration, all at once. What is built from an accepted configuration takes
what it relies on from here. -/
structure Config.Accepted (c : Config) : Prop where
  /-- There is a phase. -/
  phases_pos : 0 < c.phy.phases
  /-- Every use of a phase is of one that there is. -/
  placed : c.phy.readPhase < c.phy.phases ∧ c.phy.writePhase < c.phy.phases ∧
    c.phy.readRowPhase < c.phy.phases ∧ c.phy.writeRowPhase < c.phy.phases
  /-- With several phases, row and column commands do not share one. -/
  phases_distinct : 1 < c.phy.phases →
    c.phy.readPhase ≠ c.phy.readRowPhase ∧ c.phy.writePhase ≠ c.phy.writeRowPhase
  /-- The number of ranks is a power of two with one chip select each. -/
  ranks : Word.isPowerOfTwo c.phy.ranks ∧ c.phy.ranks ≤ maxRanks
  /-- Data has a width. -/
  dataBits_ne_zero : c.phy.dataBits ≠ 0
  /-- Row numbers fit the address bus. -/
  rowBits : 1 ≤ c.geometry.rowBits ∧ c.geometry.rowBits ≤ 32
  /-- Columns hold more than one burst and fit the address bus. -/
  colBits : c.burstBits < c.geometry.colBits ∧ c.geometry.colBits ≤ 32
  /-- The banks can be numbered. -/
  banks_le : c.banks ≤ maxBanks
  /-- Locations fit a master address. -/
  addressWidth_le : c.addressWidth ≤ 63
  /-- A precharge takes time. -/
  tRP_pos : 1 ≤ c.timing.tRP
  /-- So does opening a row. -/
  tRCD_pos : 1 ≤ c.timing.tRCD
  /-- So does a refresh. -/
  tRFC_pos : 1 ≤ c.timing.tRFC
  /-- And refreshes do not fall due all the time. -/
  tREFI_pos : 1 ≤ c.timing.tREFI
  /-- A row cycle is no shorter than the time a row stays open. -/
  tRAS_le_tRC : ∀ tRC tRAS, c.timing.tRC = some tRC → c.timing.tRAS = some tRAS → tRAS ≤ tRC
  /-- The order of the address fields is the one that is built. -/
  mapping : c.settings.mapping = .rowBankCol
  /-- A refresh is asked for, and not too many are put off. -/
  postponing : 1 ≤ c.settings.postponing ∧ c.settings.postponing ≤ maxPostponing
  /-- Calibrations do not come more often than rounds. -/
  zqcsInterval : c.settings.zqcsInterval ≠ some 0
  /-- Periods of the column count can be told apart by a counter. -/
  bandwidthPeriodBits :
    1 ≤ c.settings.bandwidthPeriodBits ∧ c.settings.bandwidthPeriodBits ≤ 63
  /-- The time from a write to a precharge is a word. -/
  writeToPrecharge_fits : (c.writeRecovery? c.timing.tWR).isSome
  /-- The time from a write to a read is a word. -/
  writeToRead_fits : (c.writeRecovery? c.timing.tWTR).isSome
  /-- A refresh round leaves time for traffic. -/
  refresh_leaves_time : c.settings.refreshEnabled → c.refreshCycles < c.refreshWindow
  /-- Every port can be converted to the native width. -/
  ports : ∀ port ∈ c.ports, PortConfig.convertible (port.dataWidth.getD c.nativeWidth) c.nativeWidth

/-! ### The rules, part by part -/

/-- The rules of the interface. Each is checked in turn, so all of them hold if none is broken. -/
theorem Phy.validate_eq_ok_iff {p : Phy} {u : Unit} :
    p.validate = .ok u ↔
      0 < p.phases ∧
        (p.readPhase < p.phases ∧ p.writePhase < p.phases ∧ p.readRowPhase < p.phases ∧
          p.writeRowPhase < p.phases) ∧
        (1 < p.phases → p.readPhase ≠ p.readRowPhase ∧ p.writePhase ≠ p.writeRowPhase) ∧
        (Word.isPowerOfTwo p.ranks ∧ p.ranks ≤ maxRanks) ∧ p.dataBits ≠ 0 := by
  have distinct : (p.phases ≤ 1 || (p.readPhase != p.readRowPhase &&
      p.writePhase != p.writeRowPhase)) = true ↔
      (1 < p.phases → p.readPhase ≠ p.readRowPhase ∧ p.writePhase ≠ p.writeRowPhase) := by
    simp only [Bool.or_eq_true, decide_eq_true_eq, Bool.and_eq_true, bne_iff_ne]
    rw [← Nat.not_lt, ← Decidable.imp_iff_not_or]
  rw [Phy.validate]
  simp only [bind_eq_ok_iff, require_eq_ok_iff, exists_const, Phy.validatePlacement_eq_ok_iff,
    distinct, bne_iff_ne, Bool.and_eq_true, decide_eq_true_eq, Nat.pos_iff_ne_zero]

/-- The rules of the timing set: what has to be positive, and how the times of a row bound each
other. -/
theorem Timing.validate_eq_ok_iff {t : Timing} {u : Unit} :
    t.validate = .ok u ↔
      1 ≤ t.tRP ∧ 1 ≤ t.tRCD ∧ 1 ≤ t.tRFC ∧ 1 ≤ t.tREFI ∧
        ∀ tRC tRAS, t.tRC = some tRC → t.tRAS = some tRAS → tRAS ≤ tRC := by
  rw [Timing.validate]
  simp only [bind_eq_ok_iff, require_eq_ok_iff, exists_const, ge_iff_le, decide_eq_true_eq]
  cases t.tRC with
  | none => simp
  | some tRC =>
    cases t.tRAS with
    | none => simp
    | some tRAS => simp

namespace Config

variable {c : Config}

/-- The rules of the geometry, and of what is derived from it. -/
theorem validateGeometry_eq_ok_iff {u : Unit} :
    c.validateGeometry = .ok u ↔
      (1 ≤ c.geometry.rowBits ∧ c.geometry.rowBits ≤ 32) ∧
        (c.burstBits < c.geometry.colBits ∧ c.geometry.colBits ≤ 32) ∧
        c.banks ≤ maxBanks ∧ c.addressWidth ≤ 63 := by
  rw [validateGeometry]
  simp only [bind_eq_ok_iff, require_eq_ok_iff, exists_const, Bool.and_eq_true,
    decide_eq_true_eq]

/-- The rules of the settings, and of the timings that are derived. -/
theorem validateSettings_eq_ok_iff {u : Unit} :
    c.validateSettings = .ok u ↔
      c.settings.mapping = .rowBankCol ∧
        (1 ≤ c.settings.postponing ∧ c.settings.postponing ≤ maxPostponing) ∧
        c.settings.zqcsInterval ≠ some 0 ∧
        (1 ≤ c.settings.bandwidthPeriodBits ∧ c.settings.bandwidthPeriodBits ≤ 63) ∧
        (c.writeRecovery? c.timing.tWR).isSome ∧ (c.writeRecovery? c.timing.tWTR).isSome ∧
        (c.settings.refreshEnabled → c.refreshCycles < c.refreshWindow) := by
  have spare : (!c.settings.refreshEnabled || decide (c.refreshCycles < c.refreshWindow)) = true ↔
      (c.settings.refreshEnabled → c.refreshCycles < c.refreshWindow) := by
    cases c.settings.refreshEnabled <;> simp
  rw [validateSettings]
  simp only [bind_eq_ok_iff, require_eq_ok_iff, exists_const, spare, Bool.and_eq_true,
    decide_eq_true_eq, beq_iff_eq, bne_iff_ne]

/-- The rule of every port. Induction on the ports. -/
theorem validatePorts_eq_ok_iff {native : Nat} {ports : List PortConfig} {u : Unit} :
    validatePorts native ports = .ok u ↔
      ∀ port ∈ ports, PortConfig.convertible (port.dataWidth.getD native) native := by
  induction ports with
  | nil => simp [validatePorts]
  | cons port rest ih =>
    have first : (∃ width, port.validate native = .ok width) ↔
        PortConfig.convertible (port.dataWidth.getD native) native := by
      by_cases fits : PortConfig.convertible (port.dataWidth.getD native) native
      · simp [PortConfig.validate, fits]
      · simp [PortConfig.validate, fits]
    rw [validatePorts, bind_eq_ok_iff, List.forall_mem_cons, ← first, ← ih, exists_and_right]

/-! ### The whole check -/

/-- **Validation decides acceptance**: it accepts a configuration exactly if none of the rules is
broken, whatever their order. -/
theorem validate_eq_ok_iff : c.validate = .ok () ↔ c.Accepted := by
  rw [validate]
  simp only [bind_eq_ok_iff, exists_const, Phy.validate_eq_ok_iff, validateGeometry_eq_ok_iff,
    Timing.validate_eq_ok_iff, validateSettings_eq_ok_iff, validatePorts_eq_ok_iff]
  constructor
  · rintro ⟨⟨phases, placed, distinct, ranks, data⟩, ⟨row, col, banks, width⟩,
      ⟨tRP, tRCD, tRFC, tREFI, tRC⟩, ⟨mapping, postponing, zqcs, period, wr, wtr, spare⟩, ports⟩
    exact ⟨phases, placed, distinct, ranks, data, row, col, banks, width, tRP, tRCD, tRFC, tREFI,
      tRC, mapping, postponing, zqcs, period, wr, wtr, spare, ports⟩
  · intro a
    exact ⟨⟨a.phases_pos, a.placed, a.phases_distinct, a.ranks, a.dataBits_ne_zero⟩,
      ⟨a.rowBits, a.colBits, a.banks_le, a.addressWidth_le⟩,
      ⟨a.tRP_pos, a.tRCD_pos, a.tRFC_pos, a.tREFI_pos, a.tRAS_le_tRC⟩,
      ⟨a.mapping, a.postponing, a.zqcsInterval, a.bandwidthPeriodBits, a.writeToPrecharge_fits,
        a.writeToRead_fits, a.refresh_leaves_time⟩, a.ports⟩

namespace Accepted

/-- Banks are counted by a power of two, since a bank number has less than 64 bits. -/
theorem banks_eq (a : c.Accepted) : c.banks = 2 ^ c.bankIndexBits := by
  have few := a.banks_le
  rw [banks] at few ⊢
  by_cases narrow : c.bankIndexBits < 64
  · rw [if_pos narrow, Nat.one_shiftLeft]
  · rw [if_neg narrow] at few
    exact absurd few (by decide)

/-- There are 64 banks at most, so a bank number has six bits at most. -/
theorem bankIndexBits_le (a : c.Accepted) : c.bankIndexBits ≤ 6 := by
  have few := a.banks_le
  rw [a.banks_eq, show maxBanks = 2 ^ 6 from rfl] at few
  exact (Nat.pow_le_pow_iff_right (by decide)).1 few

/-- The width of a bank number is not saturated. -/
theorem bankIndexBits_eq (a : c.Accepted) :
    c.bankIndexBits = c.geometry.bankBits + c.rankBits := by
  have narrow := a.bankIndexBits_le
  simp only [bankIndexBits, Word.add, Word.top_eq] at narrow ⊢
  omega

/-- Ranks are counted by a power of two. -/
theorem ranks_eq (a : c.Accepted) : c.phy.ranks = 2 ^ c.rankBits := by
  obtain ⟨power, few⟩ := a.ranks
  obtain ⟨k, ranks⟩ := Word.isPowerOfTwo_iff.1 power
  have within : k < Word.width := by
    rw [ranks] at few
    exact Nat.lt_of_lt_of_le Nat.lt_two_pow_self few
  rw [rankBits, ranks, Word.trailingZeros_two_pow within]

/-- There are as many banks as ranks and bank bits make room for. -/
theorem banks_eq_ranks (a : c.Accepted) :
    c.banks = c.phy.ranks * 2 ^ c.geometry.bankBits := by
  rw [a.banks_eq, a.bankIndexBits_eq, a.ranks_eq, Nat.add_comm, Nat.pow_add]

/-- Where refreshes are issued, a round is shorter than the largest word: it is shorter than a
window, which is a word. -/
theorem refreshCycles_lt_top (a : c.Accepted) (enabled : c.settings.refreshEnabled) :
    c.refreshCycles < Word.top :=
  Nat.lt_of_lt_of_le (a.refresh_leaves_time enabled) (Word.mul_le_top _ _)

/-- **Where refreshes are issued, no part of the length of a round is saturated.** A part that had
stopped at the largest word would leave no time for traffic. -/
theorem refreshCycles_eq (a : c.Accepted) (enabled : c.settings.refreshEnabled) :
    c.refreshCycles = 1 + c.timing.tRP + c.settings.postponing * c.timing.tRFC +
      if c.settings.zqcsInterval.isSome then c.timing.tZQCS.getD 0 else 0 := by
  have fits := a.refreshCycles_lt_top enabled
  simp only [refreshCycles, Word.add, Word.mul] at fits ⊢
  omega

end Accepted

end Config

end DramScheduler
