import DramScheduler.Config.Derived
import DramScheduler.Config.Error

/-!
# Validation

`Config.validate` accepts the configurations a controller can be built for and names the
first broken rule otherwise. The order of the rules is fixed: the interface, the geometry,
the timing set, the settings, then the ports in turn. Later rules may rely on earlier ones;
the address width, say, is only looked at once the number of banks is known to be small.

## Main definitions

* `Config.validate` — the whole check;
* `PortConfig.validate` — the check of one port, which answers its effective width.
-/

namespace DramScheduler

/-- Accepts if the condition holds and raises the error otherwise. A check is a sequence of such
rules, and the first one broken ends it. -/
def require (condition : Bool) (error : ConfigError) : Except ConfigError Unit :=
  if condition then .ok () else .error error

/-- A rule is passed exactly if its condition holds. -/
@[simp] theorem require_eq_ok_iff {condition : Bool} {error : ConfigError} {u : Unit} :
    require condition error = .ok u ↔ condition = true := by
  unfold require
  split <;> simp_all

namespace Phy

/-- The phase of each use, in the order they are looked at. -/
def uses (p : Phy) : List (PhaseUse × Nat) :=
  [(.read, p.readPhase), (.write, p.writePhase), (.readRow, p.readRowPhase),
    (.writeRow, p.writeRowPhase)]

/-- The use that is assigned to no existing phase, the first if there are several. -/
def misplaced? (p : Phy) : Option (PhaseUse × Nat) :=
  p.uses.find? fun (_, phase) => phase ≥ p.phases

/-- Every use has an existing phase. -/
def validatePlacement (p : Phy) : Except ConfigError Unit :=
  match p.misplaced? with
  | some (use, phase) => .error (.phy (.noSuchPhase use phase p.phases))
  | none => .ok ()

/-- Phases exist and can be told apart, the rank count is a power of two, data can be
moved. -/
def validate (p : Phy) : Except ConfigError Unit := do
  require (p.phases != 0) (.phy .noPhases)
  p.validatePlacement
  require (p.phases ≤ 1 || (p.readPhase != p.readRowPhase && p.writePhase != p.writeRowPhase))
    (.phy (.sharedPhase p.readPhase p.readRowPhase p.writePhase p.writeRowPhase))
  require (Word.isPowerOfTwo p.ranks && p.ranks ≤ maxRanks) (.phy (.rankCount p.ranks))
  require (p.dataBits != 0) (.phy .noData)

end Phy

namespace Timing

/-- Every lower bound is met, and a row cycle is no shorter than the time a row stays open. -/
def validate (t : Timing) : Except ConfigError Unit := do
  require (t.tRP ≥ 1) (.timingTooTight .tRP t.tRP 1)
  require (t.tRCD ≥ 1) (.timingTooTight .tRCD t.tRCD 1)
  require (t.tRFC ≥ 1) (.timingTooTight .tRFC t.tRFC 1)
  require (t.tREFI ≥ 1) (.timingTooTight .tREFI t.tREFI 1)
  match t.tRC, t.tRAS with
  | some tRC, some tRAS => require (tRC ≥ tRAS) (.timingTooTight .tRC tRC tRAS)
  | _, _ => .ok ()

end Timing

namespace PortConfig

/-- Whether two widths are a power of two apart, so that words of one are made of words of the
other. A width of zero is never convertible. -/
def convertible (a b : Nat) : Bool :=
  let wide := max a b
  let narrow := min a b
  narrow != 0 && wide % narrow == 0 && Word.isPowerOfTwo (wide / narrow)

/-- The effective width of a port, if it can be converted to the native width. -/
def validate (p : PortConfig) (native : Nat) : Except ConfigError Nat :=
  let width := p.dataWidth.getD native
  if convertible width native then .ok width else .error (.widthRatio width native)

/-- Whether the master runs in a clock domain of its own. -/
def isAsync (p : PortConfig) : Bool :=
  p.clockDomain != systemDomain

end PortConfig

namespace Config

/-- Every field has room on the address bus and in a master address. The number of banks is known to
be small before the address width is looked at. -/
def validateGeometry (c : Config) : Except ConfigError Unit := do
  let g := c.geometry
  require (1 ≤ g.rowBits && g.rowBits ≤ 32) (.geometry (.rowBits g.rowBits))
  require (c.burstBits < g.colBits && g.colBits ≤ 32)
    (.geometry (.colBits c.burstBits g.colBits))
  require (c.banks ≤ maxBanks) (.geometry (.bankCount c.banks))
  require (c.addressWidth ≤ 63) (.geometry (.addressWidth c.addressWidth))

/-- Every setting is in its range, the derived timings are words, and a refresh round leaves time
for traffic. -/
def validateSettings (c : Config) : Except ConfigError Unit := do
  let s := c.settings
  require (s.mapping == .rowBankCol) (.unsupportedMapping s.mapping)
  require (1 ≤ s.postponing && s.postponing ≤ maxPostponing)
    (.settings (.postponing s.postponing))
  require (s.zqcsInterval != some 0) (.settings .zqcsInterval)
  require (1 ≤ s.bandwidthPeriodBits && s.bandwidthPeriodBits ≤ 63)
    (.settings (.bandwidthPeriodBits s.bandwidthPeriodBits))
  require (c.writeRecovery? c.timing.tWR).isSome (.timingOverflow .writeToPrecharge)
  require (c.writeRecovery? c.timing.tWTR).isSome (.timingOverflow .writeToRead)
  require (!s.refreshEnabled || c.refreshCycles < c.refreshWindow)
    (.refreshSaturated c.refreshCycles c.refreshWindow)

/-- Every port can be converted to the native width; the first one that cannot is reported. -/
def validatePorts (native : Nat) : List PortConfig → Except ConfigError Unit
  | [] => .ok ()
  | port :: rest => do
    let _ ← port.validate native
    validatePorts native rest

/-- Accepts a configuration or names the first rule it breaks. The order of the rules is part of
what it does. -/
def validate (c : Config) : Except ConfigError Unit := do
  c.phy.validate
  c.validateGeometry
  c.timing.validate
  c.validateSettings
  validatePorts c.nativeWidth c.ports

end Config

end DramScheduler
