import DramScheduler.Proofs.Checked.Controller
import DramScheduler.Proofs.Checked.Crossbar
import DramScheduler.Proofs.Controller.Representation
import DramScheduler.Proofs.MemorySystem.Masters

/-!
# A system without faults

The parts of a system are put together here. A cycle leads the requests to the banks, schedules, and
hands the strobes back, and none of its operations fails in a state that a run leads to
(`MemorySystem.Sound.stepM_eq_ok`). What this relies on is kept by every cycle
(`MemorySystem.Sound`), and with it goes what the registers of the system can hold together
(`MemorySystem.Represented`).

Beside the system runs the register form of the activation window, which is the one part of the
machine that the scheduler holds in another form. It starts empty, and a cycle shifts in whether a
row was opened (`MemorySystem.window`).

The counters of the statistics have 64 bits and no bound, so a cycle is asked to leave them within
their words. A list in memory has less than `2 ^ 63` entries, and so has the list of the masters.

## Main results

* `MemorySystem.Sound.represented` — what the registers hold together;
* `MemorySystem.Sound.stepM_eq_ok` — a cycle has no faults;
* `MemorySystem.exists_new_faultless` — no cycle of any run has one.
-/

namespace DramScheduler

/-- The edge of the crossbar keeps an arbiter for every bank. -/
theorem Crossbar.length_lanes_commit (x : Crossbar) (r : Routing)
    (responses : List BankResponse) :
    (x.commit r responses).1.lanes.length = x.lanes.length :=
  length_mapEntries _ _ _ _

namespace MemorySystem

open Checked

variable {c : Config} {s : MemorySystem} {commands : List (Option Request)}
  {seen : List (List (Option Request) × MemoryCycle)}

/-- One cycle of a system and of its activation window: the requests are led to the banks, the
controller does its cycle, and the strobes are handed back. -/
def stepM (s : MemorySystem) (h : ActivateHistory) (commands : List (Option Request)) :
    Checked ((MemorySystem × ActivateHistory) × MemoryCycle) := do
  let routing ← s.crossbar.routeM commands (s.controller.banks.map BankMachine.ready)
    (s.controller.banks.map BankMachine.locked)
  let inner ← s.controller.stepM h routing.offers
  let outer ← s.crossbar.commitM routing inner.2.responses
  return ((⟨inner.1.1, outer.1⟩, inner.1.2), ⟨outer.2, inner.2⟩)

/-! ### The activation window -/

/-- For each cycle of a run, whether a row was opened in it. -/
def pulses (seen : List (List (Option Request) × MemoryCycle)) : List Bool :=
  seen.map fun cycle => cycle.2.controller.commands.any Command.isActivate

/-- The register form of the activation window after the given cycles. -/
def window (c : Config) (seen : List (List (Option Request) × MemoryCycle)) : ActivateHistory :=
  (pulses seen).foldl ActivateHistory.tick (.ofOption c.timing.tFAW)

/-- The register form records the cycles in which rows were opened. -/
theorem records_window (c : Config) (seen : List (List (Option Request) × MemoryCycle)) :
    (window c seen).Records (pulses seen) :=
  ActivateHistory.records_foldl _ _

/-- It is as deep as the configuration asks for. -/
theorem depth_window (c : Config) (seen : List (List (Option Request) × MemoryCycle)) :
    (window c seen).depth = c.timing.tFAW.getD 0 - 1 :=
  ActivateHistory.depth_foldl _ _

/-! ### What a cycle relies on -/

/-- What a cycle of a system relies on, after the given cycles: its parts are those of the
configuration, and its window tracks the rows that were opened. -/
structure Sound (c : Config) (s : MemorySystem)
    (seen : List (List (Option Request) × MemoryCycle)) : Prop where
  /-- The parts are those of the configuration. -/
  built : s.BuiltFrom c
  /-- There is an arbiter for every bank. -/
  lanes : s.crossbar.lanes.length = c.banks
  /-- Every bank is held by one of the masters. -/
  holders : s.crossbar.Bounded
  /-- The controller has what its arithmetic relies on. -/
  countable : s.controller.Countable c
  /-- The window of the scheduler tracks the rows that were opened. -/
  tracks : s.controller.bus.activateWindow.Tracks (pulses seen)

/-- A system at rest is sound before its first cycle. -/
theorem sound_new {start : MemorySystem} (a : c.Accepted)
    (made : MemorySystem.new c = .ok start) (rest : start.controller = Controller.build c)
    (built : start.BuiltFrom c) : start.Sound c [] := by
  have shape : start.crossbar.lanes.length = c.banks ∧ start.crossbar.Bounded := by
    obtain ⟨controller, -, made⟩ := bind_eq_ok_iff.1 made
    obtain ⟨ports, -, made⟩ := bind_eq_ok_iff.1 made
    obtain ⟨x, crossbar, made⟩ := bind_eq_ok_iff.1 made
    cases made
    refine ⟨?_, Crossbar.bounded_new crossbar⟩
    rw [Crossbar.new] at crossbar
    split at crossbar
    · cases crossbar
    · cases crossbar
      exact List.length_replicate
  refine ⟨built, shape.1, shape.2, ?_, ?_⟩
  · rw [rest]
    exact Controller.countable_build a
  · rw [rest]
    exact ActivateWindow.tracks_new _

/-- **A cycle keeps what the next one relies on.** Each field is kept by the part that it is
about. -/
theorem Sound.step (sound : s.Sound c seen) (commands : List (Option Request)) :
    (s.step commands).1.Sound c (seen ++ [(commands, (s.step commands).2)]) where
  built := sound.built.step commands
  lanes := by
    rw [crossbar_step, Crossbar.length_lanes_commit, sound.lanes]
  holders := by
    rw [crossbar_step]
    exact sound.holders.commit _ _
  countable := by
    rw [controller_step]
    exact sound.countable.step _
  tracks := by
    rw [pulses, List.map_append]
    exact sound.tracks.tick _

/-- The register form of the window counts what the window counts. -/
theorem Sound.active_eq (sound : s.Sound c seen) (a : c.Accepted) :
    (window c seen).active = s.controller.bus.activateWindow.active := by
  have built := (sound.built.reached.represented a).bus.1
  exact (records_window c seen).active_eq sound.tracks
    ((depth_window c seen).trans built.activateWindow.symm)

/-- The bank field is within an address. -/
theorem BuiltFrom.narrow (built : s.BuiltFrom c) (a : c.Accepted) :
    s.crossbar.field.shift + s.crossbar.field.bits < 64 := by
  rw [built.field]
  exact a.field_narrow

/-- **A cycle of a system has no faults**, if its counters fit when it is over and the offered
addresses are words of 64 bits. -/
theorem Sound.stepM_eq_ok (sound : s.Sound c seen) (a : c.Accepted)
    (addressable : c.ports.length ≤ 2 ^ 63) (words : Request.Words commands)
    (fits : (s.step commands).1.statistics.Fits) :
    s.stepM (window c seen) commands =
      .ok (((s.step commands).1, window c (seen ++ [(commands, (s.step commands).2)])),
        (s.step commands).2) := by
  have routing : s.crossbar.routeM commands (s.controller.banks.map BankMachine.ready)
      (s.controller.banks.map BankMachine.locked) = .ok (s.route commands) :=
    Crossbar.routeM_eq_ok sound.holders (sound.built.narrow a) words _ _
  have inner := Controller.stepM_eq_ok (sound.built.reached.builtFrom a) a sound.countable
    (records_window c seen) (sound.active_eq a) fits
  have outer : s.crossbar.commitM (s.route commands)
      (s.controller.step (s.route commands).offers).2.responses = .ok _ :=
    Crossbar.commitM_eq_ok sound.holders (sound.built.masters ▸ addressable) sound.built.delays
      _ _ _ _
  have later : window c (seen ++ [(commands, (s.step commands).2)]) =
      s.controller.tickWindow (window c seen) := by
    rw [window, pulses, List.map_append, List.foldl_append]
    rfl
  rw [stepM, routing, ok_bind, inner, ok_bind, outer, later]
  rfl

/-! ### What the registers hold together -/

/-- The registers of a system and of its activation window fit together: each is within the bounds
that its machine works with. -/
structure Represented (c : Config) (s : MemorySystem) (h : ActivateHistory) : Prop where
  /-- Every bank is held by one of the masters. -/
  holders : ∀ bank < c.banks, ∃ master < c.ports.length, s.crossbar.holder? bank = some master
  /-- The grants of the bus are numbers of banks. -/
  choosers : s.controller.bus.columnChooser.grant < c.banks ∧
    ∀ chooser, s.controller.bus.rowChooser = some chooser → chooser.grant < c.banks
  /-- There is a machine for every bank. -/
  banks : s.controller.banks.length = c.banks
  /-- The lookahead of a bank is as short as its depth asks for, and shorter while no request is in
  front of it. -/
  lookahead : ∀ m ∈ s.controller.banks,
    m.queue.lookahead.toList.length ≤ max c.settings.bufferDepth 1 ∧
      (m.queue.current = none → m.queue.lookahead.toList.length ≤ 1)
  /-- A row is closed for a request that needs another one. -/
  closing : ∀ m ∈ s.controller.banks, m.state = .precharge → ∃ request row,
    m.queue.current = some request ∧ m.openRow = some row ∧ row ≠ m.rowOf request
  /-- A row is closed once it is to be opened, and there is a request to open it for. -/
  opening : ∀ m ∈ s.controller.banks, m.state = .autoPrecharge ∨ m.state = .activate →
    m.openRow = none ∧ m.queue.current.isSome = true
  /-- A turn to writing that is under way is not over, and has begun. -/
  turning : ∀ remaining, s.controller.bus.state = .readToWrite remaining →
    1 ≤ remaining ∧ remaining < c.readToWrite
  /-- A round that is played has begun and has not gone past its last cycle, which is no saturated
  number. -/
  round : ∀ elapsed calibrate, s.controller.refresher.state = .sequence elapsed calibrate →
    1 ≤ elapsed ∧ elapsed ≤ s.controller.refresher.timeline.length calibrate ∧
      s.controller.refresher.timeline.length calibrate =
        s.controller.refresher.timeline.plainLength calibrate
  /-- The counter of the activation window is the number of its bits that are set. -/
  window : h.active = h.bits.count true ∧ s.controller.bus.activateWindow.active = h.active

/-- **The registers fit together** in every state in which a cycle has what it relies on. No further
cycle has to be looked at. -/
theorem Sound.represented (sound : s.Sound c seen) (a : c.Accepted) :
    s.Represented c (window c seen) := by
  have inner := sound.built.reached.represented a
  obtain ⟨built, bounded, turning⟩ := inner.bus
  have bank {m : BankMachine} (mem : m ∈ s.controller.banks) :
      m.Consistent ∧ m.queue.depth = max c.settings.bufferDepth 1 := by
    obtain ⟨i, found⟩ := List.mem_iff_getElem?.1 mem
    exact inner.banks i m found
  constructor
  case holders =>
    intro bank within
    have held := List.getElem?_eq_getElem (Nat.lt_of_lt_of_eq within sound.lanes.symm)
    have holds : s.crossbar.holder? bank = some _ := congrArg (Option.map _) held
    exact ⟨_, sound.built.masters ▸ sound.holders.holder?_lt holds, holds⟩
  case choosers =>
    exact ⟨bounded.column.grant_lt, fun chooser found => (bounded.row chooser found).grant_lt⟩
  case banks => exact (sound.built.reached.builtFrom a).length_banks
  case lookahead =>
    intro m mem
    obtain ⟨consistent, depth⟩ := bank mem
    rw [Fifo.length_toList, ← depth]
    exact ⟨consistent.queue.size_le, consistent.queue.waiting⟩
  case closing => exact fun m mem => (bank mem).1.closing
  case opening => exact fun m mem => (bank mem).1.opening
  case turning => exact fun remaining state => built.readToWrite ▸ turning remaining state
  case round =>
    intro elapsed calibrate running
    obtain ⟨begun, within⟩ := inner.refresher elapsed calibrate running
    exact ⟨begun, within, sound.built.reached.length_eq a running⟩
  case window => exact ⟨(records_window c seen).active_eq_count, (sound.active_eq a).symm⟩

/-! ### Runs -/

/-- Whatever the masters ask for, the registers fit together, and the next cycle has no faults as
long as its counters fit. -/
structure Faultless (start : MemorySystem) (c : Config) : Prop where
  /-- The registers fit together after every run. -/
  represented : ∀ past, (start.run past).1.Represented c (window c (start.history past))
  /-- A cycle with addresses of 64 bits that leaves the counters within their words comes to what
  it comes to without any checks. -/
  step : ∀ past commands, Request.Words commands →
    ((start.run past).1.step commands).1.statistics.Fits →
      (start.run past).1.stepM (window c (start.history past)) commands =
        .ok ((((start.run past).1.step commands).1, window c (start.history (past ++ [commands]))),
          ((start.run past).1.step commands).2)

/-- A further cycle is put at the end of the history of a run. -/
theorem history_concat (s : MemorySystem) (past : List (List (Option Request)))
    (commands : List (Option Request)) :
    s.history (past ++ [commands]) =
      s.history past ++ [(commands, ((s.run past).1.step commands).2)] := by
  induction past generalizing s with
  | nil => rfl
  | cons first rest ih => exact congrArg (List.cons _) (ih (s.step first).1)

/-- **No cycle of any run has a fault.** A system for an accepted configuration with a port keeps
its registers fitting together, and no operation of a cycle fails in any state that a run leads
to. -/
theorem exists_new_faultless (accepted : c.validate = .ok ()) (some_port : c.ports ≠ [])
    (addressable : c.ports.length ≤ 2 ^ 63) :
    ∃ start, MemorySystem.new c = .ok start ∧ start.Faultless c := by
  have a := Config.validate_eq_ok_iff.1 accepted
  obtain ⟨start, made, rest, built⟩ := exists_new accepted some_port
  have sound (past) : (start.run past).1.Sound c (start.history past) :=
    run_induction (P := fun now seen => now.Sound c seen)
      (fun _ _ commands sound => sound.step commands) (sound_new a made rest built) past
  refine ⟨start, made, fun past => (sound past).represented a, fun past commands words fits => ?_⟩
  rw [history_concat]
  exact (sound past).stepM_eq_ok a addressable words fits

/-- Two masters, refreshes with calibrations, and a bound on the rows opened in a stretch of
cycles. -/
def calibratedMasters : Config where
  timing := { tFAW := some 16, tZQCS := some 64 }
  settings := { zqcsInterval := some 2 }
  ports := [{}, {}]

/-- No operation goes out of range where two masters wait for rounds with calibrations and for the
four rows that a stretch of cycles may open. -/
theorem new_faultless_of_two_masters :
    calibratedMasters.validate = .ok () ∧ calibratedMasters.ports ≠ [] ∧
      calibratedMasters.ports.length ≤ 2 ^ 63 ∧
      ∃ start, MemorySystem.new calibratedMasters = .ok start ∧ start.Faultless calibratedMasters :=
  ⟨by decide, by decide, by decide, exists_new_faultless (by decide) (by decide) (by decide)⟩

end MemorySystem

end DramScheduler
