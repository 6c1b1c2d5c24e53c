import DramScheduler.Proofs.Checked.Bank
import DramScheduler.Proofs.Checked.Bus
import DramScheduler.Proofs.Checked.Refresher
import DramScheduler.Proofs.Controller.BusTiming
import DramScheduler.Proofs.Controller.Reconciliation

/-!
# A cycle of a controller without faults

A cycle evaluates the refresher, the banks and the bus, and then goes through the banks once more to
apply their edges. In this loop the outputs of a bank are looked up by its number, and the list of
outputs is long enough because it was made from the same banks. After the bus and the refresher the
counters of the statistics go up. They are the only ones without a bound of their own: that they do
not wrap is asked of them after the cycle (`Statistics.Fits`), and it holds of them before because
they never go down. The turns of the bus and the rounds of the refresher come one a cycle at most,
so the count of the cycles bounds them both.

## Main results

* `Statistics.recordAllM_eq_ok` — counting the commands of a cycle;
* `Controller.stepM_eq_ok` — a cycle comes to what it comes to without any checks.
-/

namespace DramScheduler

open Checked

/-! ### Counting -/

namespace Statistics

open Command

variable {s : Statistics} {commands : List Command} {responses : List BankResponse}

/-- No counter has more than 64 bits. The counters of the statistics have no other bound. -/
def Fits (s : Statistics) : Prop :=
  ∀ entry ∈ counters, entry.1 s < 2 ^ 64

/-- Counts one issued command, in counters of 64 bits. A counter that would not fit is a fault. -/
def recordM (s : Statistics) : Command → Checked Statistics
  | .nop => return s
  | .activate .. => return { s with activates := ← add 64 s.activates 1 }
  | .precharge _ true => return { s with prechargeAlls := ← add 64 s.prechargeAlls 1 }
  | .precharge _ false => return { s with precharges := ← add 64 s.precharges 1 }
  | .read _ _ close => return { s with
      reads := ← add 64 s.reads 1
      autoPrecharges := ← raise 64 s.autoPrecharges close }
  | .write _ _ close => return { s with
      writes := ← add 64 s.writes 1
      autoPrecharges := ← raise 64 s.autoPrecharges close }
  | .refresh _ => return { s with refreshes := ← add 64 s.refreshes 1 }
  | .calibrate => return { s with calibrations := ← add 64 s.calibrations 1 }

/-- Counts the data that a bank moves. -/
def complete (s : Statistics) (response : BankResponse) : Statistics :=
  { s with
    writesCompleted := s.writesCompleted + response.writeData.toNat
    readsCompleted := s.readsCompleted + response.readData.toNat }

/-- Counts the data that a bank moves, in counters of 64 bits. -/
def completeM (s : Statistics) (response : BankResponse) : Checked Statistics := do
  return { s with
    writesCompleted := ← add 64 s.writesCompleted response.writeData.toNat
    readsCompleted := ← add 64 s.readsCompleted response.readData.toNat }

/-- Counters that fit after a list of commands did so before, since none goes down. -/
theorem Fits.of_recordAll (fits : (s.recordAll commands).Fits) : s.Fits := by
  intro entry mem
  have after := fits entry mem
  rw [counter_recordAll mem] at after
  exact Nat.lt_of_le_of_lt (Nat.le_add_right _ _) after

/-- One command is counted without faults if the counters fit afterwards. -/
theorem recordM_eq_ok {command : Command} (fits : (s.record command).Fits) :
    s.recordM command = .ok (s.record command) := by
  simp only [Fits, counters, commandCounters, List.cons_append, List.forall_mem_cons] at fits
  obtain ⟨reads, writes, activates, precharges, prechargeAlls, autoPrecharges, refreshes,
    calibrations, -⟩ := fits
  cases command with
  | nop => rfl
  | activate bank row =>
    rw [recordM, add_eq_ok activates]
    rfl
  | precharge bank all =>
    cases all with
    | false =>
      rw [recordM, add_eq_ok precharges]
      rfl
    | true =>
      rw [recordM, add_eq_ok prechargeAlls]
      rfl
  | read bank col close =>
    rw [recordM, add_eq_ok reads, ok_bind, raise_eq_ok fun set => by rwa [set] at autoPrecharges]
    rfl
  | write bank col close =>
    rw [recordM, add_eq_ok writes, ok_bind, raise_eq_ok fun set => by rwa [set] at autoPrecharges]
    rfl
  | refresh rank =>
    rw [recordM, add_eq_ok refreshes]
    rfl
  | calibrate =>
    rw [recordM, add_eq_ok calibrations]
    rfl

/-- **Counting the commands of a cycle** has no faults, if the counters fit after the last of them.
Induction on the commands, each of which leaves counters that still fit. -/
theorem recordAllM_eq_ok (fits : (s.recordAll commands).Fits) :
    commands.foldlM recordM s = .ok (s.recordAll commands) := by
  induction commands generalizing s with
  | nil => rfl
  | cons command rest ih =>
    have first : (s.record command).Fits := Fits.of_recordAll fits
    rw [List.foldlM_cons, recordM_eq_ok first, ok_bind, ih fits]
    rfl

/-- Counting the data of a cycle, bank by bank, has no faults if the sums fit. -/
theorem completeAllM_eq_ok
    (writes : s.writesCompleted + responses.countP BankResponse.writeData < 2 ^ 64)
    (reads : s.readsCompleted + responses.countP BankResponse.readData < 2 ^ 64) :
    responses.foldlM completeM s = .ok { s with
      writesCompleted := s.writesCompleted + responses.countP BankResponse.writeData
      readsCompleted := s.readsCompleted + responses.countP BankResponse.readData } := by
  induction responses generalizing s with
  | nil => rfl
  | cons response rest ih =>
    have split (strobe : BankResponse → Bool) : (response :: rest).countP strobe =
        (strobe response).toNat + rest.countP strobe := by
      rw [List.countP_cons, Nat.add_comm]
      cases strobe response <;> rfl
    rw [split, ← Nat.add_assoc] at writes reads
    have first : s.completeM response = .ok (s.complete response) := by
      rw [completeM, add_eq_ok (Nat.lt_of_le_of_lt (Nat.le_add_right _ _) writes), ok_bind,
        add_eq_ok (Nat.lt_of_le_of_lt (Nat.le_add_right _ _) reads)]
      rfl
    rw [List.foldlM_cons, first, ok_bind, ih writes reads, split, split, ← Nat.add_assoc,
      ← Nat.add_assoc]
    rfl

end Statistics

namespace Controller

variable {c : Config} {k : Controller} {h : ActivateHistory} {offers : List (Option BankRequest)}
  {i : Nat} {m : BankMachine}

/-- The counts after a cycle, one counter after the other, in the order in which the cycle is
counted. -/
def countCycleM (s : Statistics) (before after : CommandBus) (cycle : ControllerCycle) :
    Checked Statistics := do
  let cycles ← add 64 s.cycles 1
  let refreshCycles ← add 64 s.refreshCycles (before.state == .refresh).toNat
  let requestsAccepted ← add 64 s.requestsAccepted (cycle.accepted.count true)
  let completed ← cycle.responses.foldlM Statistics.completeM { s with
    cycles := cycles
    refreshCycles := refreshCycles
    directionSwitches := after.switches
    requestsAccepted := requestsAccepted }
  cycle.commands.foldlM Statistics.recordM completed

/-- The counts after a cycle are worked out without faults if they fit. -/
theorem countCycleM_eq_ok {s : Statistics} {before after : CommandBus} {cycle : ControllerCycle}
    (fits : (countCycle s before after cycle).Fits) :
    countCycleM s before after cycle = .ok (countCycle s before after cycle) := by
  have room (counter : Statistics → Nat) (mem : counter ∈ Statistics.cycleCounters) :=
    Statistics.Fits.of_recordAll fits _
      (List.mem_append_right Statistics.commandCounters
        (List.mem_map_of_mem (f := fun counter => (counter, fun _ => false)) mem))
  have cycles : s.cycles + 1 < 2 ^ 64 :=
    room Statistics.cycles (by simp [Statistics.cycleCounters])
  have refreshCycles : s.refreshCycles + (before.state == .refresh).toNat < 2 ^ 64 :=
    room Statistics.refreshCycles (by simp [Statistics.cycleCounters])
  have taken : s.requestsAccepted + cycle.accepted.count true < 2 ^ 64 :=
    room Statistics.requestsAccepted (by simp [Statistics.cycleCounters])
  have writes : s.writesCompleted + cycle.responses.countP BankResponse.writeData < 2 ^ 64 :=
    room Statistics.writesCompleted (by simp [Statistics.cycleCounters])
  have reads : s.readsCompleted + cycle.responses.countP BankResponse.readData < 2 ^ 64 :=
    room Statistics.readsCompleted (by simp [Statistics.cycleCounters])
  rw [countCycleM, add_eq_ok cycles, ok_bind, add_eq_ok refreshCycles, ok_bind, add_eq_ok taken,
    ok_bind, Statistics.completeAllM_eq_ok, ok_bind]
  · exact Statistics.recordAllM_eq_ok fits
  · exact writes
  · exact reads

/-! ### One cycle -/

/-- What the loop over the banks comes to for one of them. -/
structure BankTurn where
  /-- The machine after its edge. -/
  bank : BankMachine
  /-- It took the request that it was offered. -/
  accepted : Bool
  /-- Its data strobes. -/
  response : BankResponse

/-- The turn of a bank, as the cycle does it. -/
def turn (k : Controller) (offers : List (Option BankRequest)) (i : Nat) (m : BankMachine) :
    BankTurn where
  bank := m.commit k.refreshRequest (k.accepts i) (k.takes offers i)
  accepted := (k.takes offers i).isSome
  response := .ofCommand (k.issues i)

/-- The turn of a bank, its outputs looked up by its number among those of all banks. -/
def turnM (e : Evaluation) (offers : List (Option BankRequest)) (numbered : BankMachine × Nat) :
    Checked BankTurn := do
  let outputs ← get e.banks numbered.2
  return {
    bank := ← numbered.1.commitM e.refresh.valid (e.decision.accepted.getD numbered.2 false)
      (Evaluation.taken outputs (offers.getD numbered.2 none))
    accepted := (Evaluation.taken outputs (offers.getD numbered.2 none)).isSome
    response := Evaluation.response outputs (e.decision.accepted.getD numbered.2 false) }

/-- What is decided in a cycle: the refresher, then the banks, then the bus. -/
def evaluateM (k : Controller) : Checked Evaluation := do
  let refresh ← k.refresher.evaluateM
  let banks ← k.banks.mapM fun bank => bank.evaluateM refresh.valid
  return ⟨refresh, banks, k.bus.evaluate banks refresh⟩

/-- What can be seen of a cycle once every bank had its turn. -/
def Evaluation.cycle (e : Evaluation) (turns : List BankTurn) : ControllerCycle where
  accepted := turns.map BankTurn.accepted
  responses := turns.map BankTurn.response
  issued := e.decision.issued
  refreshRequest := e.refresh.valid

/-- The edge of a cycle that was evaluated: the banks in turn, the bus, the refresher and the
counts. -/
def commitM (k : Controller) (h : ActivateHistory) (offers : List (Option BankRequest))
    (e : Evaluation) : Checked ((Controller × ActivateHistory) × ControllerCycle) := do
  let turns ← k.banks.zipIdx.mapM (turnM e offers)
  let bus ← k.bus.commitM h e.decision e.refresh
  let refresher ← k.refresher.commitM e.decision.refreshReady
  let statistics ← countCycleM k.statistics k.bus bus.1 (e.cycle turns)
  return (({ k with
    banks := turns.map BankTurn.bank
    bus := bus.1
    refresher := refresher
    statistics := statistics }, bus.2), e.cycle turns)

/-- One cycle of a controller and of its activation window: what is decided, then the turns of the
banks, and then the counts. -/
def stepM (k : Controller) (h : ActivateHistory) (offers : List (Option BankRequest)) :
    Checked ((Controller × ActivateHistory) × ControllerCycle) := do
  k.commitM h offers (← k.evaluateM)

/-- The activation window after a cycle, which shifts in whether a row was opened. -/
def tickWindow (k : Controller) (h : ActivateHistory) : ActivateHistory :=
  h.tick (k.evaluate.decision.commands.any Command.isActivate)

/-- What the arithmetic of a controller relies on. The turns and the rounds are bounded by the
cycles, whose count is one of those that have to fit. -/
structure Countable (c : Config) (k : Controller) : Prop where
  /-- The bus has what it relies on. -/
  bus : k.bus.Countable c
  /-- The refresher has what it relies on. -/
  refresher : k.refresher.Countable
  /-- The bus turns around once a cycle at most. -/
  switches_le : k.bus.switches ≤ k.statistics.cycles
  /-- A round is completed once a cycle at most. -/
  rounds_le : k.refresher.rounds ≤ k.statistics.cycles

/-- A controller at rest has what its arithmetic relies on. -/
theorem countable_build (a : c.Accepted) : (build c).Countable c where
  bus := CommandBus.countable_new (a.banks_eq ▸ Nat.two_pow_pos _)
  refresher := Refresher.countable_new c
  switches_le := Nat.le_refl 0
  rounds_le := Nat.le_refl 0

/-- A cycle counts itself. -/
theorem cycles_step (k : Controller) (offers : List (Option BankRequest)) :
    (k.step offers).1.statistics.cycles = k.statistics.cycles + 1 :=
  Statistics.cycleCounter_recordAll (by simp [Statistics.cycleCounters]) _ _

/-- **A cycle keeps what the next one relies on**, whatever is offered in it. Each part keeps its
own. -/
theorem Countable.step (countable : k.Countable c) (offers : List (Option BankRequest)) :
    (k.step offers).1.Countable c where
  bus := countable.bus.commit _ _
  refresher := countable.refresher.commit _
  switches_le := by
    rw [cycles_step]
    exact (k.bus.switches_commit_le _ _).trans (Nat.succ_le_succ countable.switches_le)
  rounds_le := by
    rw [cycles_step]
    exact (k.refresher.rounds_commit_le _).trans (Nat.succ_le_succ countable.rounds_le)

/-- The machine of a bank splits an address into words that it has: columns have 32 bits at most. -/
theorem BuiltFrom.narrow (built : k.BuiltFrom c) (a : c.Accepted) (found : k.banks[i]? = some m) :
    m.split.wordBits + m.split.burstBits ≤ 32 := by
  rw [(built.bank i m found).split]
  exact a.addressMap_fits.colBits_le

/-- What is decided in a cycle is worked out without faults. -/
theorem evaluateM_eq_ok (built : k.BuiltFrom c) (a : c.Accepted) (countable : k.Countable c) :
    k.evaluateM = .ok k.evaluate := by
  have banks : k.banks.mapM (fun bank => bank.evaluateM k.refresher.evaluate.valid) =
      .ok (k.banks.map fun bank => bank.evaluate k.refresher.evaluate.valid) := by
    refine mapM_eq_ok fun m mem => ?_
    obtain ⟨i, found⟩ := List.mem_iff_getElem?.1 mem
    exact BankMachine.evaluateM_eq_ok (built.narrow a found) _
  rw [evaluateM, Refresher.evaluateM_eq_ok countable.refresher, ok_bind, banks]
  rfl

/-- The turn of a bank has no faults: its outputs are found at its number. -/
theorem turnM_eq_ok (built : k.BuiltFrom c) (a : c.Accepted) (found : k.banks[i]? = some m) :
    turnM k.evaluate offers (m, i) = .ok (k.turn offers i m) := by
  have outputs : k.evaluate.banks[i]? = some (m.evaluate k.refreshRequest) := by
    simp [evaluate, found, refreshRequest]
  have taken : Evaluation.taken (m.evaluate k.refreshRequest) (offers.getD i none) =
      k.takes offers i := by
    rw [takes, ready, found]
    rfl
  have response : Evaluation.response (m.evaluate k.refreshRequest) (k.accepts i) =
      .ofCommand (k.issues i) := by
    rw [issues, found]
    rfl
  rw [turnM, get_eq_ok outputs, ok_bind, taken, BankMachine.commitM_eq_ok (built.narrow a found)]
  exact congrArg _ (congrArg _ response)

/-- The turns of the banks are what a cycle does to them. -/
theorem banks_eq_map_turn (k : Controller) (offers : List (Option BankRequest)) :
    (k.banks.mapIdx (k.turn offers)).map BankTurn.bank = (k.step offers).1.banks := by
  refine List.ext_getElem? fun i => ?_
  rw [List.getElem?_map, List.getElem?_mapIdx, getElem?_banks_step, Option.map_map]
  rfl

/-- The turns of the banks are what can be seen of a cycle. -/
theorem cycle_eq_map_turn (k : Controller) (offers : List (Option BankRequest)) :
    k.evaluate.cycle (k.banks.mapIdx (k.turn offers)) = (k.step offers).2 := by
  have accepted : (k.banks.mapIdx (k.turn offers)).map BankTurn.accepted =
      (k.step offers).2.accepted := by
    refine List.ext_getElem? fun i => ?_
    rw [List.getElem?_map, List.getElem?_mapIdx, accepted_step, Option.map_map]
    rfl
  have responses : (k.banks.mapIdx (k.turn offers)).map BankTurn.response =
      (k.step offers).2.responses := by
    refine List.ext_getElem? fun i => ?_
    rw [List.getElem?_map, List.getElem?_mapIdx, responses_step, Option.map_map]
    rfl
  rw [Evaluation.cycle, accepted, responses]
  rfl

/-- Rows are opened while the window has room for one. -/
theorem active_lt_of_activate (built : k.BuiltFrom c)
    (opens : k.evaluate.decision.commands.any Command.isActivate = true) :
    k.bus.activateWindow.active < ActivateWindow.limit := by
  obtain ⟨command, activates, permits⟩ :=
    @exists_permits_step c k [] built _ opens
  exact of_decide_eq_true (permits.activate activates).2.1

/-- The commands of a cycle are to banks that there are, and the refresher's count as those of bank
zero. -/
theorem bank_lt_of_issued (built : k.BuiltFrom c) (a : c.Accepted) {command : Command}
    (issued : some command ∈ k.evaluate.decision.issued) :
    command.bank?.getD 0 < c.banks := by
  cases addressed : command.bank? with
  | none =>
    rw [a.banks_eq]
    exact Nat.two_pow_pos _
  | some bank =>
    have mem : command ∈ (k.step []).2.commands := List.mem_filterMap.2 ⟨some command, issued, rfl⟩
    exact lt_banks_of_mem_commands built mem addressed

/-- **A cycle of a controller** has no faults, if its counters fit when it is over. They are the
only numbers that no state of the machine bounds. -/
theorem stepM_eq_ok (built : k.BuiltFrom c) (a : c.Accepted) (countable : k.Countable c)
    {pulses : List Bool} (records : h.Records pulses)
    (same : h.active = k.bus.activateWindow.active)
    (fits : (k.step offers).1.statistics.Fits) :
    k.stepM h offers = .ok (((k.step offers).1, k.tickWindow h), (k.step offers).2) := by
  have turns : k.banks.zipIdx.mapM (turnM k.evaluate offers) =
      .ok (k.banks.mapIdx (k.turn offers)) :=
    mapM_zipIdx_eq_ok fun i m found => turnM_eq_ok built a found
  -- the count of the cycles has room for one more, and so has every count that it bounds
  have room : k.statistics.cycles + 1 < 2 ^ 64 := by
    rw [← cycles_step k offers]
    exact fits (Statistics.cycles, _)
      (List.mem_append_right _ (List.mem_map_of_mem List.mem_cons_self))
  have bus : k.bus.commitM h k.evaluate.decision k.evaluate.refresh =
      .ok ((k.step offers).1.bus, k.tickWindow h) :=
    CommandBus.commitM_eq_ok countable.bus a records
      (fun opens => same ▸ active_lt_of_activate built opens)
      (Nat.lt_of_le_of_lt (Nat.succ_le_succ countable.switches_le) room)
      fun command issued => bank_lt_of_issued built a issued
  have refresher : k.refresher.commitM k.evaluate.decision.refreshReady =
      .ok (k.step offers).1.refresher :=
    Refresher.commitM_eq_ok countable.refresher
      (Nat.lt_of_le_of_lt (Nat.succ_le_succ countable.rounds_le) room) _
  have statistics : countCycleM k.statistics k.bus (k.step offers).1.bus (k.step offers).2 =
      .ok (k.step offers).1.statistics := countCycleM_eq_ok fits
  rw [stepM, evaluateM_eq_ok built a countable, ok_bind, commitM, turns, ok_bind, bus, ok_bind,
    refresher, ok_bind, cycle_eq_map_turn, statistics, banks_eq_map_turn]
  rfl

end Controller

end DramScheduler
