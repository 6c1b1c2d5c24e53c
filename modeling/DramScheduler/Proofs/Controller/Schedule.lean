import DramScheduler.Proofs.Bus.Schedule
import DramScheduler.Proofs.Controller.Cycle
import DramScheduler.Proofs.Statistics.Counts

/-!
# The schedule does not depend on the interface

How many phases there are, which of them a command uses, how wide the data is and how the bank
numbers are split into ranks has no part in what is issued and when. Two configurations that agree
in the rest (`Config.SameSchedule`) lead to controllers that run in step: whatever they are
offered, they take the same requests, issue the same commands and count the same, in every cycle.

With one phase only there is no row chooser, and rows and columns wait for each other. So both
have to have several.

## Main results

* `Controller.step_alike` — controllers with the same schedule keep it over a cycle, and look alike
  in it;
* `Controller.exists_new_inStep` — they do so over every run.
-/

namespace DramScheduler

/-- Two cycles look alike apart from the phases on which the commands are issued, and so apart from
the order in which they are listed. -/
structure ControllerCycle.Alike (one other : ControllerCycle) : Prop where
  /-- The same requests are taken. -/
  accepted : one.accepted = other.accepted
  /-- The same bursts are announced to the masters. -/
  responses : one.responses = other.responses
  /-- A refresh is requested in both or in none. -/
  refreshRequest : one.refreshRequest = other.refreshRequest
  /-- The same commands are issued. -/
  commands : one.commands.Perm other.commands

/-- Two configurations agree in all that the schedule depends on. The ranks may differ as long as
there are as many banks in all. -/
structure Config.SameSchedule (c c' : Config) : Prop where
  /-- Bursts are equally long. -/
  memoryType : c.phy.memoryType = c'.phy.memoryType
  /-- Rows have the same width. -/
  rowBits : c.geometry.rowBits = c'.geometry.rowBits
  /-- So have columns. -/
  colBits : c.geometry.colBits = c'.geometry.colBits
  /-- There are as many banks in all. -/
  bankIndexBits : c.bankIndexBits = c'.bankIndexBits
  /-- The write latency enters in controller cycles only. -/
  casWriteCycles : c.casWriteCycles = c'.casWriteCycles
  /-- Reads have the same latency. -/
  readLatency : c.phy.readLatency = c'.phy.readLatency
  /-- The timings are the same. -/
  timing : c.timing = c'.timing
  /-- So are the settings. -/
  settings : c.settings = c'.settings

namespace Config.SameSchedule

variable {c c' : Config}

/-- They have the same number of banks, since as many bits tell them apart. -/
theorem banks (same : c.SameSchedule c') : c.banks = c'.banks := by
  rw [Config.banks, Config.banks, same.bankIndexBits]

/-- A recovery time is counted from the end of the written burst, which is the same in both. -/
theorem writeRecovery? (same : c.SameSchedule c') (time : Nat) :
    c.writeRecovery? time = c'.writeRecovery? time := by
  rw [Config.writeRecovery?, Config.writeRecovery?, same.casWriteCycles, same.timing]

/-- Their bank machines are the same. -/
theorem bankMachine (same : c.SameSchedule c') (bank : Nat) :
    BankMachine.new bank c = BankMachine.new bank c' := by
  simp only [BankMachine.new, rowSplit, burstBits, writeToPrecharge, same.memoryType,
    same.rowBits, same.colBits, same.timing, same.settings, same.writeRecovery?]

/-- Their refreshers are the same. -/
theorem refresher (same : c.SameSchedule c') : Refresher.new c = Refresher.new c' := by
  simp only [Refresher.new, same.timing, same.settings]

/-- With several phases each, the buses start with the same schedule. With one phase in one of them
only, its chooser of rows would be missing. -/
theorem bus (same : c.SameSchedule c') (several : 1 < c.phy.phases) (several' : 1 < c'.phy.phases) :
    (CommandBus.new c).schedule = (CommandBus.new c').schedule := by
  have counts : ∀ width, (Bandwidth.new c'.settings.bandwidthPeriodBits width).counts =
      (Bandwidth.new c'.settings.bandwidthPeriodBits 0).counts := fun _ => rfl
  simp only [CommandBus.new, CommandBus.schedule, readToWrite, writeToRead, same.banks,
    same.timing, same.settings, same.writeRecovery?, same.readLatency, if_pos several,
    if_pos several']
  split
  · simp only [Option.map_some, counts]
  · rfl

end Config.SameSchedule

namespace Controller

variable {c c' : Config} {k k' : Controller}

/-- The controller without what the interface to the memory has to do with: the phases of the bus
and the width of the data. -/
def schedule (k : Controller) : Controller :=
  { k with config := default, bus := k.bus.schedule }

/-- Controllers at rest have the same schedule. -/
theorem schedule_build (same : c.SameSchedule c') (several : 1 < c.phy.phases)
    (several' : 1 < c'.phy.phases) : (build c).schedule = (build c').schedule := by
  have machines : (List.range c.banks).map (fun bank => BankMachine.new bank c) =
      (List.range c'.banks).map fun bank => BankMachine.new bank c' := by
    rw [same.banks]
    exact List.map_congr_left fun bank _ => same.bankMachine bank
  simp only [build, schedule, machines, same.refresher, same.bus several several']

/-- A controller with the same schedule differs in its bus and its configuration only. So one of
them can be written as an update of the other. -/
theorem exists_of_schedule_eq (same : k.schedule = k'.schedule) :
    ∃ config bus, k' = { k with config := config, bus := bus } ∧
      k.bus.schedule = bus.schedule := by
  refine ⟨k'.config, k'.bus, ?_, congrArg Controller.bus same⟩
  cases k
  cases k'
  simp only [schedule, mk.injEq] at same ⊢
  obtain ⟨-, banks, -, rest⟩ := same
  exact ⟨trivial, banks.symm, trivial, by simp [rest]⟩

/-- Cycles that look alike are counted alike: the counters look at how many commands of a kind there
are, not at their order. -/
theorem countCycle_eq {before before' after after' : CommandBus} {cycle cycle' : ControllerCycle}
    (state : before.state = before'.state) (switches : after.switches = after'.switches)
    (alike : cycle.Alike cycle') (s : Statistics) :
    countCycle s before after cycle = countCycle s before' after' cycle' := by
  rw [countCycle, countCycle, state, switches, alike.accepted, alike.responses]
  exact Statistics.recordAll_perm alike.commands _

/-- **Controllers with the same schedule keep it over a cycle, and look alike in it.** Their banks
offer the same, so their buses choose the same, and all else follows the choice. -/
theorem step_alike (same : k.schedule = k'.schedule) (placed : k.bus.WellPlaced)
    (placed' : k'.bus.WellPlaced) (offers : List (Option BankRequest)) :
    (k.step offers).1.schedule = (k'.step offers).1.schedule ∧
      (k.step offers).2.Alike (k'.step offers).2 := by
  obtain ⟨config, bus, rfl, onBus⟩ := exists_of_schedule_eq same
  have decisions : k.evaluate.decision.Alike
      ({ k with config := config, bus := bus } : Controller).evaluate.decision :=
    CommandBus.evaluate_alike onBus placed placed'
  have accepted := congrArg Decision.accepted decisions.eq_with
  have state : k.bus.schedule.state = bus.schedule.state := by rw [onBus]
  -- the banks are told the same, so they answer the same and go on in the same way
  have banks : (({ k with config := config, bus := bus } : Controller).step offers).1.banks =
      (k.step offers).1.banks := by
    simp only [step, Evaluation.edges, accepted]
    rfl
  have cycles : (k.step offers).2.Alike
      (({ k with config := config, bus := bus } : Controller).step offers).2 := by
    refine ⟨rfl, ?_, rfl, decisions.commands_perm⟩
    simp only [step, Evaluation.responses, accepted]
    rfl
  have after := CommandBus.schedule_commit onBus decisions k.refresher.evaluate
  refine ⟨?_, cycles⟩
  have statistics :
      (({ k with config := config, bus := bus } : Controller).step offers).1.statistics =
        (k.step offers).1.statistics :=
    (countCycle_eq state (congrArg CommandBus.switches after) cycles k.statistics).symm
  have refresher :
      (({ k with config := config, bus := bus } : Controller).step offers).1.refresher =
        (k.step offers).1.refresher := by
    rw [refresher_step, refresher_step, show bus.state = k.bus.state from state.symm]
  rw [schedule, schedule, banks, statistics, refresher, bus_step, after]
  rfl

/-! ### Runs -/

/-- Two controllers run in step: after the same offers they are the same apart from their
interfaces to the memory, and their next cycles look alike. -/
structure InStep (start start' : Controller) : Prop where
  /-- The registers are the same but for those of the interface. -/
  state : ∀ past, (start.run past).1.schedule = (start'.run past).1.schedule
  /-- Column counts that are published at any time differ in the width of the data only. -/
  published : ∀ past, (start.run past).1.bus.publish.schedule =
    (start'.run past).1.bus.publish.schedule
  /-- Whatever is offered next, the cycle is the same but for the phases. -/
  cycles : ∀ past offers,
    ((start.run past).1.step offers).2.Alike ((start'.run past).1.step offers).2

section Both

variable (a : c.Accepted) (a' : c'.Accepted) (several : 1 < c.phy.phases)
  (several' : 1 < c'.phy.phases) (same : c.SameSchedule c')

include a a' several several' same

/-- Controllers of configurations that agree have the same schedule after every run. Induction on
the run. -/
theorem schedule_run (past : List (List (Option BankRequest))) :
    ((build c).run past).1.schedule = ((build c').run past).1.schedule := by
  induction past using List.reverseRecOn with
  | nil => exact schedule_build same several several'
  | append_singleton past offers ih =>
    have placed := ((reachable_run c past).builtFrom a).placed
    have placed' := ((reachable_run c' past).builtFrom a').placed
    rw [run_concat, run_concat]
    exact (step_alike ih placed placed' offers).1

/-- Controllers at rest run in step from there on. -/
theorem inStep_build : (build c).InStep (build c') := by
  have schedules := schedule_run a a' several several' same
  refine ⟨schedules, fun past => ?_, fun past offers => ?_⟩
  · exact CommandBus.schedule_publish (congrArg Controller.bus (schedules past))
  · exact (step_alike (schedules past) ((reachable_run c past).builtFrom a).placed
      ((reachable_run c' past).builtFrom a').placed offers).2

end Both

/-- **The schedule does not depend on the interface.** Controllers for two accepted configurations
with several phases that agree in all that the schedule depends on run in step, whatever is offered
to both of them. -/
theorem exists_new_inStep (accepted : c.validate = .ok ()) (accepted' : c'.validate = .ok ())
    (several : 1 < c.phy.phases) (several' : 1 < c'.phy.phases) (same : c.SameSchedule c') :
    ∃ start start', Controller.new c = .ok start ∧ Controller.new c' = .ok start' ∧
      start.InStep start' :=
  ⟨build c, build c', new_of_accepted accepted, new_of_accepted accepted',
    inStep_build (Config.validate_eq_ok_iff.1 accepted) (Config.validate_eq_ok_iff.1 accepted')
      several several' same⟩

/-- Two ranks of four banks behind four phases and a wider bus, in place of one rank of eight
banks behind two phases. -/
def otherInterface : Config where
  phy := {
    dataBits := 32, phases := 4, ranks := 2, readPhase := 2, writePhase := 3, readRowPhase := 1
    writeRowPhase := 0, casLatency := 6, casWriteLatency := 7, writeLatency := 4 }
  geometry := { bankBits := 2 }
  ports := [{}, {}]

/-- The other interface has the same schedule as the default one. -/
theorem new_inStep_of_otherInterface :
    ({} : Config).validate = .ok () ∧ otherInterface.validate = .ok () ∧
      ∃ start start', Controller.new {} = .ok start ∧ Controller.new otherInterface = .ok start' ∧
        start.InStep start' :=
  ⟨by decide, by decide, exists_new_inStep (by decide) (by decide) (by decide) (by decide)
    ⟨rfl, rfl, rfl, by decide, by decide, rfl, rfl, rfl⟩⟩

end Controller

end DramScheduler
