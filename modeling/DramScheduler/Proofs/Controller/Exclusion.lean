import DramScheduler.Proofs.Bus.Permits
import DramScheduler.Proofs.Controller.Handover

/-!
# The bus has one owner

Either the bank machines use the command bus or the refresher does, and they never do in the same
cycle. In the hands of the refresher the bus carries the commands of the round and nothing else,
each in the cycle in which the refresher shows it; everywhere else it carries no command that
concerns the whole memory. Already while the bus is asked for, no row is opened and no data is
moved, so that the banks come to rest.

## Main results

* `Controller.Exclusive` — what it means for the bus to have one owner;
* `Controller.exclusive` — it has one in every reachable controller;
* `Controller.exists_new_exclusive` — it has one over every run.
-/

namespace DramScheduler

/-- Commands that concern the whole memory: precharges of all banks, refreshes and
calibrations. -/
def Command.isMaintenance : Command → Bool
  | .precharge _ all => all
  | .refresh _ | .calibrate => true
  | _ => false

open Command

/-- What a bank machine offers concerns its bank alone. -/
theorem BankMachine.Offers.isMaintenance {m : BankMachine} {refreshRequest : Bool}
    {command : Command} (offers : m.Offers refreshRequest command) :
    command.isMaintenance = false := by
  cases offers with
  | column => simp only [columnCommand]; split <;> rfl
  | close => rfl
  | openRow => rfl

/-- While a refresh is requested a bank machine offers no more than the precharge of its row. -/
theorem BankMachine.Offers.eq_prechargeCommand {m : BankMachine} {command : Command}
    (offers : m.Offers true command) : command = m.prechargeCommand := by
  cases offers with
  | column _ quiet => cases quiet
  | close => rfl
  | openRow _ quiet => cases quiet

namespace Controller

variable {c : Config} {k : Controller}

/-- The bus has one owner: the machines of the banks, or the refresher. Who it is shows in the state
of the bus, and both sides keep to it. -/
structure Exclusive (k : Controller) : Prop where
  /-- The bus is the refresher's only while the refresher waits for it or plays a round. -/
  requested : k.bus.state = .refresh → k.refresher.state = .waitGrant ∨
    ∃ elapsed calibrate, k.refresher.state = .sequence elapsed calibrate
  /-- A round is played only while the bus is the refresher's. -/
  holds : ∀ elapsed calibrate, k.refresher.state = .sequence elapsed calibrate →
    k.bus.state = .refresh
  /-- Meanwhile every bank machine is parked, its row closed. -/
  parked : k.bus.state = .refresh → ∀ (i : Nat) (m : BankMachine), k.banks[i]? = some m →
    m.state = .refresh ∧ m.openRow = none
  /-- Meanwhile no bank gets a command issued. -/
  silent : k.bus.state = .refresh → (∀ i, k.accepts i = false) ∧
    ∀ offers, ∀ command ∈ (k.step offers).2.commands, command.bank? = none
  /-- What the refresher shows is issued in the same cycle, on the first phase and on no
  other. -/
  played : ∀ offers command, k.refresher.evaluate.command = some command →
    (k.step offers).2.issued[0]? = some (some command) ∧ (k.step offers).2.commands = [command]
  /-- Nothing that concerns the whole memory is issued but what the refresher shows. -/
  maintained : ∀ offers, ∀ command ∈ (k.step offers).2.commands,
    command.isMaintenance = true → k.refresher.evaluate.command = some command
  /-- While a refresh is requested no row is opened and no data is moved. -/
  quiet : ∀ offers, (k.step offers).2.refreshRequest = true →
    ∀ command ∈ (k.step offers).2.commands,
      command.isActivate = false ∧ command.isColumn = false

/-- A command that the refresher shows is the only one on the bus, on the first phase. -/
theorem issued_of_evaluate_command (built : k.BuiltFrom c) (hand : k.Handover)
    {offers : List (Option BankRequest)} {command : Command}
    (shown : k.refresher.evaluate.command = some command) :
    (k.step offers).2.issued[0]? = some (some command) ∧
      (k.step offers).2.commands = [command] := by
  obtain ⟨elapsed, calibrate, running, -⟩ := Refresher.evaluate_command_eq_some_iff.1 shown
  have state := hand.holds elapsed calibrate running
  refine ⟨?_, by rw [commands_step_of_refresh built state, shown]; rfl⟩
  have issued : (k.step offers).2.issued =
      (k.bus.evaluate k.evaluate.banks k.refresher.evaluate).issued := rfl
  have room : 0 < k.bus.phases.count := Nat.zero_lt_of_lt (built.placed.column_lt .read)
  rw [issued, CommandBus.issued_of_refresh state, List.getElem?_map, List.getElem?_range room,
    Option.map_some, if_pos rfl, shown]

/-- While a refresh is requested, what is on the bus opens no row and moves no data. -/
theorem quiet_of_refreshRequest (built : k.BuiltFrom c) (request : k.refreshRequest = true)
    {offers : List (Option BankRequest)} {command : Command}
    (mem : command ∈ (k.step offers).2.commands) :
    command.isActivate = false ∧ command.isColumn = false := by
  by_cases state : k.bus.state = .refresh
  · rcases command_of_refresh built state mem with ⟨-, rfl⟩ | rfl | rfl <;> exact ⟨rfl, rfl⟩
  · obtain ⟨i, m, -, -, offered⟩ := bank?_of_mem_commands built state mem
    rw [request] at offered
    rw [offered.eq_prechargeCommand]
    exact ⟨rfl, rfl⟩

/-- **The bus has one owner** in every controller that is in step. Each part is read off what the
machines agree on and off what can be on the bus. -/
theorem exclusive (built : k.BuiltFrom c) (hand : k.Handover) : k.Exclusive where
  requested := by
    intro state
    have busy := hand.requested state
    cases running : k.refresher.state with
    | idle => exact absurd running busy
    | waitGrant => exact .inl rfl
    | sequence elapsed calibrate => exact .inr ⟨elapsed, calibrate, rfl⟩
  holds := hand.holds
  parked := hand.parked
  silent := by
    intro state
    refine ⟨?_, ?_⟩
    · intro i
      rw [← Bool.not_eq_true]
      intro accepted
      obtain ⟨chosen, mem, -⟩ := (CommandBus.accepted_iff built.placed).1 accepted
      rw [CommandBus.choices_of_refresh state] at mem
      cases mem
    · intro offers command mem
      rcases command_of_refresh built state mem with ⟨-, rfl⟩ | rfl | rfl <;> rfl
  played _ _ shown := issued_of_evaluate_command built hand shown
  maintained := by
    intro offers command mem maintenance
    by_cases state : k.bus.state = .refresh
    · rwa [commands_step_of_refresh built state, Option.mem_toList] at mem
    · obtain ⟨i, m, -, -, offered⟩ := bank?_of_mem_commands built state mem
      rw [offered.isMaintenance] at maintenance
      cases maintenance
  quiet _ request _ mem := quiet_of_refreshRequest built request mem

/-- **The bus has one owner over every run.** The machines of a controller for an accepted
configuration hand the bus over and back without ever sharing it, whatever is offered to them. -/
theorem exists_new_exclusive (accepted : c.validate = .ok ()) :
    ∃ start, Controller.new c = .ok start ∧ ∀ past, (start.run past).1.Exclusive := by
  have a := Config.validate_eq_ok_iff.1 accepted
  refine ⟨build c, new_of_accepted accepted, fun past => ?_⟩
  have reached := reachable_run c past
  exact exclusive (reached.builtFrom a) reached.handover

/-- Rounds of eight refreshes and a calibration, on an interface of a single phase. -/
def longRounds : Config where
  phy := { phases := 1, writePhase := 0, readRowPhase := 0 }
  timing := { tZQCS := some 64 }
  settings := { postponing := 8, zqcsInterval := some 1 }

/-- Rounds of eight refreshes on a single phase, each with a calibration, are accepted. -/
theorem new_exclusive_of_long_rounds :
    longRounds.validate = .ok () ∧
      ∃ start, Controller.new longRounds = .ok start ∧ ∀ past, (start.run past).1.Exclusive :=
  ⟨by decide, exists_new_exclusive (by decide)⟩

end Controller

end DramScheduler
