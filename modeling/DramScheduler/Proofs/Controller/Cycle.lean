import DramScheduler.Controller
import DramScheduler.Proofs.Bank.Commands
import DramScheduler.Proofs.Bus.Issue
import Mathlib.Data.List.Induction

/-!
# One cycle of a controller, bank by bank

`Controller.step` works on whole lists. Here its results are taken apart by bank number: which
command a bank gets issued (`Controller.issues`), which request it takes (`Controller.takes`),
and what is left of the machine after the edge. What the memory sees of the cycle is tied to
the same command, so that later proofs speak of one bank at a time.

## Main results

* `Controller.getElem?_banks_step` — the machine of a bank after the edge;
* `Controller.accepted_step`, `Controller.responses_step` — the handshakes of a bank;
* `Controller.filter_commands_step` — the commands the memory sees for a bank;
* `Controller.commands_step_of_refresh` — the commands during a refresh round;
* `Controller.run_concat`, `Controller.run_induction`, `Controller.trace_induction` — runs, cycle
  after cycle.
-/

namespace DramScheduler.Controller

variable {c : Config} {k : Controller} {offers : List (Option BankRequest)} {i : Nat}
  {m : BankMachine}

/-- Whether a refresh is requested in this cycle. -/
def refreshRequest (k : Controller) : Bool :=
  k.refresher.evaluate.valid

/-- Whether the command that a bank offers in this cycle is accepted. -/
def accepts (k : Controller) (i : Nat) : Bool :=
  k.evaluate.decision.accepted.getD i false

/-- The command that a bank issues in this cycle: the one that its machine offers, if it is
accepted. -/
def issues (k : Controller) (i : Nat) : Option Command :=
  k.banks[i]?.bind fun m => m.issue k.refreshRequest (k.accepts i)

/-- The request that a bank takes in this cycle, if the given ones are offered. -/
def takes (k : Controller) (offers : List (Option BankRequest)) (i : Nat) : Option BankRequest :=
  if k.ready i then offers.getD i none else none

/-! ### What a cycle does to a bank -/

/-- The requests that the banks take, by number of the bank. -/
theorem getElem?_pushes (k : Controller) (offers : List (Option BankRequest)) (i : Nat) :
    (k.evaluate.pushes offers)[i]? = k.banks[i]?.map fun _ => k.takes offers i := by
  rw [Evaluation.pushes, mapEntries_eq, List.getElem?_mapIdx]
  cases found : k.banks[i]? with
  | none => simp [evaluate, found]
  | some m =>
    simp [evaluate, found, takes, ready, Evaluation.taken, BankMachine.evaluate]

/-- **The machine of a bank after the edge**: its clock edge depends on what became of its command
and its request alone. -/
theorem getElem?_banks_step (k : Controller) (offers : List (Option BankRequest)) (i : Nat) :
    (k.step offers).1.banks[i]? =
      k.banks[i]?.map fun m => m.commit k.refreshRequest (k.accepts i) (k.takes offers i) := by
  have banks : (k.step offers).1.banks = mapEntries
      (fun bank edge => bank.commit k.refreshRequest edge.1 edge.2) (false, none)
      k.banks (k.evaluate.edges (k.evaluate.pushes offers)) := rfl
  rw [banks, mapEntries_eq, List.getElem?_mapIdx]
  cases found : k.banks[i]? with
  | none => rfl
  | some m =>
    have edge : (k.evaluate.edges (k.evaluate.pushes offers)).getD i (false, none) =
        (k.accepts i, k.takes offers i) := by
      rw [Evaluation.edges, mapEntries_eq, List.getD_eq_getElem?_getD, List.getElem?_mapIdx,
        getElem?_pushes, found]
      rfl
    rw [Option.map_some, Option.map_some, edge]

/-- A machine after the edge is one from before it, a clock edge later. -/
theorem exists_of_banks_step (found : (k.step offers).1.banks[i]? = some m) :
    ∃ before, k.banks[i]? = some before ∧
      before.commit k.refreshRequest (k.accepts i) (k.takes offers i) = m := by
  rwa [getElem?_banks_step, Option.map_eq_some_iff] at found

/-- A cycle adds no bank and takes none away. -/
@[simp] theorem length_banks_step (k : Controller) (offers : List (Option BankRequest)) :
    (k.step offers).1.banks.length = k.banks.length := by
  have banks : (k.step offers).1.banks = mapEntries
      (fun bank edge => bank.commit k.refreshRequest edge.1 edge.2) (false, none)
      k.banks (k.evaluate.edges (k.evaluate.pushes offers)) := rfl
  rw [banks, length_mapEntries]

/-- The bus takes the edge with the decision of the cycle. -/
theorem bus_step (k : Controller) (offers : List (Option BankRequest)) :
    (k.step offers).1.bus = k.bus.commit k.evaluate.decision k.refresher.evaluate :=
  rfl

/-- The refresher takes the edge told whether the bus was its own. -/
theorem refresher_step (k : Controller) (offers : List (Option BankRequest)) :
    (k.step offers).1.refresher = k.refresher.commit (k.bus.state == .refresh) :=
  rfl

/-! ### What can be seen of a cycle -/

/-- A bank tells its requester whether it took the request. -/
theorem accepted_step (k : Controller) (offers : List (Option BankRequest)) (i : Nat) :
    (k.step offers).2.accepted[i]? = k.banks[i]?.map fun _ => (k.takes offers i).isSome := by
  have accepted : (k.step offers).2.accepted =
      (k.evaluate.pushes offers).map Option.isSome := rfl
  rw [accepted, List.getElem?_map, getElem?_pushes, Option.map_map]
  rfl

/-- A bank takes a request exactly if it says so. -/
theorem getD_accepted_step (k : Controller) (offers : List (Option BankRequest)) (i : Nat) :
    (k.step offers).2.accepted.getD i false = (k.takes offers i).isSome := by
  rw [List.getD_eq_getElem?_getD, accepted_step]
  cases found : k.banks[i]? with
  | none => simp [takes, ready, found]
  | some m => rfl

/-- A bank takes what it is offered exactly if it is ready. -/
theorem accepted_step_iff {request : BankRequest} (offer : offers.getD i none = some request) :
    (k.step offers).2.accepted[i]? = some true ↔ k.ready i = true := by
  rw [accepted_step, takes, offer, ready]
  cases k.banks[i]? with
  | none => simp
  | some m => cases m.ready <;> simp

/-- The strobes of a bank follow the command it issues. -/
theorem responses_step (k : Controller) (offers : List (Option BankRequest)) (i : Nat) :
    (k.step offers).2.responses[i]? =
      k.banks[i]?.map fun _ => BankResponse.ofCommand (k.issues i) := by
  have responses : (k.step offers).2.responses =
      mapEntries Evaluation.response false k.evaluate.banks k.evaluate.decision.accepted := rfl
  rw [responses, mapEntries_eq, List.getElem?_mapIdx]
  cases found : k.banks[i]? with
  | none => simp [evaluate, found]
  | some m =>
    have outputs : k.evaluate.banks[i]? = some (m.evaluate k.refreshRequest) := by
      simp [evaluate, found, refreshRequest]
    rw [outputs, issues, found]
    rfl

/-- What a bank issues is the command that the bus grants it. -/
theorem granted_eq_issues (k : Controller) (i : Nat) :
    k.bus.granted k.evaluate.banks k.refresher.evaluate i = k.issues i := by
  rw [CommandBus.granted, issues]
  cases found : k.banks[i]? with
  | none => simp [evaluate, found]
  | some m =>
    have outputs : k.evaluate.banks[i]? = some (m.evaluate k.refreshRequest) := by
      simp [evaluate, found, refreshRequest]
    rw [outputs]
    rfl

/-- What a bank issues is the command that its machine offers. -/
theorem offers_of_issues {command : Command} (found : k.banks[i]? = some m)
    (h : k.issues i = some command) : m.Offers k.refreshRequest command := by
  rw [issues, found] at h
  exact BankMachine.offers_of_issue h

/-! ### What stays -/

/-- The parts of a controller that its configuration fixes: the parameters of its machines, and how
many of them there are. -/
structure BuiltFrom (c : Config) (k : Controller) : Prop where
  /-- There is a machine for every bank. -/
  length_banks : k.banks.length = c.banks
  /-- Every machine is the one of its bank. -/
  bank : ∀ i (m : BankMachine), k.banks[i]? = some m → m.BuiltFrom c i
  /-- Commands of a cycle do not get into each other's way. -/
  placed : k.bus.WellPlaced
  /-- Rounds are those of the configuration. -/
  timeline : k.refresher.timeline = (Refresher.new c).timeline
  /-- They are played if it says so. -/
  enabled : k.refresher.enabled = c.settings.refreshEnabled

/-- The machines of a controller at rest are at rest. -/
theorem eq_new_of_build (found : (build c).banks[i]? = some m) : m = .new i c := by
  rw [build, List.getElem?_map, Option.map_eq_some_iff] at found
  obtain ⟨j, numbered, rfl⟩ := found
  obtain ⟨inRange, number⟩ := List.getElem?_eq_some_iff.1 numbered
  rw [← number, List.getElem_range]

/-- A controller at rest is built from its configuration, if that is accepted. -/
theorem builtFrom_build (a : c.Accepted) : (build c).BuiltFrom c where
  length_banks := by simp [build]
  bank := by
    intro i m found
    obtain rfl := eq_new_of_build found
    exact BankMachine.builtFrom_new i c
  placed := CommandBus.wellPlaced_new a
  timeline := rfl
  enabled := rfl

/-- A cycle keeps what the controller was built from, whatever is offered in it. Each part keeps its
own over its clock edge. -/
theorem BuiltFrom.step (built : k.BuiltFrom c) (offers : List (Option BankRequest)) :
    (k.step offers).1.BuiltFrom c where
  length_banks := by rw [length_banks_step, built.length_banks]
  bank := by
    intro i m found
    obtain ⟨before, earlier, rfl⟩ := exists_of_banks_step found
    exact (built.bank i before earlier).commit
  placed := built.placed.commit _ _
  timeline := by
    rw [refresher_step, Refresher.commit]
    split <;> exact built.timeline
  enabled := by
    rw [refresher_step, Refresher.commit]
    split <;> exact built.enabled

/-! ### The commands of a cycle -/

/-- Outside refresh rounds, the memory sees of a bank the command that it issues, and no
other. -/
theorem filter_commands_step (built : k.BuiltFrom c) (state : k.bus.state ≠ .refresh)
    (offers : List (Option BankRequest)) (i : Nat) :
    (k.step offers).2.commands.filter (fun command => command.bank? == some i) =
      (k.issues i).toList := by
  have own : ∀ i command, k.evaluate.banks[i]?.bind BankOutputs.command = some command →
      command.bank? = some i := by
    intro i command offered
    cases found : k.banks[i]? with
    | none => simp [evaluate, found] at offered
    | some m =>
      have offer : m.offer k.refreshRequest = some command := by
        simpa [evaluate, found, BankMachine.evaluate, refreshRequest] using offered
      rw [(BankMachine.offer_eq_some_iff.1 offer).bank?, (built.bank i m found).index]
  rw [← granted_eq_issues]
  exact CommandBus.filter_commands built.placed state own i

/-- Outside refresh rounds, every command on the bus is issued by a bank. -/
theorem exists_issues_of_mem_commands (built : k.BuiltFrom c) (state : k.bus.state ≠ .refresh)
    {command : Command} (mem : command ∈ (k.step offers).2.commands) :
    ∃ i m, k.banks[i]? = some m ∧ k.issues i = some command := by
  obtain ⟨i, inRange, granted⟩ :=
    CommandBus.exists_granted_of_mem_commands built.placed state mem
  have bound : i < k.banks.length := by simpa [evaluate] using inRange
  refine ⟨i, k.banks[i], List.getElem?_eq_getElem bound, ?_⟩
  rw [← granted_eq_issues]
  exact granted

/-- **During a refresh round the command on the bus is the refresher's**, if there is one in the
cycle. -/
theorem commands_step_of_refresh (built : k.BuiltFrom c) (state : k.bus.state = .refresh)
    (offers : List (Option BankRequest)) :
    (k.step offers).2.commands = k.refresher.evaluate.command.toList :=
  CommandBus.commands_of_refresh built.placed state

/-- During a refresh round no bank issues a command. -/
theorem issues_of_refresh (built : k.BuiltFrom c) (state : k.bus.state = .refresh) (i : Nat) :
    k.issues i = none := by
  rw [← granted_eq_issues, CommandBus.granted, if_neg]
  rw [CommandBus.accepted_iff built.placed, CommandBus.choices_of_refresh state]
  simp

/-! ### Runs -/

/-- A controller can be built for an accepted configuration, and it is at rest. -/
theorem new_of_accepted (accepted : c.validate = .ok ()) : Controller.new c = .ok (build c) := by
  rw [Controller.new, accepted]
  rfl

/-- The controllers that runs of a configuration lead to, from the one at rest on. -/
inductive Reachable (c : Config) : Controller → Prop
  | build : Reachable c (build c)
  | step {k : Controller} (offers : List (Option BankRequest)) :
      Reachable c k → Reachable c (k.step offers).1

/-- Every reachable controller is built from the configuration. -/
theorem Reachable.builtFrom (a : c.Accepted) (reached : Reachable c k) : k.BuiltFrom c := by
  induction reached with
  | build => exact builtFrom_build a
  | step offers _ ih => exact ih.step offers

/-- What holds of every new machine, and is kept by every clock edge, holds of the machines of every
reachable controller. -/
theorem Reachable.bank_induction {P : BankMachine → Prop} (start : ∀ i, P (.new i c))
    (edge : ∀ (m : BankMachine) refreshRequest accepted push, P m →
      P (m.commit refreshRequest accepted push))
    (reached : Reachable c k) (found : k.banks[i]? = some m) : P m := by
  induction reached generalizing m with
  | build =>
    obtain rfl := eq_new_of_build found
    exact start i
  | step offers _ ih =>
    obtain ⟨before, earlier, rfl⟩ := exists_of_banks_step found
    exact edge before _ _ _ (ih earlier)

/-- One more cycle comes after the run. -/
theorem run_concat (k : Controller) (past : List (List (Option BankRequest)))
    (offers : List (Option BankRequest)) :
    k.run (past ++ [offers]) =
      (((k.run past).1.step offers).1, (k.run past).2 ++ [((k.run past).1.step offers).2]) := by
  rw [run_append]
  rfl

/-- What was offered in each cycle of a run, with what could be seen of the cycle. -/
def history (k : Controller) (past : List (List (Option BankRequest))) :
    List (List (Option BankRequest) × ControllerCycle) :=
  past.zip (k.run past).2

/-- The commands issued in each cycle of a run. -/
def trace (k : Controller) (past : List (List (Option BankRequest))) : List (List Command) :=
  (k.run past).2.map ControllerCycle.commands

/-- Something can be seen of every cycle. -/
theorem length_run (k : Controller) (past : List (List (Option BankRequest))) :
    (k.run past).2.length = past.length := by
  induction past generalizing k with
  | nil => rfl
  | cons offers rest ih => simp [run, ih]

/-- One more cycle is put at the end of the history. -/
theorem history_concat (k : Controller) (past : List (List (Option BankRequest)))
    (offers : List (Option BankRequest)) :
    k.history (past ++ [offers]) =
      k.history past ++ [(offers, ((k.run past).1.step offers).2)] := by
  rw [history, run_concat, List.zip_append (length_run k past).symm]
  rfl

/-- The trace is the part of the history that the memory sees. -/
theorem trace_eq_map_history (k : Controller) (past : List (List (Option BankRequest))) :
    k.trace past = (k.history past).map fun seen => seen.2.commands := by
  rw [trace, history]
  conv_lhs => rw [← List.map_snd_zip (Nat.le_of_eq (length_run k past))]
  rw [List.map_map]
  rfl

/-- **Induction over runs.** What holds of a controller at rest without any history, and of
every reachable controller with its history is carried on by one more cycle, holds after every
run. -/
theorem run_induction
    {P : Controller → List (List (Option BankRequest) × ControllerCycle) → Prop}
    (start : P (build c) [])
    (step : ∀ now seen offers, Reachable c now → P now seen →
      P (now.step offers).1 (seen ++ [(offers, (now.step offers).2)]))
    (past : List (List (Option BankRequest))) :
    Reachable c ((build c).run past).1 ∧ P ((build c).run past).1 ((build c).history past) := by
  induction past using List.reverseRecOn with
  | nil => exact ⟨.build, start⟩
  | append_singleton past offers ih =>
    rw [history_concat, run_concat]
    exact ⟨ih.1.step offers, step _ _ offers ih.1 ih.2⟩

/-- Induction over runs, for what only the commands have to do with and not the offers: it holds at
first, and a cycle of a reachable controller keeps it. -/
theorem trace_induction {P : Controller → List (List Command) → Prop} (start : P (build c) [])
    (step : ∀ now trace offers, Reachable c now → P now trace →
      P (now.step offers).1 (trace ++ [(now.step offers).2.commands]))
    (past : List (List (Option BankRequest))) :
    P ((build c).run past).1 ((build c).trace past) := by
  rw [trace_eq_map_history]
  refine (run_induction (P := fun now seen => P now (seen.map fun cycle => cycle.2.commands)) start
    ?_ past).2
  intro now seen offers reached kept
  rw [List.map_append]
  exact step now _ offers reached kept

/-- Every run leads to a reachable controller. -/
theorem reachable_run (c : Config) (past : List (List (Option BankRequest))) :
    Reachable c ((build c).run past).1 :=
  (run_induction (P := fun _ _ => True) trivial (fun _ _ _ _ _ => trivial) past).1

end DramScheduler.Controller
