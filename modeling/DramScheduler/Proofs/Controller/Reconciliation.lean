import DramScheduler.Proofs.Controller.RefreshTiming
import DramScheduler.Proofs.Controller.Service
import DramScheduler.Proofs.Refresh.Completion
import DramScheduler.Proofs.Statistics.Counts
import Mathlib.Algebra.BigOperators.Intervals

/-!
# The statistics reconcile with the state

What the statistics count can be read off the registers, too. Requests that were taken are served
or queued, rows that were opened are closed again or still open, and outside a refresh round every
round has issued all that belongs to it. None of these equations is kept up by a register of its
own: commands are counted where they are issued, completions where a bank answers, and the queues
and rows change at the clock edge of each bank.

Banks are summed up by their numbers. Every count of a cycle is a sum over the banks of what a bank
issues or takes in it (`Controller.countP_commands_step`, `Controller.count_accepted_step`,
`Controller.countP_responses_step`), so one equation for the edge of a single machine carries each
of them over a cycle.

## Main results

* `BankMachine.size_commit`, `BankMachine.openRow_commit` — the balance of a single bank;
* `Controller.sum_banks_step` — a balance of single banks holds of all of them;
* `Controller.exists_new_reconciles` — the statistics reconcile after every run.
-/

namespace DramScheduler

open Command

/-! ### Sums by number -/

/-- A sum over the members of a list, by their numbers. -/
theorem sum_map_eq_sum_range {α : Type} (f : α → Nat) (l : List α) :
    (l.map f).sum = ∑ i ∈ Finset.range l.length, l[i]?.elim 0 f := by
  induction l with
  | nil => rfl
  | cons a rest ih =>
    rw [List.length_cons, Finset.sum_range_succ', List.map_cons, List.sum_cons, ih, Nat.add_comm]
    rfl

/-- A count is a sum of ones. -/
theorem countP_eq_sum_map {α : Type} (p : α → Bool) (l : List α) :
    l.countP p = (l.map fun a => (p a).toNat).sum := by
  induction l with
  | nil => rfl
  | cons a rest ih =>
    rw [List.countP_cons, List.map_cons, List.sum_cons, ih]
    cases p a <;> simp [Nat.add_comm]

/-- Commands of a kind that is always to a single bank can be counted bank by bank. -/
theorem countP_eq_sum_banks {kind : Command → Bool} {commands : List Command} (banks : Nat)
    (single : ∀ command ∈ commands, kind command = true →
      ∃ bank < banks, command.bank? = some bank) :
    commands.countP kind = ∑ bank ∈ Finset.range banks,
      (commands.filter fun command => command.bank? == some bank).countP kind := by
  induction commands with
  | nil => simp
  | cons command rest ih =>
    have later := ih fun command mem => single command (List.mem_cons_of_mem _ mem)
    have split : ∀ bank, ((command :: rest).filter fun command =>
        command.bank? == some bank).countP kind =
          (rest.filter fun command => command.bank? == some bank).countP kind +
            if command.bank? = some bank ∧ kind command = true then 1 else 0 := by
      intro bank
      rw [List.filter_cons]
      by_cases own : command.bank? = some bank
      · simp [own, List.countP_cons]
      · simp [own]
    simp only [split, Finset.sum_add_distrib, ← later, List.countP_cons]
    cases ofKind : kind command with
    | false => simp
    | true =>
      obtain ⟨bank, inRange, addressed⟩ := single command List.mem_cons_self ofKind
      simp [addressed, inRange]

/-! ### The balance of a single bank -/

namespace BankMachine

variable {m : BankMachine} {refreshRequest accepted : Bool} {push : Option BankRequest}

/-- **What a bank takes is served or queued.** Serving a request and its column command are one and
the same edge. -/
theorem size_commit (m : BankMachine) (refreshRequest accepted : Bool)
    (push : Option BankRequest) :
    (m.commit refreshRequest accepted push).queue.size +
        (m.issue refreshRequest accepted).toList.countP isColumn =
      m.queue.size + push.toList.length := by
  obtain ⟨done, rest, front, after, bursts⟩ :=
    @serve_commit m refreshRequest accepted (fun _ => m.openRow) rfl push
  have served := bursts.length_eq
  rw [OpenRows.length_bursts, ← List.countP_eq_length_filter] at served
  rw [← RequestQueue.length_toList, ← RequestQueue.length_toList, front, after,
    List.length_append, List.length_append, ← served]
  omega

/-- **A row that is opened is closed again or open.** No row is opened while another one is open, so
the balance never loses one. -/
theorem openRow_commit (kept : m.RowsKept) (refreshRequest accepted : Bool)
    (push : Option BankRequest) :
    (m.commit refreshRequest accepted push).openRow.isSome.toNat +
        ((m.issue refreshRequest accepted).toList.countP prechargesOne +
          (m.issue refreshRequest accepted).toList.countP Command.autoPrecharge) =
      m.openRow.isSome.toNat + (m.issue refreshRequest accepted).toList.countP isActivate := by
  suffices balance : ∀ {command after row}, m.Edge refreshRequest command after row →
      row.isSome.toNat + (command.toList.countP prechargesOne +
        command.toList.countP Command.autoPrecharge) =
          m.openRow.isSome.toNat + command.toList.countP isActivate from
    balance (m.edge_commit refreshRequest accepted push)
  have column : ∀ request, (m.columnCommand request).prechargesOne = false := by
    intro request
    rw [prechargesOne, isPrecharge_columnCommand, Bool.false_and]
  intro command after row edge
  cases edge with
  | park | seek | holdClose | settle | holdSettle | holdOpen | holdParked => rfl
  | serve _ _ _ _ _ stays => simp [column, stays]
  | serveLast _ _ _ _ hit closes => simp [column, closes, hit]
  | close state =>
    have isOpen := kept.closing state
    simp [prechargeCommand, prechargesOne, isPrecharge, bank?, Command.autoPrecharge, isActivate,
      isOpen]
  | openRow state =>
    have closed := kept.closed (.inr state)
    simp [prechargesOne, isPrecharge, Command.autoPrecharge, isActivate, closed]
  | closeParked _ isOpen =>
    simp [prechargeCommand, prechargesOne, isPrecharge, bank?, Command.autoPrecharge, isActivate,
      isOpen]

end BankMachine

namespace Controller

variable {c : Config} {k : Controller} {kind : Command → Bool}

/-! ### The counts of a cycle -/

/-- Sums over the banks of a controller by their numbers. -/
def sumBanks (k : Controller) (f : Nat → Nat) : Nat :=
  ∑ bank ∈ Finset.range k.banks.length, f bank

/-- What the command that a bank issues adds to the count of a kind. -/
def issuesCount (k : Controller) (kind : Command → Bool) (bank : Nat) : Nat :=
  (k.issues bank).toList.countP kind

/-- **Commands are counted bank by bank**, if they are of a kind that is to a single bank: a bank's
share is what its machine issues. -/
theorem countP_commands_step (built : k.BuiltFrom c)
    (single : ∀ command, kind command = true → command.bank?.isSome = true)
    (offers : List (Option BankRequest)) :
    (k.step offers).2.commands.countP kind = k.sumBanks (k.issuesCount kind) := by
  rw [countP_eq_sum_banks k.banks.length]
  · simp only [bank_commands_step built]
    rfl
  · intro command mem ofKind
    obtain ⟨bank, addressed⟩ := Option.isSome_iff_exists.1 (single command ofKind)
    exact ⟨bank, built.length_banks ▸ lt_banks_of_mem_commands built mem addressed, addressed⟩

/-- **Requests are taken bank by bank**: the answers to the masters count what the banks take. -/
theorem count_accepted_step (k : Controller) (offers : List (Option BankRequest)) :
    (k.step offers).2.accepted.count true =
      k.sumBanks fun bank => (k.takes offers bank).toList.length := by
  have banks : (k.step offers).2.accepted.length = k.banks.length := by
    have entries : (k.step offers).2.accepted =
        (k.evaluate.pushes offers).map Option.isSome := rfl
    rw [entries, List.length_map, Evaluation.pushes, length_mapEntries, evaluate, List.length_map]
  rw [List.count, countP_eq_sum_map, sum_map_eq_sum_range, banks]
  refine Finset.sum_congr rfl fun bank inRange => ?_
  rw [accepted_step, List.getElem?_eq_getElem (Finset.mem_range.1 inRange)]
  dsimp only
  cases k.takes offers bank <;> rfl

/-- **Banks answer as they issue**: a strobe that follows a kind of commands is counted as they
are. -/
theorem countP_responses_step (k : Controller) (offers : List (Option BankRequest))
    (kind : Command → Bool) {strobe : BankResponse → Bool}
    (follows : ∀ issued, strobe (.ofCommand issued) = issued.any kind) :
    (k.step offers).2.responses.countP strobe = k.sumBanks (k.issuesCount kind) := by
  have banks : (k.step offers).2.responses.length = k.banks.length := by
    have entries : (k.step offers).2.responses =
        mapEntries Evaluation.response false k.evaluate.banks k.evaluate.decision.accepted := rfl
    rw [entries, length_mapEntries, evaluate, List.length_map]
  rw [countP_eq_sum_map, sum_map_eq_sum_range, banks]
  refine Finset.sum_congr rfl fun bank inRange => ?_
  rw [responses_step, List.getElem?_eq_getElem (Finset.mem_range.1 inRange), Option.map_some,
    Option.elim_some, follows, issuesCount]
  cases k.issues bank with
  | none => rfl
  | some command => cases ofKind : kind command <;> simp [ofKind]

/-- **A balance of single banks holds of all of them.** What a quantity of the machines grows by and
what it shrinks by in a cycle add up over the banks. -/
theorem sum_banks_step (k : Controller) (offers : List (Option BankRequest))
    (quantity : BankMachine → Nat) (grows shrinks : Nat → Nat)
    (balance : ∀ (bank : Nat) (m : BankMachine), k.banks[bank]? = some m →
      quantity (m.commit k.refreshRequest (k.accepts bank) (k.takes offers bank)) + shrinks bank =
        quantity m + grows bank) :
    ((k.step offers).1.banks.map quantity).sum + k.sumBanks shrinks =
      (k.banks.map quantity).sum + k.sumBanks grows := by
  rw [sum_map_eq_sum_range, sum_map_eq_sum_range, length_banks_step, sumBanks, sumBanks,
    ← Finset.sum_add_distrib, ← Finset.sum_add_distrib]
  refine Finset.sum_congr rfl fun bank inRange => ?_
  have found := List.getElem?_eq_getElem (Finset.mem_range.1 inRange)
  rw [getElem?_banks_step, found]
  exact balance bank _ found

/-- Outside the hands of the refresher nothing concerns the whole memory, so that maintenance can be
counted at the refresher. -/
theorem countP_maintenance_step (built : k.BuiltFrom c) (hand : k.Handover)
    (whole : ∀ command, kind command = true → command.isMaintenance = true)
    (offers : List (Option BankRequest)) :
    (k.step offers).2.commands.countP kind = k.refresher.evaluate.command.toList.countP kind := by
  cases shown : k.refresher.evaluate.command with
  | some command => rw [((exclusive built hand).played offers command shown).2]; rfl
  | none =>
    refine List.countP_eq_zero.2 fun command mem ofKind => ?_
    have played := (exclusive built hand).maintained offers command mem (whole command ofKind)
    rw [shown] at played
    cases played

/-! ### The balance of a controller -/

/-- The statistics say what the registers say. The equations of a round hold while none is played,
since a round is counted at its end and its commands along the way. -/
structure Reconciled (c : Config) (k : Controller) : Prop where
  /-- Reads are answered in the cycle in which they are issued. -/
  readsCompleted : k.statistics.readsCompleted = k.statistics.reads
  /-- So are writes. -/
  writesCompleted : k.statistics.writesCompleted = k.statistics.writes
  /-- Requests that were taken are served or queued. -/
  requestsAccepted : k.statistics.requestsAccepted = k.statistics.reads + k.statistics.writes +
    (k.banks.map fun m => m.queue.size).sum
  /-- Rows that were opened are closed or open. -/
  activates : k.statistics.activates = k.statistics.precharges + k.statistics.autoPrecharges +
    k.banks.countP fun m => m.openRow.isSome
  /-- While no round is played, every round has issued what belongs to it. -/
  rounds : k.refresher.state = .idle ∨ k.refresher.state = .waitGrant →
    k.statistics.prechargeAlls = k.refresher.rounds ∧
    k.statistics.refreshes = c.settings.postponing * k.refresher.rounds ∧
    k.statistics.calibrations =
      c.settings.zqcsInterval.elim 0 fun interval => k.refresher.rounds / interval

/-- The count of a kind of commands grows by those of the cycle. -/
theorem counter_step {counter : Statistics → Nat}
    (mem : (counter, kind) ∈ Statistics.commandCounters) (k : Controller)
    (offers : List (Option BankRequest)) :
    counter (k.step offers).1.statistics =
      counter k.statistics + (k.step offers).2.commands.countP kind := by
  have among : (counter, kind) ∈ Statistics.counters := List.mem_append_left _ mem
  refine (Statistics.counter_recordAll among _ _).trans ?_
  simp only [Statistics.commandCounters, List.mem_cons, Prod.mk.injEq, List.not_mem_nil,
    or_false] at mem
  rcases mem with ⟨rfl, -⟩ | ⟨rfl, -⟩ | ⟨rfl, -⟩ | ⟨rfl, -⟩ | ⟨rfl, -⟩ | ⟨rfl, -⟩ | ⟨rfl, -⟩ |
    ⟨rfl, -⟩ <;> rfl

/-- What is counted for whole cycles is counted once, before the commands are. -/
theorem completions_step (k : Controller) (offers : List (Option BankRequest)) :
    (k.step offers).1.statistics.requestsAccepted =
        k.statistics.requestsAccepted + (k.step offers).2.accepted.count true ∧
      (k.step offers).1.statistics.readsCompleted =
        k.statistics.readsCompleted + (k.step offers).2.responses.countP BankResponse.readData ∧
      (k.step offers).1.statistics.writesCompleted = k.statistics.writesCompleted +
        (k.step offers).2.responses.countP BankResponse.writeData := by
  refine ⟨?_, ?_, ?_⟩
  all_goals
    exact Statistics.cycleCounter_recordAll (by simp [Statistics.cycleCounters]) _ _

/-- What a bank issues is what its machine does. -/
theorem issuesCount_eq {bank : Nat} {m : BankMachine} (found : k.banks[bank]? = some m) :
    k.issuesCount kind bank = (m.issue k.refreshRequest (k.accepts bank)).toList.countP kind := by
  rw [issuesCount, issues, found]
  rfl

/-- The requests of a cycle are balanced. -/
theorem size_step (k : Controller) (offers : List (Option BankRequest)) :
    ((k.step offers).1.banks.map fun m => m.queue.size).sum +
        (k.sumBanks (k.issuesCount isRead) + k.sumBanks (k.issuesCount isWrite)) =
      (k.banks.map fun m => m.queue.size).sum + (k.step offers).2.accepted.count true := by
  have columns := Finset.sum_add_distrib (s := Finset.range k.banks.length)
    (f := k.issuesCount isRead) (g := k.issuesCount isWrite)
  rw [count_accepted_step, sumBanks, sumBanks, ← columns]
  refine k.sum_banks_step offers _ _ _ fun bank m found => ?_
  rw [← m.size_commit k.refreshRequest (k.accepts bank) (k.takes offers bank),
    issuesCount_eq found, issuesCount_eq found]
  cases m.issue k.refreshRequest (k.accepts bank) with
  | none => rfl
  | some command => cases command <;> rfl

/-- The open rows of a cycle are balanced. -/
theorem openRow_step (kept : ∀ (bank : Nat) (m : BankMachine), k.banks[bank]? = some m → m.RowsKept)
    (offers : List (Option BankRequest)) :
    ((k.step offers).1.banks.countP fun m => m.openRow.isSome) +
        (k.sumBanks (k.issuesCount prechargesOne) +
          k.sumBanks (k.issuesCount Command.autoPrecharge)) =
      (k.banks.countP fun m => m.openRow.isSome) + k.sumBanks (k.issuesCount isActivate) := by
  have closings := Finset.sum_add_distrib (s := Finset.range k.banks.length)
    (f := k.issuesCount prechargesOne) (g := k.issuesCount Command.autoPrecharge)
  rw [countP_eq_sum_map, countP_eq_sum_map, sumBanks, sumBanks, ← closings]
  refine k.sum_banks_step offers _ _ _ fun bank m found => ?_
  rw [issuesCount_eq found, issuesCount_eq found, issuesCount_eq found]
  exact BankMachine.openRow_commit (kept bank m found) _ _ _

/-- **A cycle keeps the balance of requests**: what is taken is added on one side and what is served
on the other. -/
theorem Reconciled.requests_step (reconciled : k.Reconciled c) (built : k.BuiltFrom c)
    (offers : List (Option BankRequest)) :
    (k.step offers).1.statistics.readsCompleted = (k.step offers).1.statistics.reads ∧
      (k.step offers).1.statistics.writesCompleted = (k.step offers).1.statistics.writes ∧
      (k.step offers).1.statistics.requestsAccepted =
        (k.step offers).1.statistics.reads + (k.step offers).1.statistics.writes +
          ((k.step offers).1.banks.map fun m => m.queue.size).sum := by
  obtain ⟨taken, returned, stored⟩ := completions_step k offers
  have reads := counter_step (by simp [Statistics.commandCounters] :
    (Statistics.reads, isRead) ∈ Statistics.commandCounters) k offers
  have writes := counter_step (by simp [Statistics.commandCounters] :
    (Statistics.writes, isWrite) ∈ Statistics.commandCounters) k offers
  rw [countP_commands_step built fun command h => isSome_bank?_of_isColumn (by simp [isColumn, h])]
    at reads writes
  rw [countP_responses_step k offers isRead fun _ => rfl, reconciled.readsCompleted] at returned
  rw [countP_responses_step k offers isWrite fun _ => rfl, reconciled.writesCompleted] at stored
  have queues := k.size_step offers
  have before := reconciled.requestsAccepted
  exact ⟨returned.trans reads.symm, stored.trans writes.symm, by omega⟩

/-- **A cycle keeps the balance of rows**, bank by bank: an activate adds an open row, and each way
of closing one takes it away. -/
theorem Reconciled.activates_step (reconciled : k.Reconciled c) (built : k.BuiltFrom c)
    (kept : ∀ (bank : Nat) (m : BankMachine), k.banks[bank]? = some m → m.RowsKept)
    (offers : List (Option BankRequest)) :
    (k.step offers).1.statistics.activates =
      (k.step offers).1.statistics.precharges + (k.step offers).1.statistics.autoPrecharges +
        (k.step offers).1.banks.countP fun m => m.openRow.isSome := by
  have opened := counter_step (by simp [Statistics.commandCounters] :
    (Statistics.activates, isActivate) ∈ Statistics.commandCounters) k offers
  have closed := counter_step (by simp [Statistics.commandCounters] :
    (Statistics.precharges, prechargesOne) ∈ Statistics.commandCounters) k offers
  have closedLast := counter_step (by simp [Statistics.commandCounters] :
    (Statistics.autoPrecharges, Command.autoPrecharge) ∈ Statistics.commandCounters) k offers
  rw [countP_commands_step built] at opened closed closedLast
  · have rows := openRow_step kept offers
    have before := reconciled.activates
    omega
  · intro command h
    cases command <;> first | rfl | cases h
  · intro command h
    exact (Bool.and_eq_true_iff.1 h).2
  · intro command h
    cases command <;> first | rfl | cases h

/-! ### Runs -/

/-- The maintenance commands counted so far are those of the rounds so far, the one that is played
included as far as it has come. -/
def MaintenanceTallied (k : Controller) : Prop :=
  k.refresher.Tallied k.statistics.prechargeAlls k.statistics.refreshes
    k.statistics.calibrations

/-- A cycle keeps the maintenance commands tied to the rounds. -/
theorem MaintenanceTallied.step (tallied : k.MaintenanceTallied) (a : c.Accepted)
    (reached : Reachable c k) (offers : List (Option BankRequest)) :
    MaintenanceTallied (k.step offers).1 := by
  have built := reached.builtFrom a
  have hand := reached.handover
  have closed := counter_step (by simp [Statistics.commandCounters] :
    (Statistics.prechargeAlls, prechargesAll) ∈ Statistics.commandCounters) k offers
  have refreshed := counter_step (by simp [Statistics.commandCounters] :
    (Statistics.refreshes, isRefresh) ∈ Statistics.commandCounters) k offers
  have calibrated := counter_step (by simp [Statistics.commandCounters] :
    (Statistics.calibrations, isCalibrate) ∈ Statistics.commandCounters) k offers
  rw [countP_maintenance_step built hand] at closed refreshed calibrated
  · rw [MaintenanceTallied, closed, refreshed, calibrated]
    refine tallied.commit hand.idle_of_disabled (fun on => ?_) ?_ _
    · rw [built.timeline]
      exact RefreshTimeline.exact_new a (built.enabled ▸ on)
    · rw [reached.zqcsInterval_eq]
      exact a.zqcsInterval
  all_goals
    intro command h
    cases command with
    | precharge bank all => cases all <;> first | rfl | cases h
    | _ => first | rfl | cases h

/-- What the counts of maintenance commands say while no round is played. -/
theorem MaintenanceTallied.of_resting (tallied : k.MaintenanceTallied) (a : c.Accepted)
    (reached : Reachable c k)
    (resting : k.refresher.state = .idle ∨ k.refresher.state = .waitGrant) :
    k.statistics.prechargeAlls = k.refresher.rounds ∧
      k.statistics.refreshes = c.settings.postponing * k.refresher.rounds ∧
      k.statistics.calibrations =
        c.settings.zqcsInterval.elim 0 fun interval => k.refresher.rounds / interval := by
  have count : k.refresher.timeline.count = c.settings.postponing := by
    rw [(reached.builtFrom a).timeline]
    exact Refresher.refreshCount_eq a
  have still : ∀ elapsed calibrate, k.refresher.state ≠ .sequence elapsed calibrate := by
    intro elapsed calibrate state
    rw [state] at resting
    rcases resting with idle | waits
    · cases idle
    · cases waits
  have counts := tallied.resting still
  rwa [count, Refresher.calibrationsDone, reached.zqcsInterval_eq] at counts

/-- Nothing is queued and no row is open at first. -/
theorem sum_banks_build (c : Config) :
    ((build c).banks.map fun m => m.queue.size).sum = 0 ∧
      ((build c).banks.countP fun m => m.openRow.isSome) = 0 := by
  have fresh : ∀ m ∈ (build c).banks, m.queue.size = 0 ∧ m.openRow.isSome = false := by
    intro m mem
    obtain ⟨bank, found⟩ := List.mem_iff_getElem?.1 mem
    obtain rfl := eq_new_of_build found
    exact ⟨rfl, rfl⟩
  refine ⟨?_, List.countP_eq_zero.2 fun m mem => by simp [(fresh m mem).2]⟩
  refine List.sum_eq_zero fun n mem => ?_
  obtain ⟨m, here, rfl⟩ := List.mem_map.1 mem
  exact (fresh m here).1

/-- The statistics reconcile in every reachable controller. Induction on the way to it, together
with the maintenance commands of a round that is played. -/
theorem Reachable.reconciled (a : c.Accepted) (reached : Reachable c k) :
    k.Reconciled c ∧ k.MaintenanceTallied := by
  induction reached with
  | build =>
    have tallied : MaintenanceTallied (Controller.build c) := Refresher.tallied_new c
    obtain ⟨queued, rows⟩ := sum_banks_build c
    refine ⟨⟨rfl, rfl, ?_, ?_, tallied.of_resting a .build⟩, tallied⟩
    · rw [queued]
      rfl
    · rw [rows]
      rfl
  | step offers reached ih =>
    obtain ⟨reconciled, tallied⟩ := ih
    have built := reached.builtFrom a
    have after := tallied.step a reached offers
    obtain ⟨returned, stored, taken⟩ := reconciled.requests_step built offers
    exact ⟨⟨returned, stored, taken, reconciled.activates_step built reached.rowsKept offers,
      after.of_resting a (reached.step offers)⟩, after⟩

/-- **The statistics reconcile with the state.** After every run of a controller for an accepted
configuration, whatever was offered to it, what was counted is what the registers say. -/
theorem exists_new_reconciles (accepted : c.validate = .ok ()) :
    ∃ start, Controller.new c = .ok start ∧ ∀ past, (start.run past).1.Reconciled c :=
  ⟨build c, new_of_accepted accepted, fun past =>
    ((reachable_run c past).reconciled (Config.validate_eq_ok_iff.1 accepted)).1⟩

/-- Rounds of four refreshes, every second of which ends with a calibration. -/
def calibratedEverySecond : Config where
  timing := { tZQCS := some 64 }
  settings := { postponing := 4, zqcsInterval := some 2 }

/-- The totals add up as well where a round plays several refreshes and only some of the rounds
calibrate. -/
theorem new_reconciles_of_calibration :
    calibratedEverySecond.validate = .ok () ∧
      ∃ start, Controller.new calibratedEverySecond = .ok start ∧
        ∀ past, (start.run past).1.Reconciled calibratedEverySecond :=
  ⟨by decide, exists_new_reconciles (by decide)⟩

end Controller

end DramScheduler
