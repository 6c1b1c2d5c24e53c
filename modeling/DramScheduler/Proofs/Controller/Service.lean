import DramScheduler.Proofs.Controller.RowSafety
import DramScheduler.Proofs.Memory.Trace
import Mathlib.Data.List.Forall2

/-!
# Requests are served once, and in order

A bank takes a request, keeps it in its queue, and in the end moves its data by one column
command. The machine finds out twice what it is about to do, once when it offers the command
and once at the clock edge, and in between the bus decides. `BankMachine.serve_commit` says that
both agree: what leaves the queue at an edge is what a burst of the cycle has moved.

Over a run, the requests that a bank took are those it has served and those in its queue, in
this order, and the bursts of the bank are those of the served ones.

## Main results

* `BankMachine.serve_commit` — what leaves the queue is served by a burst of the cycle;
* `Controller.serve_step` — the same, for a bank of a controller;
* `Controller.serve_cases` — a cycle serves one request at most, in all banks together;
* `Controller.exists_new_servesInOrder` — every run serves in order.
-/

namespace DramScheduler

open Command

/-- A queue is pending while there is anything in it. -/
theorem RequestQueue.pending_iff {q : RequestQueue} : q.pending = true ↔ q.toList ≠ [] := by
  rw [pending, toList, Fifo.isEmpty_eq]
  cases q.current <;> simp

/-- Every column command is to a single bank. -/
theorem Command.isSome_bank?_of_isColumn {command : Command} (h : command.isColumn = true) :
    command.bank?.isSome = true := by
  cases command <;> first | rfl | cases h

/-- The place of a request of a bank in the memory: the bank, and the row and the column that its
address is split into. -/
def BankRequest.location (request : BankRequest) (split : RowSplit) (bank : Nat) : Location :=
  ⟨bank, split.row request.address, split.col request.address⟩

/-- A burst serves a request of a bank. -/
def Burst.Serves (split : RowSplit) (bank : Nat) (request : BankRequest) (burst : Burst) : Prop :=
  burst.Moves request.isWrite (request.location split bank)

/-! ### One clock edge of a bank -/

namespace BankMachine

variable {m : BankMachine} {refreshRequest accepted : Bool}

/-- What a machine offers for the request in front serves it, as long as the row of the request is
open. -/
theorem columnCommand_serves {request : BankRequest} {rows : OpenRows}
    (hit : rows m.index = some (m.rowOf request)) :
    rows.bursts [m.columnCommand request] =
        [⟨m.columnCommand request, some (m.rowOf request)⟩] ∧
      Burst.Serves m.split m.index request
        ⟨m.columnCommand request, some (m.rowOf request)⟩ := by
  have own : (m.columnCommand request).bank? = some m.index := by
    simp only [columnCommand]
    split <;> rfl
  refine ⟨?_, ⟨m.closesAfter (m.rowOf request), rfl⟩, rfl⟩
  rw [OpenRows.bursts, own, Option.bind_some, hit, isColumn_columnCommand]
  rfl

/-- **What leaves the queue is served by a burst of the cycle.** Either nothing leaves and there is
no burst, or the request in front leaves with the one burst. -/
theorem serve_commit (refreshRequest accepted : Bool) {rows : OpenRows}
    (same : rows m.index = m.openRow) (push : Option BankRequest) :
    ∃ done rest, m.queue.toList = done ++ rest ∧
      (m.commit refreshRequest accepted push).queue.toList = rest ++ push.toList ∧
      List.Forall₂ (Burst.Serves m.split m.index) done
        (rows.bursts (m.issue refreshRequest accepted).toList) := by
  have queue : (m.commit refreshRequest accepted push).queue =
      m.queue.commit (consumes (m.issued refreshRequest accepted)) push := rfl
  rw [queue, RequestQueue.toList_commit, issued_eq]
  cases issued : m.issue refreshRequest accepted with
  | none => exact ⟨[], m.queue.toList, rfl, rfl, .nil⟩
  | some command =>
    cases offers_of_issue issued with
    | @column request _ _ _ front hit =>
      obtain ⟨burst, serves⟩ := columnCommand_serves (same.trans hit)
      refine ⟨[request], m.queue.lookahead.toList, ?_, ?_, ?_⟩
      · rw [RequestQueue.toList, front]
        rfl
      · rw [Option.getD_some, consumes, isColumn_columnCommand, if_pos rfl]
      · rw [Option.toList_some, burst]
        exact .cons serves .nil
    | close => exact ⟨[], m.queue.toList, rfl, rfl, .nil⟩
    | openRow => exact ⟨[], m.queue.toList, rfl, rfl, .nil⟩

end BankMachine

namespace Controller

variable {c : Config} {k : Controller} {bank : Nat} {m : BankMachine}

/-! ### One cycle -/

/-- The bursts of a bank in a cycle are those of the command that it issues, whatever the other
banks issue beside it. -/
theorem bursts_step (built : k.BuiltFrom c) (offers : List (Option BankRequest)) (bank : Nat) :
    (k.openRows.bursts (k.step offers).2.commands).filter
        (fun burst => burst.command.bank? == some bank) =
      k.openRows.bursts (k.issues bank).toList := by
  by_cases state : k.bus.state = .refresh
  · have rowsOnly : ∀ command ∈ (k.step offers).2.commands, command.isColumn = false := by
      intro command mem
      rcases command_of_refresh built state mem with ⟨-, rfl⟩ | rfl | rfl <;> rfl
    rw [OpenRows.bursts_eq_nil rowsOnly, issues_of_refresh built state]
    rfl
  · rw [OpenRows.bursts_filter fun command mem => isSome_bank?_of_mem_commands built state mem,
      bank_commands_step built]

/-- There is at most one burst in a cycle, since the bus chooses one column command at most. -/
theorem length_bursts_step_le_one (built : k.BuiltFrom c) (offers : List (Option BankRequest)) :
    (k.openRows.bursts (k.step offers).2.commands).length ≤ 1 := by
  rw [OpenRows.length_bursts]
  by_cases state : k.bus.state = .refresh
  · exact Nat.le_trans (List.length_filter_le _ _) (length_commands_of_refresh built state offers)
  · exact CommandBus.length_columns_le_one built.placed state

/-- The requests in the queue of a bank, oldest first, and none where there is no bank. -/
def queued (k : Controller) (bank : Nat) : List BankRequest :=
  (k.banks[bank]?.map fun m => m.queue.toList).getD []

/-- A bank with requests is one that there is. -/
theorem exists_of_queued (busy : k.queued bank ≠ []) : ∃ m, k.banks[bank]? = some m := by
  rw [queued] at busy
  cases found : k.banks[bank]? with
  | none => simp [found] at busy
  | some m => exact ⟨m, rfl⟩

/-- A controller is idle while no bank has requests. -/
theorem idle_iff : k.idle = true ↔ ∀ bank, k.queued bank = [] := by
  rw [idle, List.all_eq_true]
  constructor
  · intro rest bank
    by_contra busy
    obtain ⟨m, found⟩ := exists_of_queued busy
    rw [queued, found, Option.map_some, Option.getD_some, ← ne_eq,
      ← RequestQueue.pending_iff] at busy
    have dry := rest m (List.mem_of_getElem? found)
    rw [RequestQueue.isEmpty, busy] at dry
    cases dry
  · intro dry m mem
    obtain ⟨bank, found⟩ := List.mem_iff_getElem?.1 mem
    have here := dry bank
    rw [queued, found, Option.map_some, Option.getD_some] at here
    rw [RequestQueue.isEmpty, Bool.not_eq_true', ← Bool.not_eq_true, RequestQueue.pending_iff,
      not_not]
    exact here

/-- **What leaves the queue of a bank is served by a burst of the cycle**, and what the bank takes
goes to the end of its queue. -/
theorem serve_step (built : k.BuiltFrom c) (offers : List (Option BankRequest)) (bank : Nat) :
    ∃ done rest, k.queued bank = done ++ rest ∧
      (k.step offers).1.queued bank = rest ++ (k.takes offers bank).toList ∧
      List.Forall₂ (Burst.Serves c.rowSplit bank) done
        ((k.openRows.bursts (k.step offers).2.commands).filter
          fun burst => burst.command.bank? == some bank) := by
  rw [bursts_step built, queued, queued, getElem?_banks_step, issues]
  cases found : k.banks[bank]? with
  | none =>
    have nothing : k.takes offers bank = none := by simp [takes, ready, found]
    rw [nothing]
    exact ⟨[], [], rfl, rfl, .nil⟩
  | some m =>
    have own := built.bank bank m found
    have same : k.openRows m.index = m.openRow := by
      rw [own.index, openRows, found]
      rfl
    have served := BankMachine.serve_commit k.refreshRequest (k.accepts bank) same
      (k.takes offers bank)
    rw [own.split, own.index] at served
    exact served

/-- A cycle without a burst serves nothing, and a cycle with one serves the oldest request of one
bank. All other queues only grow. -/
theorem serve_cases (built : k.BuiltFrom c) (offers : List (Option BankRequest)) :
    (k.openRows.bursts (k.step offers).2.commands = [] ∧
      ∀ bank, (k.step offers).1.queued bank =
        k.queued bank ++ (k.takes offers bank).toList) ∨
    ∃ burst bank request rest, k.openRows.bursts (k.step offers).2.commands = [burst] ∧
      k.queued bank = request :: rest ∧
      (k.step offers).1.queued bank = rest ++ (k.takes offers bank).toList ∧
      Burst.Serves c.rowSplit bank request burst ∧
      ∀ other, other ≠ bank → (k.step offers).1.queued other =
        k.queued other ++ (k.takes offers other).toList := by
  have quiet : ∀ other, (k.openRows.bursts (k.step offers).2.commands).filter
      (fun burst => burst.command.bank? == some other) = [] →
        (k.step offers).1.queued other = k.queued other ++ (k.takes offers other).toList := by
    intro other none_here
    obtain ⟨done, rest, front, after, now⟩ := serve_step built offers other
    rw [none_here] at now
    obtain rfl := List.forall₂_nil_right_iff.1 now
    rw [front, after]
    rfl
  have few := length_bursts_step_le_one built offers
  cases bursts : k.openRows.bursts (k.step offers).2.commands with
  | nil =>
    left
    exact ⟨rfl, fun bank => quiet bank (by rw [bursts]; rfl)⟩
  | cons burst others =>
    right
    rw [bursts, List.length_cons] at few
    obtain rfl : others = [] := List.eq_nil_of_length_eq_zero (by omega)
    have column := (OpenRows.command_mem_of_mem_bursts
      (show burst ∈ k.openRows.bursts _ by rw [bursts]; exact List.mem_cons_self)).2
    obtain ⟨bank, addressed⟩ := Option.isSome_iff_exists.1 (isSome_bank?_of_isColumn column)
    obtain ⟨done, rest, front, after, now⟩ := serve_step built offers bank
    rw [bursts, List.filter_cons, if_pos (by simp [addressed])] at now
    obtain ⟨request, none_left, serves, nothing, rfl⟩ := List.forall₂_cons_right_iff.1 now
    obtain rfl := List.forall₂_nil_right_iff.1 nothing
    refine ⟨burst, bank, request, rest, rfl, front, after, serves, ?_⟩
    intro other away
    refine quiet other ?_
    rw [bursts, List.filter_cons, if_neg (by simp [addressed, Ne.symm away])]
    rfl

/-! ### Runs -/

/-- The requests that a bank took in the course of a run, oldest first. -/
def requestsTaken (seen : List (List (Option BankRequest) × ControllerCycle)) (bank : Nat) :
    List BankRequest :=
  seen.filterMap fun cycle =>
    if cycle.2.accepted.getD bank false then cycle.1.getD bank none else none

/-- One more cycle adds the request that the bank takes in it, if there is one. -/
theorem requestsTaken_concat (seen : List (List (Option BankRequest) × ControllerCycle))
    (k : Controller) (offers : List (Option BankRequest)) (bank : Nat) :
    requestsTaken (seen ++ [(offers, (k.step offers).2)]) bank =
      requestsTaken seen bank ++ (k.takes offers bank).toList := by
  have last : (if (k.step offers).2.accepted.getD bank false then offers.getD bank none
      else none) = k.takes offers bank := by
    rw [getD_accepted_step, takes]
    split
    · cases offers.getD bank none <;> rfl
    · rfl
  rw [requestsTaken, List.filterMap_append, List.filterMap_cons, last]
  cases k.takes offers bank <;> rfl

/-- Every bank serves its requests in order, loses none and serves none twice, and its strobes come
with its bursts. -/
structure ServesInOrder (start : Controller) (c : Config) : Prop where
  /-- The bursts of a bank are those of the requests it took, oldest first, apart from the ones
  that are still in its queue. -/
  served : ∀ (past : List (List (Option BankRequest))) (bank : Nat), bank < c.banks →
    ∃ (m : BankMachine) (n : Nat), (start.run past).1.banks[bank]? = some m ∧
      n + m.queue.size = (requestsTaken (start.history past) bank).length ∧
      List.Forall₂ (Burst.Serves c.rowSplit bank)
        ((requestsTaken (start.history past) bank).take n)
        ((OpenRows.allClosed.bursts (start.trace past).flatten).filter
          fun burst => burst.command.bank? == some bank)
  /-- The strobes of a bank tell whether one of its bursts is on the bus. -/
  strobes : ∀ (past : List (List (Option BankRequest))) (offers : List (Option BankRequest))
    (bank : Nat), bank < c.banks →
    ((start.run past).1.step offers).2.responses[bank]? =
      some ⟨((start.run past).1.step offers).2.commands.any (toBank bank isWrite),
        ((start.run past).1.step offers).2.commands.any (toBank bank isRead)⟩

/-- The requests that a bank took are those it has served and those in its queue. The rows go with
it, as a burst is placed by the row that is open. -/
structure Served (c : Config) (k : Controller)
    (seen : List (List (Option BankRequest) × ControllerCycle)) : Prop where
  /-- The memory has the rows that the machines have. -/
  rows :
    OpenRows.allClosed.replay (seen.map fun cycle => cycle.2.commands).flatten = k.openRows
  /-- The bursts of a bank are those of the requests it served. -/
  perBank : ∀ bank, ∃ served, requestsTaken seen bank = served ++ k.queued bank ∧
    List.Forall₂ (Burst.Serves c.rowSplit bank) served
      ((OpenRows.allClosed.bursts (seen.map fun cycle => cycle.2.commands).flatten).filter
        fun burst => burst.command.bank? == some bank)

/-- The queues are empty at first. -/
theorem queued_build (c : Config) (bank : Nat) : (build c).queued bank = [] := by
  rw [queued]
  cases found : (build c).banks[bank]? with
  | none => rfl
  | some m =>
    obtain rfl := eq_new_of_build found
    rfl

/-- Nothing has been taken and nothing served at first. -/
theorem served_build (c : Config) : Served c (build c) [] where
  rows := (openRows_build c).symm
  perBank bank := ⟨[], (queued_build c bank).symm, .nil⟩

/-- **A cycle keeps the account.** The requests that it serves are put at the end of the served
ones, and those that it takes at the end of the queue. -/
theorem Served.step {seen : List (List (Option BankRequest) × ControllerCycle)}
    (served : Served c k seen) (built : k.BuiltFrom c) (hand : k.Handover)
    (offers : List (Option BankRequest)) :
    Served c (k.step offers).1 (seen ++ [(offers, (k.step offers).2)]) := by
  have commands : ((seen ++ [(offers, (k.step offers).2)]).map fun cycle =>
      cycle.2.commands).flatten =
      (seen.map fun cycle => cycle.2.commands).flatten ++ (k.step offers).2.commands := by
    simp
  refine ⟨?_, ?_⟩
  · rw [commands, OpenRows.replay_append, served.rows, openRows_step built hand]
  · intro bank
    obtain ⟨before, taken, earlier⟩ := served.perBank bank
    obtain ⟨done, rest, front, after, now⟩ := serve_step built offers bank
    refine ⟨before ++ done, ?_, ?_⟩
    · rw [requestsTaken_concat, taken, front, after]
      simp only [List.append_assoc]
    · rw [commands, OpenRows.bursts_append, List.filter_append, served.rows]
      exact List.rel_append earlier now

/-- The strobes of a bank follow its commands on the bus, in the cycle in which they are issued. -/
theorem strobes_step (built : k.BuiltFrom c) (found : k.banks[bank]? = some m)
    (offers : List (Option BankRequest)) :
    (k.step offers).2.responses[bank]? =
      some ⟨(k.step offers).2.commands.any (toBank bank isWrite),
        (k.step offers).2.commands.any (toBank bank isRead)⟩ := by
  rw [responses_step, found, any_toBank, any_toBank, bank_commands_step built]
  cases k.issues bank <;> simp [BankResponse.ofCommand]

/-- **Every bank serves its requests once, and in order.** A controller for an accepted
configuration loses no request that it took, repeats none and swaps none. -/
theorem exists_new_servesInOrder (accepted : c.validate = .ok ()) :
    ∃ start, Controller.new c = .ok start ∧ start.ServesInOrder c := by
  have a := Config.validate_eq_ok_iff.1 accepted
  refine ⟨build c, new_of_accepted accepted, ?_, ?_⟩
  · intro past bank inRange
    obtain ⟨reached, served⟩ := run_induction (P := Served c) (served_build c)
      (fun _ _ offers reached served => served.step (reached.builtFrom a) reached.handover offers)
      past
    obtain ⟨m, found⟩ : ∃ m, ((build c).run past).1.banks[bank]? = some m :=
      ⟨_, List.getElem?_eq_getElem
        (Nat.lt_of_lt_of_eq inRange (reached.builtFrom a).length_banks.symm)⟩
    obtain ⟨done, taken, bursts⟩ := served.perBank bank
    rw [queued, found, Option.map_some, Option.getD_some] at taken
    refine ⟨m, done.length, found, ?_, ?_⟩
    · rw [taken, List.length_append, RequestQueue.length_toList]
    · rw [taken, List.take_left, trace_eq_map_history]
      exact bursts
  · intro past offers bank inRange
    have built := (reachable_run c past).builtFrom a
    exact strobes_step built (List.getElem?_eq_getElem
      (Nat.lt_of_lt_of_eq inRange built.length_banks.symm)) offers

/-- The queues of the banks look ahead by a single request. -/
def shortQueue : Config where
  settings := { bufferDepth := 1 }

/-- A queue that looks ahead by one request, the least there is, is accepted. -/
theorem new_servesInOrder_of_short_queue :
    shortQueue.validate = .ok () ∧
      ∃ start, Controller.new shortQueue = .ok start ∧ start.ServesInOrder shortQueue :=
  ⟨by decide, exists_new_servesInOrder (by decide)⟩

end Controller

end DramScheduler
