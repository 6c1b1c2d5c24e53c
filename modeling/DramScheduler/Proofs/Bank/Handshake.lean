import DramScheduler.Proofs.Bank.Parking
import DramScheduler.Proofs.Bank.Run

/-!
# A bank makes way for a refresh

A refresh begins once every bank grants it, so a grant is worth nothing if it can be taken back
while another bank is still waited for. While a refresh is requested a bank machine offers nothing
but the precharge of its row. The row of a machine is closed by its precharge, so there is at most
one of them, and as no request is served meanwhile, the requests in the queue stay where they are.
A machine that grants the refresh has nothing left to do, and neither what comes in nor what the
bus accepts can change that before the request falls.

## Main results

* `BankMachine.length_issue_add_le` — a precharge takes the row with it;
* `BankMachine.grantsRefresh_commit` — a clock edge keeps the grant;
* `BankMachine.new_yieldsToRefresh` — a bank machine makes way for a refresh after every run.
-/

namespace DramScheduler

namespace BankMachine

variable {m : BankMachine} {held : List BankInput}

/-! ### One cycle -/

/-- A machine that is asked to refresh precharges its row or offers nothing. -/
theorem offer_of_request {command : Command} (offered : m.offer true = some command) :
    command = m.prechargeCommand := by
  rcases m.issue_of_request true with idle | closes
  · cases offered.symm.trans idle
  · exact Option.some.inj (offered.symm.trans closes)

/-- There is a row to precharge. -/
theorem isSome_openRow_of_issue (kept : m.RowsKept) {accepted : Bool} {command : Command}
    (issued : m.issue true accepted = some command) : m.openRow.isSome = true := by
  cases offers_of_issue issued with
  | column _ quiet => cases quiet
  | close state =>
    rcases state with state | ⟨-, row⟩
    · exact kept.closing state
    · exact row
  | openRow _ quiet => cases quiet

/-- **A precharge takes the row with it**: of the open row and the commands issued, there is no more
after the cycle than before. -/
theorem length_issue_add_le (kept : m.RowsKept) (accepted : Bool) (push : Option BankRequest) :
    (m.issue true accepted).toList.length + (m.commit true accepted push).openRow.toList.length ≤
      m.openRow.toList.length := by
  have after : (m.commit true accepted push).openRow = m.nextRow (m.issued true accepted) := rfl
  rw [after, issued_eq]
  rcases m.issue_of_request accepted with idle | closes
  · rw [idle]
    exact Nat.le_of_eq (Nat.zero_add _)
  · obtain ⟨row, isOpen⟩ := Option.isSome_iff_exists.1 (isSome_openRow_of_issue kept closes)
    rw [closes, isOpen]
    exact Nat.le_refl 1

/-- Requests that are not served stay in the queue, and what is taken comes after them. -/
theorem toList_queue_of_request (m : BankMachine) (accepted : Bool) (push : Option BankRequest) :
    (m.commit true accepted push).queue.toList = m.queue.toList ++ push.toList := by
  have queue : (m.commit true accepted push).queue =
      m.queue.commit (consumes (m.issued true accepted)) push := rfl
  have kept : consumes (m.issued true accepted) = false := by
    refine consumes_of_rows fun command issued => ?_
    rcases m.issue_of_request accepted with idle | closes
    · cases idle.symm.trans issued
    · obtain rfl := Option.some.inj (closes.symm.trans issued)
      rfl
  rw [queue, kept, RequestQueue.toList_commit, if_neg Bool.false_ne_true]

/-- **A clock edge keeps the grant**, whatever comes in and whatever the bus accepts: countdowns
that are over stay so, and nothing arms them while the bank is parked. -/
theorem grantsRefresh_commit (grants : m.grantsRefresh = true) (accepted : Bool)
    (push : Option BankRequest) : (m.commit true accepted push).grantsRefresh = true := by
  rw [grantsRefresh_iff] at grants ⊢
  obtain ⟨parked, row, written, closed⟩ := grants
  have idle : m.issued true accepted = .nop := by
    rw [issued, offer, parked, row]
    cases accepted <;> rfl
  have rests : ∀ {s : Spacing}, s.ready = true → (s.tick false).ready = true := by
    intro s ready
    rw [Spacing.ready, beq_iff_eq] at ready ⊢
    rw [Spacing.tick_false, ready]
  refine ⟨?_, ?_, ?_, ?_⟩
  · show m.nextState true (m.issued true accepted) = .refresh
    rw [nextState, parked]
    rfl
  · show m.nextRow (m.issued true accepted) = none
    rw [idle]
    exact row
  · show (m.writeToPrecharge.tick (m.issued true accepted).isWrite).ready = true
    rw [idle]
    exact rests written
  · show (m.rowPrecharge.tick (m.closesRow (m.issued true accepted))).ready = true
    rw [idle, closesRow, parked]
    exact rests closed

/-! ### While the request is held -/

/-- A refresh is requested in every cycle of a run. -/
def Requested (held : List BankInput) : Prop :=
  ∀ input ∈ held, input.refreshRequest = true

/-- If a refresh is requested in every cycle, it is so in the first and in the rest. -/
theorem Requested.cons {input : BankInput} {rest : List BankInput}
    (requested : Requested (input :: rest)) : input.refreshRequest = true ∧ Requested rest :=
  List.forall_mem_cons.1 requested

/-- At most the precharge of the row that is open is issued. Induction on the cycles, the open row
being what is used up. -/
theorem length_commands_le (kept : m.RowsKept) (requested : Requested held) :
    (m.commands held).length ≤ m.openRow.toList.length := by
  induction held generalizing m with
  | nil => exact Nat.zero_le _
  | cons input rest ih =>
    obtain ⟨now, later⟩ := requested.cons
    have step := length_issue_add_le kept (!input.stall) (m.takes input)
    have rest := ih (kept.commit true (!input.stall) (m.takes input)) later
    rw [commands_cons, issues, next_eq, now, List.length_append]
    omega

/-- The requests of the queue stay, and those that come in are put behind them. -/
theorem toList_queue_run (requested : Requested held) :
    (m.run held).queue.toList = m.queue.toList ++ m.requests held := by
  induction held generalizing m with
  | nil => exact (List.append_nil _).symm
  | cons input rest ih =>
    obtain ⟨now, later⟩ := requested.cons
    have step : (m.next input).queue.toList = m.queue.toList ++ (m.takes input).toList := by
      rw [next_eq, now, toList_queue_of_request]
    rw [show m.run (input :: rest) = (m.next input).run rest from rfl, ih later, step,
      requests_cons, List.append_assoc]

/-- The grant stays for as long as the request does. -/
theorem grantsRefresh_run (grants : m.grantsRefresh = true) (requested : Requested held) :
    (m.run held).grantsRefresh = true :=
  List.foldlRecOn (motive := fun now => now.grantsRefresh = true) held next grants
    fun now granted input mem => by
      rw [next_eq, requested input mem]
      exact grantsRefresh_commit granted _ _

/-- What a bank machine does from any cycle on in which a refresh is requested, until the request
falls. -/
structure YieldsToRefresh (bank : Nat) (start : BankMachine) : Prop where
  /-- It offers nothing but the precharge of its row. -/
  offers : ∀ past command, ((start.run past).evaluate true).command = some command →
    command = .precharge bank false
  /-- It issues one command at most. -/
  commands : ∀ past held, Requested held → ((start.run past).commands held).length ≤ 1
  /-- No request is served or changed; those that come in are put at the end. -/
  queue : ∀ past held, Requested held →
    (start.run (past ++ held)).queue.toList =
      (start.run past).queue.toList ++ (start.run past).requests held
  /-- Once the refresh is granted it stays granted, and the bank is at rest. -/
  granted : ∀ past held, Requested held →
    ((start.run past).evaluate true).refreshGrant = true →
      ((start.run (past ++ held)).evaluate true).refreshGrant = true ∧
      (start.run (past ++ held)).state = .refresh ∧
      (start.run (past ++ held)).openRow = none ∧
      (start.run (past ++ held)).writeToPrecharge.ready = true ∧
      (start.run (past ++ held)).rowPrecharge.ready = true

/-- **A bank machine makes way for a refresh**, whatever it was doing before and whatever its
configuration asks for. -/
theorem new_yieldsToRefresh (c : Config) (bank : Nat) :
    (BankMachine.new bank c).YieldsToRefresh bank where
  offers past command offered := by
    have built : ((new bank c).run past).BuiltFrom c bank :=
      run_induction (fun _ _ _ _ before => before.commit) (builtFrom_new bank c) past
    rw [offer_of_request offered, prechargeCommand, built.index]
  commands past held requested := by
    have kept : ((new bank c).run past).RowsKept :=
      run_induction (fun _ refreshRequest accepted push before =>
        before.commit refreshRequest accepted push) (rowsKept_new bank c) past
    refine Nat.le_trans (length_commands_le kept requested) ?_
    cases ((new bank c).run past).openRow with
    | none => exact Nat.zero_le 1
    | some row => exact Nat.le_refl 1
  queue past held requested := by
    rw [run_append]
    exact toList_queue_run requested
  granted past held requested grants := by
    have stays : ((new bank c).run (past ++ held)).grantsRefresh = true := by
      rw [run_append]
      exact grantsRefresh_run grants requested
    exact ⟨stays, grantsRefresh_iff.1 stays⟩

end BankMachine

end DramScheduler
