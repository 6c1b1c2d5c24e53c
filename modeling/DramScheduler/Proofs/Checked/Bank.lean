import DramScheduler.Bank.Machine
import DramScheduler.Proofs.Checked.Address

/-!
# A bank machine without faults

All that a bank machine computes is where the addresses of its requests lie. It does so in three
places: for the command that it offers, for the request after it, whose row decides whether the row
is closed, and once more at the edge for the row that it seeks. None of them depends on the state of
the machine, so the widths of its split are all that is asked for. The countdowns stop at zero by
themselves.

## Main results

* `BankMachine.evaluateM_eq_ok`, `BankMachine.commitM_eq_ok` — both halves of a cycle.
-/

namespace DramScheduler.BankMachine

open Checked

variable {m : BankMachine}

/-! ### Outputs -/

/-- Whether a column command to the given row should close it. The row of the next request is worked
out only if it can make a difference. -/
def closesAfterM (m : BankMachine) (row : Nat) : Checked Bool :=
  match m.autoPrecharge, m.queue.next? with
  | true, some next => return (← m.split.rowM next.address) != row
  | _, _ => return false

/-- The column command that serves a request from the given row, which was worked out before. -/
def columnCommandM (m : BankMachine) (request : BankRequest) (row : Nat) : Checked Command := do
  let close ← m.closesAfterM row
  let col ← m.split.colM request.address
  return if request.isWrite then .write m.index col close else .read m.index col close

/-- The command of this cycle. In the states that are not listed no address is looked at, so nothing
can fail there. -/
def offerM (m : BankMachine) (refreshRequest : Bool) : Checked (Option Command) :=
  match m.state, m.queue.current with
  | .regular, some request =>
    if refreshRequest || !m.rowToColumn.ready then return none
    else do
      let row ← m.split.rowM request.address
      if m.openRow == some row then return some (← m.columnCommandM request row)
      else return none
  | .activate, some request =>
    if refreshRequest || !(m.rowCycle.ready && m.rowPrecharge.ready) then return none
    else return some (.activate m.index (← m.split.rowM request.address))
  | _, _ => return m.offer refreshRequest

/-- All outputs of a cycle; only the command takes any arithmetic. -/
def evaluateM (m : BankMachine) (refreshRequest : Bool) : Checked BankOutputs := do
  return {
    ready := m.ready
    locked := m.locked
    command := ← m.offerM refreshRequest
    refreshGrant := m.grantsRefresh }

section

variable (narrow : m.split.wordBits + m.split.burstBits ≤ 32)

include narrow

/-- Whether a row should be closed is decided without faults. -/
theorem closesAfterM_eq_ok (row : Nat) : m.closesAfterM row = .ok (m.closesAfter row) := by
  rw [closesAfterM, closesAfter]
  cases m.autoPrecharge with
  | false => rfl
  | true =>
    cases m.queue.next? with
    | none => rfl
    | some next =>
      dsimp only
      rw [RowSplit.rowM_eq_ok narrow]
      rfl

/-- A column command is made without faults, given the row of its request. -/
theorem columnCommandM_eq_ok (request : BankRequest) :
    m.columnCommandM request (m.rowOf request) = .ok (m.columnCommand request) := by
  rw [columnCommandM, closesAfterM_eq_ok narrow, ok_bind, RowSplit.colM_eq_ok narrow]
  rfl

/-- The command of a cycle is made without faults in every state. -/
theorem offerM_eq_ok (refreshRequest : Bool) :
    m.offerM refreshRequest = .ok (m.offer refreshRequest) := by
  rw [offerM]
  split
  · next request state current =>
    rw [offer, state, current]
    dsimp only
    split
    · rfl
    · rw [RowSplit.rowM_eq_ok narrow, ok_bind]
      change (if m.openRow == some (m.rowOf request) then
        do return some (← m.columnCommandM request (m.rowOf request)) else return none) = _
      rw [columnCommandM_eq_ok narrow]
      split <;> rfl
  · next request state current =>
    rw [offer, state, current]
    dsimp only
    split
    · rfl
    · rw [RowSplit.rowM_eq_ok narrow]
      rfl
  · rfl

/-- **What a bank shows in a cycle** is worked out without faults. An address is split only where a
request is in front of the queue. -/
theorem evaluateM_eq_ok (refreshRequest : Bool) :
    m.evaluateM refreshRequest = .ok (m.evaluate refreshRequest) := by
  rw [evaluateM, offerM_eq_ok narrow]
  rfl

end

/-! ### The clock edge -/

/-- The command issued in a cycle, worked out once more at its edge. -/
def issuedM (m : BankMachine) (refreshRequest accepted : Bool) : Checked Command :=
  if accepted then return (← m.offerM refreshRequest).getD .nop else return .nop

/-- Where a machine goes that serves requests and issued no column command. -/
def seekRowM (m : BankMachine) : Checked BankState :=
  match m.queue.current, m.openRow with
  | some request, some row =>
    return if row != (← m.split.rowM request.address) then .precharge else .regular
  | some _, none => return .activate
  | none, _ => return .regular

/-- The state after the edge; only a machine that serves requests seeks a row. -/
def nextStateM (m : BankMachine) (refreshRequest : Bool) (issued : Command) :
    Checked BankState :=
  if m.state == .regular && !refreshRequest && !issued.isColumn then m.seekRowM
  else return m.nextState refreshRequest issued

/-- One clock edge. The command that was issued and the row that is sought are worked out for it
once more. -/
def commitM (m : BankMachine) (refreshRequest accepted : Bool) (push : Option BankRequest) :
    Checked BankMachine := do
  let issued ← m.issuedM refreshRequest accepted
  return { m with
    state := ← m.nextStateM refreshRequest issued
    openRow := m.nextRow issued
    queue := m.queue.commit (consumes issued) push
    writeToPrecharge := m.writeToPrecharge.tick issued.isWrite
    rowCycle := m.rowCycle.tick issued.isActivate
    rowActive := m.rowActive.tick issued.isActivate
    rowToColumn := m.rowToColumn.tick issued.isActivate
    rowPrecharge := m.rowPrecharge.tick (m.closesRow issued) }

section

variable (narrow : m.split.wordBits + m.split.burstBits ≤ 32)

include narrow

/-- The command issued is worked out without faults at the edge, as it was before. -/
theorem issuedM_eq_ok (refreshRequest accepted : Bool) :
    m.issuedM refreshRequest accepted = .ok (m.issued refreshRequest accepted) := by
  cases accepted with
  | false => rfl
  | true =>
    rw [issuedM, if_pos rfl, offerM_eq_ok narrow]
    rfl

/-- The row that a machine seeks is worked out without faults. -/
theorem seekRowM_eq_ok : m.seekRowM = .ok m.seekRow := by
  rw [seekRowM, seekRow]
  cases m.queue.current with
  | none => rfl
  | some request =>
    cases m.openRow with
    | none => rfl
    | some row =>
      dsimp only
      rw [RowSplit.rowM_eq_ok narrow]
      rfl

/-- The state after the edge is worked out without faults. -/
theorem nextStateM_eq_ok (refreshRequest : Bool) (issued : Command) :
    m.nextStateM refreshRequest issued = .ok (m.nextState refreshRequest issued) := by
  rw [nextStateM]
  split
  · next seeks =>
    simp only [Bool.and_eq_true, beq_iff_eq, Bool.not_eq_true'] at seeks
    obtain ⟨⟨state, quiet⟩, other⟩ := seeks
    rw [seekRowM_eq_ok narrow, nextState, state, quiet, other]
    rfl
  · rfl

/-- **The clock edge of a bank** has no faults, whatever state the machine is in. Only splitting an
address could fail, and its fields lie within the bits of one. -/
theorem commitM_eq_ok (refreshRequest accepted : Bool) (push : Option BankRequest) :
    m.commitM refreshRequest accepted push = .ok (m.commit refreshRequest accepted push) := by
  rw [commitM, issuedM_eq_ok narrow, ok_bind, nextStateM_eq_ok narrow]
  rfl

end

end DramScheduler.BankMachine
