import DramScheduler.Proofs.Bank.Commands

/-!
# How a bank comes to rest

While a refresh is requested a bank machine opens no row and moves no data, so nothing arms the
countdowns that keep it from precharging, and every cycle takes one off them. Once they are over
(`BankMachine.Settling`) the machine offers a precharge exactly as long as its row is open, and once
the row is closed it is only the time of the precharge itself that is still to be waited for
(`BankMachine.Resting`). None of this depends on the requests that go on coming in.

## Main results

* `BankMachine.Settling.commit`, `BankMachine.Resting.commit` — a cycle brings the bank closer to
  rest;
* `BankMachine.Settling.offer_eq` — what a settled machine offers;
* `BankMachine.Resting.grantsRefresh` — a machine at rest grants the refresh.
-/

namespace DramScheduler

/-! ### Countdowns -/

/-- What is left of a countdown is no more than an event leaves of it. -/
def Spacing.Bounded (s : Spacing) : Prop :=
  s.remaining ≤ s.spacing - 1

/-- Nothing is left of a countdown at rest. -/
theorem Spacing.bounded_new (spacing : Nat) : (Spacing.new spacing).Bounded :=
  Nat.zero_le _

/-- An event leaves as much as an event leaves, and a cycle without one leaves less. -/
theorem Spacing.Bounded.tick {s : Spacing} (bounded : s.Bounded) (event : Bool) :
    (s.tick event).Bounded := by
  cases event with
  | true => exact Nat.le_refl _
  | false => exact Nat.le_trans (Nat.sub_le _ _) bounded

namespace BankMachine

variable {m : BankMachine} {accepted : Bool} {push : Option BankRequest} {d : Nat}

/-- The countdowns of a machine are no higher than its commands leave them. -/
structure Bounded (m : BankMachine) : Prop where
  writeToPrecharge : m.writeToPrecharge.Bounded
  rowActive : m.rowActive.Bounded
  rowPrecharge : m.rowPrecharge.Bounded

/-- The countdowns of a new machine are over. -/
theorem bounded_new (i : Nat) (c : Config) : (BankMachine.new i c).Bounded :=
  ⟨Spacing.bounded_new _, Spacing.bounded_new _, Spacing.bounded_new _⟩

/-- A clock edge leaves the countdowns within their bounds: each is armed with its spacing at
most. -/
theorem Bounded.commit (bounded : m.Bounded) (refreshRequest accepted : Bool)
    (push : Option BankRequest) : (m.commit refreshRequest accepted push).Bounded :=
  ⟨bounded.writeToPrecharge.tick _, bounded.rowActive.tick _, bounded.rowPrecharge.tick _⟩

/-! ### Waiting until the row may be closed -/

/-- While a refresh is requested a machine issues the precharge of its row or nothing. -/
theorem issue_of_request (m : BankMachine) (accepted : Bool) :
    m.issue true accepted = none ∨ m.issue true accepted = some m.prechargeCommand := by
  cases issued : m.issue true accepted with
  | none => exact .inl rfl
  | some command =>
    cases offers_of_issue issued with
    | column _ quiet => cases quiet
    | close => exact .inr rfl
    | openRow _ quiet => cases quiet

/-- The countdowns to a precharge are not armed while a refresh is requested, since neither a row is
opened nor data written. -/
theorem countdowns_of_request (m : BankMachine) (accepted : Bool) (push : Option BankRequest) :
    (m.commit true accepted push).writeToPrecharge.remaining = m.writeToPrecharge.remaining - 1 ∧
      (m.commit true accepted push).rowActive.remaining = m.rowActive.remaining - 1 := by
  have quiet : (m.issued true accepted).isWrite = false ∧
      (m.issued true accepted).isActivate = false := by
    rw [issued_eq]
    rcases m.issue_of_request accepted with none_issued | closes
    · rw [none_issued]
      exact ⟨rfl, rfl⟩
    · rw [closes]
      exact ⟨rfl, rfl⟩
  rw [commit, quiet.1, quiet.2]
  exact ⟨rfl, rfl⟩

/-- While a refresh is requested a machine parks, unless it has a row to close first. -/
theorem state_of_request (m : BankMachine) (accepted : Bool) (push : Option BankRequest) :
    (m.commit true accepted push).state = .refresh ∨
      m.state = .precharge ∧ ((m.commit true accepted push).state = .precharge ∨
        (m.commit true accepted push).state = .activate) ∨
      m.state = .autoPrecharge ∧ (m.commit true accepted push).state =
        if m.mayPrecharge then .activate else .autoPrecharge := by
  have after : (m.commit true accepted push).state =
      m.nextState true (m.issued true accepted) := rfl
  rw [after, nextState]
  cases m.state with
  | regular => exact .inl rfl
  | precharge =>
    refine .inr (.inl ⟨rfl, ?_⟩)
    dsimp only
    split
    · exact .inr rfl
    · exact .inl rfl
  | autoPrecharge => exact .inr (.inr ⟨rfl, rfl⟩)
  | activate => exact .inl rfl
  | refresh => exact .inl rfl

/-- A number of cycles after a refresh was requested the row of the machine may be closed, if it is
not closed by then. -/
structure Settling (m : BankMachine) (d : Nat) : Prop where
  /-- Written data reaches the array by then. -/
  written : m.writeToPrecharge.remaining ≤ d
  /-- The row has been open for long enough by then. -/
  opened : m.rowActive.remaining ≤ d
  /-- A machine that serves requests stops. -/
  serving : m.state = .regular → 0 < d
  /-- A row that a column command closed is waited for. -/
  closing : m.state = .autoPrecharge →
    m.writeToPrecharge.remaining < d ∧ m.rowActive.remaining < d

/-- A row may be closed once both countdowns are over. -/
theorem mayPrecharge_iff :
    m.mayPrecharge = true ↔ m.writeToPrecharge.remaining = 0 ∧ m.rowActive.remaining = 0 := by
  rw [mayPrecharge, Bool.and_eq_true, Spacing.ready, Spacing.ready, beq_iff_eq, beq_iff_eq]

/-- **A cycle brings the bank closer** to where its row may be closed: it takes one off every
countdown, and none is armed. -/
theorem Settling.commit (settling : m.Settling d) (accepted : Bool) (push : Option BankRequest) :
    (m.commit true accepted push).Settling (d - 1) := by
  obtain ⟨written, opened⟩ := m.countdowns_of_request accepted push
  have states := m.state_of_request accepted push
  refine ⟨?_, ?_, ?_, ?_⟩
  · rw [written]
    exact Nat.sub_le_sub_right settling.written 1
  · rw [opened]
    exact Nat.sub_le_sub_right settling.opened 1
  · intro after
    rw [after] at states
    rcases states with parked | ⟨-, stays | closed⟩ | ⟨-, waits⟩
    · cases parked
    · cases stays
    · cases closed
    · split at waits <;> cases waits
  · intro after
    rw [after] at states
    rcases states with parked | ⟨-, stays | closed⟩ | ⟨before, waits⟩
    · cases parked
    · cases stays
    · cases closed
    · -- one of the countdowns is not over yet, and it takes one cycle less than the bank
      obtain ⟨data, row⟩ := settling.closing before
      split at waits
      · cases waits
      · next early =>
        rw [mayPrecharge_iff] at early
        rw [written, opened]
        omega

namespace Settling

/-- The row of a settled machine may be closed. -/
theorem mayPrecharge (settled : m.Settling 0) : m.mayPrecharge = true :=
  mayPrecharge_iff.2 ⟨Nat.le_zero.1 settled.written, Nat.le_zero.1 settled.opened⟩

/-- A settled machine neither serves requests nor waits for a row that a column command closed. -/
theorem state_cases (settled : m.Settling 0) :
    m.state = .precharge ∨ m.state = .activate ∨ m.state = .refresh := by
  cases state : m.state with
  | regular => exact absurd (settled.serving state) (Nat.lt_irrefl 0)
  | precharge => exact .inl rfl
  | autoPrecharge => exact absurd (settled.closing state).1 (Nat.not_lt_zero _)
  | activate => exact .inr (.inl rfl)
  | refresh => exact .inr (.inr rfl)

/-- **What a settled machine offers**: the precharge of its row, as long as the row is open. Nothing
else is begun while a refresh is asked for. -/
theorem offer_eq (settled : m.Settling 0) (kept : m.RowsKept) :
    m.offer true = if m.openRow.isSome then some m.prechargeCommand else none := by
  have spaced := settled.mayPrecharge
  rw [offer]
  rcases settled.state_cases with state | state | state
  · rw [state, kept.closing state]
    exact if_pos spaced
  · rw [state, kept.closed (.inr state)]
    rfl
  · rw [state]
    dsimp only
    rw [spaced, Bool.and_true]

end Settling

/-! ### Waiting until the row counts as closed -/

/-- A number of cycles later a machine whose row is closed is at rest. -/
structure Resting (m : BankMachine) (d : Nat) : Prop where
  /-- No row is open. -/
  row : m.openRow = none
  /-- The precharge is over by then. -/
  closed : m.rowPrecharge.remaining ≤ d
  /-- A machine that has just closed its row parks. -/
  parked : m.state ≠ .refresh → 0 < d

/-- **A cycle brings the bank closer to rest.** A machine without an open row issues nothing, so
only the time of the precharge is left. -/
theorem Resting.commit (resting : m.Resting d) (settled : m.Settling 0) (kept : m.RowsKept)
    (accepted : Bool) (push : Option BankRequest) :
    (m.commit true accepted push).Resting (d - 1) := by
  have idle : m.issue true accepted = none := by
    rw [issue, settled.offer_eq kept, resting.row]
    cases accepted <;> rfl
  have state : (m.commit true accepted push).state = .refresh := by
    rcases m.state_of_request accepted push with parked | ⟨before, -⟩ | ⟨before, -⟩
    · exact parked
    · have isOpen := kept.closing before
      rw [resting.row] at isOpen
      cases isOpen
    · rcases settled.state_cases with state | state | state <;>
        · rw [state] at before
          cases before
  have begins : m.closesRow (m.issued true accepted) = false := by
    rw [issued_eq, idle, closesRow]
    rcases settled.state_cases with state | state | state <;> rw [state] <;> rfl
  refine ⟨?_, ?_, fun away => absurd state away⟩
  · show m.nextRow (m.issued true accepted) = none
    rw [issued_eq, idle]
    exact resting.row
  · show (m.rowPrecharge.tick (m.closesRow (m.issued true accepted))).remaining ≤ d - 1
    rw [begins, Spacing.tick_false]
    exact Nat.sub_le_sub_right resting.closed 1

/-- **A machine at rest grants the refresh**, since it is parked with its row closed and every
countdown over. -/
theorem Resting.grantsRefresh (resting : m.Resting 0) (settled : m.Settling 0) :
    m.grantsRefresh = true := by
  have parked : m.state = .refresh := by
    by_contra away
    exact Nat.lt_irrefl 0 (resting.parked away)
  exact grantsRefresh_iff.2 ⟨parked, resting.row, beq_iff_eq.2 (Nat.le_zero.1 settled.written),
    beq_iff_eq.2 (Nat.le_zero.1 resting.closed)⟩

end BankMachine

end DramScheduler
