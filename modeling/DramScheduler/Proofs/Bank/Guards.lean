import DramScheduler.Proofs.Bank.Commands
import DramScheduler.Proofs.Memory.Trace

/-!
# The countdowns of a bank

Each of the five countdowns of a bank machine guards one kind of the bank's commands. Four of
them are armed by the commands they guard. The fifth, from a precharge to an activate, is also
armed when a row that a column command closes counts as closed, and no command is issued in
that cycle: the memory has to work the time out for itself (`Trace.closingTime`). Until then
the machine waits in a state of its own, and this is what the last field of
`BankMachine.Guarded` records.

## Main definitions

* `Trace.closingTime` — when the precharge begins that ends a column command;
* `BankMachine.Guarded` — the countdowns of a machine guard the trace of its bank.

## Main results

* `BankMachine.Guarded.commit` — they go on to guard it over a clock edge.
-/

namespace DramScheduler

open Command

/-- When the precharge begins that ends a column command of the given cycle: the row has been open
for long enough by then, and written data has reached the array. The memory has to work this out,
since no command is issued then. -/
def Trace.closingTime (T : Trace) (c : Config) (bank s : Nat) : Nat :=
  max s (max
    (((T.last? (toBank bank isActivate) (s + 1)).map (· + c.timing.tRAS.getD 0)).getD 0)
    (((T.last? (toBank bank isWrite) (s + 1)).map (· + c.writeToPrecharge)).getD 0))

namespace Trace

variable {T : Trace} {commands : List Command} {c : Config} {bank s : Nat}

/-- When the precharge begins does not change later: only commands up to the cycle itself are looked
at. -/
theorem closingTime_concat (T : Trace) (commands : List Command) (c : Config) (bank : Nat)
    (h : s < T.length) : closingTime (T ++ [commands]) c bank s = T.closingTime c bank s := by
  rw [closingTime, last?_concat T commands _ h, last?_concat T commands _ h]
  rfl

/-- The precharge has begun once the distances from the activate and the write are over. -/
theorem closingTime_le {n : Nat} (later : s ≤ n)
    (opened : ∀ r, T.At (toBank bank isActivate) r → r + c.timing.tRAS.getD 0 ≤ n)
    (written : ∀ w, T.At (toBank bank isWrite) w → w + c.writeToPrecharge ≤ n) :
    T.closingTime c bank s ≤ n := by
  have first : ((T.last? (toBank bank isActivate) (s + 1)).map
      (· + c.timing.tRAS.getD 0)).getD 0 ≤ n := by
    cases found : T.last? (toBank bank isActivate) (s + 1) with
    | none => exact Nat.zero_le n
    | some r => exact opened r (at_of_last? found).2
  have second : ((T.last? (toBank bank isWrite) (s + 1)).map
      (· + c.writeToPrecharge)).getD 0 ≤ n := by
    cases found : T.last? (toBank bank isWrite) (s + 1) with
    | none => exact Nat.zero_le n
    | some w => exact written w (at_of_last? found).2
  exact Nat.max_le.2 ⟨later, Nat.max_le.2 ⟨first, second⟩⟩

end Trace

namespace BankMachine

variable {m : BankMachine} {refreshRequest accepted : Bool} {push : Option BankRequest}
  {c : Config} {T : Trace} {commands : List Command}

/-- The countdowns of a machine guard the commands to its bank, and so does the state in which
it waits for a row to be closed. -/
structure Guarded (m : BankMachine) (c : Config) (T : Trace) : Prop where
  /-- From one activate to the next. -/
  rowCycle : m.rowCycle.Guards T (toBank m.index isActivate)
  /-- From an activate to a precharge. -/
  rowActive : m.rowActive.Guards T (toBank m.index isActivate)
  /-- From an activate to a column command. -/
  rowToColumn : m.rowToColumn.Guards T (toBank m.index isActivate)
  /-- From a write to a precharge. -/
  writeToPrecharge : m.writeToPrecharge.Guards T (toBank m.index isWrite)
  /-- From a precharge of the bank to an activate. -/
  rowPrecharge : m.rowPrecharge.Guards T (toBank m.index isPrecharge)
  /-- From the precharge at the end of a column command to an activate. -/
  closing : ∀ s, T.At (toBank m.index Command.autoPrecharge) s → m.state = .autoPrecharge ∨
    T.closingTime c m.index s + m.rowPrecharge.spacing ≤ T.length + m.rowPrecharge.remaining

/-- Nothing has been issued yet that there would be a distance to. -/
theorem guarded_nil (m : BankMachine) (c : Config) : m.Guarded c [] where
  rowCycle := .nil _ _
  rowActive := .nil _ _
  rowToColumn := .nil _ _
  writeToPrecharge := .nil _ _
  rowPrecharge := .nil _ _
  closing _ h := absurd h Trace.not_at_nil

/-- Once a machine may precharge, the precharges at the ends of its column commands have
begun. -/
theorem Guarded.closingTime_le {i : Nat} (guarded : m.Guarded c T) (built : m.BuiltFrom c i)
    (spaced : m.mayPrecharge) {s : Nat} (h : T.At (toBank m.index Command.autoPrecharge) s) :
    T.closingTime c m.index s ≤ T.length := by
  simp only [mayPrecharge, Bool.and_eq_true] at spaced
  refine Trace.closingTime_le (Nat.le_of_lt (Trace.lt_length_of_at h)) ?_ ?_
  · intro r opened
    rw [← built.rowActive]
    exact guarded.rowActive.of_ready spaced.2 opened
  · intro w written
    rw [← built.writeToPrecharge]
    exact guarded.writeToPrecharge.of_ready spaced.1 written

/-- The row of a bank begins to be closed only when it may be, by a command or without one. -/
theorem mayPrecharge_of_closesRow
    (h : m.closesRow (m.issued refreshRequest accepted) = true) : m.mayPrecharge := by
  rw [closesRow, Bool.or_eq_true, issued_eq] at h
  rcases h with command | settled
  · cases issued : m.issue refreshRequest accepted with
    | none =>
      rw [issued] at command
      cases command
    | some command' =>
      rw [issued] at command
      cases offers_of_issue issued with
      | column => simp at command
      | close _ spaced => exact spaced
      | openRow => cases command
  · simp only [Bool.and_eq_true] at settled
    exact settled.2

/-- A machine leaves the state in which it waits for a row to be closed in the cycle in which
the precharge begins. -/
theorem closesRow_of_autoPrecharge (state : m.state = .autoPrecharge) (push : Option BankRequest) :
    (m.commit refreshRequest accepted push).state = .autoPrecharge ∨
      m.closesRow (m.issued refreshRequest accepted) = true := by
  cases spaced : m.mayPrecharge with
  | false =>
    left
    show m.nextState refreshRequest _ = .autoPrecharge
    simp [nextState, state, spaced]
  | true =>
    right
    simp [closesRow, state, spaced]

/-- A column command that closes its row leads to the state in which the machine waits for
it. -/
theorem state_commit_of_autoPrecharge {command : Command}
    (issued : m.issue refreshRequest accepted = some command) (closes : command.autoPrecharge)
    (push : Option BankRequest) :
    (m.commit refreshRequest accepted push).state = .autoPrecharge := by
  have edge := m.edge_commit refreshRequest accepted push
  rw [issued] at edge
  generalize (m.commit refreshRequest accepted push).state = after at edge ⊢
  generalize (m.commit refreshRequest accepted push).openRow = row at edge
  cases edge with
  | serve _ _ _ _ _ stays => simp [stays] at closes
  | serveLast => rfl
  | close => cases closes
  | openRow => cases closes
  | closeParked => cases closes

/-- The commands to the bank of a machine in a cycle are the one that it issues, or none. -/
theorem exists_issue_of_any_toBank
    (own : commands.filter (fun command => command.bank? == some m.index) =
      (m.issue refreshRequest accepted).toList) {kind : Command → Bool}
    (now : commands.any (toBank m.index kind) = true) :
    ∃ command, m.issue refreshRequest accepted = some command ∧ kind command = true := by
  rw [any_toBank, own] at now
  simpa using now

/-- Over a clock edge, the precharge at the end of an earlier column command is still waited for, or
its countdown is armed or runs on. -/
theorem Guarded.closing_commit {i : Nat} (guarded : m.Guarded c T) (built : m.BuiltFrom c i)
    (push : Option BankRequest) {s : Nat}
    (before : T.At (toBank m.index Command.autoPrecharge) s) :
    (m.commit refreshRequest accepted push).state = .autoPrecharge ∨
      T.closingTime c m.index s + m.rowPrecharge.spacing ≤
        T.length + 1 + (m.commit refreshRequest accepted push).rowPrecharge.remaining := by
  have ticked : (m.commit refreshRequest accepted push).rowPrecharge =
      m.rowPrecharge.tick (m.closesRow (m.issued refreshRequest accepted)) := rfl
  rw [ticked]
  cases closes : m.closesRow (m.issued refreshRequest accepted) with
  | true =>
    right
    have begun := guarded.closingTime_le built (mayPrecharge_of_closesRow closes) before
    rw [Spacing.tick_true]
    omega
  | false =>
    rcases guarded.closing s before with waiting | covered
    · left
      rcases closesRow_of_autoPrecharge waiting push with waits | begins
      · exact waits
      · rw [closes] at begins
        cases begins
    · right
      rw [Spacing.tick_false]
      omega

/-- **The countdowns go on to guard the trace over a clock edge.** The commands to the bank in
the cycle that ends are the one that the machine issues, or none. -/
theorem Guarded.commit {i : Nat} (guarded : m.Guarded c T) (built : m.BuiltFrom c i)
    (own : commands.filter (fun command => command.bank? == some m.index) =
      (m.issue refreshRequest accepted).toList)
    (push : Option BankRequest) :
    (m.commit refreshRequest accepted push).Guarded c (T ++ [commands]) := by
  have armed : ∀ {kind : Command → Bool}, commands.any (toBank m.index kind) = true →
      kind (m.issued refreshRequest accepted) = true := by
    intro kind now
    obtain ⟨command, issued, ofKind⟩ := exists_issue_of_any_toBank own now
    rw [issued_eq, issued]
    exact ofKind
  refine ⟨guarded.rowCycle.tick armed, guarded.rowActive.tick armed,
    guarded.rowToColumn.tick armed, guarded.writeToPrecharge.tick armed,
    guarded.rowPrecharge.tick fun h => by rw [closesRow, armed h, Bool.true_or], ?_⟩
  intro s h
  rcases Trace.at_concat_iff.1 h with before | ⟨rfl, now⟩
  · have index : (m.commit refreshRequest accepted push).index = m.index := rfl
    have spacing : (m.commit refreshRequest accepted push).rowPrecharge.spacing =
        m.rowPrecharge.spacing := Spacing.spacing_tick _ _
    rw [index, spacing, Trace.closingTime_concat _ _ _ _ (Trace.lt_length_of_at before),
      List.length_append, List.length_singleton]
    exact guarded.closing_commit built push before
  · left
    obtain ⟨command, issued, closes⟩ := exists_issue_of_any_toBank own now
    exact state_commit_of_autoPrecharge issued closes push

end BankMachine

end DramScheduler
