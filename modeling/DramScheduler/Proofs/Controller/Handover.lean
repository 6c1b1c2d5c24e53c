import DramScheduler.Proofs.Bus.Moves
import DramScheduler.Proofs.Controller.Cycle

/-!
# Handing the bus over to the refresher

Three kinds of machines take part in a refresh round. The refresher asks for the bus and then
plays its timeline, the bank machines park with their rows closed, and the bus goes to the
refresher once all of them have. There is no acknowledgement: each machine moves on by what it
sees of the others in a cycle. `Controller.Handover` is what keeps them in step.

## Main results

* `Controller.Reachable.handover` — the machines are in step in every reachable controller;
* `Controller.bank?_of_mem_commands`, `Controller.command_of_refresh` — what is on the bus
  outside a round, and what during one;
* `Controller.bank_commands_step` — what is on the bus for a single bank.
-/

namespace DramScheduler

/-! ### The single machines -/

/-- A refresher that is switched off stays where it is; any other goes to its next state. -/
theorem Refresher.state_commit (r : Refresher) (granted : Bool) :
    (r.commit granted).state = if r.enabled then r.nextState granted else r.state := by
  rw [Refresher.commit]
  split <;> rfl

/-- A round begins when the bus is granted, and otherwise goes on from cycle to cycle. -/
theorem Refresher.sequence_cases {r : Refresher} {granted calibrate : Bool} {elapsed : Nat}
    (off : r.enabled = false → r.state = .idle)
    (after : (r.commit granted).state = .sequence elapsed calibrate) :
    (r.state = .waitGrant ∧ granted = true ∧ elapsed = 1) ∨
      ∃ before, r.state = .sequence before calibrate ∧ r.isLast before calibrate = false ∧
        elapsed = before + 1 := by
  rw [state_commit] at after
  cases on : r.enabled with
  | false =>
    rw [on, if_neg Bool.false_ne_true, off on] at after
    cases after
  | true =>
    rw [on, if_pos rfl, nextState] at after
    cases state : r.state with
    | idle =>
      rw [state] at after
      dsimp only at after
      split at after <;> cases after
    | waitGrant =>
      rw [state] at after
      dsimp only at after
      split at after
      · next grant =>
        cases after
        exact .inl ⟨rfl, grant, rfl⟩
      · cases after
    | sequence before ends =>
      rw [state] at after
      dsimp only at after
      split at after
      · cases after
      · next more =>
        cases after
        exact .inr ⟨before, rfl, by simpa using more, rfl⟩

/-- A refresh is requested from the waiting refresher and from a round that is not in its last
cycle. -/
theorem Refresher.evaluate_valid_iff {r : Refresher} :
    r.evaluate.valid = true ↔ r.state ≠ .idle ∧ r.evaluate.last = false := by
  rw [Refresher.evaluate]
  cases r.state <;> simp

/-- A parked machine with its row closed stays so while the refresh is requested. -/
theorem BankMachine.parked_commit {m : BankMachine} {accepted : Bool} {push : Option BankRequest}
    (state : m.state = .refresh) (row : m.openRow = none) :
    (m.commit true accepted push).state = .refresh ∧
      (m.commit true accepted push).openRow = none := by
  suffices stays : ∀ {command after row'}, m.Edge true command after row' →
      after = .refresh ∧ row' = none from stays (m.edge_commit true accepted push)
  intro command after row' edge
  cases edge with
  | park before => simp [state] at before
  | serve before => simp [state] at before
  | serveLast before => simp [state] at before
  | seek before => simp [state] at before
  | close before => simp [state] at before
  | holdClose before => simp [state] at before
  | settle before => simp [state] at before
  | holdSettle before => simp [state] at before
  | openRow before => simp [state] at before
  | holdOpen before => simp [state] at before
  | closeParked _ isOpen => simp [row] at isOpen
  | holdParked => exact ⟨rfl, row⟩

namespace Controller

variable {c : Config} {k : Controller} {i : Nat} {m : BankMachine}

/-! ### When the bus changes hands -/

/-- The bus is handed over once a refresh is requested and every bank there is grants it. -/
theorem goToRefresh_iff : k.evaluate.decision.goToRefresh = true ↔
    k.refresher.evaluate.valid = true ∧ k.evaluate.banks.isEmpty = false ∧
      ∀ outputs ∈ k.evaluate.banks, outputs.refreshGrant = true := by
  show (k.refresher.evaluate.valid && !k.evaluate.banks.isEmpty &&
    k.evaluate.banks.all BankOutputs.refreshGrant) = true ↔ _
  rw [Bool.and_eq_true, Bool.and_eq_true, Bool.not_eq_true', List.all_eq_true, and_assoc]

/-- Every bank is at rest when the bus is handed over. -/
theorem grantsRefresh_of_goToRefresh (rest : k.evaluate.decision.goToRefresh = true)
    (found : k.banks[i]? = some m) : m.grantsRefresh = true :=
  (goToRefresh_iff.1 rest).2.2 _ (List.mem_map_of_mem (List.mem_of_getElem? found))

/-- The refresher gives the bus back in the last cycle of a round, and in no other. -/
theorem last_of_released {offers : List (Option BankRequest)} (state : k.bus.state = .refresh)
    (after : (k.step offers).1.bus.state ≠ .refresh) : k.refresher.evaluate.last = true := by
  by_contra more
  rw [bus_step] at after
  exact after (CommandBus.nextState_eq_refresh_iff.2 (.inr ⟨state, Bool.not_eq_true _ ▸ more⟩))

/-! ### The machines in step -/

/-- The bus, the refresher and the bank machines agree on whether a round is on, although none of
them tells the others. -/
structure Handover (k : Controller) : Prop where
  /-- A refresher that is switched off does nothing. -/
  idle_of_disabled : k.refresher.enabled = false → k.refresher.state = .idle
  /-- The bus is handed over on request only. -/
  requested : k.bus.state = .refresh → k.refresher.state ≠ .idle
  /-- The bus is handed over once every bank is at rest. -/
  parked : k.bus.state = .refresh → ∀ (i : Nat) (m : BankMachine), k.banks[i]? = some m →
    m.state = .refresh ∧ m.openRow = none
  /-- A round runs only while the refresher has the bus. -/
  holds : ∀ elapsed calibrate, k.refresher.state = .sequence elapsed calibrate →
    k.bus.state = .refresh

/-- While the bus is not in the hands of the refresher, no round is played. -/
theorem Handover.not_sequence (h : k.Handover) (outside : k.bus.state ≠ .refresh) (elapsed : Nat)
    (calibrate : Bool) : k.refresher.state ≠ .sequence elapsed calibrate :=
  fun running => outside (h.holds elapsed calibrate running)

/-- Rounds are played only where refreshes are switched on. -/
theorem Handover.refreshEnabled (h : k.Handover) (built : k.BuiltFrom c)
    (busy : k.refresher.state ≠ .idle) : c.settings.refreshEnabled = true := by
  rw [← built.enabled]
  by_contra off
  exact busy (h.idle_of_disabled (Bool.not_eq_true _ ▸ off))

/-- At rest no round is on. -/
theorem handover_build (c : Config) : Handover (build c) where
  idle_of_disabled _ := rfl
  requested state := by cases state
  parked state := by cases state
  holds _ _ state := by cases state

/-- The bus is in the hands of the refresher after a cycle only if a refresh is requested in it
and every bank is at rest. -/
theorem Handover.of_bus_step {offers : List (Option BankRequest)} (h : k.Handover)
    (state : (k.step offers).1.bus.state = .refresh) :
    k.refresher.evaluate.valid = true ∧ ∀ (i : Nat) (m : BankMachine), k.banks[i]? = some m →
      m.state = .refresh ∧ m.openRow = none := by
  rw [bus_step] at state
  rcases CommandBus.nextState_eq_refresh_iff.1 state with ⟨-, go⟩ | ⟨before, last⟩
  · refine ⟨(goToRefresh_iff.1 go).1, ?_⟩
    intro i m found
    have grants := grantsRefresh_of_goToRefresh go found
    obtain ⟨parked, row, -⟩ := BankMachine.grantsRefresh_iff.1 grants
    exact ⟨parked, row⟩
  · exact ⟨Refresher.evaluate_valid_iff.2 ⟨h.requested before, last⟩, h.parked before⟩

/-- **A cycle keeps the machines in step.** A parked machine stays parked as long as the refresh is
requested, and the request falls in the cycle in which the bus is given back. -/
theorem Handover.step (h : k.Handover) (offers : List (Option BankRequest)) :
    Handover (k.step offers).1 where
  idle_of_disabled := by
    intro off
    have before : k.refresher.enabled = false := by
      rw [refresher_step, Refresher.commit] at off
      split at off <;> simpa using off
    rw [refresher_step, Refresher.state_commit, before]
    exact h.idle_of_disabled before
  requested := by
    intro state
    obtain ⟨valid, -⟩ := h.of_bus_step state
    obtain ⟨busy, notLast⟩ := Refresher.evaluate_valid_iff.1 valid
    rw [refresher_step, Refresher.state_commit]
    split
    · rw [Refresher.nextState]
      cases before : k.refresher.state with
      | idle => exact absurd before busy
      | waitGrant =>
        dsimp only
        split <;> simp
      | sequence elapsed calibrate =>
        rw [Refresher.evaluate, before] at notLast
        simp [show k.refresher.isLast elapsed calibrate = false from notLast]
    · exact busy
  parked := by
    intro state i m found
    obtain ⟨valid, rest⟩ := h.of_bus_step state
    obtain ⟨before, earlier, rfl⟩ := exists_of_banks_step found
    rw [refreshRequest, valid]
    obtain ⟨parked, closed⟩ := rest i before earlier
    exact BankMachine.parked_commit parked closed
  holds := by
    intro elapsed calibrate state
    rw [refresher_step] at state
    rw [bus_step]
    refine CommandBus.nextState_eq_refresh_iff.2 (.inr ?_)
    rw [Refresher.evaluate]
    rcases Refresher.sequence_cases h.idle_of_disabled state with
      ⟨before, granted, -⟩ | ⟨now, before, more, -⟩
    · rw [before]
      exact ⟨eq_of_beq granted, rfl⟩
    · rw [before]
      exact ⟨h.holds now calibrate before, more⟩

/-- The machines are in step in every reachable controller. Induction on the way to it. -/
theorem Reachable.handover (reached : Reachable c k) : k.Handover := by
  induction reached with
  | build => exact handover_build c
  | step offers _ ih => exact ih.step offers

/-- The open rows fit the states of their machines in every reachable controller. -/
theorem Reachable.rowsKept (reached : Reachable c k) (i : Nat) (m : BankMachine)
    (found : k.banks[i]? = some m) : m.RowsKept :=
  reached.bank_induction (BankMachine.rowsKept_new · c) (fun _ _ _ _ kept => kept.commit _ _ _)
    found

/-! ### What is on the bus -/

/-- A command on the bus outside a round is a command of one bank. -/
theorem bank?_of_mem_commands (built : k.BuiltFrom c) (state : k.bus.state ≠ .refresh)
    {offers : List (Option BankRequest)} {command : Command}
    (mem : command ∈ (k.step offers).2.commands) :
    ∃ (i : Nat) (m : BankMachine), k.banks[i]? = some m ∧ command.bank? = some i ∧
      m.Offers k.refreshRequest command := by
  obtain ⟨i, m, found, issued⟩ := exists_issues_of_mem_commands built state mem
  have offered := offers_of_issues found issued
  refine ⟨i, m, found, ?_, offered⟩
  rw [offered.bank?, (built.bank i m found).index]

/-- Outside a round no command is to all banks. -/
theorem isSome_bank?_of_mem_commands (built : k.BuiltFrom c) (state : k.bus.state ≠ .refresh)
    {offers : List (Option BankRequest)} {command : Command}
    (mem : command ∈ (k.step offers).2.commands) : command.bank?.isSome := by
  obtain ⟨i, -, -, addressed, -⟩ := bank?_of_mem_commands built state mem
  exact Option.isSome_of_eq_some addressed

end Controller

/-- The commands of a round: they concern all banks and move no data. -/
theorem RefreshTimeline.command_cases {t : RefreshTimeline} {elapsed : Nat} {calibrate : Bool}
    {command : Command} (h : t.command elapsed calibrate = some command) :
    elapsed = 1 ∧ command = .precharge 0 true ∨ elapsed ≠ 1 ∧ command = .refresh none ∨
      elapsed ≠ 1 ∧ command = .calibrate := by
  rw [RefreshTimeline.command] at h
  split at h
  · next first => exact .inl ⟨first, (Option.some.inj h).symm⟩
  · next later =>
    split at h
    · rw [Option.ite_none_right_eq_some] at h
      exact .inr (.inl ⟨later, (Option.some.inj h.2).symm⟩)
    · rw [Option.ite_none_right_eq_some] at h
      exact .inr (.inr ⟨later, (Option.some.inj h.2).symm⟩)

/-- A refresher issues commands only in a round. -/
theorem Refresher.evaluate_command_eq_some_iff {r : Refresher} {command : Command} :
    r.evaluate.command = some command ↔
      ∃ elapsed calibrate, r.state = .sequence elapsed calibrate ∧
        r.timeline.command elapsed calibrate = some command := by
  rw [Refresher.evaluate]
  cases r.state with
  | idle => simp
  | waitGrant => simp
  | sequence elapsed calibrate =>
    constructor
    · intro issued
      exact ⟨elapsed, calibrate, rfl, issued⟩
    · rintro ⟨_, _, same, issued⟩
      cases same
      exact issued

namespace Controller

variable {c : Config} {k : Controller}

/-- A command on the bus during a round is the precharge of all banks in its first cycle, or a
refresh or calibration later on. -/
theorem command_of_refresh (built : k.BuiltFrom c) (state : k.bus.state = .refresh)
    {offers : List (Option BankRequest)} {command : Command}
    (mem : command ∈ (k.step offers).2.commands) :
    (∃ calibrate, k.refresher.state = .sequence 1 calibrate) ∧ command = .precharge 0 true ∨
      command = .refresh none ∨ command = .calibrate := by
  rw [commands_step_of_refresh built state, Option.mem_toList] at mem
  obtain ⟨elapsed, calibrate, running, timed⟩ := Refresher.evaluate_command_eq_some_iff.1 mem
  rcases RefreshTimeline.command_cases timed with ⟨rfl, rfl⟩ | ⟨-, rfl⟩ | ⟨-, rfl⟩
  · exact .inl ⟨⟨calibrate, running⟩, rfl⟩
  · exact .inr (.inl rfl)
  · exact .inr (.inr rfl)

/-- There is one command at most in a cycle of a round. -/
theorem length_commands_of_refresh (built : k.BuiltFrom c) (state : k.bus.state = .refresh)
    (offers : List (Option BankRequest)) : (k.step offers).2.commands.length ≤ 1 := by
  rw [commands_step_of_refresh built state]
  exact Option.length_toList_le

/-- **The memory sees of a bank the command that it issues**, and no other, in every cycle. In a
round there is none of either. -/
theorem bank_commands_step (built : k.BuiltFrom c) (offers : List (Option BankRequest))
    (i : Nat) :
    (k.step offers).2.commands.filter (fun command => command.bank? == some i) =
      (k.issues i).toList := by
  by_cases state : k.bus.state = .refresh
  · rw [issues_of_refresh built state, Option.toList_none, List.filter_eq_nil_iff]
    intro command mem
    rcases command_of_refresh built state mem with ⟨-, rfl⟩ | rfl | rfl <;> simp [Command.bank?]
  · exact filter_commands_step built state offers i

end Controller

end DramScheduler
