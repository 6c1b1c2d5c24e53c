import DramScheduler.Proofs.Bus.Permits

/-!
# The bus on its own

Three things are read off a decision: the bank machines read which of their commands were accepted,
the memory reads the phases, and the arbiters of the choosers read whether to go on. Whatever the
banks and the refresher show, these agree: a command is accepted if it is on one phase, and a
chooser goes on if what it shows is on a phase. Where a command may stand depends on its kind, on
the direction of the bus and on the layout of the phases, which is that of the configuration after
every run (`CommandBus.LaidOut`).

## Main results

* `CommandBus.accepted_iff_count` — a command is accepted if it is on one phase;
* `CommandBus.columnReady_iff`, `CommandBus.rowReady_iff` — a chooser goes on if its choice is on a
  phase;
* `CommandBus.phase_cases` — where the commands of a cycle stand;
* `CommandBus.run_agrees` — acceptance and issue agree after every run.
-/

namespace DramScheduler

open Command

/-- No bank has its command taken, and no chooser goes on for it. -/
structure Decision.Idle (d : Decision) (banks : List BankOutputs) : Prop where
  /-- No bank is accepted. -/
  accepted : d.accepted = List.replicate banks.length false
  /-- The column chooser stays where it is. -/
  columnReady : d.columnReady = false
  /-- So does the row chooser. -/
  rowReady : d.rowReady = false

/-- What is on some phase is what is among the commands of the cycle. -/
theorem Decision.mem_issued_iff {d : Decision} {command : Command} :
    some command ∈ d.issued ↔ command ∈ d.commands := by
  simp [Decision.commands]

namespace CommandBus

variable {c : Config} {b : CommandBus} {banks : List BankOutputs} {refresh : RefresherOutputs}
  {command : Command} {d : Direction} {i p : Nat}

/-! ### Acceptance and issue -/

/-- A bank that is accepted offers a command. -/
theorem exists_offered_of_accepted (placed : b.WellPlaced)
    (told : (b.evaluate banks refresh).accepted.getD i false = true) :
    ∃ command, banks[i]?.bind BankOutputs.command = some command := by
  obtain ⟨chosen, mem, rfl⟩ := (accepted_iff placed).1 told
  exact ⟨_, offered_of_mem_choices mem⟩

/-- **A command is accepted if it is on one phase**, and it never is on two. Each bank offers
commands to itself alone, so a command can be told from those of the other banks. -/
theorem accepted_iff_count (placed : b.WellPlaced) (state : b.state ≠ .refresh)
    (own : ∀ i command, banks[i]?.bind BankOutputs.command = some command →
      command.bank? = some i)
    (offered : banks[i]?.bind BankOutputs.command = some command) :
    (b.evaluate banks refresh).accepted.getD i false = true ↔
      (b.evaluate banks refresh).issued.count (some command) = 1 := by
  have counted : (b.evaluate banks refresh).issued.count (some command) =
      (b.granted banks refresh i).toList.count command := by
    rw [← filter_commands placed state own i,
      List.count_filter (by rw [own i command offered, beq_self_eq_true]), Decision.commands,
      List.count_filterMap]
    rfl
  rw [counted, granted, offered]
  cases (b.evaluate banks refresh).accepted.getD i false <;> simp

/-- Outside a refresh round the commands on the phases are those that the choosers take. -/
theorem mem_issued_iff (placed : b.WellPlaced) (state : b.state ≠ .refresh) :
    some command ∈ (b.evaluate banks refresh).issued ↔
      ∃ chosen, ((b.evaluate banks refresh).taken .column = some chosen ∨
        (b.evaluate banks refresh).taken .row = some chosen) ∧ chosen.command = command := by
  rw [Decision.mem_issued_iff, (commands_perm placed state).mem_iff, List.mem_map,
    Decision.choices]
  simp only [List.mem_append, Option.mem_toList]

/-- Only what is shown can be admitted. -/
theorem exists_of_admits {choice : Option Choice} (admitted : b.admits refresh choice = true) :
    ∃ chosen, choice = some chosen := by
  rw [admits, Bool.and_eq_true, Option.any_eq_true] at admitted
  obtain ⟨chosen, shown, -⟩ := admitted.2
  exact ⟨chosen, shown⟩

/-- **The column chooser goes on if its choice is on a phase**, and only then. A choice that the bus
holds back is on no phase, and its arbiter stays where it is. -/
theorem columnReady_iff (placed : b.WellPlaced) (state : b.state ≠ .refresh) :
    (b.evaluate banks refresh).columnReady = true ↔
      ∃ chosen, (b.evaluate banks refresh).column.choice = some chosen ∧
        some chosen.command ∈ (b.evaluate banks refresh).issued := by
  simp only [mem_issued_iff placed state]
  constructor
  · intro ready
    obtain ⟨chosen, shown⟩ := exists_of_admits ready
    exact ⟨chosen, shown, chosen, .inl (by rw [Decision.taken, if_pos ready]; exact shown), rfl⟩
  · rintro ⟨chosen, shown, other, column | row, same⟩
    · rw [Decision.taken, Option.ite_none_right_eq_some] at column
      exact column.1
    · -- the other chooser takes row commands, which this one does not look for beside it
      have kind := isRow_of_taken_row row
      rw [same, not_isRow_of_wanted (taken_row row).1 (shows_of_choice shown).2] at kind
      cases kind

/-- **The row chooser goes on if its choice is on a phase**, and only then, as the column chooser
does. Where there is no row chooser both sides are false. -/
theorem rowReady_iff (placed : b.WellPlaced) (state : b.state ≠ .refresh) :
    (b.evaluate banks refresh).rowReady = true ↔
      ∃ chosen, (b.evaluate banks refresh).row.bind Selection.choice = some chosen ∧
        some chosen.command ∈ (b.evaluate banks refresh).issued := by
  simp only [mem_issued_iff placed state]
  constructor
  · intro ready
    obtain ⟨chosen, shown⟩ := exists_of_admits ready
    exact ⟨chosen, shown, chosen, .inr (by rw [Decision.taken, if_pos ready]; exact shown), rfl⟩
  · rintro ⟨chosen, shown, other, column | row, same⟩
    · obtain ⟨two, -, wanted⟩ := shown_row shown
      have kind := isRow_of_wanted wanted
      rw [← same, not_isRow_of_taken_column two column] at kind
      cases kind
    · rw [Decision.taken, Option.ite_none_right_eq_some] at row
      exact row.1

/-- While no data moves nothing is taken from a bank. -/
theorem idle_of_not_moving (resting : b.state.direction? = none) :
    (b.evaluate banks refresh).Idle banks := by
  have held : ∀ choice, b.admits refresh choice = false := by
    intro choice
    rw [admits, resting]
    rfl
  refine ⟨?_, held _, held _⟩
  have nothing : (b.evaluate banks refresh).taken = fun _ => none :=
    funext fun source => taken_of_not_moving resting source
  rw [accepted_evaluate, nothing, List.eq_replicate_iff]
  simp

/-- A kind that outside a refresh round has one command at most in a cycle has no more in a round,
where the refresher issues alone. -/
theorem length_filter_commands_le_one (placed : b.WellPlaced) {kind : Command → Bool}
    (single : b.state ≠ .refresh →
      ((b.evaluate banks refresh).commands.filter kind).length ≤ 1) :
    ((b.evaluate banks refresh).commands.filter kind).length ≤ 1 := by
  by_cases state : b.state = .refresh
  · rw [commands_of_refresh placed state]
    exact Nat.le_trans (List.length_filter_le _ _) Option.length_toList_le
  · exact single state

/-! ### Phases -/

/-- The phases of a configuration are used as it says, and there is a row chooser if there are
several of them. -/
structure LaidOut (c : Config) (b : CommandBus) : Prop where
  /-- Commands of a cycle do not get into each other's way. -/
  placed : b.WellPlaced
  /-- There are as many phases as the configuration says. -/
  count : b.phases.count = c.phy.phases
  /-- Column commands have the phase that it gives them. -/
  columnPhase : ∀ d, b.phases.columnPhase d = (Phases.new c.phy c.geometry.bankBits).columnPhase d
  /-- So do row commands. -/
  rowPhase : ∀ d, b.phases.rowPhase d = (Phases.new c.phy c.geometry.bankBits).rowPhase d
  /-- Row commands have a chooser of their own if there are several phases. -/
  rowChooser : b.rowChooser.isSome = true ↔ 1 < c.phy.phases

/-- A new bus is laid out as its configuration says. -/
theorem laidOut_new (a : c.Accepted) : (CommandBus.new c).LaidOut c where
  placed := wellPlaced_new a
  count := List.length_replicate
  columnPhase _ := rfl
  rowPhase _ := rfl
  rowChooser := by
    rw [new]
    dsimp only
    split
    · next several => simp [several]
    · next single => simp [single]

/-- A clock edge leaves the layout as it is, so it is that of the configuration after every run. -/
theorem LaidOut.commit (layout : b.LaidOut c) (decision : Decision) (refresh : RefresherOutputs) :
    (b.commit decision refresh).LaidOut c where
  placed := layout.placed.commit decision refresh
  count := (Phases.count_commit _ _).trans layout.count
  columnPhase := layout.columnPhase
  rowPhase := layout.rowPhase
  rowChooser := by
    rw [← layout.rowChooser, CommandBus.commit]
    cases b.rowChooser <;> cases decision.row <;> rfl

/-- While data moves the direction says what is on which phase. -/
theorem sources_of_moving (moving : b.state.direction? = some d) :
    b.sources = b.phases.sources d := by
  rw [sources]
  cases state : b.state with
  | read =>
    rw [state] at moving
    cases moving
    rfl
  | write =>
    rw [state] at moving
    cases moving
    rfl
  | refresh | writeToRead | readToWrite =>
    rw [state] at moving
    cases moving

/-- **Where the commands of a cycle stand**: the column chooser has one phase of the direction, and
the row chooser the other. -/
theorem phase_cases (moving : b.state.direction? = some d)
    (shown : (b.evaluate banks refresh).issued[p]? = some (some command)) :
    p < b.phases.count ∧
      ((p = b.phases.columnPhase d ∧ ∃ chosen,
          (b.evaluate banks refresh).taken .column = some chosen ∧ chosen.command = command) ∨
        p = b.phases.rowPhase d ∧ ∃ chosen,
          (b.evaluate banks refresh).taken .row = some chosen ∧ chosen.command = command) := by
  rw [issued_evaluate, sources_of_moving moving, Phases.sources, List.map_map,
    List.getElem?_map, Option.map_eq_some_iff] at shown
  obtain ⟨n, found, shown⟩ := shown
  obtain ⟨within, number⟩ := List.getElem?_eq_some_iff.1 found
  rw [List.getElem_range] at number
  rw [List.length_range] at within
  subst number
  refine ⟨within, ?_⟩
  rw [Function.comp_apply] at shown
  split at shown
  · next here =>
    rw [if_neg (by simp), Option.map_eq_some_iff] at shown
    exact .inl ⟨here, shown⟩
  · split at shown
    · next here =>
      rw [if_neg (by simp), Option.map_eq_some_iff] at shown
      exact .inr ⟨here, shown⟩
    · simp [Decision.taken] at shown

/-- While the bus turns nothing is on the phases. -/
theorem issued_of_turning (turning : b.state.direction? = none) (state : b.state ≠ .refresh) :
    (b.evaluate banks refresh).issued = List.replicate b.phases.count none := by
  have sources : b.sources = b.phases.noSources := by
    rw [CommandBus.sources]
    cases now : b.state with
    | read | write =>
      rw [now] at turning
      cases turning
    | refresh => exact absurd now state
    | writeToRead | readToWrite => rfl
  rw [issued_evaluate, sources, Phases.noSources, List.map_replicate, if_neg (by simp)]
  rfl

/-- Outside a refresh round commands are on phases only while data moves. -/
theorem exists_direction (state : b.state ≠ .refresh)
    (shown : (b.evaluate banks refresh).issued[p]? = some (some command)) :
    ∃ d, b.state.direction? = some d := by
  cases moving : b.state.direction? with
  | some d => exact ⟨d, rfl⟩
  | none =>
    rw [issued_of_turning moving state] at shown
    cases List.eq_of_mem_replicate (List.mem_of_getElem? shown)

/-- There is an entry for every phase. -/
theorem length_issued (b : CommandBus) (banks : List BankOutputs) (refresh : RefresherOutputs) :
    (b.evaluate banks refresh).issued.length = b.phases.count := by
  rw [issued_evaluate, List.length_map, sources]
  cases b.state <;>
    simp [Phases.sources, Phases.refreshSources, Phases.noSources]

/-- **Column commands have a phase of their own direction.** The column chooser looks for one
direction at a time, and the row chooser for no data at all. -/
theorem phase_of_isColumn (state : b.state ≠ .refresh)
    (shown : (b.evaluate banks refresh).issued[p]? = some (some command))
    (column : command.isColumn = true) :
    (command.isRead = true → b.state = .read ∧ p = b.phases.columnPhase .read) ∧
      (command.isWrite = true → b.state = .write ∧ p = b.phases.columnPhase .write) := by
  obtain ⟨d, moving⟩ := exists_direction state shown
  obtain ⟨-, ⟨here, chosen, taken, rfl⟩ | ⟨-, chosen, taken, rfl⟩⟩ := phase_cases moving shown
  · obtain ⟨reads, writes⟩ := state_of_wanted column (taken_column taken).2.1
    constructor
    · intro isRead
      have reading := reads isRead
      rw [reading] at moving
      cases moving
      exact ⟨reading, here⟩
    · intro isWrite
      have writing := writes isWrite
      rw [writing] at moving
      cases moving
      exact ⟨writing, here⟩
  · have kind := isRow_of_taken_row taken
    rw [not_isRow_of_isColumn column] at kind
    cases kind

/-- **Row commands have the other phase of the direction**, or the only one. Where there is one
phase the column chooser has to find them. -/
theorem phase_of_isRow (layout : b.LaidOut c) (state : b.state ≠ .refresh)
    (shown : (b.evaluate banks refresh).issued[p]? = some (some command))
    (row : command.isRow = true) :
    ∃ d, b.state.direction? = some d ∧ p = b.phases.rowPhase d ∧ (c.phy.phases = 1 → p = 0) := by
  obtain ⟨d, moving⟩ := exists_direction state shown
  obtain ⟨within, cases⟩ := phase_cases moving shown
  rw [layout.count] at within
  refine ⟨d, moving, ?_, fun single => by omega⟩
  rcases cases with ⟨here, chosen, taken, rfl⟩ | ⟨here, -⟩
  · -- the column chooser takes row commands on a single phase only
    have single : ¬ 1 < c.phy.phases := by
      rw [← layout.rowChooser]
      intro two
      rw [not_isRow_of_taken_column two taken] at row
      cases row
    have rowPhase := layout.placed.row_lt d
    rw [layout.count] at rowPhase
    omega
  · exact here

end CommandBus

/-! ### The decisions of a run -/

/-- What is read off a decision fits together, and commands stand where the configuration has them.
Outside refresh rounds this is about the banks and choosers, and in a round about the refresher. -/
structure Decision.Agrees (c : Config) (state : BusState) (banks : List BankOutputs)
    (refresh : RefresherOutputs) (d : Decision) : Prop where
  /-- A bank is accepted if its command is on one phase. -/
  accepted_iff : state ≠ .refresh → ∀ i, d.accepted.getD i false = true ↔
    ∃ command, banks[i]?.bind BankOutputs.command = some command ∧
      d.issued.count (some command) = 1
  /-- Every command comes from a bank that is accepted. -/
  offered : state ≠ .refresh → ∀ command, some command ∈ d.issued →
    ∃ i, d.accepted.getD i false = true ∧ banks[i]?.bind BankOutputs.command = some command
  /-- The column chooser goes on if its choice is issued. -/
  columnReady_iff : state ≠ .refresh → (d.columnReady = true ↔
    ∃ chosen, d.column.choice = some chosen ∧ some chosen.command ∈ d.issued)
  /-- The row chooser goes on if its choice is issued. -/
  rowReady_iff : state ≠ .refresh → (d.rowReady = true ↔
    ∃ chosen, d.row.bind Selection.choice = some chosen ∧ some chosen.command ∈ d.issued)
  /-- Data is moved once at most. -/
  columns : (d.commands.filter isColumn).length ≤ 1
  /-- There is one row command at most. -/
  rows : (d.commands.filter isRow).length ≤ 1
  /-- A single phase has one command at most. -/
  single : c.phy.phases = 1 → d.commands.length ≤ 1
  /-- Reads are issued while the bus reads, on the phase of reads. -/
  read : state ≠ .refresh → ∀ p command, d.issued[p]? = some (some command) →
    command.isRead = true → state = .read ∧ p = c.phy.readPhase
  /-- Writes are issued while the bus writes, on the phase of writes. -/
  write : state ≠ .refresh → ∀ p command, d.issued[p]? = some (some command) →
    command.isWrite = true → state = .write ∧ p = c.phy.writePhase
  /-- Row commands have the other phase of the direction. -/
  row : state ≠ .refresh → ∀ p command, d.issued[p]? = some (some command) →
    command.isRow = true →
      (state = .read ∧ p = c.phy.readRowPhase ∨ state = .write ∧ p = c.phy.writeRowPhase) ∧
        (c.phy.phases = 1 → p = 0)
  /-- The refresher has the first phase for itself. -/
  refreshing : state = .refresh → d.Idle banks ∧
    d.issued = (List.range c.phy.phases).map fun p => if p = 0 then refresh.command else none
  /-- Nothing is issued while the bus turns. -/
  turning : (state = .writeToRead ∨ ∃ remaining, state = .readToWrite remaining) →
    d.Idle banks ∧ d.issued = List.replicate c.phy.phases none

/-- What comes to the command bus in one cycle. -/
structure BusInput where
  /-- What each bank shows. -/
  banks : List BankOutputs
  /-- What the refresher shows. -/
  refresh : RefresherOutputs
  deriving DecidableEq, Repr, Inhabited

namespace CommandBus

variable {c : Config} {b : CommandBus} {banks : List BankOutputs} {refresh : RefresherOutputs}

/-- The bus after a cycle. -/
def next (b : CommandBus) (input : BusInput) : CommandBus :=
  b.commit (b.evaluate input.banks input.refresh) input.refresh

/-- The bus after a run, which is one decision after the other. -/
def run (b : CommandBus) (past : List BusInput) : CommandBus :=
  past.foldl next b

/-- A bus that is laid out decides as it should: each part of the agreement is one of the lemmas
above. -/
theorem agrees_evaluate (layout : b.LaidOut c)
    (own : ∀ i command, banks[i]?.bind BankOutputs.command = some command →
      command.bank? = some i) :
    (b.evaluate banks refresh).Agrees c b.state banks refresh where
  accepted_iff state i := by
    constructor
    · intro told
      obtain ⟨command, offered⟩ := exists_offered_of_accepted layout.placed told
      exact ⟨command, offered,
        (accepted_iff_count layout.placed state own offered).1 told⟩
    · rintro ⟨command, offered, once⟩
      exact (accepted_iff_count layout.placed state own offered).2 once
  offered state command mem := by
    obtain ⟨i, -, granted⟩ :=
      exists_granted_of_mem_commands layout.placed state (Decision.mem_issued_iff.1 mem)
    rw [CommandBus.granted, Option.ite_none_right_eq_some] at granted
    exact ⟨i, granted⟩
  columnReady_iff state := columnReady_iff layout.placed state
  rowReady_iff state := rowReady_iff layout.placed state
  columns := length_filter_commands_le_one layout.placed (length_columns_le_one layout.placed)
  rows := length_filter_commands_le_one layout.placed (length_rows_le_one layout.placed)
  single one := by
    rw [← one, ← layout.count, ← length_issued b banks refresh]
    exact List.length_filterMap_le _ _
  read state p command shown isRead := by
    have column : command.isColumn = true := by rw [isColumn, isRead, Bool.true_or]
    rw [← show b.phases.columnPhase .read = c.phy.readPhase from layout.columnPhase .read]
    exact (phase_of_isColumn state shown column).1 isRead
  write state p command shown isWrite := by
    have column : command.isColumn = true := by rw [isColumn, isWrite, Bool.or_true]
    rw [← show b.phases.columnPhase .write = c.phy.writePhase from layout.columnPhase .write]
    exact (phase_of_isColumn state shown column).2 isWrite
  row state p command shown row := by
    obtain ⟨d, moving, here, first⟩ := phase_of_isRow layout state shown row
    refine ⟨?_, first⟩
    rw [layout.rowPhase] at here
    cases now : b.state with
    | read =>
      rw [now] at moving
      cases moving
      exact .inl ⟨rfl, here⟩
    | write =>
      rw [now] at moving
      cases moving
      exact .inr ⟨rfl, here⟩
    | refresh | writeToRead | readToWrite =>
      rw [now] at moving
      cases moving
  refreshing state := by
    refine ⟨idle_of_not_moving (by rw [state]; rfl), ?_⟩
    rw [issued_of_refresh state, layout.count]
  turning turning := by
    have resting : b.state.direction? = none ∧ b.state ≠ .refresh := by
      rcases turning with state | ⟨remaining, state⟩ <;>
        · rw [state]
          exact ⟨rfl, by simp⟩
    refine ⟨idle_of_not_moving resting.1, ?_⟩
    rw [issued_of_turning resting.1 resting.2, layout.count]

/-- **Acceptance and issue agree** after every run, whatever the banks offer to themselves and
whatever the refresher shows. -/
theorem run_agrees (accepted : c.validate = .ok ()) (past : List BusInput)
    (banks : List BankOutputs) (refresh : RefresherOutputs)
    (own : ∀ i command, banks[i]?.bind BankOutputs.command = some command →
      command.bank? = some i) :
    (((CommandBus.new c).run past).evaluate banks refresh).Agrees c
      ((CommandBus.new c).run past).state banks refresh := by
  have start := laidOut_new (Config.validate_eq_ok_iff.1 accepted)
  have layout : ((CommandBus.new c).run past).LaidOut c :=
    List.foldlRecOn past next start fun now kept input _ => kept.commit _ _
  exact agrees_evaluate layout own

/-- Every bank of the default configuration offers a command, the first one a row and the others
data. -/
theorem run_agrees_of_all_banks :
    (default : Config).validate = .ok () ∧ ∃ banks : List BankOutputs,
      banks.map BankOutputs.command = (List.range (default : Config).banks).map
        (fun i => some (if i = 0 then .activate 0 5 else .read i 3 false)) ∧
      (∀ i command, banks[i]?.bind BankOutputs.command = some command →
        command.bank? = some i) ∧
      ∀ past refresh, (((CommandBus.new default).run past).evaluate banks refresh).Agrees default
        ((CommandBus.new default).run past).state banks refresh := by
  refine ⟨by decide, (List.range (default : Config).banks).map fun i =>
    { command := some (if i = 0 then .activate 0 5 else .read i 3 false) }, ?_, ?own,
    fun past refresh => run_agrees (by decide) past _ refresh ?own⟩
  · rw [List.map_map]
    rfl
  · intro i command offered
    obtain ⟨outputs, found, shown⟩ := Option.bind_eq_some_iff.1 offered
    rw [List.getElem?_map, Option.map_eq_some_iff] at found
    obtain ⟨n, numbered, rfl⟩ := found
    obtain ⟨within, rfl⟩ := List.getElem?_eq_some_iff.1 numbered
    rw [List.getElem_range] at shown
    obtain rfl := Option.some.inj shown
    split
    · next first => rw [first]; rfl
    · rfl

end CommandBus

end DramScheduler
