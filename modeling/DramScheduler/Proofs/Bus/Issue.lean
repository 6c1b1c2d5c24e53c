import DramScheduler.Bus.CommandBus
import DramScheduler.Proofs.Config.Acceptance
import Mathlib.Data.List.Basic

/-!
# Acceptance and issue agree

A bank machine learns from `Decision.accepted` that its command is on the bus, the memory sees
`Decision.issued`. Both come from what the two choosers show, and this module ties them
together: the commands of a cycle are the choices of the cycle, each once, and every choice is
the command that its bank offers.

## Main results

* `CommandBus.commands_perm` — outside refresh rounds the commands issued are those chosen;
* `CommandBus.commands_of_refresh` — during a round they are the refresher's alone;
* `CommandBus.filter_commands` — a bank's commands in a cycle are the offered one if it was
  accepted, and none otherwise;
* `CommandBus.length_columns_le_one` — a cycle issues one column command at most.
-/

namespace DramScheduler

/-- The choice that a source puts on its phase, if its chooser may go on. -/
def Decision.taken (d : Decision) : Source → Option Choice
  | .column => if d.columnReady then d.column.choice else none
  | .row => if d.rowReady then d.row.bind Selection.choice else none
  | _ => none

/-- What the two choosers take in a cycle, the column chooser's choice first. -/
def Decision.choices (d : Decision) : List Choice :=
  (d.taken .column).toList ++ (d.taken .row).toList

/-- Of the numbers below `m`, the one that has an entry. -/
theorem filterMap_range_single {α : Type} (p : Nat) (x : Option α) (m : Nat) :
    ((List.range m).filterMap fun i => if i = p then x else none) =
      if p < m then x.toList else [] := by
  induction m with
  | zero => simp
  | succ m ih =>
    rw [List.range_succ, List.filterMap_append, ih]
    rcases Nat.lt_trichotomy p m with h | rfl | h
    · simp [h, Nat.ne_of_gt h, Nat.lt_succ_of_lt h]
    · cases x <;> simp
    · simp [Nat.not_lt.2 (Nat.le_of_lt h), Nat.ne_of_lt h, Nat.not_lt.2 (Nat.succ_le_of_lt h)]

/-- Of the numbers below `m`, the two that have entries of their own. -/
theorem filterMap_range_pair {α : Type} {p q : Nat} (apart : p ≠ q) (x y : Option α) (m : Nat) :
    ((List.range m).filterMap fun i => if i = p then x else if i = q then y else none).Perm
      ((if p < m then x.toList else []) ++ (if q < m then y.toList else [])) := by
  induction m with
  | zero => simp
  | succ m ih =>
    rw [List.range_succ, List.filterMap_append]
    refine (ih.append_right _).trans ?_
    by_cases hp : m = p
    · subst hp
      have hq : q < m + 1 ↔ q < m := by omega
      simp only [Nat.lt_irrefl, if_false, List.nil_append, Nat.lt_succ_self, if_true, hq]
      cases x <;> simp
    · have hp' : p < m + 1 ↔ p < m := by omega
      by_cases hq : m = q
      · subst hq
        cases y <;> simp [hp, hp']
      · have hq' : q < m + 1 ↔ q < m := by omega
        simp [hp, hq, hp', hq']

namespace CommandBus

variable {b : CommandBus} {banks : List BankOutputs} {refresh : RefresherOutputs}

/-- Where commands are put while data moves: every phase that is used exists, and with a row chooser
the two uses of a direction have phases of their own. -/
structure WellPlaced (b : CommandBus) : Prop where
  /-- Column commands have a phase that there is. -/
  column_lt : ∀ d, b.phases.columnPhase d < b.phases.count
  /-- So have row commands. -/
  row_lt : ∀ d, b.phases.rowPhase d < b.phases.count
  /-- The two choosers do not share a phase. -/
  apart : b.rowChooser.isSome → ∀ d, b.phases.columnPhase d ≠ b.phases.rowPhase d

/-- Validation rejects the layouts that are not well placed, so a new bus is. -/
theorem wellPlaced_new {c : Config} (a : c.Accepted) : (CommandBus.new c).WellPlaced := by
  obtain ⟨read, write, readRow, writeRow⟩ := a.placed
  refine ⟨?_, ?_, ?_⟩
  · intro d
    cases d <;> simpa [new, Phases.new, Phases.columnPhase, Phases.count]
  · intro d
    cases d <;> simpa [new, Phases.new, Phases.rowPhase, Phases.count]
  · intro two d
    have several : 1 < c.phy.phases := by
      by_contra single
      simp [new, single] at two
    have distinct := a.phases_distinct several
    cases d
    · exact distinct.1
    · exact distinct.2

/-- A clock edge moves no phase and adds no chooser. -/
theorem WellPlaced.commit (placed : b.WellPlaced) (d : Decision) (refresh : RefresherOutputs) :
    (b.commit d refresh).WellPlaced := by
  have count : (b.commit d refresh).phases.count = b.phases.count := Phases.count_commit _ _
  have chooser : (b.commit d refresh).rowChooser.isSome = b.rowChooser.isSome := by
    rw [CommandBus.commit]
    cases b.rowChooser <;> cases d.row <;> rfl
  refine ⟨?_, ?_, ?_⟩
  · intro direction
    rw [count]
    exact placed.column_lt direction
  · intro direction
    rw [count]
    exact placed.row_lt direction
  · intro two
    rw [chooser] at two
    exact placed.apart two

/-! ### The decision, field by field -/

/-- What is issued on each phase, from what its source takes. -/
theorem issued_evaluate (b : CommandBus) (banks : List BankOutputs) (refresh : RefresherOutputs) :
    (b.evaluate banks refresh).issued = b.sources.map fun source =>
      if source = .refresh then refresh.command
      else ((b.evaluate banks refresh).taken source).map Choice.command :=
  rfl

/-- A bank is told that its command was issued if it is met on the way through the phases. -/
theorem accepted_evaluate (b : CommandBus) (banks : List BankOutputs)
    (refresh : RefresherOutputs) :
    (b.evaluate banks refresh).accepted = (List.range banks.length).map fun i =>
      (b.sources.filterMap (b.evaluate banks refresh).taken).any fun chosen =>
        chosen.bank == i :=
  rfl

/-! ### Choices -/

/-- While no data moves nothing is chosen. -/
theorem taken_of_not_moving (h : b.state.direction? = none) (source : Source) :
    (b.evaluate banks refresh).taken source = none := by
  have held : ∀ choice, b.admits refresh choice = false := by
    intro choice
    simp [admits, h]
  cases source <;> simp [Decision.taken, evaluate, held]

/-- A chooser shows what the bank it grants offers, if that is wanted. -/
theorem shows_of_choice {chooser : Chooser} {wants : Wants} {chosen : Choice}
    (h : chooser.choice (banks.map BankOutputs.command) wants = some chosen) :
    banks[chosen.bank]?.bind BankOutputs.command = some chosen.command ∧
      wants.admits chosen.command := by
  rw [Chooser.choice, Option.map_eq_some_iff] at h
  obtain ⟨command, shown, rfl⟩ := h
  rw [Option.filter_eq_some_iff] at shown
  obtain ⟨offered, wanted⟩ := shown
  refine ⟨?_, wanted⟩
  cases found : banks[chooser.grant]? with
  | none => simp [found] at offered
  | some outputs => simpa [found] using offered

/-- What the row chooser looks for are row commands. -/
theorem isRow_of_wanted {command : Command}
    (wanted : (b.rowChooserWants refresh).admits command = true) : command.isRow = true := by
  by_contra column
  rw [Wants.admits, if_neg column, rowChooserWants, rowWants] at wanted
  split at wanted <;> simp at wanted

/-- Beside a row chooser, the column chooser looks for column commands only. -/
theorem not_isRow_of_wanted {command : Command} (two : b.rowChooser.isSome)
    (wanted : (b.columnChooserWants refresh).admits command = true) : command.isRow = false := by
  by_contra row
  rw [Bool.not_eq_false] at row
  rw [Wants.admits, if_pos row, columnChooserWants] at wanted
  split at wanted
  · simp at wanted
  · next d _ =>
    rw [if_pos two] at wanted
    cases d <;> simp [columnWants] at wanted

/-- What the row chooser shows; there has to be one. -/
theorem shown_row {chosen : Choice}
    (h : (b.evaluate banks refresh).row.bind Selection.choice = some chosen) :
    b.rowChooser.isSome ∧
      banks[chosen.bank]?.bind BankOutputs.command = some chosen.command ∧
      (b.rowChooserWants refresh).admits chosen.command := by
  obtain ⟨selection, selected, choice⟩ := Option.bind_eq_some_iff.1 h
  obtain ⟨chooser, present, rfl⟩ := Option.map_eq_some_iff.1 selected
  exact ⟨by simp [present], shows_of_choice choice⟩

/-- The column chooser's choice, if it is taken. -/
theorem taken_column {chosen : Choice}
    (h : (b.evaluate banks refresh).taken .column = some chosen) :
    banks[chosen.bank]?.bind BankOutputs.command = some chosen.command ∧
      (b.columnChooserWants refresh).admits chosen.command ∧
      b.admits refresh (some chosen) := by
  rw [Decision.taken, Option.ite_none_right_eq_some] at h
  obtain ⟨ready, shown⟩ := h
  have facts := shows_of_choice shown
  refine ⟨facts.1, facts.2, ?_⟩
  rw [← shown]
  exact ready

/-- The row chooser's choice, if it is taken; there has to be a row chooser. -/
theorem taken_row {chosen : Choice}
    (h : (b.evaluate banks refresh).taken .row = some chosen) :
    b.rowChooser.isSome ∧
      banks[chosen.bank]?.bind BankOutputs.command = some chosen.command ∧
      (b.rowChooserWants refresh).admits chosen.command ∧
      b.admits refresh (some chosen) := by
  rw [Decision.taken, Option.ite_none_right_eq_some] at h
  obtain ⟨ready, shown⟩ := h
  obtain ⟨two, offered, wanted⟩ := shown_row shown
  refine ⟨two, offered, wanted, ?_⟩
  rw [← shown]
  exact ready

/-- What the row chooser takes is a row command. -/
theorem isRow_of_taken_row {chosen : Choice}
    (h : (b.evaluate banks refresh).taken .row = some chosen) : chosen.command.isRow :=
  isRow_of_wanted (taken_row h).2.2.1

/-- Beside a row chooser, the column chooser takes column commands only. -/
theorem not_isRow_of_taken_column {chosen : Choice} (two : b.rowChooser.isSome)
    (h : (b.evaluate banks refresh).taken .column = some chosen) :
    chosen.command.isRow = false :=
  not_isRow_of_wanted two (taken_column h).2.1

/-- A choice is the command of its bank. -/
theorem offered_of_mem_choices {chosen : Choice}
    (h : chosen ∈ (b.evaluate banks refresh).choices) :
    banks[chosen.bank]?.bind BankOutputs.command = some chosen.command := by
  rw [Decision.choices, List.mem_append, Option.mem_toList, Option.mem_toList] at h
  rcases h with column | row
  · exact (taken_column column).1
  · exact (taken_row row).2.1

/-- No bank is chosen twice: the choosers look for different kinds of commands, and a bank offers
one command. -/
theorem nodup_choices : ((b.evaluate banks refresh).choices.map Choice.bank).Nodup := by
  rw [Decision.choices]
  cases column : (b.evaluate banks refresh).taken .column with
  | none => cases (b.evaluate banks refresh).taken .row <;> simp
  | some first =>
    cases row : (b.evaluate banks refresh).taken .row with
    | none => simp
    | some second =>
      have two := (taken_row row).1
      suffices first.bank ≠ second.bank by simpa using this
      intro same
      have offered := (taken_column column).1
      rw [same, (taken_row row).2.1, Option.some.injEq] at offered
      have kind := isRow_of_taken_row row
      rw [offered, not_isRow_of_taken_column two column] at kind
      exact Bool.false_ne_true kind

/-- While data moves in a direction, the phases carry the two choices, each once. Which of them
comes first depends on the layout. -/
theorem taken_perm_of_moving (placed : b.WellPlaced) {d : Direction}
    (moving : b.sources = b.phases.sources d) :
    (b.sources.filterMap (b.evaluate banks refresh).taken).Perm
      (b.evaluate banks refresh).choices := by
  set column := (b.evaluate banks refresh).taken .column with hcolumn
  set row := (b.evaluate banks refresh).taken .row with hrow
  have phases : b.sources.filterMap (b.evaluate banks refresh).taken =
      (List.range b.phases.count).filterMap fun i =>
        if i = b.phases.columnPhase d then column
        else if i = b.phases.rowPhase d then row else none := by
    rw [moving, Phases.sources, List.filterMap_map]
    refine List.filterMap_congr fun i _ => ?_
    simp only [Function.comp_apply]
    split
    · rfl
    · split <;> rfl
  rw [phases, Decision.choices, ← hcolumn, ← hrow]
  cases second : row with
  | none =>
    have single := filterMap_range_single (b.phases.columnPhase d) column b.phases.count
    simp only [ite_self, single, if_pos (placed.column_lt d)]
    simp
  | some chosen =>
    have apart := placed.apart (taken_row (hrow.symm.trans second)).1 d
    have pair := filterMap_range_pair apart column (some chosen) b.phases.count
    rwa [if_pos (placed.column_lt d), if_pos (placed.row_lt d)] at pair

/-- Every choice is put on exactly one phase, in every state of the bus. -/
theorem taken_perm (placed : b.WellPlaced) :
    (b.sources.filterMap (b.evaluate banks refresh).taken).Perm
      (b.evaluate banks refresh).choices := by
  have still : b.state.direction? = none →
      (b.sources.filterMap (b.evaluate banks refresh).taken).Perm
        (b.evaluate banks refresh).choices := by
    intro resting
    have nothing : (b.evaluate banks refresh).taken = fun _ => none :=
      funext fun source => taken_of_not_moving resting source
    simp [Decision.choices, nothing]
  cases state : b.state with
  | read => exact taken_perm_of_moving placed (d := .read) (by simp [sources, state])
  | write => exact taken_perm_of_moving placed (d := .write) (by simp [sources, state])
  | refresh => exact still (by simp [state, BusState.direction?])
  | writeToRead => exact still (by simp [state, BusState.direction?])
  | readToWrite => exact still (by simp [state, BusState.direction?])

/-! ### The commands of a cycle -/

/-- The refresher has a phase only while it has the bus. -/
theorem refresh_notMem_sources (state : b.state ≠ .refresh) : Source.refresh ∉ b.sources := by
  have moving : ∀ d, Source.refresh ∉ b.phases.sources d := by
    intro d mem
    obtain ⟨i, -, source⟩ := List.mem_map.1 mem
    split at source
    · cases source
    · split at source <;> cases source
  cases h : b.state with
  | refresh => exact absurd h state
  | read => simpa only [sources, h] using moving .read
  | write => simpa only [sources, h] using moving .write
  | writeToRead => simp [sources, h, Phases.noSources]
  | readToWrite => simp [sources, h, Phases.noSources]

/-- **Outside refresh rounds the commands issued are those chosen**, in the order of their
phases. -/
theorem commands_perm (placed : b.WellPlaced) (state : b.state ≠ .refresh) :
    (b.evaluate banks refresh).commands.Perm
      ((b.evaluate banks refresh).choices.map Choice.command) := by
  have issued : (b.evaluate banks refresh).commands =
      (b.sources.filterMap (b.evaluate banks refresh).taken).map Choice.command := by
    rw [Decision.commands, issued_evaluate, List.filterMap_map, List.map_filterMap]
    refine List.filterMap_congr fun source mem => ?_
    have ordinary : source ≠ .refresh := fun h => refresh_notMem_sources state (h ▸ mem)
    simp [ordinary]
  rw [issued]
  exact (taken_perm placed).map _

/-- During a refresh round nothing is chosen. -/
theorem choices_of_refresh (state : b.state = .refresh) :
    (b.evaluate banks refresh).choices = [] := by
  have resting : b.state.direction? = none := by rw [state]; rfl
  simp [Decision.choices, taken_of_not_moving resting]

/-- **During a refresh round the command issued is the refresher's**, on the first phase, and no
bank has one issued. -/
theorem commands_of_refresh (placed : b.WellPlaced) (state : b.state = .refresh) :
    (b.evaluate banks refresh).commands = refresh.command.toList := by
  have resting : b.state.direction? = none := by rw [state]; rfl
  have phases : (b.evaluate banks refresh).commands =
      (List.range b.phases.count).filterMap fun i => if i = 0 then refresh.command else none := by
    rw [Decision.commands, issued_evaluate, List.filterMap_map, sources, state]
    dsimp only
    rw [Phases.refreshSources, List.filterMap_map]
    refine List.filterMap_congr fun i _ => ?_
    by_cases first : i = 0
    · simp [first]
    · simp [first, taken_of_not_moving resting]
  have room : 0 < b.phases.count := Nat.zero_lt_of_lt (placed.column_lt .read)
  rw [phases, filterMap_range_single, if_pos room]

/-- A bank is told that its command was issued exactly if the bank was chosen. -/
theorem accepted_iff (placed : b.WellPlaced) {i : Nat} :
    (b.evaluate banks refresh).accepted.getD i false = true ↔
      ∃ chosen ∈ (b.evaluate banks refresh).choices, chosen.bank = i := by
  simp only [accepted_evaluate, (taken_perm placed).any_eq]
  by_cases inRange : i < banks.length
  · simp [inRange]
  · have outside : ∀ chosen ∈ (b.evaluate banks refresh).choices, chosen.bank ≠ i := by
      rintro chosen mem rfl
      have offered := offered_of_mem_choices mem
      rw [List.getElem?_eq_none (Nat.not_lt.1 inRange)] at offered
      cases offered
    simpa [inRange] using outside

/-- The command that a bank gets issued in a cycle, which is the one that it offers if it is
accepted. -/
def granted (b : CommandBus) (banks : List BankOutputs) (refresh : RefresherOutputs) (i : Nat) :
    Option Command :=
  if (b.evaluate banks refresh).accepted.getD i false then banks[i]?.bind BankOutputs.command
  else none

/-- Among choices of distinct banks, those of one bank with what they choose. -/
theorem filter_bank_of_nodup {choices : List Choice} (nodup : (choices.map Choice.bank).Nodup)
    (i : Nat) :
    choices.filter (fun chosen => chosen.bank == i) =
      (choices.find? fun chosen => chosen.bank == i).toList := by
  induction choices with
  | nil => rfl
  | cons chosen rest ih =>
    rw [List.map_cons, List.nodup_cons] at nodup
    by_cases own : chosen.bank = i
    · have others : rest.filter (fun other => other.bank == i) = [] := by
        rw [List.filter_eq_nil_iff]
        intro other mem same
        refine nodup.1 ?_
        rw [own, ← eq_of_beq same]
        exact List.mem_map_of_mem mem
      simp [own, others]
    · simp [own, ih nodup.2]

/-- **A bank's commands in a cycle.** They are the offered command if it was accepted, and none
otherwise; this needs that a bank offers commands to itself only. -/
theorem filter_commands (placed : b.WellPlaced) (state : b.state ≠ .refresh)
    (own : ∀ i command, banks[i]?.bind BankOutputs.command = some command →
      command.bank? = some i) (i : Nat) :
    (b.evaluate banks refresh).commands.filter (fun command => command.bank? == some i) =
      (b.granted banks refresh i).toList := by
  have chosenBank : ∀ chosen ∈ (b.evaluate banks refresh).choices,
      (chosen.command.bank? == some i) = (chosen.bank == i) := by
    intro chosen mem
    rw [own chosen.bank chosen.command (offered_of_mem_choices mem)]
    rfl
  have perm : ((b.evaluate banks refresh).commands.filter
      fun command => command.bank? == some i).Perm
        (((b.evaluate banks refresh).choices.find? fun chosen => chosen.bank == i).map
          Choice.command).toList := by
    refine ((commands_perm placed state).filter _).trans ?_
    have chosen : (b.evaluate banks refresh).choices.filter
        ((fun command => command.bank? == some i) ∘ Choice.command) =
          (b.evaluate banks refresh).choices.filter fun chosen => chosen.bank == i :=
      List.filter_congr chosenBank
    rw [List.filter_map, chosen, filter_bank_of_nodup nodup_choices, Option.toList_map]
  suffices granted : b.granted banks refresh i =
      ((b.evaluate banks refresh).choices.find? fun chosen => chosen.bank == i).map
        Choice.command by
    rw [granted]
    cases found : ((b.evaluate banks refresh).choices.find? fun chosen => chosen.bank == i).map
        Choice.command with
    | none => rw [found] at perm; exact perm.eq_nil
    | some command => rw [found] at perm; exact List.perm_singleton.1 perm
  rw [granted]
  cases found : (b.evaluate banks refresh).choices.find? fun chosen => chosen.bank == i with
  | none =>
    rw [if_neg]
    · rfl
    · rw [accepted_iff placed]
      rintro ⟨chosen, mem, bank⟩
      exact List.find?_eq_none.1 found chosen mem (beq_iff_eq.2 bank)
  | some chosen =>
    have mem := List.mem_of_find?_eq_some found
    have bank : chosen.bank = i := by simpa using List.find?_some found
    rw [if_pos ((accepted_iff placed).2 ⟨chosen, mem, bank⟩), ← bank]
    exact offered_of_mem_choices mem

/-- Every command outside a refresh round was granted to some bank. -/
theorem exists_granted_of_mem_commands (placed : b.WellPlaced) (state : b.state ≠ .refresh)
    {command : Command} (mem : command ∈ (b.evaluate banks refresh).commands) :
    ∃ i < banks.length, b.granted banks refresh i = some command := by
  obtain ⟨chosen, chosenMem, rfl⟩ := List.mem_map.1 ((commands_perm placed state).mem_iff.1 mem)
  have offered := offered_of_mem_choices chosenMem
  refine ⟨chosen.bank, ?_, ?_⟩
  · by_contra outside
    rw [List.getElem?_eq_none (Nat.not_lt.1 outside)] at offered
    cases offered
  · rw [granted, if_pos ((accepted_iff placed).2 ⟨chosen, chosenMem, rfl⟩)]
    exact offered

/-- A cycle issues at most one command of a kind that the choosers do not share, because either of
them takes one at most. -/
theorem length_filter_le_one (placed : b.WellPlaced) (state : b.state ≠ .refresh)
    {kind : Command → Bool}
    (apart : ∀ first second, (b.evaluate banks refresh).taken .column = some first →
      (b.evaluate banks refresh).taken .row = some second → kind first.command = true →
        kind second.command = false) :
    ((b.evaluate banks refresh).commands.filter kind).length ≤ 1 := by
  rw [((commands_perm placed state).filter kind).length_eq, Decision.choices]
  cases column : (b.evaluate banks refresh).taken .column with
  | none =>
    cases row : (b.evaluate banks refresh).taken .row with
    | none => simp
    | some second => exact Nat.le_trans (List.length_filter_le _ _) (by simp)
  | some first =>
    cases row : (b.evaluate banks refresh).taken .row with
    | none => exact Nat.le_trans (List.length_filter_le _ _) (by simp)
    | some second =>
      rw [Option.toList_some, Option.toList_some, List.singleton_append, List.map_cons,
        List.filter_cons]
      cases ofKind : kind first.command with
      | false =>
        rw [if_neg Bool.false_ne_true]
        exact Nat.le_trans (List.length_filter_le _ _) (by simp)
      | true => simp [apart first second column row ofKind]

/-- **One column at most.** Whatever the phases, a cycle issues at most one column command, because
a single chooser looks for them. -/
theorem length_columns_le_one (placed : b.WellPlaced) (state : b.state ≠ .refresh) :
    ((b.evaluate banks refresh).commands.filter Command.isColumn).length ≤ 1 := by
  refine length_filter_le_one placed state fun _ second _ row _ => ?_
  by_contra isColumn
  rw [Bool.not_eq_false] at isColumn
  have kind := Command.not_isRow_of_isColumn isColumn
  rw [isRow_of_taken_row row] at kind
  cases kind

end CommandBus

end DramScheduler
