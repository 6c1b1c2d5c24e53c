import DramScheduler.Proofs.Bank.Representation
import DramScheduler.Proofs.Bank.Run
import DramScheduler.Proofs.Controller.Service
import Mathlib.Data.List.Destutter

/-!
# What a sequence of requests comes to

Left to itself, a bank machine turns its requests into a sequence of commands that time has almost
no part in. Each request has a group of commands: its column command, and in front of it what it
takes to open its row, if the row is not the one of the request before it. `expansion` puts the
groups one after the other. When requests come in, how long commands are held back and what the
countdowns say decides over one thing only, and that is whether a row is closed by a command of its
own or by the last column command that hits it: it is the latter if the next request waits in the
lookahead by then.

So the rows that are opened, and the places that data moves from and to, are those of the
requests, in their order.

## Main definitions

* `expansion` — the groups of a sequence of requests;
* `BankMachine.Stands` — how far a machine has come with the group of the request in front.

## Main results

* `filter_isActivate_expansion`, `expansion_of_same_row` — which rows are opened;
* `BankMachine.Progress.next` — a clock edge carries the expansion on;
* `BankMachine.new_expandsRequests` — the commands of every run are the expansion of the requests,
  up to a group that is not finished yet.
-/

namespace DramScheduler

open Command

/-! ### The expansion -/

/-- A request with the way in which it is served: its column command closes the row or leaves it
open. -/
structure ServedRequest where
  /-- The request. -/
  request : BankRequest
  /-- Its column command closes the row. -/
  closes : Bool
  deriving DecidableEq, Repr, Inhabited

/-- The row that was used last in a bank. -/
structure LastRow where
  /-- The number of the row. -/
  row : Nat
  /-- The last column command closed it. -/
  closed : Bool
  deriving DecidableEq, Repr, Inhabited

namespace ServedRequest

/-- The row that a request was served from, as it was left behind. -/
def lastRow (split : RowSplit) (s : ServedRequest) : LastRow :=
  ⟨split.row s.request.address, s.closes⟩

/-- The column command of a request, in the way in which it was served. -/
def column (split : RowSplit) (bank : Nat) (s : ServedRequest) : Command :=
  if s.request.isWrite then .write bank (split.col s.request.address) s.closes
  else .read bank (split.col s.request.address) s.closes

end ServedRequest

/-- What it takes to open a row, given the row that was used last. A row that is still open is
closed first, and nothing has to be done for the same row. -/
def opening (bank : Nat) (last : Option LastRow) (row : Nat) : List Command :=
  match last with
  | none => [.activate bank row]
  | some last =>
    if last.row = row then []
    else if last.closed then [.activate bank row]
    else [.precharge bank false, .activate bank row]

/-- The commands that serve requests one after the other: for each of them what it takes to open its
row, and then its column command. -/
def expansion (split : RowSplit) (bank : Nat) : Option LastRow → List ServedRequest → List Command
  | _, [] => []
  | last, s :: rest =>
    opening bank last (split.row s.request.address) ++
      s.column split bank :: expansion split bank (some (s.lastRow split)) rest

/-- The row that was used last after the given requests. -/
def lastAfter (split : RowSplit) (last : Option LastRow) (served : List ServedRequest) :
    Option LastRow :=
  served.foldl (fun _ s => some (s.lastRow split)) last

section Expansion

variable {split : RowSplit} {bank : Nat} {last : Option LastRow} {served : List ServedRequest}
  {s : ServedRequest}

/-- The column command of a request moves data. -/
theorem isColumn_column (s : ServedRequest) : (s.column split bank).isColumn = true := by
  rw [ServedRequest.column]
  split <;> rfl

/-- The column command of a request opens no row. -/
theorem isActivate_column (s : ServedRequest) : (s.column split bank).isActivate = false := by
  rw [ServedRequest.column]
  split <;> rfl

/-- Requests that are served later have their commands later, starting from the row that was used
last by then. -/
theorem expansion_append (last : Option LastRow) (first second : List ServedRequest) :
    expansion split bank last (first ++ second) =
      expansion split bank last first ++
        expansion split bank (lastAfter split last first) second := by
  induction first generalizing last with
  | nil => rfl
  | cons s rest ih =>
    rw [List.cons_append, expansion, expansion, ih, List.append_assoc, List.cons_append]
    rfl

/-- After one more request, the row used last is that of the request. -/
theorem lastAfter_concat (last : Option LastRow) (served : List ServedRequest)
    (s : ServedRequest) : lastAfter split last (served ++ [s]) = some (s.lastRow split) := by
  rw [lastAfter, List.foldl_append]
  rfl

/-- The row used last is that of the last request. -/
theorem lastAfter_eq (last : Option LastRow) (served : List ServedRequest) :
    lastAfter split last served = (served.getLast?.map (ServedRequest.lastRow split)).or last := by
  rcases List.eq_nil_or_concat served with rfl | ⟨before, s, rfl⟩
  · rfl
  · rw [List.concat_eq_append, lastAfter_concat, List.getLast?_concat]
    rfl

/-- Opening a row takes row commands only. -/
theorem not_isColumn_of_mem_opening {row : Nat} {command : Command}
    (mem : command ∈ opening bank last row) : command.isColumn = false := by
  suffices either : command = .precharge bank false ∨ command = .activate bank row by
    rcases either with rfl | rfl <;> rfl
  cases last with
  | none => exact .inr (List.mem_singleton.1 mem)
  | some last =>
    rw [opening] at mem
    split at mem
    · cases mem
    · split at mem
      · exact .inr (List.mem_singleton.1 mem)
      · exact List.mem_pair.1 mem

/-- Each request has one column command, so commands can be numbered by requests. -/
theorem countP_isColumn_expansion (last : Option LastRow) (served : List ServedRequest) :
    (expansion split bank last served).countP isColumn = served.length := by
  induction served generalizing last with
  | nil => rfl
  | cons s rest ih =>
    have rows : (opening bank last (split.row s.request.address)).countP isColumn = 0 := by
      rw [List.countP_eq_zero]
      intro command mem
      rw [not_isColumn_of_mem_opening mem]
      exact Bool.false_ne_true
    rw [expansion, List.countP_append, rows, List.countP_cons_of_pos (isColumn_column s), ih,
      Nat.zero_add, List.length_cons]

/-- **No row is opened or closed between requests for the same row**, so their commands are their
column commands alone. Induction on the requests. -/
theorem expansion_of_same_row {row : Nat} (closed : Bool)
    (same : ∀ s ∈ served, split.row s.request.address = row) :
    expansion split bank (some ⟨row, closed⟩) served =
      served.map (ServedRequest.column split bank) := by
  induction served generalizing closed with
  | nil => rfl
  | cons s rest ih =>
    have here := same s List.mem_cons_self
    have next : s.lastRow split = ⟨row, s.closes⟩ := by rw [ServedRequest.lastRow, here]
    rw [expansion, opening, here, if_pos rfl, List.nil_append, next, List.map_cons,
      ih s.closes fun later mem => same later (List.mem_cons_of_mem s mem)]

/-- The rows that are opened after a row was used are those of the requests, each once in a row.
Induction on the requests, with the row used last generalized. -/
theorem cons_filter_isActivate_expansion (row : Nat) (closed : Bool)
    (served : List ServedRequest) :
    .activate bank row :: (expansion split bank (some ⟨row, closed⟩) served).filter isActivate =
      ((served.map fun s => split.row s.request.address).destutter' (· ≠ ·) row).map
        (.activate bank) := by
  induction served generalizing row closed with
  | nil => rfl
  | cons s rest ih =>
    rw [expansion, List.filter_append,
      List.filter_cons_of_neg (by rw [isActivate_column]; exact Bool.false_ne_true),
      List.map_cons, opening]
    by_cases same : row = split.row s.request.address
    · rw [if_pos same, List.destutter'_cons_neg _ (not_not.2 same), ← ih row s.closes,
        ServedRequest.lastRow, ← same]
      rfl
    · rw [if_neg same, List.destutter'_cons_pos _ same, List.map_cons, ← ih _ s.closes]
      cases closed <;> rfl

/-- **The rows that are opened** are those of the requests, where one differs from the one before
it. How rows are closed makes no difference. -/
theorem filter_isActivate_expansion (served : List ServedRequest) :
    (expansion split bank none served).filter isActivate =
      ((served.map fun s => split.row s.request.address).destutter (· ≠ ·)).map
        (.activate bank) := by
  cases served with
  | nil => rfl
  | cons s rest =>
    rw [expansion, List.filter_append,
      List.filter_cons_of_neg (by rw [isActivate_column]; exact Bool.false_ne_true),
      List.map_cons, List.destutter_cons', ← cons_filter_isActivate_expansion _ s.closes]
    rfl

end Expansion

/-! ### Where a machine stands -/

namespace BankMachine

variable {m : BankMachine} {split : RowSplit} {bank : Nat} {last : Option LastRow}
  {part : List Command} {accepted : Bool} {push : Option BankRequest}

/-- How far a machine has come with the group of the request in front: the commands of the group
that were issued, given the row that was used last. Each state of a machine leaves a few
possibilities only. -/
def Stands (split : RowSplit) (bank : Nat) (last : Option LastRow) (part : List Command)
    (front : Option BankRequest) (row : Option Nat) : BankState → Prop
  | .regular =>
    -- no row was opened yet, the last row is still open, or the row of the request in front is
    (row = none ∧ last = none ∧ part = []) ∨
    (∃ held, row = some held ∧ last = some ⟨held, false⟩ ∧ part = []) ∨
    ∃ request, front = some request ∧ row = some (split.row request.address) ∧
      part = opening bank last (split.row request.address)
  | .precharge => ∃ request held, front = some request ∧ row = some held ∧
      held ≠ split.row request.address ∧ last = some ⟨held, false⟩ ∧ part = []
  | .autoPrecharge => ∃ request held, front = some request ∧ row = none ∧
      held ≠ split.row request.address ∧ last = some ⟨held, true⟩ ∧ part = []
  | .activate => ∃ request, front = some request ∧ row = none ∧
      opening bank last (split.row request.address) =
        part ++ [.activate bank (split.row request.address)]
  | .refresh => False

/-- What was issued of the group in front is a part of what it takes to open its row. -/
theorem Stands.part_cases {front : Option BankRequest} {row : Option Nat} {state : BankState}
    (stands : Stands split bank last part front row state) :
    part = [] ∨ ∃ request, front = some request ∧
      part <+: opening bank last (split.row request.address) := by
  cases state with
  | regular =>
    obtain ⟨-, -, rfl⟩ | ⟨held, -, -, rfl⟩ | ⟨request, front, -, rfl⟩ := stands
    · exact .inl rfl
    · exact .inl rfl
    · exact .inr ⟨request, front, List.prefix_rfl⟩
  | precharge =>
    obtain ⟨request, held, -, -, -, -, rfl⟩ := stands
    exact .inl rfl
  | autoPrecharge =>
    obtain ⟨request, held, -, -, -, -, rfl⟩ := stands
    exact .inl rfl
  | activate =>
    obtain ⟨request, front, -, rest⟩ := stands
    exact .inr ⟨request, front, rest ▸ List.prefix_append _ _⟩
  | refresh => exact stands.elim

/-- A machine that seeks a row goes on with the group in front, or begins the one of a request that
has just come to the front. -/
theorem Stands.seekRow
    (stands : Stands m.split m.index last part m.queue.current m.openRow .regular)
    (push : Option BankRequest) :
    Stands m.split m.index last part (m.queue.commit false push).current m.openRow m.seekRow := by
  rw [BankMachine.seekRow]
  cases front : m.queue.current with
  | none =>
    -- nothing is asked for, whatever comes to the front now
    obtain start | between | ⟨request, none_front, -⟩ := stands
    · exact .inl start
    · exact .inr (.inl between)
    · rw [front] at none_front
      cases none_front
  | some request =>
    have stays := RequestQueue.current_commit front push
    obtain ⟨closed, rfl, rfl⟩ | ⟨held, isOpen, rfl, rfl⟩ | ⟨other, same, hit, rfl⟩ := stands
    · rw [closed]
      exact ⟨request, stays, rfl, rfl⟩
    · rw [isOpen]
      dsimp only
      split
      · next other => exact ⟨request, held, stays, rfl, bne_iff_ne.1 other, rfl, rfl⟩
      · exact .inr (.inl ⟨held, rfl, rfl, rfl⟩)
    · obtain rfl : request = other := Option.some.inj (front.symm.trans same)
      rw [hit]
      dsimp only
      rw [if_neg (by simp [rowOf])]
      exact .inr (.inr ⟨request, stays, rfl, rfl⟩)

/-- **Without a column command the group in front goes on**, by the command that was issued or by
none. There is one case for each kind of edge. -/
theorem Stands.commit
    (stands : Stands m.split m.index last part m.queue.current m.openRow m.state)
    (rows : ∀ command, m.issue false accepted = some command → command.isColumn = false)
    (push : Option BankRequest) :
    Stands m.split m.index last (part ++ (m.issue false accepted).toList)
      (m.commit false accepted push).queue.current (m.commit false accepted push).openRow
      (m.commit false accepted push).state := by
  have queue : (m.commit false accepted push).queue = m.queue.commit false push :=
    congrArg (fun consumed => m.queue.commit consumed push) (consumes_of_rows rows)
  have edge := m.edge_commit false accepted push
  rw [queue]
  generalize m.issue false accepted = command at edge rows ⊢
  generalize (m.commit false accepted push).state = state at edge ⊢
  generalize (m.commit false accepted push).openRow = row at edge ⊢
  cases edge with
  | park _ request => cases request
  | serve => simpa using rows _ rfl
  | serveLast => simpa using rows _ rfl
  | seek before =>
    rw [before] at stands
    rw [Option.toList_none, List.append_nil]
    exact stands.seekRow push
  | close before =>
    rw [before] at stands
    obtain ⟨request, held, front, -, other, rfl, rfl⟩ := stands
    refine ⟨request, RequestQueue.current_commit front push, rfl, ?_⟩
    rw [opening, if_neg other, if_neg Bool.false_ne_true]
    rfl
  | holdClose before =>
    rw [before] at stands
    obtain ⟨request, held, front, rest⟩ := stands
    rw [Option.toList_none, List.append_nil]
    exact ⟨request, held, RequestQueue.current_commit front push, rest⟩
  | settle before =>
    rw [before] at stands
    obtain ⟨request, held, front, closed, other, rfl, rfl⟩ := stands
    refine ⟨request, RequestQueue.current_commit front push, closed, ?_⟩
    rw [opening, if_neg other, if_pos rfl]
    rfl
  | holdSettle before =>
    rw [before] at stands
    obtain ⟨request, held, front, rest⟩ := stands
    rw [Option.toList_none, List.append_nil]
    exact ⟨request, held, RequestQueue.current_commit front push, rest⟩
  | @openRow request before _ _ _ front =>
    rw [before] at stands
    obtain ⟨other, same, -, rest⟩ := stands
    obtain rfl : request = other := Option.some.inj (front.symm.trans same)
    exact .inr (.inr ⟨request, RequestQueue.current_commit front push, rfl, rest.symm⟩)
  | holdOpen before =>
    rw [before] at stands
    obtain ⟨request, front, rest⟩ := stands
    rw [Option.toList_none, List.append_nil]
    exact ⟨request, RequestQueue.current_commit front push, rest⟩
  | closeParked before =>
    rw [before] at stands
    exact stands.elim
  | holdParked before =>
    rw [before] at stands
    exact stands.elim

/-- The column command of a request, as the machine offers it. -/
theorem columnCommand_eq (m : BankMachine) (request : BankRequest) :
    m.columnCommand request =
      ServedRequest.column m.split m.index ⟨request, m.closesAfter (m.rowOf request)⟩ :=
  rfl

/-- **A column command ends the group in front**, and the next one begins: its row is opened by now,
and it is left open or closed as the request behind asks for. -/
theorem Stands.commit_of_column
    (stands : Stands m.split m.index last part m.queue.current m.openRow m.state)
    {command : Command} (issued : m.issue false accepted = some command)
    (column : command.isColumn = true) (push : Option BankRequest) :
    ∃ request, m.queue.current = some request ∧ command = m.columnCommand request ∧
      part = opening m.index last (m.rowOf request) ∧
      Stands m.split m.index (some ⟨m.rowOf request, m.closesAfter (m.rowOf request)⟩) []
        (m.commit false accepted push).queue.current (m.commit false accepted push).openRow
        (m.commit false accepted push).state := by
  have served : ∀ {request : BankRequest}, m.state = .regular →
      m.queue.current = some request → m.openRow = some (m.rowOf request) →
        part = opening m.index last (m.rowOf request) := by
    intro request before front hit
    rw [before] at stands
    obtain ⟨closed, -⟩ | ⟨held, isOpen, rfl, rfl⟩ | ⟨other, same, -, rfl⟩ := stands
    · rw [hit] at closed
      cases closed
    · obtain rfl : held = m.rowOf request := Option.some.inj (isOpen.symm.trans hit)
      rw [opening, if_pos rfl]
    · obtain rfl : request = other := Option.some.inj (front.symm.trans same)
      rfl
  have consumed : consumes (m.issued false accepted) = true := by
    rw [issued_eq, issued]
    exact column
  have queue : (m.commit false accepted push).queue.current = m.queue.next? :=
    congrArg (fun consumed => (m.queue.commit consumed push).current) consumed
  have edge := m.edge_commit false accepted push
  rw [queue]
  rw [issued] at edge
  generalize (m.commit false accepted push).state = state at edge ⊢
  generalize (m.commit false accepted push).openRow = row at edge ⊢
  cases edge with
  | @serve request before _ _ front hit stays =>
    refine ⟨request, front, rfl, served before front hit, ?_⟩
    rw [stays]
    exact .inr (.inl ⟨m.rowOf request, hit, rfl, rfl⟩)
  | @serveLast request before _ _ front hit closes =>
    refine ⟨request, front, rfl, served before front hit, ?_⟩
    rw [closes]
    rw [closesAfter, Bool.and_eq_true, Option.any_eq_true] at closes
    obtain ⟨following, found, other⟩ := closes.2
    exact ⟨following, m.rowOf request, found, rfl, Ne.symm (bne_iff_ne.1 other), rfl, rfl⟩
  | close => cases column
  | openRow => cases column
  | closeParked => cases column

/-- A row is opened or closed for a request that needs another one than the request before it. -/
theorem Stands.row_ne
    (stands : Stands m.split m.index last part m.queue.current m.openRow m.state)
    {command : Command} (issued : m.issue false accepted = some command)
    (row : command.isColumn = false) :
    ∃ request, m.queue.current = some request ∧
      ∀ used, last = some used → used.row ≠ m.rowOf request := by
  cases offers_of_issue issued with
  | column => simp at row
  | close state =>
    rcases state with state | ⟨state, -⟩
    · rw [state] at stands
      obtain ⟨request, held, front, -, other, rfl, -⟩ := stands
      refine ⟨request, front, ?_⟩
      rintro used ⟨⟩
      exact other
    · rw [state] at stands
      exact stands.elim
  | openRow state =>
    rw [state] at stands
    obtain ⟨request, front, -, rest⟩ := stands
    refine ⟨request, front, ?_⟩
    rintro used rfl same
    rw [opening, if_pos (show used.row = m.split.row request.address from same)] at rest
    simp at rest

/-! ### Runs -/

/-- The commands of a run are the groups of the requests that were served and a part of the group of
the request in front. The requests that came in are those that were served, followed by those in the
queue. -/
structure Progress (c : Config) (bank : Nat) (m : BankMachine) (requests : List BankRequest)
    (commands : List Command) (served : List ServedRequest) (part : List Command) : Prop where
  /-- The machine is that of the configuration. -/
  built : m.BuiltFrom c bank
  /-- It closes rows by column commands if it is told to. -/
  autoPrecharge : m.autoPrecharge = c.settings.autoPrecharge
  /-- The requests are those served and those in the queue. -/
  requests_eq : requests = served.map ServedRequest.request ++ m.queue.toList
  /-- The commands are the groups of the served ones and a part of the next group. -/
  commands_eq : commands = expansion c.rowSplit bank none served ++ part
  /-- State and row say how far that group has come. -/
  stands : Stands c.rowSplit bank (lastAfter c.rowSplit none served) part m.queue.current
    m.openRow m.state

variable {c : Config} {requests : List BankRequest} {commands : List Command}
  {served : List ServedRequest} {input : BankInput} {past : List BankInput}

/-- Nothing was taken and nothing issued at the start. -/
theorem progress_new (c : Config) (bank : Nat) : Progress c bank (.new bank c) [] [] [] [] where
  built := builtFrom_new bank c
  autoPrecharge := rfl
  requests_eq := rfl
  commands_eq := rfl
  stands := .inl ⟨rfl, rfl, rfl⟩

namespace Progress

/-- As many requests were served as column commands were issued. -/
theorem countP_isColumn (progress : Progress c bank m requests commands served part) :
    commands.countP isColumn = served.length := by
  have none_open : part.countP isColumn = 0 := by
    rw [List.countP_eq_zero]
    intro command mem
    obtain rfl | ⟨request, -, opens⟩ := progress.stands.part_cases
    · cases mem
    · rw [not_isColumn_of_mem_opening (opens.subset mem)]
      exact Bool.false_ne_true
  rw [progress.commands_eq, List.countP_append, countP_isColumn_expansion, none_open,
    Nat.add_zero]

/-- The requests that are still to be served are those in the queue. -/
theorem getElem?_requests (progress : Progress c bank m requests commands served part) (i : Nat) :
    requests[commands.countP isColumn + i]? = m.queue.toList[i]? := by
  have first : (served.map ServedRequest.request).length ≤ served.length + i := by
    rw [List.length_map]
    exact Nat.le_add_right _ _
  rw [progress.countP_isColumn, progress.requests_eq, List.getElem?_append_right first,
    List.length_map, Nat.add_sub_cancel_left]

/-- The request in front is the next one to be served, and the one behind it comes after it. -/
theorem front (progress : Progress c bank m requests commands served part)
    {request : BankRequest} (current : m.queue.current = some request) :
    requests[commands.countP isColumn]? = some request ∧
      m.queue.next? = requests[commands.countP isColumn + 1]? := by
  have queue := RequestQueue.toList_of_current current
  have here := progress.getElem?_requests 0
  rw [queue, Nat.add_zero] at here
  refine ⟨here, ?_⟩
  rw [progress.getElem?_requests, queue, List.getElem?_cons_succ, ← List.head?_eq_getElem?,
    RequestQueue.next?, Fifo.head?_eq]

/-- The commands are a part of the expansion of all requests, however the ones in the queue are
going to be served. -/
theorem isPrefix (progress : Progress c bank m requests commands served part) :
    ∃ all : List ServedRequest, all.map ServedRequest.request = requests ∧
      commands <+: expansion c.rowSplit bank none all := by
  refine ⟨served ++ m.queue.toList.map fun request => ⟨request, false⟩, ?_, ?_⟩
  · rw [progress.requests_eq, List.map_append, List.map_map]
    exact congrArg _ (List.map_id _)
  · rw [progress.commands_eq, expansion_append, List.prefix_append_right_inj]
    obtain rfl | ⟨request, current, opens⟩ := progress.stands.part_cases
    · exact List.nil_prefix
    · rw [RequestQueue.toList_of_current current, List.map_cons, DramScheduler.expansion]
      exact opens.trans (List.prefix_append _ _)

/-- Once everything is served, the commands are those of the requests that were served. -/
theorem commands_eq_of_empty (progress : Progress c bank m requests commands served part)
    (empty : m.queue.toList = []) :
    served.map ServedRequest.request = requests ∧
      commands = expansion c.rowSplit bank none served := by
  have all := progress.requests_eq
  rw [empty, List.append_nil] at all
  refine ⟨all.symm, ?_⟩
  obtain rfl | ⟨request, current, -⟩ := progress.stands.part_cases
  · rw [progress.commands_eq, List.append_nil]
  · rw [RequestQueue.toList_of_current current] at empty
    cases empty

/-- A column command serves the next request, and closes the row as the one after it asks for. -/
theorem column (progress : Progress c bank m requests commands served part) {command : Command}
    (issued : m.issues input = some command) (moves : command.isColumn = true) :
    ∃ request, requests[commands.countP isColumn]? = some request ∧
      m.queue.next? = requests[commands.countP isColumn + 1]? ∧
      command = ServedRequest.column c.rowSplit bank ⟨request, c.settings.autoPrecharge &&
        m.queue.next?.any fun next =>
          c.rowSplit.row next.address != c.rowSplit.row request.address⟩ := by
  cases offers_of_issue issued with
  | @column request _ _ _ current =>
    obtain ⟨here, behind⟩ := progress.front current
    refine ⟨request, here, behind, ?_⟩
    rw [columnCommand_eq, closesAfter, progress.autoPrecharge, progress.built.index,
      ← progress.built.split]
    rfl
  | close => cases moves
  | openRow => cases moves

/-- A row is closed or opened for the next request, and only if the one before it used another. -/
theorem row (progress : Progress c bank m requests commands served part)
    (quiet : input.refreshRequest = false) {command : Command}
    (issued : m.issues input = some command) (row : command.isColumn = false) :
    ∃ request, requests[commands.countP isColumn]? = some request ∧
      ∀ before, (requests.take (commands.countP isColumn)).getLast? = some before →
        c.rowSplit.row before.address ≠ c.rowSplit.row request.address := by
  have stands := progress.stands
  rw [← progress.built.index, ← progress.built.split] at stands
  rw [issues, quiet] at issued
  obtain ⟨request, current, other⟩ := stands.row_ne issued row
  refine ⟨request, (progress.front current).1, ?_⟩
  intro before last
  rw [progress.countP_isColumn, progress.requests_eq, ← List.length_map ServedRequest.request,
    List.take_left, List.getLast?_map, Option.map_eq_some_iff] at last
  obtain ⟨s, found, rfl⟩ := last
  rw [lastAfter_eq, found] at other
  rw [← progress.built.split]
  exact other _ rfl

/-- A column command ends a group. -/
theorem next_of_column (progress : Progress c bank m requests commands served part)
    (quiet : input.refreshRequest = false) {command : Command}
    (issued : m.issues input = some command) (moves : command.isColumn = true) :
    ∃ served', Progress c bank (m.next input) (requests ++ (m.takes input).toList)
      (commands ++ (m.issues input).toList) served' [] := by
  have stands := progress.stands
  rw [← progress.built.index, ← progress.built.split] at stands
  rw [issues, quiet] at issued
  obtain ⟨request, current, rfl, rfl, after⟩ :=
    stands.commit_of_column issued moves (m.takes input)
  have consumed : consumes (m.issued false (!input.stall)) = true := by
    rw [issued_eq, issued]
    exact moves
  have queue : (m.commit false (!input.stall) (m.takes input)).queue.toList =
      m.queue.lookahead.toList ++ (m.takes input).toList :=
    (RequestQueue.toList_commit _ _ _).trans (by rw [if_pos consumed])
  rw [next_eq, issues, quiet]
  refine ⟨served ++ [⟨request, m.closesAfter (m.rowOf request)⟩], progress.built.commit,
    progress.autoPrecharge, ?_, ?_, ?_⟩
  · rw [queue, progress.requests_eq, RequestQueue.toList_of_current current]
    simp
  · rw [issued, progress.commands_eq, expansion_append, ← progress.built.index,
      ← progress.built.split, columnCommand_eq]
    simp [DramScheduler.expansion, rowOf]
  · rw [lastAfter_concat, ← progress.built.index, ← progress.built.split]
    exact after

/-- Without a column command the group in front goes on. -/
theorem next_of_rows (progress : Progress c bank m requests commands served part)
    (quiet : input.refreshRequest = false)
    (rows : ∀ command, m.issues input = some command → command.isColumn = false) :
    Progress c bank (m.next input) (requests ++ (m.takes input).toList)
      (commands ++ (m.issues input).toList) served (part ++ (m.issues input).toList) := by
  have stands := progress.stands
  rw [← progress.built.index, ← progress.built.split] at stands
  simp only [issues, quiet] at rows
  have queue : (m.commit false (!input.stall) (m.takes input)).queue.toList =
      m.queue.toList ++ (m.takes input).toList :=
    (RequestQueue.toList_commit _ _ _).trans
      (by rw [consumes_of_rows rows, if_neg Bool.false_ne_true])
  have after := stands.commit rows (m.takes input)
  rw [progress.built.index, progress.built.split] at after
  rw [next_eq, issues, quiet]
  refine ⟨progress.built.commit, progress.autoPrecharge, ?_, ?_, after⟩
  · rw [queue, progress.requests_eq, List.append_assoc]
  · rw [progress.commands_eq, List.append_assoc]

/-- **A clock edge carries the expansion on**, by a command of the group in front or to the next
group. -/
theorem next (progress : Progress c bank m requests commands served part)
    (quiet : input.refreshRequest = false) :
    ∃ served' part', Progress c bank (m.next input) (requests ++ (m.takes input).toList)
      (commands ++ (m.issues input).toList) served' part' := by
  by_cases column : ∃ command, m.issues input = some command ∧ command.isColumn = true
  · obtain ⟨command, issued, moves⟩ := column
    obtain ⟨served', done⟩ := progress.next_of_column quiet issued moves
    exact ⟨served', [], done⟩
  · refine ⟨served, _, progress.next_of_rows quiet ?_⟩
    intro command issued
    by_contra moves
    exact column ⟨command, issued, Bool.not_eq_false _ ▸ moves⟩

end Progress

/-- No refresh is requested in the course of a run. -/
def Quiet (past : List BankInput) : Prop :=
  ∀ input ∈ past, input.refreshRequest = false

/-- **The commands of a run are the expansion of its requests**, as long as no refresh is requested.
Induction on the run. -/
theorem exists_progress (c : Config) (bank : Nat) (past : List BankInput) (quiet : Quiet past) :
    ∃ served part, Progress c bank ((new bank c).run past) ((new bank c).requests past)
      ((new bank c).commands past) served part := by
  induction past using List.reverseRecOn with
  | nil => exact ⟨[], [], progress_new c bank⟩
  | append_singleton past input ih =>
    obtain ⟨served, part, progress⟩ := ih fun before mem => quiet before (by simp [mem])
    rw [run_concat, requests_concat, commands_concat]
    exact progress.next (quiet input (by simp))

/-- What the memory sees moved are the requests that were served, and it has the row of the machine
open. This holds of every run, refreshes included. -/
theorem exists_served (c : Config) (bank : Nat) (past : List BankInput) :
    ∃ served, (new bank c).requests past = served ++ ((new bank c).run past).queue.toList ∧
      List.Forall₂ (Burst.Serves c.rowSplit bank) served
        (OpenRows.allClosed.bursts ((new bank c).commands past)) ∧
      OpenRows.allClosed.replay ((new bank c).commands past) bank =
        ((new bank c).run past).openRow := by
  have built : ∀ past, ((new bank c).run past).BuiltFrom c bank := fun past =>
    run_induction (fun _ _ _ _ before => before.commit) (builtFrom_new bank c) past
  induction past using List.reverseRecOn with
  | nil => exact ⟨[], rfl, .nil, rfl⟩
  | append_singleton past input ih =>
    obtain ⟨served, taken, moved, row⟩ := ih
    have here : OpenRows.allClosed.replay ((new bank c).commands past)
        ((new bank c).run past).index = ((new bank c).run past).openRow := by
      rw [(built past).index]
      exact row
    obtain ⟨done, rest, front, after, now⟩ := serve_commit input.refreshRequest (!input.stall) here
      (((new bank c).run past).takes input)
    have same := replay_issue input.refreshRequest (!input.stall) here
      (((new bank c).run past).takes input)
    rw [(built past).index] at same
    rw [(built past).split, (built past).index] at now
    rw [run_concat, requests_concat, commands_concat, next_eq, OpenRows.bursts_append,
      OpenRows.replay_append]
    refine ⟨served ++ done, ?_, List.rel_append moved now, same⟩
    rw [taken, front, after]
    simp only [List.append_assoc]

/-! ### The expansion of a run -/

/-- What a bank machine makes of its requests while no refresh is requested, whatever is pushed and
whenever its commands are accepted. -/
structure ExpandsRequests (c : Config) (bank : Nat) (start : BankMachine) : Prop where
  /-- Up to a group that is not finished yet, the commands are the groups of the requests. -/
  expands : ∀ past, Quiet past → ∃ served : List ServedRequest,
    served.map ServedRequest.request = start.requests past ∧
      start.commands past <+: expansion c.rowSplit bank none served
  /-- After `n` column commands the next one serves the request at `n`. It closes the row if it
  may, and if the request behind is in the lookahead by then and needs another row. -/
  column : ∀ past input command, Quiet past →
    (start.run past).issues input = some command → command.isColumn = true →
    ∃ request, (start.requests past)[(start.commands past).countP isColumn]? = some request ∧
      (start.run past).queue.next? =
        (start.requests past)[(start.commands past).countP isColumn + 1]? ∧
      command = ServedRequest.column c.rowSplit bank ⟨request, c.settings.autoPrecharge &&
        (start.run past).queue.next?.any fun next =>
          c.rowSplit.row next.address != c.rowSplit.row request.address⟩
  /-- Any other command is for a request that needs another row than the one before it. -/
  row : ∀ past input command, Quiet (past ++ [input]) →
    (start.run past).issues input = some command → command.isColumn = false →
    ∃ request, (start.requests past)[(start.commands past).countP isColumn]? = some request ∧
      ∀ before, ((start.requests past).take ((start.commands past).countP isColumn)).getLast? =
          some before →
        c.rowSplit.row before.address ≠ c.rowSplit.row request.address
  /-- The rows that are opened are those of the requests, where they change. -/
  activates : ∀ past, Quiet past →
    (start.commands past).filter isActivate <+:
      (((start.requests past).map fun request => c.rowSplit.row request.address).destutter
        (· ≠ ·)).map (.activate bank)
  /-- Once everything is served, all of them were opened. -/
  activates_of_isEmpty : ∀ past, Quiet past → (start.run past).queue.isEmpty = true →
    (start.commands past).filter isActivate =
      (((start.requests past).map fun request => c.rowSplit.row request.address).destutter
        (· ≠ ·)).map (.activate bank)
  /-- What is moved are the requests, in their order, up to those that are in the queue. -/
  moves : ∀ past,
    (start.commands past).countP isColumn + (start.run past).queue.size =
        (start.requests past).length ∧
      List.Forall₂ (Burst.Serves c.rowSplit bank)
        ((start.requests past).take ((start.commands past).countP isColumn))
        (OpenRows.allClosed.bursts (start.commands past))

/-- **The commands of a bank machine are the canonical expansion of its requests**, in every
configuration and however the bus holds its commands back. -/
theorem new_expandsRequests (c : Config) (bank : Nat) :
    (BankMachine.new bank c).ExpandsRequests c bank where
  expands past quiet := by
    obtain ⟨served, part, progress⟩ := exists_progress c bank past quiet
    exact progress.isPrefix
  column past input command quiet issued moves := by
    obtain ⟨served, part, progress⟩ := exists_progress c bank past quiet
    exact progress.column issued moves
  row past input command quiet issued row := by
    obtain ⟨served, part, progress⟩ :=
      exists_progress c bank past fun before mem => quiet before (by simp [mem])
    exact progress.row (quiet input (by simp)) issued row
  activates past quiet := by
    obtain ⟨served, part, progress⟩ := exists_progress c bank past quiet
    obtain ⟨all, requests, isPrefix⟩ := progress.isPrefix
    have opened := isPrefix.filter isActivate
    rw [filter_isActivate_expansion] at opened
    rw [← requests, List.map_map]
    exact opened
  activates_of_isEmpty past quiet empty := by
    obtain ⟨served, part, progress⟩ := exists_progress c bank past quiet
    have done : ((new bank c).run past).queue.toList = [] := by
      by_contra pending
      rw [RequestQueue.isEmpty, RequestQueue.pending_iff.2 pending] at empty
      cases empty
    obtain ⟨requests, commands⟩ := progress.commands_eq_of_empty done
    rw [← requests, List.map_map, commands]
    exact filter_isActivate_expansion served
  moves past := by
    obtain ⟨served, taken, moved, -⟩ := exists_served c bank past
    have count : ((new bank c).commands past).countP isColumn = served.length := by
      rw [moved.length_eq, OpenRows.length_bursts, List.countP_eq_length_filter]
    rw [count, taken, List.take_left, List.length_append, RequestQueue.length_toList]
    exact ⟨rfl, moved⟩

/-- The same requests, the second one early enough for the first column command to close the row,
and too late for it. -/
example :
    let first : BankInput := { push := some ⟨false, 0⟩ }
    let second : BankInput := { push := some ⟨true, 256⟩ }
    let pause : List BankInput := .replicate 10 {}
    (new 0 default).commands (first :: second :: pause) =
        [.activate 0 0, .read 0 0 true, .activate 0 1, .write 0 0 false] ∧
      (new 0 default).commands (first :: pause ++ second :: pause) =
        [.activate 0 0, .read 0 0 false, .precharge 0 false, .activate 0 1, .write 0 0 false] := by
  decide

end BankMachine

end DramScheduler
