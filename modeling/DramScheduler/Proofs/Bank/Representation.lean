import DramScheduler.Proofs.Bank.Commands

/-!
# What the registers of a bank can hold together

The state of a bank, its open row and its queue are registers of their own, and most of what they
could hold together never occurs. A machine that closes a row does so for a request that needs
another one. A machine whose row was closed by a column command was told to do so by the request
after it, which is the one in front from the edge on. So there is a request whenever a row is about
to be opened, although only the states in which requests are served look at the queue.

The lookahead is bounded by the handshake alone: the queue would take a request too many if it were
handed one while it is not ready.

## Main results

* `RequestQueue.Bounded.commit` — the queue stays within its bounds;
* `BankMachine.Consistent.commit` — state, row and queue stay consistent.
-/

namespace DramScheduler

namespace RequestQueue

variable {q : RequestQueue} {push : Option BankRequest} {request : BankRequest}

/-- The lookahead is no longer than it may be, and short while no request is in front of it. -/
structure Bounded (q : RequestQueue) : Prop where
  /-- The lookahead is no longer than its depth. -/
  size_le : q.lookahead.size ≤ q.depth
  /-- Behind a free place one request waits at most. -/
  waiting : q.current = none → q.lookahead.size ≤ 1

/-- A queue without requests is within its bounds. -/
theorem bounded_new (depth : Nat) : (RequestQueue.new depth).Bounded :=
  ⟨Nat.zero_le _, fun _ => Nat.zero_le _⟩

/-- A clock edge does not change how many requests may wait. -/
@[simp] theorem depth_commit (q : RequestQueue) (consumed : Bool) (push : Option BankRequest) :
    (q.commit consumed push).depth = q.depth := by
  rw [commit]
  split <;> rfl

/-- A request that is taken is one more that waits. -/
theorem size_accept (waiting : Fifo BankRequest) (push : Option BankRequest) :
    (accept waiting push).size = waiting.size + push.toList.length := by
  rw [← Fifo.length_toList, toList_accept, List.length_append, Fifo.length_toList]

/-- A request that comes to the front is one less that waits. -/
theorem size_tail (waiting : Fifo BankRequest) : waiting.tail.size = waiting.size - 1 := by
  rw [← Fifo.length_toList, Fifo.toList_tail, List.length_tail, Fifo.length_toList]

/-- The request in front comes first. -/
theorem toList_of_current (front : q.current = some request) :
    q.toList = request :: q.lookahead.toList := by
  rw [toList, front]
  rfl

/-- A request that is not over stays in front. -/
theorem current_commit (front : q.current = some request) (push : Option BankRequest) :
    (q.commit false push).current = some request := by
  rw [commit, if_neg Bool.false_ne_true, front]

/-- The request after one that is over comes to the front. -/
theorem current_commit_of_consumed (q : RequestQueue) (push : Option BankRequest) :
    (q.commit true push).current = q.next? :=
  rfl

/-- **The queue stays within its bounds** if it is handed requests only while it is ready. It would
take one too many otherwise. -/
theorem Bounded.commit (bounded : q.Bounded) (consumed : Bool)
    (room : push.isSome = true → q.ready = true) : (q.commit consumed push).Bounded := by
  have taken : push.toList.length ≤ 1 := Option.length_toList_le
  have fits : q.lookahead.size + push.toList.length ≤ q.depth := by
    cases push with
    | none => exact bounded.size_le
    | some request => exact of_decide_eq_true (room rfl)
  refine ⟨?_, ?_⟩
  · rw [depth_commit, RequestQueue.commit]
    split
    · rw [size_accept]
      exact fits
    · rw [size_accept, size_tail]
      omega
  · rw [RequestQueue.commit]
    split
    · intro empty
      cases empty
    · intro empty
      -- nothing came to the front, so nothing waited
      have none_waits : q.lookahead.size = 0 := by
        rw [Fifo.head?_eq, List.head?_eq_none_iff] at empty
        rw [← Fifo.length_toList, empty]
        rfl
      rw [size_accept, size_tail, none_waits, Nat.zero_sub, Nat.zero_add]
      exact taken

end RequestQueue

namespace BankMachine

variable {m : BankMachine} {push : Option BankRequest} {refreshRequest accepted : Bool}

/-- State, row and queue of a bank fit together: a row is only closed or opened for a request, and
there is one to do it for. -/
structure Consistent (m : BankMachine) : Prop where
  queue : m.queue.Bounded
  /-- A row is closed for a request that needs another one. -/
  closing : m.state = .precharge → ∃ request row, m.queue.current = some request ∧
    m.openRow = some row ∧ row ≠ m.rowOf request
  /-- A row is closed once it is to be opened, and there is a request to open it for. -/
  opening : m.state = .autoPrecharge ∨ m.state = .activate →
    m.openRow = none ∧ m.queue.current.isSome = true

/-- A new machine serves requests, and there is none. -/
theorem consistent_new (i : Nat) (c : Config) : (BankMachine.new i c).Consistent where
  queue := RequestQueue.bounded_new _
  closing state := by cases state
  opening state := by rcases state with state | state <;> cases state

/-- A machine that seeks a row has a request to do so for. -/
theorem consistent_seekRow (m : BankMachine) :
    (m.seekRow = .precharge → ∃ request row, m.queue.current = some request ∧
        m.openRow = some row ∧ row ≠ m.rowOf request) ∧
      (m.seekRow = .autoPrecharge ∨ m.seekRow = .activate →
        m.openRow = none ∧ m.queue.current.isSome = true) := by
  rw [seekRow]
  cases front : m.queue.current with
  | none => simp
  | some request =>
    cases isOpen : m.openRow with
    | none => simp
    | some row =>
      dsimp only
      split
      · next other => simpa using other
      · simp

/-- The request after the last one of a row is known. -/
theorem next?_isSome_of_closesAfter {row : Nat} (closes : m.closesAfter row = true) :
    m.queue.next?.isSome = true := by
  rw [closesAfter, Bool.and_eq_true, Option.any_eq_true] at closes
  obtain ⟨next, found, -⟩ := closes.2
  exact Option.isSome_of_eq_some found

/-- **State, row and queue stay consistent** over every clock edge that hands the queue no more than
it has room for. -/
theorem Consistent.commit (consistent : m.Consistent) (refreshRequest accepted : Bool)
    (room : push.isSome = true → m.ready = true) :
    (m.commit refreshRequest accepted push).Consistent := by
  suffices fits : ∀ {command state row}, m.Edge refreshRequest command state row →
      (state = .precharge → ∃ request closed,
        (m.queue.commit (consumes (command.getD .nop)) push).current = some request ∧
          row = some closed ∧ closed ≠ m.rowOf request) ∧
      (state = .autoPrecharge ∨ state = .activate → row = none ∧
        (m.queue.commit (consumes (command.getD .nop)) push).current.isSome = true) by
    have result := fits (m.edge_commit refreshRequest accepted push)
    rw [← issued_eq] at result
    exact ⟨consistent.queue.commit _ room, result.1, result.2⟩
  intro command state row edge
  -- without a column command the request in front stays there
  have stays : m.queue.current.isSome = true →
      (m.queue.commit false push).current.isSome = true := by
    intro present
    obtain ⟨request, front⟩ := Option.isSome_iff_exists.1 present
    exact Option.isSome_of_eq_some (RequestQueue.current_commit front push)
  have keeps : (∃ request row, m.queue.current = some request ∧ m.openRow = some row ∧
      row ≠ m.rowOf request) → ∃ request row, (m.queue.commit false push).current = some request ∧
        m.openRow = some row ∧ row ≠ m.rowOf request := by
    rintro ⟨request, row, front, isOpen, other⟩
    exact ⟨request, row, RequestQueue.current_commit front push, isOpen, other⟩
  cases edge with
  | park => simp
  | serve => simp
  | serveLast _ _ _ _ _ closes =>
    refine ⟨by simp, fun _ => ⟨rfl, ?_⟩⟩
    rw [Option.getD_some, consumes, isColumn_columnCommand,
      RequestQueue.current_commit_of_consumed]
    exact next?_isSome_of_closesAfter closes
  | seek =>
    obtain ⟨closing, opening⟩ := m.consistent_seekRow
    exact ⟨fun state => keeps (closing state),
      fun state => ⟨(opening state).1, stays (opening state).2⟩⟩
  | close before =>
    obtain ⟨request, -, front, -⟩ := consistent.closing before
    exact ⟨by simp, fun _ => ⟨rfl, stays (Option.isSome_of_eq_some front)⟩⟩
  | holdClose before => exact ⟨fun _ => keeps (consistent.closing before), by simp⟩
  | settle before =>
    obtain ⟨closed, present⟩ := consistent.opening (.inl before)
    exact ⟨by simp, fun _ => ⟨closed, stays present⟩⟩
  | holdSettle before =>
    obtain ⟨closed, present⟩ := consistent.opening (.inl before)
    exact ⟨by simp, fun _ => ⟨closed, stays present⟩⟩
  | openRow => simp
  | holdOpen before =>
    obtain ⟨closed, present⟩ := consistent.opening (.inr before)
    exact ⟨by simp, fun _ => ⟨closed, stays present⟩⟩
  | closeParked => cases refreshRequest <;> simp
  | holdParked => cases refreshRequest <;> simp

end BankMachine

end DramScheduler
