import DramScheduler.Bus.CommandBus

/-!
# Where the bus goes

`CommandBus.nextState` decides over the bus by a cascade of tests. The relation
`CommandBus.Moves` has one constructor for each way through it, with everything that has been
tested on the way, so that what a clock edge keeps can be proved move by move.

## Main results

* `CommandBus.moves_nextState` — every clock edge makes one of the moves;
* `CommandBus.nextState_eq_refresh_iff` — how the bus gets to the refresher, or stays there;
* `CommandBus.state_of_reading` — how it gets to reading.
-/

namespace DramScheduler.CommandBus

variable {b : CommandBus} {d : Decision} {refresh : RefresherOutputs}

/-- What can become of the bus at a clock edge, with what it was decided on. All that is said of its
states over a run goes through these cases. -/
inductive Moves (b : CommandBus) (d : Decision) (refresh : RefresherOutputs) : BusState → Prop
  /-- Every bank is at rest, and the refresher gets the bus. -/
  | handOver (state : b.state = .read ∨ b.state = .write) (rest : d.goToRefresh = true) :
      Moves b d refresh .refresh
  /-- The bus goes on reading. -/
  | keepReading (state : b.state = .read) (on : d.goToRefresh = false)
      (stay : (d.writeAvailable && (!d.readAvailable || b.readBudget.expired)) = false) :
      Moves b d refresh .read
  /-- The bus turns to writing, and takes no time for it. -/
  | turnAtOnce (state : b.state = .read) (on : d.goToRefresh = false)
      (turn : (d.writeAvailable && (!d.readAvailable || b.readBudget.expired)) = true)
      (short : b.readToWrite ≤ 1) : Moves b d refresh .write
  /-- The bus begins to turn to writing. -/
  | turnToWrite (state : b.state = .read) (on : d.goToRefresh = false)
      (turn : (d.writeAvailable && (!d.readAvailable || b.readBudget.expired)) = true)
      (long : 1 < b.readToWrite) : Moves b d refresh (.readToWrite (b.readToWrite - 1))
  /-- The turn to writing goes on. -/
  | keepTurning {remaining : Nat} (state : b.state = .readToWrite remaining)
      (more : 1 < remaining) : Moves b d refresh (.readToWrite (remaining - 1))
  /-- The turn to writing is over. -/
  | turned {remaining : Nat} (state : b.state = .readToWrite remaining)
      (ends : remaining ≤ 1) : Moves b d refresh .write
  /-- The bus goes on writing. -/
  | keepWriting (state : b.state = .write) (on : d.goToRefresh = false)
      (stay : (d.readAvailable && (!d.writeAvailable || b.writeBudget.expired)) = false) :
      Moves b d refresh .write
  /-- The bus begins to turn to reading. -/
  | turnToRead (state : b.state = .write) (on : d.goToRefresh = false)
      (turn : (d.readAvailable && (!d.writeAvailable || b.writeBudget.expired)) = true) :
      Moves b d refresh .writeToRead
  /-- Written data has not settled yet. -/
  | keepSettling (state : b.state = .writeToRead) (early : b.writeToRead.ready = false) :
      Moves b d refresh .writeToRead
  /-- Written data has settled. -/
  | settled (state : b.state = .writeToRead) (ready : b.writeToRead.ready = true) :
      Moves b d refresh .read
  /-- The round goes on. -/
  | keepRefreshing (state : b.state = .refresh) (more : refresh.last = false) :
      Moves b d refresh .refresh
  /-- The round is over, and the bus is reading again. -/
  | handBack (state : b.state = .refresh) (ends : refresh.last = true) : Moves b d refresh .read

/-- **Every clock edge makes one of the moves.** The cases are those of the state, and the tests
that are made in it. -/
theorem moves_nextState (b : CommandBus) (d : Decision) (refresh : RefresherOutputs) :
    b.Moves d refresh (b.nextState d refresh) := by
  rw [nextState]
  cases state : b.state with
  | read =>
    dsimp only
    cases rest : d.goToRefresh with
    | true => exact .handOver (.inl state) rest
    | false =>
      rw [if_neg Bool.false_ne_true]
      cases turn : d.writeAvailable && (!d.readAvailable || b.readBudget.expired) with
      | false => exact .keepReading state rest turn
      | true =>
        rw [if_pos rfl, CommandBus.turnToWrite]
        split
        · next short => exact .turnAtOnce state rest turn short
        · next long => exact .turnToWrite state rest turn (Nat.lt_of_not_le long)
  | write =>
    dsimp only
    cases rest : d.goToRefresh with
    | true => exact .handOver (.inr state) rest
    | false =>
      rw [if_neg Bool.false_ne_true]
      cases turn : d.readAvailable && (!d.writeAvailable || b.writeBudget.expired) with
      | false => exact .keepWriting state rest turn
      | true => exact .turnToRead state rest turn
  | refresh =>
    cases ends : refresh.last with
    | false => exact .keepRefreshing state ends
    | true => exact .handBack state ends
  | writeToRead =>
    cases ready : b.writeToRead.ready with
    | false => exact .keepSettling state ready
    | true => exact .settled state ready
  | readToWrite remaining =>
    dsimp only
    split
    · next ends => exact .turned state ends
    · next more => exact .keepTurning state (Nat.lt_of_not_le more)

/-- The bus belongs to the refresher after an edge if it was just handed over, or if the round
was not over yet. -/
theorem nextState_eq_refresh_iff :
    b.nextState d refresh = .refresh ↔
      ((b.state = .read ∨ b.state = .write) ∧ d.goToRefresh) ∨
        (b.state = .refresh ∧ refresh.last = false) := by
  constructor
  · intro after
    have move := b.moves_nextState d refresh
    rw [after] at move
    cases move with
    | handOver state rest => exact .inl ⟨state, rest⟩
    | keepRefreshing state more => exact .inr ⟨state, more⟩
  · rintro (⟨state | state, rest⟩ | ⟨state, more⟩)
    · simp [nextState, state, rest]
    · simp [nextState, state, rest]
    · simp [nextState, state, more]

/-- The bus reads, or turns away from reading, only if it did before, if written data has settled,
or if a round is over. -/
theorem state_of_reading
    (after : b.nextState d refresh = .read ∨
      ∃ remaining, b.nextState d refresh = .readToWrite remaining) :
    (b.state = .read ∨ ∃ remaining, b.state = .readToWrite remaining) ∨
      (b.state = .writeToRead ∧ b.writeToRead.ready = true) ∨
        (b.state = .refresh ∧ refresh.last = true) := by
  have move := b.moves_nextState d refresh
  rcases after with after | ⟨remaining, after⟩
  · rw [after] at move
    cases move with
    | keepReading state => exact .inl (.inl state)
    | settled state ready => exact .inr (.inl ⟨state, ready⟩)
    | handBack state ends => exact .inr (.inr ⟨state, ends⟩)
  · rw [after] at move
    cases move with
    | turnToWrite state => exact .inl (.inl state)
    | keepTurning state => exact .inl (.inr ⟨_, state⟩)

end DramScheduler.CommandBus
