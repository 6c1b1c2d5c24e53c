import DramScheduler.Proofs.Bank.Commands
import DramScheduler.Proofs.Run

/-!
# A bank machine on its own

What a bank machine does is up to its surroundings in three ways: a refresh may be requested, the
bus may hold the offered command back, and a request may come in, which is taken if the queue has
room for it. A run of one machine goes over a list of such inputs, and two things can be seen of it:
the commands that were issued, and the requests that were taken.

## Main definitions

* `BankMachine.run` — the machine after a run;
* `BankMachine.commands`, `BankMachine.requests` — what can be seen of a run.
-/

namespace DramScheduler

/-- What comes to a bank machine in one cycle: by default nothing at all, so that a run can name
what matters. -/
structure BankInput where
  /-- A refresh is requested. -/
  refreshRequest : Bool := false
  /-- The command that is offered, if there is one, is not issued. -/
  stall : Bool := false
  /-- The request that comes in, if there is one; it is taken if there is room. -/
  push : Option BankRequest := none
  deriving DecidableEq, Repr, Inhabited

namespace BankMachine

variable {m : BankMachine} {past : List BankInput} {input : BankInput}

/-! ### One cycle -/

/-- The machine after a cycle. -/
def next (m : BankMachine) (input : BankInput) : BankMachine :=
  (m.cycle input.refreshRequest input.stall input.push).after

/-- The command that is issued in a cycle, if one is offered and the bus does not hold it back. -/
def issues (m : BankMachine) (input : BankInput) : Option Command :=
  m.issue input.refreshRequest (!input.stall)

/-- The request that is taken in a cycle, if one comes in and the queue has room. -/
def takes (m : BankMachine) (input : BankInput) : Option BankRequest :=
  if m.ready then input.push else none

/-- Without an offered command it makes no difference whether one is accepted, so a cycle is the
clock edge for whatever was not held back. -/
theorem next_eq (m : BankMachine) (input : BankInput) :
    m.next input = m.commit input.refreshRequest (!input.stall) (m.takes input) := by
  have issued : m.issued input.refreshRequest
      ((m.offer input.refreshRequest).isSome && !input.stall) =
        m.issued input.refreshRequest (!input.stall) := by
    rw [BankMachine.issued, BankMachine.issued]
    cases m.offer input.refreshRequest <;> cases input.stall <;> rfl
  simp only [next, cycle, evaluate, commit, issued]
  rfl

/-! ### Runs -/

/-- The machine after a run, which is one cycle after the other. -/
def run (m : BankMachine) (past : List BankInput) : BankMachine :=
  past.foldl next m

/-- The commands issued in the course of a run. -/
def commands (m : BankMachine) (past : List BankInput) : List Command :=
  (Run.cycles next m past).filterMap fun cycle => cycle.1.issues cycle.2

/-- The requests taken in the course of a run. -/
def requests (m : BankMachine) (past : List BankInput) : List BankRequest :=
  (Run.cycles next m past).filterMap fun cycle => cycle.1.takes cycle.2

/-- A run over two parts goes on from where the first part led. -/
theorem run_append (m : BankMachine) (past later : List BankInput) :
    m.run (past ++ later) = (m.run past).run later :=
  List.foldl_append

/-- One more cycle comes after the run. -/
theorem run_concat (m : BankMachine) (past : List BankInput) (input : BankInput) :
    m.run (past ++ [input]) = (m.run past).next input :=
  m.run_append past [input]

/-- The commands of two parts come one after the other. -/
theorem commands_append (m : BankMachine) (past later : List BankInput) :
    m.commands (past ++ later) = m.commands past ++ (m.run past).commands later := by
  rw [commands, Run.cycles_append, List.filterMap_append]
  rfl

/-- The requests of two parts come one after the other. -/
theorem requests_append (m : BankMachine) (past later : List BankInput) :
    m.requests (past ++ later) = m.requests past ++ (m.run past).requests later := by
  rw [requests, Run.cycles_append, List.filterMap_append]
  rfl

/-- The command of the first cycle comes first. -/
theorem commands_cons (m : BankMachine) (input : BankInput) (rest : List BankInput) :
    m.commands (input :: rest) = (m.issues input).toList ++ (m.next input).commands rest := by
  rw [commands, Run.cycles, List.filterMap_cons]
  cases m.issues input <;> rfl

/-- The request of the first cycle comes first. -/
theorem requests_cons (m : BankMachine) (input : BankInput) (rest : List BankInput) :
    m.requests (input :: rest) = (m.takes input).toList ++ (m.next input).requests rest := by
  rw [requests, Run.cycles, List.filterMap_cons]
  cases m.takes input <;> rfl

/-- The command of one more cycle comes last. -/
theorem commands_concat (m : BankMachine) (past : List BankInput) (input : BankInput) :
    m.commands (past ++ [input]) = m.commands past ++ ((m.run past).issues input).toList := by
  rw [commands_append, commands_cons, show ((m.run past).next input).commands [] = [] from rfl,
    List.append_nil]

/-- The request of one more cycle comes last. -/
theorem requests_concat (m : BankMachine) (past : List BankInput) (input : BankInput) :
    m.requests (past ++ [input]) = m.requests past ++ ((m.run past).takes input).toList := by
  rw [requests_append, requests_cons, show ((m.run past).next input).requests [] = [] from rfl,
    List.append_nil]

/-- What every clock edge keeps holds after every run, whatever is requested, accepted and taken. -/
theorem run_induction {P : BankMachine → Prop}
    (edge : ∀ (m : BankMachine) (refreshRequest accepted : Bool) (push : Option BankRequest), P m →
      P (m.commit refreshRequest accepted push))
    (first : P m) (past : List BankInput) : P (m.run past) :=
  List.foldlRecOn past next first fun now kept input _ => by
    rw [next_eq]
    exact edge now _ _ _ kept

end BankMachine

end DramScheduler
