import DramScheduler.Command
import DramScheduler.RoundRobin

/-!
# Choosing among the banks

A chooser shows one command of the banks per cycle. A bank is a candidate if it offers a
command of a class that is wanted in this cycle. The chooser shows the command of the bank
that its arbiter grants, if that bank is a candidate; otherwise it shows nothing and the grant
moves on to a candidate at the edge. So every choice costs a cycle of moving, but a bank that
keeps offering keeps being shown until its command is taken.
-/

namespace DramScheduler

/-- The classes of commands wanted in a cycle. By default none is, and then nothing is a
candidate. -/
structure Wants where
  /-- Row and maintenance commands. -/
  rows : Bool := false
  /-- Row commands that open a row; they are row commands, too. -/
  activates : Bool := false
  /-- Column commands that read. -/
  reads : Bool := false
  /-- Column commands that write. -/
  writes : Bool := false
  deriving DecidableEq, Repr, Inhabited

/-- Whether a command belongs to a class that is wanted. To open a row takes both of the flags for
rows. -/
def Wants.admits (w : Wants) (c : Command) : Bool :=
  if c.isRow then w.rows && (w.activates || !c.isActivate)
  else (w.reads && c.isRead) || (w.writes && c.isWrite)

/-- A command together with the bank that offers it. -/
structure Choice where
  /-- The number of the bank. -/
  bank : Nat
  /-- The command that it offers. -/
  command : Command
  deriving DecidableEq, Repr, Inhabited

/-- What a chooser found in one cycle. -/
structure Selection where
  /-- For each bank, whether it is a candidate. -/
  candidates : List Bool
  /-- The command shown, if the bank that has the grant is a candidate. -/
  choice : Option Choice
  deriving DecidableEq, Repr, Inhabited

/-- A chooser among the banks, which is its arbiter and nothing else. -/
structure Chooser where
  /-- The round robin over the banks. -/
  arbiter : RoundRobin
  deriving DecidableEq, Repr, Inhabited

namespace Chooser

/-- A chooser among that many banks, the first of which has the grant. -/
def new (banks : Nat) : Chooser :=
  ⟨.new banks⟩

/-- The bank whose command is shown if it is a candidate. -/
def grant (c : Chooser) : Nat :=
  c.arbiter.grant

/-- The command shown in this cycle, given what every bank offers. Only the bank that has the grant
is looked at. -/
def choice (c : Chooser) (offers : List (Option Command)) (wants : Wants) : Option Choice :=
  ((offers[c.grant]?.join).filter wants.admits).map fun command => ⟨c.grant, command⟩

/-- The candidates and the command shown in this cycle. -/
def evaluate (c : Chooser) (offers : List (Option Command)) (wants : Wants) : Selection where
  candidates := offers.map fun offer => offer.any wants.admits
  choice := c.choice offers wants

/-- One clock edge. The grant moves once the command shown was taken, and also while none is shown;
a command that is shown and held back keeps it. -/
def commit (c : Chooser) (selection : Selection) (taken : Bool) : Chooser :=
  ⟨c.arbiter.commit (taken || selection.choice.isNone) selection.candidates⟩

end Chooser

end DramScheduler
