import DramScheduler.Config.Basic
import DramScheduler.Dfi

/-!
# Commands onto phases

The commands issued in a cycle are put on the phases of the memory interface and registered,
so the memory sees them one cycle later. While data moves in one direction, column commands
have a phase of their own and row commands another; a refresh round uses the first phase.
-/

namespace DramScheduler

/-- The two ways in which data moves on the data bus. -/
inductive Direction where
  | read | write
  deriving DecidableEq, Repr, Inhabited

/-- What is put on a phase: nothing, or the command of one of the three that may issue. In a cycle
every phase has one source. -/
inductive Source where
  /-- An idle phase. -/
  | nothing
  /-- The command of the row chooser. -/
  | row
  /-- The command of the column chooser. -/
  | column
  /-- The command of the refresher. -/
  | refresh
  deriving DecidableEq, Repr, Inhabited

/-- The name under which a source is shown. -/
def Source.name : Source → String
  | nothing => "Nop"
  | row => "Cmd"
  | column => "Req"
  | refresh => "Refresh"

/-- The phases of the interface and their use. Which phase carries which kind of command is fixed by
the configuration for either direction. -/
structure Phases where
  /-- What each phase carries, as it was registered at the last edge. -/
  registers : List Phase
  /-- The phase of the column commands while reading. -/
  readPhase : Nat
  /-- The phase of the column commands while writing. -/
  writePhase : Nat
  /-- The phase of the row commands while reading. -/
  readRowPhase : Nat
  /-- The phase of the row commands while writing. -/
  writeRowPhase : Nat
  /-- Bank address bits within a rank. -/
  bankBits : Nat
  /-- Chip selects. -/
  ranks : Nat
  deriving DecidableEq, Repr, Inhabited

namespace Phases

/-- The phases of an interface, all of them idle. -/
def new (phy : Phy) (bankBits : Nat) : Phases where
  registers := List.replicate phy.phases .idle
  readPhase := phy.readPhase
  writePhase := phy.writePhase
  readRowPhase := phy.readRowPhase
  writeRowPhase := phy.writeRowPhase
  bankBits := bankBits
  ranks := phy.ranks

/-- The number of phases. -/
def count (p : Phases) : Nat :=
  p.registers.length

/-- The phase that column commands go to in a direction. -/
def columnPhase (p : Phases) : Direction → Nat
  | .read => p.readPhase
  | .write => p.writePhase

/-- The phase that row commands go to in a direction. -/
def rowPhase (p : Phases) : Direction → Nat
  | .read => p.readRowPhase
  | .write => p.writeRowPhase

/-- What is put on each phase while data moves in a direction. Columns come first where both uses
share a phase. -/
def sources (p : Phases) (d : Direction) : List Source :=
  (List.range p.count).map fun i =>
    if i = p.columnPhase d then .column else if i = p.rowPhase d then .row else .nothing

/-- What is put on each phase during a refresh round: the first one is the refresher's. -/
def refreshSources (p : Phases) : List Source :=
  (List.range p.count).map fun i => if i = 0 then .refresh else .nothing

/-- What is put on each phase while the bus turns around, which is nothing. -/
def noSources (p : Phases) : List Source :=
  List.replicate p.count .nothing

/-- Registers the commands issued in a cycle, one entry per phase. Phases without an entry keep what
they carry. -/
def commit (p : Phases) (issued : List (Option Command)) : Phases :=
  let driven := issued.map fun
    | some command => Phase.drive command p.bankBits p.ranks
    | none => Phase.idle
  { p with registers := driven.take p.count ++ p.registers.drop issued.length }

/-- There are as many phases after an edge as before it, however many entries were given. -/
@[simp] theorem count_commit (p : Phases) (issued : List (Option Command)) :
    (p.commit issued).count = p.count := by
  simp only [commit, count, List.length_append, List.length_take, List.length_map,
    List.length_drop]
  omega

end Phases

end DramScheduler
