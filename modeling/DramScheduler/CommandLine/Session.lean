import DramScheduler.CommandLine.Arguments
import DramScheduler.Config.Reader
import DramScheduler.Statistics.Report
import DramScheduler.Traffic.Run

/-!
# What the program answers

An invocation is answered by two texts and an exit code: 0 if it was carried out, 1 if the
configuration cannot be used, 2 if the program was not used properly. The answer depends on
the arguments and on the document they name alone, so reading files is left to the caller.
-/

namespace DramScheduler.CommandLine

/-- The answer to an invocation. -/
structure Outcome where
  /-- Zero if the invocation was carried out. -/
  exitCode : Nat
  /-- The text for the standard output. -/
  output : String
  /-- Lines for the standard error output. -/
  errors : List String
  deriving DecidableEq, Repr, Inhabited

namespace Outcome

/-- An invocation that was carried out. -/
def success (output : String) : Outcome :=
  ⟨0, output, []⟩

/-- An invocation whose configuration cannot be used. -/
def failure (error : String) : Outcome :=
  ⟨1, "", [error]⟩

/-- An improper use of the program. -/
def misuse : Outcome :=
  ⟨2, "", []⟩

end Outcome

/-- The name and the version of the program. -/
def versionText : String :=
  "dramctl 0.3.0\n"

/-- The usage of the program. -/
def helpText : String :=
  "Usage: dramctl run [-c PATH] [-p PATTERN] [--ports N] [--cycles N] [--writes PERCENT]\n" ++
  "                   [--seed N] [--stats SECTIONS] [--json]\n" ++
  "       dramctl check PATH\n"

/-- The content of a document, or why it could not be read. -/
abbrev Document := Except String String

/-- The configuration in a document at a path. -/
def loadAt (path : String) (document : Document) : Except String Config :=
  let loaded := match document with
    | .ok text => Config.load text
    | .error reason => .error (.unreadable reason)
  loaded.mapError fun e => s!"Error in configuration {path}: {e.message}"

/-! ### Running traffic -/

namespace RunOptions

/-- Cycles to run for; a hundred thousand unless said otherwise. -/
def cycleCount (o : RunOptions) : Nat :=
  o.cycles.getD 100000

/-- Pattern of the traffic; random unless said otherwise. -/
def trafficPattern (o : RunOptions) : TrafficPattern :=
  o.pattern.getD .random

/-- Share of writes in per cent; one half unless said otherwise. -/
def writeShare (o : RunOptions) : Nat :=
  o.writes.getD 50

/-- Seed of the traffic, fixed unless said otherwise, so that runs can be repeated. -/
def trafficSeed (o : RunOptions) : UInt64 :=
  .ofNat (o.seed.getD 0x2545F4914F6CDD1D)

/-- The configuration of a run: the loaded one, or the one with every default, with its ports
replaced if a number of ports is given. There is at least one port then. -/
def configure (o : RunOptions) (document : Document) : Except String Config := do
  let config ← match o.config with
    | some path => loadAt path document
    | none => .ok {}
  return match o.ports with
    | some ports => { config with ports := List.replicate (max ports 1) {} }
    | none => config

/-- The counts of a run, or what is wrong with its configuration. -/
def statistics (o : RunOptions) (config : Config) : Except String Statistics :=
  match TrafficRun.new config o.trafficPattern o.trafficSeed o.writeShare with
  | .ok start => .ok (start.run o.cycleCount).system.statistics
  | .error e => .error s!"Error: {e.message}"

/-- The report in the form asked for. -/
def report (o : RunOptions) (s : Statistics) : String :=
  if o.json then s.toJson ++ "\n" else s.report o.sections

end RunOptions

/-! ### Checking a configuration -/

/-- The parameters of an accepted configuration. -/
def describe (path : String) (c : Config) : String :=
  let kind := c.phy.memoryType.name
  let phases := c.phy.phases
  let banks := c.banks
  let native := c.nativeWidth
  let width := c.addressWidth
  let rows := c.geometry.rowBits
  let words := c.wordBits
  let bankBits := c.bankIndexBits
  let toPrecharge := c.writeToPrecharge
  let toRead := c.writeToRead
  let toWrite := c.readToWrite
  let refresh := c.refreshCycles
  let ports := c.ports.length
  s!"Configuration {path}: ok\n" ++
  s!"  {kind} x{phases} phases  {banks} banks  native width {native} bits\n" ++
  s!"  address width {width} bits  ({rows} row, {words} column word, {bankBits} bank)\n" ++
  s!"  write-to-precharge {toPrecharge}  write-to-read {toRead}  read-to-write {toWrite}  " ++
  s!"refresh sequence {refresh} cycles\n" ++
  s!"  ports {ports}\n"

/-! ### Answers -/

/-- The text that answers an invocation, or the error that ends it. -/
def Invocation.answer (document : Document) : Invocation → Except String String
  | .version => .ok versionText
  | .help => .ok helpText
  | .check path => (loadAt path document).map (describe path)
  | .run options => do
    let config ← options.configure document
    let statistics ← options.statistics config
    return options.report statistics

/-- The outcome of an invocation, given the content of the document it names. -/
def Invocation.outcome (i : Invocation) (document : Document) : Outcome :=
  match i.answer document with
  | .ok text => .success text
  | .error e => .failure e

end DramScheduler.CommandLine
