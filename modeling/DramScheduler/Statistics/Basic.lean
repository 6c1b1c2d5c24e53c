import DramScheduler.Command

/-!
# Statistics

Counts of what the scheduler did: cycles, commands by kind, and requests. The two ratios of a
report are taken from them in floating point: the share of cycles with a column command, and
the share of column commands that found their row open.
-/

namespace DramScheduler

/-- The counts of a run. Each is taken from what a cycle shows, none from the registers of the
scheduler, but for the turns of the bus. -/
structure Statistics where
  /-- Cycles of the run. -/
  cycles : Nat := 0
  /-- Cycles in which the refresher had the command bus. -/
  refreshCycles : Nat := 0
  /-- Turns of the data bus. -/
  directionSwitches : Nat := 0
  /-- Rows opened. -/
  activates : Nat := 0
  /-- Rows closed by a command of their own. -/
  precharges : Nat := 0
  /-- Commands that closed every row. -/
  prechargeAlls : Nat := 0
  /-- Read commands. -/
  reads : Nat := 0
  /-- Write commands. -/
  writes : Nat := 0
  /-- Column commands that closed their row. -/
  autoPrecharges : Nat := 0
  /-- Refresh commands. -/
  refreshes : Nat := 0
  /-- Calibration commands. -/
  calibrations : Nat := 0
  /-- Requests taken by the bank machines. -/
  requestsAccepted : Nat := 0
  /-- Writes whose data was taken. -/
  writesCompleted : Nat := 0
  /-- Reads whose data was returned. -/
  readsCompleted : Nat := 0
  deriving DecidableEq, Repr, Inhabited

namespace Statistics

/-- Counts one issued command under its kind. A column command that closes its row counts twice, as
an access and as a close. -/
def record (s : Statistics) : Command → Statistics
  | .nop => s
  | .activate .. => { s with activates := s.activates + 1 }
  | .precharge _ true => { s with prechargeAlls := s.prechargeAlls + 1 }
  | .precharge _ false => { s with precharges := s.precharges + 1 }
  | .read _ _ close =>
    { s with reads := s.reads + 1, autoPrecharges := s.autoPrecharges + close.toNat }
  | .write _ _ close =>
    { s with writes := s.writes + 1, autoPrecharges := s.autoPrecharges + close.toNat }
  | .refresh _ => { s with refreshes := s.refreshes + 1 }
  | .calibrate => { s with calibrations := s.calibrations + 1 }

/-- Counts issued commands in turn. -/
def recordAll (s : Statistics) (commands : List Command) : Statistics :=
  commands.foldl record s

/-- Column commands of either direction. -/
def accesses (s : Statistics) : Nat :=
  s.reads + s.writes

/-- A count as a floating-point number. -/
def toFloat (count : Nat) : Float :=
  count.toUInt64.toFloat

/-- A ratio of counts; zero if there is nothing to divide by. -/
def ratio (part whole : Nat) : Float :=
  if whole = 0 then 0.0 else toFloat part / toFloat whole

/-- The share of cycles that carried a column command. -/
def busUtilization (s : Statistics) : Float :=
  ratio s.accesses s.cycles

/-- The share of column commands that needed no row to be opened. More activates than accesses give
zero. -/
def rowHitRate (s : Statistics) : Float :=
  ratio (s.accesses - s.activates) s.accesses

/-- The share of cycles in which the refresher had the bus. -/
def refreshShare (s : Statistics) : Float :=
  toFloat s.refreshCycles / toFloat (max s.cycles 1)

end Statistics

end DramScheduler
