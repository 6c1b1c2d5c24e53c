import DramScheduler.Decimal.Digits
import DramScheduler.Statistics.Basic

/-!
# Reports of statistics

The counts of a run as a text in sections, and as one JSON object. In the text, shares are
percentages with two places; in the object they are numbers with as few digits as they need.
The members of the object come in alphabetical order.
-/

namespace DramScheduler

/-- The sections of a report. -/
inductive ReportSection where
  | summary | commands | requests
  deriving DecidableEq, Repr, Inhabited

/-- The name a section is asked for by. -/
def ReportSection.name : ReportSection → String
  | summary => "summary"
  | commands => "commands"
  | requests => "requests"

/-- Every section, in the order they are printed. -/
def ReportSection.all : List ReportSection :=
  [summary, commands, requests]

namespace Statistics

/-! ### Text -/

/-- Characters of a line across the report. -/
def reportWidth : Nat := 58

/-- The line around a report and its title. -/
def frameLine : String :=
  "".pushn '=' reportWidth

/-- The line between two sections. -/
def ruleLine : String :=
  "".pushn '-' reportWidth

/-- A name and its value, the values of one section below each other. -/
def entry (width : Nat) (name value : String) : String :=
  name.pushn ' ' (width - name.length) ++ " " ++ value

/-- A share as a percentage with two places. -/
def percentage (share : Float) : String :=
  Decimal.fixed 2 (.ofFloat (share * 100.0)) ++ "%"

/-- The section on the run as a whole, with its shares. -/
def summaryLines (s : Statistics) : List String :=
  let line (name value : String) := entry 24 name value
  [ line "sim_cycles" (toString s.cycles),
    line "bus_utilization" (percentage s.busUtilization),
    line "row_hit_rate" (percentage s.rowHitRate),
    line "refresh_cycles" (toString s.refreshCycles ++ " (" ++ percentage s.refreshShare ++ ")"),
    line "direction_switches" (toString s.directionSwitches),
    ruleLine ]

/-- A line of the later sections. -/
def countLine (name : String) (count : Nat) : String :=
  "  " ++ entry 22 name (toString count)

/-- The section on commands, by kind. -/
def commandLines (s : Statistics) : List String :=
  [ "COMMAND MIX",
    countLine "cmd.activate" s.activates,
    countLine "cmd.precharge" s.precharges,
    countLine "cmd.precharge_all" s.prechargeAlls,
    countLine "cmd.read" s.reads,
    countLine "cmd.write" s.writes,
    countLine "cmd.auto_precharge" s.autoPrecharges,
    countLine "cmd.refresh" s.refreshes,
    countLine "cmd.zqcs" s.calibrations,
    ruleLine ]

/-- The section on requests, from their acceptance to their data. -/
def requestLines (s : Statistics) : List String :=
  [ "REQUESTS",
    countLine "req.accepted" s.requestsAccepted,
    countLine "req.reads_completed" s.readsCompleted,
    countLine "req.writes_completed" s.writesCompleted ]

/-- The lines of a section. -/
def sectionLines (s : Statistics) : ReportSection → List String
  | .summary => s.summaryLines
  | .commands => s.commandLines
  | .requests => s.requestLines

/-- The report with the sections of the given names, or with every section if no name is
given. Names of no section are passed over. -/
def report (s : Statistics) (wanted : List String) : String :=
  let sections := ReportSection.all.filter fun part =>
    wanted.isEmpty || wanted.contains part.name
  let lines := [frameLine, "DRAM CONTROLLER STATISTICS", frameLine] ++
    sections.flatMap s.sectionLines ++ [frameLine]
  String.join (lines.map fun line => line ++ "\n")

/-! ### JSON -/

/-- Numbers are written positionally from `1e-5` up to sixteen digits before the point. -/
def numberStyle : Decimal.Style :=
  ⟨16, 4⟩

/-- An object of members that are already written. -/
def jsonObject (members : List (String × String)) : String :=
  let member : String × String → String := fun (key, value) => "\"" ++ key ++ "\":" ++ value
  "\x7b" ++ ",".intercalate (members.map member) ++ "\x7d"

/-- The statistics as one JSON object. The fields come in the order of their names, inside it and
inside its parts. -/
def toJson (s : Statistics) : String :=
  jsonObject
    [ ("bus_utilization", Decimal.write numberStyle s.busUtilization),
      ("commands", jsonObject
        [ ("activate", toString s.activates),
          ("auto_precharge", toString s.autoPrecharges),
          ("precharge", toString s.precharges),
          ("precharge_all", toString s.prechargeAlls),
          ("read", toString s.reads),
          ("refresh", toString s.refreshes),
          ("write", toString s.writes),
          ("zqcs", toString s.calibrations) ]),
      ("cycles", toString s.cycles),
      ("direction_switches", toString s.directionSwitches),
      ("refresh_cycles", toString s.refreshCycles),
      ("requests", jsonObject
        [ ("accepted", toString s.requestsAccepted),
          ("reads_completed", toString s.readsCompleted),
          ("writes_completed", toString s.writesCompleted) ]),
      ("row_hit_rate", Decimal.write numberStyle s.rowHitRate) ]

end Statistics

end DramScheduler
