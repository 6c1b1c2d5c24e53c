import DramScheduler.Command
import DramScheduler.Word

/-!
# The course of a refresh round

A round has a fixed timeline, counted from the cycle in which the command bus was handed over:

* in cycle 1 every bank is precharged;
* in cycle `1 + tRP + k · tRFC` the refresh number `k` is issued, from zero on;
* in cycle `1 + tRP + n · tRFC`, with `n` refreshes, a calibration is issued if one is due;
* the round ends when the last of these is over.

Offsets are words: those that need more than 32 bits stop at the largest word, so a round that
long never comes round again to its beginning.
-/

namespace DramScheduler

/-- The timeline of a refresh round, from which the command of each of its cycles is read off. The
round itself keeps no register but its cycle. -/
structure RefreshTimeline where
  /-- From the precharge to the first refresh. -/
  precharge : Nat
  /-- From one refresh to the next. -/
  refresh : Nat
  /-- From the calibration to the end of the round. -/
  calibration : Nat
  /-- Refreshes in a round. -/
  count : Nat
  deriving DecidableEq, Repr, Inhabited

namespace RefreshTimeline

/-- A timeline. Refreshes and calibrations take at least one cycle, and there is at least one
refresh. -/
def new (precharge refresh calibration count : Nat) : RefreshTimeline :=
  ⟨precharge, max refresh 1, max calibration 1, max count 1⟩

/-- The cycle of the first refresh, when the precharge of cycle 1 is over. -/
def firstRefresh (t : RefreshTimeline) : Nat :=
  Word.add t.precharge 1

/-- The cycle in which the last refresh is over, where a calibration comes if one is due. -/
def refreshesDone (t : RefreshTimeline) : Nat :=
  Word.add t.firstRefresh (Word.mul t.count t.refresh)

/-- The command issued in the given cycle of a round, if there is one. Refreshes come at multiples
of their distance, and nothing is issued while one is under way. -/
def command (t : RefreshTimeline) (elapsed : Nat) (calibrate : Bool) : Option Command :=
  if elapsed = 1 then some (.precharge 0 true)
  else if t.firstRefresh ≤ elapsed && elapsed < t.refreshesDone then
    if (elapsed - t.firstRefresh) % t.refresh = 0 then some (.refresh none) else none
  else if calibrate && elapsed == t.refreshesDone then some .calibrate
  else none

/-- The last cycle of a round, which depends on whether it ends with a calibration. -/
def length (t : RefreshTimeline) (calibrate : Bool) : Nat :=
  if calibrate then Word.add t.refreshesDone t.calibration else t.refreshesDone

end RefreshTimeline

end DramScheduler
