import DramScheduler.Config.Derived
import DramScheduler.Refresh.Interval
import DramScheduler.Refresh.Timeline

/-!
# The refresher

The refresher takes the command bus away from the bank machines from time to time. Once a
round is due it raises a request and holds it until the bus is handed over, then plays the
timeline of the round and gives the bus back. Counting goes on meanwhile, and one round that
falls due during another is remembered.

As elsewhere, `evaluate` reads the registers and `commit` applies the clock edge, told whether
the bus was handed over. With refreshes switched off no register ever changes.
-/

namespace DramScheduler

/-- The states of the refresher: it is idle, asks for the bus, and plays a round, one after the
other. -/
inductive RefresherState where
  /-- No round is due. -/
  | idle
  /-- A round is due and the bus is asked for. -/
  | waitGrant
  /-- A round has the bus: its cycle, from one on, and whether it ends with a calibration. -/
  | sequence (elapsed : Nat) (calibrate : Bool)
  deriving DecidableEq, Repr, Inhabited

/-- The name under which a state is shown, with what it holds. -/
def RefresherState.name : RefresherState → String
  | idle => "Idle"
  | waitGrant => "WaitGrant"
  | sequence elapsed calibrate => s!"Sequence({elapsed},{calibrate})"

/-- What the refresher shows in one cycle. At rest it shows nothing at all. -/
structure RefresherOutputs where
  /-- The bank machines are to make way. -/
  valid : Bool := false
  /-- The command of this cycle of a round. -/
  command : Option Command := none
  /-- The round ends in this cycle. -/
  last : Bool := false
  deriving DecidableEq, Repr, Inhabited

/-- The registers of the refresher: the counters that say when rounds are due, what it is at, and
how many rounds it has completed. -/
structure Refresher where
  /-- Whether refreshes are issued at all. -/
  enabled : Bool
  /-- When rounds are due. -/
  interval : RefreshInterval
  /-- What a round consists of. -/
  timeline : RefreshTimeline
  /-- What the refresher is at. -/
  state : RefresherState
  /-- A round fell due while another one waited or ran. -/
  pending : Bool
  /-- Rounds from one calibration to the next. -/
  zqcsInterval : Option Nat
  /-- Rounds completed so far. -/
  rounds : Nat
  deriving DecidableEq, Repr, Inhabited

namespace Refresher

/-- The refresher of a configuration, at the start of its first interval. A calibration to which no
time is given is taken to need none, which the timeline makes one cycle. -/
def new (c : Config) : Refresher where
  enabled := c.settings.refreshEnabled
  interval := .new c.timing.tREFI c.settings.postponing
  timeline := .new c.timing.tRP c.timing.tRFC (c.timing.tZQCS.getD 0) c.settings.postponing
  state := .idle
  pending := false
  zqcsInterval := c.settings.zqcsInterval
  rounds := 0

/-- Whether the next round to be completed ends with a calibration: its number is a multiple of the
interval. -/
def calibrationDue (r : Refresher) : Bool :=
  r.zqcsInterval.any fun interval => (r.rounds + 1) % max interval 1 == 0

/-- Whether the given cycle of a round is its last. -/
def isLast (r : Refresher) (elapsed : Nat) (calibrate : Bool) : Bool :=
  elapsed ≥ r.timeline.length calibrate

/-- What the refresher shows in a cycle. It asks for the bus until the last cycle of its round, in
which it gives the bus back. -/
def evaluate (r : Refresher) : RefresherOutputs :=
  match r.state with
  | .idle => {}
  | .waitGrant => { valid := true }
  | .sequence elapsed calibrate =>
    let last := r.isLast elapsed calibrate
    { valid := !last, command := r.timeline.command elapsed calibrate, last := last }

/-- The state after the edge. From rest a round is asked for if one is due or remembered, and it
begins in the cycle after the bus was handed over. -/
def nextState (r : Refresher) (granted : Bool) : RefresherState :=
  match r.state with
  | .idle => if r.pending || r.interval.requests then .waitGrant else .idle
  | .waitGrant => if granted then .sequence 1 r.calibrationDue else .waitGrant
  | .sequence elapsed calibrate =>
    if r.isLast elapsed calibrate then .idle else .sequence (elapsed + 1) calibrate

/-- Whether a round is still to be remembered after the edge. Leaving `idle` uses up what was
remembered, and with it a request of the very same cycle. -/
def nextPending (r : Refresher) : Bool :=
  r.state != .idle && (r.pending || r.interval.requests)

/-- The number of completed rounds after the edge. A round counts with its last cycle. -/
def nextRounds (r : Refresher) : Nat :=
  if r.evaluate.last then r.rounds + 1 else r.rounds

/-- One clock edge, given whether the bus was handed over in the cycle that ends. The interval
counts on in every state. -/
def commit (r : Refresher) (granted : Bool) : Refresher :=
  if r.enabled then
    { r with
      interval := r.interval.tick
      state := r.nextState granted
      pending := r.nextPending
      rounds := r.nextRounds }
  else r

end Refresher

end DramScheduler
