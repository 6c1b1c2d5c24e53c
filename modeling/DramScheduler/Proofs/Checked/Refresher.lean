import DramScheduler.Proofs.Checked.Arithmetic
import DramScheduler.Refresh.Refresher

/-!
# A refresher without faults

The counters of a refresher are read before they are counted down, so they never leave their range.
The cycle of a round has the length of the round as its bound, which is a word, because the offsets
of a round stop at the largest one. A remainder is taken in two places: by the distance of refreshes
and by the distance of calibrations, and neither of them is zero. What is left is the count of the
rounds.

## Main results

* `Refresher.evaluateM_eq_ok`, `Refresher.commitM_eq_ok` — both halves of a cycle.
-/

namespace DramScheduler

open Checked

/-! ### The course of a round -/

namespace RefreshTimeline

variable {t : RefreshTimeline}

/-- The command issued in the given cycle of a round. The cycles since the first refresh are counted
by a difference, which is looked at only when it is not below zero. -/
def commandM (t : RefreshTimeline) (elapsed : Nat) (calibrate : Bool) :
    Checked (Option Command) :=
  if elapsed = 1 then return some (.precharge 0 true)
  else if t.firstRefresh ≤ elapsed && elapsed < t.refreshesDone then do
    let offset ← sub elapsed t.firstRefresh
    return if (← rem offset t.refresh) = 0 then some (.refresh none) else none
  else return if calibrate && elapsed == t.refreshesDone then some .calibrate else none

/-- The command of a cycle is found without faults, since refreshes take a cycle at least. -/
theorem commandM_eq_ok (positive : 0 < t.refresh) (elapsed : Nat) (calibrate : Bool) :
    t.commandM elapsed calibrate = .ok (t.command elapsed calibrate) := by
  rw [commandM, command]
  split
  · rfl
  · split
    · next within =>
      rw [Bool.and_eq_true, decide_eq_true_eq] at within
      rw [sub_eq_ok within.1, ok_bind, rem_eq_ok positive]
      rfl
    · rfl

/-- A round is no longer than the largest word, at which its offsets stop. -/
theorem length_le_top (t : RefreshTimeline) (calibrate : Bool) :
    t.length calibrate ≤ Word.top := by
  rw [length]
  split <;> exact Word.add_le_top _ _

end RefreshTimeline

/-! ### When rounds are asked for -/

/-- One clock edge of the timer. The period starts anew by a difference that stops at zero. -/
def RefreshTimer.tickM (t : RefreshTimer) : Checked RefreshTimer := do
  return { t with
    remaining := ← if t.expired then pure (t.period - 1) else sub t.remaining 1 }

/-- The timer counts down without faults: it is read before. -/
theorem RefreshTimer.tickM_eq_ok (t : RefreshTimer) : t.tickM = .ok t.tick := by
  rw [tickM, tick]
  split
  · rfl
  · next running =>
    rw [expired, beq_iff_eq] at running
    rw [sub_eq_ok (Nat.pos_of_ne_zero running)]
    rfl

/-- One clock edge of the postponer. -/
def Postponer.tickM (p : Postponer) (expired : Bool) : Checked Postponer :=
  if expired then
    return { p with
      remaining := ← if p.remaining = 0 then sub p.factor 1 else sub p.remaining 1 }
  else return p

/-- The postponer counts down without faults, since its factor is not zero. -/
theorem Postponer.tickM_eq_ok {p : Postponer} (positive : 0 < p.factor) (expired : Bool) :
    p.tickM expired = .ok (p.tick expired) := by
  rw [tickM, tick]
  split
  · split
    · rw [sub_eq_ok positive]
      rfl
    · next more =>
      rw [sub_eq_ok (Nat.pos_of_ne_zero more)]
      rfl
  · rfl

/-- One clock edge of both. -/
def RefreshInterval.tickM (i : RefreshInterval) : Checked RefreshInterval := do
  return ⟨← i.timer.tickM, ← i.postponer.tickM i.timer.expired⟩

/-- Both count down without faults. -/
theorem RefreshInterval.tickM_eq_ok {i : RefreshInterval} (positive : 0 < i.postponer.factor) :
    i.tickM = .ok i.tick := by
  rw [tickM, RefreshTimer.tickM_eq_ok, ok_bind, Postponer.tickM_eq_ok positive]
  rfl

/-! ### The refresher -/

namespace Refresher

variable {r : Refresher}

/-- Nothing that a refresher divides by or counts down from is zero. -/
structure Countable (r : Refresher) : Prop where
  /-- Refreshes take a cycle at least. -/
  refresh_pos : 0 < r.timeline.refresh
  /-- A round makes up for one refresh at least. -/
  factor_pos : 0 < r.interval.postponer.factor

/-- This holds of the refresher of every configuration, accepted or not. -/
theorem countable_new (c : Config) : (Refresher.new c).Countable where
  refresh_pos := Nat.lt_of_lt_of_le Nat.one_pos (Nat.le_max_right _ _)
  factor_pos := Nat.lt_of_lt_of_le Nat.one_pos (Nat.le_max_right _ _)

/-- It is kept by a clock edge, which leaves both numbers alone. -/
theorem Countable.commit (countable : r.Countable) (granted : Bool) :
    (r.commit granted).Countable := by
  have factor : ∀ expired, (r.interval.postponer.tick expired).factor =
      r.interval.postponer.factor := by
    intro expired
    rw [Postponer.tick]
    split <;> rfl
  rw [Refresher.commit]
  split
  · refine ⟨countable.refresh_pos, ?_⟩
    dsimp only [RefreshInterval.tick]
    rw [factor]
    exact countable.factor_pos
  · exact countable

/-- Whether the next round to be completed ends with a calibration, its number counted in 64
bits. -/
def calibrationDueM (r : Refresher) : Checked Bool :=
  match r.zqcsInterval with
  | some interval => return (← rem (← add 64 r.rounds 1) (max interval 1)) == 0
  | none => return false

/-- What the refresher shows in a cycle; only a round takes any arithmetic. -/
def evaluateM (r : Refresher) : Checked RefresherOutputs :=
  match r.state with
  | .sequence elapsed calibrate => do
    let last := r.isLast elapsed calibrate
    return { valid := !last, command := ← r.timeline.commandM elapsed calibrate, last := last }
  | _ => return r.evaluate

/-- The state after the edge. The cycle of a round is counted in a word, and may not go past the
largest one. -/
def nextStateM (r : Refresher) (granted : Bool) : Checked RefresherState :=
  match r.state with
  | .idle => return if r.pending || r.interval.requests then .waitGrant else .idle
  | .waitGrant =>
    if granted then return .sequence 1 (← r.calibrationDueM) else return .waitGrant
  | .sequence elapsed calibrate =>
    if r.isLast elapsed calibrate then return .idle
    else return .sequence (← add 32 elapsed 1) calibrate

/-- One clock edge, which counts the rounds up in 64 bits and the interval down to zero. -/
def commitM (r : Refresher) (granted : Bool) : Checked Refresher :=
  if r.enabled then
    return { r with
      interval := ← r.interval.tickM
      state := ← r.nextStateM granted
      pending := r.nextPending
      rounds := ← raise 64 r.rounds r.evaluate.last }
  else return r

/-- **What the refresher shows in a cycle** is worked out without faults, since nothing is divided
by zero. -/
theorem evaluateM_eq_ok (countable : r.Countable) : r.evaluateM = .ok r.evaluate := by
  rw [evaluateM, evaluate]
  cases r.state with
  | idle => rfl
  | waitGrant => rfl
  | sequence elapsed calibrate =>
    dsimp only
    rw [RefreshTimeline.commandM_eq_ok countable.refresh_pos]
    rfl

/-- Whether a round calibrates is decided without faults, as long as the rounds can be counted. -/
theorem calibrationDueM_eq_ok (fits : r.rounds + 1 < 2 ^ 64) :
    r.calibrationDueM = .ok r.calibrationDue := by
  rw [calibrationDueM, calibrationDue]
  cases r.zqcsInterval with
  | none => rfl
  | some interval =>
    dsimp only
    rw [add_eq_ok fits, ok_bind, rem_eq_ok (Nat.lt_of_lt_of_le Nat.one_pos (Nat.le_max_right _ _))]
    rfl

/-- The state after the edge is worked out without faults: a round that is not over has a next cycle
that is a word. -/
theorem nextStateM_eq_ok (fits : r.rounds + 1 < 2 ^ 64) (granted : Bool) :
    r.nextStateM granted = .ok (r.nextState granted) := by
  rw [nextStateM, nextState]
  cases r.state with
  | idle => rfl
  | waitGrant =>
    cases granted with
    | false => rfl
    | true =>
      dsimp only
      rw [if_pos rfl, calibrationDueM_eq_ok fits]
      rfl
  | sequence elapsed calibrate =>
    dsimp only
    split
    · rfl
    · next more =>
      rw [isLast, decide_eq_true_eq, Nat.not_le] at more
      have bound := r.timeline.length_le_top calibrate
      rw [Word.top_eq] at bound
      rw [add_eq_ok (by omega)]
      rfl

/-- **The clock edge of the refresher** has no faults, as long as the rounds can be counted. The
cycle of a round never goes past its length, which is a word. -/
theorem commitM_eq_ok (countable : r.Countable) (fits : r.rounds + 1 < 2 ^ 64) (granted : Bool) :
    r.commitM granted = .ok (r.commit granted) := by
  have rounds : raise 64 r.rounds r.evaluate.last = .ok r.nextRounds := by
    rw [raise_eq_ok fun _ => fits, nextRounds]
    cases r.evaluate.last <;> rfl
  rw [commitM, commit]
  split
  · rw [RefreshInterval.tickM_eq_ok countable.factor_pos, ok_bind, nextStateM_eq_ok fits, ok_bind,
      rounds]
    rfl
  · rfl

/-- A clock edge completes one round at most. -/
theorem rounds_commit_le (r : Refresher) (granted : Bool) :
    (r.commit granted).rounds ≤ r.rounds + 1 := by
  rw [commit]
  split
  · dsimp only [nextRounds]
    split
    · exact Nat.le_refl _
    · exact Nat.le_succ _
  · exact Nat.le_succ _

end Refresher

end DramScheduler
