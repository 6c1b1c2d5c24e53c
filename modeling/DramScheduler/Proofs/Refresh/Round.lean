import DramScheduler.Proofs.Config.Acceptance
import DramScheduler.Proofs.Controller.Handover
import DramScheduler.Proofs.Memory.Trace

/-!
# How long a refresh round lasts

A round begins with a precharge of all banks and outlasts it: no bank can be opened before the
time from a precharge to an activate is over. The refresher counts the cycles of its round,
and this count is what covers the precharge (`Refresher.Paced`). The machines of the banks
know nothing of it.

Validation matters here. A round is as long as it should be only because its length is a word
that has not stopped at the largest one.

## Main results

* `Refresher.refreshes_le_length`, `Refresher.add_two_le_length` — how long a round is, and that it
  outlasts the precharge at its beginning;
* `Refresher.Paced.commit` — the count goes on to cover the precharge over a clock edge.
-/

namespace DramScheduler

/-- Whether a command precharges all banks. -/
def Command.prechargesAll (command : Command) : Bool :=
  command.isPrecharge && command.bank?.isNone

namespace Refresher

variable {c : Config} {r : Refresher} {T : Trace} {commands : List Command} {granted : Bool}

/-- The first refresh of a round is issued once the precharge at its beginning is over. -/
theorem firstRefresh_eq (a : c.Accepted) (enabled : c.settings.refreshEnabled) :
    (Refresher.new c).timeline.firstRefresh = c.timing.tRP + 1 := by
  have whole := a.refreshCycles_lt_top enabled
  rw [a.refreshCycles_eq enabled] at whole
  exact Word.add_eq_of_le (by simp only [Refresher.new, RefreshTimeline.new]; omega)

/-- A refresh takes the time of the configuration, which is not none. -/
theorem refreshCycle_eq (a : c.Accepted) : (Refresher.new c).timeline.refresh = c.timing.tRFC :=
  Nat.max_eq_left a.tRFC_pos

/-- A round has as many refreshes as are put off, and one at least was asked for. -/
theorem refreshCount_eq (a : c.Accepted) :
    (Refresher.new c).timeline.count = c.settings.postponing :=
  Nat.max_eq_left a.postponing.1

/-- The refreshes of a round are over in the cycle in which they should be. -/
theorem refreshesDone_eq (a : c.Accepted) (enabled : c.settings.refreshEnabled) :
    (Refresher.new c).timeline.refreshesDone =
      c.timing.tRP + 1 + c.settings.postponing * c.timing.tRFC := by
  have whole := a.refreshCycles_lt_top enabled
  rw [a.refreshCycles_eq enabled] at whole
  rw [RefreshTimeline.refreshesDone, firstRefresh_eq a enabled, refreshCount_eq a,
    refreshCycle_eq a, Word.mul_eq_of_le (by omega), Word.add_eq_of_le (by omega)]

/-- A round is at least as long as its precharge and its refreshes, whether or not a calibration
follows. -/
theorem refreshes_le_length (a : c.Accepted) (enabled : c.settings.refreshEnabled)
    (calibrate : Bool) :
    c.timing.tRP + 1 + c.settings.postponing * c.timing.tRFC ≤
      (Refresher.new c).timeline.length calibrate := by
  have fits : (Refresher.new c).timeline.refreshesDone ≤ Word.top := Word.add_le_top _ _
  rw [← refreshesDone_eq a enabled, RefreshTimeline.length]
  split
  · exact Nat.le_min.2 ⟨Nat.le_add_right _ _, fits⟩
  · exact Nat.le_refl _

/-- **A round outlasts the precharge at its beginning**: the cycle of the precharge itself comes on
top of its time, and a refresh takes one more at least. -/
theorem add_two_le_length (a : c.Accepted) (enabled : c.settings.refreshEnabled)
    (calibrate : Bool) :
    c.timing.tRP + 2 ≤ (Refresher.new c).timeline.length calibrate := by
  have product : 1 ≤ c.settings.postponing * c.timing.tRFC :=
    Nat.mul_pos a.postponing.1 a.tRFC_pos
  have whole := refreshes_le_length a enabled calibrate
  omega

/-- The refresher knows how long ago all banks were precharged: in a round by the count of its
cycles, and after a round because the round was long enough. -/
structure Paced (r : Refresher) (T : Trace) : Prop where
  /-- The count of a round covers the precharge. -/
  running : ∀ elapsed calibrate, r.state = .sequence elapsed calibrate →
    ∀ s, T.At Command.prechargesAll s → s + elapsed ≤ T.length + 1
  /-- Outside a round the precharge is over. -/
  settled : (∀ elapsed calibrate, r.state ≠ .sequence elapsed calibrate) →
    ∀ s, T.At Command.prechargesAll s → s + r.timeline.precharge ≤ T.length

/-- Nothing was precharged before the first cycle. -/
theorem paced_nil (r : Refresher) : r.Paced [] where
  running _ _ _ _ h := absurd h Trace.not_at_nil
  settled _ _ h := absurd h Trace.not_at_nil

/-- A round is in its last cycle once it is as long as it should be. -/
theorem length_le_of_last (last : r.evaluate.last = true) :
    ∃ elapsed calibrate, r.state = .sequence elapsed calibrate ∧
      r.timeline.length calibrate ≤ elapsed := by
  rw [evaluate] at last
  cases state : r.state with
  | idle =>
    rw [state] at last
    cases last
  | waitGrant =>
    rw [state] at last
    cases last
  | sequence elapsed calibrate =>
    rw [state] at last
    exact ⟨elapsed, calibrate, rfl, of_decide_eq_true last⟩

/-- A round ends with a calibration if its number is a multiple of the interval. -/
theorem calibrationDue_eq_any (several : r.zqcsInterval ≠ some 0) :
    r.calibrationDue = r.zqcsInterval.any fun interval => decide (interval ∣ r.rounds + 1) := by
  rw [calibrationDue]
  cases set : r.zqcsInterval with
  | none => rfl
  | some interval =>
    have positive : 1 ≤ interval := Nat.one_le_iff_ne_zero.2 fun zero => several (by rw [set, zero])
    simp only [Option.any_some, Nat.max_eq_left positive, Nat.dvd_iff_mod_eq_zero]
    rfl

/-- Every round has the same timeline. -/
theorem timeline_commit (r : Refresher) (granted : Bool) :
    (r.commit granted).timeline = r.timeline := by
  rw [commit]
  split <;> rfl

/-- The count of a round covers the precharge in the cycle of the precharge, too. -/
theorem Paced.elapsed_le (paced : r.Paced T)
    (first : commands.any Command.prechargesAll = true →
      ∃ calibrate, r.state = .sequence 1 calibrate)
    {elapsed : Nat} {calibrate : Bool} (running : r.state = .sequence elapsed calibrate) {s : Nat}
    (h : Trace.At (T ++ [commands]) Command.prechargesAll s) : s + elapsed ≤ T.length + 1 := by
  rcases Trace.at_concat_iff.1 h with before | ⟨rfl, now⟩
  · exact paced.running elapsed calibrate running s before
  · obtain ⟨_, one⟩ := first now
    rw [running] at one
    cases one
    exact Nat.le_refl _

/-- Outside a round the precharge of the last one stays settled: the cycle itself has none. -/
theorem Paced.settled_concat (paced : r.Paced T)
    (first : commands.any Command.prechargesAll = true →
      ∃ calibrate, r.state = .sequence 1 calibrate)
    (resting : ∀ elapsed calibrate, r.state ≠ .sequence elapsed calibrate) {s : Nat}
    (h : Trace.At (T ++ [commands]) Command.prechargesAll s) :
    s + r.timeline.precharge ≤ T.length := by
  rcases Trace.at_concat_iff.1 h with before | ⟨-, now⟩
  · exact paced.settled resting s before
  · obtain ⟨calibrate, running⟩ := first now
    exact absurd running (resting 1 calibrate)

/-- When a round ends, it was long enough for its precharge to settle. -/
theorem Paced.settled_of_last (paced : r.Paced T)
    (long : ∀ calibrate, r.timeline.precharge + 2 ≤ r.timeline.length calibrate)
    (first : commands.any Command.prechargesAll = true →
      ∃ calibrate, r.state = .sequence 1 calibrate)
    {elapsed : Nat} {calibrate : Bool} (running : r.state = .sequence elapsed calibrate)
    (last : r.timeline.length calibrate ≤ elapsed) {s : Nat}
    (h : Trace.At (T ++ [commands]) Command.prechargesAll s) :
    s + r.timeline.precharge ≤ T.length + 1 := by
  have enough := long calibrate
  have covered := paced.elapsed_le first running h
  omega

/-- **The count goes on to cover the precharge over a clock edge.** It starts with the precharge,
grows with every cycle, and is dropped only when the round was long enough. -/
theorem Paced.commit (paced : r.Paced T)
    (off : r.enabled = false → r.state = .idle)
    (long : r.enabled = true → ∀ calibrate, r.timeline.precharge + 2 ≤ r.timeline.length calibrate)
    (first : commands.any Command.prechargesAll = true →
      ∃ calibrate, r.state = .sequence 1 calibrate)
    (granted : Bool) :
    (r.commit granted).Paced (T ++ [commands]) := by
  refine ⟨?_, ?_⟩
  · intro elapsed calibrate after s h
    rw [List.length_append, List.length_singleton]
    rcases sequence_cases off after with ⟨-, -, rfl⟩ | ⟨now, state, -, rfl⟩
    · have past := Trace.lt_length_of_at h
      rw [List.length_append, List.length_singleton] at past
      omega
    · have covered := paced.elapsed_le first state h
      omega
  · intro after s h
    rw [timeline_commit, List.length_append, List.length_singleton]
    rw [state_commit] at after
    cases state : r.state with
    | idle => exact Nat.le_succ_of_le (paced.settled_concat first (by simp [state]) h)
    | waitGrant => exact Nat.le_succ_of_le (paced.settled_concat first (by simp [state]) h)
    | sequence now ends =>
      cases on : r.enabled with
      | false =>
        rw [off on] at state
        cases state
      | true =>
        rw [on, if_pos rfl, nextState, state] at after
        dsimp only at after
        split at after
        · next last =>
          exact paced.settled_of_last (long on) first state (by simpa [isLast] using last) h
        · exact absurd rfl (after (now + 1) ends)

end Refresher

end DramScheduler
