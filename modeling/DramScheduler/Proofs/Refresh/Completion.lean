import DramScheduler.Proofs.Refresh.Course

/-!
# What completed rounds have issued

A completed round has issued one precharge of all banks, every refresh that was put off, and a
calibration if one was due. While a round is played, its cycle tells how much of that has been
issued already: the precharge comes first, the refreshes stand at multiples of the refresh cycle
(`RefreshTimeline.Refreshed`), and the calibration comes when they are over. `Refresher.Tallied`
ties three counts to the refresher in this way, and a clock edge keeps them tied if they grow by
what the refresher shows in the cycle.

Rounds are complete only because none of their cycle numbers is a saturated word
(`RefreshTimeline.Exact`), which validation sees to where refreshes are switched on.

## Main results

* `RefreshTimeline.Refreshed.step`, `RefreshTimeline.Refreshed.eq_count` — the refreshes issued by
  a cycle of a round, and that all of them are by its end;
* `Refresher.Tallied.commit` — the counts stay tied to the refresher over a clock edge.
-/

namespace DramScheduler

open Command

/-! ### The refreshes of a round so far -/

namespace RefreshTimeline

variable {t : RefreshTimeline} {elapsed done : Nat} {calibrate : Bool}

/-- No cycle number of a round is saturated, and its commands do not fall together. -/
structure Exact (t : RefreshTimeline) : Prop where
  /-- The first refresh comes after the precharge. -/
  one_lt_firstRefresh : 1 < t.firstRefresh
  /-- Refreshes come in different cycles. -/
  refresh_pos : 0 < t.refresh
  /-- The refreshes are over a refresh cycle after the last of them. -/
  refreshesDone_eq : t.refreshesDone = t.firstRefresh + t.count * t.refresh
  /-- The round does not end before they are. -/
  refreshesDone_le : ∀ calibrate, t.refreshesDone ≤ t.length calibrate

/-- This is so in an accepted configuration, as far as rounds are played at all. -/
theorem exact_new {c : Config} (a : c.Accepted) (enabled : c.settings.refreshEnabled) :
    (Refresher.new c).timeline.Exact where
  one_lt_firstRefresh := by
    rw [Refresher.firstRefresh_eq a enabled]
    exact Nat.succ_lt_succ a.tRP_pos
  refresh_pos := Nat.lt_of_lt_of_le Nat.one_pos (Nat.le_max_right _ _)
  refreshesDone_eq := by
    rw [Refresher.refreshesDone_eq a enabled, Refresher.firstRefresh_eq a enabled,
      Refresher.refreshCount_eq a, Refresher.refreshCycle_eq a]
  refreshesDone_le := Refresher.refreshesDone_le_length a enabled

/-- The first refreshes of a round, as many as given, are those issued before a cycle. Their number
is not kept anywhere: it follows from the cycle. -/
structure Refreshed (t : RefreshTimeline) (elapsed done : Nat) : Prop where
  /-- There are no more of them than the round has. -/
  done_le : done ≤ t.count
  /-- The next refresh is still to come. -/
  upTo : done < t.count → elapsed ≤ t.firstRefresh + done * t.refresh
  /-- The last one has been issued. -/
  past : ∀ before, done = before + 1 → t.firstRefresh + before * t.refresh < elapsed

/-- No refresh is issued before the first cycle. -/
theorem refreshed_one (precise : t.Exact) : t.Refreshed 1 0 where
  done_le := Nat.zero_le _
  upTo _ := by
    have late := precise.one_lt_firstRefresh
    omega
  past _ none_yet := absurd none_yet (Nat.succ_ne_zero _).symm

/-- A refresh is issued in a cycle exactly if it is the turn of the next one. -/
theorem Refreshed.command_iff (refreshed : t.Refreshed elapsed done) (precise : t.Exact)
    (calibrate : Bool) :
    t.command elapsed calibrate = some (.refresh none) ↔
      done < t.count ∧ elapsed = t.firstRefresh + done * t.refresh := by
  have late := precise.one_lt_firstRefresh
  rw [command_eq_refresh_iff, precise.refreshesDone_eq]
  constructor
  · rintro ⟨-, within, turn, rfl⟩
    have few : turn < t.count := Nat.lt_of_mul_lt_mul_right (Nat.lt_of_add_lt_add_left within)
    -- a turn before the next one has been taken, and one after it is not yet reached
    have same : turn = done := by
      rcases Nat.lt_trichotomy turn done with earlier | same | later
      · obtain ⟨before, rfl⟩ : ∃ before, done = before + 1 := ⟨done - 1, by omega⟩
        have taken := refreshed.past before rfl
        have gap := Nat.mul_le_mul_right t.refresh (Nat.le_of_lt_succ earlier)
        omega
      · exact same
      · have ahead := refreshed.upTo (Nat.lt_trans later few)
        have gap := Nat.mul_lt_mul_of_pos_right later precise.refresh_pos
        omega
    exact ⟨same ▸ few, by rw [same]⟩
  · rintro ⟨few, rfl⟩
    have gap := Nat.mul_lt_mul_of_pos_right few precise.refresh_pos
    exact ⟨by omega, Nat.add_lt_add_left gap _, done, rfl⟩

/-- **A cycle of a round issues the next refresh in its turn**, and none otherwise. So the number of
refreshes grows with the cycle that it follows from. -/
theorem Refreshed.step (refreshed : t.Refreshed elapsed done) (precise : t.Exact)
    (calibrate : Bool) :
    t.Refreshed (elapsed + 1)
      (done + if t.command elapsed calibrate = some (.refresh none) then 1 else 0) := by
  have turn := refreshed.command_iff precise calibrate
  by_cases issued : t.command elapsed calibrate = some (.refresh none)
  · rw [if_pos issued]
    obtain ⟨few, rfl⟩ := turn.1 issued
    refine ⟨few, fun _ => ?_, fun before last => ?_⟩
    · have positive := precise.refresh_pos
      rw [Nat.succ_mul]
      omega
    · obtain rfl := Nat.succ.inj last
      exact Nat.lt_succ_self _
  · rw [if_neg issued, Nat.add_zero]
    refine ⟨refreshed.done_le, fun more => ?_, fun before last => ?_⟩
    · exact Nat.lt_of_le_of_ne (refreshed.upTo more) fun now => issued (turn.2 ⟨more, now⟩)
    · exact Nat.lt_succ_of_lt (refreshed.past before last)

/-- **All refreshes are issued by the end of a round.** If one were to come, the cycle would be no
later than its place, and that lies before the end. -/
theorem Refreshed.eq_count (refreshed : t.Refreshed elapsed done) (precise : t.Exact)
    (ended : t.refreshesDone < elapsed) : done = t.count := by
  by_contra missing
  have few : done < t.count := Nat.lt_of_le_of_ne refreshed.done_le missing
  have ahead := refreshed.upTo few
  have gap := Nat.mul_lt_mul_of_pos_right few precise.refresh_pos
  rw [precise.refreshesDone_eq] at ended
  omega

/-! ### What a cycle of a round adds to a count -/

/-- All banks are precharged in the first cycle of a round and in no other. -/
theorem countP_prechargesAll_command (t : RefreshTimeline) (elapsed : Nat) (calibrate : Bool) :
    (t.command elapsed calibrate).toList.countP prechargesAll = if elapsed = 1 then 1 else 0 := by
  by_cases first : elapsed = 1
  · rw [command, if_pos first, if_pos first]
    rfl
  · rw [if_neg first]
    cases timed : t.command elapsed calibrate with
    | none => rfl
    | some command =>
      rcases command_cases timed with ⟨now, -⟩ | ⟨-, rfl⟩ | ⟨-, rfl⟩
      · exact absurd now first
      · rfl
      · rfl

/-- A cycle of a round counts as a refresh if the timeline has one there. -/
theorem countP_isRefresh_command (t : RefreshTimeline) (elapsed : Nat) (calibrate : Bool) :
    (t.command elapsed calibrate).toList.countP isRefresh =
      if t.command elapsed calibrate = some (.refresh none) then 1 else 0 := by
  cases timed : t.command elapsed calibrate with
  | none => rfl
  | some command => rcases command_cases timed with ⟨-, rfl⟩ | ⟨-, rfl⟩ | ⟨-, rfl⟩ <;> rfl

/-- A calibration comes in the cycle in which the refreshes are over, if one is due. -/
theorem countP_isCalibrate_command (t : RefreshTimeline) (elapsed : Nat) (calibrate : Bool) :
    (t.command elapsed calibrate).toList.countP isCalibrate =
      if elapsed ≠ 1 ∧ calibrate = true ∧ elapsed = t.refreshesDone then 1 else 0 := by
  simp only [← command_eq_calibrate_iff]
  cases timed : t.command elapsed calibrate with
  | none => rfl
  | some command => rcases command_cases timed with ⟨-, rfl⟩ | ⟨-, rfl⟩ | ⟨-, rfl⟩ <;> rfl

end RefreshTimeline

/-! ### Over the rounds -/

namespace Refresher

variable {r : Refresher} {precharges refreshes calibrations : Nat}

/-- The calibrations that the completed rounds ended with. -/
def calibrationsDone (r : Refresher) : Nat :=
  r.zqcsInterval.elim 0 fun interval => r.rounds / interval

/-- Counts of precharges of all banks, refreshes and calibrations are those of the completed rounds
and of the round that is played. Each round adds the same to them, but for the calibration. -/
structure Tallied (r : Refresher) (precharges refreshes calibrations : Nat) : Prop where
  /-- Outside a round every round is a completed one. -/
  resting : (∀ elapsed calibrate, r.state ≠ .sequence elapsed calibrate) →
    precharges = r.rounds ∧ refreshes = r.timeline.count * r.rounds ∧
      calibrations = r.calibrationsDone
  /-- In a round, what has been issued before its cycle comes on top. -/
  playing : ∀ elapsed calibrate, r.state = .sequence elapsed calibrate →
    0 < elapsed ∧ calibrate = r.calibrationDue ∧
      (precharges = r.rounds + if elapsed = 1 then 0 else 1) ∧
      (∃ done, refreshes = r.timeline.count * r.rounds + done ∧
        r.timeline.Refreshed elapsed done) ∧
      (calibrations = r.calibrationsDone +
        if calibrate = true ∧ r.timeline.refreshesDone < elapsed then 1 else 0)

/-- Nothing has been issued at first, and no round is complete. -/
theorem tallied_new (c : Config) : (Refresher.new c).Tallied 0 0 0 where
  resting _ := by
    refine ⟨rfl, rfl, ?_⟩
    rw [calibrationsDone]
    cases (Refresher.new c).zqcsInterval with
    | none => rfl
    | some interval => exact (Nat.zero_div interval).symm
  playing _ _ state := by cases state

/-- A round that ends with a calibration is the next of its interval. -/
theorem calibrationsDone_succ (several : r.zqcsInterval ≠ some 0) :
    (r.zqcsInterval.elim 0 fun interval => (r.rounds + 1) / interval) =
      r.calibrationsDone + if r.calibrationDue = true then 1 else 0 := by
  rw [calibrationsDone, calibrationDue_eq_any several]
  cases r.zqcsInterval with
  | none => rfl
  | some interval =>
    simp only [Option.elim_some, Option.any_some, decide_eq_true_eq]
    exact Nat.succ_div

/-- What one cycle of a round adds to the counts of those before it. -/
theorem Tallied.cycle (tallied : r.Tallied precharges refreshes calibrations)
    (precise : r.timeline.Exact) {elapsed : Nat} {calibrate : Bool}
    (state : r.state = .sequence elapsed calibrate) :
    precharges + r.evaluate.command.toList.countP prechargesAll = r.rounds + 1 ∧
      (∃ done, refreshes + r.evaluate.command.toList.countP isRefresh =
        r.timeline.count * r.rounds + done ∧ r.timeline.Refreshed (elapsed + 1) done) ∧
      calibrations + r.evaluate.command.toList.countP isCalibrate = r.calibrationsDone +
        if calibrate = true ∧ r.timeline.refreshesDone < elapsed + 1 then 1 else 0 := by
  obtain ⟨started, -, closed, ⟨done, refreshed, turn⟩, calibrated⟩ :=
    tallied.playing elapsed calibrate state
  have shown : r.evaluate.command = r.timeline.command elapsed calibrate := by
    rw [evaluate, state]
  rw [shown, RefreshTimeline.countP_prechargesAll_command,
    RefreshTimeline.countP_isRefresh_command, RefreshTimeline.countP_isCalibrate_command]
  refine ⟨?_, ⟨_, ?_, turn.step precise calibrate⟩, ?_⟩
  · rw [closed]
    split <;> rfl
  · rw [refreshed, Nat.add_assoc]
  · have late : 1 < r.timeline.refreshesDone := by
      have first := precise.one_lt_firstRefresh
      have whole := precise.refreshesDone_eq
      omega
    rw [calibrated]
    cases calibrate with
    | false => simp
    | true =>
      simp only [true_and, ne_eq]
      by_cases reached : r.timeline.refreshesDone < elapsed
      · rw [if_pos reached, if_neg (by omega), if_pos (by omega)]
      · by_cases now : elapsed = r.timeline.refreshesDone
        · rw [if_neg reached, if_pos (by omega), if_pos (by omega)]
        · rw [if_neg reached, if_neg (by omega), if_neg (by omega)]

section

variable {after : Refresher} (timeline : after.timeline = r.timeline)
  (interval : after.zqcsInterval = r.zqcsInterval)

include timeline interval

/-- The counts over an edge at which a round neither begins, goes on nor ends. -/
theorem Tallied.of_resting (tallied : r.Tallied precharges refreshes calibrations)
    (before : ∀ elapsed calibrate, r.state ≠ .sequence elapsed calibrate)
    (still : ∀ elapsed calibrate, after.state ≠ .sequence elapsed calibrate)
    (rounds : after.rounds = r.rounds) : after.Tallied precharges refreshes calibrations where
  resting _ := by
    rw [calibrationsDone, timeline, interval, rounds]
    exact tallied.resting before
  playing elapsed calibrate state := absurd state (still elapsed calibrate)

/-- The counts over the edge at which a round begins: nothing of it has been issued. -/
theorem Tallied.of_begun (tallied : r.Tallied precharges refreshes calibrations)
    (precise : r.timeline.Exact)
    (before : ∀ elapsed calibrate, r.state ≠ .sequence elapsed calibrate)
    (begun : after.state = .sequence 1 r.calibrationDue)
    (rounds : after.rounds = r.rounds) : after.Tallied precharges refreshes calibrations := by
  obtain ⟨closed, refreshed, calibrated⟩ := tallied.resting before
  refine ⟨fun still => absurd begun (still _ _), fun elapsed calibrate runs => ?_⟩
  rw [begun] at runs
  cases runs
  have late := precise.one_lt_firstRefresh
  have whole := precise.refreshesDone_eq
  simp only [calibrationDue, calibrationsDone, timeline, interval, rounds]
  refine ⟨Nat.one_pos, trivial, closed, ⟨0, refreshed, RefreshTimeline.refreshed_one precise⟩, ?_⟩
  rw [if_neg (by omega)]
  exact calibrated

/-- The counts over an edge at which a round goes on. -/
theorem Tallied.of_playing (tallied : r.Tallied precharges refreshes calibrations)
    (precise : r.timeline.Exact) {elapsed : Nat} {calibrate : Bool}
    (state : r.state = .sequence elapsed calibrate)
    (going : after.state = .sequence (elapsed + 1) calibrate) (rounds : after.rounds = r.rounds) :
    after.Tallied (precharges + r.evaluate.command.toList.countP prechargesAll)
      (refreshes + r.evaluate.command.toList.countP isRefresh)
      (calibrations + r.evaluate.command.toList.countP isCalibrate) := by
  obtain ⟨closed, ⟨done, refreshed, turn⟩, calibrated⟩ := tallied.cycle precise state
  obtain ⟨started, due, -⟩ := tallied.playing elapsed calibrate state
  rw [closed, refreshed, calibrated]
  refine ⟨fun still => absurd going (still _ _), fun elapsed' calibrate' runs => ?_⟩
  rw [going] at runs
  cases runs
  simp only [calibrationDue, calibrationsDone, timeline, interval, rounds]
  exact ⟨Nat.succ_pos _, due, by rw [if_neg (by omega)], ⟨done, rfl, turn⟩, trivial⟩

/-- The counts over the last edge of a round: all that belongs to it has been issued. -/
theorem Tallied.of_last (tallied : r.Tallied precharges refreshes calibrations)
    (precise : r.timeline.Exact) (several : r.zqcsInterval ≠ some 0) {elapsed : Nat}
    {calibrate : Bool} (state : r.state = .sequence elapsed calibrate)
    (ended : r.timeline.length calibrate ≤ elapsed) (finished : after.state = .idle)
    (rounds : after.rounds = r.rounds + 1) :
    after.Tallied (precharges + r.evaluate.command.toList.countP prechargesAll)
      (refreshes + r.evaluate.command.toList.countP isRefresh)
      (calibrations + r.evaluate.command.toList.countP isCalibrate) := by
  obtain ⟨closed, ⟨done, refreshed, turn⟩, calibrated⟩ := tallied.cycle precise state
  obtain ⟨-, due, -⟩ := tallied.playing elapsed calibrate state
  rw [closed, refreshed, calibrated]
  have outlasted : r.timeline.refreshesDone < elapsed + 1 :=
    Nat.lt_succ_of_le (Nat.le_trans (precise.refreshesDone_le calibrate) ended)
  have complete : after.calibrationsDone =
      r.calibrationsDone + if calibrate = true then 1 else 0 := by
    rw [due, ← calibrationsDone_succ several, calibrationsDone, interval, rounds]
  refine ⟨fun _ => ?_, fun _ _ runs => by rw [finished] at runs; cases runs⟩
  rw [timeline, rounds, turn.eq_count precise outlasted, Nat.mul_succ]
  exact ⟨rfl, rfl, by simpa [outlasted] using complete.symm⟩

end

/-- **The counts stay tied to the refresher over a clock edge**, if they grow by the command that it
shows in the cycle. A round begins, goes on or ends at the edge, or there is none: each case has its
own lemma above. -/
theorem Tallied.commit (tallied : r.Tallied precharges refreshes calibrations)
    (off : r.enabled = false → r.state = .idle)
    (precise : r.enabled = true → r.timeline.Exact) (several : r.zqcsInterval ≠ some 0)
    (granted : Bool) :
    (r.commit granted).Tallied (precharges + r.evaluate.command.toList.countP prechargesAll)
      (refreshes + r.evaluate.command.toList.countP isRefresh)
      (calibrations + r.evaluate.command.toList.countP isCalibrate) := by
  cases on : r.enabled with
  | false =>
    have same : r.commit granted = r := by rw [Refresher.commit, on]; rfl
    have quiet : r.evaluate.command = none := by rw [evaluate, off on]
    rw [same, quiet]
    exact tallied
  | true =>
    have precise := precise on
    have timeline := r.timeline_commit granted
    have interval : (r.commit granted).zqcsInterval = r.zqcsInterval := by
      rw [Refresher.commit, if_pos on]
    have rounds : (r.commit granted).rounds = r.nextRounds := by rw [Refresher.commit, if_pos on]
    have after : (r.commit granted).state = r.nextState granted := by
      rw [state_commit, if_pos on]
    cases state : r.state with
    | idle =>
      have quiet : r.evaluate = {} := by rw [evaluate, state]
      rw [nextRounds, quiet, if_neg Bool.false_ne_true] at rounds
      rw [quiet]
      refine tallied.of_resting timeline interval (by simp [state])
        (fun elapsed calibrate runs => ?_) rounds
      rw [after, nextState, state] at runs
      dsimp only at runs
      split at runs <;> cases runs
    | waitGrant =>
      have quiet : r.evaluate = { valid := true } := by rw [evaluate, state]
      rw [nextRounds, quiet, if_neg Bool.false_ne_true] at rounds
      rw [quiet]
      rw [nextState, state] at after
      cases granted with
      | false =>
        exact tallied.of_resting timeline interval (by simp [state]) (by simp [after]) rounds
      | true => exact tallied.of_begun timeline interval precise (by simp [state]) after rounds
    | sequence elapsed calibrate =>
      have last : r.evaluate.last = r.isLast elapsed calibrate := by rw [evaluate, state]
      rw [nextState, state] at after
      rw [nextRounds, last] at rounds
      dsimp only at after
      cases ended : r.isLast elapsed calibrate with
      | false =>
        rw [ended, if_neg Bool.false_ne_true] at after rounds
        exact tallied.of_playing timeline interval precise state after rounds
      | true =>
        rw [ended, if_pos rfl] at after rounds
        exact tallied.of_last timeline interval precise several state (of_decide_eq_true ended)
          after rounds

end Refresher

end DramScheduler
