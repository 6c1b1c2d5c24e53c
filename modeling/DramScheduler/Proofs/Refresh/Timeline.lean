import DramScheduler.Proofs.Refresh.Round

/-!
# Distances within a refresh round

A round is played by a timeline that knows nothing of what was issued before. The distances between
its own commands are a matter of counting its cycles: refreshes are issued at multiples of the
refresh cycle, the calibration follows the last of them at the same distance, and the round is not
over before its last command is.

Two things have to come from outside. Cycle numbers are words, and only validation sees to it that
none of those of a round is a saturated one; and the length of a calibration is part of what
validation measures only if calibrations are asked for at all
(`Controller.Reachable.zqcsInterval_isSome`).

## Main results

* `RefreshTimeline.command_eq_refresh_iff`, `RefreshTimeline.command_eq_calibrate_iff` — in which
  cycles of a round refreshes and calibrations are issued;
* `Refresher.refresh_apart_refresh`, `Refresher.refresh_le_refreshesDone`,
  `Refresher.calibrate_le_length` — how far apart they are.
-/

namespace DramScheduler

/-! ### The commands of a round -/

namespace RefreshTimeline

variable {t : RefreshTimeline} {elapsed : Nat} {calibrate : Bool}

/-- Refreshes are issued at multiples of the refresh cycle, counted from the first of them on. -/
theorem command_eq_refresh_iff :
    t.command elapsed calibrate = some (.refresh none) ↔
      elapsed ≠ 1 ∧ elapsed < t.refreshesDone ∧
        ∃ before, elapsed = t.firstRefresh + before * t.refresh := by
  rw [command]
  by_cases first : elapsed = 1
  · simp [first]
  rw [if_neg first]
  by_cases within : t.firstRefresh ≤ elapsed ∧ elapsed < t.refreshesDone
  · rw [if_pos (by simpa using within), Option.ite_none_right_eq_some]
    constructor
    · rintro ⟨multiple, -⟩
      obtain ⟨before, place⟩ := Nat.dvd_of_mod_eq_zero multiple
      rw [Nat.mul_comm] at place
      exact ⟨first, within.2, before, by omega⟩
    · rintro ⟨-, -, before, rfl⟩
      rw [Nat.add_sub_cancel_left]
      exact ⟨Nat.mul_mod_left _ _, rfl⟩
  · rw [if_neg (by simpa using within)]
    constructor
    · intro timed
      split at timed <;> cases timed
    · rintro ⟨-, early, before, rfl⟩
      exact absurd ⟨Nat.le_add_right _ _, early⟩ within

/-- A calibration is issued in the cycle in which the refreshes are over. -/
theorem command_eq_calibrate_iff :
    t.command elapsed calibrate = some .calibrate ↔
      elapsed ≠ 1 ∧ calibrate = true ∧ elapsed = t.refreshesDone := by
  rw [command]
  by_cases first : elapsed = 1
  · simp [first]
  rw [if_neg first]
  by_cases within : t.firstRefresh ≤ elapsed ∧ elapsed < t.refreshesDone
  · rw [if_pos (by simpa using within)]
    constructor
    · intro timed
      split at timed <;> cases timed
    · rintro ⟨-, -, rfl⟩
      exact absurd within.2 (Nat.lt_irrefl _)
  · rw [if_neg (by simpa using within), Option.ite_none_right_eq_some, Bool.and_eq_true,
      beq_iff_eq]
    constructor
    · rintro ⟨due, -⟩
      exact ⟨first, due⟩
    · rintro ⟨-, due⟩
      exact ⟨due, rfl⟩

/-- No two refreshes are closer to each other than the refresh cycle: both are at multiples of
it. -/
theorem refresh_apart {later : Nat} (order : elapsed < later)
    (first : t.command elapsed calibrate = some (.refresh none))
    (second : t.command later calibrate = some (.refresh none)) :
    elapsed + t.refresh ≤ later := by
  obtain ⟨-, -, before, rfl⟩ := command_eq_refresh_iff.1 first
  obtain ⟨-, -, after, rfl⟩ := command_eq_refresh_iff.1 second
  have fewer : before < after := Nat.lt_of_mul_lt_mul_right (Nat.lt_of_add_lt_add_left order)
  have gap := Nat.mul_le_mul_right t.refresh (Nat.succ_le_of_lt fewer)
  rw [Nat.succ_mul] at gap
  omega

end RefreshTimeline

/-! ### How far apart they are -/

namespace Refresher

variable {c : Config} {calibrate : Bool} {elapsed later : Nat}

/-- Refreshes of a round keep their distance. -/
theorem refresh_apart_refresh (a : c.Accepted) (order : elapsed < later)
    (first : (Refresher.new c).timeline.command elapsed calibrate = some (.refresh none))
    (second : (Refresher.new c).timeline.command later calibrate = some (.refresh none)) :
    elapsed + c.timing.tRFC ≤ later := by
  rw [← refreshCycle_eq a]
  exact RefreshTimeline.refresh_apart order first second

/-- A refresh is over when the refreshes of its round are: it is one of them, and they are all of
one length. -/
theorem refresh_le_refreshesDone (a : c.Accepted) (enabled : c.settings.refreshEnabled)
    (issued : (Refresher.new c).timeline.command elapsed calibrate = some (.refresh none)) :
    elapsed + c.timing.tRFC ≤ (Refresher.new c).timeline.refreshesDone := by
  obtain ⟨-, within, before, rfl⟩ := RefreshTimeline.command_eq_refresh_iff.1 issued
  rw [refreshesDone_eq a enabled, firstRefresh_eq a enabled, refreshCycle_eq a] at within ⊢
  have fewer : before < c.settings.postponing :=
    Nat.lt_of_mul_lt_mul_right (Nat.lt_of_add_lt_add_left within)
  have gap := Nat.mul_le_mul_right c.timing.tRFC (Nat.succ_le_of_lt fewer)
  rw [Nat.succ_mul] at gap
  omega

/-- A round is not over before its refreshes are, whether or not a calibration follows. -/
theorem refreshesDone_le_length (a : c.Accepted) (enabled : c.settings.refreshEnabled)
    (calibrate : Bool) :
    (Refresher.new c).timeline.refreshesDone ≤ (Refresher.new c).timeline.length calibrate := by
  rw [refreshesDone_eq a enabled]
  exact refreshes_le_length a enabled calibrate

/-- A round is not over before its calibration is, where validation has measured it. Otherwise the
length could be a saturated one. -/
theorem calibrate_le_length (a : c.Accepted) (enabled : c.settings.refreshEnabled)
    (measured : c.settings.zqcsInterval.isSome)
    (issued : (Refresher.new c).timeline.command elapsed calibrate = some .calibrate) :
    elapsed + c.timing.tZQCS.getD 0 ≤ (Refresher.new c).timeline.length calibrate := by
  obtain ⟨-, rfl, rfl⟩ := RefreshTimeline.command_eq_calibrate_iff.1 issued
  have whole := a.refreshCycles_lt_top enabled
  rw [a.refreshCycles_eq enabled, if_pos measured] at whole
  rw [RefreshTimeline.length, if_pos rfl, Word.add]
  refine Nat.le_min.2 ⟨Nat.add_le_add_left (Nat.le_max_left _ _) _, ?_⟩
  rw [refreshesDone_eq a enabled]
  omega

/-- A refresher that begins a round has been told how often to calibrate if it is going to. -/
theorem calibrate_cases {r : Refresher} {granted : Bool}
    (after : (r.commit granted).state = .sequence elapsed true) :
    r.zqcsInterval.isSome ∨ ∃ before, r.state = .sequence before true := by
  rw [state_commit] at after
  split at after
  · rw [nextState] at after
    cases state : r.state with
    | idle =>
      rw [state] at after
      dsimp only at after
      split at after <;> cases after
    | waitGrant =>
      rw [state] at after
      dsimp only at after
      split at after
      · injection after with _ due
        obtain ⟨interval, found, -⟩ := (Option.any_eq_true _ _).1 due
        exact .inl (Option.isSome_of_eq_some found)
      · cases after
    | sequence before ends =>
      rw [state] at after
      dsimp only at after
      split at after
      · cases after
      · cases after
        exact .inr ⟨before, rfl⟩
  · exact .inr ⟨elapsed, after⟩

end Refresher

namespace Controller

variable {c : Config} {k : Controller}

/-- The refresher is told how often to calibrate once and for all. -/
theorem Reachable.zqcsInterval_eq (reached : Reachable c k) :
    k.refresher.zqcsInterval = c.settings.zqcsInterval := by
  induction reached with
  | build => rfl
  | step offers _ ih =>
    rw [refresher_step, Refresher.commit]
    split <;> exact ih

/-- **Rounds end with a calibration only if calibrations are asked for.** Induction on the run: a
round is given its calibration when it begins, and keeps it. -/
theorem Reachable.zqcsInterval_isSome (reached : Reachable c k) {elapsed : Nat}
    (running : k.refresher.state = .sequence elapsed true) : c.settings.zqcsInterval.isSome := by
  induction reached generalizing elapsed with
  | build => cases running
  | step offers reached ih =>
    rw [refresher_step] at running
    rcases Refresher.calibrate_cases running with set | ⟨before, running⟩
    · rwa [reached.zqcsInterval_eq] at set
    · exact ih running

end Controller

end DramScheduler
