import DramScheduler.Proofs.Refresh.Timeline

/-!
# What validation takes a round to last

The length of a refresh round is computed twice. The refresher plays a timeline, which has an end
(`RefreshTimeline.length`); validation adds up the times of a configuration
(`Config.refreshCycles`), and refuses it if the sum does not leave time for traffic. Both take the
same parameters, and neither sum is a saturated one in a configuration that is accepted.

They part in one place. A timeline gives a calibration one cycle at least, and validation takes the
time of a configuration as it is, which may be none (`Config.untimedCalibration`). A round is then a
cycle longer than measured, and may be as long as the interval.

## Main results

* `Refresher.length_eq` — the length of a round is a plain sum;
* `Refresher.length_eq_refreshCycles_add` — and it is the one that validation takes, or one more;
* `Refresher.measures_length` — how a round compares with the interval;
* `Refresher.not_length_eq_refreshCycles` — a round can be longer than measured.
-/

namespace DramScheduler

/-- The last cycle of a round, if no sum were too large for a word. -/
def RefreshTimeline.plainLength (t : RefreshTimeline) (calibrate : Bool) : Nat :=
  t.precharge + 1 + t.count * t.refresh + if calibrate then t.calibration else 0

/-- Calibrations are asked for, but no time is given to them. -/
def Config.untimedCalibration (c : Config) : Bool :=
  c.settings.zqcsInterval.isSome && c.timing.tZQCS.getD 0 == 0

/-- What validation takes a round to last is less than the interval. -/
theorem Config.Accepted.refreshCycles_lt_mul {c : Config} (a : c.Accepted)
    (enabled : c.settings.refreshEnabled) :
    c.refreshCycles < c.timing.tREFI * c.settings.postponing :=
  Nat.lt_of_lt_of_le (a.refresh_leaves_time enabled) (Nat.min_le_left _ _)

namespace Refresher

variable {c : Config} {calibrate : Bool}

/-- **The length of a round is a plain sum** where rounds are played, and where calibrations are
asked for if it has one. -/
theorem length_eq (a : c.Accepted) (enabled : c.settings.refreshEnabled)
    (measured : calibrate = true → c.settings.zqcsInterval.isSome) :
    (Refresher.new c).timeline.length calibrate =
      (Refresher.new c).timeline.plainLength calibrate := by
  have whole := a.refreshCycles_lt_top enabled
  rw [a.refreshCycles_eq enabled] at whole
  rw [RefreshTimeline.length, refreshesDone_eq a enabled, RefreshTimeline.plainLength,
    refreshCount_eq a, refreshCycle_eq a]
  split
  · next ends =>
    rw [if_pos (measured ends)] at whole
    refine Word.add_eq_of_le ?_
    show _ + max (c.timing.tZQCS.getD 0) 1 ≤ _
    omega
  · rfl

/-- The plain sum, by the times of a configuration. -/
theorem plainLength_eq (a : c.Accepted) (calibrate : Bool) :
    (Refresher.new c).timeline.plainLength calibrate =
      c.timing.tRP + 1 + c.settings.postponing * c.timing.tRFC +
        if calibrate then c.timing.tZQCS.getD 0 + (c.timing.tZQCS.getD 0 == 0).toNat else 0 := by
  have calibration : (Refresher.new c).timeline.calibration =
      c.timing.tZQCS.getD 0 + (c.timing.tZQCS.getD 0 == 0).toNat := by
    show max (c.timing.tZQCS.getD 0) 1 = _
    cases c.timing.tZQCS.getD 0 <;> simp
  rw [RefreshTimeline.plainLength, refreshCount_eq a, refreshCycle_eq a, calibration]
  rfl

/-- A round lasts as long as validation takes it to, but for the cycle of a calibration to which no
time is given. -/
theorem length_eq_refreshCycles_add (a : c.Accepted) (enabled : c.settings.refreshEnabled) :
    (Refresher.new c).timeline.length c.settings.zqcsInterval.isSome =
      c.refreshCycles + c.untimedCalibration.toNat := by
  rw [length_eq a enabled id, plainLength_eq a, a.refreshCycles_eq enabled,
    Config.untimedCalibration]
  cases c.settings.zqcsInterval.isSome with
  | false =>
    rw [if_neg Bool.false_ne_true, if_neg Bool.false_ne_true, Bool.false_and, Bool.toNat_false]
    omega
  | true =>
    rw [if_pos rfl, if_pos rfl, Bool.true_and]
    omega

/-- A round lasts hardly longer than validation takes it to. -/
theorem length_le_refreshCycles (a : c.Accepted) (enabled : c.settings.refreshEnabled)
    (measured : calibrate = true → c.settings.zqcsInterval.isSome) :
    (Refresher.new c).timeline.length calibrate ≤ c.refreshCycles + 1 := by
  cases calibrate with
  | false =>
    rw [length_eq a enabled measured, plainLength_eq a, a.refreshCycles_eq enabled,
      if_neg Bool.false_ne_true]
    omega
  | true =>
    have last : c.untimedCalibration.toNat ≤ 1 := Bool.toNat_le _
    rw [← measured rfl, length_eq_refreshCycles_add a enabled]
    omega

/-- **Validation measures the round that is played**, but for the cycle of a calibration to which no
time is given. A round is shorter than the interval, or as long if it has such a calibration. -/
theorem measures_length (accepted : c.validate = .ok ())
    (enabled : c.settings.refreshEnabled = true) :
    (Refresher.new c).timeline.length c.settings.zqcsInterval.isSome =
        c.refreshCycles + c.untimedCalibration.toNat ∧
      (Refresher.new c).timeline.length c.settings.zqcsInterval.isSome ≤
        c.timing.tREFI * c.settings.postponing ∧
      (c.untimedCalibration = false →
        (Refresher.new c).timeline.length c.settings.zqcsInterval.isSome <
          c.timing.tREFI * c.settings.postponing) := by
  have a := Config.validate_eq_ok_iff.1 accepted
  have measured := a.refreshCycles_lt_mul enabled
  have length := length_eq_refreshCycles_add a enabled
  refine ⟨length, ?_, fun timed => ?_⟩
  · have last : c.untimedCalibration.toNat ≤ 1 := Bool.toNat_le _
    omega
  · rw [timed, Bool.toNat_false] at length
    omega

/-- Four refreshes in a round and, in every third, a calibration of five cycles. -/
def postponedThreefold : Config where
  timing := { tREFI := 19, tZQCS := some 5 }
  settings := { postponing := 4, zqcsInterval := some 3 }

/-- The round that ends with a calibration takes 72 of the 76 cycles. -/
theorem measures_length_of_calibration :
    postponedThreefold.validate = .ok () ∧ postponedThreefold.settings.refreshEnabled = true ∧
      (Refresher.new postponedThreefold).timeline.length true = 72 ∧
      postponedThreefold.refreshCycles = 72 := by
  have measured := measures_length (c := postponedThreefold) (by decide) rfl
  have cycles : postponedThreefold.refreshCycles = 72 := by decide
  exact ⟨by decide, rfl, measured.1.trans (by rw [cycles]; rfl), cycles⟩

/-- Every round ends with a calibration to which no time is given. -/
def calibratedInNoTime : Config where
  timing := { tREFI := 20 }
  settings := { zqcsInterval := some 1 }

/-- **A round can be longer than validation takes it to be**, and as long as the interval. It takes
a calibration to which no time is given. -/
theorem not_length_eq_refreshCycles :
    (¬ ∀ c : Config, c.validate = .ok () → c.settings.refreshEnabled = true →
        (Refresher.new c).timeline.length c.settings.zqcsInterval.isSome = c.refreshCycles) ∧
      ¬ ∀ c : Config, c.validate = .ok () → c.settings.refreshEnabled = true →
        (Refresher.new c).timeline.length c.settings.zqcsInterval.isSome <
          c.timing.tREFI * c.settings.postponing := by
  constructor
  · intro claimed
    exact absurd (claimed calibratedInNoTime (by decide) rfl) (by decide)
  · intro claimed
    exact absurd (claimed calibratedInNoTime (by decide) rfl) (by decide)

end Refresher

end DramScheduler
