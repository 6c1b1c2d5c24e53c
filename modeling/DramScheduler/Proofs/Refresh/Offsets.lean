import DramScheduler.Proofs.Refresh.Measure
import Mathlib.Data.List.Sort

/-!
# The commands of a round, one after the other

A timeline answers for one cycle of a round at a time. Written down as a list, what it issues in a
whole round is a precharge of all banks, the refreshes at equal distances, and a calibration behind
them if one is due (`RefreshTimeline.schedule`).

This is so as long as the length of the round is a word. The cycle numbers of a longer round stop at
the largest word, and none of them comes round again: the refreshes that should come in that cycle
or later are left out, and those before it keep their places. In either case the length of a round
is the plain sum or the largest word.

## Main results

* `RefreshTimeline.command_eq_refresh_iff_lt_top` — the cycles in which refreshes are issued, for
  times of any length;
* `RefreshTimeline.length_eq_min` — the last cycle of a round, likewise;
* `RefreshTimeline.played_eq_schedule` — what is issued in a round whose length is a word;
* `RefreshTimeline.new_keepsSchedule` — all of it for the timeline of given times.
-/

namespace DramScheduler.RefreshTimeline

variable {t : RefreshTimeline} {elapsed : Nat} {calibrate : Bool} {command : Command}
  {precharge refresh calibration count : Nat}

/-- The cycles of the refreshes, at equal distances. -/
def places (precharge refresh count : Nat) : List Nat :=
  (List.range count).map fun k => 1 + precharge + k * refresh

/-- The commands of a round with their cycles, in the order in which they are issued. -/
def schedule (precharge refresh count : Nat) (calibrate : Bool) : List (Nat × Command) :=
  (1, .precharge 0 true) :: (places precharge refresh count).map (·, .refresh none) ++
    if calibrate then [(1 + precharge + count * refresh, .calibrate)] else []

/-- The commands that are issued from the first cycle of a round to its last one. -/
def played (t : RefreshTimeline) (calibrate : Bool) : List (Nat × Command) :=
  (List.range' 1 (t.length calibrate)).filterMap fun elapsed =>
    (t.command elapsed calibrate).map (elapsed, ·)

/-- A timeline has a refresh, and neither a refresh nor what comes before the first one is over in
no time. -/
structure Proper (t : RefreshTimeline) : Prop where
  /-- The precharge takes a cycle at least. -/
  precharge_pos : 1 ≤ t.precharge
  /-- So does a refresh. -/
  refresh_pos : 1 ≤ t.refresh
  /-- There is a refresh in every round. -/
  count_pos : 1 ≤ t.count

/-- Only the precharge has to be given a time. Refreshes and their number are one at least as they
are taken. -/
theorem proper_new (positive : 1 ≤ precharge) :
    (new precharge refresh calibration count).Proper where
  precharge_pos := positive
  refresh_pos := Nat.le_max_right _ _
  count_pos := Nat.le_max_right _ _

/-- The refreshes are numbered from zero, and each number has its cycle. -/
theorem mem_places_iff :
    elapsed ∈ places precharge refresh count ↔
      ∃ k < count, elapsed = 1 + precharge + k * refresh := by
  simp only [places, List.mem_map, List.mem_range, eq_comm]

/-- Refreshes are issued after the precharge is over, and a refresh cycle before they are over. -/
theorem bounds_of_mem_places (long : 1 ≤ refresh)
    (place : elapsed ∈ places precharge refresh count) :
    1 + precharge ≤ elapsed ∧ elapsed < 1 + precharge + count * refresh := by
  obtain ⟨k, few, rfl⟩ := mem_places_iff.1 place
  exact ⟨Nat.le_add_right _ _, Nat.add_lt_add_left (Nat.mul_lt_mul_of_pos_right few long) _⟩

/-- The refreshes come one after the other. -/
theorem pairwise_places (long : 1 ≤ refresh) :
    (places precharge refresh count).Pairwise (· < ·) :=
  List.pairwise_map.2 (List.pairwise_lt_range.imp fun order =>
    Nat.add_lt_add_left (Nat.mul_lt_mul_of_pos_right order long) _)

/-! ### Times of any length -/

/-- The cycle in which the refreshes are over is the plain sum or the largest word: of saturating
sums and products only the last limit remains. -/
theorem refreshesDone_eq_min (t : RefreshTimeline) :
    t.refreshesDone = min (1 + t.precharge + t.count * t.refresh) Word.top := by
  simp only [refreshesDone, firstRefresh, Word.add, Word.mul]
  omega

/-- **The last cycle of a round** is the plain sum of its times or the largest word, whichever comes
first. -/
theorem length_eq_min (t : RefreshTimeline) (calibrate : Bool) :
    t.length calibrate = min (t.plainLength calibrate) Word.top := by
  rw [length, refreshesDone_eq_min, plainLength, Word.add]
  cases calibrate with
  | false =>
    rw [if_neg Bool.false_ne_true, if_neg Bool.false_ne_true]
    omega
  | true =>
    rw [if_pos rfl, if_pos rfl]
    omega

/-- The refreshes are not over in the first cycle, saturated or not. -/
theorem Proper.one_lt_refreshesDone (proper : t.Proper) : 1 < t.refreshesDone := by
  have late := proper.precharge_pos
  have large : 1 < Word.top := by decide
  rw [refreshesDone_eq_min]
  omega

/-- **Refreshes are issued at equal distances**, as many as there are to be, and none in the cycle
with the largest number. All later places are saturated to that cycle, where the refreshes are
over. -/
theorem command_eq_refresh_iff_lt_top (proper : t.Proper) :
    t.command elapsed calibrate = some (.refresh none) ↔
      elapsed < Word.top ∧ elapsed ∈ places t.precharge t.refresh t.count := by
  have late := proper.precharge_pos
  rw [command_eq_refresh_iff, refreshesDone_eq_min, firstRefresh, Word.add, mem_places_iff]
  constructor
  · rintro ⟨-, within, k, place⟩
    -- a first refresh in the cycle with the largest number would be no refresh
    have early : elapsed = 1 + t.precharge + k * t.refresh := by omega
    have few : k * t.refresh < t.count * t.refresh := by omega
    exact ⟨by omega, k, Nat.lt_of_mul_lt_mul_right few, early⟩
  · rintro ⟨within, k, few, rfl⟩
    have gap := Nat.mul_lt_mul_of_pos_right few proper.refresh_pos
    exact ⟨by omega, by omega, k, by omega⟩

/-! ### The list of the commands -/

/-- What is issued in a round is what the timeline has in one of its cycles. -/
theorem mem_played_iff :
    (elapsed, command) ∈ t.played calibrate ↔
      (1 ≤ elapsed ∧ elapsed ≤ t.length calibrate) ∧
        t.command elapsed calibrate = some command := by
  simp only [played, List.mem_filterMap, List.mem_range'_1, Option.map_eq_some_iff,
    Prod.mk.injEq, Nat.add_comm 1, Nat.lt_succ_iff]
  constructor
  · rintro ⟨_, within, _, timed, rfl, rfl⟩
    exact ⟨within, timed⟩
  · rintro ⟨within, timed⟩
    exact ⟨elapsed, within, command, timed, rfl, rfl⟩

/-- The commands are listed in the order of their cycles. -/
theorem pairwise_played (t : RefreshTimeline) (calibrate : Bool) :
    (t.played calibrate).Pairwise fun a b => a.1 < b.1 := by
  refine (List.pairwise_lt_range' 1 Nat.one_pos).filterMap _ fun s u order a here b there => ?_
  obtain ⟨_, -, rfl⟩ := Option.map_eq_some_iff.1 here
  obtain ⟨_, -, rfl⟩ := Option.map_eq_some_iff.1 there
  exact order

/-- A command of the schedule is its precharge, one of its refreshes or its calibration. -/
theorem mem_schedule_iff :
    (elapsed, command) ∈ schedule precharge refresh count calibrate ↔
      (elapsed = 1 ∧ command = .precharge 0 true) ∨
        (elapsed ∈ places precharge refresh count ∧ command = .refresh none) ∨
        calibrate = true ∧ elapsed = 1 + precharge + count * refresh ∧ command = .calibrate := by
  cases calibrate <;> simp [schedule, eq_comm]

/-- The schedule lists its commands in the order of their cycles. -/
theorem pairwise_schedule (late : 1 ≤ precharge) (long : 1 ≤ refresh) (calibrate : Bool) :
    (schedule precharge refresh count calibrate).Pairwise fun a b => a.1 < b.1 := by
  refine List.pairwise_append.2 ⟨List.pairwise_cons.2 ⟨fun issued mem => ?_, ?_⟩, ?_, ?_⟩
  · obtain ⟨place, placed, rfl⟩ := List.mem_map.1 mem
    have after := (bounds_of_mem_places long placed).1
    dsimp only
    omega
  · exact List.pairwise_map.2 (pairwise_places long)
  · cases calibrate <;> simp
  · intro issued mem last due
    obtain ⟨-, rfl⟩ : calibrate = true ∧ last = (1 + precharge + count * refresh, .calibrate) := by
      simpa [List.mem_ite_nil_right] using due
    rcases List.mem_cons.1 mem with rfl | mem
    · dsimp only
      omega
    · obtain ⟨place, placed, rfl⟩ := List.mem_map.1 mem
      exact (bounds_of_mem_places long placed).2

/-- **What is issued in a round whose length is a word** is its schedule. Both lists are in order
and have the same members. -/
theorem played_eq_schedule (proper : t.Proper) (fits : t.plainLength calibrate ≤ Word.top) :
    t.played calibrate = schedule t.precharge t.refresh t.count calibrate := by
  have whole : t.length calibrate = t.plainLength calibrate := by
    rw [length_eq_min, Nat.min_eq_left fits]
  have done : t.refreshesDone = 1 + t.precharge + t.count * t.refresh := by
    rw [plainLength] at fits
    rw [refreshesDone_eq_min]
    omega
  have late := proper.one_lt_refreshesDone
  have asymm : Std.Antisymm fun a b : Nat × Command => a.1 < b.1 :=
    ⟨fun _ _ before after => absurd after (Nat.lt_asymm before)⟩
  have irrefl : Std.Irrefl fun a b : Nat × Command => a.1 < b.1 := ⟨fun _ => Nat.lt_irrefl _⟩
  refine (t.pairwise_played calibrate).eq_of_mem_iff
    (pairwise_schedule proper.precharge_pos proper.refresh_pos calibrate) fun issued => ?_
  obtain ⟨elapsed, command⟩ := issued
  rw [mem_played_iff, mem_schedule_iff, whole]
  rw [plainLength] at fits ⊢
  constructor
  · rintro ⟨-, timed⟩
    rcases command_cases timed with first | ⟨-, rfl⟩ | ⟨-, rfl⟩
    · exact .inl first
    · exact .inr (.inl ⟨((command_eq_refresh_iff_lt_top proper).1 timed).2, rfl⟩)
    · obtain ⟨-, due, place⟩ := command_eq_calibrate_iff.1 timed
      exact .inr (.inr ⟨due, place.trans done, rfl⟩)
  · rintro (⟨rfl, rfl⟩ | ⟨place, rfl⟩ | ⟨due, rfl, rfl⟩)
    · exact ⟨⟨Nat.le_refl _, by omega⟩, rfl⟩
    · obtain ⟨after, before⟩ := bounds_of_mem_places proper.refresh_pos place
      exact ⟨⟨by omega, by omega⟩, (command_eq_refresh_iff_lt_top proper).2 ⟨by omega, place⟩⟩
    · refine ⟨⟨by omega, by omega⟩, command_eq_calibrate_iff.2 ⟨?_, due, done.symm⟩⟩
      omega

/-! ### The refreshes of a round -/

/-- The cycles of a round in which refreshes are issued. -/
def refreshes (t : RefreshTimeline) (calibrate : Bool) : List Nat :=
  (List.range' 1 (t.length calibrate)).filter fun elapsed =>
    t.command elapsed calibrate = some (.refresh none)

/-- The cycles of a round with refreshes are the places that come before the largest word. -/
theorem mem_refreshes_iff (proper : t.Proper) :
    elapsed ∈ t.refreshes calibrate ↔
      elapsed < Word.top ∧ elapsed ∈ places t.precharge t.refresh t.count := by
  rw [refreshes, List.mem_filter, List.mem_range'_1, decide_eq_true_eq,
    command_eq_refresh_iff_lt_top proper, and_iff_right_iff_imp]
  rintro ⟨within, place⟩
  obtain ⟨after, before⟩ := bounds_of_mem_places proper.refresh_pos place
  rw [length_eq_min, plainLength]
  omega

/-- Refreshes are a refresh cycle apart, also where some of them are left out. -/
theorem pairwise_refreshes (t : RefreshTimeline) (calibrate : Bool) :
    (t.refreshes calibrate).Pairwise fun elapsed later => elapsed + t.refresh ≤ later := by
  have ordered : (t.refreshes calibrate).Pairwise (· < ·) :=
    (List.pairwise_lt_range' 1 Nat.one_pos).filter _
  refine ordered.imp_of_mem fun before after order => ?_
  exact refresh_apart order (of_decide_eq_true (List.mem_filter.1 before).2)
    (of_decide_eq_true (List.mem_filter.1 after).2)

/-- **The refreshes of a round are those of its schedule** that come before the cycle with the
largest number. Both lists are in order and have the same members. -/
theorem refreshes_eq (proper : t.Proper) (calibrate : Bool) :
    t.refreshes calibrate =
      (places t.precharge t.refresh t.count).filter (· < Word.top) := by
  have ordered : (t.refreshes calibrate).Pairwise (· < ·) :=
    (t.pairwise_refreshes calibrate).imp fun apart =>
      Nat.lt_of_lt_of_le (Nat.lt_add_of_pos_right proper.refresh_pos) apart
  refine ordered.eq_of_mem_iff ((pairwise_places proper.refresh_pos).filter _) fun elapsed => ?_
  rw [mem_refreshes_iff proper, List.mem_filter, decide_eq_true_eq, and_comm]

/-- There are no more refreshes than asked for. -/
theorem length_refreshes_le (proper : t.Proper) (calibrate : Bool) :
    (t.refreshes calibrate).length ≤ t.count := by
  rw [refreshes_eq proper]
  refine (List.length_filter_le _ _).trans ?_
  rw [places, List.length_map, List.length_range]

/-- The first refresh comes once the precharge is over. -/
theorem head?_refreshes (proper : t.Proper) (early : 1 + t.precharge < Word.top)
    (calibrate : Bool) : (t.refreshes calibrate).head? = some (1 + t.precharge) := by
  obtain ⟨more, several⟩ : ∃ more, t.count = more + 1 :=
    ⟨t.count - 1, (Nat.sub_add_cancel proper.count_pos).symm⟩
  rw [refreshes_eq proper, places, several, List.range_succ_eq_map, List.map_cons, Nat.zero_mul,
    Nat.add_zero, List.filter_cons_of_pos (by simpa using early), List.head?_cons]

/-! ### The whole course -/

/-- What can be told of a round from its times alone, for times of any length. -/
structure KeepsSchedule (t : RefreshTimeline) (precharge refresh calibration count : Nat) :
    Prop where
  /-- As long as the longest round is a word, a round is what its schedule says. -/
  complete : 1 + precharge + count * refresh + calibration ≤ Word.top → ∀ calibrate,
    t.length calibrate =
        1 + precharge + count * refresh + (if calibrate then calibration else 0) ∧
      t.played calibrate = schedule precharge refresh count calibrate
  /-- No round comes round again to its beginning. -/
  length_eq : ∀ calibrate, t.length calibrate =
    min (1 + precharge + count * refresh + if calibrate then calibration else 0) Word.top
  /-- No refresh is added to those asked for. -/
  few : ∀ calibrate, (t.refreshes calibrate).length ≤ count
  /-- No two of them are closer than the refresh cycle. -/
  apart : ∀ calibrate,
    (t.refreshes calibrate).Pairwise fun elapsed later => elapsed + refresh ≤ later
  /-- The first refresh has its place unless that is the cycle with the largest number. -/
  head : 1 + precharge < Word.top → ∀ calibrate,
    (t.refreshes calibrate).head? = some (1 + precharge)

/-- **A round keeps its schedule**, whatever its times are: all of it if its length is a word, and
otherwise as much of it as comes before the largest cycle number. -/
theorem new_keepsSchedule (positive : 1 ≤ precharge) (refresh calibration count : Nat) :
    (new precharge refresh calibration count).KeepsSchedule precharge (max refresh 1)
      (max calibration 1) (max count 1) := by
  have proper : (new precharge refresh calibration count).Proper := proper_new positive
  have plain : ∀ calibrate, (new precharge refresh calibration count).plainLength calibrate =
      1 + precharge + max count 1 * max refresh 1 +
        if calibrate then max calibration 1 else 0 := by
    intro calibrate
    rw [Nat.add_comm 1]
    rfl
  refine ⟨fun fits calibrate => ?_, fun calibrate => ?_, length_refreshes_le proper,
    pairwise_refreshes (new precharge refresh calibration count), head?_refreshes proper⟩
  · have word : (new precharge refresh calibration count).plainLength calibrate ≤ Word.top := by
      rw [plain]
      split <;> omega
    rw [length_eq_min, Nat.min_eq_left word, plain]
    exact ⟨rfl, played_eq_schedule proper word⟩
  · rw [length_eq_min, plain]

/-- Five refreshes after a precharge that leaves five cycles with a number of their own. -/
def longRound : RefreshTimeline :=
  new 4294967290 3 7 5

/-- Of five refreshes, two come before the cycle with the largest number, and the round ends in that
cycle, with a calibration or without. -/
theorem new_keepsSchedule_of_longRound :
    1 ≤ 4294967290 ∧ longRound.KeepsSchedule 4294967290 3 7 5 ∧
      (∀ calibrate, longRound.length calibrate = Word.top) ∧
      ∀ calibrate, longRound.refreshes calibrate = [4294967291, 4294967294] := by
  have positive : 1 ≤ 4294967290 := by decide
  have keeps : longRound.KeepsSchedule 4294967290 3 7 5 := new_keepsSchedule positive 3 7 5
  refine ⟨positive, keeps, fun calibrate => ?_, fun calibrate => ?_⟩
  · rw [keeps.length_eq]
    cases calibrate <;> rfl
  · exact (refreshes_eq (proper_new positive) calibrate).trans (by decide)

-- two refreshes and a calibration after a precharge of two cycles
example : (new 2 3 4 2).played true =
    [(1, .precharge 0 true), (3, .refresh none), (6, .refresh none), (9, .calibrate)] := by decide

end DramScheduler.RefreshTimeline
