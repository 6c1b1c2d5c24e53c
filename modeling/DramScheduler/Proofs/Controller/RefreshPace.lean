import DramScheduler.Proofs.Controller.HandoverTime
import DramScheduler.Proofs.Refresh.Interval
import DramScheduler.Proofs.Refresh.Measure

/-!
# Refreshes keep pace

Rounds fall due at a fixed distance. A refresher that is idle begins with one at once, and one that
is busy remembers it; but it can remember no more than one. `Controller.dropped` counts the rounds
that fall due while another is remembered, and those are never made up for: the books of a run close
with them and only with them (`Controller.account_run`).

Validation asks that a round is shorter than the distance of two. That does not leave time for
handing the bus over, and where a round and the wait for it take longer than that, rounds may be
dropped (`Controller.not_forall_two_behind`). A round that falls due in the cycle in which the
refresher is idle and picks up the one that it remembers is dropped, too, although there would be
room for it. Where rounds are far enough apart for the wait at its longest, nothing ever has to be
remembered, and the refresher is one round behind at most.

## Main results

* `Refresher.accounted_commit` — what becomes of a round that falls due;
* `Controller.account_run` — every round that fell due is accounted for, or was dropped;
* `Controller.InTime.step` — a round is over before the next one falls due;
* `Controller.exists_new_keepsPace` — over every run.
-/

namespace DramScheduler

/-! ### What becomes of a round that falls due -/

/-- The number of rounds that are waited for or played. -/
def RefresherState.underWay : RefresherState → Nat
  | idle => 0
  | waitGrant | sequence .. => 1

namespace Refresher

variable {r : Refresher}

/-- The rounds that were completed, are under way, or are remembered. -/
def accounted (r : Refresher) : Nat :=
  r.rounds + r.state.underWay + r.pending.toNat

/-- A completed round is no longer under way, and a round that is begun is no longer remembered. -/
theorem underWay_nextState (r : Refresher) (granted : Bool) :
    r.nextRounds + (r.nextState granted).underWay =
      r.rounds + r.state.underWay +
        (r.state == .idle && (r.pending || r.interval.requests)).toNat := by
  rw [nextRounds, nextState, evaluate]
  cases r.state with
  | idle => cases r.pending || r.interval.requests <;> rfl
  | waitGrant => cases granted <;> rfl
  | sequence elapsed calibrate => cases last : r.isLast elapsed calibrate <;> simp [last] <;> rfl

/-- **A round that falls due** is begun or remembered, unless another one is remembered already.
Only then the books do not close by themselves. -/
theorem accounted_commit (on : r.enabled = true) (granted : Bool) :
    (r.commit granted).accounted + (r.pending && r.interval.requests).toNat =
      r.accounted + r.interval.requests.toNat := by
  have moves := r.underWay_nextState granted
  rw [commit, if_pos on, accounted, accounted]
  dsimp only
  rw [moves, nextPending, bne]
  cases r.state == .idle <;> cases r.pending <;> cases r.interval.requests <;> simp

end Refresher

namespace Controller

variable {c : Config} {k : Controller} {offers : List (Option BankRequest)}
  {past : List (List (Option BankRequest))} {t : Nat}

/-! ### The books of a run -/

/-- The rounds that fall due in a run while another one is remembered. -/
def dropped (k : Controller) : List (List (Option BankRequest)) → Nat
  | [] => 0
  | offers :: rest =>
    (k.refresher.pending && k.refresher.interval.requests).toNat + (k.step offers).1.dropped rest

/-- One more cycle drops a round if one falls due in it while another is remembered. -/
theorem dropped_concat (k : Controller) (past : List (List (Option BankRequest)))
    (offers : List (Option BankRequest)) :
    k.dropped (past ++ [offers]) = k.dropped past +
      ((k.run past).1.refresher.pending && (k.run past).1.refresher.interval.requests).toNat := by
  induction past generalizing k with
  | nil => rw [List.nil_append, dropped, dropped, dropped, run, Nat.zero_add, Nat.add_zero]
  | cons first rest ih =>
    rw [List.cons_append, dropped, dropped, ih, Nat.add_assoc]
    rfl

/-- Where refreshes are switched on, they stay so. -/
theorem Reachable.enabled (a : c.Accepted) (enabled : c.settings.refreshEnabled)
    (reached : Reachable c k) : k.refresher.enabled = true :=
  (reached.builtFrom a).enabled.trans enabled

/-- The counters of the refresher count the cycles of a run. -/
theorem counts_run (a : c.Accepted) (enabled : c.settings.refreshEnabled)
    (past : List (List (Option BankRequest))) :
    ((build c).run past).1.refresher.interval.Counts c.timing.tREFI c.settings.postponing
      past.length := by
  induction past using List.reverseRecOn with
  | nil => exact RefreshInterval.counts_new a.postponing.1
  | append_singleton past offers ih =>
    have on := (reachable_run c past).enabled a enabled
    rw [run_concat, refresher_step, Refresher.commit, if_pos on, List.length_append]
    exact ih.tick a.tREFI_pos a.postponing.1

/-- **Every round that fell due is accounted for, or was dropped.** Induction on the run; the
interval counts the cycles, and the books of a cycle are those of its edge. -/
theorem account_run (a : c.Accepted) (enabled : c.settings.refreshEnabled)
    (past : List (List (Option BankRequest))) :
    past.length / (c.timing.tREFI * c.settings.postponing) =
      ((build c).run past).1.refresher.accounted + (build c).dropped past := by
  induction past using List.reverseRecOn with
  | nil => exact Nat.zero_div _
  | append_singleton past offers ih =>
    have on := (reachable_run c past).enabled a enabled
    have due := (counts_run a enabled past).requests_iff a.tREFI_pos a.postponing.1
    have edge := Refresher.accounted_commit on (((build c).run past).1.bus.state == .refresh)
    rw [run_concat, refresher_step, dropped_concat, List.length_append, List.length_singleton,
      Nat.succ_div, ih]
    have one : (if c.timing.tREFI * c.settings.postponing ∣ past.length + 1 then 1 else 0) =
        ((build c).run past).1.refresher.interval.requests.toNat := by
      by_cases asked : ((build c).run past).1.refresher.interval.requests = true
      · rw [if_pos (due.1 asked), asked, Bool.toNat_true]
      · rw [if_neg (mt due.2 asked), Bool.eq_false_of_not_eq_true asked, Bool.toNat_false]
    rw [one]
    omega

/-! ### A round is over before the next one falls due -/

/-- The refresher is in time for the next round: it has none to remember, and the one that it is at
fell due no longer ago than handing the bus over and the round so far take. -/
structure InTime (c : Config) (k : Controller) (t : Nat) : Prop where
  /-- No round is remembered. -/
  pending : k.refresher.pending = false
  /-- While it waits, there is time left for handing the bus over. -/
  waiting : k.refresher.state = .waitGrant → ∃ left, k.HandsOver left ∧
    t % (c.timing.tREFI * c.settings.postponing) + left ≤ c.handoverCycles
  /-- While it plays, the round is where it should be. -/
  playing : ∀ elapsed calibrate, k.refresher.state = .sequence elapsed calibrate →
    t % (c.timing.tREFI * c.settings.postponing) ≤ c.handoverCycles + elapsed ∧
      elapsed ≤ k.refresher.timeline.length calibrate

/-- At rest nothing is due. -/
theorem inTime_build (c : Config) : InTime c (build c) 0 where
  pending := rfl
  waiting state := by cases state
  playing _ _ state := by cases state

section FarApart

-- handing the bus over at its longest and a round fit between two rounds that fall due
variable (a : c.Accepted) (enabled : c.settings.refreshEnabled)
  (spare : c.handoverCycles + c.refreshCycles + 2 < c.refreshWindow)

include a enabled spare

/-- No round falls due while the refresher is busy: the wait at its longest and the round are over
before. -/
theorem InTime.early (reached : Reachable c k) (inTime : InTime c k t)
    (busy : k.refresher.state ≠ .idle) :
    t % (c.timing.tREFI * c.settings.postponing) + 1 < c.timing.tREFI * c.settings.postponing := by
  have window : c.refreshWindow ≤ c.timing.tREFI * c.settings.postponing := Nat.min_le_left _ _
  cases state : k.refresher.state with
  | idle => exact absurd state busy
  | waitGrant =>
    obtain ⟨left, -, early⟩ := inTime.waiting state
    omega
  | sequence elapsed calibrate =>
    obtain ⟨early, within⟩ := inTime.playing elapsed calibrate state
    have long : k.refresher.timeline.length calibrate ≤ c.refreshCycles + 1 := by
      rw [(reached.builtFrom a).timeline]
      refine Refresher.length_le_refreshCycles a enabled ?_
      rintro rfl
      exact reached.zqcsInterval_isSome state
    omega

/-- While the refresher is busy, the time since the last round fell due goes on to grow. -/
theorem InTime.not_due (reached : Reachable c k)
    (counts : k.refresher.interval.Counts c.timing.tREFI c.settings.postponing t)
    (inTime : InTime c k t) (busy : k.refresher.state ≠ .idle) :
    k.refresher.interval.requests = false ∧
      (t + 1) % (c.timing.tREFI * c.settings.postponing) =
        t % (c.timing.tREFI * c.settings.postponing) + 1 := by
  have positive := Nat.mul_pos a.tREFI_pos a.postponing.1
  have early := inTime.early a enabled spare reached busy
  rcases succ_mod_cases positive t with ⟨last, -⟩ | ⟨-, grows⟩
  · exact absurd last (Nat.ne_of_lt early)
  · refine ⟨Bool.eq_false_of_not_eq_true fun asked => ?_, grows⟩
    have whole := (counts.requests_iff a.tREFI_pos a.postponing.1).1 asked
    rw [Nat.dvd_iff_mod_eq_zero, grows] at whole
    cases whole

/-- There is never a round to remember. -/
theorem InTime.pending_step (reached : Reachable c k)
    (counts : k.refresher.interval.Counts c.timing.tREFI c.settings.postponing t)
    (inTime : InTime c k t) : (k.step offers).1.refresher.pending = false := by
  rw [refresher_step, Refresher.commit, if_pos (reached.enabled a enabled)]
  show k.refresher.nextPending = false
  rw [Refresher.nextPending, inTime.pending, Bool.false_or]
  by_cases idle : k.refresher.state = .idle
  · rw [idle]
    rfl
  · rw [(inTime.not_due a enabled spare reached counts idle).1, Bool.and_false]

omit spare in
/-- The refresher moves on to its next state: in an accepted configuration it is always enabled. -/
theorem refresher_state_step (reached : Reachable c k) (offers : List (Option BankRequest)) :
    (k.step offers).1.refresher.state = k.refresher.nextState (k.bus.state == .refresh) := by
  rw [refresher_step, Refresher.state_commit, if_pos (reached.enabled a enabled)]

/-- A round that falls due while the refresher is idle has all its time before it. -/
theorem InTime.idle_step (reached : Reachable c k)
    (counts : k.refresher.interval.Counts c.timing.tREFI c.settings.postponing t)
    (inTime : InTime c k t) (state : k.refresher.state = .idle) :
    InTime c (k.step offers).1 (t + 1) := by
  have after := refresher_state_step a enabled reached offers
  rw [Refresher.nextState, state] at after
  dsimp only at after
  rw [inTime.pending, Bool.false_or] at after
  refine ⟨inTime.pending_step a enabled spare reached counts,
    fun waits => ⟨c.handoverCycles, Waits.handsOver a ⟨reached.step offers, waits⟩, ?_⟩,
    fun elapsed calibrate runs => ?_⟩
  · have asked : k.refresher.interval.requests = true := by
      by_contra quiet
      rw [waits, if_neg quiet] at after
      cases after
    have whole := (counts.requests_iff a.tREFI_pos a.postponing.1).1 asked
    rw [Nat.mod_eq_zero_of_dvd whole, Nat.zero_add]
  · rw [runs] at after
    split at after <;> cases after

/-- While the refresher waits, the bus is handed over within the time that is left, and the round
then begins. -/
theorem InTime.waiting_step (reached : Reachable c k)
    (counts : k.refresher.interval.Counts c.timing.tREFI c.settings.postponing t)
    (inTime : InTime c k t) (state : k.refresher.state = .waitGrant) :
    InTime c (k.step offers).1 (t + 1) := by
  have after := refresher_state_step a enabled reached offers
  rw [Refresher.nextState, state] at after
  dsimp only at after
  obtain ⟨left, soon, early⟩ := inTime.waiting state
  have grows := (inTime.not_due a enabled spare reached counts (by simp [state])).2
  refine ⟨inTime.pending_step a enabled spare reached counts, fun waits => ?_,
    fun elapsed calibrate runs => ?_⟩
  · -- the bus was not handed over yet, so there is time left for it
    cases soon with
    | now handed =>
      rw [waits, handed, if_pos (by rfl)] at after
      cases after
    | later next => exact ⟨_, next offers, by omega⟩
  · rw [runs] at after
    split at after
    · cases after
      have long := Refresher.add_two_le_length a enabled k.refresher.calibrationDue
      rw [grows, ((reached.step offers).builtFrom a).timeline]
      exact ⟨by omega, by omega⟩
    · cases after

/-- A round that is played goes on by one cycle, and not beyond its last one. -/
theorem InTime.playing_step (reached : Reachable c k)
    (counts : k.refresher.interval.Counts c.timing.tREFI c.settings.postponing t)
    (inTime : InTime c k t) {elapsed : Nat} {calibrate : Bool}
    (state : k.refresher.state = .sequence elapsed calibrate) :
    InTime c (k.step offers).1 (t + 1) := by
  have after := refresher_state_step a enabled reached offers
  rw [Refresher.nextState, state] at after
  dsimp only at after
  obtain ⟨early, -⟩ := inTime.playing elapsed calibrate state
  have grows := (inTime.not_due a enabled spare reached counts (by simp [state])).2
  refine ⟨inTime.pending_step a enabled spare reached counts, fun waits => ?_,
    fun elapsed' calibrate' runs => ?_⟩
  · rw [waits] at after
    split at after <;> cases after
  · rw [runs] at after
    split at after
    · cases after
    · next more =>
      cases after
      rw [Refresher.isLast, decide_eq_true_eq, (reached.builtFrom a).timeline] at more
      rw [grows, ((reached.step offers).builtFrom a).timeline]
      exact ⟨by omega, by omega⟩

/-- **A round is over before the next one falls due**, from whichever state of the refresher a cycle
starts. -/
theorem InTime.step (reached : Reachable c k)
    (counts : k.refresher.interval.Counts c.timing.tREFI c.settings.postponing t)
    (inTime : InTime c k t) : InTime c (k.step offers).1 (t + 1) := by
  cases state : k.refresher.state with
  | idle => exact inTime.idle_step a enabled spare reached counts state
  | waitGrant => exact inTime.waiting_step a enabled spare reached counts state
  | sequence elapsed calibrate => exact inTime.playing_step a enabled spare reached counts state

/-- The refresher is in time after every run, and nothing was dropped. -/
theorem inTime_run (past : List (List (Option BankRequest))) :
    InTime c ((build c).run past).1 past.length ∧ (build c).dropped past = 0 := by
  induction past using List.reverseRecOn with
  | nil => exact ⟨inTime_build c, rfl⟩
  | append_singleton past offers ih =>
    obtain ⟨inTime, kept⟩ := ih
    rw [run_concat, List.length_append, dropped_concat, inTime.pending, kept]
    exact ⟨inTime.step a enabled spare (reachable_run c past) (counts_run a enabled past), rfl⟩

end FarApart

/-- A memory of a single bank in which a refresh falls due every ten cycles, and written data settle
for sixteen cycles before a round. -/
def closeRounds : Config where
  phy := { phases := 1, readPhase := 0, writePhase := 0, readRowPhase := 0, writeRowPhase := 0
           casWriteLatency := 1 }
  geometry := { bankBits := 0 }
  timing := { tRP := 1, tRCD := 1, tWR := 16, tWTR := 0, tREFI := 10, tRFC := 1, tRTW := some 0 }

/-- Fifty cycles in which two writes are offered, thirty cycles apart. -/
def twoWrites : List (List (Option BankRequest)) :=
  [some ⟨true, 0⟩] :: (List.replicate 29 [] ++ [some ⟨true, 0⟩] :: List.replicate 19 [])

/-- **Refreshes may fall behind** where rounds are close. While the first round waits for written
data to settle the second one falls due, and the refresher picks it up in the cycle in which the
third one does; so only one of the two is played, and two rounds of five are completed when three
should be. -/
theorem not_forall_two_behind :
    ¬ ∀ (c : Config) (start : Controller) (past : List (List (Option BankRequest))),
      c.validate = .ok () → c.settings.refreshEnabled → Controller.new c = .ok start →
        past.length / (c.timing.tREFI * c.settings.postponing) - 2 ≤
          (start.run past).1.refresher.rounds := by
  intro always
  have accepted : closeRounds.validate = .ok () := by decide
  have behind := always closeRounds (build closeRounds) twoWrites accepted rfl
    (new_of_accepted accepted)
  exact absurd behind (by decide +kernel)

/-! ### Over every run -/

/-- The refresher keeps pace with the rounds that fall due in a run: none is unaccounted for, and
none is dropped where they are far enough apart. -/
structure KeepsPace (c : Config) (start : Controller) (past : List (List (Option BankRequest))) :
    Prop where
  /-- The rounds that fell due were completed, are under way or remembered, or were dropped. -/
  account : past.length / (c.timing.tREFI * c.settings.postponing) =
    (start.run past).1.refresher.accounted + start.dropped past
  /-- None is dropped where rounds are far enough apart. -/
  undropped : c.handoverCycles + c.refreshCycles + 2 < c.refreshWindow → start.dropped past = 0
  /-- Then all of them but one at most are completed. -/
  completed : c.handoverCycles + c.refreshCycles + 2 < c.refreshWindow →
    past.length / (c.timing.tREFI * c.settings.postponing) - 1 ≤
      (start.run past).1.refresher.rounds

/-- **Refreshes keep pace over every run** of a controller for an accepted configuration, whatever
is offered to it: what is not completed is accounted for, and where rounds are far enough apart none
is dropped. -/
theorem exists_new_keepsPace (accepted : c.validate = .ok ())
    (enabled : c.settings.refreshEnabled) :
    ∃ start, Controller.new c = .ok start ∧ ∀ past, KeepsPace c start past := by
  have a := Config.validate_eq_ok_iff.1 accepted
  refine ⟨build c, new_of_accepted accepted, fun past => ?_⟩
  have account := account_run a enabled past
  refine ⟨account, fun spare => (inTime_run a enabled spare past).2, fun spare => ?_⟩
  obtain ⟨inTime, kept⟩ := inTime_run a enabled spare past
  have one : ((build c).run past).1.refresher.state.underWay ≤ 1 := by
    cases ((build c).run past).1.refresher.state with
    | idle => exact Nat.zero_le 1
    | waitGrant | sequence => exact Nat.le_refl 1
  rw [account, kept, Refresher.accounted, inTime.pending, Bool.toNat_false]
  omega

/-- Rounds of eight refreshes and a calibration, one of which falls due in 6240 cycles. -/
def postponedEightfold : Config where
  timing := { tZQCS := some 64 }
  settings := { postponing := 8, zqcsInterval := some 1 }

/-- Rounds of eight refreshes with a calibration each are far enough apart, and so no run drops
one. -/
theorem new_keepsPace_of_long_rounds :
    postponedEightfold.validate = .ok () ∧
      ∃ start, Controller.new postponedEightfold = .ok start ∧
        ∀ past, start.dropped past = 0 ∧
          past.length / 6240 - 1 ≤ (start.run past).1.refresher.rounds := by
  refine ⟨by decide, ?_⟩
  obtain ⟨start, built, keeps⟩ := exists_new_keepsPace (c := postponedEightfold) (by decide) rfl
  exact ⟨start, built, fun past => ⟨(keeps past).undropped (by decide),
    (keeps past).completed (by decide)⟩⟩

end Controller

end DramScheduler
