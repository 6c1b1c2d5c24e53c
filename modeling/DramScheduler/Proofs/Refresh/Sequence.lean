import DramScheduler.Proofs.Refresh.Interval
import DramScheduler.Proofs.Refresh.Round
import DramScheduler.Proofs.Run

/-!
# A refresher plays one round after another

What can be seen of a refresher falls into rounds. In each of them it is idle first, then asks for
the bus until it is handed over, and then plays the timeline of the round to its end. Whether the
bus is handed over is heard in the second part only, so all that the surroundings decide in a round
is for how long the refresher asks in vain (`RefreshRound`). Which rounds end with a calibration
follows from their numbers alone.

The refresher is never idle for longer than it takes until a round falls due. The argument is the
one of `RefreshInterval.Counts`: in the idle part no round has fallen due, so the part is no longer
than what has passed of the running interval.

## Main definitions

* `RefreshRound.cycles` — what is seen of a round;
* `CompleteRounds` — complete rounds, one after another;
* `RefreshRound.UnderWay` — what has been seen of the round that is under way.

## Main results

* `Refresher.underWay_or_complete` — a round goes on over a clock edge, or it is complete;
* `Refresher.new_playsRounds` — every run is a sequence of complete rounds and a part of the next.
-/

namespace DramScheduler

/-! ### What is seen of a round -/

/-- What is seen of a refresher in one cycle, with what the bus says in it. -/
structure RefreshCycle where
  /-- What the refresher shows. -/
  outputs : RefresherOutputs
  /-- Whether the bus is handed over, as far as the bus says. -/
  granted : Bool
  /-- The rounds completed before. -/
  rounds : Nat
  deriving DecidableEq, Repr, Inhabited

namespace Refresher

/-- What is seen in a cycle of the refresher. -/
def cycle (r : Refresher) (granted : Bool) : RefreshCycle :=
  ⟨r.evaluate, granted, r.rounds⟩

/-- The refresher after a run, given whether the bus was handed over in each cycle. -/
def run (r : Refresher) (flags : List Bool) : Refresher :=
  flags.foldl commit r

/-- What is seen in the course of a run. -/
def seen (r : Refresher) (flags : List Bool) : List RefreshCycle :=
  (Run.cycles commit r flags).map fun cycle => cycle.1.cycle cycle.2

/-- A further cycle is put at the end of a run. -/
theorem run_concat (r : Refresher) (flags : List Bool) (granted : Bool) :
    r.run (flags ++ [granted]) = (r.run flags).commit granted :=
  List.foldl_append

/-- A further cycle adds what is seen in it. -/
theorem seen_concat (r : Refresher) (flags : List Bool) (granted : Bool) :
    r.seen (flags ++ [granted]) = r.seen flags ++ [(r.run flags).cycle granted] := by
  rw [seen, Run.cycles_concat, List.map_append]
  rfl

end Refresher

/-- Whether the round of a number ends with a calibration. Rounds are numbered from one. -/
def Config.calibrates (c : Config) (number : Nat) : Bool :=
  c.settings.zqcsInterval.any fun interval => decide (interval ∣ number)

/-- The cycles from one round that falls due to the next. -/
def Config.roundInterval (c : Config) : Nat :=
  c.timing.tREFI * c.settings.postponing

/-- Rounds fall due in different cycles. -/
theorem Config.Accepted.roundInterval_pos {c : Config} (a : c.Accepted) : 0 < c.roundInterval :=
  Nat.mul_pos a.tREFI_pos a.postponing.1

/-- What is shown in a cycle of a timeline. -/
def RefreshTimeline.outputs (t : RefreshTimeline) (calibrate : Bool) (elapsed : Nat) :
    RefresherOutputs where
  valid := decide (elapsed < t.length calibrate)
  command := t.command elapsed calibrate
  last := decide (elapsed = t.length calibrate)

/-- What the bus says in the course of a round. All else that is seen of it follows from the
configuration and from the number of the round. -/
structure RefreshRound where
  /-- While the refresher is idle. -/
  idle : List Bool
  /-- For how many cycles the bus is asked for in vain. -/
  waiting : Nat
  /-- While the timeline is played. -/
  playing : List Bool
  deriving DecidableEq, Repr, Inhabited

namespace RefreshRound

/-- Cycles in which no round is due. -/
def idling (rounds : Nat) (flags : List Bool) : List RefreshCycle :=
  flags.map fun granted => ⟨{}, granted, rounds⟩

/-- Cycles in which the bus is asked for in vain. -/
def asking (rounds waiting : Nat) : List RefreshCycle :=
  List.replicate waiting ⟨{ valid := true }, false, rounds⟩

/-- The cycle in which the bus is asked for and handed over. -/
def taking (rounds : Nat) : RefreshCycle :=
  ⟨{ valid := true }, true, rounds⟩

/-- The first cycles of a timeline. -/
def timed (c : Config) (rounds : Nat) (flags : List Bool) : List RefreshCycle :=
  flags.mapIdx fun i granted =>
    ⟨(Refresher.new c).timeline.outputs (c.calibrates (rounds + 1)) (i + 1), granted, rounds⟩

/-- What is seen of a round, by the number of rounds before it. -/
def cycles (round : RefreshRound) (c : Config) (rounds : Nat) : List RefreshCycle :=
  idling rounds round.idle ++ asking rounds round.waiting ++ [taking rounds] ++
    timed c rounds round.playing

/-- The refresher has asked for the bus when it should: after it was idle, and not after more than
an interval. -/
structure Begun (c : Config) (idle : List Bool) : Prop where
  /-- The refresher is idle for a cycle after every round, even if the next one is due. -/
  pos : 0 < idle.length
  /-- It is idle no longer than it takes until a round falls due. -/
  le : idle.length ≤ c.roundInterval

/-- The cycles of a timeline, by the number of rounds before it. -/
def duration (c : Config) (rounds : Nat) : Nat :=
  (Refresher.new c).timeline.length (c.calibrates (rounds + 1))

/-- The timeline of a round has been played to its end. -/
structure Complete (round : RefreshRound) (c : Config) (rounds : Nat) : Prop where
  /-- It has begun when it should. -/
  begun : Begun c round.idle
  /-- Its timeline was played to the end. -/
  playing : round.playing.length = duration c rounds

/-! ### What is seen of a part of it -/

variable {c : Config} {rounds t : Nat} {rest : List RefreshCycle} {state : RefresherState}

/-- One more cycle in which no round is due. -/
theorem idling_concat (rounds : Nat) (flags : List Bool) (granted : Bool) :
    idling rounds (flags ++ [granted]) = idling rounds flags ++ [⟨{}, granted, rounds⟩] :=
  List.map_append

/-- One more cycle in which the bus is asked for in vain. -/
theorem asking_succ (rounds waiting : Nat) :
    asking rounds (waiting + 1) = asking rounds waiting ++ [⟨{ valid := true }, false, rounds⟩] :=
  List.replicate_succ'

/-- A round of which more has been played. -/
theorem cycles_append (round : RefreshRound) (c : Config) (rounds : Nat) (later : List Bool) :
    { round with playing := round.playing ++ later }.cycles c rounds =
      round.cycles c rounds ++ later.mapIdx fun i granted =>
        ⟨(Refresher.new c).timeline.outputs (c.calibrates (rounds + 1))
          (i + round.playing.length + 1), granted, rounds⟩ := by
  rw [cycles, timed, List.mapIdx_append, ← List.append_assoc]
  rfl

/-- What has been seen of the round that is under way `t` cycles after the start, by the state of
the refresher. -/
inductive UnderWay (c : Config) (rounds t : Nat) : RefresherState → List RefreshCycle → Prop
  /-- No round has fallen due since the last one was complete. -/
  | idle (flags : List Bool) (short : flags.length ≤ t % c.roundInterval) :
      UnderWay c rounds t .idle (idling rounds flags)
  /-- The bus is asked for, in vain so far. -/
  | waitGrant (idle : List Bool) (waiting : Nat) (begun : Begun c idle) :
      UnderWay c rounds t .waitGrant (idling rounds idle ++ asking rounds waiting)
  /-- The timeline is played, and there is more of it. -/
  | sequence (round : RefreshRound) (begun : Begun c round.idle)
      (more : round.playing.length < duration c rounds) :
      UnderWay c rounds t (.sequence (round.playing.length + 1) (c.calibrates (rounds + 1)))
        (round.cycles c rounds)

/-- A part of a round has been seen, and more of it is to come. -/
def Unfinished (c : Config) (rounds : Nat) (rest : List RefreshCycle) : Prop :=
  ∃ (round : RefreshRound) (later : List RefreshCycle), round.Complete c rounds ∧ later ≠ [] ∧
    rest ++ later = round.cycles c rounds

/-- **A round that is under way can still be completed.** What is missing of it can be told from its
state: the rest of the timeline, with the bus handed over before if need be. -/
theorem UnderWay.unfinished (a : c.Accepted) (underWay : UnderWay c rounds t state rest) :
    Unfinished c rounds rest := by
  let playing := List.replicate (duration c rounds) false
  have whole : playing.length = duration c rounds := List.length_replicate
  cases underWay with
  | idle flags short =>
    have within := Nat.mod_lt t a.roundInterval_pos
    refine ⟨⟨flags ++ [false], 0, playing⟩,
      ⟨{}, false, rounds⟩ :: taking rounds :: timed c rounds playing,
      ⟨⟨by simp, ?_⟩, whole⟩, List.cons_ne_nil _ _, ?_⟩
    · rw [List.length_append, List.length_singleton]
      omega
    · rw [cycles, idling_concat]
      simp [asking]
  | waitGrant idle waiting begun =>
    refine ⟨⟨idle, waiting, playing⟩, taking rounds :: timed c rounds playing, ⟨begun, whole⟩,
      List.cons_ne_nil _ _, ?_⟩
    rw [cycles]
    simp
  | sequence round begun more =>
    let later := List.replicate (duration c rounds - round.playing.length) false
    refine ⟨{ round with playing := round.playing ++ later }, _, ⟨begun, ?_⟩, ?_,
      (round.cycles_append c rounds later).symm⟩
    · rw [List.length_append, List.length_replicate]
      omega
    · rw [← List.length_pos_iff, List.length_mapIdx, List.length_replicate]
      omega

end RefreshRound

/-- Complete rounds, one after another, and how many they are. -/
inductive CompleteRounds (c : Config) : List RefreshCycle → Nat → Prop
  /-- No round is complete at first. -/
  | none : CompleteRounds c [] 0
  /-- A further round is seen after the complete ones. -/
  | next {seen : List RefreshCycle} {rounds : Nat} {round : RefreshRound}
      (before : CompleteRounds c seen rounds) (complete : round.Complete c rounds) :
      CompleteRounds c (seen ++ round.cycles c rounds) (rounds + 1)

/-! ### One cycle -/

namespace Refresher

open RefreshRound

variable {c : Config} {r : Refresher} {t : Nat} {rest : List RefreshCycle}

/-- Which rounds end with a calibration is a matter of their numbers. -/
theorem calibrationDue_eq (interval : r.zqcsInterval = c.settings.zqcsInterval)
    (several : c.settings.zqcsInterval ≠ some 0) :
    r.calibrationDue = c.calibrates (r.rounds + 1) := by
  rw [calibrationDue_eq_any (interval ▸ several), interval, Config.calibrates]

/-- In an idle cycle a round falls due, or is remembered, or there is none. If there is none the
idle part is still no longer than what has passed of the interval. -/
theorem underWay_of_idle (a : c.Accepted)
    (counts : r.interval.Counts c.timing.tREFI c.settings.postponing t) (state : r.state = .idle)
    {flags : List Bool} (short : flags.length ≤ t % c.roundInterval) (granted : Bool) :
    UnderWay c r.rounds (t + 1) (r.nextState granted)
      (idling r.rounds flags ++ [r.cycle granted]) := by
  have shown : r.cycle granted = ⟨{}, granted, r.rounds⟩ := by rw [cycle, evaluate, state]
  rw [shown, ← idling_concat, nextState, state]
  dsimp only
  cases asks : r.pending || r.interval.requests with
  | true =>
    have within := Nat.mod_lt t a.roundInterval_pos
    rw [if_pos rfl, ← List.append_nil (idling _ _)]
    refine .waitGrant _ 0 ⟨by simp, ?_⟩
    rw [List.length_append, List.length_singleton]
    omega
  | false =>
    rw [Bool.or_eq_false_iff] at asks
    have early : ¬ c.roundInterval ∣ t + 1 := by
      rw [Config.roundInterval, ← counts.requests_iff a.tREFI_pos a.postponing.1, asks.2]
      exact Bool.false_ne_true
    rw [if_neg Bool.false_ne_true]
    refine .idle _ ?_
    rw [List.length_append, List.length_singleton]
    rcases succ_mod_cases a.roundInterval_pos t with ⟨-, again⟩ | ⟨-, grows⟩
    · exact absurd (Nat.dvd_of_mod_eq_zero again) early
    · omega

/-- The bus is asked for until it is handed over, and then the timeline begins in its first
cycle. -/
theorem underWay_of_waitGrant (a : c.Accepted) (enabled : c.settings.refreshEnabled)
    (due : r.calibrationDue = c.calibrates (r.rounds + 1)) (state : r.state = .waitGrant)
    {idle : List Bool} {waiting : Nat} (begun : Begun c idle) (granted : Bool) :
    UnderWay c r.rounds (t + 1) (r.nextState granted)
      (idling r.rounds idle ++ asking r.rounds waiting ++ [r.cycle granted]) := by
  have shown : r.cycle granted = ⟨{ valid := true }, granted, r.rounds⟩ := by
    rw [cycle, evaluate, state]
  rw [shown, nextState, state]
  cases granted with
  | false =>
    rw [List.append_assoc, ← asking_succ]
    exact .waitGrant _ _ begun
  | true =>
    have long := add_two_le_length a enabled (c.calibrates (r.rounds + 1))
    rw [due, ← List.append_nil (_ ++ [_])]
    exact .sequence ⟨idle, waiting, []⟩ begun (by rw [duration, List.length_nil]; omega)

/-- What the refresher shows while it plays a timeline. -/
theorem evaluate_of_sequence {elapsed : Nat} {calibrate : Bool}
    (state : r.state = .sequence elapsed calibrate)
    (within : elapsed ≤ r.timeline.length calibrate) :
    r.evaluate = r.timeline.outputs calibrate elapsed := by
  have last : r.isLast elapsed calibrate = decide (elapsed = r.timeline.length calibrate) := by
    rw [isLast, decide_eq_decide]
    omega
  have valid : (!decide (elapsed = r.timeline.length calibrate)) =
      decide (elapsed < r.timeline.length calibrate) := by
    rw [← decide_not, decide_eq_decide]
    omega
  rw [evaluate, state]
  dsimp only
  rw [last, valid, RefreshTimeline.outputs]

/-- The next cycle of a timeline is seen. -/
theorem cycles_concat {round : RefreshRound} {granted : Bool}
    (shown : r.evaluate = (Refresher.new c).timeline.outputs (c.calibrates (r.rounds + 1))
      (round.playing.length + 1)) :
    round.cycles c r.rounds ++ [r.cycle granted] =
      { round with playing := round.playing ++ [granted] }.cycles c r.rounds := by
  rw [cycles_append, cycle, shown]
  simp

/-- **A round goes on, or it is complete.** What is seen in a cycle is the next part of the round
that is under way, or the last. The cases are those of the state. -/
theorem underWay_or_complete (a : c.Accepted) (enabled : c.settings.refreshEnabled)
    (timeline : r.timeline = (Refresher.new c).timeline)
    (due : r.calibrationDue = c.calibrates (r.rounds + 1))
    (counts : r.interval.Counts c.timing.tREFI c.settings.postponing t)
    (underWay : UnderWay c r.rounds t r.state rest) (granted : Bool) :
    (r.nextRounds = r.rounds ∧
        UnderWay c r.rounds (t + 1) (r.nextState granted) (rest ++ [r.cycle granted])) ∨
      r.nextRounds = r.rounds + 1 ∧ r.nextState granted = .idle ∧
        ∃ round : RefreshRound, round.Complete c r.rounds ∧
          rest ++ [r.cycle granted] = round.cycles c r.rounds := by
  generalize state : r.state = now at underWay
  cases underWay with
  | idle _ short =>
    refine .inl ⟨?_, underWay_of_idle a counts state short granted⟩
    rw [nextRounds, evaluate, state]
    rfl
  | waitGrant _ _ begun =>
    refine .inl ⟨?_, underWay_of_waitGrant a enabled due state begun granted⟩
    rw [nextRounds, evaluate, state]
    rfl
  | sequence round begun more =>
    have length : r.timeline.length (c.calibrates (r.rounds + 1)) = duration c r.rounds := by
      rw [timeline, duration]
    have shown := evaluate_of_sequence state (length ▸ more)
    have last : r.evaluate.last = decide (round.playing.length + 1 = duration c r.rounds) := by
      rw [shown, RefreshTimeline.outputs, length]
    have ends : r.isLast (round.playing.length + 1) (c.calibrates (r.rounds + 1)) =
        r.evaluate.last := by
      rw [evaluate, state]
    rw [timeline] at shown
    rw [cycles_concat shown, nextRounds, nextState, state]
    dsimp only
    rw [ends, last]
    by_cases ended : round.playing.length + 1 = duration c r.rounds
    · rw [if_pos (decide_eq_true ended), if_pos (decide_eq_true ended)]
      refine .inr ⟨rfl, rfl, { round with playing := round.playing ++ [granted] },
        ⟨begun, ?_⟩, rfl⟩
      rw [← ended]
      exact List.length_append
    · rw [if_neg (by simpa using ended), if_neg (by simpa using ended)]
      refine .inl ⟨rfl, ?_⟩
      have onward : UnderWay c r.rounds (t + 1) _ _ :=
        .sequence { round with playing := round.playing ++ [granted] } begun (by
          rw [List.length_append, List.length_singleton]
          omega)
      rwa [List.length_append, List.length_singleton] at onward

/-! ### Runs -/

/-- What a refresher has shown so far is a sequence of complete rounds and the round that is under
way, and its registers tell in which part of the round it is. -/
structure Plays (c : Config) (r : Refresher) (seen : List RefreshCycle) : Prop where
  /-- Rounds are played at all. -/
  enabled : r.enabled = true
  /-- They are those of the configuration. -/
  timeline : r.timeline = (Refresher.new c).timeline
  /-- So are the rounds that end with a calibration. -/
  zqcsInterval : r.zqcsInterval = c.settings.zqcsInterval
  /-- The interval counters tell how long the run is. -/
  counts : r.interval.Counts c.timing.tREFI c.settings.postponing seen.length
  /-- What is seen are complete rounds and a part of the next one. -/
  course : ∃ whole rest, seen = whole ++ rest ∧ CompleteRounds c whole r.rounds ∧
    UnderWay c r.rounds seen.length r.state rest

/-- Nothing has been seen of a refresher at first, and it is idle. -/
theorem plays_new (a : c.Accepted) (enabled : c.settings.refreshEnabled) :
    (Refresher.new c).Plays c [] where
  enabled := enabled
  timeline := rfl
  zqcsInterval := rfl
  counts := RefreshInterval.counts_new a.postponing.1
  course := ⟨[], [], rfl, .none, .idle [] (Nat.zero_le _)⟩

/-- **A refresher goes on playing rounds over a clock edge.** The part of the next round grows, or
it becomes one more complete round. -/
theorem Plays.commit {seen : List RefreshCycle} (plays : r.Plays c seen) (a : c.Accepted)
    (enabled : c.settings.refreshEnabled) (granted : Bool) :
    (r.commit granted).Plays c (seen ++ [r.cycle granted]) := by
  obtain ⟨whole, rest, split, rounds, underWay⟩ := plays.course
  have due := calibrationDue_eq plays.zqcsInterval a.zqcsInterval
  have length : (seen ++ [r.cycle granted]).length = seen.length + 1 := by
    rw [List.length_append, List.length_singleton]
  have counts := plays.counts.tick a.tREFI_pos a.postponing.1
  rw [Refresher.commit, if_pos plays.enabled]
  refine ⟨plays.enabled, plays.timeline, plays.zqcsInterval, length ▸ counts, ?_⟩
  rw [length]
  dsimp only
  rcases underWay_or_complete a enabled plays.timeline due plays.counts underWay granted with
    ⟨same, onward⟩ | ⟨more, idle, round, complete, last⟩
  · rw [same]
    exact ⟨whole, _, by rw [split, List.append_assoc], rounds, onward⟩
  · rw [more, idle]
    refine ⟨_, [], ?_, rounds.next complete, .idle [] (Nat.zero_le _)⟩
    rw [split, List.append_assoc, last, List.append_nil]

/-- What a run shows are complete rounds and a part of the next one. Induction on the run. -/
theorem plays_run (a : c.Accepted) (enabled : c.settings.refreshEnabled) (flags : List Bool) :
    ((Refresher.new c).run flags).Plays c ((Refresher.new c).seen flags) := by
  induction flags using List.reverseRecOn with
  | nil => exact plays_new a enabled
  | append_singleton past granted ih =>
    rw [run_concat, seen_concat]
    exact ih.commit a enabled granted

/-- **A refresher plays one round after another.** Whatever the bus says, what is seen of a run is a
sequence of complete rounds, as many as are counted, and a part of the round after them. -/
theorem new_playsRounds (accepted : c.validate = .ok ())
    (enabled : c.settings.refreshEnabled = true) (flags : List Bool) :
    ∃ whole rest, (Refresher.new c).seen flags = whole ++ rest ∧
      CompleteRounds c whole ((Refresher.new c).run flags).rounds ∧
      Unfinished c ((Refresher.new c).run flags).rounds rest := by
  have a := Config.validate_eq_ok_iff.1 accepted
  obtain ⟨whole, rest, split, rounds, underWay⟩ := (plays_run a enabled flags).course
  exact ⟨whole, rest, split, rounds, underWay.unfinished a⟩

/-- Every second round ends with a calibration. -/
def calibratedInTurn : Config where
  timing := { tREFI := 30, tZQCS := some 4 }
  settings := { zqcsInterval := some 2 }

/-- Two rounds, the second of them with a calibration, are played in 90 cycles if the bus is always
handed over. -/
theorem new_playsRounds_of_calibration :
    calibratedInTurn.validate = .ok () ∧ calibratedInTurn.settings.refreshEnabled = true ∧
      ∃ whole rest,
        (Refresher.new calibratedInTurn).seen (List.replicate 90 true) = whole ++ rest ∧
          CompleteRounds calibratedInTurn whole 2 ∧ Unfinished calibratedInTurn 2 rest := by
  have played := new_playsRounds (c := calibratedInTurn) (by decide) rfl (List.replicate 90 true)
  have two : ((Refresher.new calibratedInTurn).run (List.replicate 90 true)).rounds = 2 := by
    decide +kernel
  rw [two] at played
  exact ⟨by decide, rfl, played⟩

end Refresher

end DramScheduler
