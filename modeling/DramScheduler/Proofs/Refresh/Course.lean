import DramScheduler.Proofs.Bank.Guards
import DramScheduler.Proofs.Refresh.Timeline

/-!
# A refresh round in a trace

A refresher plays its timeline without a look at what was issued before. What the memory makes of it
can be said of the trace alone: whatever was issued before the round is over when the round begins
(`Trace.Rested`), and since then the commands of the timeline were issued and no others
(`Trace.Round`). The distances of all commands in and before the round follow from the cycle in
which it began.

## Main results

* `Trace.Round.concat` — a round goes on with the next command of its timeline;
* `Trace.Round.precharge_cases`, `Trace.Round.closing_over` — the precharges before a round and the
  one in it;
* `Trace.Round.refresh_apart`, `Trace.Round.refresh_over`, `Trace.Round.calibrate_over` — how far
  apart refreshes and calibrations are, and that the round outlasts them.
-/

namespace DramScheduler

/-- Whether a command refreshes rows. -/
def Command.isRefresh : Command → Bool
  | refresh _ => true
  | _ => false

/-- Whether a command calibrates the memory. -/
def Command.isCalibrate : Command → Bool
  | calibrate => true
  | _ => false

open Command

/-- What was issued before a cycle is over by then: precharges of every kind, refreshes and
calibrations. -/
structure Trace.Rested (T : Trace) (c : Config) (n : Nat) : Prop where
  /-- The precharges are over. -/
  precharged : ∀ s, s < n → T.At isPrecharge s → s + c.timing.tRP ≤ n
  /-- So are those that end column commands. -/
  closed : ∀ bank s, s < n → T.At (toBank bank autoPrecharge) s →
    T.closingTime c bank s + c.timing.tRP ≤ n
  /-- The refreshes are over. -/
  refreshed : ∀ s, s < n → T.At isRefresh s → s + c.timing.tRFC ≤ n
  /-- The calibrations are over. -/
  calibrated : ∀ s, s < n → T.At isCalibrate s → s + c.timing.tZQCS.getD 0 ≤ n

/-- A round began in the given cycle: what was issued before it is over, and since then the
timeline of the round was issued. -/
structure Trace.Round (T : Trace) (c : Config) (begun : Nat) (calibrate : Bool) : Prop where
  /-- The round has begun by now. -/
  started : begun ≤ T.length
  /-- Everything before it is over. -/
  rested : T.Rested c begun
  /-- Since then the timeline was issued, cycle by cycle. -/
  played : ∀ s, begun ≤ s → s < T.length → T.commandsAt s =
    ((Refresher.new c).timeline.command (s + 1 - begun) calibrate).toList

namespace Trace

variable {T : Trace} {c : Config} {commands : List Command} {kind : Command → Bool}
  {begun s n : Nat} {calibrate : Bool}

/-- A new cycle changes nothing about the ones before it. -/
theorem at_concat_of_lt (within : s < T.length) : At (T ++ [commands]) kind s ↔ T.At kind s := by
  rw [At, commandsAt_concat, if_neg (Nat.ne_of_lt within), At]

/-- What was over stays over: the commands before the cycle are the same. -/
theorem Rested.concat (rested : T.Rested c n) (within : n ≤ T.length) (commands : List Command) :
    Trace.Rested (T ++ [commands]) c n where
  precharged s before issued :=
    rested.precharged s before ((at_concat_of_lt (Nat.lt_of_lt_of_le before within)).1 issued)
  closed bank s before issued := by
    have past := Nat.lt_of_lt_of_le before within
    rw [closingTime_concat _ _ _ _ past]
    exact rested.closed bank s before ((at_concat_of_lt past).1 issued)
  refreshed s before issued :=
    rested.refreshed s before ((at_concat_of_lt (Nat.lt_of_lt_of_le before within)).1 issued)
  calibrated s before issued :=
    rested.calibrated s before ((at_concat_of_lt (Nat.lt_of_lt_of_le before within)).1 issued)

/-- A cycle without commands leaves everything over. -/
theorem Rested.concat_nil (rested : T.Rested c T.length) :
    Trace.Rested (T ++ [[]]) c (T.length + 1) := by
  have earlier : ∀ {kind : Command → Bool} {s}, At (T ++ [[]]) kind s → T.At kind s := by
    intro kind s issued
    rcases at_concat_iff.1 issued with before | ⟨-, now⟩
    · exact before
    · cases now
  constructor
  · intro s _ issued
    have before := earlier issued
    exact Nat.le_succ_of_le (rested.precharged s (lt_length_of_at before) before)
  · intro bank s _ issued
    have before := earlier issued
    have past := lt_length_of_at before
    rw [closingTime_concat _ _ _ _ past]
    exact Nat.le_succ_of_le (rested.closed bank s past before)
  · intro s _ issued
    have before := earlier issued
    exact Nat.le_succ_of_le (rested.refreshed s (lt_length_of_at before) before)
  · intro s _ issued
    have before := earlier issued
    exact Nat.le_succ_of_le (rested.calibrated s (lt_length_of_at before) before)

namespace Round

/-- **A round goes on with the next command of its timeline.** What was over when it began stays
over. -/
theorem concat (round : T.Round c begun calibrate)
    (next : commands =
      ((Refresher.new c).timeline.command (T.length + 1 - begun) calibrate).toList) :
    Trace.Round (T ++ [commands]) c begun calibrate where
  started := by
    rw [List.length_append]
    exact Nat.le_add_right_of_le round.started
  rested := round.rested.concat round.started commands
  played s after before := by
    rw [commandsAt_concat]
    split
    · next now => rw [now, next]
    · next earlier =>
      rw [List.length_append, List.length_singleton] at before
      exact round.played s after (by omega)

/-- A command was issued before the round began, or it is one of the round. -/
theorem of_at (round : T.Round c begun calibrate) (issued : T.At kind s) :
    s < begun ∨ begun ≤ s ∧ ∃ command, kind command = true ∧
      (Refresher.new c).timeline.command (s + 1 - begun) calibrate = some command := by
  rcases Nat.lt_or_ge s begun with before | after
  · exact .inl before
  · refine .inr ⟨after, ?_⟩
    have shown := issued
    rw [At, round.played s after (lt_length_of_at issued)] at shown
    obtain ⟨command, mem, ofKind⟩ := List.any_eq_true.1 shown
    exact ⟨command, ofKind, Option.mem_toList.1 mem⟩

/-- A precharge was over when the round began, or it is the one that begins the round. -/
theorem precharge_cases (round : T.Round c begun calibrate) (issued : T.At isPrecharge s) :
    s + c.timing.tRP ≤ begun ∨ s = begun := by
  rcases round.of_at issued with before | ⟨after, command, ofKind, shown⟩
  · exact .inl (round.rested.precharged s before issued)
  · right
    rcases RefreshTimeline.command_cases shown with ⟨first, -⟩ | ⟨-, rfl⟩ | ⟨-, rfl⟩
    · omega
    · cases ofKind
    · cases ofKind

/-- No column command is issued in a round, and those before it are over. -/
theorem closing_over (round : T.Round c begun calibrate) {bank : Nat}
    (issued : T.At (toBank bank autoPrecharge) s) :
    T.closingTime c bank s + c.timing.tRP ≤ begun := by
  rcases round.of_at issued with before | ⟨-, command, ofKind, shown⟩
  · exact round.rested.closed bank s before issued
  · rcases RefreshTimeline.command_cases shown with ⟨-, rfl⟩ | ⟨-, rfl⟩ | ⟨-, rfl⟩
    all_goals cases ofKind

/-- A refresh was over when the round began, or it is one of the round. -/
theorem refresh_cases (round : T.Round c begun calibrate) (issued : T.At isRefresh s) :
    s + c.timing.tRFC ≤ begun ∨ begun ≤ s ∧
      (Refresher.new c).timeline.command (s + 1 - begun) calibrate = some (.refresh none) := by
  rcases round.of_at issued with before | ⟨after, command, ofKind, shown⟩
  · exact .inl (round.rested.refreshed s before issued)
  · right
    refine ⟨after, ?_⟩
    rcases RefreshTimeline.command_cases shown with ⟨-, rfl⟩ | ⟨-, rfl⟩ | ⟨-, rfl⟩
    · cases ofKind
    · exact shown
    · cases ofKind

/-- **Refreshes keep their distance from the next one of the round**: those before the round are
over, and those in it are as far apart as the timeline has them. -/
theorem refresh_apart (a : c.Accepted) (round : T.Round c begun calibrate)
    (issued : T.At isRefresh s) {elapsed : Nat} (now : begun + elapsed = T.length + 1)
    (next : (Refresher.new c).timeline.command elapsed calibrate = some (.refresh none)) :
    s + c.timing.tRFC ≤ T.length := by
  have past := lt_length_of_at issued
  rcases round.refresh_cases issued with before | ⟨after, shown⟩
  · exact Nat.le_trans before round.started
  · have apart := Refresher.refresh_apart_refresh a (by omega) shown next
    omega

/-- **The refreshes of a round are over when it says that they are.** The last of them is issued a
refresh cycle earlier. -/
theorem refresh_over (a : c.Accepted) (enabled : c.settings.refreshEnabled)
    (round : T.Round c begun calibrate) (issued : T.At isRefresh s) {elapsed : Nat}
    (now : begun + elapsed = T.length + 1)
    (done : (Refresher.new c).timeline.refreshesDone ≤ elapsed) :
    s + c.timing.tRFC ≤ T.length := by
  rcases round.refresh_cases issued with before | ⟨after, shown⟩
  · exact Nat.le_trans before round.started
  · have settled := Refresher.refresh_le_refreshesDone a enabled shown
    omega

/-- **The calibration of a round is over when the round is.** Without an interval of its own a round
would not be measured with it. -/
theorem calibrate_over (a : c.Accepted) (enabled : c.settings.refreshEnabled)
    (measured : calibrate = true → c.settings.zqcsInterval.isSome)
    (round : T.Round c begun calibrate) (issued : T.At isCalibrate s) {elapsed : Nat}
    (now : begun + elapsed = T.length + 1)
    (ended : (Refresher.new c).timeline.length calibrate ≤ elapsed) :
    s + c.timing.tZQCS.getD 0 ≤ T.length := by
  rcases round.of_at issued with before | ⟨after, command, ofKind, shown⟩
  · exact Nat.le_trans (round.rested.calibrated s before issued) round.started
  · have calibration :
        (Refresher.new c).timeline.command (s + 1 - begun) calibrate = some .calibrate := by
      rcases RefreshTimeline.command_cases shown with ⟨-, rfl⟩ | ⟨-, rfl⟩ | ⟨-, rfl⟩
      · cases ofKind
      · cases ofKind
      · exact shown
    have asked := (RefreshTimeline.command_eq_calibrate_iff.1 calibration).2.1
    have settled := Refresher.calibrate_le_length a enabled (measured asked) calibration
    omega

end Round

end Trace

end DramScheduler
