import DramScheduler.Proofs.Timing.Gate
import DramScheduler.Proofs.Timing.History
import DramScheduler.Timing.Spacing

/-!
# Timing registers are exact

Two kinds of registers keep the rules that hold over many cycles: a countdown keeps two events
apart, and a window lets four of them through in any stretch of its length. Each forgets most of
what it was told, and is as good as the whole history for its rule. A countdown is ready if there
was no event in the cycles that matter, and what is left of it is the time until that is so; a
window has the number of events in the cycles that matter. Both hold for every train of events, also
for one that breaks the rule.

An event that waits until the registers are ready is held back exactly where it would break the
rule, so the registers enforce the rule and delay nothing else.

## Main results

* `Spacing.Tracks.tick` — a countdown goes on to tell the time over a clock edge;
* `Spacing.foresees`, `ActivateWindow.foresees` — the registers know what would break their rules;
* `exact_monitors` — both kinds of registers are exact and enforce their rules.
-/

namespace DramScheduler

open ActivateWindow (recent recent_zero recent_concat_succ recent_eq_zero_iff
  recent_append_replicate)

variable {pulses : List Bool} {pulse : Bool} {gap : Nat}

/-! ### Countdowns -/

namespace Spacing

variable {s : Spacing}

/-- No two events are closer to each other than the given number of cycles. -/
def Spaced (pulses : List Bool) (gap : Nat) : Prop :=
  ∀ s t, s < t → pulses[s]? = some true → pulses[t]? = some true → s + gap ≤ t

/-- A countdown is over after so many cycles as it takes the last event to move out of those that
matter. -/
def Tracks (s : Spacing) (pulses : List Bool) : Prop :=
  ∀ k, s.remaining ≤ k ↔ recent pulses (s.spacing - 1 - k) = 0

/-- A countdown is over before the first event. -/
theorem tracks_new (gap : Nat) : (new gap).Tracks [] := by
  intro k
  rw [recent, List.drop_nil]
  simp [new]

/-- **A countdown goes on to tell the time over a clock edge.** It starts again with an event, and
falls by one without. -/
theorem Tracks.tick (tracks : s.Tracks pulses) (pulse : Bool) :
    (s.tick pulse).Tracks (pulses ++ [pulse]) := by
  intro k
  rw [spacing_tick]
  cases pulse with
  | true =>
    rw [tick_true]
    -- the new event is among the last cycles if there are any
    cases reach : s.spacing - 1 - k with
    | zero => rw [recent_zero]; omega
    | succ n => rw [recent_concat_succ, Bool.toNat_true]; omega
  | false =>
    have earlier := tracks (k + 1)
    rw [tick_false, Nat.sub_le_iff_le_add, earlier, Nat.sub_add_eq]
    cases s.spacing - 1 - k with
    | zero => rw [Nat.zero_sub, recent_zero, recent_zero]
    | succ n => rw [recent_concat_succ, Nat.succ_sub_one, Bool.toNat_false, Nat.add_zero]

/-- A countdown tells the time after every train of events. -/
theorem tracks_foldl (gap : Nat) (pulses : List Bool) :
    (pulses.foldl Spacing.tick (new gap)).Tracks pulses := by
  induction pulses using List.reverseRecOn with
  | nil => exact tracks_new gap
  | append_singleton pulses pulse ih =>
    rw [List.foldl_append]
    exact ih.tick pulse

/-- The distance is fixed. -/
theorem spacing_foldl (s : Spacing) (pulses : List Bool) :
    (pulses.foldl Spacing.tick s).spacing = s.spacing := by
  induction pulses generalizing s with
  | nil => rfl
  | cons pulse rest ih => rw [List.foldl_cons, ih, spacing_tick]

/-- A countdown is over when the last event is far enough back. -/
theorem remaining_le_iff (gap : Nat) (pulses : List Bool) (k : Nat) :
    (pulses.foldl Spacing.tick (new gap)).remaining ≤ k ↔ recent pulses (gap - 1 - k) = 0 := by
  rw [tracks_foldl gap pulses k, spacing_foldl]
  rfl

/-- **A countdown is ready** if there was no event in the cycles that matter. -/
theorem ready_foldl_iff (gap : Nat) (pulses : List Bool) :
    (pulses.foldl Spacing.tick (new gap)).ready = true ↔ recent pulses (gap - 1) = 0 := by
  rw [ready, beq_iff_eq, ← Nat.le_zero, remaining_le_iff, Nat.sub_zero]

/-- One more event keeps the distance if it is far enough from every earlier one. -/
theorem spaced_concat_iff :
    Spaced (pulses ++ [pulse]) gap ↔ Spaced pulses gap ∧
      (pulse = true → ∀ s, pulses[s]? = some true → s + gap ≤ pulses.length) := by
  simp only [Spaced, Run.getElem?_concat_eq_some_iff]
  constructor
  · intro spaced
    refine ⟨fun s t order first second => spaced s t order (.inl first) (.inl second), ?_⟩
    rintro rfl s first
    have within := (List.getElem?_eq_some_iff.1 first).1
    exact spaced s _ within (.inl first) (.inr ⟨rfl, rfl⟩)
  · rintro ⟨spaced, far⟩ s t order first second
    rcases first with first | ⟨rfl, rfl⟩
    · rcases second with second | ⟨rfl, rfl⟩
      · exact spaced s t order first second
      · exact far rfl s first
    · rcases second with second | ⟨rfl, -⟩
      · have within := (List.getElem?_eq_some_iff.1 second).1
        omega
      · omega

/-- A countdown as a gate. -/
def gate : Gate Spacing :=
  ⟨ready, tick⟩

/-- **A countdown knows what would be too close**: one more event keeps the distance exactly if it
is ready. -/
theorem foresees (gap : Nat) : gate.Foresees (new gap) (Spaced · gap) where
  nil s t _ first := by cases first
  ready_iff pulses spaced := by
    refine (ready_foldl_iff gap pulses).trans ?_
    rw [recent_eq_zero_iff, spaced_concat_iff, and_iff_right spaced, forall_prop_of_true rfl]
    refine forall_congr' fun t => forall_congr' fun event => ?_
    have within := (List.getElem?_eq_some_iff.1 event).1
    omega
  pause pulses spaced := spaced_concat_iff.2 ⟨spaced, nofun⟩
  init pulses pulse spaced := (spaced_concat_iff.1 spaced).1

/-- What a countdown shows after every train of events, and what it lets through if events wait for
it. -/
structure Monitors (gap : Nat) : Prop where
  /-- It is ready if there was no event in the cycles that matter. -/
  ready_iff : ∀ pulses, (pulses.foldl Spacing.tick (new gap)).ready = true ↔
    recent pulses (gap - 1) = 0
  /-- The cycles that are left are those until the countdown is ready, if no event comes. -/
  remaining_le_iff : ∀ pulses k, (pulses.foldl Spacing.tick (new gap)).remaining ≤ k ↔
    recent (pulses ++ List.replicate k false) (gap - 1) = 0
  /-- It lets through what keeps the distance, and all of that. -/
  enforces : gate.Enforces (new gap) (Spaced · gap)

/-- Every countdown shows this. A cycle without an event takes one from what is left. -/
theorem monitors (gap : Nat) : Monitors gap where
  ready_iff := ready_foldl_iff gap
  remaining_le_iff pulses k := by rw [recent_append_replicate, Spacing.remaining_le_iff]
  enforces := (foresees gap).enforces

end Spacing

/-! ### Windows -/

namespace ActivateWindow

/-- A window as a gate. -/
def gate : Gate ActivateWindow :=
  ⟨ready, tick⟩

/-- The count of a window is the number of events in the cycles that it reaches back. -/
theorem active_foldl (window : Nat) (pulses : List Bool) :
    (pulses.foldl ActivateWindow.tick (new window)).active = recent pulses (window - 1) := by
  rw [(tracks_foldl window pulses).active_eq, depth_foldl]
  rfl

/-- **A window is ready** if there were less events than allowed in the cycles that it reaches
back. -/
theorem ready_foldl_iff (window : Nat) (pulses : List Bool) :
    (pulses.foldl ActivateWindow.tick (new window)).ready = true ↔
      recent pulses (window - 1) < limit := by
  rw [ready, decide_eq_true_eq, active_foldl]

/-- **A window knows what would be too many**: one more event keeps the limit exactly if it is
ready. -/
theorem foresees (window : Nat) : gate.Foresees (new window) (Limited · window) where
  nil t := by simp
  ready_iff pulses limited := by
    refine (ready_foldl_iff window pulses).trans ⟨fun room => ?_, Limited.recent_lt⟩
    exact limited.concat fun _ => room
  pause pulses limited := limited.concat nofun
  init pulses pulse limited := limited.init

/-- What a window shows after every train of events, and what it lets through if events wait for
it. -/
structure Monitors (window : Nat) : Prop where
  /-- The count is that of the events in the cycles that the window reaches back. -/
  active_eq : ∀ pulses, (pulses.foldl ActivateWindow.tick (new window)).active =
    recent pulses (window - 1)
  /-- It is ready if there were less than four. -/
  ready_iff : ∀ pulses, (pulses.foldl ActivateWindow.tick (new window)).ready = true ↔
    recent pulses (window - 1) < 4
  /-- The counter of the shift register is the count of the window, and never below zero. -/
  register : window ≤ Word.top → ∀ pulses : List Bool, ∃ h : ActivateHistory,
    pulses.foldlM ActivateHistory.tickM (.new window) = .ok h ∧
      h.active = (pulses.foldl ActivateWindow.tick (new window)).active
  /-- It lets through what keeps the limit, and all of that. -/
  enforces : gate.Enforces (new window) (Limited · window)

/-- Every window shows this, and so does its register form. -/
theorem monitors (window : Nat) : Monitors window where
  active_eq := active_foldl window
  ready_iff := ready_foldl_iff window
  register word pulses := by
    refine ⟨_, ActivateHistory.foldlM_tickM_eq_ok word pulses, ?_⟩
    refine (ActivateHistory.records_foldl window pulses).active_eq (tracks_foldl window pulses) ?_
    rw [ActivateHistory.depth_foldl, depth_foldl]
    rfl
  enforces := (foresees window).enforces

end ActivateWindow

/-- **Timing registers are exact monitors** of the last cycles, whatever train of events they are
told of, and let through exactly what their rules allow. -/
theorem exact_monitors (window gap : Nat) :
    ActivateWindow.Monitors window ∧ Spacing.Monitors gap :=
  ⟨ActivateWindow.monitors window, Spacing.monitors gap⟩

-- four events in a row, and the fifth only when the first has left the window
example : ActivateWindow.gate.passed (.new 6) (List.replicate 8 true) =
    [true, true, true, true, false, false, true, true] := by decide

end DramScheduler
