import DramScheduler.Timing.ActivateWindow
import Mathlib.Data.List.Basic
import Mathlib.Data.List.Induction

/-!
# The activation window counts what it has seen

A window keeps the ages of the rows opened lately. `ActivateWindow.Tracks` ties the ages to the
cycles that went by: for every number of cycles within the depth of the window, the ages below it
are as many as the events in so many last cycles. So the window is ready exactly while there are
less than four events in the cycles that it reaches back, and events that come while it is ready
keep the limit in every stretch of cycles (`ActivateWindow.Limited`).

## Main results

* `ActivateWindow.Tracks.tick` — a window goes on to count over a clock edge;
* `ActivateWindow.Tracks.active_eq` — what the count of a window is;
* `ActivateWindow.Limited.concat` — events that come while there is room keep the limit.
-/

namespace DramScheduler.ActivateWindow

variable {w : ActivateWindow} {pulses : List Bool} {pulse : Bool} {window : Nat}

/-- The number of events in the last `n` cycles. -/
def recent (pulses : List Bool) (n : Nat) : Nat :=
  (pulses.drop (pulses.length - n)).count true

/-- There is no event in no cycles. -/
theorem recent_zero (pulses : List Bool) : recent pulses 0 = 0 := by
  rw [recent, Nat.sub_zero, List.drop_length, List.count_nil]

/-- The last cycles are the one that ends and those before it. -/
theorem recent_concat_succ (pulses : List Bool) (pulse : Bool) (n : Nat) :
    recent (pulses ++ [pulse]) (n + 1) = recent pulses n + pulse.toNat := by
  have start : (pulses ++ [pulse]).length - (n + 1) = pulses.length - n := by
    rw [List.length_append, List.length_singleton]
    omega
  rw [recent, start, List.drop_append_of_le_length (Nat.sub_le _ _), List.count_append, recent]
  cases pulse <;> rfl

/-- There are no more events in a later part of the last cycles than in all of them. -/
theorem count_drop_le_recent {n t : Nat} (late : pulses.length ≤ t + n) :
    (pulses.drop t).count true ≤ recent pulses n := by
  have part : pulses.drop t =
      (pulses.drop (pulses.length - n)).drop (t - (pulses.length - n)) := by
    rw [List.drop_drop]
    congr 1
    omega
  rw [part, recent]
  exact (List.drop_sublist _ _).count_le true

/-- Cycles without an event move the earlier ones further back. -/
theorem recent_append_replicate (pulses : List Bool) (k n : Nat) :
    recent (pulses ++ List.replicate k false) n = recent pulses (n - k) := by
  induction k generalizing n with
  | zero => rw [List.replicate_zero, List.append_nil, Nat.sub_zero]
  | succ k ih =>
    rw [List.replicate_succ', ← List.append_assoc]
    cases n with
    | zero => rw [recent_zero, Nat.zero_sub, recent_zero]
    | succ n => rw [recent_concat_succ, ih, Nat.succ_sub_succ, Bool.toNat_false, Nat.add_zero]

/-- There is no event in the last cycles if every one has been before them. -/
theorem recent_eq_zero_iff {n : Nat} :
    recent pulses n = 0 ↔ ∀ t, pulses[t]? = some true → t + n < pulses.length := by
  rw [recent, List.count_eq_zero, List.mem_iff_getElem?, not_exists]
  simp only [List.getElem?_drop]
  constructor
  · intro none t event
    by_contra late
    have within : t < pulses.length := (List.getElem?_eq_some_iff.1 event).1
    refine none (t - (pulses.length - n)) ?_
    rwa [Nat.add_sub_cancel' (by omega)]
  · intro before t event
    have earlier := before _ event
    omega

/-! ### What the ages are -/

/-- The ages of a window are those of the events, one for one. -/
structure Tracks (w : ActivateWindow) (pulses : List Bool) : Prop where
  /-- Older events are forgotten. -/
  inside : ∀ age ∈ w.ages, age < w.depth
  /-- The ages below a number are as many as the events in so many cycles. -/
  counts : ∀ n, n ≤ w.depth → (w.ages.filter (· < n)).length = recent pulses n

/-- A new window has no ages, and nothing has happened. -/
theorem tracks_new (window : Nat) : (new window).Tracks [] where
  inside age mem := absurd mem List.not_mem_nil
  counts n _ := by rw [recent, List.drop_nil]; rfl

/-- **A window goes on to count over a clock edge.** Every age grows by one, the oldest may drop
out, and an event comes in with age zero. -/
theorem Tracks.tick (tracks : w.Tracks pulses) (pulse : Bool) :
    (w.tick pulse).Tracks (pulses ++ [pulse]) where
  inside _ mem := lt_depth_of_mem_tick mem
  counts := by
    intro n within
    cases n with
    | zero =>
      rw [recent_zero]
      simp
    | succ n =>
      have older : (w.ages.map (· + 1)).filter (· < n + 1) =
          (w.ages.filter (· < n)).map (· + 1) := by
        rw [List.filter_map]
        congr 1
        refine List.filter_congr fun age _ => ?_
        simp
      have below : ∀ ages : List Nat,
          (ages.filter (· < w.depth)).filter (· < n + 1) = ages.filter (· < n + 1) := by
        intro ages
        rw [List.filter_filter]
        refine List.filter_congr fun age _ => ?_
        have depth : n + 1 ≤ w.depth := within
        simp only [Bool.and_eq_left_iff_imp, decide_eq_true_eq]
        omega
      have earlier := tracks.counts n (Nat.le_of_succ_le within)
      rw [recent_concat_succ, ← earlier, ActivateWindow.tick]
      dsimp only
      rw [below]
      cases pulse with
      | false =>
        rw [if_neg Bool.false_ne_true, older, List.length_map]
        rfl
      | true =>
        rw [if_pos rfl, List.filter_cons, if_pos (by simp), older, List.length_cons,
          List.length_map]
        rfl

/-- The depth of a window is fixed. -/
@[simp] theorem depth_tick (w : ActivateWindow) (pulse : Bool) : (w.tick pulse).depth = w.depth :=
  rfl

/-- A window keeps the ages of the events that it was told of. Induction on the train. -/
theorem tracks_foldl (window : Nat) (pulses : List Bool) :
    (pulses.foldl ActivateWindow.tick (new window)).Tracks pulses := by
  induction pulses using List.reverseRecOn with
  | nil => exact tracks_new window
  | append_singleton pulses pulse ih =>
    rw [List.foldl_append]
    exact ih.tick pulse

/-- The depth of a window is fixed over a run. -/
theorem depth_foldl (w : ActivateWindow) (pulses : List Bool) :
    (pulses.foldl ActivateWindow.tick w).depth = w.depth := by
  induction pulses generalizing w with
  | nil => rfl
  | cons pulse rest ih => rw [List.foldl_cons, ih, depth_tick]

/-- **The count of a window** is the number of events in the cycles that it reaches back. -/
theorem Tracks.active_eq (tracks : w.Tracks pulses) : w.active = recent pulses w.depth := by
  rw [← tracks.counts w.depth (Nat.le_refl _), active]
  congr 1
  exact (List.filter_eq_self.2 fun age mem => decide_eq_true (tracks.inside age mem)).symm

/-- A window is ready while there is room for one more event. -/
theorem Tracks.ready_iff (tracks : w.Tracks pulses) :
    w.ready = true ↔ recent pulses w.depth < limit := by
  rw [ready, decide_eq_true_eq, tracks.active_eq]

/-! ### The limit -/

/-- No stretch of cycles of the length of the window has more events than are allowed. -/
def Limited (pulses : List Bool) (window : Nat) : Prop :=
  ∀ t, ((pulses.drop t).take window).count true ≤ limit

/-- **Events that come while there is room keep the limit.** A stretch that ends with the new cycle
is part of the cycles that the window reaches back, and others are as before. -/
theorem Limited.concat (limited : Limited pulses window)
    (room : pulse = true → recent pulses (window - 1) < limit) :
    Limited (pulses ++ [pulse]) window := by
  intro t
  rcases Nat.lt_or_ge pulses.length (t + window) with reaches | short
  · rcases Nat.lt_or_ge pulses.length t with beyond | within
    · rw [List.drop_eq_nil_of_le (by rw [List.length_append, List.length_singleton]; omega),
        List.take_nil]
      exact Nat.zero_le limit
    · -- the stretch ends with the new cycle, and the window reaches back to its beginning
      have whole : ((pulses ++ [pulse]).drop t).take window = pulses.drop t ++ [pulse] := by
        rw [List.drop_append_of_le_length within, List.take_of_length_le]
        rw [List.length_append, List.length_drop, List.length_singleton]
        omega
      rw [whole, List.count_append]
      cases pulse with
      | true =>
        have before : (pulses.drop t).count true ≤ recent pulses (window - 1) :=
          count_drop_le_recent (by omega)
        have few := room rfl
        rw [List.count_singleton_self]
        omega
      | false =>
        have before := limited t
        rw [List.take_of_length_le (by rw [List.length_drop]; omega)] at before
        exact before
  · have within : t ≤ pulses.length := by omega
    rw [List.drop_append_of_le_length within,
      List.take_append_of_le_length (by rw [List.length_drop]; omega)]
    exact limited t

/-- What keeps the limit has kept it all along. -/
theorem Limited.init (limited : Limited (pulses ++ [pulse]) window) : Limited pulses window := by
  intro t
  have kept := limited t
  rw [List.drop_append, List.take_append, List.count_append] at kept
  exact Nat.le_trans (Nat.le_add_right _ _) kept

/-- There is room for an event that keeps the limit. -/
theorem Limited.recent_lt (limited : Limited (pulses ++ [true]) window) :
    recent pulses (window - 1) < limit := by
  cases window with
  | zero => rw [Nat.zero_sub, recent_zero]; decide
  | succ depth =>
    rw [Nat.succ_sub_one]
    -- the stretch that ends with the new event
    have few := limited (pulses.length - depth)
    rw [List.drop_append_of_le_length (Nat.sub_le _ _), List.take_of_length_le (by simp; omega),
      List.count_append, List.count_singleton_self] at few
    exact few

end DramScheduler.ActivateWindow
