import DramScheduler.Proofs.Checked.Arithmetic
import DramScheduler.Proofs.Timing.Window
import DramScheduler.Word
import Mathlib.Data.List.Induction

/-!
# The activation window as a shift register

An `ActivateWindow` keeps the ages of the rows opened lately. In hardware the window is a shift
register, with one bit for each of the cycles that it reaches back, and beside it a counter of the
bits that are set, so that nothing has to be added up. The counter goes up with a bit that is
shifted in and down with one that drops out, and in a cycle that shifts one in and one out it does
both. It would fall below zero if it were not the number of set bits (`ActivateHistory.Records`).

## Main results

* `ActivateHistory.Records.tick` — the register holds the last cycles, and the counter counts them;
* `ActivateHistory.Records.active_eq` — the counter of the register is the count of the window;
* `ActivateHistory.Records.tickM_eq_ok`, `ActivateHistory.foldlM_tickM_eq_ok` — the counter stays
  within its word.
-/

namespace DramScheduler

open Checked

/-- The register form of the activation window: a shift register with a counter of the bits that are
set. -/
structure ActivateHistory where
  /-- For each of the last cycles, the oldest first, whether a row was opened in it. -/
  bits : List Bool
  /-- The counter of the bits that are set. -/
  active : Nat
  /-- The number of cycles the window reaches back. -/
  depth : Nat
  deriving DecidableEq, Repr, Inhabited

namespace ActivateHistory

variable {h : ActivateHistory} {w : ActivateWindow} {pulses : List Bool} {pulse : Bool}

/-- An empty register for a window of the given length. The cycle itself needs no bit. -/
def new (window : Nat) : ActivateHistory :=
  ⟨[], 0, window - 1⟩

/-- An empty register for a parameter that may be left out. -/
def ofOption (window : Option Nat) : ActivateHistory :=
  new (window.getD 0)

/-- One clock edge: a bit is shifted in, and the oldest one drops out of a full register. -/
def tick (h : ActivateHistory) (pulse : Bool) : ActivateHistory :=
  let bits := h.bits ++ [pulse]
  let active := h.active + pulse.toNat
  if h.depth < bits.length then
    { h with bits := bits.tail, active := active - (bits.head? == some true).toNat }
  else { h with bits := bits, active := active }

/-- One clock edge, with a counter of 64 bits. -/
def tickM (h : ActivateHistory) (pulse : Bool) : Checked ActivateHistory := do
  let bits := h.bits ++ [pulse]
  let active ← raise 64 h.active pulse
  if h.depth < bits.length then
    return { h with bits := bits.tail, active := ← lower active (bits.head? == some true) }
  else return { h with bits := bits, active := active }

/-- The length of the register is fixed. -/
@[simp] theorem depth_tick (h : ActivateHistory) (pulse : Bool) :
    (h.tick pulse).depth = h.depth := by
  rw [tick]
  split <;> rfl

/-- A register holds the bits of the last cycles, and its counter is the number of those set. -/
structure Records (h : ActivateHistory) (pulses : List Bool) : Prop where
  /-- The bits are those of the last cycles. -/
  bits_eq : h.bits = pulses.drop (pulses.length - h.depth)
  /-- The counter is right. -/
  active_eq_count : h.active = h.bits.count true

/-- An empty register has nothing to record. -/
theorem records_new (window : Nat) : (new window).Records [] where
  bits_eq := by rw [List.drop_nil]; rfl
  active_eq_count := rfl

/-- The counter has counted the bits, the one that is shifted in included. -/
theorem Records.count_eq (records : h.Records pulses) (pulse : Bool) :
    h.active + pulse.toNat = (h.bits ++ [pulse]).count true := by
  rw [records.active_eq_count, List.count_append]
  cases pulse <;> rfl

/-- The number of set bits without the oldest one. -/
theorem count_tail (bits : List Bool) :
    bits.tail.count true = bits.count true - (bits.head? == some true).toNat := by
  cases bits with
  | nil => rfl
  | cons oldest rest => cases oldest <;> simp

/-- **The register records one more cycle.** What the counter loses is the bit that drops out. -/
theorem Records.tick (records : h.Records pulses) (pulse : Bool) :
    (h.tick pulse).Records (pulses ++ [pulse]) := by
  have length : (h.bits ++ [pulse]).length = min pulses.length h.depth + 1 := by
    rw [records.bits_eq, List.length_append, List.length_drop, List.length_singleton]
    omega
  have appended : h.bits ++ [pulse] = (pulses ++ [pulse]).drop (pulses.length - h.depth) := by
    rw [List.drop_append_of_le_length (Nat.sub_le _ _), records.bits_eq]
  refine ⟨?_, ?_⟩
  · rw [depth_tick, List.length_append, List.length_singleton, ActivateHistory.tick]
    split
    · next full =>
      rw [length] at full
      rw [show pulses.length + 1 - h.depth = pulses.length - h.depth + 1 by omega, appended,
        List.tail_drop]
    · next room =>
      rw [length] at room
      rw [show pulses.length + 1 - h.depth = pulses.length - h.depth by omega, appended]
  · rw [ActivateHistory.tick]
    split
    · rw [records.count_eq, count_tail]
    · exact records.count_eq pulse

/-- A register records the cycles that were shifted in. -/
theorem records_foldl (window : Nat) (pulses : List Bool) :
    (pulses.foldl ActivateHistory.tick (new window)).Records pulses := by
  induction pulses using List.reverseRecOn with
  | nil => exact records_new window
  | append_singleton pulses pulse ih =>
    rw [List.foldl_append]
    exact ih.tick pulse

/-- The length of the register is fixed over a run. -/
theorem depth_foldl (h : ActivateHistory) (pulses : List Bool) :
    (pulses.foldl ActivateHistory.tick h).depth = h.depth := by
  induction pulses generalizing h with
  | nil => rfl
  | cons pulse rest ih => rw [List.foldl_cons, ih, depth_tick]

/-- **The counter of the register is the count of the window** of the same depth: both are the
number of events in the cycles that the window reaches back. -/
theorem Records.active_eq (records : h.Records pulses) (tracks : w.Tracks pulses)
    (depth : h.depth = w.depth) : h.active = w.active := by
  rw [records.active_eq_count, records.bits_eq, tracks.active_eq, ActivateWindow.recent, depth]

/-- There are no more set bits than the register has places. -/
theorem Records.active_le (records : h.Records pulses) : h.active ≤ h.depth := by
  rw [records.active_eq_count, records.bits_eq]
  refine Nat.le_trans List.count_le_length ?_
  rw [List.length_drop]
  omega

/-- A counter that can go up has a value after an edge: it never goes below zero. -/
theorem Records.tickM_eq_ok_of_lt (records : h.Records pulses)
    (fits : pulse = true → h.active + 1 < 2 ^ 64) : h.tickM pulse = .ok (h.tick pulse) := by
  -- a bit that drops out was counted when it was shifted in
  have lowered : lower (h.active + pulse.toNat) ((h.bits ++ [pulse]).head? == some true) =
      .ok (h.active + pulse.toNat - ((h.bits ++ [pulse]).head? == some true).toNat) := by
    refine lower_eq_ok fun set => ?_
    rw [records.count_eq]
    exact List.count_pos_iff.2 (List.mem_of_head? (beq_iff_eq.1 set))
  rw [tickM, ActivateHistory.tick]
  rw [raise_eq_ok fits, ok_bind]
  split
  · rw [lowered]
    rfl
  · rfl

/-- **The counter stays within its word**, if rows are opened while the window has room: it goes up
only while it is below the limit. -/
theorem Records.tickM_eq_ok (records : h.Records pulses)
    (room : pulse = true → h.active < ActivateWindow.limit) :
    h.tickM pulse = .ok (h.tick pulse) := by
  refine records.tickM_eq_ok_of_lt fun opens => ?_
  have few := room opens
  rw [ActivateWindow.limit] at few
  omega

/-- **The counter stays within its word** whatever it is told, if the window is a word: it counts no
more bits than the register has. Induction on the train. -/
theorem foldlM_tickM_eq_ok {window : Nat} (word : window ≤ Word.top) (pulses : List Bool) :
    pulses.foldlM ActivateHistory.tickM (new window) =
      .ok (pulses.foldl ActivateHistory.tick (new window)) := by
  refine foldlM_eq_ok (P := fun h => h.depth = window - 1 ∧ ∃ past, h.Records past) ?_
    ⟨rfl, [], records_new window⟩
  rintro h ⟨depth, past, records⟩ pulse -
  refine ⟨records.tickM_eq_ok_of_lt fun _ => ?_, (depth_tick h pulse).trans depth, _,
    records.tick pulse⟩
  have few := records.active_le
  rw [Word.top_eq] at word
  omega

end ActivateHistory

end DramScheduler
