import DramScheduler.Refresh.Interval
import DramScheduler.Word
import Mathlib.Algebra.Order.Ring.Nat
import Mathlib.Data.Nat.Basic
import Mathlib.Data.Nat.Factorization.Basic

/-!
# When rounds are asked for

The timer and the postponer behind it are counters that start full and go round. What they hold
after a number of cycles is therefore a matter of division: the timer holds what is left of its
period, the postponer what is left of its expiries. A round is asked for once in every product of
the two, and the product may be larger than what either counter can hold.

## Main results

* `RefreshInterval.Counts.tick` — the counters go on to count over a clock edge;
* `RefreshInterval.Counts.requests_iff` — in which cycles a round is asked for;
* `RefreshInterval.new_divides` — the counters divide the clock without drift.
-/

namespace DramScheduler

/-- A number that goes round either starts again or grows by one. -/
theorem succ_mod_cases {size : Nat} (positive : 0 < size) (n : Nat) :
    n % size + 1 = size ∧ (n + 1) % size = 0 ∨
      n % size + 1 < size ∧ (n + 1) % size = n % size + 1 := by
  rw [← Nat.mod_add_mod]
  rcases Nat.lt_or_ge (n % size + 1) size with inside | whole
  · exact .inr ⟨inside, Nat.mod_eq_of_lt inside⟩
  · have last : n % size + 1 = size := Nat.le_antisymm (Nat.mod_lt n positive) whole
    exact .inl ⟨last, by rw [last, Nat.mod_self]⟩

namespace RefreshInterval

variable {i : RefreshInterval} {period factor t : Nat}

/-- The counters after a number of cycles, by division with remainder. -/
structure Counts (i : RefreshInterval) (period factor t : Nat) : Prop where
  /-- The timer has what is left of its period. -/
  timer : i.timer = ⟨period, period - 1 - t % period⟩
  /-- The timer was over once for every whole period. -/
  postponer : i.postponer = ⟨factor, factor - 1 - t / period % factor⟩

/-- Both counters start full. -/
theorem counts_new (several : 0 < factor) : (new period factor).Counts period factor 0 where
  timer := by rw [Nat.zero_mod, Nat.sub_zero]; rfl
  postponer := by
    rw [Nat.zero_div, Nat.zero_mod, Nat.sub_zero, new, Postponer.new, Nat.max_eq_left several]

/-- A counter that goes round is at its end once in a round. -/
theorem left_eq_zero_iff {size : Nat} (positive : 0 < size) (n : Nat) :
    size - 1 - n % size = 0 ↔ size ∣ n + 1 := by
  rw [Nat.dvd_iff_mod_eq_zero]
  rcases succ_mod_cases positive n with ⟨last, again⟩ | ⟨inside, grows⟩
  · rw [again]
    omega
  · rw [grows]
    omega

/-- What a counter that goes round holds after an edge: the full count after zero, and one less
otherwise. -/
theorem left_succ {size : Nat} (positive : 0 < size) (n : Nat) :
    size - 1 - (n + 1) % size =
      if size - 1 - n % size = 0 then size - 1 else size - 1 - n % size - 1 := by
  rcases succ_mod_cases positive n with ⟨last, again⟩ | ⟨inside, grows⟩
  · rw [again, if_pos (by omega), Nat.sub_zero]
  · rw [grows, if_neg (by omega)]
    omega

/-- The timer is over in the last cycle of each period. -/
theorem Counts.expired_iff (counts : i.Counts period factor t) (positive : 0 < period) :
    i.timer.expired = true ↔ period ∣ t + 1 := by
  rw [counts.timer, RefreshTimer.expired, beq_iff_eq]
  exact left_eq_zero_iff positive t

/-- **The counters go on to count over a clock edge.** The postponer moves only when the timer is
over, so the quotient of the cycle number grows with it. -/
theorem Counts.tick (counts : i.Counts period factor t) (positive : 0 < period)
    (several : 0 < factor) : i.tick.Counts period factor (t + 1) where
  timer := by
    rw [RefreshInterval.tick, counts.timer, RefreshTimer.tick, RefreshTimer.expired,
      left_succ positive]
    simp only [beq_iff_eq]
  postponer := by
    have expired := counts.expired_iff positive
    rw [RefreshInterval.tick, Postponer.tick, Nat.succ_div]
    by_cases whole : period ∣ t + 1
    · rw [if_pos (expired.2 whole), if_pos whole, counts.postponer, left_succ several]
    · rw [if_neg (mt expired.1 whole), if_neg whole, counts.postponer, Nat.add_zero]

/-- **When a round is asked for**: once in as many periods as are put off. Both counters have to be
at their ends, so that both lengths divide. -/
theorem Counts.requests_iff (counts : i.Counts period factor t) (positive : 0 < period)
    (several : 0 < factor) : i.requests = true ↔ period * factor ∣ t + 1 := by
  rw [requests, Postponer.requests, Bool.and_eq_true, counts.expired_iff positive,
    counts.postponer, beq_iff_eq, left_eq_zero_iff several]
  constructor
  · rintro ⟨whole, last⟩
    rwa [← Nat.succ_div_of_dvd whole, Nat.dvd_div_iff_mul_dvd whole] at last
  · intro both
    have whole : period ∣ t + 1 := Nat.dvd_trans (Nat.dvd_mul_right _ _) both
    refine ⟨whole, ?_⟩
    rwa [← Nat.succ_div_of_dvd whole, Nat.dvd_div_iff_mul_dvd whole]

/-! ### Over a run -/

/-- The counters of a run count its cycles. Induction on the number of cycles. -/
theorem counts_iterate (positive : 0 < period) (several : 0 < factor) (t : Nat) :
    (tick^[t] (new period factor)).Counts period factor t := by
  induction t with
  | zero => exact counts_new several
  | succ t ih =>
    rw [Function.iterate_succ_apply']
    exact ih.tick positive several

/-- Two counters divide the clock: the first of them by a period, both together by the product of
the period and a factor. -/
structure Divides (i : RefreshInterval) (period factor : Nat) : Prop where
  /-- The timer is over once in a period. -/
  expired_iff : ∀ t, (tick^[t] i).timer.expired = true ↔ period ∣ t + 1
  /-- A round is asked for once in the product. -/
  requests_iff : ∀ t, (tick^[t] i).requests = true ↔ period * factor ∣ t + 1
  /-- No request is lost and none comes twice. -/
  card_requests : ∀ t, ((Finset.range t).filter fun s => (tick^[s] i).requests = true).card =
    t / (period * factor)

/-- **The timer with the postponer behind it is an exact divider of the clock**, for every length of
the two, even if their product is no longer a word. -/
theorem new_divides (positive : 0 < period) (several : 0 < factor) :
    (new period factor).Divides period factor where
  expired_iff t := (counts_iterate positive several t).expired_iff positive
  requests_iff t := (counts_iterate positive several t).requests_iff positive several
  card_requests t := by
    simp only [(counts_iterate positive several _).requests_iff positive several]
    exact Nat.card_multiples t (period * factor)

/-- With the longest period and the largest factor, a request comes once in almost `2 ^ 64` cycles,
in the last of them. -/
theorem new_divides_of_longest :
    0 < Word.top ∧ (new Word.top Word.top).Divides Word.top Word.top ∧
      (tick^[Word.top * Word.top - 1] (new Word.top Word.top)).requests = true := by
  have positive : 0 < Word.top := by decide
  have divides := new_divides positive positive
  refine ⟨positive, divides, (divides.requests_iff _).2 ?_⟩
  rw [Nat.sub_add_cancel (Nat.mul_pos positive positive)]

-- every second expiry of a timer of three cycles
example : (List.range 12).map (fun t => (tick^[t] (new 3 2)).requests) =
    [false, false, false, false, false, true, false, false, false, false, false, true] := by decide

end RefreshInterval

end DramScheduler
