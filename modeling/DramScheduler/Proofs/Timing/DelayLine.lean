import DramScheduler.Timing.DelayLine
import Mathlib.Data.List.Basic

/-!
# A delay line carries its last inputs

A line holds the inputs of as many cycles as its latency, the oldest in front; before the first
input it holds as many zeros. `DelayLine.Carries` says so of a line and of all its inputs so far,
oldest first. What leaves a line is therefore the input of the cycle a latency earlier, and a line
is busy as long as the pulse of such a cycle has not left it.

## Main results

* `DelayLine.Carries.shift` — a line goes on to carry its inputs over a clock edge;
* `DelayLine.Carries.output_iff` — when a pulse leaves a line;
* `DelayLine.Carries.busy_iff` — when there are pulses under way.
-/

namespace DramScheduler.DelayLine

variable {d : DelayLine} {inputs : List Bool}

/-- The bits under way are the last inputs, with zeros before the first of them. -/
def Carries (d : DelayLine) (inputs : List Bool) : Prop :=
  d.stages.toList = (List.replicate d.latency false ++ inputs).drop inputs.length

/-- A line has as many stages as its latency. -/
@[simp] theorem latency_new (latency : Nat) : (new latency).latency = latency := by
  rw [DelayLine.latency, new, ← Fifo.length_toList, Fifo.toList_ofList, List.length_replicate]

/-- A new line holds zeros only. -/
theorem carries_new (latency : Nat) : (new latency).Carries [] := by
  rw [Carries, latency_new, List.append_nil, List.length_nil, List.drop_zero, new,
    Fifo.toList_ofList]

/-- **A line goes on to carry its inputs over a clock edge**: the oldest bit drops out, and the new
one comes in behind. -/
theorem Carries.shift (carries : d.Carries inputs) (input : Bool) :
    (d.shift input).Carries (inputs ++ [input]) := by
  have reaches : inputs.length ≤ (List.replicate d.latency false ++ inputs).length := by
    rw [List.length_append]
    exact Nat.le_add_left _ _
  rw [Carries, latency_shift, toList_stages_shift, carries,
    ← List.drop_append_of_le_length reaches, List.tail_drop, List.append_assoc, List.length_append,
    List.length_singleton]

/-- The inputs so far, with the zeros before them, by number. -/
theorem getElem?_inputs {n i : Nat} :
    (List.replicate n false ++ inputs)[i]? = some true ↔
      ∃ s, s + n = i ∧ inputs[s]? = some true := by
  rcases Nat.lt_or_ge i n with early | late
  · rw [List.getElem?_append_left (by rwa [List.length_replicate]), List.getElem?_replicate,
      if_pos early]
    constructor
    · intro pulse
      cases pulse
    · rintro ⟨s, rfl, -⟩
      omega
  · rw [List.getElem?_append_right (by rwa [List.length_replicate]), List.length_replicate]
    constructor
    · intro pulse
      exact ⟨i - n, Nat.sub_add_cancel late, pulse⟩
    · rintro ⟨s, rfl, pulse⟩
      rwa [Nat.add_sub_cancel]

/-- **When a pulse leaves a line**: a latency after it came in. A line without stages would hand it
on at once. -/
theorem Carries.output_iff (carries : d.Carries inputs) (some_stage : 0 < d.latency)
    (input : Bool) :
    d.output input = true ↔ ∃ s, s + d.latency = inputs.length ∧ inputs[s]? = some true := by
  have front : d.stages.head? = (List.replicate d.latency false ++ inputs)[inputs.length]? := by
    rw [Fifo.head?_eq, carries, List.head?_drop]
  obtain ⟨bit, found⟩ :
      ∃ bit, (List.replicate d.latency false ++ inputs)[inputs.length]? = some bit :=
    ⟨_, List.getElem?_eq_getElem (by rw [List.length_append, List.length_replicate]; omega)⟩
  rw [output, front, ← getElem?_inputs, found, Option.getD_some, Option.some.injEq]

/-- **When there are pulses under way**: those that came in less than a latency ago, the one that is
about to leave included. -/
theorem Carries.busy_iff (carries : d.Carries inputs) :
    d.busy = true ↔ ∃ s, inputs[s]? = some true ∧ inputs.length ≤ s + d.latency := by
  have under : d.busy = true ↔
      ∃ j, (List.replicate d.latency false ++ inputs)[inputs.length + j]? = some true := by
    rw [busy, Fifo.any_eq, carries, List.any_eq_true]
    constructor
    · rintro ⟨bit, mem, pulse⟩
      obtain rfl : bit = true := pulse
      obtain ⟨j, found⟩ := List.mem_iff_getElem?.1 mem
      exact ⟨j, by rwa [List.getElem?_drop] at found⟩
    · rintro ⟨j, found⟩
      exact ⟨true, List.mem_iff_getElem?.2 ⟨j, by rwa [List.getElem?_drop]⟩, rfl⟩
  rw [under]
  constructor
  · rintro ⟨j, found⟩
    obtain ⟨s, place, pulse⟩ := getElem?_inputs.1 found
    exact ⟨s, pulse, by omega⟩
  · rintro ⟨s, pulse, later⟩
    exact ⟨s + d.latency - inputs.length, getElem?_inputs.2 ⟨s, by omega, pulse⟩⟩

end DramScheduler.DelayLine
