/-!
# Runs of a clocked machine

A machine on a clock is given by what its registers are after an edge, from those before it and
from what came in during the cycle. A run is a fold over what comes in. `cycles` lists the cycles of
a run with the registers that each of them starts from, so that what can be seen of a cycle, a
function of both, can be collected along the run.

## Main results

* `cycles_append`, `cycles_concat` — the cycles of a run in two parts;
* `getElem?_concat_eq_some_iff` — what is seen of a run that goes on for a cycle.
-/

namespace DramScheduler.Run

variable {σ ι : Type} {next : σ → ι → σ}

/-- The cycles of a run: the registers before the edge, and what came in. -/
def cycles (next : σ → ι → σ) (start : σ) : List ι → List (σ × ι)
  | [] => []
  | input :: rest => (start, input) :: cycles next (next start input) rest

/-- The cycles of a run are those of its first part and then those of the part after it. -/
theorem cycles_append (next : σ → ι → σ) (start : σ) (past later : List ι) :
    cycles next start (past ++ later) =
      cycles next start past ++ cycles next (past.foldl next start) later := by
  induction past generalizing start with
  | nil => rfl
  | cons input rest ih => exact congrArg ((start, input) :: ·) (ih (next start input))

/-- A further cycle starts from the registers that the run so far leads to. -/
theorem cycles_concat (next : σ → ι → σ) (start : σ) (past : List ι) (input : ι) :
    cycles next start (past ++ [input]) =
      cycles next start past ++ [(past.foldl next start, input)] :=
  cycles_append next start past [input]

/-- What is seen of a run that goes on: what was seen before, and the new cycle. -/
theorem getElem?_concat_eq_some_iff {α : Type} {xs : List α} {x y : α} {t : Nat} :
    (xs ++ [x])[t]? = some y ↔ xs[t]? = some y ∨ t = xs.length ∧ y = x := by
  constructor
  · intro found
    rcases Nat.lt_or_ge t xs.length with earlier | late
    · exact .inl (by rwa [List.getElem?_append_left earlier] at found)
    · have within := (List.getElem?_eq_some_iff.1 found).1
      rw [List.length_append, List.length_singleton] at within
      obtain rfl : t = xs.length := by omega
      rw [List.getElem?_concat_length] at found
      exact .inr ⟨rfl, (Option.some.inj found).symm⟩
  · rintro (before | ⟨rfl, rfl⟩)
    · rwa [List.getElem?_append_left (List.getElem?_eq_some_iff.1 before).1]
    · exact List.getElem?_concat_length

end DramScheduler.Run
