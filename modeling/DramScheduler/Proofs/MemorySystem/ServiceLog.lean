import DramScheduler.Proofs.Crossbar.Ledger
import Mathlib.Data.List.ReduceOption

/-!
# A log of the accesses served

A `ServiceLog` has one entry for each cycle of a run: the access that the cycle serves, if it serves
one. The strobe of an access comes some cycles after it was served, with a delay that depends on the
direction in which its data moves. The log tells which strobe is due in a cycle, which ones have
come before, and which ones are still under way.

## Main results

* `ServiceLog.echoed_append_underWay` — the accesses of a direction are those whose strobes have
  come and those whose strobes are under way;
* `ServiceLog.echoed_concat` — a cycle adds the one whose strobe is due;
* `ServiceLog.exists_due_iff`, `ServiceLog.mem_underWay_iff` — which accesses these are.
-/

namespace DramScheduler

/-- Whether the data of an access moves in the given direction. -/
def Access.moves (isWrite : Bool) (a : Access) : Bool :=
  a.request.isWrite == isWrite

/-- Every access has one of the two directions. -/
theorem Access.length_filter_moves (accesses : List Access) :
    (accesses.filter (moves true)).length + (accesses.filter (moves false)).length =
      accesses.length := by
  have other : moves false = fun a => !moves true a := by
    funext a
    rw [moves, moves]
    cases a.request.isWrite <;> rfl
  rw [other, ← List.length_eq_length_filter_add]

/-- For each cycle, the access that it serves. -/
abbrev ServiceLog : Type :=
  List (Option Access)

namespace ServiceLog

variable {log : ServiceLog} {now : Option Access} {delay : Nat} {isWrite : Bool} {a : Access}

/-- The accesses of a direction whose strobes have come. -/
def echoed (log : ServiceLog) (delay : Nat) (isWrite : Bool) : List Access :=
  (log.take (log.length - delay)).reduceOption.filter (Access.moves isWrite)

/-- The accesses of a direction whose strobes are still to come. -/
def underWay (log : ServiceLog) (delay : Nat) (isWrite : Bool) : List Access :=
  (log.drop (log.length - delay)).reduceOption.filter (Access.moves isWrite)

/-- The access of a direction whose strobe comes in the cycle after the logged ones. -/
def due (log : ServiceLog) (delay : Nat) (isWrite : Bool) : Option Access :=
  (if delay ≤ log.length then log.getD (log.length - delay) none else none).filter
    (Access.moves isWrite)

/-- For each cycle, whether it serves an access of the given master and direction. -/
def pulses (log : ServiceLog) (master : Nat) (isWrite : Bool) : List Bool :=
  log.map fun entry => entry.any fun a => a.isBy master && a.moves isWrite

/-- The accesses of a direction are those whose strobes have come, followed by those whose strobes
are still to come. -/
theorem echoed_append_underWay (log : ServiceLog) (delay : Nat) (isWrite : Bool) :
    log.echoed delay isWrite ++ log.underWay delay isWrite =
      log.reduceOption.filter (Access.moves isWrite) := by
  rw [echoed, underWay, ← List.filter_append, ← List.reduceOption_append, List.take_append_drop]

/-- A cycle adds the access whose strobe is due, at the end, so that strobes come in the order in
which accesses are served. -/
theorem echoed_concat (log : ServiceLog) (now : Option Access) (later : 0 < delay)
    (isWrite : Bool) :
    echoed (log ++ [now]) delay isWrite =
      log.echoed delay isWrite ++ (log.due delay isWrite).toList := by
  rw [echoed, echoed, due, List.length_append, List.length_singleton,
    List.take_append_of_le_length (by omega)]
  by_cases reaches : delay ≤ log.length
  · obtain ⟨entry, found⟩ : ∃ entry, log[log.length - delay]? = some entry :=
      ⟨_, List.getElem?_eq_getElem (by omega)⟩
    rw [show log.length + 1 - delay = log.length - delay + 1 by omega, List.take_add_one,
      if_pos reaches, List.reduceOption_append, List.filter_append, List.getD_eq_getElem?_getD,
      found, Option.toList_some, List.reduceOption_singleton, Option.getD_some,
      Option.toList_filter]
  · rw [if_neg reaches, Nat.sub_eq_zero_of_le (by omega), Nat.sub_eq_zero_of_le (by omega)]
    rfl

/-- The strobe of an access is due a delay after the access was served. -/
theorem due_eq_some_iff (later : 0 < delay) :
    log.due delay isWrite = some a ↔
      ∃ s, s + delay = log.length ∧ log[s]? = some (some a) ∧ a.request.isWrite = isWrite := by
  rw [due, Option.filter_eq_some_iff, Access.moves, beq_iff_eq, Option.ite_none_right_eq_some,
    List.getD_eq_getElem?_getD]
  constructor
  · rintro ⟨⟨reaches, found⟩, moves⟩
    refine ⟨log.length - delay, Nat.sub_add_cancel reaches, ?_, moves⟩
    rw [List.getElem?_eq_getElem (by omega), Option.getD_some] at found
    rw [List.getElem?_eq_getElem (by omega), found]
  · rintro ⟨s, place, found, moves⟩
    refine ⟨⟨by omega, ?_⟩, moves⟩
    rw [← place, Nat.add_sub_cancel, found]
    rfl

/-- Whose strobe is due. -/
theorem exists_due_iff (later : 0 < delay) {master : Nat} :
    (∃ a, log.due delay isWrite = some a ∧ a.master = master) ↔
      ∃ s a, s + delay = log.length ∧ log[s]? = some (some a) ∧ a.master = master ∧
        a.request.isWrite = isWrite := by
  constructor
  · rintro ⟨a, isDue, owner⟩
    obtain ⟨s, place, found, moves⟩ := (due_eq_some_iff later).1 isDue
    exact ⟨s, a, place, found, owner, moves⟩
  · rintro ⟨s, a, place, found, owner, moves⟩
    exact ⟨a, (due_eq_some_iff later).2 ⟨s, place, found, moves⟩, owner⟩

/-- The strobes that are due are not those of the last access, as the delay is positive. -/
theorem getElem?_concat_of_due (log : ServiceLog) (now : Option Access) (later : 0 < delay)
    {s : Nat} (place : s + delay ≤ log.length) : (log ++ [now])[s]? = log[s]? :=
  List.getElem?_append_left (by omega)

/-- Strobes are under way for a delay after their accesses were served. -/
theorem mem_underWay_iff :
    a ∈ log.underWay delay isWrite ↔
      a.request.isWrite = isWrite ∧
        ∃ s : Nat, log.length ≤ s + delay ∧ log[s]? = some (some a) := by
  rw [underWay, List.mem_filter, List.reduceOption_mem_iff, Access.moves, beq_iff_eq, and_comm]
  refine and_congr_right fun _ => ?_
  rw [List.mem_iff_getElem?]
  constructor
  · rintro ⟨j, found⟩
    rw [List.getElem?_drop] at found
    exact ⟨_, by omega, found⟩
  · rintro ⟨s, late, found⟩
    refine ⟨s - (log.length - delay), ?_⟩
    rw [List.getElem?_drop, Nat.add_sub_cancel' (by omega), found]

/-! ### The signal of a master -/

/-- There is an entry for every cycle. -/
theorem length_pulses (log : ServiceLog) (master : Nat) (isWrite : Bool) :
    (log.pulses master isWrite).length = log.length :=
  List.length_map _

/-- A further cycle adds what it serves of the master and the direction. -/
theorem pulses_concat (log : ServiceLog) (now : Option Access) (master : Nat) (isWrite : Bool) :
    pulses (log ++ [now]) master isWrite =
      log.pulses master isWrite ++ [now.any fun a => a.isBy master && a.moves isWrite] :=
  List.map_append

/-- There is a pulse in the cycles that serve an access of the master and the direction. -/
theorem getElem?_pulses_eq_some_true_iff {master s : Nat} :
    (log.pulses master isWrite)[s]? = some true ↔
      ∃ a, log[s]? = some (some a) ∧ a.master = master ∧ a.request.isWrite = isWrite := by
  rw [pulses, List.getElem?_map, Option.map_eq_some_iff]
  constructor
  · rintro ⟨entry, found, shown⟩
    obtain ⟨a, rfl, both⟩ := (Option.any_eq_true _ _).1 shown
    rw [Bool.and_eq_true, Access.isBy_iff, Access.moves, beq_iff_eq] at both
    exact ⟨a, found, both⟩
  · rintro ⟨a, found, rfl, rfl⟩
    exact ⟨some a, found, by simp [Access.isBy, Access.moves]⟩

end ServiceLog

end DramScheduler
