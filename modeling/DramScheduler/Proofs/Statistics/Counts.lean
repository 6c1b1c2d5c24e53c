import DramScheduler.Proofs.Refresh.Course
import DramScheduler.Statistics.Basic

/-!
# What the statistics count

Each counter of the statistics counts the commands of one kind, and those that are kept for whole
cycles count no commands at all. `Statistics.counters` lists every counter with its kind. Over a
list of commands a counter grows by as many as the list has of its kind. Counters do not see the
order of the commands, so neither does the whole record.

## Main results

* `Statistics.counter_recordAll` — a counter over a list of commands;
* `Statistics.recordAll_perm` — the order of the commands does not matter.
-/

namespace DramScheduler

/-- Commands that close the row of a single bank and do nothing else. -/
def Command.prechargesOne (command : Command) : Bool :=
  command.isPrecharge && command.bank?.isSome

namespace Statistics

open Command

variable {counter : Statistics → Nat} {kind : Command → Bool}

/-- The counters of commands, each with the kind that it counts. -/
def commandCounters : List ((Statistics → Nat) × (Command → Bool)) :=
  [(reads, isRead), (writes, isWrite), (activates, isActivate), (precharges, prechargesOne),
    (prechargeAlls, prechargesAll), (autoPrecharges, Command.autoPrecharge),
    (refreshes, isRefresh), (calibrations, isCalibrate)]

/-- The counters that are kept for whole cycles. -/
def cycleCounters : List (Statistics → Nat) :=
  [cycles, refreshCycles, directionSwitches, requestsAccepted, writesCompleted, readsCompleted]

/-- All counters; those of whole cycles count no commands. -/
def counters : List ((Statistics → Nat) × (Command → Bool)) :=
  commandCounters ++ cycleCounters.map fun counter => (counter, fun _ => false)

/-- A single command is counted by the counters of its kinds. A column command that closes its row
is counted twice: as a read or a write, and as an automatic precharge. -/
theorem counter_record (mem : (counter, kind) ∈ counters) (s : Statistics) (command : Command) :
    counter (s.record command) = counter s + (kind command).toNat := by
  simp only [counters, commandCounters, cycleCounters, List.map_cons, List.map_nil,
    List.mem_append, List.mem_cons, Prod.mk.injEq, List.not_mem_nil, or_false] at mem
  rcases mem with (⟨rfl, rfl⟩ | ⟨rfl, rfl⟩ | ⟨rfl, rfl⟩ | ⟨rfl, rfl⟩ | ⟨rfl, rfl⟩ | ⟨rfl, rfl⟩ |
    ⟨rfl, rfl⟩ | ⟨rfl, rfl⟩) | ⟨rfl, rfl⟩ | ⟨rfl, rfl⟩ | ⟨rfl, rfl⟩ | ⟨rfl, rfl⟩ | ⟨rfl, rfl⟩ |
    ⟨rfl, rfl⟩
  all_goals
    cases command with
    | precharge bank all => cases all <;> rfl
    | _ => rfl

/-- **A counter grows by the commands of its kind**, as many as the list has. -/
theorem counter_recordAll (mem : (counter, kind) ∈ counters) (s : Statistics)
    (commands : List Command) :
    counter (s.recordAll commands) = counter s + commands.countP kind := by
  induction commands generalizing s with
  | nil => rfl
  | cons command rest ih =>
    have later : counter (rest.foldl record (s.record command)) = _ := ih (s.record command)
    rw [recordAll, List.foldl_cons, later, counter_record mem, List.countP_cons]
    cases kind command
    · rfl
    · simp only [Bool.toNat_true, if_true]
      omega

/-- Commands leave the counts of whole cycles as they are. -/
theorem cycleCounter_recordAll (mem : counter ∈ cycleCounters) (s : Statistics)
    (commands : List Command) : counter (s.recordAll commands) = counter s := by
  have among : (counter, fun _ : Command => false) ∈ counters :=
    List.mem_append_right _ (List.mem_map_of_mem mem)
  rw [counter_recordAll among, List.countP_false]
  rfl

attribute [ext] Statistics

/-- **The order of the commands does not matter**, because every counter is one of commands or one
of cycles. -/
theorem recordAll_perm {first second : List Command} (perm : first.Perm second) (s : Statistics) :
    s.recordAll first = s.recordAll second := by
  have same : ∀ entry ∈ counters, entry.1 (s.recordAll first) = entry.1 (s.recordAll second) := by
    intro entry mem
    rw [counter_recordAll mem, counter_recordAll mem, perm.countP_eq]
  simp only [counters, commandCounters, cycleCounters, List.map_cons, List.map_nil,
    List.cons_append, List.nil_append, List.forall_mem_cons] at same
  ext <;> simp only [same]

end Statistics

end DramScheduler
