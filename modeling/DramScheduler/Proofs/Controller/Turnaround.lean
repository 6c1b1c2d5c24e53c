import DramScheduler.Proofs.Controller.BankTiming
import DramScheduler.Proofs.Controller.BusTiming
import DramScheduler.Proofs.Controller.Exclusion

/-!
# From writing to reading

Written data needs some time before anything is read. The bus has two ways from writing to
reading. On the direct one it waits until the countdown behind the distance is over. The other
one leads through a refresh round, and at its end the bus reads again without a look at the
countdown: the distance is as long as the round makes it. The banks are at rest by the time the
round begins, so that the recovery of the written data counts towards the distance, and the round
itself does, but a configuration may ask for more than both.

Across a round the distance is therefore put together from two: one from the write to the
precharge of all banks, which every round begins with, and one from there to the read.

## Main results

* `Trace.KeepsTurnaround` — the distances on both ways;
* `Controller.exists_new_keepsTurnaround` — every run keeps them;
* `Trace.KeepsTurnaround.apart` — what is left of the distance from writes to reads;
* `Controller.not_apart_writes_reads` — it is less than what is asked for.
-/

namespace DramScheduler

open Command

/-- Data is read some time after it was last written. Across a round the distance is the sum of its
last two parts, which may be less than what is asked for. -/
structure Trace.KeepsTurnaround (T : Trace) (c : Config) : Prop where
  /-- Where no round lies in between, the whole distance is kept. -/
  direct : ∀ s t, s < t → T.At isWrite s → T.At isRead t →
    (∀ u, s < u → u < t → ¬ T.At prechargesAll u) → s + c.writeToRead ≤ t
  /-- A round begins once written data has reached the array. -/
  writeToRound : T.Apart isWrite prechargesAll (c.writeToPrecharge + 2)
  /-- Nothing is read before the refreshes of a round are over. -/
  roundToRead : T.Apart prechargesAll isRead
    (c.timing.tRP + 1 + c.settings.postponing * c.timing.tRFC)

/-- **What is left of the distance from writes to reads**, whether or not a round lies in between:
the whole distance, or the two parts across a round. -/
theorem Trace.KeepsTurnaround.apart {T : Trace} {c : Config} (kept : T.KeepsTurnaround c) :
    T.Apart isWrite isRead (min c.writeToRead (c.writeToPrecharge + 2 +
      (c.timing.tRP + 1 + c.settings.postponing * c.timing.tRFC))) := by
  intro s t order written read
  by_cases round : ∃ u, s < u ∧ u < t ∧ T.At prechargesAll u
  · obtain ⟨u, after, before, all⟩ := round
    have begun := kept.writeToRound s u after written all
    have ended := kept.roundToRead u t before all read
    omega
  · have whole := kept.direct s t order written read fun u after before all =>
      round ⟨u, after, before, all⟩
    omega

namespace Controller

variable {c : Config} {k : Controller} {T : Trace} {offers : List (Option BankRequest)}

/-! ### Writes and rounds -/

/-- The registers that stand between the writes and the reads are right, on the direct way and on
the one through a round. -/
structure Turned (c : Config) (k : Controller) (T : Trace) : Prop where
  /-- Writes are to banks that there are. -/
  owned : ∀ s, T.At isWrite s →
    ∃ (i : Nat) (m : BankMachine), k.banks[i]? = some m ∧ T.At (toBank i isWrite) s
  /-- The bus is handed over once written data has reached the array. -/
  handed : k.bus.state = .refresh → ∀ s, T.At isWrite s → s + c.writeToPrecharge + 1 ≤ T.length
  /-- A round runs after the bus was handed over, and precharges all banks in its first cycle. -/
  running : ∀ elapsed calibrate, k.refresher.state = .sequence elapsed calibrate →
    ∀ s, T.At isWrite s → s + c.writeToPrecharge + 2 ≤ T.length ∧
      (1 < elapsed → ∃ u, s < u ∧ T.At prechargesAll u)
  /-- The bus is handed back once the refreshes of the round are over. -/
  outlasted : k.bus.state ≠ .refresh → ∀ u, T.At prechargesAll u →
    u + (c.timing.tRP + 1 + c.settings.postponing * c.timing.tRFC) ≤ T.length
  /-- The bus reads once written data has settled, or after a round. -/
  reading : k.bus.state = .read ∨ (∃ remaining, k.bus.state = .readToWrite remaining) →
    ∀ s, T.At isWrite s → s + c.writeToRead ≤ T.length ∨ ∃ u, s < u ∧ T.At prechargesAll u
  /-- The distances are kept so far. -/
  kept : T.KeepsTurnaround c

/-- Nothing has been written at first, and no round has begun. -/
theorem turned_build (c : Config) : Turned c (build c) [] where
  owned _ h := absurd h Trace.not_at_nil
  handed _ _ h := absurd h Trace.not_at_nil
  running _ _ _ _ h := absurd h Trace.not_at_nil
  outlasted _ _ h := absurd h Trace.not_at_nil
  reading _ _ h := absurd h Trace.not_at_nil
  kept :=
    { direct := fun _ _ _ h => absurd h Trace.not_at_nil
      writeToRound := Trace.apart_nil _ _ _
      roundToRead := Trace.apart_nil _ _ _ }

/-- Data is written only while the bus is writing. -/
theorem at_isWrite_of_concat (built : k.BuiltFrom c) (state : k.bus.state ≠ .write) {s : Nat}
    (written : Trace.At (T ++ [(k.step offers).2.commands]) isWrite s) : T.At isWrite s := by
  rcases Trace.at_concat_iff.1 written with before | ⟨-, now⟩
  · exact before
  · obtain ⟨command, writes, permits⟩ := exists_permits_step built now
    exact absurd (permits.write writes) state

/-- Nothing is written while a refresh is requested. -/
theorem at_isWrite_of_concat_of_request (built : k.BuiltFrom c)
    (request : k.refreshRequest = true) {s : Nat}
    (written : Trace.At (T ++ [(k.step offers).2.commands]) isWrite s) : T.At isWrite s := by
  rcases Trace.at_concat_iff.1 written with before | ⟨-, now⟩
  · exact before
  · obtain ⟨command, mem, writes⟩ := List.any_eq_true.1 now
    have still := (quiet_of_refreshRequest built request mem).2
    rw [isColumn, writes, Bool.or_true] at still
    cases still

/-- A cycle in which every bank is at rest comes after the recovery of written data, since a bank
rests only once its write countdown is over. -/
theorem recovered_of_goToRefresh (built : k.BuiltFrom c) (timed : Timed c k T)
    (turned : Turned c k T) (rest : k.evaluate.decision.goToRefresh = true) {s : Nat}
    (written : T.At isWrite s) : s + c.writeToPrecharge ≤ T.length := by
  obtain ⟨i, m, found, own⟩ := turned.owned s written
  have grants := grantsRefresh_of_goToRefresh rest found
  obtain ⟨-, -, written, -⟩ := BankMachine.grantsRefresh_iff.1 grants
  have machine := built.bank i m found
  rw [← machine.index] at own
  rw [← machine.writeToPrecharge]
  exact (timed.guarded i m found).writeToPrecharge.of_ready written own

/-- All banks are precharged in the first cycle of a round. -/
theorem any_prechargesAll_of_sequence (built : k.BuiltFrom c) (hand : k.Handover) {calibrate : Bool}
    (running : k.refresher.state = .sequence 1 calibrate) :
    (k.step offers).2.commands.any prechargesAll = true := by
  have shown : k.refresher.evaluate.command = some (.precharge 0 true) :=
    Refresher.evaluate_command_eq_some_iff.2 ⟨1, calibrate, running, rfl⟩
  rw [commands_step_of_refresh built (hand.holds 1 calibrate running), shown]
  rfl

/-- In the last cycle of a round its refreshes are over: the round is as long as its precharge and
all its refreshes take. -/
theorem refreshes_le_elapsed (a : c.Accepted) (built : k.BuiltFrom c) (hand : k.Handover)
    (last : k.refresher.evaluate.last = true) :
    ∃ elapsed calibrate, k.refresher.state = .sequence elapsed calibrate ∧
      c.timing.tRP + 1 + c.settings.postponing * c.timing.tRFC ≤ elapsed := by
  obtain ⟨elapsed, calibrate, running, reached⟩ := Refresher.length_le_of_last last
  have enabled := hand.refreshEnabled built (by simp [running])
  rw [built.timeline] at reached
  exact ⟨elapsed, calibrate, running,
    Nat.le_trans (Refresher.refreshes_le_length a enabled calibrate) reached⟩

/-! ### One cycle -/

/-- **A cycle keeps the distances.** A read is issued while the bus reads, and a round precharges in
its first cycle: the registers vouch for both. -/
theorem KeepsTurnaround.step (built : k.BuiltFrom c) (turned : Turned c k T)
    (offers : List (Option BankRequest)) :
    Trace.KeepsTurnaround (T ++ [(k.step offers).2.commands]) c where
  direct := by
    intro s t order written read clear
    obtain ⟨before, earlier | ⟨rfl, now⟩⟩ := Trace.at_concat_pair order written read
    · exact turned.kept.direct s t order before earlier fun u after within all =>
        clear u after within (all.concat _)
    · obtain ⟨command, reads, permits⟩ := exists_permits_step built now
      rcases turned.reading (.inl (permits.read reads)) s before with settled | ⟨u, after, all⟩
      · exact settled
      · exact absurd (all.concat _) (clear u after (Trace.lt_length_of_at all))
  writeToRound := by
    refine turned.kept.writeToRound.concat fun now s written => ?_
    obtain ⟨calibrate, running⟩ := sequence_of_any_prechargesAll built now
    exact (turned.running 1 calibrate running s written).1
  roundToRead := by
    refine turned.kept.roundToRead.concat fun now u all => ?_
    obtain ⟨command, reads, permits⟩ := exists_permits_step built now
    exact turned.outlasted (by simp [permits.read reads]) u all

/-- A write has an owner: the bank that it is to is one of the banks. -/
theorem exists_owner_of_any_isWrite (built : k.BuiltFrom c)
    (now : (k.step offers).2.commands.any isWrite = true) :
    ∃ (i : Nat) (m : BankMachine), k.banks[i]? = some m ∧
      (k.step offers).2.commands.any (toBank i isWrite) = true := by
  obtain ⟨command, mem, writes⟩ := List.any_eq_true.1 now
  have state : k.bus.state ≠ .refresh := by simp [(permits_step built mem).write writes]
  obtain ⟨i, m, found, addressed, -⟩ := bank?_of_mem_commands built state mem
  exact ⟨i, m, found, List.any_eq_true.2 ⟨command, mem, by rw [toBank, writes, addressed]; simp⟩⟩

/-- Writes go on to be to banks that there are. -/
theorem Turned.owned_step (built : k.BuiltFrom c) (turned : Turned c k T)
    (offers : List (Option BankRequest)) {s : Nat}
    (written : Trace.At (T ++ [(k.step offers).2.commands]) isWrite s) :
    ∃ (i : Nat) (m : BankMachine), (k.step offers).1.banks[i]? = some m ∧
      Trace.At (T ++ [(k.step offers).2.commands]) (toBank i isWrite) s := by
  have present : ∀ (i : Nat) (m : BankMachine), k.banks[i]? = some m →
      ∃ after, (k.step offers).1.banks[i]? = some after := by
    intro i m found
    exact ⟨_, by rw [getElem?_banks_step, found, Option.map_some]⟩
  rcases Trace.at_concat_iff.1 written with before | ⟨rfl, now⟩
  · obtain ⟨i, m, found, own⟩ := turned.owned s before
    obtain ⟨after, there⟩ := present i m found
    exact ⟨i, after, there, own.concat _⟩
  · obtain ⟨i, m, found, own⟩ := exists_owner_of_any_isWrite built now
    obtain ⟨after, there⟩ := present i m found
    exact ⟨i, after, there, Trace.at_concat_iff.2 (.inr ⟨rfl, own⟩)⟩

/-- **Written data has reached the array when the bus has been handed over**: it had when the banks
came to rest, and nothing is written from then on. -/
theorem Turned.handed_step (built : k.BuiltFrom c) (hand : k.Handover) (timed : Timed c k T)
    (turned : Turned c k T) (offers : List (Option BankRequest))
    (after : (k.step offers).1.bus.state = .refresh) {s : Nat}
    (written : Trace.At (T ++ [(k.step offers).2.commands]) isWrite s) :
    s + c.writeToPrecharge + 1 ≤ T.length + 1 := by
  have request := (hand.of_bus_step after).1
  have before := at_isWrite_of_concat_of_request built request written
  rw [bus_step] at after
  rcases CommandBus.nextState_eq_refresh_iff.1 after with ⟨-, rest⟩ | ⟨state, -⟩
  · exact Nat.succ_le_succ (recovered_of_goToRefresh built timed turned rest before)
  · exact Nat.le_succ_of_le (turned.handed state s before)

/-- **A round under way covers the writes before it**: they were over before it began, and it
precharges all banks in its first cycle. -/
theorem Turned.running_step (built : k.BuiltFrom c) (hand : k.Handover) (turned : Turned c k T)
    (offers : List (Option BankRequest)) {elapsed : Nat} {calibrate : Bool}
    (after : (k.step offers).1.refresher.state = .sequence elapsed calibrate) {s : Nat}
    (written : Trace.At (T ++ [(k.step offers).2.commands]) isWrite s) :
    s + c.writeToPrecharge + 2 ≤ T.length + 1 ∧ (1 < elapsed →
      ∃ u, s < u ∧ Trace.At (T ++ [(k.step offers).2.commands]) prechargesAll u) := by
  rw [refresher_step] at after
  rcases Refresher.sequence_cases hand.idle_of_disabled after with
    ⟨-, granted, rfl⟩ | ⟨now, state, -, rfl⟩
  · have holds : k.bus.state = .refresh := eq_of_beq granted
    have before := at_isWrite_of_concat built (by simp [holds]) written
    exact ⟨Nat.succ_le_succ (turned.handed holds s before), fun h => absurd h (Nat.lt_irrefl _)⟩
  · have holds := hand.holds now calibrate state
    have before := at_isWrite_of_concat built (by simp [holds]) written
    obtain ⟨covered, precharged⟩ := turned.running now calibrate state s before
    refine ⟨Nat.le_succ_of_le covered, fun later => ?_⟩
    rcases Nat.lt_or_ge 1 now with past | first
    · obtain ⟨u, after, all⟩ := precharged past
      exact ⟨u, after, all.concat _⟩
    · -- the precharge is issued in this very cycle
      obtain rfl : now = 1 := Nat.le_antisymm first (Nat.lt_succ_iff.1 later)
      exact ⟨T.length, Trace.lt_length_of_at before,
        Trace.at_concat_iff.2 (.inr ⟨rfl, any_prechargesAll_of_sequence built hand state⟩)⟩

/-- The bus is not handed back before the refreshes of a round are over, and outside rounds no
other one begins. -/
theorem Turned.outlasted_step (a : c.Accepted) (built : k.BuiltFrom c) (hand : k.Handover)
    (timed : Timed c k T) (turned : Turned c k T) (offers : List (Option BankRequest))
    (after : (k.step offers).1.bus.state ≠ .refresh) {u : Nat}
    (all : Trace.At (T ++ [(k.step offers).2.commands]) prechargesAll u) :
    u + (c.timing.tRP + 1 + c.settings.postponing * c.timing.tRFC) ≤ T.length + 1 := by
  have begins : (k.step offers).2.commands.any prechargesAll = true →
      ∃ calibrate, k.refresher.state = .sequence 1 calibrate :=
    sequence_of_any_prechargesAll built
  by_cases state : k.bus.state = .refresh
  · obtain ⟨elapsed, calibrate, running, ended⟩ :=
      refreshes_le_elapsed a built hand (last_of_released state after)
    have covered := timed.paced.elapsed_le begins running all
    omega
  · rcases Trace.at_concat_iff.1 all with before | ⟨-, now⟩
    · exact Nat.le_succ_of_le (turned.outlasted state u before)
    · obtain ⟨calibrate, running⟩ := begins now
      exact absurd running (hand.not_sequence state 1 calibrate)

/-- **The bus comes to read on one of two ways**: directly, once the countdown behind the distance
is over, or through a round, which has precharged all banks. -/
theorem Turned.reading_step (a : c.Accepted) (built : k.BuiltFrom c) (hand : k.Handover)
    (bus : BusTimed c k T) (turned : Turned c k T) (offers : List (Option BankRequest))
    (after : (k.step offers).1.bus.state = .read ∨
      ∃ remaining, (k.step offers).1.bus.state = .readToWrite remaining) {s : Nat}
    (written : Trace.At (T ++ [(k.step offers).2.commands]) isWrite s) :
    s + c.writeToRead ≤ T.length + 1 ∨
      ∃ u, s < u ∧ Trace.At (T ++ [(k.step offers).2.commands]) prechargesAll u := by
  rw [bus_step] at after
  rcases CommandBus.state_of_reading after with reading | ⟨state, ready⟩ | ⟨state, last⟩
  · have before : T.At isWrite s := by
      refine at_isWrite_of_concat built ?_ written
      rcases reading with state | ⟨remaining, state⟩ <;> simp [state]
    rcases turned.reading reading s before with settled | ⟨u, past, all⟩
    · exact .inl (Nat.le_succ_of_le settled)
    · exact .inr ⟨u, past, all.concat _⟩
  · have before := at_isWrite_of_concat built (by simp [state]) written
    have settled := bus.guarded.writeToRead.of_ready ready before
    rw [bus.timings.writeToRead] at settled
    exact .inl (Nat.le_succ_of_le settled)
  · have before := at_isWrite_of_concat built (by simp [state]) written
    obtain ⟨elapsed, calibrate, running, ended⟩ := refreshes_le_elapsed a built hand last
    have refreshes : 0 < c.settings.postponing * c.timing.tRFC :=
      Nat.mul_pos a.postponing.1 a.tRFC_pos
    obtain ⟨u, past, all⟩ := (turned.running elapsed calibrate running s before).2 (by omega)
    exact .inr ⟨u, past, all.concat _⟩

/-- **A cycle keeps the registers right** that stand between writes and reads. Each of them has its
own lemma above. -/
theorem Turned.step (a : c.Accepted) (reached : Reachable c k) (timed : Timed c k T)
    (bus : BusTimed c k T) (turned : Turned c k T) (offers : List (Option BankRequest)) :
    Turned c (k.step offers).1 (T ++ [(k.step offers).2.commands]) := by
  have built := reached.builtFrom a
  have hand := reached.handover
  have length : (T ++ [(k.step offers).2.commands]).length = T.length + 1 := by simp
  constructor
  case owned => exact fun _ => turned.owned_step built offers
  case handed =>
    rw [length]
    exact fun after _ => turned.handed_step built hand timed offers after
  case running =>
    rw [length]
    exact fun _ _ after _ => turned.running_step built hand offers after
  case outlasted =>
    rw [length]
    exact fun after _ => turned.outlasted_step a built hand timed offers after
  case reading =>
    rw [length]
    exact fun after _ => turned.reading_step a built hand bus offers after
  case kept => exact KeepsTurnaround.step built turned offers

/-! ### Runs -/

/-- **The distances from writes to reads are kept.** A controller for an accepted configuration
keeps them over every run, whatever is offered to it and however often it refreshes. -/
theorem exists_new_keepsTurnaround (accepted : c.validate = .ok ()) :
    ∃ start, Controller.new c = .ok start ∧
      ∀ past, Trace.KeepsTurnaround (start.trace past) c := by
  have a := Config.validate_eq_ok_iff.1 accepted
  refine ⟨build c, new_of_accepted accepted, fun past => (trace_induction
    (P := fun k T => Timed c k T ∧ BusTimed c k T ∧ Turned c k T)
    ⟨timed_build c, busTimed_build c, turned_build c⟩ ?_ past).2.2.kept⟩
  rintro k T offers reached ⟨timed, bus, turned⟩
  exact ⟨timed.step a reached offers, bus.step (reached.builtFrom a) offers,
    turned.step a reached timed bus offers⟩

/-- Rounds of two refreshes, and written data that settle for two hundred cycles. -/
def longSettling : Config where
  timing := { tWTR := 200 }
  settings := { postponing := 2 }

/-- Written data may need longer than rounds of two refreshes take. -/
theorem new_keepsTurnaround_of_long_settling :
    longSettling.validate = .ok () ∧
      ∃ start, Controller.new longSettling = .ok start ∧
        ∀ past, Trace.KeepsTurnaround (start.trace past) longSettling :=
  ⟨by decide, exists_new_keepsTurnaround (by decide)⟩

/-- A memory of a single bank that takes long to settle after a write, and is refreshed often. -/
def slowSettling : Config where
  phy := { phases := 1, writePhase := 0, readRowPhase := 0, casWriteLatency := 1 }
  geometry := { bankBits := 0 }
  timing := { tRP := 1, tRCD := 1, tWR := 0, tWTR := 20, tREFI := 10, tRFC := 1, tRTW := some 0 }

/-- A write, and a read that is offered shortly before a round. -/
def writeThenRead : List (List (Option BankRequest)) :=
  [some ⟨true, 0⟩] :: List.replicate 7 [] ++ [some ⟨false, 0⟩] :: List.replicate 11 []

/-- **A round can cut the distance short.** Twenty-two cycles are asked for from a write to a read,
but the write of cycle 5 is followed by the read of cycle 19, because a round lies in between. -/
theorem not_apart_writes_reads :
    ¬ ∀ (c : Config) (start : Controller), c.validate = .ok () → Controller.new c = .ok start →
      ∀ past, Trace.Apart (start.trace past) isWrite isRead c.writeToRead := by
  intro claimed
  have accepted : slowSettling.validate = .ok () := by decide
  have distance : slowSettling.writeToRead = 22 := by decide
  have written : Trace.At ((build slowSettling).trace writeThenRead) isWrite 5 := by
    decide +kernel
  have read : Trace.At ((build slowSettling).trace writeThenRead) isRead 19 := by
    decide +kernel
  have kept := claimed slowSettling (build slowSettling) accepted (new_of_accepted accepted)
    writeThenRead 5 19 (by decide) written read
  rw [distance] at kept
  exact absurd kept (by decide)

end Controller

end DramScheduler
