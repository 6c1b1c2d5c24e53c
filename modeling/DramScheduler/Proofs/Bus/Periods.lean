import DramScheduler.Proofs.Bus.Budgets
import DramScheduler.Proofs.Memory.Trace

/-!
# Samples are whole periods

The column counter of the bus keeps three sets of counts, which change at different times: those of
the running period at every clock edge, those of the last whole period at the last edge of a period,
and those that can be read when they are published. Cycles and publications may come in any order
(`BusEvent`), also in the middle of a period or at its edge.

All three are known from the commands of the cycles so far, which a publication does not add to
(`CommandBus.trace`). The periods are aligned: the first one starts with the first cycle, and each
of the others where the one before it ends. A cycle moves data once at most, so the counter misses
none of the commands, although it is only told whether there was one.

## Main results

* `Bandwidth.Counts.tick` — the counter goes on to count periods over a clock edge;
* `CommandBus.Samples.respond` — so does the bus over every event;
* `CommandBus.new_samplesPeriods` — what is published in the course of every run, and what is read.
-/

namespace DramScheduler

open Command

/-- The commands that move data in a direction. -/
def Direction.moves : Direction → Command → Bool
  | .read => isRead
  | .write => isWrite

variable {T : Trace} {commands : List Command} {s t p : Nat}

/-- Being told whether there was a command is enough to count them, since a cycle moves data once at
most. -/
theorem Command.countP_moves (single : (commands.filter isColumn).length ≤ 1) (d : Direction) :
    commands.countP d.moves = (commands.any d.moves).toNat := by
  have column : ∀ command, d.moves command = true → isColumn command = true := by
    intro command moves
    rw [isColumn, Bool.or_eq_true]
    cases d with
    | read => exact .inl moves
    | write => exact .inr moves
  rw [List.countP_eq_length_filter]
  refine Command.length_filter_of_le_one (Nat.le_trans ?_ single)
  exact (List.monotone_filter_right commands column).length_le

/-! ### Commands of a stretch of cycles -/

namespace Trace

/-- How many commands of a kind are issued in the cycles from one on and before another. -/
def issued (T : Trace) (kind : Command → Bool) (s t : Nat) : Nat :=
  ((T.take t).drop s).flatten.countP kind

/-- Nothing is issued in no cycles. -/
theorem issued_self (T : Trace) (kind : Command → Bool) (s : Nat) : T.issued kind s s = 0 := by
  rw [issued, List.drop_take_self]
  rfl

/-- What was issued does not change later. -/
theorem issued_concat (kind : Command → Bool) (past : t ≤ T.length) :
    issued (T ++ [commands]) kind s t = T.issued kind s t := by
  rw [issued, issued, List.take_append_of_le_length past]

/-- A stretch that ends with the new cycle has its commands as well. -/
theorem issued_concat_length (kind : Command → Bool) (past : s ≤ T.length) :
    issued (T ++ [commands]) kind s (T.length + 1) =
      T.issued kind s T.length + commands.countP kind := by
  have whole : (T ++ [commands]).length ≤ T.length + 1 := by simp
  rw [issued, issued, List.take_of_length_le whole, List.take_length,
    List.drop_append_of_le_length past, List.flatten_append, List.countP_append,
    List.flatten_singleton]

/-- Reads and writes are the commands that move data. -/
theorem issued_add_issued (T : Trace) (s t : Nat) :
    T.issued isRead s t + T.issued isWrite s t = T.issued isColumn s t := by
  rw [issued, issued, issued]
  induction ((T.take t).drop s).flatten with
  | nil => rfl
  | cons command rest ih =>
    rw [List.countP_cons, List.countP_cons, List.countP_cons, ← ih]
    cases command <;> simp [isColumn, isRead, isWrite] <;> omega

/-- Where a cycle has one command of a kind at most, a stretch has no more of them than cycles. -/
theorem issued_le {kind : Command → Bool}
    (single : ∀ commands ∈ T, (commands.filter kind).length ≤ 1) (s t : Nat) :
    T.issued kind s t ≤ t - s := by
  have each : ∀ commands ∈ (T.take t).drop s, (commands.filter kind).length ≤ 1 :=
    fun commands mem => single commands (List.mem_of_mem_take (List.mem_of_mem_drop mem))
  calc T.issued kind s t
      = (((T.take t).drop s).map fun commands => commands.any kind).count true := by
        rw [issued, List.countP_eq_length_filter, length_filter_flatten each]
    _ ≤ ((T.take t).drop s).length := by
        rw [← List.length_map (fun commands : List Command => commands.any kind)]
        exact List.count_le_length
    _ ≤ t - s := by
        rw [List.length_drop, List.length_take]
        exact Nat.sub_le_sub_right (Nat.min_le_left _ _) s

end Trace

/-! ### The counter -/

/-- One more cycle is in the running period, or is the last one of it. Quotient and remainder by the
period follow it. -/
theorem succ_div_mod (pos : 0 < p) (n : Nat) :
    if n % p + 1 = p then (n + 1) / p = n / p + 1 ∧ (n + 1) % p = 0
    else (n + 1) / p = n / p ∧ (n + 1) % p = n % p + 1 := by
  have parts := Nat.div_add_mod' n p
  have within := Nat.mod_lt n pos
  split
  · next last =>
    rw [Nat.div_mod_unique pos, Nat.mul_add, Nat.mul_comm]
    omega
  · next inside =>
    rw [Nat.div_mod_unique pos, Nat.mul_comm]
    omega

namespace Bandwidth

variable {b : Bandwidth}

/-- The counts of the running period, by direction. -/
def running (b : Bandwidth) : Direction → Nat
  | .read => b.reads
  | .write => b.writes

/-- The counts of the last whole period, by direction. -/
def latched (b : Bandwidth) : Direction → Nat
  | .read => b.latchedReads
  | .write => b.latchedWrites

/-- A counter that was told of the cycles of a trace: it is at the same place of the period, and its
counts are those of the trace. Before the first period is over the last whole one is taken to be
empty. -/
structure Counts (b : Bandwidth) (T : Trace) : Prop where
  /-- A period has a cycle at least. -/
  period_pos : 0 < b.period
  /-- The counter knows how much of the period has passed. -/
  cycle : b.cycle = T.length % b.period
  /-- It has counted the commands of the period that is running. -/
  running : ∀ d, b.running d = T.issued d.moves (T.length / b.period * b.period) T.length
  /-- It keeps those of the period before. -/
  latched : ∀ d, b.latched d =
    T.issued d.moves ((T.length / b.period - 1) * b.period) (T.length / b.period * b.period)

/-- The length of a period that fits its counter is the power of two asked for. -/
theorem period_new {periodBits : Nat} (fits : periodBits ≤ 63) (dataWidth : Nat) :
    (new periodBits dataWidth).period = 2 ^ periodBits := by
  rw [new, Nat.one_shiftLeft, Nat.min_eq_left fits]

/-- A new counter was told of no cycles. -/
theorem counts_new {periodBits : Nat} (fits : periodBits ≤ 63) (dataWidth : Nat) :
    (new periodBits dataWidth).Counts [] where
  period_pos := by
    rw [period_new fits]
    exact Nat.two_pow_pos _
  cycle := (Nat.zero_mod _).symm
  running d := by cases d <;> simp [new, Bandwidth.running, Trace.issued]
  latched d := by cases d <;> simp [new, Bandwidth.latched, Trace.issued]

/-- A clock edge keeps the length of a period. -/
@[simp] theorem period_tick (b : Bandwidth) (read write : Bool) :
    (b.tick read write).period = b.period := by
  rw [tick]
  split <;> rfl

/-- A clock edge keeps the width of the data. -/
@[simp] theorem dataWidth_tick (b : Bandwidth) (read write : Bool) :
    (b.tick read write).dataWidth = b.dataWidth := by
  rw [tick]
  split <;> rfl

/-- A clock edge leaves what can be read as it is. -/
@[simp] theorem sample_tick (b : Bandwidth) (read write : Bool) :
    (b.tick read write).sample = b.sample := by
  rw [tick]
  split <;> rfl

/-- The registers after the last edge of a period: a new period begins, and the counts are latched,
those of the last cycle included. -/
theorem tick_of_last (last : b.cycle + 1 = b.period) (moved : Direction → Bool) :
    (b.tick (moved .read) (moved .write)).cycle = 0 ∧
      ∀ d, (b.tick (moved .read) (moved .write)).running d = 0 ∧
        (b.tick (moved .read) (moved .write)).latched d = b.running d + (moved d).toNat := by
  rw [tick, if_pos last]
  refine ⟨rfl, fun d => ?_⟩
  cases d <;> exact ⟨rfl, rfl⟩

/-- The registers after the other edges: the period goes on, and so do its counts. -/
theorem tick_of_inside (inside : b.cycle + 1 ≠ b.period) (moved : Direction → Bool) :
    (b.tick (moved .read) (moved .write)).cycle = b.cycle + 1 ∧
      ∀ d, (b.tick (moved .read) (moved .write)).running d = b.running d + (moved d).toNat ∧
        (b.tick (moved .read) (moved .write)).latched d = b.latched d := by
  rw [tick, if_neg inside]
  refine ⟨rfl, fun d => ?_⟩
  cases d <;> exact ⟨rfl, rfl⟩

/-- **The counter goes on to count periods over a clock edge**, told of a cycle that moves data once
at most. -/
theorem Counts.tick (counts : b.Counts T) (single : (commands.filter isColumn).length ≤ 1) :
    (b.tick (commands.any isRead) (commands.any isWrite)).Counts (T ++ [commands]) := by
  obtain ⟨pos, cycle, running, latched⟩ := counts
  have step := succ_div_mod pos T.length
  have started : T.length / b.period * b.period ≤ T.length := Nat.div_mul_le_self _ _
  have counted (d : Direction) : Trace.issued (T ++ [commands]) d.moves
      (T.length / b.period * b.period) (T.length + 1) =
        T.issued d.moves (T.length / b.period * b.period) T.length +
          (commands.any d.moves).toNat := by
    rw [Trace.issued_concat_length _ started, countP_moves single]
  have grown : (T ++ [commands]).length = T.length + 1 := List.length_append
  by_cases last : b.cycle + 1 = b.period
  · obtain ⟨cycle', each⟩ := tick_of_last last fun d => commands.any d.moves
    rw [← cycle, if_pos last] at step
    -- the next period starts with the next cycle
    have edge : (T.length / b.period + 1) * b.period = T.length + 1 := by
      rw [← step.1]
      exact Nat.div_mul_cancel (Nat.dvd_of_mod_eq_zero step.2)
    exact {
      period_pos := by rwa [period_tick]
      cycle := by
        rw [period_tick, grown, step.2]
        exact cycle'
      running := fun d => by
        rw [period_tick, grown, step.1, edge, Trace.issued_self]
        exact (each d).1
      latched := fun d => by
        rw [period_tick, grown, step.1, edge, Nat.add_sub_cancel, counted, ← running]
        exact (each d).2 }
  · obtain ⟨cycle', each⟩ := tick_of_inside last fun d => commands.any d.moves
    rw [← cycle, if_neg last] at step
    exact {
      period_pos := by rwa [period_tick]
      cycle := by
        rw [period_tick, grown, step.2]
        exact cycle'
      running := fun d => by
        rw [period_tick, grown, step.1, counted, ← running]
        exact (each d).1
      latched := fun d => by
        rw [period_tick, grown, step.1, Trace.issued_concat _ started, ← latched]
        exact (each d).2 }

end Bandwidth

/-! ### Cycles and publications -/

/-- What happens to the bus: a cycle passes, or the column counts are published. -/
inductive BusEvent where
  /-- A cycle passes. -/
  | cycle (input : BusInput)
  /-- The column counts are published. -/
  | publish
  deriving DecidableEq, Repr, Inhabited

/-- The counts of the last whole period of a trace, in the periods that the configuration asks for.
They are zero until one period is over. -/
def Config.lastPeriod (c : Config) (T : Trace) : BandwidthSample :=
  let period := 2 ^ c.settings.bandwidthPeriodBits
  let whole := T.length / period
  { reads := T.issued isRead ((whole - 1) * period) (whole * period)
    writes := T.issued isWrite ((whole - 1) * period) (whole * period)
    period := period
    dataWidth := c.nativeWidth }

/-- Nothing is counted before the first period is over. -/
theorem Config.lastPeriod_of_lt {c : Config}
    (early : T.length < 2 ^ c.settings.bandwidthPeriodBits) :
    c.lastPeriod T = ⟨0, 0, 2 ^ c.settings.bandwidthPeriodBits, c.nativeWidth⟩ := by
  rw [lastPeriod, Nat.div_eq_of_lt early]
  simp [Trace.issued_self]

/-- A period has no more column commands than cycles. -/
theorem Config.reads_add_writes_le (c : Config)
    (single : ∀ commands ∈ T, (commands.filter isColumn).length ≤ 1) :
    (c.lastPeriod T).reads + (c.lastPeriod T).writes ≤ 2 ^ c.settings.bandwidthPeriodBits := by
  rw [lastPeriod]
  dsimp only
  rw [Trace.issued_add_issued]
  refine Nat.le_trans (Trace.issued_le single _ _) ?_
  rw [← Nat.sub_mul]
  refine Nat.le_trans (Nat.mul_le_mul_right _ ?_) (Nat.le_of_eq (Nat.one_mul _))
  omega

namespace CommandBus

variable {c : Config} {b : CommandBus} {events : List BusEvent}

/-- The bus after an event. -/
def respond (b : CommandBus) : BusEvent → CommandBus
  | .cycle input => b.next input
  | .publish => b.publish

/-- The bus after a course of events. -/
def after (b : CommandBus) (events : List BusEvent) : CommandBus :=
  events.foldl respond b

/-- The commands of an event, if it is a cycle. -/
def commands? (b : CommandBus) : BusEvent → Option (List Command)
  | .cycle input => some (b.decides input).commands
  | .publish => none

/-- The commands of a course of events, cycle by cycle. -/
def trace (start : CommandBus) (events : List BusEvent) : Trace :=
  (Run.cycles respond start events).filterMap fun now => now.1.commands? now.2

/-- One more event comes after the others. -/
theorem after_concat (start : CommandBus) (events : List BusEvent) (event : BusEvent) :
    start.after (events ++ [event]) = (start.after events).respond event :=
  List.foldl_append

/-- A cycle adds its commands to the trace, and a publication adds nothing. -/
theorem trace_concat (start : CommandBus) (events : List BusEvent) (event : BusEvent) :
    start.trace (events ++ [event]) =
      start.trace events ++ ((start.after events).commands? event).toList := by
  rw [trace, Run.cycles_concat, List.filterMap_append]
  cases event <;> rfl

/-- The column counter of a bus counts what the bus issues. -/
structure Samples (c : Config) (b : CommandBus) (T : Trace) : Prop where
  /-- The bus is laid out as the configuration says. -/
  layout : b.LaidOut c
  /-- Its counter is right, and has the period and the width of the configuration. -/
  counts : ∃ counter, b.bandwidth = some counter ∧ counter.Counts T ∧
    counter.period = 2 ^ c.settings.bandwidthPeriodBits ∧ counter.dataWidth = c.nativeWidth
  /-- Data is moved once at most in a cycle. -/
  single : ∀ commands ∈ T, (commands.filter isColumn).length ≤ 1

/-- The counter of a new bus counts from the first cycle on. -/
theorem samples_new (a : c.Accepted) (enabled : c.settings.bandwidthEnabled = true) :
    (CommandBus.new c).Samples c [] where
  layout := laidOut_new a
  counts := by
    have fits := a.bandwidthPeriodBits.2
    exact ⟨_, if_pos enabled, Bandwidth.counts_new fits _, Bandwidth.period_new fits _, rfl⟩
  single _ mem := nomatch mem

/-- A new counter shows that nothing was counted. -/
theorem sample?_new (a : c.Accepted) (enabled : c.settings.bandwidthEnabled = true) :
    (CommandBus.new c).sample? =
      some ⟨0, 0, 2 ^ c.settings.bandwidthPeriodBits, c.nativeWidth⟩ := by
  have kept : (CommandBus.new c).bandwidth = some _ := if_pos enabled
  rw [sample?, kept, ← Bandwidth.period_new a.bandwidthPeriodBits.2 c.nativeWidth]
  rfl

/-- A publication leaves the layout as it is. -/
theorem LaidOut.publish (layout : b.LaidOut c) : b.publish.LaidOut c where
  placed := ⟨layout.placed.column_lt, layout.placed.row_lt, layout.placed.apart⟩
  count := layout.count
  columnPhase := layout.columnPhase
  rowPhase := layout.rowPhase
  rowChooser := layout.rowChooser

/-- **The counter of the bus goes on to count what the bus issues**, over every event. -/
theorem Samples.respond (samples : b.Samples c T) (event : BusEvent) :
    (b.respond event).Samples c (T ++ (b.commands? event).toList) := by
  obtain ⟨layout, ⟨counter, kept, counts, period, width⟩, single⟩ := samples
  cases event with
  | cycle input =>
    have one : ((b.decides input).commands.filter isColumn).length ≤ 1 :=
      length_filter_commands_le_one layout.placed (length_columns_le_one layout.placed)
    refine ⟨layout.commit _ _, ⟨_, congrArg (Option.map _) kept, counts.tick one, ?_, ?_⟩, ?_⟩
    · rw [Bandwidth.period_tick, period]
    · rw [Bandwidth.dataWidth_tick, width]
    · exact List.forall_mem_append.2 ⟨single, List.forall_mem_singleton.2 one⟩
  | publish =>
    rw [commands?, Option.toList_none, List.append_nil]
    exact ⟨layout.publish, ⟨_, congrArg (Option.map _) kept,
      ⟨counts.period_pos, counts.cycle, counts.running, counts.latched⟩, period, width⟩, single⟩

/-- The counter counts what the bus issues, after every course of events. -/
theorem samples_after (a : c.Accepted) (enabled : c.settings.bandwidthEnabled = true)
    (events : List BusEvent) :
    ((CommandBus.new c).after events).Samples c ((CommandBus.new c).trace events) := by
  induction events using List.reverseRecOn with
  | nil => exact samples_new a enabled
  | append_singleton events event ih =>
    rw [after_concat, trace_concat]
    exact ih.respond event

/-- What a publication makes readable: the counts of the last whole period. -/
theorem Samples.sample?_publish (samples : b.Samples c T) :
    b.publish.sample? = some (c.lastPeriod T) := by
  obtain ⟨-, ⟨counter, kept, counts, period, width⟩, -⟩ := samples
  have reads := counts.latched .read
  have writes := counts.latched .write
  rw [period] at reads writes
  rw [sample?, publish, kept]
  refine congrArg some ?_
  rw [Bandwidth.publish, Config.lastPeriod, period, width]
  exact congrArg₂ (fun reads writes => BandwidthSample.mk reads writes _ _) reads writes

/-- A cycle leaves what can be read as it is. -/
theorem sample?_next (b : CommandBus) (input : BusInput) : (b.next input).sample? = b.sample? := by
  rw [next, commit, sample?, sample?]
  dsimp only
  rw [Option.map_map]
  refine congrArg (b.bandwidth.map ·) (funext fun counter => ?_)
  exact Bandwidth.sample_tick _ _ _

/-- Without a publication what can be read stays as it is. -/
theorem sample?_after (b : CommandBus) (quiet : .publish ∉ events) :
    (b.after events).sample? = b.sample? := by
  induction events using List.reverseRecOn with
  | nil => rfl
  | append_singleton events event ih =>
    rw [List.mem_append, not_or] at quiet
    rw [after_concat]
    cases event with
    | cycle input => exact (sample?_next _ input).trans (ih quiet.1)
    | publish => exact absurd (List.mem_singleton_self _) quiet.2

/-- What a bus publishes of its column commands, and what can be read, in every course of events.
Cycles and readings may come in any order. -/
structure SamplesPeriods (c : Config) (start : CommandBus) : Prop where
  /-- The counts of the last whole period are published. -/
  publishes : ∀ events,
    (start.after events).publish.sample? = some (c.lastPeriod (start.trace events))
  /-- They are zero until the first period is over. -/
  early : ∀ events, (start.trace events).length < 2 ^ c.settings.bandwidthPeriodBits →
    c.lastPeriod (start.trace events) =
      ⟨0, 0, 2 ^ c.settings.bandwidthPeriodBits, c.nativeWidth⟩
  /-- There is one command at most for each cycle of a period. -/
  bounded : ∀ events,
    (c.lastPeriod (start.trace events)).reads + (c.lastPeriod (start.trace events)).writes ≤
      2 ^ c.settings.bandwidthPeriodBits
  /-- What was published last can be read. -/
  latest : ∀ before later, .publish ∉ later →
    (start.after (before ++ .publish :: later)).sample? = (start.after before).publish.sample?
  /-- Zero counts can be read before anything is published. -/
  first : ∀ events, .publish ∉ events →
    (start.after events).sample? = some ⟨0, 0, 2 ^ c.settings.bandwidthPeriodBits, c.nativeWidth⟩

/-- **Samples are complete aligned periods**, whenever they are published and however many cycles
there are in between. -/
theorem new_samplesPeriods (accepted : c.validate = .ok ())
    (enabled : c.settings.bandwidthEnabled = true) : SamplesPeriods c (CommandBus.new c) := by
  have a := Config.validate_eq_ok_iff.1 accepted
  have samples := samples_after a enabled
  exact {
    publishes := fun events => (samples events).sample?_publish
    early := fun _ => Config.lastPeriod_of_lt
    bounded := fun events => c.reads_add_writes_le (samples events).single
    latest := fun before later quiet => by
      rw [after, List.foldl_append]
      exact sample?_after _ quiet
    first := fun events quiet => by rw [sample?_after _ quiet, sample?_new a enabled] }

/-- The default configuration with column counts, over periods of two cycles. -/
def pairCounts : Config where
  settings := { bandwidthEnabled := true, bandwidthPeriodBits := 1 }

/-- A cycle in which the first of eight banks wants to read. -/
def readOffered : BusEvent :=
  .cycle { banks := { command := some (.read 0 3 false) } :: List.replicate 7 {}, refresh := {} }

/-- The first publication comes in the middle of a period and the second one too. -/
theorem new_samplesPeriods_of_pairs :
    pairCounts.validate = .ok () ∧ pairCounts.settings.bandwidthEnabled = true ∧
      SamplesPeriods pairCounts (CommandBus.new pairCounts) ∧
      ((CommandBus.new pairCounts).after [readOffered, .publish]).sample? = some ⟨0, 0, 2, 64⟩ ∧
      ((CommandBus.new pairCounts).after [readOffered, .publish, readOffered, .cycle default,
        .publish, readOffered]).sample? = some ⟨2, 0, 2, 64⟩ :=
  ⟨by decide, rfl, new_samplesPeriods (by decide) rfl, by decide, by decide⟩

end CommandBus

end DramScheduler
