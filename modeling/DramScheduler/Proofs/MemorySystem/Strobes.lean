import DramScheduler.Proofs.Controller.BankTiming
import DramScheduler.Proofs.Crossbar.Strobes
import DramScheduler.Proofs.MemorySystem.Masters
import DramScheduler.Proofs.MemorySystem.ServiceLog
import DramScheduler.Proofs.Run
import Mathlib.Data.List.Nodup

/-!
# Masters get the strobes of their accesses

A bank gives a strobe in the cycle of its column command and does not say whose access this is.
The crossbar leads the strobe to the master that holds the bank by then, long after the access was
taken, and a delay line of the master carries it on. The right master gets it because a bank with
an access in its queue does not change hands, and no strobe is lost on the way because a cycle
moves data once at most.

The proof keeps a `ServiceLog` of the run. What goes into the delay lines is what the log says of
their masters, and what comes out of them is the same, later.

## Main results

* `MemorySystem.contains_strobed_step` — the strobes of a cycle are those of the access it serves;
* `MemorySystem.Logged.step` — a cycle can be logged;
* `MemorySystem.exists_new_routesStrobes` — every access gets its strobe, and the system is idle
  when all have.
-/

namespace DramScheduler

/-- From the command that serves an access to the strobe that its master gets. -/
def Config.strobeDelay (c : Config) (isWrite : Bool) : Nat :=
  (if isWrite then c.phy.writeLatency else c.phy.readLatency) + 1

/-- The masters that get a strobe of the given direction in a cycle. -/
def MemoryCycle.strobed (isWrite : Bool) (cycle : MemoryCycle) : List Nat :=
  (List.range cycle.ports.length).filter fun master =>
    cycle.ports[master]?.any (PortStatus.strobe isWrite)

/-- The masters that get strobes of the given direction in the course of a run, in order. -/
def MemorySystem.strobes (s : MemorySystem) (isWrite : Bool)
    (past : List (List (Option Request))) : List Nat :=
  (s.history past).flatMap fun cycle => cycle.2.strobed isWrite

/-- A bank strobes in a cycle if the access that the cycle serves is for the bank. -/
theorem any_toBank_of_fulfils {c : Config} {now : Option Access} {rows : OpenRows}
    {commands : List Command}
    (fulfilled : List.Forall₂ (Burst.Fulfils c) now.toList (rows.bursts commands))
    (bank : Nat) (isWrite : Bool) :
    (BankResponse.strobe isWrite ⟨commands.any (Command.toBank bank Command.isWrite),
        commands.any (Command.toBank bank Command.isRead)⟩) =
      now.any fun a => a.isFor c.bankField bank && a.moves isWrite := by
  have columns : ∀ kind : Command → Bool, (∀ command, kind command = true → command.isColumn) →
      commands.any (Command.toBank bank kind) =
        ((rows.bursts commands).map Burst.command).any (Command.toBank bank kind) := by
    intro kind column
    rw [OpenRows.map_command_bursts, List.any_filter]
    refine congrArg commands.any (funext fun command => ?_)
    cases ofKind : kind command with
    | false => simp [Command.toBank, ofKind]
    | true => rw [column command ofKind, Bool.true_and]
  rw [columns Command.isWrite fun command writes => by rw [Command.isColumn, writes, Bool.or_true],
    columns Command.isRead fun command reads => by rw [Command.isColumn, reads, Bool.true_or]]
  cases now with
  | none =>
    rw [List.forall₂_nil_left_iff.1 fulfilled]
    cases isWrite <;> rfl
  | some a =>
    obtain ⟨burst, others, ⟨⟨closes, command⟩, -⟩, nothing, bursts⟩ :=
      List.forall₂_cons_left_iff.1 fulfilled
    rw [bursts, List.forall₂_nil_left_iff.1 nothing, List.map_singleton, List.any_cons,
      List.any_cons, List.any_nil, List.any_nil, command]
    have place : (c.addressMap.decode a.request.address).bank =
        c.bankField.bank a.request.address := rfl
    rw [place]
    cases isWrite <;> cases kind : a.request.isWrite <;>
      simp [BankResponse.strobe, Command.toBank, Command.isWrite, Command.isRead, Command.bank?,
        Access.isFor, Access.moves, kind]

namespace MemorySystem

open Access

variable {c : Config} {s : MemorySystem} {l : Ledger} {log : ServiceLog} {now : Option Access}
  {seen : List (List (Option Request) × MemoryCycle)} {commands : List (Option Request)}

/-! ### One cycle -/

/-- **The strobes of a cycle are those of the access that it serves**, and they are led to its
master, who still holds the bank. -/
theorem contains_strobed_step (inside : s.controller.BuiltFrom c)
    (serves : s.Serves c commands now) (master : Nat) (isWrite : Bool) :
    (s.crossbar.strobed (s.controller.step (s.route commands).offers).2.responses
        (BankResponse.strobe isWrite)).contains master =
      now.any fun a => a.isBy master && a.moves isWrite := by
  have answers : ∀ (bank : Nat) (m : BankMachine), s.controller.banks[bank]? = some m →
      (s.controller.step (s.route commands).offers).2.responses[bank]?.any
          (BankResponse.strobe isWrite) =
        now.any fun a => a.isFor c.bankField bank && a.moves isWrite := by
    intro bank m found
    rw [Controller.strobes_step inside found, Option.any_some]
    exact any_toBank_of_fulfils serves.fulfilled bank isWrite
  rw [Bool.eq_iff_iff, List.contains_iff_mem, Crossbar.mem_strobed_iff, Option.any_eq_true]
  constructor
  · rintro ⟨bank, holds, given⟩
    obtain ⟨m, found⟩ : ∃ m, s.controller.banks[bank]? = some m := by
      rw [Controller.responses_step] at given
      cases found : s.controller.banks[bank]? with
      | none =>
        rw [found] at given
        cases given
      | some m => exact ⟨m, rfl⟩
    rw [answers bank m found, Option.any_eq_true] at given
    obtain ⟨a, rfl, both⟩ := given
    rw [Bool.and_eq_true, isFor_iff] at both
    have owner := serves.held a rfl
    rw [both.1, holds, Option.some.injEq] at owner
    exact ⟨a, rfl, by rw [Bool.and_eq_true, isBy_iff]; exact ⟨owner.symm, both.2⟩⟩
  · rintro ⟨a, rfl, both⟩
    rw [Bool.and_eq_true, isBy_iff] at both
    obtain ⟨rest, front⟩ := serves.front a rfl
    obtain ⟨m, found⟩ := Controller.exists_of_queued (by rw [front]; exact List.cons_ne_nil _ _)
    refine ⟨c.bankField.bank a.request.address, ?_, ?_⟩
    · rw [← both.1]
      exact serves.held a rfl
    · rw [answers _ m found, Option.any_some, isFor_iff.2 rfl, both.2]
      rfl

/-! ### The log -/

/-- A log of a system after a run. It says of every strobe that has come and of every one on its way
which access it is for. -/
structure Logged (c : Config) (s : MemorySystem)
    (seen : List (List (Option Request) × MemoryCycle)) (log : ServiceLog) : Prop where
  /-- There is an entry for every cycle. -/
  length : log.length = seen.length
  /-- Every port has its handshakes in every cycle. -/
  ports : ∀ cycle ∈ seen, cycle.2.ports.length = c.ports.length
  /-- The access of a cycle is served by the burst of the cycle. -/
  fulfilled : ∀ (t : Nat) (cycle : List (Option Request) × MemoryCycle), seen[t]? = some cycle →
    List.Forall₂ (Burst.Fulfils c) (log.getD t none).toList
      ((OpenRows.allClosed.replay ((seen.take t).flatMap fun cycle =>
        cycle.2.controller.commands)).bursts cycle.2.controller.commands)
  /-- Banks serve in order, and only what was taken before. -/
  inOrder : ∀ t bank, (log.take t).reduceOption.filter (isFor c.bankField bank) <+:
    ((seen.take t).flatMap fun cycle => cycle.2.accesses cycle.1).filter (isFor c.bankField bank)
  /-- A strobe reaches a port a delay after an access of its master was served. -/
  strobes : ∀ (t : Nat) (cycle : List (Option Request) × MemoryCycle), seen[t]? = some cycle →
    ∀ isWrite master, cycle.2.ports[master]?.any (PortStatus.strobe isWrite) = true ↔
      ∃ s a, s + c.strobeDelay isWrite = t ∧ log[s]? = some (some a) ∧ a.master = master ∧
        a.request.isWrite = isWrite
  /-- The strobes so far are those of the accesses whose strobes have come. -/
  counted : ∀ isWrite, (seen.flatMap fun cycle => cycle.2.strobed isWrite) =
    (log.echoed (c.strobeDelay isWrite) isWrite).map Access.master
  /-- The delay lines carry what the log says of their masters. -/
  lines : ∀ (master : Nat) (delay : StrobeDelay) (isWrite : Bool),
    s.crossbar.delays[master]? = some delay →
      (delay.line isWrite).latency = c.strobeDelay isWrite ∧
        (delay.line isWrite).Carries (log.pulses master isWrite)

/-- A strobe never comes in the cycle of its command. -/
theorem strobeDelay_pos (c : Config) (isWrite : Bool) : 0 < c.strobeDelay isWrite :=
  Nat.succ_pos _

/-- There is a way for the strobe of a logged access. -/
theorem Logged.exists_delay (logged : Logged c s seen log) (built : s.BuiltFrom c)
    (orderly : Orderly c s seen l) (served : l.served = log.reduceOption) {t : Nat} {a : Access}
    (entry : log[t]? = some (some a)) : ∃ delay, s.crossbar.delays[a.master]? = some delay := by
  have mem : a ∈ l.served := by
    rw [served, List.reduceOption_mem_iff]
    exact List.mem_of_getElem? entry
  have inRange : a.master < s.crossbar.delays.length := by
    rw [built.delays, built.masters]
    exact orderly.master_lt logged.ports mem
  exact ⟨_, List.getElem?_eq_getElem inRange⟩

/-- **A strobe reaches a port** a delay after an access of its master was served, and at no other
time. -/
theorem Logged.strobe_step_iff (logged : Logged c s seen log) (built : s.BuiltFrom c)
    (orderly : Orderly c s seen l) (served : l.served = log.reduceOption)
    (commands : List (Option Request)) (isWrite : Bool) (master : Nat) :
    (s.step commands).2.ports[master]?.any (PortStatus.strobe isWrite) = true ↔
      ∃ t a, t + c.strobeDelay isWrite = log.length ∧ log[t]? = some (some a) ∧
        a.master = master ∧ a.request.isWrite = isWrite := by
  have ports : (s.step commands).2.ports = (s.crossbar.commit (s.route commands)
      (s.controller.step (s.route commands).offers).2.responses).2 := rfl
  rw [ports, route, Crossbar.any_strobe_commit built.delays, Option.any_eq_true]
  constructor
  · rintro ⟨delay, found, shown⟩
    obtain ⟨latency, carries⟩ := logged.lines master delay isWrite found
    rw [carries.output_iff (by rw [latency]; exact strobeDelay_pos c isWrite), latency,
      ServiceLog.length_pulses] at shown
    obtain ⟨t, place, pulse⟩ := shown
    obtain ⟨a, entry, both⟩ := ServiceLog.getElem?_pulses_eq_some_true_iff.1 pulse
    exact ⟨t, a, place, entry, both⟩
  · rintro ⟨t, a, place, entry, rfl, kind⟩
    obtain ⟨delay, found⟩ := logged.exists_delay built orderly served entry
    obtain ⟨latency, carries⟩ := logged.lines a.master delay isWrite found
    refine ⟨delay, found, ?_⟩
    rw [carries.output_iff (by rw [latency]; exact strobeDelay_pos c isWrite), latency,
      ServiceLog.length_pulses]
    exact ⟨t, place, ServiceLog.getElem?_pulses_eq_some_true_iff.2 ⟨a, entry, rfl, kind⟩⟩

/-- The strobes of a cycle, if they are those of one access. -/
theorem strobed_eq {cycle : MemoryCycle} {isWrite : Bool} {due : Option Access}
    (shown : ∀ master, cycle.ports[master]?.any (PortStatus.strobe isWrite) = true ↔
      ∃ a, due = some a ∧ a.master = master) :
    cycle.strobed isWrite = due.toList.map Access.master := by
  rw [MemoryCycle.strobed]
  cases due with
  | none =>
    rw [List.filter_eq_nil_iff.2]
    · rfl
    · intro master _ strobe
      obtain ⟨a, none_due, -⟩ := (shown master).1 strobe
      cases none_due
  | some a =>
    have only : (fun master => cycle.ports[master]?.any (PortStatus.strobe isWrite)) =
        fun master => master == a.master := by
      funext master
      rw [Bool.eq_iff_iff, shown, beq_iff_eq]
      constructor
      · rintro ⟨_, same, rfl⟩
        rw [Option.some.inj same]
      · rintro rfl
        exact ⟨a, rfl, rfl⟩
    have inRange : a.master < cycle.ports.length := by
      obtain ⟨status, found, -⟩ :=
        (Option.any_eq_true _ _).1 ((shown a.master).2 ⟨a, rfl, rfl⟩)
      exact (List.getElem?_eq_some_iff.1 found).1
    rw [only, List.filter_beq, List.count_eq_one_of_mem List.nodup_range (List.mem_range.2 inRange)]
    rfl

/-- The access logged for a cycle is the one that its burst serves. -/
theorem Logged.fulfilled_concat (logged : Logged c s seen log) (orderly : Orderly c s seen l)
    (serves : s.Serves c commands now) {t : Nat} {cycle : List (Option Request) × MemoryCycle}
    (found : (seen ++ [(commands, (s.step commands).2)])[t]? = some cycle) :
    List.Forall₂ (Burst.Fulfils c) ((log ++ [now]).getD t none).toList
      ((OpenRows.allClosed.replay (((seen ++ [(commands, (s.step commands).2)]).take t).flatMap
        fun cycle => cycle.2.controller.commands)).bursts cycle.2.controller.commands) := by
  rcases Run.getElem?_concat_eq_some_iff.1 found with before | ⟨rfl, rfl⟩
  · have past := (List.getElem?_eq_some_iff.1 before).1
    rw [List.take_append_of_le_length (Nat.le_of_lt past),
      List.getD_append _ _ _ _ (by rwa [logged.length])]
    exact logged.fulfilled t cycle before
  · rw [List.take_left, ← logged.length, List.getD_append_right _ _ _ _ (Nat.le_refl _),
      Nat.sub_self, orderly.rows]
    exact serves.fulfilled

/-- What a bank has served by some cycle was taken by then: for the cycles before, the log says so,
and for the whole run the ledger does. -/
theorem Logged.inOrder_concat (logged : Logged c s seen log) (served : l.served = log.reduceOption)
    {s' : MemorySystem} {cycle : List (Option Request) × MemoryCycle} {l' : Ledger}
    (after : Orderly c s' (seen ++ [cycle]) l') (served' : l'.served = l.served ++ now.toList)
    (t bank : Nat) :
    ((log ++ [now]).take t).reduceOption.filter (isFor c.bankField bank) <+:
      (((seen ++ [cycle]).take t).flatMap fun cycle => cycle.2.accesses cycle.1).filter
        (isFor c.bankField bank) := by
  rcases Nat.lt_or_ge log.length t with beyond | within
  · have whole : (log ++ [now]).length ≤ t := by
      rw [List.length_append, List.length_singleton]
      omega
    have every : (seen ++ [cycle]).length ≤ t := by
      rw [List.length_append, List.length_singleton, ← logged.length]
      omega
    rw [List.take_of_length_le whole, List.take_of_length_le every, List.reduceOption_append,
      List.reduceOption_singleton, ← served, ← served', ← after.taken, after.balanced.byBank bank]
    exact List.prefix_append _ _
  · rw [List.take_append_of_le_length within,
      List.take_append_of_le_length (by rwa [← logged.length])]
    exact logged.inOrder t bank

/-- A strobe of any cycle, the new one included, is that of an access logged a delay before. The
delay is positive, so no strobe is due for the access that the new cycle serves. -/
theorem Logged.strobes_concat (logged : Logged c s seen log) (built : s.BuiltFrom c)
    (orderly : Orderly c s seen l) (served : l.served = log.reduceOption) {t : Nat}
    {cycle : List (Option Request) × MemoryCycle}
    (found : (seen ++ [(commands, (s.step commands).2)])[t]? = some cycle) (isWrite : Bool)
    (master : Nat) :
    cycle.2.ports[master]?.any (PortStatus.strobe isWrite) = true ↔
      ∃ u a, u + c.strobeDelay isWrite = t ∧ (log ++ [now])[u]? = some (some a) ∧
        a.master = master ∧ a.request.isWrite = isWrite := by
  have lift : ∀ {u : Nat}, u + c.strobeDelay isWrite ≤ log.length →
      (log ++ [now])[u]? = log[u]? := fun place =>
    ServiceLog.getElem?_concat_of_due log now (strobeDelay_pos c isWrite) place
  rcases Run.getElem?_concat_eq_some_iff.1 found with before | ⟨rfl, rfl⟩
  · have past := (List.getElem?_eq_some_iff.1 before).1
    rw [logged.strobes t cycle before]
    refine exists_congr fun u => exists_congr fun a => and_congr_right fun place => ?_
    rw [lift (by rw [place, logged.length]; exact Nat.le_of_lt past)]
  · rw [logged.strobe_step_iff built orderly served commands, ← logged.length]
    refine exists_congr fun u => exists_congr fun a => and_congr_right fun place => ?_
    rw [lift (Nat.le_of_eq place)]

/-- The strobes of a new cycle are added to those counted, in the order of the accesses. -/
theorem Logged.counted_concat (logged : Logged c s seen log) (built : s.BuiltFrom c)
    (orderly : Orderly c s seen l) (served : l.served = log.reduceOption) (isWrite : Bool) :
    ((seen ++ [(commands, (s.step commands).2)]).flatMap fun cycle => cycle.2.strobed isWrite) =
      ((log ++ [now] : ServiceLog).echoed (c.strobeDelay isWrite) isWrite).map Access.master := by
  have strobe := logged.strobe_step_iff built orderly served commands isWrite
  rw [List.flatMap_append, logged.counted,
    ServiceLog.echoed_concat log now (strobeDelay_pos c isWrite) isWrite, List.map_append,
    List.flatMap_singleton, strobed_eq fun master =>
      (strobe master).trans (ServiceLog.exists_due_iff (strobeDelay_pos c isWrite)).symm]

/-- The delay lines go on to carry what the log says of their masters. -/
theorem Logged.lines_step (logged : Logged c s seen log) (inside : s.controller.BuiltFrom c)
    (serves : s.Serves c commands now) {master : Nat} {delay : StrobeDelay} (isWrite : Bool)
    (found : (s.step commands).1.crossbar.delays[master]? = some delay) :
    (delay.line isWrite).latency = c.strobeDelay isWrite ∧
      (delay.line isWrite).Carries ((log ++ [now] : ServiceLog).pulses master isWrite) := by
  rw [crossbar_step] at found
  obtain ⟨before, earlier, shifted⟩ := Crossbar.line_commit isWrite found
  obtain ⟨latency, carries⟩ := logged.lines master before isWrite earlier
  rw [shifted, DelayLine.latency_shift, ServiceLog.pulses_concat,
    contains_strobed_step inside serves]
  exact ⟨latency, carries.shift _⟩

/-- **A cycle can be logged**, with the access that it serves. Each field of the log has its own
lemma above. -/
theorem Logged.step (inside : s.controller.BuiltFrom c) (built : s.BuiltFrom c)
    (orderly : Orderly c s seen l) (served : l.served = log.reduceOption)
    (logged : Logged c s seen log) {l' : Ledger}
    (after : Orderly c (s.step commands).1 (seen ++ [(commands, (s.step commands).2)]) l')
    (served' : l'.served = l.served ++ now.toList) (serves : s.Serves c commands now) :
    Logged c (s.step commands).1 (seen ++ [(commands, (s.step commands).2)]) (log ++ [now]) where
  length := by
    rw [List.length_append, List.length_append, logged.length]
    rfl
  ports := by
    intro cycle mem
    rcases List.mem_append.1 mem with before | new
    · exact logged.ports cycle before
    · rw [List.mem_singleton.1 new, ← built.masters]
      exact Crossbar.length_status_commit built.delays _
  fulfilled _ _ found := logged.fulfilled_concat orderly serves found
  inOrder := logged.inOrder_concat served after served'
  strobes _ _ found := logged.strobes_concat built orderly served found
  counted := logged.counted_concat built orderly served
  lines _ _ isWrite found := logged.lines_step inside serves isWrite found

/-! ### Strobes to come -/

/-- A strobe is under way in the crossbar if it is to come for a logged access. -/
theorem Logged.busy_iff (logged : Logged c s seen log) (built : s.BuiltFrom c)
    (orderly : Orderly c s seen l) (served : l.served = log.reduceOption) :
    s.crossbar.busy = true ↔
      ∃ isWrite a, a ∈ log.underWay (c.strobeDelay isWrite) isWrite := by
  rw [Crossbar.busy_iff]
  constructor
  · rintro ⟨master, delay, isWrite, found, under⟩
    obtain ⟨latency, carries⟩ := logged.lines master delay isWrite found
    rw [carries.busy_iff, latency, ServiceLog.length_pulses] at under
    obtain ⟨t, pulse, later⟩ := under
    obtain ⟨a, entry, -, kind⟩ := ServiceLog.getElem?_pulses_eq_some_true_iff.1 pulse
    exact ⟨isWrite, a, ServiceLog.mem_underWay_iff.2 ⟨kind, t, later, entry⟩⟩
  · rintro ⟨isWrite, a, mem⟩
    obtain ⟨kind, t, later, entry⟩ := ServiceLog.mem_underWay_iff.1 mem
    obtain ⟨delay, found⟩ := logged.exists_delay built orderly served entry
    obtain ⟨latency, carries⟩ := logged.lines a.master delay isWrite found
    refine ⟨a.master, delay, isWrite, found, ?_⟩
    rw [carries.busy_iff, latency, ServiceLog.length_pulses]
    exact ⟨t, ServiceLog.getElem?_pulses_eq_some_true_iff.2 ⟨a, entry, rfl, kind⟩, later⟩

/-- A system is idle once every access has had its strobe: no queue has any left to serve, and no
line any left to hand on. -/
theorem Logged.idle_iff (logged : Logged c s seen log) (built : s.BuiltFrom c)
    (orderly : Orderly c s seen l) (served : l.served = log.reduceOption) :
    s.idle = true ↔ (∀ bank, l.waiting bank = []) ∧
      ∀ isWrite, log.underWay (c.strobeDelay isWrite) isWrite = [] := by
  have queues : s.controller.idle = true ↔ ∀ bank, l.waiting bank = [] := by
    rw [Controller.idle_iff]
    refine forall_congr' fun bank => ?_
    rw [← orderly.queued, List.map_eq_nil_iff]
  rw [idle, Bool.and_eq_true, queues, Bool.not_eq_true', ← Bool.not_eq_true,
    logged.busy_iff built orderly served]
  refine and_congr_right fun _ => ?_
  simp only [List.eq_nil_iff_forall_not_mem, not_exists]

/-- The accesses of a direction are those whose strobes have come, and others. -/
theorem Logged.exists_pending (logged : Logged c s seen log) (built : s.BuiltFrom c)
    (orderly : Orderly c s seen l) (served : l.served = log.reduceOption) :
    ∃ pending : Bool → List Access,
      (∀ isWrite, (l.taken.filter (Access.moves isWrite)).Perm
        (log.echoed (c.strobeDelay isWrite) isWrite ++ pending isWrite)) ∧
      (s.idle = true ↔ ∀ isWrite, pending isWrite = []) := by
  obtain ⟨rest, taken, waits⟩ := orderly.balanced.exists_unserved
  refine ⟨fun isWrite => log.underWay (c.strobeDelay isWrite) isWrite ++
    rest.filter (Access.moves isWrite), ?_, ?_⟩
  · intro isWrite
    rw [← List.append_assoc, ServiceLog.echoed_append_underWay, ← served, ← List.filter_append]
    exact taken.filter _
  · have dry : (∀ bank, l.waiting bank = []) ↔ rest = [] := by
      simp only [List.eq_nil_iff_forall_not_mem, waits, not_exists]
      exact forall_comm
    have split : rest = [] ↔ ∀ isWrite, rest.filter (Access.moves isWrite) = [] := by
      constructor
      · rintro rfl isWrite
        rfl
      · intro nothing
        refine List.eq_nil_iff_forall_not_mem.2 fun a mem => ?_
        have among : a ∈ rest.filter (Access.moves a.request.isWrite) :=
          List.mem_filter.2 ⟨mem, beq_self_eq_true _⟩
        rw [nothing] at among
        cases among
    rw [logged.idle_iff built orderly served, dry, split, ← forall_and]
    refine forall_congr' fun isWrite => ?_
    rw [List.append_eq_nil_iff, and_comm]

/-! ### Runs -/

/-- The delay lines of a system at rest: empty, and one stage longer than the latency. -/
theorem delays_of_new {start : MemorySystem} (made : MemorySystem.new c = .ok start)
    {delay : StrobeDelay} (mem : delay ∈ start.crossbar.delays) :
    delay = ⟨.new (Word.add c.phy.writeLatency 1), .new (Word.add c.phy.readLatency 1)⟩ := by
  obtain ⟨controller, -, made⟩ := bind_eq_ok_iff.1 made
  obtain ⟨ports, -, made⟩ := bind_eq_ok_iff.1 made
  obtain ⟨x, crossbar, made⟩ := bind_eq_ok_iff.1 made
  cases made
  rw [Crossbar.new] at crossbar
  split at crossbar
  · cases crossbar
  · cases crossbar
    exact List.eq_of_mem_replicate mem

/-- The empty log is one of a system at rest. The latencies have to leave room for the one stage
more. -/
theorem logged_nil {start : MemorySystem} (made : MemorySystem.new c = .ok start)
    (write : c.phy.writeLatency < Word.top) (read : c.phy.readLatency < Word.top) :
    Logged c start [] [] where
  length := rfl
  ports _ mem := absurd mem List.not_mem_nil
  fulfilled _ _ found := by cases found
  inOrder t bank := by
    rw [List.take_nil, List.take_nil]
    exact List.prefix_refl _
  strobes _ _ found := by cases found
  counted isWrite := by
    rw [ServiceLog.echoed, List.take_nil]
    rfl
  lines := by
    intro master delay isWrite found
    rw [delays_of_new made (List.mem_of_getElem? found), Word.add_eq_of_le write,
      Word.add_eq_of_le read]
    cases isWrite <;> exact ⟨DelayLine.latency_new _, DelayLine.carries_new _⟩

/-- After every run there is a log of the system. Induction on the run, which carries the ledger
along with the log. -/
theorem exists_logged (accepted : c.validate = .ok ()) (some_port : c.ports ≠ [])
    (write : c.phy.writeLatency < Word.top) (read : c.phy.readLatency < Word.top) :
    ∃ start, MemorySystem.new c = .ok start ∧ ∀ past, (start.run past).1.BuiltFrom c ∧
      ∃ l log, Orderly c (start.run past).1 (start.history past) l ∧
        l.served = log.reduceOption ∧
        Logged c (start.run past).1 (start.history past) log := by
  have a := Config.validate_eq_ok_iff.1 accepted
  obtain ⟨start, made, rest, built⟩ := exists_new accepted some_port
  refine ⟨start, made, fun past => run_induction (P := fun now seen => now.BuiltFrom c ∧
    ∃ l log, Orderly c now seen l ∧ l.served = log.reduceOption ∧ Logged c now seen log) ?_
    ⟨built, .empty, [], orderly_empty rest, rfl, logged_nil made write read⟩ past⟩
  rintro now seen commands ⟨sound, l, log, orderly, served, logged⟩
  obtain ⟨l', entry, after, served', serves⟩ := orderly.step a sound commands
  refine ⟨sound.step commands, l', log ++ [entry], after, ?_,
    logged.step (sound.reached.builtFrom a) sound orderly served after served' serves⟩
  rw [List.reduceOption_append, List.reduceOption_singleton, served', served]

/-- The strobes that the masters get in a run are those of their accesses. The log has for each
cycle the access that it serves. -/
structure RoutesStrobes (start : MemorySystem) (c : Config) (past : List (List (Option Request)))
    (log : ServiceLog) : Prop where
  /-- There is an entry for every cycle. -/
  length : log.length = past.length
  /-- The access of a cycle is served by the command that moves data in the cycle, and there is no
  access if there is no such command. -/
  fulfilled : ∀ (t : Nat) (commands : List (Option Request)) (cycle : MemoryCycle),
    (start.history past)[t]? = some (commands, cycle) →
    List.Forall₂ (Burst.Fulfils c) (log.getD t none).toList
      ((OpenRows.allClosed.replay (start.issued (past.take t))).bursts cycle.controller.commands)
  /-- The accesses that a bank serves are those that were taken for it, from the first one on. -/
  inOrder : ∀ t bank, (log.take t).reduceOption.filter (isFor c.bankField bank) <+:
    (start.accesses (past.take t)).filter (isFor c.bankField bank)
  /-- Data of a master is asked for one cycle and the write latency after a write of one of its
  accesses, and at no other time. -/
  writes : ∀ (t : Nat) (commands : List (Option Request)) (cycle : MemoryCycle),
    (start.history past)[t]? = some (commands, cycle) →
    ∀ master, cycle.ports[master]?.any PortStatus.writeData = true ↔
      ∃ s a, s + (c.phy.writeLatency + 1) = t ∧ log[s]? = some (some a) ∧ a.master = master ∧
        a.request.isWrite = true
  /-- Data for a master comes one cycle and the read latency after a read of one of its accesses,
  and at no other time. -/
  reads : ∀ (t : Nat) (commands : List (Option Request)) (cycle : MemoryCycle),
    (start.history past)[t]? = some (commands, cycle) →
    ∀ master, cycle.ports[master]?.any PortStatus.readData = true ↔
      ∃ s a, s + (c.phy.readLatency + 1) = t ∧ log[s]? = some (some a) ∧ a.master = master ∧
        a.request.isWrite = false
  /-- The strobes of a direction are those of the accesses served a delay ago or earlier, and these
  are, with others that are pending, all the accesses of the direction, one for one. Nothing is
  pending exactly while the system is idle. -/
  once : ∃ pending : Bool → List Access,
    (∀ isWrite,
      start.strobes isWrite past = (log.echoed (c.strobeDelay isWrite) isWrite).map Access.master ∧
      ((start.accesses past).filter (Access.moves isWrite)).Perm
        (log.echoed (c.strobeDelay isWrite) isWrite ++ pending isWrite)) ∧
    ((start.run past).1.idle = true ↔ ∀ isWrite, pending isWrite = [])
  /-- The system is idle exactly if as many strobes were given as accesses were taken. -/
  idle : (start.run past).1.idle = true ↔
    (start.strobes true past).length + (start.strobes false past).length =
      (start.accesses past).length

/-- **Every access gets its strobe.** A system for an accepted configuration with a port, and with
latencies that leave room for one more cycle, gives every master the strobes of its own accesses,
each at its time, and is idle when all have been given. -/
theorem exists_new_routesStrobes (accepted : c.validate = .ok ()) (some_port : c.ports ≠ [])
    (write : c.phy.writeLatency < Word.top) (read : c.phy.readLatency < Word.top) :
    ∃ start, MemorySystem.new c = .ok start ∧
      ∀ past, ∃ log, start.RoutesStrobes c past log := by
  obtain ⟨start, made, runs⟩ := exists_logged accepted some_port write read
  refine ⟨start, made, fun past => ?_⟩
  obtain ⟨built, l, log, orderly, served, logged⟩ := runs past
  have taken : start.accesses past = l.taken := orderly.taken.symm
  obtain ⟨pending, parts, rest⟩ := logged.exists_pending built orderly served
  refine ⟨log, ?_, ?_, ?_, ?_, ?_, ?_, ?_⟩
  · rw [logged.length, length_history]
  · intro t commands cycle found
    rw [issued, history_take]
    exact logged.fulfilled t (commands, cycle) found
  · intro t bank
    rw [accesses, history_take]
    exact logged.inOrder t bank
  · intro t commands cycle found
    exact logged.strobes t (commands, cycle) found true
  · intro t commands cycle found
    exact logged.strobes t (commands, cycle) found false
  · refine ⟨pending, fun isWrite => ⟨logged.counted isWrite, ?_⟩, rest⟩
    rw [taken]
    exact parts isWrite
  · have counts : ∀ isWrite, (l.taken.filter (Access.moves isWrite)).length =
        (start.strobes isWrite past).length + (pending isWrite).length := by
      intro isWrite
      rw [(parts isWrite).length_eq, List.length_append, strobes, logged.counted, List.length_map]
    have writing := counts true
    have reading := counts false
    have whole := Access.length_filter_moves l.taken
    rw [rest, Bool.forall_bool, taken, ← List.length_eq_zero_iff, ← List.length_eq_zero_iff]
    omega

/-- Two masters, one with half the width of a controller word, and latencies that differ. -/
def twoLatencies : Config where
  phy := { writeLatency := 3, readLatency := 9 }
  ports := [{}, { dataWidth := some 32 }]

/-- Written data are asked for six cycles sooner than read data are returned. -/
theorem new_routesStrobes_of_two_ports :
    twoLatencies.validate = .ok () ∧ twoLatencies.ports ≠ [] ∧
      twoLatencies.phy.writeLatency < Word.top ∧ twoLatencies.phy.readLatency < Word.top ∧
      ∃ start, MemorySystem.new twoLatencies = .ok start ∧
        ∀ past, ∃ log, start.RoutesStrobes twoLatencies past log :=
  ⟨by decide, by decide, by decide, by decide,
    exists_new_routesStrobes (by decide) (by decide) (by decide) (by decide)⟩

end MemorySystem

end DramScheduler
