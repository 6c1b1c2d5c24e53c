import DramScheduler.MemorySystem
import DramScheduler.Proofs.Controller.Service
import DramScheduler.Proofs.Crossbar.Ledger
import DramScheduler.Proofs.Crossbar.Routing

/-!
# One cycle of a system

A cycle of a system is a cycle of its controller with what the crossbar forwards. What the
masters are told of it makes up a list of accesses (`MemoryCycle.accesses`), and these are what
the banks took: for every bank the request it took, for every master one at most.

## Main results

* `MemorySystem.mem_accesses_step_iff` — the accesses of a cycle;
* `MemorySystem.accesses_isFor_step` — those for a bank are what the bank took;
* `MemoryCycle.length_accesses_isBy` — one of each master at most;
* `MemorySystem.free_of_mem_accesses` — a master with an access holds no other bank in use;
* `MemorySystem.run_induction` — runs, cycle after cycle.
-/

namespace DramScheduler

/-- Of the entries of the numbers below `n`, those with a property that only the entry of one
number can have. -/
theorem filter_filterMap_range {α : Type} {f : Nat → Option α} {p : α → Bool} {m : Nat}
    (tells : ∀ i a, f i = some a → p a = true → i = m) (n : Nat) :
    ((List.range n).filterMap f).filter p = (if m < n then (f m).filter p else none).toList := by
  have single : ∀ i ∈ List.range n,
      (f i).filter p = if i = m then (f m).filter p else none := by
    intro i _
    split
    · next here => rw [here]
    · next away =>
      rw [Option.filter_eq_none_iff]
      intro a found chosen
      exact away (tells i a found chosen)
  rw [List.filter_filterMap, List.filterMap_congr single, filterMap_range_single]
  split <;> rfl

namespace MemoryCycle

/-- The access of a master: its request, if it is told that it was taken. -/
def access? (cycle : MemoryCycle) (commands : List (Option Request)) (master : Nat) :
    Option Access :=
  if cycle.ports[master]?.map PortStatus.accepted = some true then
    (commands.getD master none).map (Access.mk master)
  else none

/-- The accesses of a cycle, by number of the master. -/
def accesses (cycle : MemoryCycle) (commands : List (Option Request)) : List Access :=
  (List.range cycle.ports.length).filterMap (cycle.access? commands)

variable {cycle : MemoryCycle} {commands : List (Option Request)} {master : Nat} {a : Access}

/-- A master has an access if it is told that its request was taken, and then the access is that
request. -/
theorem access?_eq_some_iff :
    cycle.access? commands master = some a ↔
      a.master = master ∧ cycle.ports[master]?.map PortStatus.accepted = some true ∧
        commands.getD master none = some a.request := by
  rw [access?, Option.ite_none_right_eq_some]
  constructor
  · rintro ⟨accepted, made⟩
    obtain ⟨request, asks, rfl⟩ := Option.map_eq_some_iff.1 made
    exact ⟨rfl, accepted, asks⟩
  · rintro ⟨rfl, accepted, asks⟩
    exact ⟨accepted, Option.map_eq_some_iff.2 ⟨a.request, asks, rfl⟩⟩

/-- The accesses of a cycle are those of its masters. -/
theorem mem_accesses_iff :
    a ∈ cycle.accesses commands ↔ cycle.access? commands a.master = some a := by
  rw [accesses, List.mem_filterMap]
  constructor
  · rintro ⟨master, -, shown⟩
    obtain rfl := (access?_eq_some_iff.1 shown).1
    exact shown
  · intro shown
    obtain ⟨status, found, -⟩ := Option.map_eq_some_iff.1 (access?_eq_some_iff.1 shown).2.1
    obtain ⟨inRange, -⟩ := List.getElem?_eq_some_iff.1 found
    exact ⟨a.master, List.mem_range.2 inRange, shown⟩

/-- Only masters with a port have accesses. -/
theorem master_lt_of_mem_accesses (mem : a ∈ cycle.accesses commands) :
    a.master < cycle.ports.length := by
  obtain ⟨-, told, -⟩ := access?_eq_some_iff.1 (mem_accesses_iff.1 mem)
  obtain ⟨status, found, -⟩ := Option.map_eq_some_iff.1 told
  exact (List.getElem?_eq_some_iff.1 found).1

/-- A cycle has one access of each master at most. -/
theorem length_accesses_isBy (cycle : MemoryCycle) (commands : List (Option Request))
    (master : Nat) : ((cycle.accesses commands).filter (Access.isBy master)).length ≤ 1 := by
  have tells : ∀ i a, cycle.access? commands i = some a → a.isBy master = true → i = master := by
    intro i a shown mine
    rw [← Access.isBy_iff.1 mine, (access?_eq_some_iff.1 shown).1]
  rw [accesses, filter_filterMap_range tells]
  exact Option.length_toList_le

end MemoryCycle

namespace MemorySystem

open Access

variable {s : MemorySystem} {commands : List (Option Request)} {bank master : Nat} {a : Access}

/-! ### The parts of a cycle -/

/-- The controller takes a cycle with what the crossbar forwards. -/
theorem controller_step (s : MemorySystem) (commands : List (Option Request)) :
    (s.step commands).1.controller = (s.controller.step (s.route commands).offers).1 :=
  rfl

/-- The crossbar takes its edge with what the banks respond. -/
theorem crossbar_step (s : MemorySystem) (commands : List (Option Request)) :
    (s.step commands).1.crossbar = (s.crossbar.commit (s.route commands)
      (s.controller.step (s.route commands).offers).2.responses).1 :=
  rfl

/-- What is seen of the controller is a cycle of it. -/
theorem cycle_step (s : MemorySystem) (commands : List (Option Request)) :
    (s.step commands).2.controller = (s.controller.step (s.route commands).offers).2 :=
  rfl

/-- The crossbar is told of every bank whether it is ready, and never finds one ready that is not
there. -/
theorem getD_ready (s : MemorySystem) (bank : Nat) :
    (s.controller.banks.map BankMachine.ready).getD bank false = s.controller.ready bank := by
  rw [List.getD_eq_getElem?_getD, List.getElem?_map, Controller.ready]
  cases s.controller.banks[bank]? <;> rfl

/-- The crossbar is told that a bank with requests is locked. -/
theorem locked_of_queued (h : s.controller.queued bank ≠ []) :
    (s.controller.banks.map BankMachine.locked)[bank]? = some true := by
  obtain ⟨m, found⟩ := Controller.exists_of_queued h
  rw [Controller.queued, found, Option.map_some, Option.getD_some, ← RequestQueue.pending_iff] at h
  rw [List.getElem?_map, found, Option.map_some, BankMachine.locked, h, Bool.true_or]

/-! ### What is taken -/

/-- A master is told that its request was taken exactly if the controller took it for its bank:
the master holds the bank, its request is the one that the bank is offered, and the bank takes
what it is offered. -/
theorem status_step_iff (delays : s.crossbar.delays.length = s.crossbar.masters) :
    (s.step commands).2.ports[master]?.map PortStatus.accepted = some true ↔
      ∃ request, commands.getD master none = some request ∧
        s.crossbar.holder? (s.crossbar.field.bank request.address) = some master ∧
        (s.route commands).offers.getD (s.crossbar.field.bank request.address) none =
          some (s.crossbar.field.strip request) ∧
        s.controller.ready (s.crossbar.field.bank request.address) = true := by
  have told : (s.step commands).2.ports[master]?.map PortStatus.accepted =
      (s.route commands).accepted[master]? :=
    Crossbar.getElem?_status_commit delays _ master
  rw [told, route, Crossbar.accepted_route_iff]
  simp only [getD_ready]

/-- **The accesses of a cycle**: the requests that are offered to a bank on behalf of its holder,
and that the bank takes. -/
theorem mem_accesses_step_iff (delays : s.crossbar.delays.length = s.crossbar.masters) :
    a ∈ (s.step commands).2.accesses commands ↔
      commands.getD a.master none = some a.request ∧
        s.crossbar.holder? (s.crossbar.field.bank a.request.address) = some a.master ∧
        (s.route commands).offers.getD (s.crossbar.field.bank a.request.address) none =
          some (s.crossbar.field.strip a.request) ∧
        s.controller.ready (s.crossbar.field.bank a.request.address) = true := by
  rw [MemoryCycle.mem_accesses_iff, MemoryCycle.access?_eq_some_iff, status_step_iff delays]
  constructor
  · rintro ⟨-, ⟨request, asks', facts⟩, asks⟩
    obtain rfl : request = a.request := Option.some.inj (asks'.symm.trans asks)
    exact ⟨asks, facts⟩
  · rintro ⟨asks, facts⟩
    exact ⟨rfl, ⟨a.request, asks, facts⟩, asks⟩

/-- **The accesses for a bank are what the bank took**: one or none, and without the bits that tell
the banks apart. -/
theorem accesses_isFor_step (delays : s.crossbar.delays.length = s.crossbar.masters)
    (commands : List (Option Request)) (bank : Nat) :
    (((s.step commands).2.accesses commands).filter (isFor s.crossbar.field bank)).map
        (fun a => s.crossbar.field.strip a.request) =
      (s.controller.takes (s.route commands).offers bank).toList := by
  have facts : ∀ a ∈ (s.step commands).2.accesses commands,
      a.isFor s.crossbar.field bank = true →
        s.crossbar.holder? bank = some a.master ∧
          s.controller.takes (s.route commands).offers bank =
            some (s.crossbar.field.strip a.request) := by
    intro a mem chosen
    obtain ⟨-, holds, offer, ready⟩ := (mem_accesses_step_iff delays).1 mem
    rw [isFor_iff.1 chosen] at holds offer ready
    rw [Controller.takes, if_pos ready]
    exact ⟨holds, offer⟩
  cases takes : s.controller.takes (s.route commands).offers bank with
  | none =>
    have none_here : ((s.step commands).2.accesses commands).filter
        (isFor s.crossbar.field bank) = [] := by
      rw [List.filter_eq_nil_iff]
      intro a mem chosen
      rw [(facts a mem chosen).2] at takes
      cases takes
    rw [none_here]
    rfl
  | some stripped =>
    rw [Controller.takes, Option.ite_none_right_eq_some] at takes
    obtain ⟨ready, offer⟩ := takes
    obtain ⟨master, request, forwards, -, rfl⟩ := Crossbar.forwards_of_offer offer
    have mem : Access.mk master request ∈ (s.step commands).2.accesses commands := by
      refine (mem_accesses_step_iff delays).2 ?_
      dsimp only
      rw [forwards.addressed]
      exact ⟨forwards.asks, forwards.holds, offer, ready⟩
    have among : Access.mk master request ∈ ((s.step commands).2.accesses commands).filter
        (isFor s.crossbar.field bank) :=
      List.mem_filter.2 ⟨mem, isFor_iff.2 forwards.addressed⟩
    -- the bank has one holder, so there is no other access for it
    have tells : ∀ i a, (s.step commands).2.access? commands i = some a →
        a.isFor s.crossbar.field bank = true → i = master := by
      intro i a shown here
      obtain rfl := (MemoryCycle.access?_eq_some_iff.1 shown).1
      have holds := (facts a (MemoryCycle.mem_accesses_iff.2 shown) here).1
      rw [forwards.holds] at holds
      exact (Option.some.inj holds).symm
    rw [MemoryCycle.accesses, filter_filterMap_range tells] at among ⊢
    rw [Option.mem_toList.1 among]
    rfl

/-- A master whose request is taken holds no other bank in use. Otherwise that bank would have kept
it from competing. -/
theorem free_of_mem_accesses (delays : s.crossbar.delays.length = s.crossbar.masters)
    (mem : a ∈ (s.step commands).2.accesses commands) {other : Nat}
    (away : other ≠ s.crossbar.field.bank a.request.address)
    (holds : s.crossbar.holder? other = some a.master) : s.controller.queued other = [] := by
  obtain ⟨-, holds', offer, -⟩ := (mem_accesses_step_iff delays).1 mem
  obtain ⟨master, request, forwards, -, -⟩ := Crossbar.forwards_of_offer offer
  obtain rfl : a.master = master := Option.some.inj (holds'.symm.trans forwards.holds)
  by_contra busy
  exact forwards.free other away holds (locked_of_queued busy)

/-! ### Runs -/

/-- What the masters offered in each cycle of a run, with what could be seen of the cycle. -/
def history (s : MemorySystem) (past : List (List (Option Request))) :
    List (List (Option Request) × MemoryCycle) :=
  past.zip (s.run past).2

/-- The accesses of a run, in the order in which they were taken. -/
def accesses (s : MemorySystem) (past : List (List (Option Request))) : List Access :=
  (s.history past).flatMap fun cycle => cycle.2.accesses cycle.1

/-- The commands issued in the course of a run. -/
def issued (s : MemorySystem) (past : List (List (Option Request))) : List Command :=
  (s.history past).flatMap fun cycle => cycle.2.controller.commands

/-- The history of the first cycles of a run. -/
theorem history_take (s : MemorySystem) (past : List (List (Option Request))) (t : Nat) :
    s.history (past.take t) = (s.history past).take t := by
  induction past generalizing s t with
  | nil => simp [history]
  | cons commands rest ih =>
    cases t with
    | zero => rfl
    | succ t => exact congrArg _ (ih (s.step commands).1 t)

/-- Something can be seen of every cycle. -/
theorem length_history (s : MemorySystem) (past : List (List (Option Request))) :
    (s.history past).length = past.length := by
  induction past generalizing s with
  | nil => rfl
  | cons commands rest ih => exact congrArg Nat.succ (ih (s.step commands).1)

/-- **Induction over runs.** A property of the system and of what was seen of it holds after a run
if it holds at first and every further cycle keeps it. -/
theorem run_induction {P : MemorySystem → List (List (Option Request) × MemoryCycle) → Prop}
    (step : ∀ now seen commands, P now seen →
      P (now.step commands).1 (seen ++ [(commands, (now.step commands).2)]))
    (start : P s []) (past : List (List (Option Request))) : P (s.run past).1 (s.history past) := by
  suffices later : ∀ (past : List (List (Option Request))) (now : MemorySystem) (seen), P now seen →
      P (now.run past).1 (seen ++ now.history past) from later past s [] start
  intro past
  induction past with
  | nil =>
    intro now seen h
    rwa [show now.history [] = [] from rfl, List.append_nil]
  | cons commands rest ih =>
    intro now seen h
    have longer := ih (now.step commands).1 _ (step now seen commands h)
    rwa [List.append_assoc] at longer

end MemorySystem

end DramScheduler
