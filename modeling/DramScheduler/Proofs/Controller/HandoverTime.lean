import DramScheduler.Proofs.Bus.Closing
import DramScheduler.Proofs.Bus.Guards
import DramScheduler.Proofs.Controller.RefreshTiming
import DramScheduler.Proofs.Controller.RowSafety
import Mathlib.Data.Finset.Card

/-!
# How soon the bus is handed over

The refresher asks for the bus and waits. The controller gets there in three stages. First the bus
finishes a turn and the banks what they have begun; then the open rows are closed, one in every
cycle but the first; and then the last precharge has to be over. No request that comes in meanwhile
makes any of this longer, since a bank that makes way does not look at its queue.

The bound that comes out, `Config.handoverCycles`, is made of the timings of the configuration and
the number of banks. Nothing is said about whether a run can take that long.

## Main results

* `Controller.Settling.step` — a cycle of the first stage;
* `Controller.stillOpen_step`, `Controller.granted_step` — a cycle of the second stage;
* `Controller.Waits.handsOver` — the bus is handed over in time, whatever is offered.
-/

namespace DramScheduler

/-- How long the bus and the banks may be busy with what they have begun: a turn of the bus, written
data, or a row that has just been opened. -/
def Config.settlingCycles (c : Config) : Nat :=
  max 1 (max (max c.readToWrite c.writeToRead) (max c.writeToPrecharge (c.timing.tRAS.getD 0)))

/-- How long the refresher may have to wait for the bus: what has been begun, a cycle for every row
that is open, and a precharge. -/
def Config.handoverCycles (c : Config) : Nat :=
  c.settlingCycles + c.banks + c.timing.tRP + 2

namespace Controller

variable {c : Config} {k : Controller} {offers : List (Option BankRequest)} {d n : Nat}

/-- The refresher gets the bus within a number of cycles, whatever is offered in them. The offers
are bound cycle by cycle, so that no run has to be named. -/
inductive HandsOver : Nat → Controller → Prop
  /-- It has the bus already. -/
  | now {n : Nat} {k : Controller} (state : k.bus.state = .refresh) : HandsOver n k
  /-- It gets it within one cycle less, from wherever the next cycle leads. -/
  | later {n : Nat} {k : Controller} (next : ∀ offers, HandsOver n (k.step offers).1) :
      HandsOver (n + 1) k

/-- Within more cycles it does so as well. -/
theorem HandsOver.mono (soon : k.HandsOver d) (order : d ≤ n) : k.HandsOver n := by
  induction soon generalizing n with
  | now state => exact .now state
  | later _ ih =>
    obtain ⟨later, rfl⟩ := Nat.exists_eq_add_of_lt order
    exact .later fun offers => ih offers (by omega)

/-! ### A refresher that waits -/

/-- The refresher waits for the bus, in a controller that a run leads to. -/
structure Waits (c : Config) (k : Controller) : Prop where
  /-- A run leads to the controller. -/
  reached : Reachable c k
  /-- The refresher waits. -/
  state : k.refresher.state = .waitGrant

/-- A refresher that waits asks for the bus. -/
theorem Waits.refreshRequest (waits : Waits c k) : k.refreshRequest = true := by
  rw [Controller.refreshRequest, Refresher.evaluate, waits.state]

/-- A refresher that does not get the bus goes on to wait, and its request stays up. -/
theorem Waits.step (waits : Waits c k) (away : k.bus.state ≠ .refresh) :
    Waits c (k.step offers).1 where
  reached := waits.reached.step offers
  state := by
    have kept : (k.bus.state == .refresh) = false := by simpa using away
    rw [refresher_step, kept, Refresher.state_commit, Refresher.nextState, waits.state]
    split <;> rfl

/-- The bus of a reachable controller asks for the distances of the configuration. -/
theorem Reachable.bus_builtFrom (reached : Reachable c k) : k.bus.BuiltFrom c := by
  induction reached with
  | build => exact CommandBus.builtFrom_new c
  | step offers _ ih => exact ih.commit _ _

/-- The registers of the bus are within their bounds in every reachable controller. -/
theorem Reachable.bus_bounded (a : c.Accepted) (reached : Reachable c k) :
    k.bus.Bounded c.banks := by
  induction reached with
  | build =>
    refine CommandBus.bounded_new ?_
    rw [a.banks_eq]
    exact Nat.two_pow_pos _
  | step offers _ ih => exact ih.commit _ _

/-- So are the countdowns of every bank. -/
theorem Reachable.bank_bounded (reached : Reachable c k) (i : Nat) (m : BankMachine)
    (found : k.banks[i]? = some m) : m.Bounded :=
  reached.bank_induction (BankMachine.bounded_new · c)
    (fun _ _ _ _ bounded => bounded.commit _ _ _) found

/-! ### What has been begun is finished -/

/-- A number of cycles later data may move and every open row may be closed. -/
structure Settling (k : Controller) (d : Nat) : Prop where
  /-- The bus is done with its turn by then. -/
  bus : k.bus.Settling d
  /-- So is every bank with what it has begun. -/
  bank : ∀ (i : Nat) (m : BankMachine), k.banks[i]? = some m → m.Settling d

/-- A bus on which data may move is not the refresher's. -/
theorem Settling.away (settled : k.Settling 0) : k.bus.state ≠ .refresh := by
  rcases settled.bus.moving with state | state
  · simp [state]
  · simp [state]

/-- **It does not take longer than the timings say**, because no countdown is higher than its
commands leave it. -/
theorem Waits.settling (a : c.Accepted) (waits : Waits c k) (away : k.bus.state ≠ .refresh) :
    k.Settling c.settlingCycles := by
  have built := waits.reached.builtFrom a
  have timings := waits.reached.bus_builtFrom
  have bounded := waits.reached.bus_bounded a
  constructor
  case bus =>
    have settles := bounded.settling
    rw [Spacing.Bounded, timings.writeToRead] at settles
    rw [Config.settlingCycles]
    cases state : k.bus.state with
    | read => exact .inl (.inl state)
    | write => exact .inl (.inr state)
    | refresh => exact absurd state away
    | writeToRead => exact .inr (.inl ⟨state, by omega⟩)
    | readToWrite remaining =>
      have turns := bounded.turning remaining state
      rw [timings.readToWrite] at turns
      exact .inr (.inr ⟨remaining, state, by omega, by omega⟩)
  case bank =>
    intro i m found
    have fixed := built.bank i m found
    have written := (waits.reached.bank_bounded i m found).writeToPrecharge
    have opened := (waits.reached.bank_bounded i m found).rowActive
    rw [Spacing.Bounded, fixed.writeToPrecharge] at written
    rw [Spacing.Bounded, fixed.rowActive] at opened
    rw [Config.settlingCycles]
    exact ⟨by omega, by omega, fun _ => by omega, fun _ => ⟨by omega, by omega⟩⟩

/-- While the refresher waits a bank offers the precharge of its row or nothing. -/
theorem not_isColumn_of_offered (waits : Waits c k) {offer : Option Command}
    (mem : offer ∈ k.evaluate.banks.map BankOutputs.command) {command : Command}
    (offered : offer = some command) : command.isColumn = false := by
  rw [offered, List.mem_map] at mem
  obtain ⟨outputs, among, shown⟩ := mem
  obtain ⟨m, -, rfl⟩ := List.mem_map.1 among
  have request : k.refresher.evaluate.valid = true := waits.refreshRequest
  rw [request] at shown
  rw [(BankMachine.offer_eq_some_iff.1 shown).eq_prechargeCommand]
  rfl

/-- **A cycle of the first stage** brings bus and banks closer to where they may move and close; or
the bus is handed over early. -/
theorem Settling.step (settling : k.Settling d) (a : c.Accepted) (waits : Waits c k)
    (offers : List (Option BankRequest)) :
    (k.step offers).1.bus.state = .refresh ∨ (k.step offers).1.Settling (d - 1) := by
  have unavailable : ∀ kind : Command → Bool,
      (∀ command : Command, kind command = true → command.isColumn = true) →
      ((k.evaluate.banks.map BankOutputs.command).any fun offer => offer.any kind) = false := by
    intro kind columns
    rw [List.any_eq_false]
    intro offer mem wanted
    obtain ⟨command, offered, ofKind⟩ := (Option.any_eq_true _ _).1 wanted
    have column := columns command ofKind
    rw [not_isColumn_of_offered waits mem offered] at column
    cases column
  have quiet : k.evaluate.decision.commands.any Command.isWrite = false := by
    rw [List.any_eq_false]
    intro command mem
    have onBus : command ∈ (k.step offers).2.commands := mem
    have still := (quiet_of_refreshRequest (waits.reached.builtFrom a) waits.refreshRequest onBus).2
    rw [Command.isColumn, Bool.or_eq_false_iff] at still
    simp [still.2]
  have reads : k.evaluate.decision.readAvailable = false :=
    unavailable _ fun command kind => by simp [Command.isColumn, kind]
  have writes : k.evaluate.decision.writeAvailable = false :=
    unavailable _ fun command kind => by simp [Command.isColumn, kind]
  have bus : (k.step offers).1.bus.state = .refresh ∨ (k.step offers).1.bus.Settling (d - 1) :=
    settling.bus.commit reads writes quiet
  rcases bus with handed | closer
  · exact .inl handed
  · refine .inr ⟨closer, fun i m found => ?_⟩
    obtain ⟨before, earlier, rfl⟩ := exists_of_banks_step found
    rw [waits.refreshRequest]
    exact (settling.bank i before earlier).commit _ _

/-! ### The rows are closed -/

/-- What a bank offers that has settled: the precharge of its row, for as long as the row is
open. -/
theorem offered_of_settling (a : c.Accepted) (waits : Waits c k) (settled : k.Settling 0)
    (i : Nat) :
    CommandBus.offered k.evaluate.banks i =
      if (k.openRows i).isSome then some (.precharge i false) else none := by
  have request : k.refresher.evaluate.valid = true := waits.refreshRequest
  have outputs : k.evaluate.banks = k.banks.map fun m => m.evaluate true := by
    rw [evaluate, request]
  rw [CommandBus.offered, outputs, List.getElem?_map, openRows]
  cases found : k.banks[i]? with
  | none => rfl
  | some m =>
    have fixed := (waits.reached.builtFrom a).bank i m found
    have offer := (settled.bank i m found).offer_eq (waits.reached.rowsKept i m found)
    rw [Option.map_some, Option.bind_some, Option.bind_some]
    show m.offer true = _
    rw [offer, BankMachine.prechargeCommand, fixed.index]

/-- Once all have settled, precharges are all that is offered. -/
theorem closing_of_settling (a : c.Accepted) (waits : Waits c k) (settled : k.Settling 0) :
    CommandBus.Closing k.evaluate.banks := by
  intro i command offered
  rw [offered_of_settling a waits settled, Option.ite_none_right_eq_some] at offered
  rw [← Option.some.inj offered.2]
  rfl

/-- The banks whose row is still open. -/
def stillOpen (k : Controller) : Finset Nat :=
  (Finset.range k.banks.length).filter fun i => (k.openRows i).isSome

/-- A bank is among them if it has a row open. -/
theorem mem_stillOpen {i : Nat} : i ∈ k.stillOpen ↔ (k.openRows i).isSome := by
  rw [stillOpen, Finset.mem_filter, Finset.mem_range, and_iff_right_iff_imp]
  intro isOpen
  by_contra outside
  rw [openRows, List.getElem?_eq_none (Nat.not_lt.1 outside)] at isOpen
  cases isOpen

/-- **A cycle of the second stage** closes the row of the bank with the grant, and no other. It
opens none, since banks make way. -/
theorem stillOpen_step (a : c.Accepted) (waits : Waits c k) (settled : k.Settling 0) :
    (k.step offers).1.stillOpen = k.stillOpen.erase k.bus.closer.grant := by
  have built := waits.reached.builtFrom a
  ext i
  have issues : k.issues i = if i = k.bus.closer.grant then
      CommandBus.offered k.evaluate.banks i else none := by
    rw [← granted_eq_issues]
    exact CommandBus.granted_of_closing built.placed settled.bus.moving
      (closing_of_settling a waits settled) i
  rw [Finset.mem_erase, mem_stillOpen, mem_stillOpen, openRows_step_apply built, issues,
    offered_of_settling a waits settled]
  by_cases here : i = k.bus.closer.grant
  · rw [if_pos here]
    cases row : k.openRows i with
    | none => simp [row]
    | some _ => simp [here, OpenRows.apply]
  · rw [if_neg here, Option.toList_none, OpenRows.replay_nil, and_iff_right here]

/-- **The grant goes to a bank whose row is still open**, as long as there is one, since only those
offer something. -/
theorem granted_step (a : c.Accepted) (waits : Waits c k) (settled : k.Settling 0)
    (more : (k.step offers).1.stillOpen.Nonempty) :
    (k.step offers).1.bus.closer.grant ∈ (k.step offers).1.stillOpen := by
  have built := waits.reached.builtFrom a
  have range := (waits.reached.bus_bounded a).closer
  have asks : ∀ i, (k.evaluate.banks.map fun outputs => outputs.command.isSome)[i]? = some true ↔
      i ∈ k.stillOpen := by
    intro i
    rw [mem_stillOpen, List.getElem?_map]
    have offers := offered_of_settling a waits settled i
    rw [CommandBus.offered] at offers
    cases found : k.evaluate.banks[i]? with
    | none =>
      rw [found] at offers
      cases row : k.openRows i with
      | none => simp
      | some _ => simp [row] at offers
    | some outputs =>
      rw [found, Option.bind_some] at offers
      rw [Option.map_some, offers, Option.some.injEq]
      cases k.openRows i <;> simp
  obtain ⟨j, among⟩ := more
  rw [stillOpen_step a waits settled, Finset.mem_erase] at among
  have grant : (k.step offers).1.bus.closer.grant = k.bus.closer.arbiter.next
      (k.evaluate.banks.map fun outputs => outputs.command.isSome) :=
    CommandBus.grant_closer_commit settled.bus.moving (closing_of_settling a waits settled)
  have inRange : j < k.bus.closer.arbiter.size := by
    rw [range.size_eq, ← built.length_banks]
    exact Finset.mem_range.1 (Finset.mem_filter.1 among.2).1
  obtain ⟨shown, elsewhere⟩ :=
    RoundRobin.next_of_other inRange among.1 ((asks j).2 among.2)
  rw [stillOpen_step a waits settled, grant, Finset.mem_erase]
  exact ⟨elsewhere, (asks _).1 shown⟩

/-! ### The last precharge is over -/

/-- Once every bank is at rest the bus is handed over, in that very cycle. -/
theorem bus_step_of_resting (a : c.Accepted) (waits : Waits c k) (settled : k.Settling 0)
    (resting : ∀ (i : Nat) (m : BankMachine), k.banks[i]? = some m → m.Resting 0) :
    (k.step offers).1.bus.state = .refresh := by
  have request : k.refresher.evaluate.valid = true := waits.refreshRequest
  have some_bank : k.evaluate.banks.isEmpty = false := by
    rw [List.isEmpty_eq_false_iff, ← List.length_pos_iff, evaluate, List.length_map,
      (waits.reached.builtFrom a).length_banks, a.banks_eq]
    exact Nat.two_pow_pos _
  have grant : ∀ outputs ∈ k.evaluate.banks, outputs.refreshGrant = true := by
    intro outputs mem
    obtain ⟨m, among, rfl⟩ := List.mem_map.1 mem
    obtain ⟨i, found⟩ := List.mem_iff_getElem?.1 among
    exact (resting i m found).grantsRefresh (settled.bank i m found)
  have rest : k.evaluate.decision.goToRefresh = true :=
    goToRefresh_iff.2 ⟨request, some_bank, grant⟩
  exact CommandBus.nextState_eq_refresh_iff.2 (.inl ⟨settled.bus.moving, rest⟩)

/-- **The last stage** takes as long as the precharge that is the last to be over. Induction on the
cycles left of it. -/
theorem Waits.handsOver_of_resting (a : c.Accepted) (waits : Waits c k) (settled : k.Settling 0)
    {left : Nat} (resting : ∀ (i : Nat) (m : BankMachine), k.banks[i]? = some m → m.Resting left) :
    k.HandsOver (left + 1) := by
  induction left generalizing k with
  | zero => exact .later fun offers => .now (bus_step_of_resting a waits settled resting)
  | succ left ih =>
    refine .later fun offers => ?_
    rcases settled.step a waits offers with handed | after
    · exact .now handed
    · refine ih (waits.step settled.away) after fun i m found => ?_
      obtain ⟨before, earlier, rfl⟩ := exists_of_banks_step found
      rw [waits.refreshRequest]
      exact (resting i before earlier).commit (settled.bank i before earlier)
        (waits.reached.rowsKept i before earlier) _ _

/-- The last stage is as long as a precharge takes. -/
theorem Waits.handsOver_of_closed (a : c.Accepted) (waits : Waits c k) (settled : k.Settling 0)
    (closed : k.stillOpen = ∅) : k.HandsOver (c.timing.tRP + 1) := by
  refine waits.handsOver_of_resting a settled fun i m found => ?_
  have precharged := (waits.reached.bank_bounded i m found).rowPrecharge
  rw [Spacing.Bounded, ((waits.reached.builtFrom a).bank i m found).rowPrecharge] at precharged
  refine ⟨?_, Nat.le_trans precharged (Nat.sub_le _ _), fun _ => a.tRP_pos⟩
  have row : i ∉ k.stillOpen := by
    rw [closed]
    exact Finset.notMem_empty i
  rw [mem_stillOpen, openRows, found] at row
  exact Option.not_isSome_iff_eq_none.1 row

/-- **The second stage** takes a cycle for every row that is still open, if the grant is at one of
them. Induction on their number. -/
theorem Waits.handsOver_of_granted (a : c.Accepted) (waits : Waits c k) (settled : k.Settling 0)
    (few : k.stillOpen.card ≤ n)
    (granted : k.stillOpen.Nonempty → k.bus.closer.grant ∈ k.stillOpen) :
    k.HandsOver (n + c.timing.tRP + 1) := by
  induction n generalizing k with
  | zero =>
    refine (waits.handsOver_of_closed a settled ?_).mono (by omega)
    exact Finset.card_eq_zero.1 (Nat.le_zero.1 few)
  | succ n ih =>
    rcases k.stillOpen.eq_empty_or_nonempty with closed | more
    · exact (waits.handsOver_of_closed a settled closed).mono (by omega)
    · refine HandsOver.mono (.later (n := n + c.timing.tRP + 1) fun offers => ?_) (by omega)
      rcases settled.step a waits offers with handed | after
      · exact .now handed
      · refine ih (waits.step settled.away) after ?_ (granted_step a waits settled)
        rw [stillOpen_step a waits settled, Finset.card_erase_of_mem (granted more)]
        exact Nat.sub_le_of_le_add few

/-- The second stage takes one more cycle if the grant is elsewhere at first. -/
theorem Waits.handsOver_of_settled (a : c.Accepted) (waits : Waits c k) (settled : k.Settling 0) :
    k.HandsOver (c.banks + c.timing.tRP + 2) := by
  refine .later fun offers => ?_
  rcases settled.step a waits offers with handed | after
  · exact .now handed
  · refine (waits.step settled.away).handsOver_of_granted a after ?_ (granted_step a waits settled)
    refine Nat.le_trans (Finset.card_filter_le _ _) ?_
    rw [Finset.card_range, length_banks_step, (waits.reached.builtFrom a).length_banks]

/-! ### All three stages -/

/-- The first stage comes before the others. Induction on the cycles left of it. -/
theorem Waits.handsOver_of_settling (a : c.Accepted) (waits : Waits c k) (settling : k.Settling d) :
    k.HandsOver (d + c.banks + c.timing.tRP + 2) := by
  induction d generalizing k with
  | zero => exact (waits.handsOver_of_settled a settling).mono (by omega)
  | succ d ih =>
    by_cases already : k.bus.state = .refresh
    · exact .now already
    · refine HandsOver.mono (.later (n := d + c.banks + c.timing.tRP + 2) fun offers => ?_)
        (by omega)
      rcases settling.step a waits offers with handed | after
      · exact .now handed
      · exact ih (waits.step already) after

/-- **The bus is handed over in time**, whatever is offered and whatever state the controller was
in. The bound is the sum of the three stages. -/
theorem Waits.handsOver (a : c.Accepted) (waits : Waits c k) : k.HandsOver c.handoverCycles := by
  by_cases handed : k.bus.state = .refresh
  · exact .now handed
  · exact waits.handsOver_of_settling a (waits.settling a handed)

end Controller

end DramScheduler
