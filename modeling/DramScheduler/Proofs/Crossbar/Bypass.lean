import DramScheduler.Proofs.Crossbar.Grants
import DramScheduler.Proofs.RoundRobin
import DramScheduler.Proofs.Run

/-!
# No master is passed by twice

A master that competes for a bank may have to wait for it: the bank is held by another master, or
the master holds it and has to yield since it was served. While it waits, the grant goes from one
master to the next, each one may be served once while it holds the bank, and the grant comes to the
waiting master before it comes to any of them a second time. There it stays until the master is
served. `LaneArbiter.turns` says how far the grant still has to go, and `LaneArbiter.MayPass`
whether another master may be served meanwhile. It may not once it was served, and this never
changes for the better.

What the banks answer, when they are locked and what the masters ask for is left open in every
cycle; it is only the waiting master that has to go on competing.

## Main results

* `LaneArbiter.Edge` — what a clock edge does to one arbiter;
* `LaneArbiter.turns_commitLane_le` — the grant comes closer to a master that waits;
* `Crossbar.countP_accepts_le_one` — another master is served once at most;
* `Crossbar.exists_new_boundsBypass` — this holds for every run of every crossbar.
-/

namespace DramScheduler

open RoundRobin (ahead)

/-! ### One arbiter -/

namespace Crossbar

/-- A holder has a rival if some other master competes for the bank. -/
theorem contended_iff {requests : List Bool} {holder : Nat} :
    contended requests holder = true ↔
      ∃ master, master ≠ holder ∧ requests[master]? = some true := by
  rw [contended, List.any_eq_true]
  constructor
  · rintro ⟨asks, mem, rfl⟩
    obtain ⟨master, shown⟩ := List.mem_iff_getElem?.1 mem
    rw [List.getElem?_set] at shown
    split at shown
    · split at shown <;> cases shown
    · next other => exact ⟨master, Ne.symm other, shown⟩
  · rintro ⟨master, other, asks⟩
    refine ⟨true, List.mem_iff_getElem?.2 ⟨master, ?_⟩, rfl⟩
    rw [List.getElem?_set_ne (Ne.symm other), asks]

end Crossbar

namespace LaneArbiter

variable {a : LaneArbiter} {l : Lane} {locked taken : Bool} {masters waiting other : Nat}

/-- What is offered to a bank comes from its holder, who yields once it was served. -/
structure Offers (a : LaneArbiter) (l : Lane) : Prop where
  isSome_iff : l.offer.isSome = true ↔ l.requests[a.arbiter.grant]? = some true ∧
    (a.served = true → Crossbar.contended l.requests a.arbiter.grant = false)

/-- Beside a rival the bank is offered the request of a holder that was not served yet. -/
theorem Offers.fresh (offers : a.Offers l) (offered : l.offer.isSome = true)
    (asks : l.requests[waiting]? = some true) (other : waiting ≠ a.arbiter.grant) :
    a.served = false := by
  by_contra served
  have alone := (offers.isSome_iff.1 offered).2 (Bool.not_eq_false _ ▸ served)
  rw [Crossbar.contended_iff.2 ⟨waiting, other, asks⟩] at alone
  cases alone

/-- Where a master competes and nothing is offered, the holder has a rival. -/
theorem Offers.contended (offers : a.Offers l) (idle : l.offer.isSome = false)
    (asks : l.requests[waiting]? = some true) :
    Crossbar.contended l.requests a.arbiter.grant = true := by
  by_cases holds : waiting = a.arbiter.grant
  · by_contra alone
    rw [Bool.not_eq_true] at alone
    rw [offers.isSome_iff.2 ⟨holds ▸ asks, fun _ => alone⟩] at idle
    cases idle
  · exact Crossbar.contended_iff.2 ⟨waiting, holds, asks⟩

/-- What a clock edge does to an arbiter: the grant stays, and the holder may have been served, or
it goes to another master, to whom nothing was given yet. -/
inductive Edge (a : LaneArbiter) (l : Lane) (locked taken : Bool) : LaneArbiter → Prop
  /-- The grant stays, and it is remembered whether the holder was served. -/
  | stays : Edge a l locked taken ⟨a.arbiter, a.served || (l.offer.isSome && taken)⟩
  /-- The grant moves, while the bank is offered nothing and is not locked. -/
  | moves (idle : l.offer.isSome = false) (free : locked = false)
      (other : a.arbiter.next l.requests ≠ a.arbiter.grant) :
      Edge a l locked taken ⟨{ a.arbiter with grant := a.arbiter.next l.requests }, false⟩

/-- A clock edge does one of the two. -/
theorem edge_commitLane (a : LaneArbiter) (l : Lane) (locked taken : Bool) :
    a.Edge l locked taken (Crossbar.commitLane a l locked taken) := by
  rw [Crossbar.commitLane, RoundRobin.commit]
  split
  · next enabled =>
    rw [Bool.and_eq_true, Bool.not_eq_true', Bool.not_eq_true'] at enabled
    by_cases same : a.arbiter.next l.requests = a.arbiter.grant
    · rw [same, beq_self_eq_true, Bool.true_and]
      exact .stays
    · rw [beq_false_of_ne same, Bool.false_and]
      exact .moves enabled.1 enabled.2 same
  · rw [beq_self_eq_true, Bool.true_and]
    exact .stays

/-- How far the grant has to go until it stays with a master: not at all if the master holds the
bank, but all the way around if it was served. This is the measure that falls while the master
waits. -/
def turns (a : LaneArbiter) (master : Nat) : Nat :=
  if a.arbiter.grant = master then if a.served then a.arbiter.size else 0
  else ahead a.arbiter.size a.arbiter.grant master

/-- **The grant comes closer to a master that waits** whenever it moves. It goes to the nearest
requester, and the waiting master is one. -/
theorem turns_lt_of_moves (inRange : a.InRange masters) (offers : a.Offers l)
    (within : waiting < masters) (asks : l.requests[waiting]? = some true)
    (idle : l.offer.isSome = false) (other : a.arbiter.next l.requests ≠ a.arbiter.grant) :
    turns ⟨{ a.arbiter with grant := a.arbiter.next l.requests }, false⟩ waiting <
      a.turns waiting := by
  have held : a.arbiter.grant < a.arbiter.size := inRange.size_eq ▸ inRange.grant_lt
  have within : waiting < a.arbiter.size := inRange.size_eq ▸ within
  rw [turns, turns]
  by_cases holds : a.arbiter.grant = waiting
  · -- a holder that competes and is not offered has to yield
    have served : a.served = true := by
      by_contra fresh
      rw [← holds] at asks
      rw [offers.isSome_iff.2 ⟨asks, fun served => absurd served fresh⟩] at idle
      cases idle
    rw [if_pos holds, if_neg (holds ▸ other), served, if_pos rfl]
    exact RoundRobin.ahead_lt (RoundRobin.next_lt held _) within
  · have closer := RoundRobin.ahead_next_lt held within (Ne.symm holds) asks
    rw [if_neg holds]
    split
    · rw [if_neg Bool.false_ne_true]
      exact Nat.lt_of_le_of_lt (Nat.zero_le _) closer
    · exact closer

/-- **The grant never goes away from a master that waits**: at an edge it stays where it is, or
comes closer. -/
theorem turns_commitLane_le (inRange : a.InRange masters) (offers : a.Offers l)
    (within : waiting < masters) (asks : l.requests[waiting]? = some true)
    (waits : a.arbiter.grant = waiting → (l.offer.isSome && taken) = false) :
    (Crossbar.commitLane a l locked taken).turns waiting ≤ a.turns waiting := by
  have edge := a.edge_commitLane l locked taken
  generalize Crossbar.commitLane a l locked taken = after at edge
  cases edge with
  | stays =>
    rw [turns, turns]
    split
    · next holds => rw [waits holds, Bool.or_false]
    · exact Nat.le_refl _
  | moves idle _ away =>
    exact Nat.le_of_lt (turns_lt_of_moves inRange offers within asks idle away)

/-- A master may still be served while another one waits: it holds the bank and was not served yet,
or the grant comes to it before it comes to the one that waits. -/
def MayPass (a : LaneArbiter) (waiting other : Nat) : Prop :=
  a.arbiter.grant = other ∧ a.served = false ∨
    ahead a.arbiter.size other waiting < a.turns waiting

/-- **A clock edge lets no further master pass**: one that may be served after it might before. This
is what carries the bound over a stretch of cycles. -/
theorem MayPass.of_commitLane (inRange : a.InRange masters) (offers : a.Offers l)
    (within : waiting < masters) (asks : l.requests[waiting]? = some true)
    (waits : a.arbiter.grant = waiting → (l.offer.isSome && taken) = false)
    (away : other ≠ waiting)
    (mayPass : (Crossbar.commitLane a l locked taken).MayPass waiting other) :
    a.MayPass waiting other := by
  have closer : (Crossbar.commitLane a l locked taken).turns waiting ≤ a.turns waiting :=
    turns_commitLane_le inRange offers within asks waits
  have size : (Crossbar.commitLane a l locked taken).arbiter.size = a.arbiter.size :=
    RoundRobin.size_commit _ _ _
  rcases mayPass with ⟨holds, fresh⟩ | before
  · have edge := a.edge_commitLane l locked taken
    generalize Crossbar.commitLane a l locked taken = after at edge holds fresh
    cases edge with
    | stays => exact .inl ⟨holds, (Bool.or_eq_false_iff.1 fresh).1⟩
    | moves idle _ moved =>
      obtain rfl : a.arbiter.next l.requests = other := holds
      have far := turns_lt_of_moves inRange offers within asks idle moved
      rw [turns, if_neg away] at far
      exact .inr far
  · rw [size] at before
    exact .inr (Nat.lt_of_lt_of_le before closer)

/-- **A master is served while another one waits only if it may be**, and then it may not be served
again: it has yielded by the time the grant would come back. -/
theorem MayPass.of_taken (offers : a.Offers l) (asks : l.requests[waiting]? = some true)
    (away : other ≠ waiting) (holds : a.arbiter.grant = other) (offered : l.offer.isSome = true)
    (locked : Bool) :
    a.MayPass waiting other ∧
      ¬ (Crossbar.commitLane a l locked true).MayPass waiting other := by
  have fresh := offers.fresh offered asks (holds ▸ Ne.symm away)
  refine ⟨.inl ⟨holds, fresh⟩, ?_⟩
  have edge := a.edge_commitLane l locked true
  generalize Crossbar.commitLane a l locked true = after at edge
  cases edge with
  | stays =>
    rintro (⟨-, again⟩ | before)
    · rw [offered, Bool.true_and, Bool.or_true] at again
      cases again
    · rw [turns, if_neg (holds ▸ away), holds] at before
      exact Nat.lt_irrefl _ before
  | moves idle =>
    rw [offered] at idle
    cases idle

end LaneArbiter

/-! ### One cycle of a crossbar -/

/-- What comes to a crossbar in one cycle, from the masters on one side and the banks on the
other. -/
structure CrossbarInput where
  /-- The request that each master offers. -/
  commands : List (Option Request) := []
  /-- Whether each bank takes a request in this cycle. -/
  ready : List Bool := []
  /-- Whether each bank is locked, so that its holder may not change. -/
  locks : List Bool := []
  /-- The strobes of each bank. -/
  responses : List BankResponse := []
  deriving DecidableEq, Repr, Inhabited

namespace Crossbar

variable {c : Config} {ports : List Port} {x : Crossbar} {input : CrossbarInput} {a : LaneArbiter}
  {bank master waiting other : Nat}

/-- What the crossbar does in a cycle before its clock edge. -/
def routing (x : Crossbar) (input : CrossbarInput) : Routing :=
  x.route input.commands input.ready input.locks

/-- The crossbar after a cycle. -/
def next (x : Crossbar) (input : CrossbarInput) : Crossbar :=
  (x.commit (x.routing input) input.responses).1

/-- The crossbar after a run. -/
def run (x : Crossbar) (past : List CrossbarInput) : Crossbar :=
  past.foldl next x

/-- A master competes for a bank: it has a request for it, and no locked bank keeps it elsewhere. -/
def selects (x : Crossbar) (input : CrossbarInput) (bank master : Nat) : Bool :=
  (x.routing input).lanes[bank]?.any fun l => l.requests.getD master false

/-- The request of a master is taken for a bank. -/
def accepts (x : Crossbar) (input : CrossbarInput) (bank master : Nat) : Bool :=
  x.selects input bank master && (x.routing input).accepted.getD master false

/-- What happens at the arbiter of a bank: which masters compete, and what the bank is offered. -/
def laneOf (x : Crossbar) (input : CrossbarInput) (bank : Nat) (a : LaneArbiter) : Lane :=
  lane (x.targets input.commands input.locks) bank a

/-- What the bank is offered comes from the holder of its arbiter. -/
theorem offers_laneOf (x : Crossbar) (input : CrossbarInput) (bank : Nat) (a : LaneArbiter) :
    a.Offers (x.laneOf input bank a) := by
  refine ⟨?_⟩
  rw [laneOf, lane]
  dsimp only
  rw [List.getElem?_map, List.getD_eq_getElem?_getD]
  cases (x.targets input.commands input.locks)[a.arbiter.grant]? with
  | none => simp [requestFor]
  | some target =>
    generalize contended _ a.arbiter.grant = rivals
    cases a.served <;> cases rivals <;> simp

/-- What happens at a bank depends on its own arbiter and on the masters' requests. -/
theorem getElem?_lanes_routing (x : Crossbar) (input : CrossbarInput) (bank : Nat) :
    (x.routing input).lanes[bank]? = x.lanes[bank]?.map (x.laneOf input bank) := by
  rw [routing, route]
  exact List.getElem?_mapIdx

/-- The masters that compete for a bank are those that its arbiter sees. -/
theorem selects_iff (found : x.lanes[bank]? = some a) :
    x.selects input bank master = true ↔
      (x.laneOf input bank a).requests[master]? = some true := by
  rw [selects, getElem?_lanes_routing, found, Option.map_some, Option.any_some, getD_false_iff]

/-- Masters compete for banks that there are. -/
theorem exists_lane_of_selects (selected : x.selects input bank master = true) :
    ∃ a, x.lanes[bank]? = some a := by
  rw [selects, getElem?_lanes_routing] at selected
  cases found : x.lanes[bank]? with
  | none =>
    rw [found] at selected
    cases selected
  | some a => exact ⟨a, rfl⟩

/-- A master that competes for a bank has a port, and its request is for the bank. -/
theorem target_of_selects (selected : x.selects input bank master = true) :
    ∃ stripped, (x.targets input.commands input.locks).getD master none =
      some (bank, stripped) := by
  obtain ⟨a, found⟩ := exists_lane_of_selects selected
  have asks := (selects_iff found).1 selected
  rw [laneOf, lane, List.getElem?_map, Option.map_eq_some_iff] at asks
  obtain ⟨target, shown, some_request⟩ := asks
  obtain ⟨stripped, wanted⟩ := Option.isSome_iff_exists.1 some_request
  rw [List.getD_eq_getElem?_getD, shown, requestFor_eq_some_iff.1 wanted]
  exact ⟨stripped, rfl⟩

/-- Only masters with a port compete. -/
theorem lt_masters_of_selects (selected : x.selects input bank master = true) :
    master < x.masters := by
  obtain ⟨stripped, wanted⟩ := target_of_selects selected
  rw [getD_targets, Option.ite_none_right_eq_some] at wanted
  exact wanted.1

/-- **A request is taken for a bank from the holder that the bank is offered a request of**, and
from no other master. -/
theorem accepts_iff (found : x.lanes[bank]? = some a) :
    x.accepts input bank master = true ↔ a.arbiter.grant = master ∧
      (x.laneOf input bank a).offer.isSome = true ∧
      (x.routing input).accepted.getD a.arbiter.grant false = true := by
  rw [accepts, Bool.and_eq_true]
  constructor
  · rintro ⟨selected, told⟩
    obtain ⟨stripped, wanted⟩ := target_of_selects selected
    rw [getD_targets, Option.ite_none_right_eq_some] at wanted
    obtain ⟨request, asks, addressed, -, -⟩ := target_eq_some_iff.1 wanted.2
    obtain ⟨request', asks', holds, offer, -⟩ := accepted_route_iff.1 (getD_false_iff.1 told)
    obtain rfl : request = request' := Option.some.inj (asks.symm.trans asks')
    rw [addressed] at holds offer
    rw [holder?, found, Option.map_some, Option.some.injEq] at holds
    rw [getD_offers_route, found, Option.bind_some] at offer
    exact ⟨holds, Option.isSome_iff_exists.2 ⟨_, offer⟩, holds ▸ told⟩
  · rintro ⟨rfl, offered, told⟩
    exact ⟨(selects_iff found).2 ((offers_laneOf x input bank a).isSome_iff.1 offered).1, told⟩

/-- The same as a computation, without the case split. -/
theorem accepts_eq (found : x.lanes[bank]? = some a) :
    x.accepts input bank master = (a.arbiter.grant == master &&
      ((x.laneOf input bank a).offer.isSome &&
        (x.routing input).accepted.getD a.arbiter.grant false)) := by
  rw [Bool.eq_iff_iff, accepts_iff found, Bool.and_eq_true, Bool.and_eq_true, beq_iff_eq]

/-- The arbiter of a bank after a cycle depends on what happened at that bank alone. -/
theorem getElem?_lanes_next (found : x.lanes[bank]? = some a) :
    (x.next input).lanes[bank]? = some (commitLane a (x.laneOf input bank a)
      (input.locks.getD bank false) ((x.routing input).accepted.getD a.arbiter.grant false)) := by
  rw [next, routing, getElem?_lanes_commit, found]
  rfl

/-! ### Runs -/

/-- **Another master is served once at most** while one waits, and not at all if it may not.
Induction on the stretch: a cycle in which the other master is served uses up the permission, and no
cycle gives it back. -/
theorem countP_accepts_le_one (bounded : x.Bounded) (found : x.lanes[bank]? = some a)
    (away : other ≠ waiting) {stretch : List CrossbarInput}
    (waits : ∀ cycle ∈ Run.cycles next x stretch, cycle.1.selects cycle.2 bank waiting = true ∧
      cycle.1.accepts cycle.2 bank waiting = false) :
    (Run.cycles next x stretch).countP (fun cycle => cycle.1.accepts cycle.2 bank other) ≤ 1 ∧
      (¬ a.MayPass waiting other →
        (Run.cycles next x stretch).countP (fun cycle => cycle.1.accepts cycle.2 bank other) =
          0) := by
  induction stretch generalizing x a with
  | nil => exact ⟨Nat.zero_le 1, fun _ => rfl⟩
  | cons input rest ih =>
    rw [Run.cycles, List.forall_mem_cons] at waits
    obtain ⟨⟨selected, refused⟩, later⟩ := waits
    have asks := (selects_iff found).1 selected
    have offers := offers_laneOf x input bank a
    have kept : (x.next input).Bounded := bounded.commit _ _
    have after := ih kept (getElem?_lanes_next found) later
    rw [Run.cycles, List.countP_cons]
    cases taken : x.accepts input bank other with
    | true =>
      obtain ⟨holds, offered, told⟩ := (accepts_iff found).1 taken
      rw [told] at after
      obtain ⟨mayPass, never⟩ :=
        LaneArbiter.MayPass.of_taken offers asks away holds offered (input.locks.getD bank false)
      rw [after.2 never]
      exact ⟨Nat.le_refl 1, fun mayNot => absurd mayPass mayNot⟩
    | false =>
      have unserved : a.arbiter.grant = waiting → ((x.laneOf input bank a).offer.isSome &&
          (x.routing input).accepted.getD a.arbiter.grant false) = false := by
        intro holds
        rw [accepts_eq found, beq_iff_eq.2 holds, Bool.true_and] at refused
        exact refused
      refine ⟨after.1, fun mayNot => after.2 fun mayPass => mayNot ?_⟩
      exact LaneArbiter.MayPass.of_commitLane (bounded a (List.mem_of_getElem? found)) offers
        (lt_masters_of_selects selected) asks unserved away mayPass

/-- A bank that is ready takes the request that it is offered. -/
theorem accepts_of_offer (found : x.lanes[bank]? = some a)
    (ready : input.ready.getD bank false = true)
    (offered : (x.laneOf input bank a).offer.isSome = true) :
    x.accepts input bank a.arbiter.grant = true := by
  obtain ⟨stripped, shown⟩ := Option.isSome_iff_exists.1 offered
  have offer : (x.route input.commands input.ready input.locks).offers.getD bank none =
      some stripped := by
    rw [getD_offers_route, found]
    exact shown
  obtain ⟨holder, request, forwards, -, same⟩ := forwards_of_offer offer
  have told : (x.route input.commands input.ready input.locks).accepted[holder]? = some true :=
    accepted_route_iff.2 ⟨request, forwards.asks, by rw [forwards.addressed, forwards.holds],
      by rw [forwards.addressed, offer, same], by rw [forwards.addressed, ready]⟩
  have holds := forwards.holds
  rw [holder?, found, Option.map_some, Option.some.injEq] at holds
  exact (accepts_iff found).2 ⟨rfl, offered, getD_false_iff.2 (holds ▸ told)⟩

/-- **A bank that is free and ready gets on**: it takes a request, or it goes to another master.
Where it is offered nothing, its holder has a rival and has to yield. -/
theorem accepts_or_moves (bounded : x.Bounded) (free : input.locks.getD bank false = false)
    (ready : input.ready.getD bank false = true)
    (selected : x.selects input bank master = true) :
    (∃ served, x.accepts input bank served = true) ∨
      ∃ holder, (x.next input).holder? bank = some holder ∧ x.holder? bank ≠ some holder ∧
        x.selects input bank holder = true ∧ (x.next input).served bank = false := by
  obtain ⟨a, found⟩ := exists_lane_of_selects selected
  cases idle : (x.laneOf input bank a).offer.isSome with
  | true => exact .inl ⟨a.arbiter.grant, accepts_of_offer found ready idle⟩
  | false =>
    right
    obtain ⟨rival, away, asks⟩ := contended_iff.1
      ((offers_laneOf x input bank a).contended idle ((selects_iff found).1 selected))
    have within : rival < a.arbiter.size := by
      rw [(bounded a (List.mem_of_getElem? found)).size_eq]
      exact lt_masters_of_selects ((selects_iff found).2 asks)
    obtain ⟨shown, moved⟩ := RoundRobin.next_of_other within away asks
    have after : (x.next input).lanes[bank]? = some
        ⟨{ a.arbiter with grant := a.arbiter.next (x.laneOf input bank a).requests }, false⟩ := by
      rw [getElem?_lanes_next found, free]
      simp [commitLane, RoundRobin.commit, idle, moved]
    refine ⟨a.arbiter.next (x.laneOf input bank a).requests, ?_, ?_, ?_, ?_⟩
    · rw [holder?, after]
      rfl
    · rw [holder?, found]
      exact fun same => moved (Option.some.inj same).symm
    · exact (selects_iff found).2 shown
    · rw [served, after]
      rfl

/-- What a master that waits for a bank can rely on, whatever the others and the banks do: it is not
passed by twice, and a bank that is free does not stand still. -/
structure BoundsBypass (start : Crossbar) : Prop where
  /-- Over a stretch in which a master competes for a bank and is not served there, any other master
  is served there once at most. -/
  bypass : ∀ past stretch bank waiting other, other ≠ waiting →
    (∀ cycle ∈ Run.cycles next (start.run past) stretch,
      cycle.1.selects cycle.2 bank waiting = true ∧
        cycle.1.accepts cycle.2 bank waiting = false) →
    (Run.cycles next (start.run past) stretch).countP
      (fun cycle => cycle.1.accepts cycle.2 bank other) ≤ 1
  /-- In a cycle in which the bank is not locked and ready, a request is taken, or the bank goes to
  another master that competes for it and to whom nothing was given yet. -/
  progress : ∀ past input bank waiting, input.locks.getD bank false = false →
    input.ready.getD bank false = true → (start.run past).selects input bank waiting = true →
    (∃ master, (start.run past).accepts input bank master = true) ∨
      ∃ holder, ((start.run past).next input).holder? bank = some holder ∧
        (start.run past).holder? bank ≠ some holder ∧
        (start.run past).selects input bank holder = true ∧
        ((start.run past).next input).served bank = false

/-- **No master is passed by twice at a crossbar with a port.** This holds for every run, whatever
the masters ask for, the banks answer and the locks forbid. -/
theorem exists_new_boundsBypass (c : Config) (some_port : ports ≠ []) :
    ∃ start, Crossbar.new c ports = .ok start ∧ start.BoundsBypass := by
  have made : ∃ start, Crossbar.new c ports = .ok start := by
    rw [new, if_neg (by simpa using some_port)]
    exact ⟨_, rfl⟩
  obtain ⟨start, made⟩ := made
  have bounded : ∀ past, (start.run past).Bounded := fun past =>
    List.foldlRecOn past next (bounded_new made) fun now kept input _ => kept.commit _ _
  refine ⟨start, made, ?_, ?_⟩
  · intro past stretch bank waiting other away waits
    cases stretch with
    | nil => exact Nat.zero_le 1
    | cons input rest =>
      obtain ⟨a, found⟩ := exists_lane_of_selects (waits _ List.mem_cons_self).1
      exact (countP_accepts_le_one (bounded past) found away waits).1
  · intro past input bank waiting free ready selected
    exact accepts_or_moves (bounded past) free ready selected

/-- The crossbar of two masters that are as wide as the controller. -/
theorem new_boundsBypass_of_two_ports :
    ∃ ports, Port.ofConfigs (default : Config).nativeWidth 0 [{}, {}] = .ok ports ∧ ports ≠ [] ∧
      ∃ start, Crossbar.new default ports = .ok start ∧ start.BoundsBypass :=
  ⟨_, rfl, by decide, exists_new_boundsBypass default (by decide)⟩

/-- Two masters that go on asking for a bank take turns, and the grant moves in between. -/
example :
    let both : CrossbarInput := { commands := [some ⟨0, false⟩, some ⟨0, true⟩], ready := [true] }
    (Crossbar.new default [default, default]).toOption.map (fun start =>
      (Run.cycles next start (.replicate 5 both)).map fun cycle =>
        [0, 1].map (cycle.1.accepts cycle.2 0)) =
      some [[true, false], [false, false], [false, true], [false, false], [true, false]] := by
  decide

end Crossbar

end DramScheduler
