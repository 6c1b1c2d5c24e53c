import DramScheduler.Crossbar.Crossbar
import Mathlib.Data.List.Basic

/-!
# What the crossbar forwards

A request is forwarded to a bank if its master holds the bank and no other locked one
(`Crossbar.Forwards`). Whatever a bank is offered is forwarded in this sense, and a master is
told that its request was taken exactly if the request is offered to its bank and the bank is
ready. At the clock edge a bank changes hands only while it is offered nothing and is not
locked.

## Main results

* `Crossbar.forwards_of_offer` — what a bank is offered is forwarded from its holder;
* `Crossbar.accepted_route_iff` — when a master is told that its request was taken;
* `Crossbar.holder?_commit` — a bank in use does not change hands.
-/

namespace DramScheduler

/-- The request as its bank sees it. -/
def BankField.strip (f : BankField) (request : Request) : BankRequest :=
  ⟨request.isWrite, f.bankLocal request.address⟩

namespace Crossbar

variable {x : Crossbar} {commands : List (Option Request)} {ready locks : List Bool}
  {bank master : Nat} {request : Request}

/-- The request of a master is led to a bank: the master holds the bank, and no other one that
is locked. -/
structure Forwards (x : Crossbar) (commands : List (Option Request)) (locks : List Bool)
    (bank master : Nat) (request : Request) : Prop where
  /-- The bank is held by the master. -/
  holds : x.holder? bank = some master
  /-- The master offers the request. -/
  asks : commands.getD master none = some request
  /-- The request is for the bank. -/
  addressed : x.field.bank request.address = bank
  /-- The master holds no other locked bank. -/
  free : ∀ other, other ≠ bank → x.holder? other = some master → locks[other]? ≠ some true

/-! ### What a master competes for -/

/-- The masters that are kept by a locked bank, with the bank that keeps them. -/
theorem mem_lockedHolders_iff {holder : Nat} :
    (bank, holder) ∈ x.lockedHolders locks ↔
      x.holder? bank = some holder ∧ locks[bank]? = some true := by
  rw [lockedHolders, List.mem_filterMap, holder?]
  constructor
  · rintro ⟨⟨⟨lane, locked⟩, number⟩, mem, shown⟩
    rw [List.mem_zipIdx_iff_getElem?, List.getElem?_zip_eq_some] at mem
    obtain ⟨found, lock⟩ := mem
    cases locked with
    | false => cases shown
    | true =>
      cases shown
      exact ⟨by rw [found]; rfl, lock⟩
  · rintro ⟨holds, lock⟩
    obtain ⟨lane, found, rfl⟩ := Option.map_eq_some_iff.1 holds
    refine ⟨((lane, true), bank), ?_, rfl⟩
    rw [List.mem_zipIdx_iff_getElem?, List.getElem?_zip_eq_some]
    exact ⟨found, lock⟩

/-- A master that is not excluded holds no other locked bank. -/
theorem excluded_eq_false_iff :
    excluded (x.lockedHolders locks) master bank = false ↔
      ∀ other, other ≠ bank → x.holder? other = some master → locks[other]? ≠ some true := by
  rw [excluded, List.any_eq_false]
  constructor
  · intro none_other other away holds locked
    have mem := mem_lockedHolders_iff.2 ⟨holds, locked⟩
    exact none_other _ mem (by simp [away])
  · rintro free ⟨other, holder⟩ mem both
    obtain ⟨holds, locked⟩ := mem_lockedHolders_iff.1 mem
    simp only [Bool.and_eq_true, bne_iff_ne, beq_iff_eq] at both
    obtain ⟨away, rfl⟩ := both
    exact free other away holds locked

/-- What a master competes for. Only masters with a port compete, whoever else offers a request. -/
theorem getD_targets :
    (x.targets commands locks).getD master none =
      if master < x.masters then
        x.target (x.lockedHolders locks) master (commands.getD master none) else none := by
  rw [targets, mapEntries_eq, List.getD_eq_getElem?_getD, List.getElem?_mapIdx]
  split
  · next inRange => simp [inRange]
  · next beyond => simp [beyond]

/-- A master competes for the bank of its request, unless another bank keeps it. -/
theorem target_eq_some_iff {holders : List (Nat × Nat)} {command : Option Request}
    {stripped : BankRequest} :
    x.target holders master command = some (bank, stripped) ↔
      ∃ request, command = some request ∧ x.field.bank request.address = bank ∧
        stripped = x.field.strip request ∧ excluded holders master bank = false := by
  cases command with
  | none => simp [target]
  | some request =>
    rw [target, Option.bind_some]
    dsimp only
    split
    · next out =>
      constructor
      · intro shown
        cases shown
      · rintro ⟨_, same, rfl, -, free⟩
        cases same
        rw [out] at free
        cases free
    · next free =>
      constructor
      · intro shown
        cases shown
        exact ⟨request, rfl, rfl, rfl, by simpa using free⟩
      · rintro ⟨_, same, rfl, rfl, -⟩
        cases same
        rfl

/-- Only a request for the bank itself is led to it. -/
theorem requestFor_eq_some_iff {target : Option (Nat × BankRequest)} {stripped : BankRequest} :
    requestFor bank target = some stripped ↔ target = some (bank, stripped) := by
  cases target with
  | none => simp [requestFor]
  | some wanted =>
    obtain ⟨other, carried⟩ := wanted
    rw [requestFor]
    split
    · next same => simp [same]
    · next away => simp [away]

/-! ### What a bank is offered -/

/-- A bank is offered the request of its holder or nothing. -/
theorem getD_offers_route :
    (x.route commands ready locks).offers.getD bank none =
      x.lanes[bank]?.bind fun a => (lane (x.targets commands locks) bank a).offer := by
  have lanes : (x.route commands ready locks).lanes =
      x.lanes.mapIdx fun bank a => lane (x.targets commands locks) bank a := rfl
  rw [Routing.offers, lanes, List.getD_eq_getElem?_getD, List.getElem?_map, List.getElem?_mapIdx]
  cases x.lanes[bank]? <;> rfl

/-- The target behind an offer is the one of the bank's holder. -/
theorem target_of_offer {stripped : BankRequest}
    (offer : (x.route commands ready locks).offers.getD bank none = some stripped) :
    ∃ master, x.holder? bank = some master ∧
      (x.targets commands locks).getD master none = some (bank, stripped) := by
  rw [getD_offers_route, Option.bind_eq_some_iff] at offer
  obtain ⟨a, found, shown⟩ := offer
  rw [lane] at shown
  dsimp only at shown
  rw [Option.ite_none_left_eq_some] at shown
  refine ⟨a.arbiter.grant, by rw [holder?, found]; rfl, ?_⟩
  exact requestFor_eq_some_iff.1 shown.2

/-- **What a bank is offered is forwarded from its holder.** The holder has a request for the bank
and is not kept by another one. -/
theorem forwards_of_offer {stripped : BankRequest}
    (offer : (x.route commands ready locks).offers.getD bank none = some stripped) :
    ∃ master request, x.Forwards commands locks bank master request ∧ master < x.masters ∧
      stripped = x.field.strip request := by
  obtain ⟨master, holds, wanted⟩ := target_of_offer offer
  rw [getD_targets, Option.ite_none_right_eq_some] at wanted
  obtain ⟨request, asks, addressed, rfl, free⟩ := target_eq_some_iff.1 wanted.2
  exact ⟨master, request, ⟨holds, asks, addressed, excluded_eq_false_iff.1 free⟩, wanted.1, rfl⟩

/-- What a master is told, from its target, the offer to the bank it is for, and whether that bank
is ready. -/
theorem getElem?_accepted_route :
    (x.route commands ready locks).accepted[master]? =
      (x.targets commands locks)[master]?.map fun target => target.any fun wanted =>
        x.holder? wanted.1 == some master &&
          ((x.route commands ready locks).offers.getD wanted.1 none).isSome &&
          ready.getD wanted.1 false := by
  have accepted : (x.route commands ready locks).accepted[master]? =
      (x.targets commands locks)[master]?.map fun target => target.any fun wanted =>
        x.holder? wanted.1 == some master &&
          (x.lanes.mapIdx fun bank a => lane (x.targets commands locks) bank a)[wanted.1]?.any
            (fun l => l.offer.isSome) && ready.getD wanted.1 false := by
    rw [route]
    exact List.getElem?_mapIdx
  have offered : ∀ bank, (x.lanes.mapIdx fun bank a =>
      lane (x.targets commands locks) bank a)[bank]?.any (fun l => l.offer.isSome) =
        ((x.route commands ready locks).offers.getD bank none).isSome := by
    intro bank
    rw [getD_offers_route, List.getElem?_mapIdx]
    cases x.lanes[bank]? <;> rfl
  simp only [accepted, offered]

/-- **When a master is told that its request was taken**: the request is offered to its bank on
behalf of the master, and the bank is ready. -/
theorem accepted_route_iff :
    (x.route commands ready locks).accepted[master]? = some true ↔
      ∃ request, commands.getD master none = some request ∧
        x.holder? (x.field.bank request.address) = some master ∧
        (x.route commands ready locks).offers.getD (x.field.bank request.address) none =
          some (x.field.strip request) ∧
        ready.getD (x.field.bank request.address) false = true := by
  rw [getElem?_accepted_route]
  constructor
  · intro told
    obtain ⟨target, found, shown⟩ := Option.map_eq_some_iff.1 told
    obtain ⟨⟨bank, stripped⟩, rfl, conditions⟩ := (Option.any_eq_true _ _).1 shown
    rw [Bool.and_eq_true, Bool.and_eq_true, beq_iff_eq] at conditions
    obtain ⟨⟨holds, someOffer⟩, isReady⟩ := conditions
    obtain ⟨carried, offer⟩ := Option.isSome_iff_exists.1 someOffer
    obtain ⟨holder, holds', wanted⟩ := target_of_offer offer
    obtain rfl : master = holder := Option.some.inj (holds.symm.trans holds')
    rw [getD_targets, Option.ite_none_right_eq_some] at wanted
    obtain ⟨request, asks, rfl, rfl, -⟩ := target_eq_some_iff.1 wanted.2
    exact ⟨request, asks, holds, offer, isReady⟩
  · rintro ⟨request, asks, holds, offer, isReady⟩
    obtain ⟨holder, holds', wanted⟩ := target_of_offer offer
    obtain rfl : master = holder := Option.some.inj (holds.symm.trans holds')
    rw [List.getD_eq_getElem?_getD] at wanted
    cases found : (x.targets commands locks)[master]? with
    | none => simp [found] at wanted
    | some target =>
      rw [found, Option.getD_some] at wanted
      rw [Option.map_some, wanted, Option.any_some, holds, offer, isReady]
      simp

/-! ### The clock edge -/

/-- The arbiter of a bank after the edge, from what happened at that bank. -/
theorem getElem?_lanes_commit (responses : List BankResponse) :
    (x.commit (x.route commands ready locks) responses).1.lanes[bank]? =
      x.lanes[bank]?.map fun a =>
        commitLane a (lane (x.targets commands locks) bank a) (locks.getD bank false)
          ((x.route commands ready locks).accepted.getD a.arbiter.grant false) := by
  have lanes : (x.commit (x.route commands ready locks) responses).1.lanes =
      mapEntries (fun a entry => commitLane a entry.1 entry.2
        ((x.route commands ready locks).accepted.getD a.arbiter.grant false))
        (⟨[], none⟩, false) x.lanes
        (mapEntries Prod.mk false (x.route commands ready locks).lanes locks) := rfl
  rw [lanes, mapEntries_eq, List.getElem?_mapIdx]
  cases found : x.lanes[bank]? with
  | none => rfl
  | some a =>
    have entry : (mapEntries Prod.mk false (x.route commands ready locks).lanes locks).getD bank
        (⟨[], none⟩, false) = (lane (x.targets commands locks) bank a, locks.getD bank false) := by
      rw [mapEntries_eq, List.getD_eq_getElem?_getD, List.getElem?_mapIdx, route]
      dsimp only
      rw [List.getElem?_mapIdx, found]
      rfl
    rw [Option.map_some, Option.map_some, entry]

/-- A bank in use does not change hands: one that is offered a request, or one that is locked. So a
request is served for the master that it was taken from. -/
theorem holder?_commit (responses : List BankResponse)
    (inUse : ((x.route commands ready locks).offers.getD bank none).isSome = true ∨
      locks[bank]? = some true) :
    (x.commit (x.route commands ready locks) responses).1.holder? bank = x.holder? bank := by
  rw [holder?, getElem?_lanes_commit, holder?]
  cases found : x.lanes[bank]? with
  | none => rfl
  | some a =>
    have held : (!(lane (x.targets commands locks) bank a).offer.isSome &&
        !locks.getD bank false) = false := by
      rcases inUse with offer | locked
      · rw [getD_offers_route, found, Option.bind_some] at offer
        rw [offer]
        rfl
      · rw [List.getD_eq_getElem?_getD, locked]
        simp
    rw [Option.map_some, Option.map_some, Option.map_some]
    simp only [commitLane, held, RoundRobin.commit]
    rfl

/-- What a clock edge leaves alone. -/
theorem fixed_commit (x : Crossbar) (r : Routing) (responses : List BankResponse) :
    (x.commit r responses).1.field = x.field ∧ (x.commit r responses).1.ports = x.ports ∧
      (x.commit r responses).1.delays.length = x.delays.length :=
  ⟨rfl, rfl, List.length_mapIdx⟩

/-- Every master is told something. -/
theorem length_accepted_route (x : Crossbar) (commands : List (Option Request))
    (ready locks : List Bool) : (x.route commands ready locks).accepted.length = x.masters := by
  rw [route]
  simp [targets]

/-- Every master has its handshakes. -/
theorem length_status_commit (delays : x.delays.length = x.masters)
    (responses : List BankResponse) :
    (x.commit (x.route commands ready locks) responses).2.length = x.masters := by
  rw [commit]
  dsimp only
  rw [List.length_mapIdx, List.length_zip, length_accepted_route, delays, Nat.min_self]

/-- A port is told what became of the request of its master, and gets what leaves the delay lines
of the master. -/
theorem status_commit_cases (delays : x.delays.length = x.masters)
    (responses : List BankResponse) (master : Nat) :
    ((x.route commands ready locks).accepted[master]? = none ∧ x.delays[master]? = none ∧
      (x.commit (x.route commands ready locks) responses).2[master]? = none) ∨
    ∃ accepted delay, (x.route commands ready locks).accepted[master]? = some accepted ∧
      x.delays[master]? = some delay ∧
      (x.commit (x.route commands ready locks) responses).2[master]? = some
        { accepted := accepted
          writeData := delay.write.output
            ((x.strobed responses BankResponse.writeData).contains master)
          readData := delay.read.output
            ((x.strobed responses BankResponse.readData).contains master) } := by
  rcases Nat.lt_or_ge master x.masters with inRange | beyond
  · right
    have told := List.getElem?_eq_getElem
      (Nat.lt_of_lt_of_eq inRange (length_accepted_route x commands ready locks).symm)
    have found := List.getElem?_eq_getElem (Nat.lt_of_lt_of_eq inRange delays.symm)
    have both : ((x.route commands ready locks).accepted.zip x.delays)[master]? =
        some (_, x.delays[master]) := List.getElem?_zip_eq_some.2 ⟨told, found⟩
    refine ⟨_, _, told, found, ?_⟩
    rw [commit]
    dsimp only
    rw [List.getElem?_mapIdx, both]
    rfl
  · left
    refine ⟨List.getElem?_eq_none ?_, List.getElem?_eq_none ?_, List.getElem?_eq_none ?_⟩
    · rwa [length_accepted_route]
    · rwa [delays]
    · rwa [length_status_commit delays]

/-- Every master is told whether its request was taken. -/
theorem getElem?_status_commit (delays : x.delays.length = x.masters)
    (responses : List BankResponse) (master : Nat) :
    (x.commit (x.route commands ready locks) responses).2[master]?.map PortStatus.accepted =
      (x.route commands ready locks).accepted[master]? := by
  rcases status_commit_cases delays responses master with
    ⟨told, -, status⟩ | ⟨accepted, delay, told, -, status⟩
  · rw [status, told]
    rfl
  · rw [status, told]
    rfl

end Crossbar

end DramScheduler
