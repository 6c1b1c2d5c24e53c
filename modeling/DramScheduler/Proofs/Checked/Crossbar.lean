import DramScheduler.Proofs.Checked.Address
import DramScheduler.Proofs.Checked.Arbiter
import DramScheduler.Proofs.Crossbar.Grants
import DramScheduler.Proofs.Crossbar.Strobes

/-!
# A crossbar without faults

Going through the banks, the crossbar notes for the master that holds a bank what becomes of its
request, and later the strobes that the bank gave. Both are writes to a list with one place for each
master, at the place of the holder, so the holder has to be one of the masters
(`Crossbar.Bounded`). The order of the banks does not matter. A strobe is only ever added. And
though the answer to a request is overwritten, no master is answered twice, because its request is
for one bank.

## Main results

* `Crossbar.routeM_eq_ok` — requests are led to the banks;
* `Crossbar.commitM_eq_ok` — the clock edge.
-/

namespace DramScheduler

open Checked

/-- The addresses of the requests offered in a cycle have 64 bits. -/
def Request.Words (commands : List (Option Request)) : Prop :=
  ∀ request, some request ∈ commands → request.address < addressBound

/-- The address of a request that a master offers has 64 bits. -/
theorem Request.Words.address_lt {commands : List (Option Request)} (words : Words commands)
    {master : Nat} {request : Request} (asks : commands.getD master none = some request) :
    request.address < addressBound := by
  rw [List.getD_eq_getElem?_getD] at asks
  cases found : commands[master]? with
  | none => simp [found] at asks
  | some entry =>
    rw [found, Option.getD_some] at asks
    exact words request (List.mem_of_getElem? (asks ▸ found))

namespace Crossbar

variable {x : Crossbar} {commands : List (Option Request)} {ready locks : List Bool}
  {responses : List BankResponse} {bank master : Nat} {a : LaneArbiter}

/-! ### Routing -/

/-- Whether a master competes for a bank, worked out for each bank anew. -/
def competesM (x : Crossbar) (commands : List (Option Request)) (locks : List Bool)
    (bank master : Nat) : Checked Bool :=
  match commands.getD master none with
  | some request => do
    return (← x.field.bankM request.address) == bank && !x.masterLocked master bank locks
  | none => return false

/-- What a bank is offered, given the masters that compete for it: the request of its holder, unless
it has to yield. -/
def offerM (x : Crossbar) (commands : List (Option Request)) (requests : List Bool)
    (a : LaneArbiter) : Checked (Option BankRequest) :=
  if a.served && contended requests a.arbiter.grant || !requests.getD a.arbiter.grant false then
    return none
  else match commands.getD a.arbiter.grant none with
    | some request => return some ⟨request.isWrite, ← x.field.bankLocalM request.address⟩
    | none => return none

/-- The lane of a bank, given with its number. -/
def laneM (x : Crossbar) (commands : List (Option Request)) (locks : List Bool)
    (numbered : LaneArbiter × Nat) : Checked Lane := do
  let requests ← (List.range x.masters).mapM (x.competesM commands locks numbered.2)
  return ⟨requests, ← x.offerM commands requests numbered.1⟩

/-- The banks that are offered something, each with its arbiter and its lane. -/
def offered (x : Crossbar) (lanes : List Lane) : List ((LaneArbiter × Lane) × Nat) :=
  (x.lanes.zip lanes).zipIdx.filter fun entry => entry.1.2.offer.isSome

/-- For each master, whether its request is taken: the holders of the banks that are offered
something are told whether their bank is ready. -/
def answersM (x : Crossbar) (lanes : List Lane) (ready : List Bool) : Checked (List Bool) :=
  (x.offered lanes).foldlM
    (fun answers entry =>
      modify answers entry.1.1.arbiter.grant fun _ => ready.getD entry.2 false)
    (List.replicate x.masters false)

/-- The routing of a cycle: the lanes bank by bank, then the answers to the masters, each written at
the place of its master. -/
def routeM (x : Crossbar) (commands : List (Option Request)) (ready locks : List Bool) :
    Checked Routing := do
  let lanes ← x.lanes.zipIdx.mapM (x.laneM commands locks)
  return ⟨lanes, ← x.answersM lanes ready, locks⟩

/-- What the masters compete for, by their numbers. -/
theorem targets_eq (x : Crossbar) (commands : List (Option Request)) (locks : List Bool) :
    x.targets commands locks = (List.range x.masters).map fun master =>
      x.target (x.lockedHolders locks) master (commands.getD master none) := by
  refine List.ext_getElem? fun i => ?_
  rw [targets, mapEntries_eq, List.getElem?_mapIdx, List.getElem?_map]
  by_cases within : i < x.masters
  · rw [List.getElem?_range within]
    rfl
  · rw [List.getElem?_eq_none (by simpa using within)]
    rfl

/-- Whether a master competes for a bank is decided without faults, from the target it has. -/
theorem competesM_eq_ok (narrow : x.field.shift + x.field.bits < 64)
    (commands : List (Option Request)) (locks : List Bool) (bank master : Nat) :
    x.competesM commands locks bank master = .ok (requestFor bank
      (x.target (x.lockedHolders locks) master (commands.getD master none))).isSome := by
  rw [competesM]
  cases commands.getD master none with
  | none => rfl
  | some request =>
    dsimp only
    rw [BankField.bankM_eq_ok narrow, ok_bind, masterLocked]
    refine congrArg Except.ok (Bool.eq_iff_iff.2 ?_)
    simp only [Bool.and_eq_true, beq_iff_eq, Bool.not_eq_true', Option.isSome_iff_exists,
      requestFor_eq_some_iff, target_eq_some_iff]
    constructor
    · rintro ⟨addressed, free⟩
      exact ⟨_, request, rfl, addressed, rfl, free⟩
    · rintro ⟨_, _, same, addressed, -, free⟩
      cases same
      exact ⟨addressed, free⟩

/-- The masters that compete for a bank are found without faults. -/
theorem competing_eq_ok (narrow : x.field.shift + x.field.bits < 64)
    (commands : List (Option Request)) (locks : List Bool) (bank : Nat) :
    (List.range x.masters).mapM (x.competesM commands locks bank) =
      .ok ((x.targets commands locks).map fun target => (requestFor bank target).isSome) := by
  rw [targets_eq, List.map_map]
  exact mapM_eq_ok fun master _ => competesM_eq_ok narrow commands locks bank master

/-- A master competes for a bank if its target has a request for it, and masters without a target do
not. -/
theorem getD_competing (targets : List (Option (Nat × BankRequest))) (bank master : Nat) :
    (targets.map fun target => (requestFor bank target).isSome).getD master false =
      (requestFor bank (targets.getD master none)).isSome := by
  rw [List.getD_eq_getElem?_getD, List.getD_eq_getElem?_getD, List.getElem?_map]
  cases targets[master]? <;> rfl

/-- What a bank is offered is worked out without faults, from addresses of 64 bits. -/
theorem offerM_eq_ok (narrow : x.field.shift + x.field.bits < 64)
    (words : Request.Words commands) (locks : List Bool) (bank : Nat) (a : LaneArbiter) :
    x.offerM commands
        ((x.targets commands locks).map fun target => (requestFor bank target).isSome) a =
      .ok (lane (x.targets commands locks) bank a).offer := by
  rw [offerM, getD_competing, lane]
  dsimp only
  cases wanted : requestFor bank ((x.targets commands locks).getD a.arbiter.grant none) with
  | none =>
    rw [Option.isSome_none, Bool.not_false, Bool.or_true, if_pos rfl, ite_self]
    rfl
  | some stripped =>
    have target := requestFor_eq_some_iff.1 wanted
    rw [getD_targets, Option.ite_none_right_eq_some] at target
    obtain ⟨request, asks, -, rfl, -⟩ := target_eq_some_iff.1 target.2
    rw [Option.isSome_some, Bool.not_true, Bool.or_false, asks]
    dsimp only
    rw [BankField.bankLocalM_eq_ok narrow (words.address_lt asks)]
    split <;> rfl

/-- The lane of a bank is worked out without faults. -/
theorem laneM_eq_ok (narrow : x.field.shift + x.field.bits < 64)
    (words : Request.Words commands) (locks : List Bool) (bank : Nat) (a : LaneArbiter) :
    x.laneM commands locks (a, bank) = .ok (lane (x.targets commands locks) bank a) := by
  rw [laneM, competing_eq_ok narrow, ok_bind, offerM_eq_ok narrow words]
  rfl

/-- A bank is offered something if its lane says so. -/
theorem mem_offered_iff {lanes : List Lane} {entry : (LaneArbiter × Lane) × Nat} :
    entry ∈ x.offered lanes ↔
      x.lanes[entry.2]? = some entry.1.1 ∧ lanes[entry.2]? = some entry.1.2 ∧
        entry.1.2.offer.isSome = true := by
  rw [offered, List.mem_filter, List.mem_zipIdx_iff_getElem?, List.getElem?_zip_eq_some, and_assoc]

/-- The lanes of a routing, by number of the bank. -/
theorem getElem?_lanes_route (x : Crossbar) (commands : List (Option Request))
    (ready locks : List Bool) (bank : Nat) :
    (x.route commands ready locks).lanes[bank]? =
      x.lanes[bank]?.map fun a => lane (x.targets commands locks) bank a :=
  List.getElem?_mapIdx

/-- A master is answered by the bank that it competes for. -/
theorem answers_iff :
    (∃ entry ∈ x.offered (x.route commands ready locks).lanes,
        entry.1.1.arbiter.grant = master ∧ entry.2 = bank) ↔
      x.holder? bank = some master ∧
        ((x.route commands ready locks).offers.getD bank none).isSome = true := by
  rw [getD_offers_route, holder?]
  constructor
  · rintro ⟨entry, mem, rfl, rfl⟩
    obtain ⟨held, shown, offer⟩ := mem_offered_iff.1 mem
    rw [getElem?_lanes_route, held, Option.map_some, Option.some.injEq] at shown
    rw [held]
    exact ⟨rfl, by rw [Option.bind_some, shown]; exact offer⟩
  · rintro ⟨holds, offer⟩
    obtain ⟨a, held, rfl⟩ := Option.map_eq_some_iff.1 holds
    rw [held, Option.bind_some] at offer
    refine ⟨((a, lane (x.targets commands locks) bank a), bank),
      mem_offered_iff.2 ⟨held, ?_, offer⟩, rfl, rfl⟩
    rw [getElem?_lanes_route, held]
    rfl

/-- The offers that a master is answered for: those to the banks that it holds. -/
def answering (x : Crossbar) (lanes : List Lane) (master : Nat) :
    List ((LaneArbiter × Lane) × Nat) :=
  (x.offered lanes).filter fun entry => entry.1.1.arbiter.grant == master

/-- Of the banks that are offered something, a master is answered for those that it holds. -/
theorem mem_answering_iff {lanes : List Lane} {entry : (LaneArbiter × Lane) × Nat} :
    entry ∈ x.answering lanes master ↔
      entry ∈ x.offered lanes ∧ entry.1.1.arbiter.grant = master := by
  rw [answering, List.mem_filter, beq_iff_eq]

/-- A master is answered by the bank of its request, so it has one. -/
theorem target_of_mem_answering {entry : (LaneArbiter × Lane) × Nat}
    (mem : entry ∈ x.answering (x.route commands ready locks).lanes master) :
    ∃ stripped, (x.targets commands locks).getD master none = some (entry.2, stripped) := by
  obtain ⟨mem, own⟩ := mem_answering_iff.1 mem
  obtain ⟨holds, offer⟩ := answers_iff.1 ⟨entry, mem, own, rfl⟩
  obtain ⟨stripped, offer⟩ := Option.isSome_iff_exists.1 offer
  obtain ⟨holder, holds', target⟩ := target_of_offer offer
  obtain rfl : master = holder := Option.some.inj (holds.symm.trans holds')
  exact ⟨stripped, target⟩

/-- All the banks that answer a master are the one that it competes for. -/
theorem bank_of_mem_answering {wanted : Nat × BankRequest}
    (target : (x.targets commands locks).getD master none = some wanted)
    {entry : (LaneArbiter × Lane) × Nat}
    (mem : entry ∈ x.answering (x.route commands ready locks).lanes master) :
    entry.2 = wanted.1 := by
  obtain ⟨stripped, same⟩ := target_of_mem_answering mem
  rw [target] at same
  cases same
  rfl

/-- A master is answered if it holds the bank of its request and the bank is offered it. -/
theorem not_isEmpty_answering {wanted : Nat × BankRequest}
    (target : (x.targets commands locks).getD master none = some wanted) :
    (!(x.answering (x.route commands ready locks).lanes master).isEmpty) =
      (x.holder? wanted.1 == some master &&
        ((x.route commands ready locks).offers.getD wanted.1 none).isSome) := by
  rw [Bool.eq_iff_iff, Bool.not_eq_true', List.isEmpty_eq_false_iff_exists_mem,
    Bool.and_eq_true, beq_iff_eq, ← answers_iff]
  constructor
  · rintro ⟨entry, mem⟩
    obtain ⟨among, own⟩ := mem_answering_iff.1 mem
    exact ⟨entry, among, own, bank_of_mem_answering target mem⟩
  · rintro ⟨entry, among, own, -⟩
    exact ⟨entry, mem_answering_iff.2 ⟨among, own⟩⟩

/-- What is left at the place of a master when every bank has answered. Only the bank of its request
can have written there. -/
theorem answer_eq (x : Crossbar) (commands : List (Option Request)) (ready locks : List Bool)
    (master : Nat) :
    (x.answering (x.route commands ready locks).lanes master).foldl
        (fun _ entry => ready.getD entry.2 false) false =
      ((x.targets commands locks).getD master none).any fun wanted =>
        x.holder? wanted.1 == some master &&
          ((x.route commands ready locks).offers.getD wanted.1 none).isSome &&
          ready.getD wanted.1 false := by
  cases target : (x.targets commands locks).getD master none with
  | none =>
    have unanswered : x.answering (x.route commands ready locks).lanes master = [] := by
      refine List.eq_nil_iff_forall_not_mem.2 fun entry mem => ?_
      obtain ⟨stripped, wanted⟩ := target_of_mem_answering mem
      rw [target] at wanted
      cases wanted
    rw [unanswered]
    rfl
  | some wanted =>
    have agree : ∀ entry ∈ x.answering (x.route commands ready locks).lanes master,
        ready.getD entry.2 false = ready.getD wanted.1 false :=
      fun entry mem => by rw [bank_of_mem_answering target mem]
    rw [foldl_eq_of_agree agree, Option.any_some, ← not_isEmpty_answering target]
    cases List.isEmpty _ <;> rfl

/-- **The answers written to the holders are those of the routing**, in whatever order the banks
write them. -/
theorem answers_eq (x : Crossbar) (commands : List (Option Request)) (ready locks : List Bool) :
    (x.offered (x.route commands ready locks).lanes).foldl
        (fun answers entry =>
          answers.modify entry.1.1.arbiter.grant fun _ => ready.getD entry.2 false)
        (List.replicate x.masters false) =
      (x.route commands ready locks).accepted := by
  refine List.ext_getElem? fun master => ?_
  rw [getElem?_foldl_modify (fun entry : (LaneArbiter × Lane) × Nat => entry.1.1.arbiter.grant)
    (fun entry _ => ready.getD entry.2 false), getElem?_accepted_route, List.getElem?_replicate]
  have targets : (x.targets commands locks)[master]? = if master < x.masters then
      some ((x.targets commands locks).getD master none) else none := by
    rw [targets_eq, List.getD_eq_getElem?_getD, List.getElem?_map]
    by_cases within : master < x.masters
    · rw [if_pos within, List.getElem?_range within]
      rfl
    · rw [if_neg within, List.getElem?_eq_none (by simpa using within)]
      rfl
  rw [targets]
  split
  · exact congrArg some (answer_eq x commands ready locks master)
  · rfl

/-- The answers are written without faults: every holder is a master and has a place. -/
theorem answersM_eq_ok (bounded : x.Bounded) (commands : List (Option Request))
    (ready locks : List Bool) :
    x.answersM (x.route commands ready locks).lanes ready =
      .ok (x.route commands ready locks).accepted := by
  rw [← answers_eq]
  refine foldlM_eq_ok (P := fun answers => answers.length = x.masters) ?_ List.length_replicate
  intro answers kept entry mem
  have held := (bounded _ (List.mem_of_getElem? (mem_offered_iff.1 mem).1)).grant_lt
  exact ⟨modify_eq_ok (kept ▸ held) _, (List.length_modify _ _ _).trans kept⟩

/-- **Requests are led to the banks** without faults, and the answers are those that the routing
says. -/
theorem routeM_eq_ok (bounded : x.Bounded) (narrow : x.field.shift + x.field.bits < 64)
    (words : Request.Words commands) (ready locks : List Bool) :
    x.routeM commands ready locks = .ok (x.route commands ready locks) := by
  have lanes : x.lanes.zipIdx.mapM (x.laneM commands locks) =
      .ok (x.route commands ready locks).lanes :=
    mapM_zipIdx_eq_ok fun bank a _ => laneM_eq_ok narrow words locks bank a
  rw [routeM, lanes, ok_bind, answersM_eq_ok bounded]
  rfl

/-! ### The clock edge -/

/-- For each master, whether one of its banks gave a strobe. Marks are only ever added. -/
def marksM (x : Crossbar) (responses : List BankResponse) (kind : BankResponse → Bool) :
    Checked (List Bool) :=
  (x.lanes.zipIdx.filter fun entry => entry.1.arbiter.grant < x.masters).foldlM
    (fun marks entry => modify marks entry.1.arbiter.grant
      (· || kind (responses.getD entry.2 .silent)))
    (List.replicate x.masters false)

/-- What a port is told in a cycle, and the delay lines of its master after the edge. -/
def statusM (x : Crossbar) (writes reads : List Bool) (numbered : Bool × Nat) :
    Checked (PortStatus × StrobeDelay) := do
  let delay ← get x.delays numbered.2
  let write ← get writes numbered.2
  let read ← get reads numbered.2
  return (⟨numbered.1, delay.write.output write, delay.read.output read⟩,
    ⟨delay.write.shift write, delay.read.shift read⟩)

/-- The edge at one bank's arbiter, given with the number of the bank. -/
def commitLaneM (r : Routing) (numbered : LaneArbiter × Nat) : Checked LaneArbiter := do
  let lane := r.lanes.getD numbered.2 ⟨[], none⟩
  let accepted := r.accepted.getD numbered.1.arbiter.grant false
  let arbiter ← numbered.1.arbiter.commitM
    (!lane.offer.isSome && !r.locks.getD numbered.2 false) lane.requests
  return {
    arbiter := arbiter
    served := arbiter.grant == numbered.1.arbiter.grant &&
      (numbered.1.served || (lane.offer.isSome && accepted)) }

/-- One clock edge: the marks of both kinds, the masters in turn, and then the arbiters. A mark is
set under the number of a master, which has to exist. -/
def commitM (x : Crossbar) (r : Routing) (responses : List BankResponse) :
    Checked (Crossbar × List PortStatus) := do
  let writes ← x.marksM responses BankResponse.writeData
  let reads ← x.marksM responses BankResponse.readData
  let moved ← r.accepted.zipIdx.mapM (x.statusM writes reads)
  let lanes ← x.lanes.zipIdx.mapM (commitLaneM r)
  return ({ x with
    lanes := lanes
    delays := moved.map Prod.snd ++ x.delays.drop moved.length
    writeSource := (moved.map Prod.fst).findIdx? PortStatus.writeData
    readSink := (moved.map Prod.fst).findIdx? PortStatus.readData }, moved.map Prod.fst)

/-- A bank without a response gives no strobe. -/
theorem getD_response {kind : BankResponse → Bool} (silent : kind .silent = false)
    (responses : List BankResponse) (bank : Nat) :
    kind (responses.getD bank .silent) = responses[bank]?.any kind := by
  rw [List.getD_eq_getElem?_getD]
  cases responses[bank]? with
  | none => exact silent
  | some response => rfl

/-- A master is marked if one of its banks gave a strobe. -/
theorem any_marks_eq (within : master < x.masters) (responses : List BankResponse)
    {kind : BankResponse → Bool} (silent : kind .silent = false) :
    ((x.lanes.zipIdx.filter fun entry => entry.1.arbiter.grant < x.masters).filter fun entry =>
        entry.1.arbiter.grant == master).any (fun entry => kind (responses.getD entry.2 .silent)) =
      (x.strobed responses kind).contains master := by
  rw [Bool.eq_iff_iff, List.contains_iff_mem, mem_strobed_iff, List.any_eq_true]
  simp only [List.mem_filter, List.mem_zipIdx_iff_getElem?, beq_iff_eq, decide_eq_true_eq]
  constructor
  · rintro ⟨entry, ⟨⟨held, -⟩, rfl⟩, given⟩
    exact ⟨entry.2, by rw [holder?, held]; rfl, getD_response silent responses _ ▸ given⟩
  · rintro ⟨bank, holds, given⟩
    obtain ⟨a, held, rfl⟩ := Option.map_eq_some_iff.1 holds
    exact ⟨(a, bank), ⟨⟨held, within⟩, rfl⟩, (getD_response silent responses bank).trans given⟩

/-- The strobes are marked without faults, and at the masters that hold their banks. -/
theorem marksM_eq_ok (x : Crossbar) (responses : List BankResponse) {kind : BankResponse → Bool}
    (silent : kind .silent = false) :
    x.marksM responses kind =
      .ok ((List.range x.masters).map (x.strobed responses kind).contains) := by
  have marked : (x.lanes.zipIdx.filter fun entry => entry.1.arbiter.grant < x.masters).foldl
      (fun marks entry => marks.modify entry.1.arbiter.grant
        (· || kind (responses.getD entry.2 .silent))) (List.replicate x.masters false) =
      (List.range x.masters).map (x.strobed responses kind).contains := by
    refine List.ext_getElem? fun master => ?_
    rw [getElem?_foldl_modify (fun entry : LaneArbiter × Nat => entry.1.arbiter.grant)
      (fun entry => (· || kind (responses.getD entry.2 .silent))), List.getElem?_replicate,
      List.getElem?_map]
    by_cases within : master < x.masters
    · rw [if_pos within, List.getElem?_range within, Option.map_some, foldl_or,
        any_marks_eq within responses silent]
      rfl
    · rw [if_neg within, List.getElem?_eq_none (by simpa using within)]
      rfl
  rw [← marked]
  refine foldlM_eq_ok (P := fun marks => marks.length = x.masters) ?_ List.length_replicate
  intro marks kept entry mem
  have within := of_decide_eq_true (List.mem_filter.1 mem).2
  exact ⟨modify_eq_ok (kept ▸ within) _, (List.length_modify _ _ _).trans kept⟩

/-- What a port is told, and the delay lines of its master after the edge. -/
def moved (x : Crossbar) (responses : List BankResponse) (master : Nat) (accepted : Bool) :
    PortStatus × StrobeDelay :=
  let delay := x.delays.getD master default
  let write := (x.strobed responses BankResponse.writeData).contains master
  let read := (x.strobed responses BankResponse.readData).contains master
  (⟨accepted, delay.write.output write, delay.read.output read⟩,
    ⟨delay.write.shift write, delay.read.shift read⟩)

/-- What a port is told is worked out without faults: every master has delay lines. -/
theorem statusM_eq_ok (delays : x.delays.length = x.masters) (within : master < x.masters)
    (responses : List BankResponse) (accepted : Bool) :
    x.statusM ((List.range x.masters).map (x.strobed responses BankResponse.writeData).contains)
        ((List.range x.masters).map (x.strobed responses BankResponse.readData).contains)
        (accepted, master) =
      .ok (x.moved responses master accepted) := by
  have marks (kind : BankResponse → Bool) :
      get ((List.range x.masters).map (x.strobed responses kind).contains) master =
        .ok ((x.strobed responses kind).contains master) := by
    refine get_eq_ok ?_
    rw [List.getElem?_map, List.getElem?_range within]
    rfl
  have delay : get x.delays master = .ok (x.delays.getD master default) := by
    refine get_eq_ok ?_
    rw [List.getD_eq_getElem?_getD, List.getElem?_eq_getElem (delays ▸ within)]
    rfl
  rw [statusM, delay, ok_bind, marks, ok_bind, marks]
  rfl

/-- Port by port, this is what the clock edge shows and where it leaves the delay lines. -/
theorem map_moved (delays : x.delays.length = x.masters) (commands : List (Option Request))
    (ready locks : List Bool) (responses : List BankResponse) :
    ((x.route commands ready locks).accepted.mapIdx (x.moved responses)).map Prod.fst =
        (x.commit (x.route commands ready locks) responses).2 ∧
      ((x.route commands ready locks).accepted.mapIdx (x.moved responses)).map Prod.snd =
        (x.commit (x.route commands ready locks) responses).1.delays := by
  constructor
  · refine List.ext_getElem? fun master => ?_
    rw [List.getElem?_map, List.getElem?_mapIdx]
    rcases @status_commit_cases x commands ready locks delays responses master with
      ⟨told, -, status⟩ | ⟨accepted, delay, told, found, status⟩
    · rw [told, status]
      rfl
    · rw [told, status, Option.map_some, Option.map_some, moved, List.getD_eq_getElem?_getD, found]
      rfl
  · refine List.ext_getElem? fun master => ?_
    rw [List.getElem?_map, List.getElem?_mapIdx, getElem?_delays_commit]
    rcases @status_commit_cases x commands ready locks delays responses master with
      ⟨told, found, -⟩ | ⟨accepted, delay, told, found, -⟩
    · rw [told, found]
      rfl
    · rw [told, found, Option.map_some, Option.map_some, moved, List.getD_eq_getElem?_getD, found]
      rfl

/-- The arbiters of a cycle after its edge are worked out without faults. -/
theorem commitLaneM_eq_ok (bounded : x.Bounded) (addressable : x.masters ≤ 2 ^ 63)
    (commands : List (Option Request)) (ready locks : List Bool) (responses : List BankResponse) :
    x.lanes.zipIdx.mapM (commitLaneM (x.route commands ready locks)) =
      .ok (x.commit (x.route commands ready locks) responses).1.lanes := by
  have lanes : (x.commit (x.route commands ready locks) responses).1.lanes =
      mapEntries (fun a entry => commitLane a entry.1 entry.2
        ((x.route commands ready locks).accepted.getD a.arbiter.grant false))
        (⟨[], none⟩, false) x.lanes
        (mapEntries Prod.mk false (x.route commands ready locks).lanes locks) := rfl
  rw [lanes, mapEntries_eq]
  refine mapM_zipIdx_eq_ok fun bank a held => ?_
  have made : (x.route commands ready locks).lanes[bank]? =
      some (lane (x.targets commands locks) bank a) := by
    rw [getElem?_lanes_route, held]
    rfl
  have entry : (mapEntries Prod.mk false (x.route commands ready locks).lanes locks).getD bank
      (⟨[], none⟩, false) = (lane (x.targets commands locks) bank a, locks.getD bank false) := by
    rw [mapEntries_eq, List.getD_eq_getElem?_getD, List.getElem?_mapIdx, made]
    rfl
  obtain ⟨within, size⟩ := bounded a (List.mem_of_getElem? held)
  have shown : (x.route commands ready locks).lanes.getD bank ⟨[], none⟩ =
      lane (x.targets commands locks) bank a := by
    rw [List.getD_eq_getElem?_getD, made, Option.getD_some]
  rw [entry, commitLaneM]
  dsimp only
  rw [shown, RoundRobin.commitM_eq_ok (size ▸ within) (size ▸ addressable)]
  rfl

/-- **The clock edge of the crossbar** has no faults: every bank is held by a master, and every
master has its delay lines. -/
theorem commitM_eq_ok (bounded : x.Bounded) (addressable : x.masters ≤ 2 ^ 63)
    (delays : x.delays.length = x.masters) (commands : List (Option Request))
    (ready locks : List Bool) (responses : List BankResponse) :
    x.commitM (x.route commands ready locks) responses =
      .ok (x.commit (x.route commands ready locks) responses) := by
  have moves : (x.route commands ready locks).accepted.zipIdx.mapM
      (x.statusM ((List.range x.masters).map (x.strobed responses BankResponse.writeData).contains)
        ((List.range x.masters).map (x.strobed responses BankResponse.readData).contains)) =
      .ok ((x.route commands ready locks).accepted.mapIdx (x.moved responses)) := by
    refine mapM_zipIdx_eq_ok fun master accepted told => ?_
    have within := (List.getElem?_eq_some_iff.1 told).1
    rw [length_accepted_route] at within
    exact statusM_eq_ok delays within responses accepted
  obtain ⟨status, lines⟩ := map_moved delays commands ready locks responses
  have none_left : x.delays.drop ((x.route commands ready locks).accepted.mapIdx
      (x.moved responses)).length = [] := by
    rw [List.length_mapIdx, length_accepted_route, ← delays, List.drop_length]
  rw [commitM, marksM_eq_ok x responses rfl, ok_bind, marksM_eq_ok x responses rfl, ok_bind, moves,
    ok_bind, commitLaneM_eq_ok bounded addressable commands ready locks responses, ok_bind,
    none_left, List.append_nil, status, lines]
  rfl

end Crossbar

end DramScheduler
