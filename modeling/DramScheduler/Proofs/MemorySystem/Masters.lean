import DramScheduler.Proofs.MemorySystem.Cycle

/-!
# Masters are served in order

A master may have requests under way in one bank at a time: while one of its banks is in use,
the crossbar keeps the master away from all others, and it takes no bank from its holder before
the bank has run dry. So the banks, each of which serves in order and none of which knows of the
others, serve every master in order as well.

The proof runs a `Ledger` beside the system. Its waiting accesses are the queues of the banks,
its served ones are the bursts on the bus, and each cycle takes accesses and serves one at most.

## Main results

* `MemorySystem.Orderly.step` — a cycle can be entered in the ledger;
* `MemorySystem.exists_new_keepsMasters` — every run keeps masters apart and in order.
-/

namespace DramScheduler

/-- A burst serves an access, at the location that the address of the request is mapped to. -/
def Burst.Fulfils (c : Config) (a : Access) (burst : Burst) : Prop :=
  burst.Moves a.request.isWrite (c.addressMap.decode a.request.address)

namespace MemorySystem

open Access

variable {c : Config} {s : MemorySystem} {l : Ledger}
  {seen : List (List (Option Request) × MemoryCycle)}

/-- The parts of a system that its configuration fixes, in every state that a run leads to. -/
structure BuiltFrom (c : Config) (s : MemorySystem) : Prop where
  /-- The controller is one that a run leads to. -/
  reached : Controller.Reachable c s.controller
  /-- The crossbar finds the bank of an address as the address map does. -/
  field : s.crossbar.field = c.bankField
  /-- There is a master for every port. -/
  masters : s.crossbar.masters = c.ports.length
  /-- Strobes are led to every master. -/
  delays : s.crossbar.delays.length = s.crossbar.masters

/-- A cycle keeps what the system was built from. -/
theorem BuiltFrom.step (built : s.BuiltFrom c) (commands : List (Option Request)) :
    BuiltFrom c (s.step commands).1 := by
  obtain ⟨field, ports, delays⟩ := s.crossbar.fixed_commit (s.route commands)
    (s.controller.step (s.route commands).offers).2.responses
  refine ⟨built.reached.step _, ?_, ?_, ?_⟩
  · rw [crossbar_step, field, built.field]
  · rw [crossbar_step, Crossbar.masters, ports]
    exact built.masters
  · rw [crossbar_step, delays, Crossbar.masters, ports]
    exact built.delays

/-- What a cycle of a system serves: the given access, which is one of the holder of its bank, or
none. -/
structure Serves (c : Config) (s : MemorySystem) (commands : List (Option Request))
    (now : Option Access) : Prop where
  /-- The access is the one that the burst of the cycle serves. -/
  fulfilled : List.Forall₂ (Burst.Fulfils c) now.toList
    (s.controller.openRows.bursts (s.step commands).2.controller.commands)
  /-- The access is in front of the queue of its bank. -/
  front : ∀ a ∈ now, ∃ rest, s.controller.queued (c.bankField.bank a.request.address) =
    c.bankField.strip a.request :: rest
  /-- It is one of the master that holds the bank. -/
  held : ∀ a ∈ now, s.crossbar.holder? (c.bankField.bank a.request.address) = some a.master

/-- A ledger describes a system after a run: its three lists are what the masters were told, what
the memory was sent and what the banks have in their queues. -/
structure Orderly (c : Config) (s : MemorySystem)
    (seen : List (List (Option Request) × MemoryCycle)) (l : Ledger) : Prop where
  /-- The accesses taken are those that the masters were told of. -/
  taken : l.taken = seen.flatMap fun cycle => cycle.2.accesses cycle.1
  /-- Nothing is out of order. -/
  balanced : l.Balanced c.bankField
  /-- The accesses that wait are in the queues of the banks. -/
  queued : ∀ bank,
    (l.waiting bank).map (fun a => c.bankField.strip a.request) = s.controller.queued bank
  /-- They come from the masters that hold the banks. -/
  held : ∀ bank, ∀ a ∈ l.waiting bank, s.crossbar.holder? bank = some a.master
  /-- The memory has the rows that the machines have. -/
  rows : OpenRows.allClosed.replay (seen.flatMap fun cycle => cycle.2.controller.commands) =
    s.controller.openRows
  /-- The accesses served are the bursts on the bus. -/
  served : List.Forall₂ (Burst.Fulfils c) l.served
    (OpenRows.allClosed.bursts (seen.flatMap fun cycle => cycle.2.controller.commands))

/-! ### What a ledger tells -/

/-- The accesses that wait for a bank are the queue of its machine. -/
theorem Orderly.map_waiting (orderly : Orderly c s seen l) {bank : Nat} {m : BankMachine}
    (found : s.controller.banks[bank]? = some m) :
    (l.waiting bank).map (fun a => c.bankField.strip a.request) = m.queue.toList := by
  rw [orderly.queued, Controller.queued, found]
  rfl

/-- An access waits for every bank whose machine has requests. -/
theorem Orderly.exists_mem_waiting (orderly : Orderly c s seen l) {bank : Nat} {m : BankMachine}
    (found : s.controller.banks[bank]? = some m) (busy : m.queue.isEmpty = false) :
    ∃ a, a ∈ l.waiting bank := by
  refine List.exists_mem_of_ne_nil _ fun dry => ?_
  have queue := orderly.map_waiting found
  rw [dry] at queue
  rw [RequestQueue.isEmpty, Bool.not_eq_false', RequestQueue.pending_iff] at busy
  exact busy queue.symm

/-- Banks with requests are held by different masters. -/
theorem Orderly.holder_ne (orderly : Orderly c s seen l) {first second : Nat}
    {m m' : BankMachine} (away : first ≠ second)
    (found : s.controller.banks[first]? = some m) (found' : s.controller.banks[second]? = some m')
    (busy : m.queue.isEmpty = false) (busy' : m'.queue.isEmpty = false) :
    s.crossbar.holder? first ≠ s.crossbar.holder? second := by
  intro same
  obtain ⟨x, mem⟩ := orderly.exists_mem_waiting found busy
  obtain ⟨y, mem'⟩ := orderly.exists_mem_waiting found' busy'
  rw [orderly.held first x mem, orderly.held second y mem', Option.some.injEq] at same
  exact away (orderly.balanced.bank_unique mem mem' same)

/-- Only accesses of masters with a port are served. -/
theorem Orderly.master_lt (orderly : Orderly c s seen l) {n : Nat}
    (ports : ∀ cycle ∈ seen, cycle.2.ports.length = n) {a : Access} (mem : a ∈ l.served) :
    a.master < n := by
  have among : a ∈ l.served.filter (isBy a.master) := List.mem_filter.2 ⟨mem, isBy_iff.2 rfl⟩
  have taken : a ∈ l.taken :=
    (List.mem_filter.1 ((orderly.balanced.served_prefix a.master).subset among)).1
  rw [orderly.taken, List.mem_flatMap] at taken
  obtain ⟨cycle, during, shown⟩ := taken
  rw [← ports cycle during]
  exact MemoryCycle.master_lt_of_mem_accesses shown

/-! ### One cycle -/

/-- The accesses of a cycle may be taken: a master with one of them holds no other bank in use, so
nothing of it waits elsewhere. -/
theorem Orderly.take (orderly : Orderly c s seen l) (built : s.BuiltFrom c)
    (commands : List (Option Request)) :
    (l.take c.bankField ((s.step commands).2.accesses commands)).Balanced c.bankField := by
  refine orderly.balanced.take (MemoryCycle.length_accesses_isBy _ _) ?_
  intro a mem other away
  rw [List.filter_eq_nil_iff]
  intro earlier waits same
  have holds := orderly.held other earlier waits
  rw [isBy_iff.1 same] at holds
  rw [← built.field] at away
  have dry := free_of_mem_accesses built.delays mem away holds
  rw [← orderly.queued, List.map_eq_nil_iff] at dry
  rw [dry] at waits
  cases waits

/-- A bank with accesses does not change hands, whether they are new or were there before. -/
theorem Orderly.held_take (orderly : Orderly c s seen l) (built : s.BuiltFrom c)
    (commands : List (Option Request)) {bank : Nat} {a : Access}
    (mem : a ∈ (l.take c.bankField ((s.step commands).2.accesses commands)).waiting bank) :
    (s.step commands).1.crossbar.holder? bank = some a.master := by
  rw [crossbar_step, route]
  rw [Ledger.take, List.mem_append] at mem
  rcases mem with waits | new
  · have busy : s.controller.queued bank ≠ [] := by
      rw [← orderly.queued]
      exact List.map_eq_nil_iff.not.2 (List.ne_nil_of_mem waits)
    rw [Crossbar.holder?_commit _ (.inr (locked_of_queued busy))]
    exact orderly.held bank a waits
  · obtain ⟨now, here⟩ := List.mem_filter.1 new
    obtain ⟨-, holds, offer, -⟩ := (mem_accesses_step_iff built.delays).1 now
    rw [built.field, isFor_iff.1 here] at holds offer
    have offered : ((s.route commands).offers.getD bank none).isSome = true := by
      rw [offer]
      rfl
    rw [Crossbar.holder?_commit _ (.inl offered)]
    exact holds

/-- The new accesses of a bank are what the bank took. -/
theorem map_waiting_take (orderly : Orderly c s seen l) (built : s.BuiltFrom c)
    (commands : List (Option Request)) (bank : Nat) :
    ((l.take c.bankField ((s.step commands).2.accesses commands)).waiting bank).map
        (fun a => c.bankField.strip a.request) =
      s.controller.queued bank ++
        (s.controller.takes (s.route commands).offers bank).toList := by
  have new := accesses_isFor_step built.delays commands bank
  rw [built.field] at new
  rw [Ledger.take, List.map_append, orderly.queued, new]

/-- The access in front of a queue that is not empty was taken in an earlier cycle, from the master
that holds the bank. -/
theorem Orderly.holder?_of_front (orderly : Orderly c s seen l)
    (commands : List (Option Request)) {bank : Nat} {request : BankRequest}
    {rest : List BankRequest} {oldest : Access} {later : List Access}
    (front : s.controller.queued bank = request :: rest)
    (waits : (l.take c.bankField ((s.step commands).2.accesses commands)).waiting bank =
      oldest :: later) : s.crossbar.holder? bank = some oldest.master := by
  have before := orderly.queued bank
  rw [front] at before
  obtain ⟨first, others, already, -, -⟩ := List.map_eq_cons_iff.1 before
  have same : first :: (others ++ ((s.step commands).2.accesses commands).filter
      (isFor c.bankField bank)) = oldest :: later := by
    rw [← List.cons_append, ← already]
    exact waits
  obtain rfl := (List.cons.inj same).1
  exact orderly.held bank first (by rw [already]; exact List.mem_cons_self)

/-- A new cycle leaves the memory with the rows of the machines, and its bursts come after those of
the cycles before it. -/
theorem Orderly.issued_concat (orderly : Orderly c s seen l) (built : s.BuiltFrom c)
    (inside : s.controller.BuiltFrom c) (commands : List (Option Request)) :
    OpenRows.allClosed.replay ((seen ++ [(commands, (s.step commands).2)]).flatMap fun cycle =>
        cycle.2.controller.commands) = (s.step commands).1.controller.openRows ∧
      OpenRows.allClosed.bursts ((seen ++ [(commands, (s.step commands).2)]).flatMap fun cycle =>
          cycle.2.controller.commands) =
        OpenRows.allClosed.bursts (seen.flatMap fun cycle => cycle.2.controller.commands) ++
          s.controller.openRows.bursts (s.step commands).2.controller.commands := by
  have issued : ((seen ++ [(commands, (s.step commands).2)]).flatMap fun cycle =>
      cycle.2.controller.commands) = (seen.flatMap fun cycle => cycle.2.controller.commands) ++
        (s.step commands).2.controller.commands := by
    rw [List.flatMap_append, List.flatMap_singleton]
  rw [issued]
  constructor
  · rw [OpenRows.replay_append, orderly.rows, cycle_step, controller_step,
      Controller.openRows_step inside built.reached.handover]
  · rw [OpenRows.bursts_append, orderly.rows]

/-- The accesses taken go on to be those that the masters were told of. -/
theorem Orderly.taken_concat (orderly : Orderly c s seen l) (commands : List (Option Request)) :
    (l.take c.bankField ((s.step commands).2.accesses commands)).taken =
      (seen ++ [(commands, (s.step commands).2)]).flatMap fun cycle =>
        cycle.2.accesses cycle.1 := by
  rw [Ledger.take, orderly.taken, List.flatMap_append, List.flatMap_singleton]

/-- A cycle without a burst only takes accesses. -/
theorem Orderly.step_of_quiet (orderly : Orderly c s seen l) (built : s.BuiltFrom c)
    (inside : s.controller.BuiltFrom c) (commands : List (Option Request))
    (quiet : s.controller.openRows.bursts (s.step commands).2.controller.commands = [])
    (queued : ∀ bank, (s.step commands).1.controller.queued bank =
      s.controller.queued bank ++ (s.controller.takes (s.route commands).offers bank).toList) :
    Orderly c (s.step commands).1 (seen ++ [(commands, (s.step commands).2)])
      (l.take c.bankField ((s.step commands).2.accesses commands)) := by
  obtain ⟨rows, bursts⟩ := orderly.issued_concat built inside commands
  constructor
  case taken => exact orderly.taken_concat commands
  case balanced => exact orderly.take built commands
  case queued =>
    intro bank
    rw [map_waiting_take orderly built commands, queued]
  case held => exact fun bank a mem => orderly.held_take built commands mem
  case rows => exact rows
  case served =>
    rw [bursts, quiet, List.append_nil]
    exact orderly.served

/-- A cycle with a burst takes accesses and serves the oldest one of the bank that the burst is
of. -/
theorem Orderly.step_of_burst (orderly : Orderly c s seen l) (built : s.BuiltFrom c)
    (inside : s.controller.BuiltFrom c) (commands : List (Option Request)) {bank : Nat}
    {oldest : Access} {later : List Access} {burst : Burst}
    (waits : (l.take c.bankField ((s.step commands).2.accesses commands)).waiting bank =
      oldest :: later)
    (now : s.controller.openRows.bursts (s.step commands).2.controller.commands = [burst])
    (fulfils : burst.Fulfils c oldest)
    (remain : later.map (fun a => c.bankField.strip a.request) =
      (s.step commands).1.controller.queued bank)
    (others : ∀ other, other ≠ bank → (s.step commands).1.controller.queued other =
      s.controller.queued other ++ (s.controller.takes (s.route commands).offers other).toList) :
    Orderly c (s.step commands).1 (seen ++ [(commands, (s.step commands).2)])
      ((l.take c.bankField ((s.step commands).2.accesses commands)).serve bank oldest later) := by
  obtain ⟨rows, bursts⟩ := orderly.issued_concat built inside commands
  constructor
  case taken => exact orderly.taken_concat commands
  case balanced => exact (orderly.take built commands).serve waits
  case queued =>
    intro other
    by_cases here : other = bank
    · rw [here, Ledger.waiting_serve_self, remain]
    · rw [Ledger.waiting_serve_of_ne here, map_waiting_take orderly built commands,
        others other here]
  case held =>
    intro other a mem
    by_cases here : other = bank
    · rw [here, Ledger.waiting_serve_self] at mem
      rw [here]
      exact orderly.held_take built commands (by rw [waits]; exact List.mem_cons_of_mem _ mem)
    · rw [Ledger.waiting_serve_of_ne here] at mem
      exact orderly.held_take built commands mem
  case rows => exact rows
  case served =>
    rw [bursts, now]
    exact List.rel_append orderly.served (.cons fulfils .nil)

/-- **A cycle can be entered in the ledger**, with the access that it serves. There is a burst or
there is none, and each case has its own lemma above. -/
theorem Orderly.step (a : c.Accepted) (orderly : Orderly c s seen l) (built : s.BuiltFrom c)
    (commands : List (Option Request)) :
    ∃ l' now, Orderly c (s.step commands).1 (seen ++ [(commands, (s.step commands).2)]) l' ∧
      l'.served = l.served ++ now.toList ∧ s.Serves c commands now := by
  have inside := built.reached.builtFrom a
  rcases Controller.serve_cases inside (s.route commands).offers with
    ⟨quiet, queued⟩ | ⟨burst, bank, request, rest, now, front, after, serves, others⟩
  · refine ⟨_, none, orderly.step_of_quiet built inside commands quiet queued,
      (List.append_nil _).symm, ?_, nofun, nofun⟩
    rw [cycle_step, quiet]
    exact .nil
  · have queue := map_waiting_take orderly built commands bank
    rw [front, List.cons_append] at queue
    obtain ⟨oldest, later, waits, rfl, remain⟩ := List.map_eq_cons_iff.1 queue
    have home : c.bankField.bank oldest.request.address = bank :=
      (orderly.take built commands).bank_eq (by rw [waits]; exact List.mem_cons_self)
    have fulfils : burst.Fulfils c oldest := by
      rw [← home] at serves
      exact serves
    refine ⟨_, some oldest, orderly.step_of_burst built inside commands waits now fulfils
      (remain.trans after.symm) others, rfl, ?_, ?_, ?_⟩
    · rw [cycle_step, now]
      exact .cons fulfils .nil
    · rintro a ⟨⟩
      rw [home]
      exact ⟨rest, front⟩
    · rintro a ⟨⟩
      rw [home]
      exact orderly.holder?_of_front commands front waits

/-! ### Runs -/

/-- The ports of an accepted configuration can be built. -/
theorem exists_ports {native : Nat} {ports : List PortConfig}
    (convertible : ∀ port ∈ ports, PortConfig.convertible (port.dataWidth.getD native) native)
    (first : Nat) : ∃ built, Port.ofConfigs native first ports = .ok built ∧
      built.length = ports.length := by
  induction ports generalizing first with
  | nil => exact ⟨[], rfl, rfl⟩
  | cons port rest ih =>
    obtain ⟨others, later, number⟩ := ih (fun other mem => convertible other (by simp [mem]))
      (first + 1)
    have width : port.validate native = .ok (port.dataWidth.getD native) :=
      if_pos (convertible port List.mem_cons_self)
    obtain ⟨built, made⟩ : ∃ built, Port.new first port native = .ok built := by
      rw [Port.new, width]
      exact ⟨_, rfl⟩
    refine ⟨built :: others, ?_, by rw [List.length_cons, List.length_cons, number]⟩
    exact bind_eq_ok_iff.2 ⟨built, made, bind_eq_ok_iff.2 ⟨others, later, rfl⟩⟩

/-- A system for an accepted configuration with a port can be built, and it is at rest. -/
theorem exists_new (accepted : c.validate = .ok ()) (some_port : c.ports ≠ []) :
    ∃ start, MemorySystem.new c = .ok start ∧ start.controller = Controller.build c ∧
      start.BuiltFrom c := by
  have a := Config.validate_eq_ok_iff.1 accepted
  obtain ⟨ports, made, number⟩ := exists_ports a.ports 0
  have present : ports.isEmpty = false := by
    cases ports with
    | nil => exact absurd (List.eq_nil_of_length_eq_zero number.symm) some_port
    | cons => rfl
  obtain ⟨x, crossbar, field, given, delays⟩ : ∃ x, Crossbar.new c ports = .ok x ∧
      x.field = c.bankField ∧ x.ports = ports ∧ x.delays.length = ports.length := by
    rw [Crossbar.new, present]
    exact ⟨_, rfl, rfl, rfl, List.length_replicate⟩
  refine ⟨⟨Controller.build c, x⟩, ?_, rfl, .build, field, ?_, ?_⟩
  · exact bind_eq_ok_iff.2 ⟨_, Controller.new_of_accepted accepted,
      bind_eq_ok_iff.2 ⟨ports, made, bind_eq_ok_iff.2 ⟨x, crossbar, rfl⟩⟩⟩
  · rw [Crossbar.masters, given, number]
  · rw [Crossbar.masters, given, delays]

/-- The empty ledger describes a system at rest. -/
theorem orderly_empty (rest : s.controller = Controller.build c) :
    Orderly c s [] .empty where
  taken := rfl
  balanced := Ledger.balanced_empty _
  queued bank := by rw [rest, Controller.queued_build]; rfl
  held _ _ mem := absurd mem List.not_mem_nil
  rows := by rw [rest]; exact (Controller.openRows_build c).symm
  served := .nil

/-- After every run there is a ledger that describes the system. Induction on the run, entering
cycle after cycle. -/
theorem exists_orderly (a : c.Accepted) (rest : s.controller = Controller.build c)
    (built : s.BuiltFrom c) (past : List (List (Option Request))) :
    (s.run past).1.BuiltFrom c ∧ ∃ l, Orderly c (s.run past).1 (s.history past) l := by
  refine run_induction (P := fun now seen => now.BuiltFrom c ∧ ∃ l, Orderly c now seen l) ?_
    ⟨built, .empty, orderly_empty rest⟩ past
  rintro now seen commands ⟨sound, l, orderly⟩
  obtain ⟨l', -, after, -, -⟩ := orderly.step a sound commands
  exact ⟨sound.step commands, l', after⟩

/-- Masters keep to one bank at a time, are told what was taken, and are served in order, over every
run and whatever they ask for. -/
structure KeepsMasters (start : MemorySystem) (c : Config) : Prop where
  /-- Banks with requests are held by different masters. -/
  exclusive : ∀ (past : List (List (Option Request))) (first second : Nat) (m m' : BankMachine),
    first ≠ second → (start.run past).1.controller.banks[first]? = some m →
    (start.run past).1.controller.banks[second]? = some m' →
    m.queue.isEmpty = false → m'.queue.isEmpty = false →
    (start.run past).1.crossbar.holder? first ≠ (start.run past).1.crossbar.holder? second
  /-- Every port has its handshakes. -/
  ports : ∀ (past : List (List (Option Request))) (commands : List (Option Request)),
    ((start.run past).1.step commands).2.ports.length = c.ports.length
  /-- A master is told that its request was taken exactly if the controller took the request,
  offered on behalf of this master, into the bank that its address is mapped to. -/
  answered : ∀ (past : List (List (Option Request))) (commands : List (Option Request))
    (master : Nat),
    ((start.run past).1.step commands).2.ports[master]?.map PortStatus.accepted = some true ↔
      ∃ request, commands.getD master none = some request ∧
        (start.run past).1.crossbar.holder? (c.addressMap.decode request.address).bank =
          some master ∧
        ((start.run past).1.route commands).offers.getD
          (c.addressMap.decode request.address).bank none = some (c.bankField.strip request) ∧
        ((start.run past).1.step commands).2.controller.accepted[
          (c.addressMap.decode request.address).bank]? = some true
  /-- The accesses that were taken are those served and those in the queues. Each bank holds
  accesses of its holder only, and the accesses of every master are served in the order in which
  they were taken, by bursts at the locations that their addresses are mapped to. -/
  inOrder : ∀ past : List (List (Option Request)), ∃ (served : List Access)
    (waiting : Nat → List Access),
    List.Forall₂ (Burst.Fulfils c) served (OpenRows.allClosed.bursts (start.issued past)) ∧
    (∀ (bank : Nat) (m : BankMachine),
      (start.run past).1.controller.banks[bank]? = some m →
      (start.accesses past).filter (isFor c.bankField bank) =
        served.filter (isFor c.bankField bank) ++ waiting bank ∧
      (waiting bank).map (fun a => c.bankField.strip a.request) = m.queue.toList ∧
      ∀ a ∈ waiting bank, (start.run past).1.crossbar.holder? bank = some a.master) ∧
    ∀ master, served.filter (isBy master) <+: (start.accesses past).filter (isBy master)

/-- **Masters are kept apart and in order.** A system for an accepted configuration with a port
gives every master one bank at a time, takes what it says it takes, and serves the accesses of a
master in the order in which it took them, whatever the masters ask for. -/
theorem exists_new_keepsMasters (accepted : c.validate = .ok ()) (some_port : c.ports ≠ []) :
    ∃ start, MemorySystem.new c = .ok start ∧ start.KeepsMasters c := by
  have a := Config.validate_eq_ok_iff.1 accepted
  obtain ⟨start, made, rest, built⟩ := exists_new accepted some_port
  refine ⟨start, made, ?_, ?_, ?_, ?_⟩
  · intro past first second m m' away found found' busy busy'
    obtain ⟨-, l, orderly⟩ := exists_orderly a rest built past
    exact orderly.holder_ne away found found' busy busy'
  · intro past commands
    obtain ⟨sound, -⟩ := exists_orderly a rest built past
    rw [← sound.masters]
    exact Crossbar.length_status_commit sound.delays _
  · intro past commands master
    obtain ⟨sound, -⟩ := exists_orderly a rest built past
    rw [status_step_iff sound.delays, sound.field]
    refine exists_congr fun request => and_congr_right fun _ => and_congr_right fun _ =>
      and_congr_right fun offer => ?_
    exact (Controller.accepted_step_iff offer).symm
  · intro past
    obtain ⟨-, l, orderly⟩ := exists_orderly a rest built past
    have taken : start.accesses past = l.taken := orderly.taken.symm
    refine ⟨l.served, l.waiting, orderly.served, ?_, ?_⟩
    · intro bank m found
      rw [taken]
      exact ⟨orderly.balanced.byBank bank, orderly.map_waiting found, orderly.held bank⟩
    · intro master
      rw [taken]
      exact orderly.balanced.served_prefix master

/-- Two masters, the second of them with half the width of a controller word. -/
def twoWidths : Config where
  ports := [{}, { dataWidth := some 32 }]

/-- Masters need not be as wide as the controller, nor as wide as each other. -/
theorem new_keepsMasters_of_two_ports :
    twoWidths.validate = .ok () ∧ twoWidths.ports ≠ [] ∧
      ∃ start, MemorySystem.new twoWidths = .ok start ∧ start.KeepsMasters twoWidths :=
  ⟨by decide, by decide, exists_new_keepsMasters (by decide) (by decide)⟩

end MemorySystem

end DramScheduler
