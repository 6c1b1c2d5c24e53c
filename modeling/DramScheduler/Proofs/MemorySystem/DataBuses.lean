import DramScheduler.Proofs.Controller.BusTiming
import DramScheduler.Proofs.MemorySystem.Strobes

/-!
# The data buses have one owner

All masters share one bus for the data to be written and one for the data that was read. In a cycle
the bus for writing belongs to the master that is asked for data, the bus for reading to the one
that gets data, and the crossbar keeps note of both. Nothing arbitrates there: every master has
delay lines of its own, and that no two of them hand on a pulse in one cycle is due to the command
bus, which moves data once at most in a cycle, and to the lines of all masters being of one length.

The invariant is therefore one on all lines together. They carry the pulses of a single list, which
has for every cycle so far the master that was given the strobe, if there was one
(`Crossbar.Shared`).

## Main results

* `Controller.eq_of_strobes` — one bank at most gives a strobe in a cycle;
* `Crossbar.Shared.commit` — the lines go on to share their pulses over a clock edge;
* `Crossbar.Shared.any_strobe_iff` — the master that a pulse reaches is the one of a latency ago;
* `MemorySystem.exists_new_oneOwner` — the buses have one owner in every cycle.
-/

namespace DramScheduler

open Command

/-! ### One bank gives a strobe -/

/-- Lists that are no longer than one entry have no two different ones. -/
theorem eq_of_length_le_one {α : Type} {xs : List α} {x y : α} (short : xs.length ≤ 1)
    (first : x ∈ xs) (second : y ∈ xs) : x = y := by
  match xs, short with
  | [z], _ => rw [List.mem_singleton.1 first, List.mem_singleton.1 second]

namespace Controller

variable {c : Config} {k : Controller} {offers : List (Option BankRequest)} {bank : Nat}
  {isWrite : Bool}

/-- A bank that gives a strobe has a column command issued. -/
theorem exists_column_of_strobe (built : k.BuiltFrom c)
    (strobe : (k.step offers).2.responses[bank]?.any (BankResponse.strobe isWrite) = true) :
    ∃ command ∈ (k.step offers).2.commands.filter isColumn, command.bank? = some bank := by
  obtain ⟨response, answer, given⟩ := (Option.any_eq_true _ _).1 strobe
  cases found : k.banks[bank]? with
  | none =>
    rw [responses_step, found] at answer
    cases answer
  | some m =>
    rw [strobes_step built found, Option.some.injEq] at answer
    subst answer
    have issued : ∀ kind : Command → Bool, (∀ command, kind command → command.isColumn) →
        (k.step offers).2.commands.any (toBank bank kind) = true →
        ∃ command ∈ (k.step offers).2.commands.filter isColumn, command.bank? = some bank := by
      intro kind column shown
      obtain ⟨command, mem, own⟩ := List.any_eq_true.1 shown
      simp only [toBank, Bool.and_eq_true, beq_iff_eq] at own
      exact ⟨command, List.mem_filter.2 ⟨mem, column command own.1⟩, own.2⟩
    cases isWrite with
    | true => exact issued _ (fun command writes => by rw [isColumn, writes, Bool.or_true]) given
    | false => exact issued _ (fun command reads => by rw [isColumn, reads, Bool.true_or]) given

/-- **One bank at most gives a strobe in a cycle**, since there is one column command at most and it
is to one bank. -/
theorem eq_of_strobes (built : k.BuiltFrom c) {other : Nat}
    (first : (k.step offers).2.responses[bank]?.any (BankResponse.strobe isWrite) = true)
    (second : (k.step offers).2.responses[other]?.any (BankResponse.strobe isWrite) = true) :
    bank = other := by
  obtain ⟨command, mem, here⟩ := exists_column_of_strobe built first
  obtain ⟨command', mem', there⟩ := exists_column_of_strobe built second
  obtain rfl := eq_of_length_le_one (length_columns_le_one built offers) mem mem'
  exact Option.some.inj (here.symm.trans there)

end Controller

/-! ### The lines of all masters -/

namespace Crossbar

variable {x : Crossbar} {latency : Bool → Nat} {owners : Bool → List (Option Nat)}
  {responses : List BankResponse}

/-- The delay lines of a direction are of one length, and carry the pulses of a single list of
masters. The list has an entry for every cycle so far. -/
def Shared (x : Crossbar) (latency : Bool → Nat) (owners : Bool → List (Option Nat)) : Prop :=
  ∀ (master : Nat) (delay : StrobeDelay) (isWrite : Bool), x.delays[master]? = some delay →
    (delay.line isWrite).latency = latency isWrite ∧
      (delay.line isWrite).Carries ((owners isWrite).map (· == some master))

/-- The master that is given a strobe, if one bank at most gives it. -/
theorem contains_strobed_eq {kind : BankResponse → Bool}
    (single : ∀ bank other : Nat, responses[bank]?.any kind = true →
      responses[other]?.any kind = true → bank = other) (master : Nat) :
    (x.strobed responses kind).contains master =
      ((x.strobed responses kind).head? == some master) := by
  have same : ∀ {first second}, first ∈ x.strobed responses kind →
      second ∈ x.strobed responses kind → first = second := by
    intro first second mem mem'
    obtain ⟨bank, holds, given⟩ := mem_strobed_iff.1 mem
    obtain ⟨other, holds', given'⟩ := mem_strobed_iff.1 mem'
    rw [single bank other given given', holds', Option.some.injEq] at holds
    exact holds.symm
  rw [Bool.eq_iff_iff, List.contains_iff_mem, beq_iff_eq]
  constructor
  · intro mem
    cases front : (x.strobed responses kind).head? with
    | none => exact absurd mem (List.head?_eq_none_iff.1 front ▸ List.not_mem_nil)
    | some first => rw [same (List.mem_of_mem_head? front) mem]
  · exact List.mem_of_mem_head?

/-- **The lines go on to share their pulses over a clock edge.** The list gets the master that is
given the strobe of the cycle, and every line its part of it. -/
theorem Shared.commit (shared : x.Shared latency owners)
    (single : ∀ (isWrite : Bool) (bank other : Nat),
      responses[bank]?.any (BankResponse.strobe isWrite) = true →
      responses[other]?.any (BankResponse.strobe isWrite) = true → bank = other) (r : Routing) :
    (x.commit r responses).1.Shared latency fun isWrite =>
      owners isWrite ++ [(x.strobed responses (BankResponse.strobe isWrite)).head?] := by
  intro master delay isWrite found
  obtain ⟨before, earlier, shifted⟩ := line_commit isWrite found
  obtain ⟨length, carries⟩ := shared master before isWrite earlier
  rw [shifted, DelayLine.latency_shift, List.map_append, contains_strobed_eq (single isWrite)]
  exact ⟨length, carries.shift _⟩

/-- **The master that a pulse reaches** is the one that was given a strobe a latency ago. All lines
have the same length, so no other line hands one on in that cycle. -/
theorem Shared.any_strobe_iff (shared : x.Shared latency owners) {isWrite : Bool}
    (some_stage : 0 < latency isWrite) (delays : x.delays.length = x.masters)
    {commands : List (Option Request)} {ready locks : List Bool} {master : Nat} :
    (x.commit (x.route commands ready locks) responses).2[master]?.any
        (PortStatus.strobe isWrite) = true ↔
      master < x.masters ∧ ∃ t, t + latency isWrite = (owners isWrite).length ∧
        (owners isWrite)[t]? = some (some master) := by
  have entry : ∀ t : Nat, ((owners isWrite).map (· == some master))[t]? = some true ↔
      (owners isWrite)[t]? = some (some master) := by
    intro t
    rw [List.getElem?_map, Option.map_eq_some_iff]
    constructor
    · rintro ⟨owner, found, same⟩
      rw [found, eq_of_beq same]
    · intro found
      exact ⟨some master, found, beq_self_eq_true _⟩
  have leaves : ∀ delay : StrobeDelay, x.delays[master]? = some delay → ∀ input,
      ((delay.line isWrite).output input = true ↔
        ∃ t, t + latency isWrite = (owners isWrite).length ∧
          (owners isWrite)[t]? = some (some master)) := by
    intro delay found input
    obtain ⟨length, carries⟩ := shared master delay isWrite found
    rw [carries.output_iff (by rwa [length]), length, List.length_map]
    exact exists_congr fun t => and_congr_right fun _ => entry t
  rw [any_strobe_commit delays, Option.any_eq_true, ← delays]
  constructor
  · rintro ⟨delay, found, shown⟩
    exact ⟨(List.getElem?_eq_some_iff.1 found).1, (leaves delay found _).1 shown⟩
  · rintro ⟨inRange, due⟩
    have found := List.getElem?_eq_getElem inRange
    exact ⟨_, found, (leaves _ found _).2 due⟩

end Crossbar

/-! ### The buses -/

/-- The data buses have one owner in a cycle at most, and the crossbar knows it after the cycle. -/
structure MemorySystem.OneOwner (after : MemorySystem) (cycle : MemoryCycle) : Prop where
  /-- One master at most is asked for data. -/
  writer : (cycle.ports.filter PortStatus.writeData).length ≤ 1
  /-- One master at most gets data. -/
  reader : (cycle.ports.filter PortStatus.readData).length ≤ 1
  /-- The data to be written comes from the master that is asked for it, if there is one. -/
  writeSource : ∀ master, after.crossbar.writeSource = some master ↔
    cycle.ports[master]?.any PortStatus.writeData = true
  /-- The data that was read goes to the master that gets it, if there is one. -/
  readSink : ∀ master, after.crossbar.readSink = some master ↔
    cycle.ports[master]?.any PortStatus.readData = true

/-- A property that one entry at most has singles out that entry. -/
theorem length_filter_le_one {α : Type} {p : α → Bool} {xs : List α}
    (single : ∀ i j : Nat, xs[i]?.any p = true → xs[j]?.any p = true → i = j) :
    (xs.filter p).length ≤ 1 := by
  induction xs with
  | nil => exact Nat.zero_le 1
  | cons x rest ih =>
    cases chosen : p x with
    | false =>
      rw [List.filter_cons_of_neg (by simp [chosen])]
      exact ih fun i j first second => Nat.succ.inj (single (i + 1) (j + 1) first second)
    | true =>
      have others : rest.filter p = [] := by
        rw [List.filter_eq_nil_iff]
        intro y mem again
        obtain ⟨j, found⟩ := List.mem_iff_getElem?.1 mem
        have here : (x :: rest)[j + 1]?.any p = true := by
          rw [List.getElem?_cons_succ, found]
          exact again
        exact absurd (single 0 (j + 1) chosen here) (Nat.succ_ne_zero j).symm
      rw [List.filter_cons_of_pos chosen, others]
      exact Nat.le_refl 1

/-- The only entry with a property is the first one with it. -/
theorem findIdx?_eq_some_iff_any {α : Type} {p : α → Bool} {xs : List α}
    (single : ∀ i j : Nat, xs[i]?.any p = true → xs[j]?.any p = true → i = j) (i : Nat) :
    xs.findIdx? p = some i ↔ xs[i]?.any p = true := by
  rw [List.findIdx?_eq_some_iff_getElem]
  constructor
  · rintro ⟨inRange, chosen, -⟩
    rwa [List.getElem?_eq_getElem inRange]
  · intro chosen
    obtain ⟨x, found, here⟩ := (Option.any_eq_true _ _).1 chosen
    obtain ⟨inRange, rfl⟩ := List.getElem?_eq_some_iff.1 found
    refine ⟨inRange, here, fun j before again => ?_⟩
    have earlier : xs[j]?.any p = true := by
      rwa [List.getElem?_eq_getElem (Nat.lt_trans before inRange)]
    exact absurd (single j i earlier chosen) (Nat.ne_of_lt before)

namespace MemorySystem

variable {c : Config} {s : MemorySystem} {latency : Bool → Nat}
  {owners : Bool → List (Option Nat)}

/-- **The buses have one owner** in a cycle of a system whose lines share their pulses: the master
that the list has for the cycle a latency ago. -/
theorem oneOwner_step (shared : s.crossbar.Shared latency owners)
    (delayed : ∀ isWrite, 0 < latency isWrite) (built : s.BuiltFrom c)
    (commands : List (Option Request)) : OneOwner (s.step commands).1 (s.step commands).2 := by
  have single : ∀ (isWrite : Bool) (first second : Nat),
      (s.step commands).2.ports[first]?.any (PortStatus.strobe isWrite) = true →
      (s.step commands).2.ports[second]?.any (PortStatus.strobe isWrite) = true →
      first = second := by
    intro isWrite first second strobe strobe'
    obtain ⟨-, t, place, owner⟩ :=
      (shared.any_strobe_iff (delayed isWrite) built.delays).1 strobe
    obtain ⟨-, t', place', owner'⟩ :=
      (shared.any_strobe_iff (delayed isWrite) built.delays).1 strobe'
    obtain rfl : t = t' := by omega
    rw [owner, Option.some.injEq, Option.some.injEq] at owner'
    exact owner'
  exact
    { writer := length_filter_le_one (single true)
      reader := length_filter_le_one (single false)
      writeSource := findIdx?_eq_some_iff_any (single true)
      readSink := findIdx?_eq_some_iff_any (single false) }

/-- The lines of a system at rest share their pulses: there are none yet. -/
theorem shared_of_new {start : MemorySystem} (made : MemorySystem.new c = .ok start) :
    start.crossbar.Shared
      (fun isWrite => Word.add (if isWrite then c.phy.writeLatency else c.phy.readLatency) 1)
      fun _ => [] := by
  intro master delay isWrite found
  rw [delays_of_new made (List.mem_of_getElem? found)]
  cases isWrite <;> exact ⟨DelayLine.latency_new _, DelayLine.carries_new _⟩

/-- **The data buses never have two owners.** In every cycle of a system for an accepted
configuration with a port, whatever the masters ask for, one master at most is asked for data and
one at most gets data, and the crossbar leads the buses to these masters. -/
theorem exists_new_oneOwner (accepted : c.validate = .ok ()) (some_port : c.ports ≠ []) :
    ∃ start, MemorySystem.new c = .ok start ∧ ∀ past commands,
      OneOwner ((start.run past).1.step commands).1 ((start.run past).1.step commands).2 := by
  have a := Config.validate_eq_ok_iff.1 accepted
  obtain ⟨start, made, -, built⟩ := exists_new accepted some_port
  refine ⟨start, made, fun past commands => ?_⟩
  have delayed : ∀ latency, 0 < Word.add latency 1 := fun latency =>
    Nat.lt_min.2 ⟨Nat.succ_pos latency, by decide⟩
  obtain ⟨sound, owners, shared⟩ := run_induction (P := fun now _ => now.BuiltFrom c ∧
    ∃ owners, now.crossbar.Shared (fun isWrite =>
      Word.add (if isWrite then c.phy.writeLatency else c.phy.readLatency) 1) owners)
    (fun now _ commands ⟨sound, owners, shared⟩ => ⟨sound.step commands, _, shared.commit
      (fun _ _ _ => Controller.eq_of_strobes (sound.reached.builtFrom a)) _⟩)
    ⟨built, _, shared_of_new made⟩ past
  exact oneOwner_step shared (fun _ => delayed _) sound commands

/-- Two masters that share both buses, with reads that take longer than writes. -/
def sharedBuses : Config where
  phy := { writeLatency := 2, readLatency := 8 }
  ports := [{}, {}]

/-- With two masters each bus has one owner at a time, although the reads of one may be under way
while the other writes. -/
theorem new_oneOwner_of_two_masters :
    sharedBuses.validate = .ok () ∧ sharedBuses.ports ≠ [] ∧
      ∃ start, MemorySystem.new sharedBuses = .ok start ∧
        ∀ past commands,
          OneOwner ((start.run past).1.step commands).1 ((start.run past).1.step commands).2 :=
  ⟨by decide, by decide, exists_new_oneOwner (by decide) (by decide)⟩

end MemorySystem

end DramScheduler
