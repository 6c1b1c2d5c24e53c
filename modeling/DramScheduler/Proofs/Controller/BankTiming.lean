import DramScheduler.Proofs.Bank.Guards
import DramScheduler.Proofs.Refresh.Round

/-!
# The commands of a bank keep their distances

What the memory asks of the commands to a single bank, over whole runs and across any number
of refresh rounds. Distances are counted in cycles between commands on the bus, apart from one:
a column command that closes its row is followed by a precharge that is no command, and an
activate keeps its distance from the cycle in which this precharge begins.

Three kinds of registers take part: the countdowns of the bank's machine, the state in which
the machine waits for a row to be closed, and the cycle count of the refresher.

## Main results

* `Trace.KeepsBankTiming` — the distances, as the memory sees them;
* `Controller.KeepsBankTiming.step` — a cycle keeps them;
* `Controller.exists_new_keepsBankTiming` — every run keeps them.
-/

namespace DramScheduler

open Command

/-- The commands to a bank keep their distances, those of refresh rounds included where they reach
the bank. -/
structure Trace.KeepsBankTiming (T : Trace) (c : Config) (bank : Nat) : Prop where
  /-- No two commands in a cycle concern the bank. -/
  alone : ∀ t, ((T.commandsAt t).filter (reaching bank fun _ => true)).length ≤ 1
  /-- Data moves some time after the row was opened. -/
  activateToColumn : T.Apart (toBank bank isActivate) (toBank bank isColumn) c.timing.tRCD
  /-- Rows are not opened too soon after another. -/
  activateToActivate :
    T.Apart (toBank bank isActivate) (toBank bank isActivate) (c.timing.tRC.getD 0)
  /-- A row is open for some time. -/
  activateToPrecharge :
    T.Apart (toBank bank isActivate) (toBank bank isPrecharge) (c.timing.tRAS.getD 0)
  /-- Written data reaches the array before the row is closed. -/
  writeToPrecharge : T.Apart (toBank bank isWrite) (toBank bank isPrecharge) c.writeToPrecharge
  /-- A row is opened some time after the bank was precharged, alone or with all others. -/
  prechargeToActivate :
    T.Apart (reaching bank isPrecharge) (toBank bank isActivate) c.timing.tRP
  /-- A row is opened some time after the precharge that ends a column command. -/
  closingToActivate : ∀ s t, s < t → T.At (toBank bank autoPrecharge) s →
    T.At (toBank bank isActivate) t → T.closingTime c bank s + c.timing.tRP ≤ t

/-! ### The countdowns behind the commands -/

namespace BankMachine.Offers

variable {m : BankMachine} {refreshRequest : Bool} {command : Command}

/-- A column command is offered once the row has been open for long enough. -/
theorem rowToColumn_ready (offers : m.Offers refreshRequest command)
    (kind : command.isColumn = true) : m.rowToColumn.ready := by
  cases offers with
  | column _ _ spaced => exact spaced
  | close => cases kind
  | openRow => cases kind

/-- The row is closed once written data has reached the array and the row has been open for
long enough. -/
theorem precharge_ready (offers : m.Offers refreshRequest command)
    (kind : command.isPrecharge = true) : m.writeToPrecharge.ready ∧ m.rowActive.ready := by
  cases offers with
  | column => simp at kind
  | close _ spaced =>
    rw [mayPrecharge, Bool.and_eq_true] at spaced
    exact spaced
  | openRow => cases kind

/-- A row is opened once the bank has been precharged for long enough and the row before has
had its time. -/
theorem activate_ready (offers : m.Offers refreshRequest command)
    (kind : command.isActivate = true) :
    m.state = .activate ∧ m.rowCycle.ready ∧ m.rowPrecharge.ready := by
  cases offers with
  | column => simp at kind
  | close => cases kind
  | openRow state _ cycled closed => exact ⟨state, cycled, closed⟩

end BankMachine.Offers

/-- A precharge that reaches a bank is one of the bank or one of all banks. -/
theorem Trace.at_reaching_isPrecharge {T : Trace} {bank s : Nat}
    (h : T.At (reaching bank isPrecharge) s) :
    T.At (toBank bank isPrecharge) s ∨ T.At prechargesAll s := by
  rw [At, List.any_eq_true] at h
  obtain ⟨command, mem, reaches⟩ := h
  simp only [reaching, Bool.and_eq_true] at reaches
  cases addressed : command.bank? with
  | none =>
    right
    exact List.any_eq_true.2 ⟨command, mem, by simp [prechargesAll, reaches.1, addressed]⟩
  | some other =>
    left
    have here : other = bank := by simpa [addressed] using reaches.2
    exact List.any_eq_true.2 ⟨command, mem, by simp [toBank, reaches.1, addressed, here]⟩

namespace Controller

variable {c : Config} {k : Controller} {T : Trace} {bank : Nat}
  {offers : List (Option BankRequest)}

/-! ### One cycle -/

/-- A command to a bank is issued by its machine. -/
theorem issues_of_any_toBank (built : k.BuiltFrom c) {kind : Command → Bool}
    (h : (k.step offers).2.commands.any (toBank bank kind) = true) :
    ∃ (m : BankMachine) (command : Command), k.banks[bank]? = some m ∧
      k.issues bank = some command ∧ m.Offers k.refreshRequest command ∧ kind command = true := by
  rw [any_toBank, bank_commands_step built] at h
  cases issued : k.issues bank with
  | none =>
    rw [issued] at h
    cases h
  | some command =>
    cases found : k.banks[bank]? with
    | none => simp [issues, found] at issued
    | some m =>
      refine ⟨m, command, rfl, rfl, offers_of_issues found issued, ?_⟩
      simpa [issued] using h

/-- A distance is kept over a cycle if a countdown of the bank's machine guards the earlier commands
and has to be ready for the later ones. All distances between two commands of the machine itself are
instances of it. -/
theorem apart_step {earlier later : Command → Bool} {gap : Nat}
    (apart : T.Apart (toBank bank earlier) (toBank bank later) gap) (built : k.BuiltFrom c)
    (countdown : BankMachine → Spacing)
    (guards : ∀ m : BankMachine, k.banks[bank]? = some m →
      (countdown m).Guards T (toBank m.index earlier) ∧ (countdown m).spacing = gap)
    (ready : ∀ (m : BankMachine) (command : Command), m.Offers k.refreshRequest command →
      later command = true → (countdown m).ready)
    (offers : List (Option BankRequest)) :
    Trace.Apart (T ++ [(k.step offers).2.commands]) (toBank bank earlier) (toBank bank later)
      gap := by
  refine apart.concat fun now s before => ?_
  obtain ⟨m, command, found, -, offered, kind⟩ := issues_of_any_toBank built now
  obtain ⟨guard, rfl⟩ := guards m found
  rw [← (built.bank bank m found).index] at before
  exact guard.of_ready (ready m command offered kind) before

/-- A precharge of all banks is issued in the first cycle of a round and in no other cycle, since no
machine issues one. -/
theorem sequence_of_any_prechargesAll (built : k.BuiltFrom c)
    (h : (k.step offers).2.commands.any prechargesAll = true) :
    ∃ calibrate, k.refresher.state = .sequence 1 calibrate := by
  obtain ⟨command, mem, all⟩ := List.any_eq_true.1 h
  by_cases state : k.bus.state = .refresh
  · rcases command_of_refresh built state mem with ⟨first, -⟩ | rfl | rfl
    · exact first
    · cases all
    · cases all
  · have single := isSome_bank?_of_mem_commands built state mem
    rw [prechargesAll, Bool.and_eq_true, Option.isNone_iff_eq_none] at all
    rw [all.2] at single
    cases single

/-- No two commands in a cycle concern a bank. Outside rounds its machine issues one at most, and in
a round the refresher does. -/
theorem length_reaching_le_one (built : k.BuiltFrom c) (bank : Nat)
    (offers : List (Option BankRequest)) :
    ((k.step offers).2.commands.filter (reaching bank fun _ => true)).length ≤ 1 := by
  by_cases state : k.bus.state = .refresh
  · exact Nat.le_trans (List.length_filter_le _ _) (length_commands_of_refresh built state offers)
  · have own : (k.step offers).2.commands.filter (reaching bank fun _ => true) =
        (k.issues bank).toList := by
      rw [← bank_commands_step built offers]
      refine List.filter_congr fun command mem => ?_
      obtain ⟨other, addressed⟩ :=
        Option.isSome_iff_exists.1 (isSome_bank?_of_mem_commands built state mem)
      simp [reaching, addressed]
    rw [own]
    exact Option.length_toList_le

/-- An activate comes after the precharge before it, whichever kind that was: the countdown of the
machine covers its own precharges, and a round was long enough for those of all banks. -/
theorem prechargeToActivate_step (kept : T.KeepsBankTiming c bank) (built : k.BuiltFrom c)
    (hand : k.Handover) (paced : k.refresher.Paced T)
    (guarded : ∀ (i : Nat) (m : BankMachine), k.banks[i]? = some m → m.Guarded c T)
    (offers : List (Option BankRequest)) :
    Trace.Apart (T ++ [(k.step offers).2.commands]) (reaching bank isPrecharge)
      (toBank bank isActivate) c.timing.tRP := by
  refine kept.prechargeToActivate.concat fun now s before => ?_
  obtain ⟨m, command, found, issued, offered, kind⟩ := issues_of_any_toBank built now
  have own := built.bank bank m found
  rcases Trace.at_reaching_isPrecharge before with single | all
  · rw [← own.index] at single
    rw [← own.rowPrecharge]
    exact (guarded bank m found).rowPrecharge.of_ready (offered.activate_ready kind).2.2 single
  · -- a bank issues nothing during a round, so the round of that precharge is over
    have resting : ∀ elapsed calibrate, k.refresher.state ≠ .sequence elapsed calibrate := by
      intro elapsed calibrate running
      rw [issues_of_refresh built (hand.holds elapsed calibrate running)] at issued
      cases issued
    have settled := paced.settled resting s all
    rwa [built.timeline] at settled

/-- An activate comes after the precharge at the end of a column command. The machine waits for that
precharge in a state of its own, and arms its countdown as it leaves the state. -/
theorem closingToActivate_step (kept : T.KeepsBankTiming c bank) (built : k.BuiltFrom c)
    (guarded : ∀ (i : Nat) (m : BankMachine), k.banks[i]? = some m → m.Guarded c T)
    (offers : List (Option BankRequest)) {s t : Nat} (order : s < t)
    (closes : Trace.At (T ++ [(k.step offers).2.commands]) (toBank bank autoPrecharge) s)
    (opens : Trace.At (T ++ [(k.step offers).2.commands]) (toBank bank isActivate) t) :
    Trace.closingTime (T ++ [(k.step offers).2.commands]) c bank s + c.timing.tRP ≤ t := by
  obtain ⟨before, opened⟩ := Trace.at_concat_pair order closes opens
  rw [Trace.closingTime_concat _ _ _ _ (Trace.lt_length_of_at before)]
  rcases opened with earlier | ⟨rfl, now⟩
  · exact kept.closingToActivate s t order before earlier
  · obtain ⟨m, command, found, -, offered, kind⟩ := issues_of_any_toBank built now
    have own := built.bank bank m found
    obtain ⟨state, -, spaced⟩ := offered.activate_ready kind
    rw [← own.index] at before
    rcases (guarded bank m found).closing s before with waiting | covered
    · rw [state] at waiting
      cases waiting
    · have elapsed : m.rowPrecharge.remaining = 0 := eq_of_beq spaced
      rwa [own.index, own.rowPrecharge, elapsed] at covered

/-- **A cycle keeps the distances.** Those between commands of the machine come from its countdowns,
and the two that take more than a countdown have their own lemmas above. -/
theorem KeepsBankTiming.step (kept : T.KeepsBankTiming c bank) (built : k.BuiltFrom c)
    (hand : k.Handover) (paced : k.refresher.Paced T)
    (guarded : ∀ (i : Nat) (m : BankMachine), k.banks[i]? = some m → m.Guarded c T)
    (offers : List (Option BankRequest)) :
    Trace.KeepsBankTiming (T ++ [(k.step offers).2.commands]) c bank where
  alone := by
    intro t
    rw [Trace.commandsAt_concat]
    split
    · exact length_reaching_le_one built bank offers
    · exact kept.alone t
  activateToColumn :=
    apart_step kept.activateToColumn built BankMachine.rowToColumn
      (fun m found => ⟨(guarded bank m found).rowToColumn, (built.bank bank m found).rowToColumn⟩)
      (fun _ _ offered kind => offered.rowToColumn_ready kind) offers
  activateToActivate :=
    apart_step kept.activateToActivate built BankMachine.rowCycle
      (fun m found => ⟨(guarded bank m found).rowCycle, (built.bank bank m found).rowCycle⟩)
      (fun _ _ offered kind => (offered.activate_ready kind).2.1) offers
  activateToPrecharge :=
    apart_step kept.activateToPrecharge built BankMachine.rowActive
      (fun m found => ⟨(guarded bank m found).rowActive, (built.bank bank m found).rowActive⟩)
      (fun _ _ offered kind => (offered.precharge_ready kind).2) offers
  writeToPrecharge :=
    apart_step kept.writeToPrecharge built BankMachine.writeToPrecharge
      (fun m found =>
        ⟨(guarded bank m found).writeToPrecharge, (built.bank bank m found).writeToPrecharge⟩)
      (fun _ _ offered kind => (offered.precharge_ready kind).1) offers
  prechargeToActivate := prechargeToActivate_step kept built hand paced guarded offers
  closingToActivate _ _ order closes opens :=
    closingToActivate_step kept built guarded offers order closes opens

/-! ### Runs -/

/-- The registers behind the distances are right, and so are the distances. Only together are they
kept by a cycle. -/
structure Timed (c : Config) (k : Controller) (T : Trace) : Prop where
  /-- The countdowns guard the commands of their banks. -/
  guarded : ∀ (i : Nat) (m : BankMachine), k.banks[i]? = some m → m.Guarded c T
  /-- The refresher knows how long ago all banks were precharged. -/
  paced : k.refresher.Paced T
  /-- The commands to every bank keep their distances. -/
  kept : ∀ bank, T.KeepsBankTiming c bank

/-- Nothing has been issued at first, so the registers have nothing to remember. -/
theorem timed_build (c : Config) : Timed c (build c) [] where
  guarded _ m _ := m.guarded_nil c
  paced := Refresher.paced_nil _
  kept _ :=
    { alone := fun _ => Nat.zero_le 1
      activateToColumn := Trace.apart_nil _ _ _
      activateToActivate := Trace.apart_nil _ _ _
      activateToPrecharge := Trace.apart_nil _ _ _
      writeToPrecharge := Trace.apart_nil _ _ _
      prechargeToActivate := Trace.apart_nil _ _ _
      closingToActivate := fun _ _ _ h _ => absurd h Trace.not_at_nil }

/-- A cycle keeps the registers right, and with them the distances. What else it takes holds in
every reachable controller. -/
theorem Timed.step (a : c.Accepted) (reached : Reachable c k) (timed : Timed c k T)
    (offers : List (Option BankRequest)) :
    Timed c (k.step offers).1 (T ++ [(k.step offers).2.commands]) where
  guarded := by
    intro i m found
    have built := reached.builtFrom a
    obtain ⟨before, earlier, rfl⟩ := exists_of_banks_step found
    have own := built.bank i before earlier
    refine (timed.guarded i before earlier).commit own ?_ _
    rw [own.index, bank_commands_step built, issues, earlier]
    rfl
  paced := by
    have built := reached.builtFrom a
    rw [refresher_step]
    refine timed.paced.commit reached.handover.idle_of_disabled ?_
      (sequence_of_any_prechargesAll built) _
    intro on calibrate
    rw [built.enabled] at on
    rw [built.timeline]
    exact Refresher.add_two_le_length a on calibrate
  kept bank :=
    KeepsBankTiming.step (timed.kept bank) (reached.builtFrom a) reached.handover timed.paced
      timed.guarded offers

/-- **The distances of every bank are kept.** A controller for an accepted configuration keeps
them over every run, whatever is offered to it and however often it refreshes. -/
theorem exists_new_keepsBankTiming (accepted : c.validate = .ok ()) :
    ∃ start, Controller.new c = .ok start ∧
      ∀ past bank, Trace.KeepsBankTiming (start.trace past) c bank := by
  have a := Config.validate_eq_ok_iff.1 accepted
  refine ⟨build c, new_of_accepted accepted, ?_⟩
  intro past bank
  rw [trace_eq_map_history]
  refine (run_induction (P := fun k seen => Timed c k (seen.map fun cycle => cycle.2.commands))
    (timed_build c) ?_ past).2.kept bank
  intro now seen offers reached timed
  rw [List.map_append]
  exact timed.step a reached offers

/-- Both optional distances of a bank are asked for, and the rounds are made of two refreshes, with
a calibration after every third. -/
def allBankTimings : Config where
  timing := { tRC := some 9, tRAS := some 6, tZQCS := some 12 }
  settings := { postponing := 2, zqcsInterval := some 3 }

/-- Every optional distance may be asked for, and rounds of several refreshes that end with a
calibration as well. -/
theorem new_keepsBankTiming_of_all_timings :
    allBankTimings.validate = .ok () ∧
      ∃ start, Controller.new allBankTimings = .ok start ∧
        ∀ past bank, Trace.KeepsBankTiming (start.trace past) allBankTimings bank :=
  ⟨by decide, exists_new_keepsBankTiming (by decide)⟩

end Controller

end DramScheduler
