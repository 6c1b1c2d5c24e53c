import DramScheduler.Proofs.Controller.BankTiming
import DramScheduler.Proofs.Controller.Exclusion
import DramScheduler.Proofs.Refresh.Course

/-!
# The commands of refresh rounds keep their distances

What the memory asks of precharges of all banks, refreshes and calibrations, over whole runs: they
come some time after every bank was precharged, and no row is opened before they are over.

Nothing checks these distances when a round is played. Three machines see to them together: the
bank machines grant the bus only once their precharges are over, the refresher plays its timeline
without a look at the trace, and the bus is not handed back before the round is as long as all that
is in it.

## Main results

* `Trace.KeepsRefreshTiming` — the distances, as the memory sees them;
* `Controller.rested_of_goToRefresh` — everything is over when the bus is handed over;
* `Controller.RefreshTimed.over_of_last` — everything is over when it is handed back;
* `Controller.exists_new_keepsRefreshTiming` — every run keeps the distances.
-/

namespace DramScheduler

open Command

/-! ### The distances -/

/-- Commands of a kind keep their distance from the precharges that end column commands. Such a
precharge is not on the bus, so its time is worked out from the trace. -/
def Trace.ClosingApart (T : Trace) (c : Config) (later : Command → Bool) (gap : Nat) : Prop :=
  ∀ bank s t, s < t → T.At (toBank bank autoPrecharge) s → T.At later t →
    T.closingTime c bank s + gap ≤ t

/-- The commands of refresh rounds keep their distances, from what came before the round, from each
other, and from what comes after it. -/
structure Trace.KeepsRefreshTiming (T : Trace) (c : Config) : Prop where
  /-- A command that concerns the whole memory is the only one in its cycle. -/
  alone : ∀ t, T.At isMaintenance t → (T.commandsAt t).length = 1
  /-- All banks are precharged some time after each of them was. -/
  prechargeToPrecharge : T.Apart isPrecharge prechargesAll c.timing.tRP
  /-- The same goes for the precharge that ends a column command. -/
  closingToPrecharge : T.ClosingApart c prechargesAll c.timing.tRP
  /-- Banks are refreshed some time after they were precharged, alone or all at once. -/
  prechargeToRefresh : T.Apart isPrecharge isRefresh c.timing.tRP
  /-- The same goes for the precharge that ends a column command. -/
  closingToRefresh : T.ClosingApart c isRefresh c.timing.tRP
  /-- A refresh takes its time before the next one. -/
  refreshToRefresh : T.Apart isRefresh isRefresh c.timing.tRFC
  /-- The last refresh is over before the calibration begins. -/
  refreshToCalibrate : T.Apart isRefresh isCalibrate c.timing.tRFC
  /-- No row is opened before the refresh is over. -/
  refreshToActivate : T.Apart isRefresh isActivate c.timing.tRFC
  /-- No row is opened before the calibration is over. -/
  calibrateToActivate : T.Apart isCalibrate isActivate (c.timing.tZQCS.getD 0)

/-- The distance is kept as long as every new command keeps it. -/
theorem Trace.ClosingApart.concat {T : Trace} {c : Config} {later : Command → Bool} {gap : Nat}
    (apart : T.ClosingApart c later gap) {commands : List Command}
    (keeps : commands.any later = true → ∀ bank s, T.At (toBank bank autoPrecharge) s →
      T.closingTime c bank s + gap ≤ T.length) :
    Trace.ClosingApart (T ++ [commands]) c later gap := by
  intro bank s t order closes issued
  obtain ⟨before, earlier | ⟨rfl, now⟩⟩ := at_concat_pair order closes issued
  · rw [closingTime_concat _ _ _ _ (lt_length_of_at before)]
    exact apart bank s t order before earlier
  · rw [closingTime_concat _ _ _ _ (lt_length_of_at before)]
    exact keeps now bank s before

/-- A refresher that has the bus and is not at the end of a round is in one after the edge. -/
theorem Refresher.sequence_of_granted {r : Refresher} (on : r.enabled ≠ false)
    (busy : r.state ≠ .idle) (more : r.evaluate.last = false) :
    ∃ elapsed calibrate, (r.commit true).state = .sequence elapsed calibrate := by
  rw [state_commit, if_pos (by simpa using on), nextState]
  cases state : r.state with
  | idle => exact absurd state busy
  | waitGrant => exact ⟨1, r.calibrationDue, rfl⟩
  | sequence elapsed calibrate =>
    rw [evaluate, state] at more
    exact ⟨elapsed + 1, calibrate, if_neg (by simpa using more)⟩

namespace Controller

variable {c : Config} {k : Controller} {T : Trace} {offers : List (Option BankRequest)}

/-! ### The bus is handed over -/

/-- A bank at rest offers nothing: it has no row open and is not about to open one. -/
theorem not_offers_of_grantsRefresh {m : BankMachine} {request : Bool} {command : Command}
    (rest : m.grantsRefresh = true) : ¬ m.Offers request command := by
  obtain ⟨parked, row, -⟩ := BankMachine.grantsRefresh_iff.1 rest
  intro offered
  cases offered with
  | column state => simp [parked] at state
  | close state => simp [parked, row] at state
  | openRow state => simp [parked] at state

/-- Nothing is issued in the cycle in which the bus is handed over: every bank is at rest, and the
refresher does not have the bus yet. -/
theorem commands_of_goToRefresh (built : k.BuiltFrom c) (state : k.bus.state ≠ .refresh)
    (rest : k.evaluate.decision.goToRefresh = true) : (k.step offers).2.commands = [] := by
  rw [List.eq_nil_iff_forall_not_mem]
  intro command mem
  obtain ⟨i, m, found, -, offered⟩ := bank?_of_mem_commands built state mem
  exact not_offers_of_grantsRefresh (grantsRefresh_of_goToRefresh rest found) offered

/-- Commands are to banks that there are. -/
theorem lt_banks_of_mem_commands (built : k.BuiltFrom c) {command : Command} {bank : Nat}
    (mem : command ∈ (k.step offers).2.commands) (addressed : command.bank? = some bank) :
    bank < c.banks := by
  by_cases state : k.bus.state = .refresh
  · rcases command_of_refresh built state mem with ⟨-, rfl⟩ | rfl | rfl <;> cases addressed
  · obtain ⟨i, m, found, here, -⟩ := bank?_of_mem_commands built state mem
    rw [here, Option.some.injEq] at addressed
    rw [← addressed, ← built.length_banks]
    exact (List.getElem?_eq_some_iff.1 found).1

/-! ### What a cycle keeps -/

/-- The machines that take part in a round see to its distances: before it, while it is played, and
after it. -/
structure RefreshTimed (c : Config) (k : Controller) (T : Trace) : Prop where
  /-- Commands are to banks that there are. -/
  addressed : ∀ bank s kind, T.At (toBank bank kind) s → bank < c.banks
  /-- Outside a round, those before it are over. -/
  recovered : k.bus.state ≠ .refresh →
    (∀ s, T.At isRefresh s → s + c.timing.tRFC ≤ T.length) ∧
      ∀ s, T.At isCalibrate s → s + c.timing.tZQCS.getD 0 ≤ T.length
  /-- Everything is over when the bus has been handed over. -/
  handed : k.bus.state = .refresh → (∀ elapsed calibrate,
    k.refresher.state ≠ .sequence elapsed calibrate) → T.Rested c T.length
  /-- The refresher counts the cycles of the round. -/
  playing : ∀ elapsed calibrate, k.refresher.state = .sequence elapsed calibrate →
    ∃ begun, begun + elapsed = T.length + 1 ∧ T.Round c begun calibrate
  /-- The distances are kept so far. -/
  kept : T.KeepsRefreshTiming c

/-- Nothing has been issued at first, and no round is under way. -/
theorem refreshTimed_build (c : Config) : RefreshTimed c (build c) [] where
  addressed _ _ _ h := absurd h Trace.not_at_nil
  recovered _ := ⟨fun _ h => absurd h Trace.not_at_nil, fun _ h => absurd h Trace.not_at_nil⟩
  handed state := by cases state
  playing _ _ state := by cases state
  kept :=
    { alone := fun _ h => absurd h Trace.not_at_nil
      prechargeToPrecharge := Trace.apart_nil _ _ _
      closingToPrecharge := fun _ _ _ _ h => absurd h Trace.not_at_nil
      prechargeToRefresh := Trace.apart_nil _ _ _
      closingToRefresh := fun _ _ _ _ h => absurd h Trace.not_at_nil
      refreshToRefresh := Trace.apart_nil _ _ _
      refreshToCalibrate := Trace.apart_nil _ _ _
      refreshToActivate := Trace.apart_nil _ _ _
      calibrateToActivate := Trace.apart_nil _ _ _ }

/-- **Everything is over when the bus is handed over.** The banks vouch for their precharges, and
the round before for itself. -/
theorem rested_of_goToRefresh (built : k.BuiltFrom c) (hand : k.Handover) (timed : Timed c k T)
    (refreshes : RefreshTimed c k T) (state : k.bus.state ≠ .refresh)
    (rest : k.evaluate.decision.goToRefresh = true) : T.Rested c T.length := by
  have machine : ∀ {bank s : Nat} {kind : Command → Bool}, T.At (toBank bank kind) s →
      ∃ m : BankMachine, m.BuiltFrom c bank ∧ m.Guarded c T ∧ m.state = .refresh ∧
        m.rowPrecharge.ready = true := by
    intro bank s kind issued
    have within := refreshes.addressed bank s kind issued
    rw [← built.length_banks] at within
    have found := List.getElem?_eq_getElem within
    have grants := grantsRefresh_of_goToRefresh rest found
    obtain ⟨parked, -, -, closed⟩ := BankMachine.grantsRefresh_iff.1 grants
    exact ⟨_, built.bank bank _ found, timed.guarded bank _ found, parked, closed⟩
  obtain ⟨refreshed, calibrated⟩ := refreshes.recovered state
  constructor
  case precharged =>
    intro s _ issued
    obtain ⟨command, mem, kind⟩ := List.any_eq_true.1 issued
    cases addressed : command.bank? with
    | none =>
      have all : T.At prechargesAll s :=
        List.any_eq_true.2 ⟨command, mem, by rw [prechargesAll, kind, addressed]; rfl⟩
      have settled := timed.paced.settled (hand.not_sequence state) s all
      rwa [built.timeline] at settled
    | some bank =>
      have own : T.At (toBank bank isPrecharge) s :=
        List.any_eq_true.2 ⟨command, mem, by rw [toBank, kind, addressed]; simp⟩
      obtain ⟨m, fixed, guarded, -, ready⟩ := machine own
      rw [← fixed.index] at own
      rw [← fixed.rowPrecharge]
      exact guarded.rowPrecharge.of_ready ready own
  case closed =>
    intro bank s _ issued
    obtain ⟨m, fixed, guarded, parked, ready⟩ := machine issued
    rw [← fixed.index] at issued
    rcases guarded.closing s issued with waiting | covered
    · rw [parked] at waiting
      cases waiting
    · have elapsed : m.rowPrecharge.remaining = 0 := eq_of_beq ready
      rwa [fixed.index, fixed.rowPrecharge, elapsed, Nat.add_zero] at covered
  case refreshed => exact fun s _ issued => refreshed s issued
  case calibrated => exact fun s _ issued => calibrated s issued

/-- During a round the commands of a cycle are those of the timeline. The refresher has the bus to
itself. -/
theorem commands_of_sequence (built : k.BuiltFrom c) (hand : k.Handover) {elapsed : Nat}
    {calibrate : Bool} (running : k.refresher.state = .sequence elapsed calibrate) :
    (k.step offers).2.commands =
      ((Refresher.new c).timeline.command elapsed calibrate).toList := by
  rw [commands_step_of_refresh built (hand.holds elapsed calibrate running), Refresher.evaluate,
    running, built.timeline]

/-- A command of the whole memory is one of a round. -/
theorem sequence_of_any_isMaintenance (built : k.BuiltFrom c) (hand : k.Handover)
    {kind : Command → Bool}
    (whole : ∀ command, kind command = true → command.isMaintenance = true)
    (h : (k.step offers).2.commands.any kind = true) :
    ∃ elapsed calibrate command, k.refresher.state = .sequence elapsed calibrate ∧
      kind command = true ∧
      (Refresher.new c).timeline.command elapsed calibrate = some command := by
  obtain ⟨command, mem, ofKind⟩ := List.any_eq_true.1 h
  have shown := (exclusive built hand).maintained offers command mem (whole command ofKind)
  obtain ⟨elapsed, calibrate, running, timed⟩ := Refresher.evaluate_command_eq_some_iff.1 shown
  rw [built.timeline] at timed
  exact ⟨elapsed, calibrate, command, running, ofKind, timed⟩

/-- A refresh is issued in the cycle of a round that its timeline names. -/
theorem sequence_of_any_isRefresh (built : k.BuiltFrom c) (hand : k.Handover)
    (h : (k.step offers).2.commands.any isRefresh = true) :
    ∃ elapsed calibrate, k.refresher.state = .sequence elapsed calibrate ∧
      (Refresher.new c).timeline.command elapsed calibrate = some (.refresh none) := by
  obtain ⟨elapsed, calibrate, command, running, ofKind, timed⟩ :=
    sequence_of_any_isMaintenance built hand
      (by intro command ofKind; cases command <;> first | rfl | cases ofKind) h
  rcases RefreshTimeline.command_cases timed with ⟨-, rfl⟩ | ⟨-, rfl⟩ | ⟨-, rfl⟩
  · cases ofKind
  · exact ⟨elapsed, calibrate, running, timed⟩
  · cases ofKind

/-- A calibration is issued in the cycle of a round that its timeline names. -/
theorem sequence_of_any_isCalibrate (built : k.BuiltFrom c) (hand : k.Handover)
    (h : (k.step offers).2.commands.any isCalibrate = true) :
    ∃ elapsed calibrate, k.refresher.state = .sequence elapsed calibrate ∧
      (Refresher.new c).timeline.command elapsed calibrate = some .calibrate := by
  obtain ⟨elapsed, calibrate, command, running, ofKind, timed⟩ :=
    sequence_of_any_isMaintenance built hand
      (by intro command ofKind; cases command <;> first | rfl | cases ofKind) h
  rcases RefreshTimeline.command_cases timed with ⟨-, rfl⟩ | ⟨-, rfl⟩ | ⟨-, rfl⟩
  · cases ofKind
  · cases ofKind
  · exact ⟨elapsed, calibrate, running, timed⟩

/-- No row is opened during a round. -/
theorem state_of_any_isActivate (built : k.BuiltFrom c)
    (h : (k.step offers).2.commands.any isActivate = true) : k.bus.state ≠ .refresh := by
  intro state
  obtain ⟨command, mem, opens⟩ := List.any_eq_true.1 h
  rcases command_of_refresh built state mem with ⟨-, rfl⟩ | rfl | rfl <;> cases opens

/-- **A cycle keeps the distances.** A command of a round is placed by the timeline, which knows
when the round began, and an activate comes when all rounds are over. -/
theorem KeepsRefreshTiming.step (a : c.Accepted) (built : k.BuiltFrom c) (hand : k.Handover)
    (refreshes : RefreshTimed c k T) (offers : List (Option BankRequest)) :
    Trace.KeepsRefreshTiming (T ++ [(k.step offers).2.commands]) c := by
  have kept := refreshes.kept
  constructor
  case alone =>
    intro t issued
    rw [Trace.commandsAt_concat]
    rcases Trace.at_concat_iff.1 issued with before | ⟨rfl, now⟩
    · rw [if_neg (Nat.ne_of_lt (Trace.lt_length_of_at before))]
      exact kept.alone t before
    · obtain ⟨command, mem, whole⟩ := List.any_eq_true.1 now
      have shown := (exclusive built hand).maintained offers command mem whole
      rw [if_pos rfl, (issued_of_evaluate_command built hand shown).2]
      rfl
  case prechargeToPrecharge =>
    refine kept.prechargeToPrecharge.concat fun now s before => ?_
    obtain ⟨calibrate, running⟩ := sequence_of_any_prechargesAll built now
    obtain ⟨begun, count, round⟩ := refreshes.playing 1 calibrate running
    have past := Trace.lt_length_of_at before
    have within := round.started
    rcases round.precharge_cases before with settled | begins
    · exact Nat.le_trans settled within
    · omega
  case closingToPrecharge =>
    refine kept.closingToPrecharge.concat fun now bank s before => ?_
    obtain ⟨calibrate, running⟩ := sequence_of_any_prechargesAll built now
    obtain ⟨begun, count, round⟩ := refreshes.playing 1 calibrate running
    exact Nat.le_trans (round.closing_over before) round.started
  case prechargeToRefresh =>
    refine kept.prechargeToRefresh.concat fun now s before => ?_
    obtain ⟨elapsed, calibrate, running, timed⟩ := sequence_of_any_isRefresh built hand now
    obtain ⟨begun, count, round⟩ := refreshes.playing elapsed calibrate running
    have enabled := hand.refreshEnabled built (by simp [running])
    obtain ⟨-, -, earlier, place⟩ := RefreshTimeline.command_eq_refresh_iff.1 timed
    rw [Refresher.firstRefresh_eq a enabled] at place
    rcases round.precharge_cases before with settled | begins
    · exact Nat.le_trans settled round.started
    · omega
  case closingToRefresh =>
    refine kept.closingToRefresh.concat fun now bank s before => ?_
    obtain ⟨elapsed, calibrate, running, -⟩ := sequence_of_any_isRefresh built hand now
    obtain ⟨begun, count, round⟩ := refreshes.playing elapsed calibrate running
    exact Nat.le_trans (round.closing_over before) round.started
  case refreshToRefresh =>
    refine kept.refreshToRefresh.concat fun now s before => ?_
    obtain ⟨elapsed, calibrate, running, timed⟩ := sequence_of_any_isRefresh built hand now
    obtain ⟨begun, count, round⟩ := refreshes.playing elapsed calibrate running
    exact round.refresh_apart a before count timed
  case refreshToCalibrate =>
    refine kept.refreshToCalibrate.concat fun now s before => ?_
    obtain ⟨elapsed, calibrate, running, timed⟩ := sequence_of_any_isCalibrate built hand now
    obtain ⟨begun, count, round⟩ := refreshes.playing elapsed calibrate running
    have done := (RefreshTimeline.command_eq_calibrate_iff.1 timed).2.2
    exact round.refresh_over a (hand.refreshEnabled built (by simp [running])) before count
      (Nat.le_of_eq done.symm)
  case refreshToActivate =>
    refine kept.refreshToActivate.concat fun now s before => ?_
    exact (refreshes.recovered (state_of_any_isActivate built now)).1 s before
  case calibrateToActivate =>
    refine kept.calibrateToActivate.concat fun now s before => ?_
    exact (refreshes.recovered (state_of_any_isActivate built now)).2 s before

/-- A round goes on over a cycle in which it is played, with one more entry of its timeline on the
bus. -/
theorem RefreshTimed.round_concat (built : k.BuiltFrom c) (hand : k.Handover)
    (refreshes : RefreshTimed c k T) {elapsed : Nat} {calibrate : Bool}
    (running : k.refresher.state = .sequence elapsed calibrate)
    (offers : List (Option BankRequest)) :
    ∃ begun, begun + elapsed = T.length + 1 ∧
      Trace.Round (T ++ [(k.step offers).2.commands]) c begun calibrate := by
  obtain ⟨begun, count, round⟩ := refreshes.playing elapsed calibrate running
  refine ⟨begun, count, round.concat ?_⟩
  rw [commands_of_sequence built hand running, ← count, Nat.add_sub_cancel_left]

/-- **Everything in a round is over when the bus is handed back**, since the round is as long as all
its commands take. -/
theorem RefreshTimed.over_of_last (a : c.Accepted) (reached : Reachable c k)
    (refreshes : RefreshTimed c k T) (last : k.refresher.evaluate.last = true)
    (offers : List (Option BankRequest)) :
    (∀ s, Trace.At (T ++ [(k.step offers).2.commands]) isRefresh s →
        s + c.timing.tRFC ≤ T.length + 1) ∧
      ∀ s, Trace.At (T ++ [(k.step offers).2.commands]) isCalibrate s →
        s + c.timing.tZQCS.getD 0 ≤ T.length + 1 := by
  have built := reached.builtFrom a
  have hand := reached.handover
  obtain ⟨elapsed, calibrate, running, ended⟩ := Refresher.length_le_of_last last
  have enabled := hand.refreshEnabled built (by simp [running])
  obtain ⟨begun, count, round⟩ := refreshes.round_concat built hand running offers
  have measured : calibrate = true → c.settings.zqcsInterval.isSome := by
    rintro rfl
    exact reached.zqcsInterval_isSome running
  have now : begun + (elapsed + 1) = (T ++ [(k.step offers).2.commands]).length + 1 := by
    rw [List.length_append, List.length_singleton]
    omega
  have length : (T ++ [(k.step offers).2.commands]).length = T.length + 1 := by simp
  rw [built.timeline] at ended
  rw [← length]
  have done := Refresher.refreshesDone_le_length a enabled calibrate
  exact ⟨fun s issued => round.refresh_over a enabled issued now (by omega),
    fun s issued => round.calibrate_over a enabled measured issued now (by omega)⟩

/-- Outside rounds no refresh and no calibration is issued, so those before go on to be over. -/
theorem RefreshTimed.recovered_step (a : c.Accepted) (reached : Reachable c k)
    (refreshes : RefreshTimed c k T) (offers : List (Option BankRequest))
    (after : (k.step offers).1.bus.state ≠ .refresh) :
    (∀ s, Trace.At (T ++ [(k.step offers).2.commands]) isRefresh s →
        s + c.timing.tRFC ≤ T.length + 1) ∧
      ∀ s, Trace.At (T ++ [(k.step offers).2.commands]) isCalibrate s →
        s + c.timing.tZQCS.getD 0 ≤ T.length + 1 := by
  have built := reached.builtFrom a
  have hand := reached.handover
  by_cases state : k.bus.state = .refresh
  · exact refreshes.over_of_last a reached (last_of_released state after) offers
  · obtain ⟨refreshed, calibrated⟩ := refreshes.recovered state
    refine ⟨fun s issued => ?_, fun s issued => ?_⟩
    · rcases Trace.at_concat_iff.1 issued with before | ⟨-, now⟩
      · exact Nat.le_succ_of_le (refreshed s before)
      · obtain ⟨elapsed, calibrate, running, -⟩ := sequence_of_any_isRefresh built hand now
        exact absurd running (hand.not_sequence state elapsed calibrate)
    · rcases Trace.at_concat_iff.1 issued with before | ⟨-, now⟩
      · exact Nat.le_succ_of_le (calibrated s before)
      · obtain ⟨elapsed, calibrate, running, -⟩ := sequence_of_any_isCalibrate built hand now
        exact absurd running (hand.not_sequence state elapsed calibrate)

/-- The refresher has the bus for one cycle before its round begins, and everything is over in that
cycle. -/
theorem RefreshTimed.handed_step (a : c.Accepted) (reached : Reachable c k) (timed : Timed c k T)
    (refreshes : RefreshTimed c k T) (offers : List (Option BankRequest))
    (after : (k.step offers).1.bus.state = .refresh)
    (resting : ∀ elapsed calibrate,
      (k.step offers).1.refresher.state ≠ .sequence elapsed calibrate) :
    Trace.Rested (T ++ [(k.step offers).2.commands]) c (T.length + 1) := by
  have built := reached.builtFrom a
  have hand := reached.handover
  rw [bus_step] at after
  rcases CommandBus.nextState_eq_refresh_iff.1 after with ⟨state, rest⟩ | ⟨state, more⟩
  · have outside : k.bus.state ≠ .refresh := by
      rcases state with state | state <;> simp [state]
    rw [commands_of_goToRefresh built outside rest]
    exact (rested_of_goToRefresh built hand timed refreshes outside rest).concat_nil
  · -- a refresher that has the bus is in a round from the next cycle on
    have busy := hand.requested state
    obtain ⟨elapsed, calibrate, running⟩ := Refresher.sequence_of_granted
      (fun off => busy (hand.idle_of_disabled off)) busy more
    rw [refresher_step, state] at resting
    exact absurd running (resting elapsed calibrate)

/-- A round begins in a cycle in which everything is over and nothing is issued. -/
theorem RefreshTimed.round_begin (built : k.BuiltFrom c) (refreshes : RefreshTimed c k T)
    (waits : k.refresher.state = .waitGrant) (state : k.bus.state = .refresh)
    (offers : List (Option BankRequest)) (calibrate : Bool) :
    Trace.Round (T ++ [(k.step offers).2.commands]) c (T.length + 1) calibrate := by
  have rested := refreshes.handed state (by simp [waits])
  have nothing : (k.step offers).2.commands = [] := by
    rw [commands_step_of_refresh built state, Refresher.evaluate, waits]
    rfl
  rw [nothing]
  refine ⟨Nat.le_of_eq (by simp), rested.concat_nil, fun s begins within => ?_⟩
  rw [List.length_append, List.length_singleton] at within
  exact absurd begins (Nat.not_le_of_lt within)

/-- The refresher goes on to count the cycles of its round, from the one on in which it begins. -/
theorem RefreshTimed.playing_step (built : k.BuiltFrom c) (hand : k.Handover)
    (refreshes : RefreshTimed c k T) (offers : List (Option BankRequest)) {elapsed : Nat}
    {calibrate : Bool} (after : (k.step offers).1.refresher.state = .sequence elapsed calibrate) :
    ∃ begun, begun + elapsed = T.length + 1 + 1 ∧
      Trace.Round (T ++ [(k.step offers).2.commands]) c begun calibrate := by
  rw [refresher_step] at after
  rcases Refresher.sequence_cases hand.idle_of_disabled after with
    ⟨waits, granted, rfl⟩ | ⟨now, running, -, rfl⟩
  · exact ⟨T.length + 1, rfl,
      refreshes.round_begin built waits (eq_of_beq granted) offers calibrate⟩
  · obtain ⟨begun, count, round⟩ := refreshes.round_concat built hand running offers
    exact ⟨begun, by omega, round⟩

/-- **A cycle keeps the registers right** that see to the distances of a round. Each of them has its
own lemma above. -/
theorem RefreshTimed.step (a : c.Accepted) (reached : Reachable c k) (timed : Timed c k T)
    (refreshes : RefreshTimed c k T) (offers : List (Option BankRequest)) :
    RefreshTimed c (k.step offers).1 (T ++ [(k.step offers).2.commands]) := by
  have built := reached.builtFrom a
  have hand := reached.handover
  have length : (T ++ [(k.step offers).2.commands]).length = T.length + 1 := by simp
  constructor
  case addressed =>
    intro bank s kind issued
    rcases Trace.at_concat_iff.1 issued with before | ⟨-, now⟩
    · exact refreshes.addressed bank s kind before
    · obtain ⟨command, mem, own⟩ := List.any_eq_true.1 now
      simp only [toBank, Bool.and_eq_true, beq_iff_eq] at own
      exact lt_banks_of_mem_commands built mem own.2
  case recovered =>
    rw [length]
    exact refreshes.recovered_step a reached offers
  case handed =>
    rw [length]
    exact refreshes.handed_step a reached timed offers
  case playing =>
    rw [length]
    exact fun elapsed calibrate => refreshes.playing_step built hand offers
  case kept => exact KeepsRefreshTiming.step a built hand refreshes offers

/-! ### Runs -/

/-- **The distances of refresh rounds are kept.** A controller for an accepted configuration
keeps them over every run, whatever is offered to it and however often it refreshes. -/
theorem exists_new_keepsRefreshTiming (accepted : c.validate = .ok ()) :
    ∃ start, Controller.new c = .ok start ∧
      ∀ past, Trace.KeepsRefreshTiming (start.trace past) c := by
  have a := Config.validate_eq_ok_iff.1 accepted
  refine ⟨build c, new_of_accepted accepted, fun past => ?_⟩
  refine (trace_induction (P := fun k T => Timed c k T ∧ RefreshTimed c k T)
    ⟨timed_build c, refreshTimed_build c⟩ ?_ past).2.kept
  rintro k T offers reached ⟨timed, refreshes⟩
  exact ⟨timed.step a reached offers, refreshes.step a reached timed offers⟩

/-- Rounds of two refreshes, every third of which ends with a calibration of twelve cycles. -/
def calibratedEveryThird : Config where
  timing := { tRAS := some 6, tZQCS := some 12 }
  settings := { postponing := 2, zqcsInterval := some 3 }

/-- Rounds may be made of several refreshes and end with a calibration. -/
theorem new_keepsRefreshTiming_of_calibration :
    calibratedEveryThird.validate = .ok () ∧
      ∃ start, Controller.new calibratedEveryThird = .ok start ∧
        ∀ past, Trace.KeepsRefreshTiming (start.trace past) calibratedEveryThird :=
  ⟨by decide, exists_new_keepsRefreshTiming (by decide)⟩

end Controller

end DramScheduler
