import DramScheduler.Command
import DramScheduler.Timing.Spacing
import Mathlib.Data.List.GetD

/-!
# Traces of commands

A trace lists the commands of a run, cycle by cycle. Timing rules speak of cycles in which
commands of some kind are issued (`Trace.At`), of the latest of them (`Trace.last?`) and of
their distance (`Trace.Apart`). A countdown is the register behind such a rule: as long as it
is armed by every command of the kind, it is not ready before the distance is kept
(`Spacing.Guards.of_ready`).

## Main results

* `Trace.Apart.concat` — a distance is kept as long as every new command keeps it;
* `Spacing.Guards.tick` — a countdown goes on to guard a trace that is carried on.
-/

namespace DramScheduler

/-! ### Kinds of commands -/

/-- The commands of a kind that are to a single bank, the given one. -/
def Command.toBank (bank : Nat) (kind : Command → Bool) (command : Command) : Bool :=
  kind command && command.bank? == some bank

/-- The commands of a kind that are to the given bank or to no single one. -/
def Command.reaching (bank : Nat) (kind : Command → Bool) (command : Command) : Bool :=
  kind command && command.bank?.all (· == bank)

/-- Commands of a kind to a bank are found among the commands to the bank. -/
theorem Command.any_toBank (commands : List Command) (bank : Nat) (kind : Command → Bool) :
    commands.any (toBank bank kind) =
      (commands.filter fun command => command.bank? == some bank).any kind := by
  rw [List.any_filter]
  refine congrArg commands.any (funext fun command => ?_)
  exact Bool.and_comm _ _

/-- Where there is one command of a kind at most, there are as many as it takes for there to be
any. -/
theorem Command.length_filter_of_le_one {commands : List Command} {kind : Command → Bool}
    (single : (commands.filter kind).length ≤ 1) :
    (commands.filter kind).length = (commands.any kind).toNat := by
  cases found : commands.any kind with
  | false =>
    rw [List.any_eq_false] at found
    rw [List.filter_eq_nil_iff.2 found]
    rfl
  | true =>
    obtain ⟨command, mem, ofKind⟩ := List.any_eq_true.1 found
    have least := List.length_pos_of_mem (List.mem_filter.2 ⟨mem, ofKind⟩)
    exact Nat.le_antisymm single least

/-- The commands of a run, cycle by cycle. -/
abbrev Trace : Type :=
  List (List Command)

namespace Trace

variable {T : Trace} {commands : List Command} {kind earlier later : Command → Bool}
  {s t gap : Nat}

/-- The commands of a cycle. There are none after the end. -/
def commandsAt (T : Trace) (t : Nat) : List Command :=
  T.getD t []

/-- A command of the given kind is issued in the given cycle. -/
def At (T : Trace) (kind : Command → Bool) (t : Nat) : Prop :=
  (T.commandsAt t).any kind = true

instance (T : Trace) (kind : Command → Bool) (t : Nat) : Decidable (T.At kind t) :=
  inferInstanceAs (Decidable (_ = true))

/-- The latest cycle before the given one in which a command of the given kind is issued. -/
def last? (T : Trace) (kind : Command → Bool) : Nat → Option Nat
  | 0 => none
  | t + 1 => if (T.commandsAt t).any kind then some t else T.last? kind t

/-- Commands of two kinds keep their distance when they come in this order. -/
def Apart (T : Trace) (earlier later : Command → Bool) (gap : Nat) : Prop :=
  ∀ s t, s < t → T.At earlier s → T.At later t → s + gap ≤ t

/-! ### Counting commands -/

/-- Where a cycle has one command of a kind at most, there are as many commands of the kind as
cycles with one. -/
theorem length_filter_flatten (single : ∀ commands ∈ T, (commands.filter kind).length ≤ 1) :
    (T.flatten.filter kind).length = (T.map fun commands => commands.any kind).count true := by
  induction T with
  | nil => rfl
  | cons commands T ih =>
    have rest := ih fun later mem => single later (List.mem_cons_of_mem _ mem)
    have here := Command.length_filter_of_le_one (single commands List.mem_cons_self)
    rw [List.flatten_cons, List.filter_append, List.length_append, here, rest, List.map_cons,
      List.count_cons, Nat.add_comm]
    cases commands.any kind <;> rfl

/-! ### Carrying on a trace -/

/-- The last cycle has the new commands, and all others are as before. -/
theorem commandsAt_concat (T : Trace) (commands : List Command) (t : Nat) :
    commandsAt (T ++ [commands]) t = if t = T.length then commands else T.commandsAt t := by
  rw [commandsAt, commandsAt]
  rcases Nat.lt_trichotomy t T.length with h | rfl | h
  · rw [List.getD_append _ _ _ _ h, if_neg (Nat.ne_of_lt h)]
  · rw [List.getD_append_right _ _ _ _ (Nat.le_refl _), if_pos rfl, Nat.sub_self]
    rfl
  · rw [List.getD_append_right _ _ _ _ (Nat.le_of_lt h), if_neg (Nat.ne_of_gt h),
      List.getD_eq_default _ _ (Nat.le_of_lt h),
      List.getD_eq_default _ _ (Nat.succ_le_of_lt (Nat.sub_pos_of_lt h))]

/-- Commands are issued in cycles of the trace. -/
theorem lt_length_of_at (h : T.At kind t) : t < T.length := by
  rcases Nat.lt_or_ge t T.length with within | beyond
  · exact within
  · rw [At, commandsAt, List.getD_eq_default _ _ beyond] at h
    cases h

/-- Nothing is issued in an empty trace. -/
theorem not_at_nil : ¬ At [] kind t := fun h =>
  Nat.not_lt_zero t (lt_length_of_at h)

/-- A command in a trace that is carried on was there before or is one of the new ones. -/
theorem at_concat_iff :
    At (T ++ [commands]) kind t ↔ T.At kind t ∨ t = T.length ∧ commands.any kind = true := by
  rw [At, commandsAt_concat]
  by_cases h : t = T.length
  · rw [if_pos h]
    constructor
    · intro now
      exact .inr ⟨h, now⟩
    · rintro (before | ⟨-, now⟩)
      · exact absurd h (Nat.ne_of_lt (lt_length_of_at before))
      · exact now
  · rw [if_neg h]
    constructor
    · intro before
      exact .inl before
    · rintro (before | ⟨now, -⟩)
      · exact before
      · exact absurd now h

/-- What was issued stays issued. -/
theorem At.concat (h : T.At kind t) (commands : List Command) : At (T ++ [commands]) kind t :=
  at_concat_iff.2 (.inl h)

/-- Of two commands in a trace that is carried on, at most the later one is new. So distances only
have to be checked for new commands. -/
theorem at_concat_pair (order : s < t) (first : At (T ++ [commands]) earlier s)
    (second : At (T ++ [commands]) later t) :
    T.At earlier s ∧ (T.At later t ∨ t = T.length ∧ commands.any later = true) := by
  have last := at_concat_iff.1 second
  refine ⟨?_, last⟩
  rcases at_concat_iff.1 first with before | ⟨rfl, -⟩
  · exact before
  · rcases last with before | ⟨rfl, -⟩
    · exact absurd (lt_length_of_at before) (Nat.lt_asymm order)
    · exact absurd order (Nat.lt_irrefl _)

/-- What is the latest cycle before a given one does not change later. -/
theorem last?_concat (T : Trace) (commands : List Command) (kind : Command → Bool)
    (h : t ≤ T.length) : last? (T ++ [commands]) kind t = T.last? kind t := by
  induction t with
  | zero => rfl
  | succ t ih =>
    rw [last?, last?, commandsAt_concat, if_neg (Nat.ne_of_lt h), ih (Nat.le_of_succ_le h)]

/-- The latest cycle is one with a command of the kind. -/
theorem at_of_last? (h : T.last? kind t = some s) : s < t ∧ T.At kind s := by
  induction t with
  | zero => cases h
  | succ t ih =>
    rw [last?] at h
    split at h
    · next now =>
      cases h
      exact ⟨Nat.lt_succ_self s, now⟩
    · obtain ⟨before, found⟩ := ih h
      exact ⟨Nat.lt_succ_of_lt before, found⟩

/-- **A distance is kept as long as every new command keeps it** from all that came before. -/
theorem Apart.concat (apart : T.Apart earlier later gap)
    (keeps : commands.any later = true → ∀ s, T.At earlier s → s + gap ≤ T.length) :
    Apart (T ++ [commands]) earlier later gap := by
  intro s t order first second
  obtain ⟨before, earlier | ⟨rfl, now⟩⟩ := at_concat_pair order first second
  · exact apart s t order before earlier
  · exact keeps now s before

/-- Where nothing was issued every distance is kept. -/
theorem apart_nil (earlier later : Command → Bool) (gap : Nat) :
    Apart [] earlier later gap := by
  intro s t _ first
  exact absurd first not_at_nil

end Trace

/-! ### Countdowns -/

/-- A countdown guards the commands of a kind: what is left of it covers what is left of the
distance from each of them. -/
def Spacing.Guards (countdown : Spacing) (T : Trace) (kind : Command → Bool) : Prop :=
  ∀ s, T.At kind s → s + countdown.spacing ≤ T.length + countdown.remaining

namespace Spacing.Guards

variable {countdown : Spacing} {T : Trace} {kind : Command → Bool}

/-- Where nothing was issued there is nothing to guard. -/
theorem nil (countdown : Spacing) (kind : Command → Bool) : countdown.Guards [] kind := by
  intro s first
  exact absurd first Trace.not_at_nil

/-- Nothing comes too early while the countdown is ready: nothing is left of it, so nothing is left
of the distances. -/
theorem of_ready (guards : countdown.Guards T kind) (ready : countdown.ready) {s : Nat}
    (h : T.At kind s) : s + countdown.spacing ≤ T.length := by
  have elapsed : countdown.remaining = 0 := eq_of_beq ready
  have covered := guards s h
  rwa [elapsed, Nat.add_zero] at covered

/-- **A countdown that every new command of the kind arms goes on to guard the kind.** It may be
armed by other commands as well, which only makes it wait longer. -/
theorem tick (guards : countdown.Guards T kind) {commands : List Command} {event : Bool}
    (armed : commands.any kind = true → event = true) :
    (countdown.tick event).Guards (T ++ [commands]) kind := by
  intro s h
  rw [spacing_tick, List.length_append, List.length_singleton]
  rcases Trace.at_concat_iff.1 h with before | ⟨rfl, now⟩
  · have covered := guards s before
    have past := Trace.lt_length_of_at before
    cases event with
    | false =>
      rw [tick_false]
      omega
    | true =>
      rw [tick_true]
      omega
  · rw [armed now, tick_true]
    omega

end Spacing.Guards

end DramScheduler
