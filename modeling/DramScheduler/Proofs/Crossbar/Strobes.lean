import DramScheduler.Proofs.Crossbar.Routing
import DramScheduler.Proofs.Timing.DelayLine

/-!
# How the crossbar leads strobes to the masters

Writing and reading have strobes of their own, which take the same way at different speed. The
lemmas here are therefore about the strobe of either direction: a bank gives it together with a
column command, the crossbar finds out which master holds the bank, and the delay line of that
master hands the strobe on.

## Main results

* `Crossbar.mem_strobed_iff` — the masters whose banks give a strobe;
* `Crossbar.any_strobe_commit` — what reaches a port is what leaves its delay line;
* `Crossbar.line_commit` — what goes into the line;
* `Crossbar.busy_iff` — when there are strobes under way.
-/

namespace DramScheduler

/-! ### The strobe of a direction -/

/-- The strobe that a bank gives for one direction of data. -/
def BankResponse.strobe (isWrite : Bool) (response : BankResponse) : Bool :=
  if isWrite then response.writeData else response.readData

/-- The strobe that a port gets for one direction of data. -/
def PortStatus.strobe (isWrite : Bool) (status : PortStatus) : Bool :=
  if isWrite then status.writeData else status.readData

/-- The delay line of a master for one direction of data. -/
def StrobeDelay.line (isWrite : Bool) (delay : StrobeDelay) : DelayLine :=
  if isWrite then delay.write else delay.read

namespace Crossbar

variable {x : Crossbar} {responses : List BankResponse} {master : Nat}

/-- A master gets the strobes of the banks that it holds, however many of them strobe in a cycle. -/
theorem mem_strobed_iff {kind : BankResponse → Bool} :
    master ∈ x.strobed responses kind ↔
      ∃ bank, x.holder? bank = some master ∧ responses[bank]?.any kind = true := by
  rw [strobed, List.mem_filterMap]
  constructor
  · rintro ⟨⟨lane, response⟩, mem, given⟩
    obtain ⟨bank, found⟩ := List.mem_iff_getElem?.1 mem
    obtain ⟨held, answer⟩ := List.getElem?_zip_eq_some.1 found
    rw [Option.ite_none_right_eq_some] at given
    refine ⟨bank, ?_, ?_⟩
    · rw [holder?, held, Option.map_some]
      exact given.2
    · rw [answer]
      exact given.1
  · rintro ⟨bank, holds, given⟩
    obtain ⟨lane, held, rfl⟩ := Option.map_eq_some_iff.1 holds
    obtain ⟨response, answer, shown⟩ := (Option.any_eq_true _ _).1 given
    exact ⟨(lane, response), List.mem_iff_getElem?.2
      ⟨bank, List.getElem?_zip_eq_some.2 ⟨held, answer⟩⟩, if_pos shown⟩

/-- The delays of a master after the edge. -/
theorem getElem?_delays_commit (x : Crossbar) (r : Routing) (responses : List BankResponse)
    (master : Nat) :
    (x.commit r responses).1.delays[master]? = x.delays[master]?.map fun delay =>
      ⟨delay.write.shift ((x.strobed responses (BankResponse.strobe true)).contains master),
        delay.read.shift ((x.strobed responses (BankResponse.strobe false)).contains master)⟩ := by
  have delays : (x.commit r responses).1.delays = x.delays.mapIdx fun master delay =>
      ⟨delay.write.shift ((x.strobed responses (BankResponse.strobe true)).contains master),
        delay.read.shift ((x.strobed responses (BankResponse.strobe false)).contains master)⟩ :=
    rfl
  rw [delays, List.getElem?_mapIdx]

/-- What is given to the delay line of a master: whether a bank that it holds gives a strobe. -/
theorem line_commit {r : Routing} {after : StrobeDelay} (isWrite : Bool)
    (found : (x.commit r responses).1.delays[master]? = some after) :
    ∃ before, x.delays[master]? = some before ∧ after.line isWrite =
      (before.line isWrite).shift
        ((x.strobed responses (BankResponse.strobe isWrite)).contains master) := by
  rw [getElem?_delays_commit, Option.map_eq_some_iff] at found
  obtain ⟨before, earlier, rfl⟩ := found
  refine ⟨before, earlier, ?_⟩
  cases isWrite <;> rfl

/-- **What reaches a port** is what leaves its delay line. The two directions are told apart by the
line alone. -/
theorem any_strobe_commit {commands : List (Option Request)} {ready locks : List Bool}
    (delays : x.delays.length = x.masters) (responses : List BankResponse) (isWrite : Bool)
    (master : Nat) :
    (x.commit (x.route commands ready locks) responses).2[master]?.any
        (PortStatus.strobe isWrite) =
      x.delays[master]?.any fun delay => (delay.line isWrite).output
        ((x.strobed responses (BankResponse.strobe isWrite)).contains master) := by
  rcases status_commit_cases delays responses master with
    ⟨-, found, status⟩ | ⟨accepted, delay, -, found, status⟩
  · rw [status, found]
    rfl
  · rw [status, found]
    cases isWrite <;> rfl

/-- A strobe is under way as long as it is in one of the lines, of any master and in either
direction. -/
theorem busy_iff :
    x.busy = true ↔ ∃ (master : Nat) (delay : StrobeDelay) (isWrite : Bool),
      x.delays[master]? = some delay ∧ (delay.line isWrite).busy = true := by
  rw [busy, List.any_eq_true]
  constructor
  · rintro ⟨delay, mem, under⟩
    obtain ⟨master, found⟩ := List.mem_iff_getElem?.1 mem
    rw [Bool.or_eq_true] at under
    rcases under with writing | reading
    · exact ⟨master, delay, true, found, writing⟩
    · exact ⟨master, delay, false, found, reading⟩
  · rintro ⟨master, delay, isWrite, found, under⟩
    refine ⟨delay, List.mem_of_getElem? found, ?_⟩
    rw [Bool.or_eq_true]
    cases isWrite with
    | true => exact .inl under
    | false => exact .inr under

end Crossbar

end DramScheduler
