import DramScheduler.Fifo

/-!
# Fixed delay of a strobe

A shift register that hands a one-bit signal on a fixed number of cycles later. With no stage
at all the signal passes straight through.
-/

namespace DramScheduler

/-- A shift register for one strobe, as long as its delay. -/
structure DelayLine where
  /-- The bits under way, the one that leaves next in front. -/
  stages : Fifo Bool
  deriving DecidableEq, Repr, Inhabited

namespace DelayLine

/-- A line of `latency` cycles with nothing under way. -/
def new (latency : Nat) : DelayLine :=
  ⟨.ofList (List.replicate latency false)⟩

/-- The number of cycles from an input to its output. -/
def latency (d : DelayLine) : Nat :=
  d.stages.size

/-- Whether a pulse is under way. -/
def busy (d : DelayLine) : Bool :=
  d.stages.any id

/-- The bit that leaves the line in a cycle with the given input. Only a line without stages passes
the input on at once. -/
def output (d : DelayLine) (input : Bool) : Bool :=
  d.stages.head?.getD input

/-- One clock edge, after a cycle with the given input. The length of the line stays what it is. -/
def shift (d : DelayLine) (input : Bool) : DelayLine :=
  ⟨(d.stages.push input).tail⟩

/-- The input joins the bits under way at their end, and the one in front leaves. This holds of a
line without stages as well. -/
theorem toList_stages_shift (d : DelayLine) (input : Bool) :
    (d.shift input).stages.toList = (d.stages.toList ++ [input]).tail := by
  simp [shift]

/-- A clock edge keeps the delay. -/
@[simp] theorem latency_shift (d : DelayLine) (input : Bool) :
    (d.shift input).latency = d.latency := by
  unfold latency
  rw [← Fifo.length_toList, toList_stages_shift, ← Fifo.length_toList]
  simp

end DelayLine

end DramScheduler
