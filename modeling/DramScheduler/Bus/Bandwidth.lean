/-!
# Counting column commands over periods

Reads and writes are counted over periods whose length is a power of two. At the end of a
period its counts are latched, and `publish` copies the latched counts to where they can be
read, so a reader always sees the counts of one whole period.
-/

namespace DramScheduler

/-- The counts of one whole period, as they are published. Until a period is over, those of the one
before are read. -/
structure BandwidthSample where
  /-- Cycles with a read. -/
  reads : Nat
  /-- Cycles with a write. -/
  writes : Nat
  /-- Cycles of a period. -/
  period : Nat
  /-- Bits moved by one command. -/
  dataWidth : Nat
  deriving DecidableEq, Repr, Inhabited

/-- The fraction of cycles of the period that had a column command. -/
def BandwidthSample.utilization (s : BandwidthSample) : Float :=
  if s.period = 0 then 0.0
  else (s.reads + s.writes).toUInt64.toFloat / s.period.toUInt64.toFloat

/-- The counters of the running period, the counts of the one before it, and the sample that is
shown. -/
structure Bandwidth where
  /-- Cycles of a period, a power of two. -/
  period : Nat
  /-- Bits moved by one command. -/
  dataWidth : Nat
  /-- Cycles of the running period. -/
  cycle : Nat
  /-- Reads in the running period so far. -/
  reads : Nat
  /-- Writes in the running period so far. -/
  writes : Nat
  /-- Reads in the last whole period. -/
  latchedReads : Nat
  /-- Writes in the last whole period. -/
  latchedWrites : Nat
  /-- The counts published last. -/
  sample : BandwidthSample
  deriving DecidableEq, Repr, Inhabited

namespace Bandwidth

/-- A counter at the start of its first period, showing a sample of no commands. A period has at
most `2 ^ 63` cycles. -/
def new (periodBits dataWidth : Nat) : Bandwidth :=
  let period := 1 <<< min periodBits 63
  { period := period
    dataWidth := dataWidth
    cycle := 0
    reads := 0
    writes := 0
    latchedReads := 0
    latchedWrites := 0
    sample := ⟨0, 0, period, dataWidth⟩ }

/-- One clock edge, after a cycle with or without a read and a write. The last cycle of a period is
counted in before the counts are latched. -/
def tick (b : Bandwidth) (read write : Bool) : Bandwidth :=
  let reads := b.reads + read.toNat
  let writes := b.writes + write.toNat
  if b.cycle + 1 = b.period then
    { b with cycle := 0, reads := 0, writes := 0, latchedReads := reads, latchedWrites := writes }
  else { b with cycle := b.cycle + 1, reads := reads, writes := writes }

/-- Publishes the counts of the last whole period. Those of the running period are never seen. -/
def publish (b : Bandwidth) : Bandwidth :=
  { b with sample := ⟨b.latchedReads, b.latchedWrites, b.period, b.dataWidth⟩ }

end Bandwidth

end DramScheduler
