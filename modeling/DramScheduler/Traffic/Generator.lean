import DramScheduler.Config.Derived

/-!
# Synthetic traffic

A generator makes up the requests of one master. Its addresses follow a pattern, and a stated
share of its requests, in per cent, are writes. Chance comes from a shift-register generator of
64 bits, whose seed differs from master to master and is never zero.

* `sequential` walks the columns, then the banks, then the rows; every master starts 64 rows
  after the one before it.
* `random` draws bank, row and column on their own.
* `rowConflict` alternates between two rows of the first bank, two rows per master.
-/

namespace DramScheduler

/-- The patterns that addresses may follow. -/
inductive TrafficPattern where
  | sequential | random | rowConflict
  deriving DecidableEq, Repr, Inhabited

namespace TrafficPattern

/-- Every pattern, in the order in which they are listed. -/
def all : List TrafficPattern :=
  [sequential, random, rowConflict]

/-- The name a pattern is asked for by. -/
def name : TrafficPattern → String
  | sequential => "sequential"
  | random => "random"
  | rowConflict => "row-conflict"

end TrafficPattern

/-- One step of the shift-register generator: three shifts, each combined with the word by exclusive
or. -/
def xorshift (x : UInt64) : UInt64 :=
  let x := x ^^^ (x <<< 13)
  let x := x ^^^ (x >>> 7)
  x ^^^ (x <<< 17)

/-- A generator of the requests of one master. Its state is that of a shift register, which the
draws of a request move on. -/
structure Traffic where
  /-- The pattern of its addresses. -/
  pattern : TrafficPattern
  /-- The number of the master. -/
  master : Nat
  /-- Requests made up so far. -/
  count : Nat
  /-- State of the shift-register generator. -/
  state : UInt64
  /-- Share of writes in per cent. -/
  writes : Nat
  deriving DecidableEq, Repr, Inhabited

namespace Traffic

/-- An odd constant that keeps the seeds of the masters apart. -/
def seedStep : UInt64 := 0x9E3779B97F4A7C15

/-- Rows from the start of one master to the start of the next. -/
def rowsPerMaster : Nat := 64

/-- The generator of a master at its start. The last bit of its state is set, so the state is not
zero whatever the seed. -/
def new (pattern : TrafficPattern) (master : Nat) (seed : UInt64) (writes : Nat) : Traffic where
  pattern := pattern
  master := master
  count := 0
  state := (seed ^^^ (UInt64.ofNat (master + 1) * seedStep)) ||| 1
  writes := writes

/-- Draws a number below the bound, which costs one step of the generator. -/
def draw (t : Traffic) (bound : Nat) : Nat × Traffic :=
  let state := xorshift t.state
  (state.toNat % bound, { t with state := state })

/-- The location of the next request, and the generator after the draws it took. Only the random
pattern takes any. -/
def location (t : Traffic) (c : Config) : Location × Traffic :=
  let banks := c.banks
  let rows := 1 <<< c.geometry.rowBits
  let words := 1 <<< c.wordBits
  let column (word : Nat) : Nat := word <<< c.burstBits
  match t.pattern with
  | .sequential =>
    (⟨t.count / words % banks, (t.master * rowsPerMaster + t.count / (words * banks)) % rows,
      column (t.count % words)⟩, t)
  | .random =>
    let (bank, t) := t.draw banks
    let (row, t) := t.draw rows
    let (word, t) := t.draw words
    (⟨bank, row, column word⟩, t)
  | .rowConflict => (⟨0, t.count % 2 + 2 * t.master, column (t.count % words)⟩, t)

/-- The next request of a generator, and the generator after it. Whether it writes is drawn after
its address. -/
def next (t : Traffic) (c : Config) : Request × Traffic :=
  let (location, located) := t.location c
  let (percent, drawn) := located.draw 100
  (⟨c.addressMap.encode location, percent < t.writes⟩, { drawn with count := t.count + 1 })

end Traffic

end DramScheduler
