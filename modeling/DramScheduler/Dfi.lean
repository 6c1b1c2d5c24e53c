import DramScheduler.Command

/-!
# The interface to the memory

One controller cycle drives one or more *phases* towards the memory. A phase has a chip
select per rank, a bank bus for the bank within the rank, the address bus, three strobes and
two data enables. Selects and strobes are active low.

`Phase.drive` puts a command on a phase and `Phase.decode` reads it back, as the device
would. The rank travels in the selects: a command for one bank pulls the select of that
bank's rank, a command for the whole device pulls all of them, and so does everything on an
interface with a single rank. Decoding takes the lowest pulled select as the rank, and finds
bank zero where the command names none.

Both directions are exact on every layout a device has. On wider ones the bank bus, with its
32 lines, carries the low bits of the bank alone, and a decoded bank number keeps the low 64
bits of its rank and bank.
-/

namespace DramScheduler

/-- The signals of one phase. Names that end in `N` are of lines that are active low. -/
structure Phase where
  /-- Chip selects, one bit per rank, active low. -/
  csN : Nat
  /-- Bank within the selected rank. -/
  bank : Nat
  /-- The value of the address bus: a row, or a column with the flag of its command. -/
  address : Nat
  /-- Row address strobe, active low. -/
  rasN : Bool
  /-- Column address strobe, active low. -/
  casN : Bool
  /-- Write enable, active low. -/
  weN : Bool
  /-- Read data is wanted for this phase. -/
  readEnable : Bool
  /-- Write data is driven for this phase. -/
  writeEnable : Bool
  deriving DecidableEq, Repr

namespace Phase

/-- A phase that carries no command and selects every rank. -/
def idle : Phase where
  csN := 0
  bank := 0
  address := 0
  rasN := true
  casN := true
  weN := true
  readEnable := false
  writeEnable := false

/-- An unspecified phase is an idle one. -/
instance : Inhabited Phase := ⟨idle⟩

/-- The number of chip selects the interface has room for. -/
def maxRanks : Nat := 32

/-- One more than the largest value the bank bus can carry, which has 32 lines. -/
def bankBusBound : Nat := 1 <<< 32

/-- One more than the largest bank number, which has 64 bits. -/
def bankBound : Nat := 1 <<< 64

/-- All selects of `ranks` ranks released, lines without a rank left low. -/
def released (ranks : Nat) : Nat :=
  1 <<< min ranks maxRanks - 1

/-- The selects with the line of `rank` pulled low and every other one released. A rank past
the last line counts from the first again. -/
def selectOnly (ranks rank : Nat) : Nat :=
  let line := rank % maxRanks
  if (released ranks).testBit line then released ranks - 1 <<< line else released ranks

/-- The rank whose select is pulled low, the lowest one if there are several. With every
select released it is the number of lines. -/
def selectedRank (csN : Nat) : Nat :=
  if csN = 0 then 0 else
    ((List.range maxRanks).find? fun line => !csN.testBit line).getD maxRanks

/-- Puts a command on a phase. The low `bankBits` bits of the bank number are the bank within the
rank, as far as the bank bus carries them, the bits above them the rank. -/
def drive (c : Command) (bankBits ranks : Nat) : Phase :=
  let index := c.bank?.getD 0
  let pins := c.pins
  { csN := if c.selectsAllRanks || ranks ≤ 1 then 0 else selectOnly ranks (index >>> bankBits)
    bank := index % 1 <<< bankBits % bankBusBound
    address := pins.address
    rasN := !pins.ras
    casN := !pins.cas
    weN := !pins.we
    readEnable := c.isRead
    writeEnable := c.isWrite }

/-- Whether a phase carries no command: none of the strobes is low. -/
def isIdle (p : Phase) : Bool :=
  p.rasN && p.casN && p.weN

/-- The flag on the address bus, at its place in the middle of the columns. -/
def flagOf (address : Nat) : Bool :=
  address.testBit Command.flagBit

/-- The value of the address bus with the line of the flag lowered, which is the column that a
device sees. -/
def withoutFlag (address : Nat) : Nat :=
  if flagOf address then address - 1 <<< Command.flagBit else address

/-- The bank number that a phase addresses: the selected rank above the value of the bank
bus. -/
def bankNumber (p : Phase) (bankBits : Nat) : Nat :=
  selectedRank p.csN <<< bankBits % bankBound ||| p.bank

/-- Reads the command off a phase, by its strobes. Commands for the whole device come back with bank
zero. -/
def decode (p : Phase) (bankBits : Nat) : Command :=
  let bank := p.bankNumber bankBits
  let flag := flagOf p.address
  match !p.casN, !p.rasN, !p.weN with
  | false, true, false => .activate bank p.address
  | false, true, true => .precharge (if flag then 0 else bank) flag
  | true, false, false => .read bank (withoutFlag p.address) flag
  | true, false, true => .write bank (withoutFlag p.address) flag
  | true, true, false => .refresh (if flag then none else some bank)
  | false, false, true => .calibrate
  | _, _, _ => .nop

/-- An idle phase carries no command, whatever the rank layout. -/
theorem decode_idle (bankBits : Nat) : idle.decode bankBits = .nop := rfl

/-- Driving nothing leaves the strobes of an idle phase. -/
theorem isIdle_drive_nop (bankBits ranks : Nat) : (drive .nop bankBits ranks).isIdle = true :=
  rfl

end Phase

end DramScheduler
