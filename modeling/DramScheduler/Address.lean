/-!
# Addresses

Masters address the memory in controller words, by 64-bit numbers. The word index within a
row sits at the bottom, the bank number directly above it and the row on top. The parts are
taken out in two places: the crossbar removes the bank field (`BankField`), and a bank
machine splits what is left into row and column (`RowSplit`). Columns count device words, so
the bits inside a burst come back as zeros below the word index.

`AddressMap` holds both halves for one configuration, with the inverse direction used by
traffic generators.
-/

namespace DramScheduler

/-- A request of a master. -/
structure Request where
  /-- Address in controller words. -/
  address : Nat
  /-- Whether the word is written; read otherwise. -/
  isWrite : Bool
  deriving DecidableEq, Repr, Inhabited

/-- The place of a burst in the memory: what a bank needs to know to open its row and to move its
data. -/
structure Location where
  /-- Bank number over all ranks. -/
  bank : Nat
  /-- Row of the bank. -/
  row : Nat
  /-- First column of the burst. -/
  col : Nat
  deriving DecidableEq, Repr, Inhabited

/-- Addresses lie below this bound: they have 64 bits. -/
def addressBound : Nat := 1 <<< 64

/-- Row and column numbers lie below this bound: the address bus has 32 bits. -/
def busBound : Nat := 1 <<< 32

/-! ### Within a bank -/

/-- The split of a bank-local address into row and column. The word index is below the row, and the
row takes what is above it. -/
structure RowSplit where
  /-- Width of the row number. -/
  rowBits : Nat
  /-- Width of the word index below the row number. -/
  wordBits : Nat
  /-- Bits of a column inside one burst. -/
  burstBits : Nat
  deriving DecidableEq, Repr, Inhabited

namespace RowSplit

/-- The split for a geometry, the column width given with the burst bits included. -/
def ofGeometry (rowBits colBits burstBits : Nat) : RowSplit :=
  ⟨rowBits, colBits - burstBits, burstBits⟩

/-- The row at a bank-local address; bits above the row number are dropped. -/
def row (s : RowSplit) (address : Nat) : Nat :=
  address >>> s.wordBits % 1 <<< s.rowBits % busBound

/-- The first column of the burst at a bank-local address. The word index is moved up, so that the
bits inside the burst are zero. -/
def col (s : RowSplit) (address : Nat) : Nat :=
  (address % 1 <<< s.wordBits) <<< s.burstBits % busBound

/-- The bank-local address of a row and a column; bits outside the fields are dropped. -/
def address (s : RowSplit) (row col : Nat) : Nat :=
  ((row % 1 <<< s.rowBits) <<< s.wordBits + col >>> s.burstBits % 1 <<< s.wordBits) %
    addressBound

end RowSplit

/-! ### Between banks -/

/-- The bank field of a master address, which is cut out of the middle of it. -/
structure BankField where
  /-- Width of the bank number over all ranks. -/
  bits : Nat
  /-- Place of its lowest bit. -/
  shift : Nat
  deriving DecidableEq, Repr, Inhabited

namespace BankField

/-- The bank number in a master address. -/
def bank (f : BankField) (address : Nat) : Nat :=
  address >>> f.shift % 1 <<< f.bits

/-- The bank-local address: the master address with its bank field taken out, and what was above it
moved down. -/
def bankLocal (f : BankField) (address : Nat) : Nat :=
  (address >>> (f.shift + f.bits)) <<< f.shift + address % 1 <<< f.shift

/-- The master address with a bank number put into a bank-local address. The number is laid
over the row bits where it is wider than the field, and bits above the address width are
dropped. -/
def compose (f : BankField) (bank inner : Nat) : Nat :=
  ((inner >>> f.shift) <<< (f.shift + f.bits) ||| bank <<< f.shift |||
    inner % 1 <<< f.shift) % addressBound

end BankField

/-! ### The whole map -/

/-- Both halves of the map from master addresses to places in the memory. -/
structure AddressMap where
  /-- The part applied between the masters and the banks. -/
  field : BankField
  /-- The part applied within a bank. -/
  split : RowSplit
  deriving DecidableEq, Repr, Inhabited

namespace AddressMap

/-- The place at a master address. The bits above the fields make no difference to it. -/
def decode (m : AddressMap) (address : Nat) : Location :=
  let inner := m.field.bankLocal address
  ⟨m.field.bank address, m.split.row inner, m.split.col inner⟩

/-- The master address of a place, as traffic generators need it. Parts that are wider than their
fields are cut off or laid over the next one. -/
def encode (m : AddressMap) (l : Location) : Nat :=
  m.field.compose l.bank (m.split.address l.row l.col)

end AddressMap

end DramScheduler
