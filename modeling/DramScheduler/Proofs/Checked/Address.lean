import DramScheduler.Proofs.Address
import DramScheduler.Proofs.Checked.Arithmetic

/-!
# Addresses are taken apart and put together without faults

Fields of an address are taken out by shifts and masks of 64-bit words. Their widths are those of
a configuration, so a shift is within the width of the word as long as the address map of the
configuration fits (`AddressMap.Fits`), whatever the address is. An address that has more bits than
the map reads loses none of them to a shift, because the part above the bank field moves down.

In the other direction the fields are laid over one another, each masked and shifted by itself. The
bits that leave the word are lost one field at a time, which comes to the same as losing them at the
end.

## Main results

* `BankField.bankM_eq_ok`, `BankField.bankLocalM_eq_ok` — the parts that the crossbar takes out;
* `RowSplit.rowM_eq_ok`, `RowSplit.colM_eq_ok` — the parts that a bank takes out;
* `AddressMap.encodeM_eq_ok` — the address of a location.
-/

namespace DramScheduler

open Checked

/-! ### The bank field -/

namespace BankField

variable {f : BankField}

/-- The bank number of an address, by a shift and a mask, as the crossbar finds it. -/
def bankM (f : BankField) (address : Nat) : Checked Nat := do
  let high ← shiftRight 64 address f.shift
  return high &&& (← mask 64 f.bits)

/-- The address with its bank field taken out. The two parts are joined by an or, since they have no
bit in common. -/
def bankLocalM (f : BankField) (address : Nat) : Checked Nat := do
  let words ← mask 64 f.shift
  let high ← shiftRight 64 address (← add 32 f.shift f.bits)
  return (← shiftLeft 64 high f.shift) ||| address &&& words

/-- The master address with a bank number put into a bank-local address. -/
def composeM (f : BankField) (bank inner : Nat) : Checked Nat := do
  let words ← mask 64 f.shift
  let high ← shiftRight 64 inner f.shift
  return (← shiftLeft 64 high (← add 32 f.shift f.bits)) ||| (← shiftLeft 64 bank f.shift) |||
    inner &&& words

/-- The bank number is taken out without faults if the field lies within an address. -/
theorem bankM_eq_ok (narrow : f.shift + f.bits < 64) (address : Nat) :
    f.bankM address = .ok (f.bank address) := by
  have first : shiftRight 64 address f.shift = .ok (address >>> f.shift) :=
    shiftRight_eq_ok (by omega)
  have second : mask 64 f.bits = .ok (2 ^ f.bits - 1) := mask_eq_ok (by omega)
  rw [bankM, first, ok_bind, second, ok_bind, bank, Nat.one_shiftLeft,
    ← Nat.and_two_pow_sub_one_eq_mod]
  rfl

/-- The bank field is taken out of an address without faults. What is shifted up again was shifted
down further before, so no bit of the address is lost. -/
theorem bankLocalM_eq_ok (narrow : f.shift + f.bits < 64) {address : Nat}
    (word : address < addressBound) : f.bankLocalM address = .ok (f.bankLocal address) := by
  have first : mask 64 f.shift = .ok (2 ^ f.shift - 1) := mask_eq_ok (by omega)
  have place : add 32 f.shift f.bits = .ok (f.shift + f.bits) := add_eq_ok (by omega)
  have second : shiftRight 64 address (f.shift + f.bits) =
      .ok (address >>> (f.shift + f.bits)) := shiftRight_eq_ok narrow
  -- what was above the bank field has room below the top of the word
  have fits : (address >>> (f.shift + f.bits)) <<< f.shift < 2 ^ 64 := by
    rw [Nat.shiftLeft_eq, Nat.shiftRight_eq_div_pow, Nat.pow_add, ← Nat.div_div_eq_div_mul,
      Nat.div_right_comm]
    exact Nat.lt_of_le_of_lt ((Nat.div_mul_le_self _ _).trans (Nat.div_le_self _ _)) word
  have third : shiftLeft 64 (address >>> (f.shift + f.bits)) f.shift =
      .ok ((address >>> (f.shift + f.bits)) <<< f.shift) := by
    rw [shiftLeft_eq_ok (by omega), Nat.mod_eq_of_lt fits]
  rw [bankLocalM, first, ok_bind, place, ok_bind, second, ok_bind, third, ok_bind, bankLocal,
    Nat.one_shiftLeft, Nat.and_two_pow_sub_one_eq_mod,
    Nat.shiftLeft_add_eq_or_of_lt (Nat.mod_lt _ (Nat.two_pow_pos _))]
  rfl

/-- A bank number is put into an address without faults. Bits that leave the word are lost by the
parts alone or by the whole, which is the same. -/
theorem composeM_eq_ok (narrow : f.shift + f.bits < 64) (bank inner : Nat) :
    f.composeM bank inner = .ok (f.compose bank inner) := by
  have first : mask 64 f.shift = .ok (2 ^ f.shift - 1) := mask_eq_ok (by omega)
  have second : shiftRight 64 inner f.shift = .ok (inner >>> f.shift) := shiftRight_eq_ok (by omega)
  have place : add 32 f.shift f.bits = .ok (f.shift + f.bits) := add_eq_ok (by omega)
  have third : shiftLeft 64 (inner >>> f.shift) (f.shift + f.bits) =
      .ok ((inner >>> f.shift) <<< (f.shift + f.bits) % 2 ^ 64) := shiftLeft_eq_ok narrow
  have fourth : shiftLeft 64 bank f.shift = .ok (bank <<< f.shift % 2 ^ 64) :=
    shiftLeft_eq_ok (by omega)
  have low : inner % 2 ^ f.shift < 2 ^ 64 :=
    Nat.lt_of_lt_of_le (Nat.mod_lt _ (Nat.two_pow_pos _))
      (Nat.pow_le_pow_right (by decide) (by omega))
  rw [composeM, first, ok_bind, second, ok_bind, place, ok_bind, third, ok_bind, fourth, ok_bind,
    compose, addressBound, Nat.one_shiftLeft, Nat.one_shiftLeft, Nat.or_mod_two_pow,
    Nat.or_mod_two_pow, Nat.mod_eq_of_lt low, Nat.and_two_pow_sub_one_eq_mod]
  rfl

end BankField

/-! ### Within a bank -/

namespace RowSplit

variable {s : RowSplit}

/-- The row of a bank-local address. The mask of the row bits is a constant of the machine. -/
def rowM (s : RowSplit) (address : Nat) : Checked Nat := do
  return ((← shiftRight 64 address s.wordBits) &&& (2 ^ s.rowBits - 1)) % busBound

/-- The first column of the burst at a bank-local address. -/
def colM (s : RowSplit) (address : Nat) : Checked Nat := do
  let words ← mask 64 s.wordBits
  return (← shiftLeft 64 (address &&& words) s.burstBits) % busBound

/-- The bank-local address of a row and a column. -/
def addressM (s : RowSplit) (row col : Nat) : Checked Nat := do
  let high ← shiftLeft 64 (row &&& (2 ^ s.rowBits - 1)) s.wordBits
  let words ← mask 64 s.wordBits
  return high ||| (← shiftRight 64 col s.burstBits) &&& words

/-- The row is taken out without faults, whatever the address is. -/
theorem rowM_eq_ok (narrow : s.wordBits + s.burstBits ≤ 32) (address : Nat) :
    s.rowM address = .ok (s.row address) := by
  have shifted : shiftRight 64 address s.wordBits = .ok (address >>> s.wordBits) :=
    shiftRight_eq_ok (by omega)
  rw [rowM, shifted, ok_bind, row, Nat.and_two_pow_sub_one_eq_mod, Nat.one_shiftLeft]
  rfl

/-- The column is taken out without faults, whatever the address is. -/
theorem colM_eq_ok (narrow : s.wordBits + s.burstBits ≤ 32) (address : Nat) :
    s.colM address = .ok (s.col address) := by
  have masked : mask 64 s.wordBits = .ok (2 ^ s.wordBits - 1) := mask_eq_ok (by omega)
  have shifted : shiftLeft 64 (address % 2 ^ s.wordBits) s.burstBits =
      .ok ((address % 2 ^ s.wordBits) <<< s.burstBits % 2 ^ 64) := shiftLeft_eq_ok (by omega)
  -- the address bus takes the low half of the word, which the shift leaves as it is
  have low : (address % 2 ^ s.wordBits) <<< s.burstBits % 2 ^ 64 % busBound =
      (address % 2 ^ s.wordBits) <<< s.burstBits % busBound :=
    Nat.mod_mod_of_dvd _ (by decide)
  rw [colM, masked, ok_bind, Nat.and_two_pow_sub_one_eq_mod, shifted, ok_bind, low, col,
    Nat.one_shiftLeft]
  rfl

/-- A row and a column are put together without faults. Their masks keep them from overlapping. -/
theorem addressM_eq_ok (narrow : s.wordBits + s.burstBits ≤ 32) (row col : Nat) :
    s.addressM row col = .ok (s.address row col) := by
  have high : shiftLeft 64 (row % 2 ^ s.rowBits) s.wordBits =
      .ok ((row % 2 ^ s.rowBits) <<< s.wordBits % 2 ^ 64) := shiftLeft_eq_ok (by omega)
  have masked : mask 64 s.wordBits = .ok (2 ^ s.wordBits - 1) := mask_eq_ok (by omega)
  have shifted : shiftRight 64 col s.burstBits = .ok (col >>> s.burstBits) :=
    shiftRight_eq_ok (by omega)
  have within : col >>> s.burstBits % 2 ^ s.wordBits < 2 ^ s.wordBits :=
    Nat.mod_lt _ (Nat.two_pow_pos _)
  have low : col >>> s.burstBits % 2 ^ s.wordBits < 2 ^ 64 :=
    Nat.lt_of_lt_of_le within (Nat.pow_le_pow_right (by decide) (by omega))
  rw [addressM, Nat.and_two_pow_sub_one_eq_mod, high, ok_bind, masked, ok_bind, shifted, ok_bind,
    address, addressBound, Nat.one_shiftLeft, Nat.one_shiftLeft, Nat.one_shiftLeft,
    Nat.shiftLeft_add_eq_or_of_lt within, Nat.or_mod_two_pow, Nat.mod_eq_of_lt low,
    Nat.and_two_pow_sub_one_eq_mod]
  rfl

end RowSplit

/-! ### The whole map -/

namespace AddressMap

/-- The address of a location, its row and column put together first. -/
def encodeM (m : AddressMap) (l : Location) : Checked Nat := do
  m.field.composeM l.bank (← m.split.addressM l.row l.col)

/-- **The address of a location** is made without faults by a map that fits. Its shifts are by less
than the width of an address. -/
theorem encodeM_eq_ok {m : AddressMap} (fits : m.Fits) (narrow : m.field.shift + m.field.bits < 64)
    (l : Location) : m.encodeM l = .ok (m.encode l) := by
  rw [encodeM, RowSplit.addressM_eq_ok fits.colBits_le, ok_bind,
    BankField.composeM_eq_ok narrow, encode]

end AddressMap

/-- The bank field of an accepted configuration has room in a 64-bit word. -/
theorem Config.Accepted.field_narrow {c : Config} (a : c.Accepted) :
    c.addressMap.field.shift + c.addressMap.field.bits < 64 := by
  have whole := a.addressWidth_le
  rw [a.addressWidth_eq, AddressMap.width] at whole
  omega

end DramScheduler
