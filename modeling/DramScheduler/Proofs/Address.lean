import DramScheduler.Address
import DramScheduler.Proofs.Config.Acceptance
import Mathlib.Tactic.Ring

/-!
# The address map is a bijection

A master address holds three numbers one above the other: the word index of a burst at the
bottom, the bank number, and on top whatever is left, of which the row takes the lowest bits.
`BankField.join` is the address with given parts. Every function of the map is described by
what it does to joined parts, once for the field that the crossbar takes out and once for the
split within a bank; the map as a whole is put together from these.

The widths of an accepted configuration make the parts fit (`AddressMap.Fits`): a row and a
column have the width of the address bus at most, and nothing reaches the top of a 64-bit
address, so no bit is dropped on the way in.

## Main results

* `AddressMap.decode_encode` — a location within the geometry comes back from its address;
* `AddressMap.encode_decode` — an address comes back from its location up to the bits above
  the address width;
* `Config.addressMap_bijective` — both for every accepted configuration, with the consequence
  that addresses share a location exactly if they agree below the address width.
-/

namespace DramScheduler

/-! ### Numbers of two digits -/

/-- The upper digits of a number are found by division. -/
theorem mul_add_div_of_lt {digits base low : Nat} (narrow : low < base) :
    (digits * base + low) / base = digits := by
  rw [Nat.mul_comm, Nat.mul_add_div (Nat.zero_lt_of_lt narrow), Nat.div_eq_of_lt narrow,
    Nat.add_zero]

/-- A number with few upper digits is small. -/
theorem mul_add_lt_mul {digits bound base low : Nat} (few : digits < bound)
    (narrow : low < base) : digits * base + low < bound * base :=
  calc digits * base + low < digits * base + base := Nat.add_lt_add_left narrow _
    _ = (digits + 1) * base := (Nat.succ_mul _ _).symm
    _ ≤ bound * base := Nat.mul_le_mul_right _ few

/-! ### The bank field -/

namespace BankField

variable {f : BankField} {high bank low rowBits : Nat}

/-- The address with the given parts below, in and above the bank field. -/
def join (f : BankField) (high bank low : Nat) : Nat :=
  (high * 2 ^ f.bits + bank) * 2 ^ f.shift + low

/-- Whatever the address, its bank number has the width of the field. -/
theorem bank_lt (f : BankField) (address : Nat) : f.bank address < 2 ^ f.bits := by
  rw [bank, Nat.one_shiftLeft]
  exact Nat.mod_lt _ (Nat.two_pow_pos _)

/-- Every address is joined from its parts, so what holds of joined parts holds of every address. -/
theorem join_parts (f : BankField) (address : Nat) :
    f.join (address / 2 ^ f.shift / 2 ^ f.bits) (f.bank address) (address % 2 ^ f.shift) =
      address := by
  rw [join, bank, Nat.one_shiftLeft, Nat.shiftRight_eq_div_pow, Nat.div_add_mod',
    Nat.div_add_mod']

/-- Parts that fit are joined below the sum of their widths. -/
theorem join_lt (within : high < 2 ^ rowBits) (numbered : bank < 2 ^ f.bits)
    (narrow : low < 2 ^ f.shift) : f.join high bank low < 2 ^ (rowBits + f.bits + f.shift) := by
  rw [Nat.pow_add, Nat.pow_add]
  exact mul_add_lt_mul (mul_add_lt_mul within numbered) narrow

/-- What lies above the row bits is above the address width. -/
theorem join_mod (numbered : bank < 2 ^ f.bits) (narrow : low < 2 ^ f.shift) :
    f.join (high % 2 ^ rowBits) bank low =
      f.join high bank low % 2 ^ (rowBits + f.bits + f.shift) := by
  have split : f.join high bank low = f.join (high % 2 ^ rowBits) bank low +
      2 ^ (rowBits + f.bits + f.shift) * (high / 2 ^ rowBits) := by
    conv_lhs => rw [← Nat.div_add_mod high (2 ^ rowBits)]
    rw [join, join, Nat.pow_add, Nat.pow_add]
    ring
  rw [split, Nat.add_mul_mod_self_left,
    Nat.mod_eq_of_lt (join_lt (Nat.mod_lt _ (Nat.two_pow_pos _)) numbered narrow)]

/-- The bank number of joined parts is the one that was put into the field. -/
theorem bank_join (numbered : bank < 2 ^ f.bits) (narrow : low < 2 ^ f.shift) :
    f.bank (f.join high bank low) = bank := by
  rw [BankField.bank, Nat.one_shiftLeft, Nat.shiftRight_eq_div_pow, join,
    mul_add_div_of_lt narrow, Nat.mul_add_mod_of_lt numbered]

/-- Taking the field out moves the part above it down. -/
theorem bankLocal_join (numbered : bank < 2 ^ f.bits) (narrow : low < 2 ^ f.shift) :
    f.bankLocal (f.join high bank low) = high * 2 ^ f.shift + low := by
  rw [bankLocal, Nat.one_shiftLeft, Nat.shiftLeft_eq, Nat.shiftRight_add,
    Nat.shiftRight_eq_div_pow, Nat.shiftRight_eq_div_pow, join, mul_add_div_of_lt narrow,
    mul_add_div_of_lt numbered, Nat.mul_add_mod_of_lt narrow]

/-- Putting a number into the field joins it with the parts of the bank-local address. What is laid
over each other does not overlap, so it is added. -/
theorem compose_eq_join (numbered : bank < 2 ^ f.bits) (narrow : low < 2 ^ f.shift)
    (fits : f.join high bank low < addressBound) :
    f.compose bank (high * 2 ^ f.shift + low) = f.join high bank low := by
  rw [compose, Nat.one_shiftLeft, Nat.shiftRight_eq_div_pow, mul_add_div_of_lt narrow,
    Nat.mul_add_mod_of_lt narrow, Nat.add_comm f.shift, Nat.shiftLeft_add,
    ← Nat.shiftLeft_or_distrib, ← Nat.shiftLeft_add_eq_or_of_lt numbered,
    ← Nat.shiftLeft_add_eq_or_of_lt narrow, Nat.shiftLeft_eq, Nat.shiftLeft_eq]
  exact Nat.mod_eq_of_lt fits

end BankField

/-! ### The split within a bank -/

namespace RowSplit

variable {s : RowSplit} {high word row col : Nat}

/-- The row is what lies above the word index, up to the row bits. -/
theorem row_pack (bus : s.rowBits ≤ 32) (narrow : word < 2 ^ s.wordBits) :
    s.row (high * 2 ^ s.wordBits + word) = high % 2 ^ s.rowBits := by
  have within : high % 2 ^ s.rowBits < busBound :=
    Nat.lt_of_lt_of_le (Nat.mod_lt _ (Nat.two_pow_pos _)) (Nat.pow_le_pow_right (by decide) bus)
  rw [RowSplit.row, Nat.one_shiftLeft, Nat.shiftRight_eq_div_pow, mul_add_div_of_lt narrow,
    Nat.mod_eq_of_lt within]

/-- The column is the word index with the bits inside a burst put back as zeros. -/
theorem col_pack (bus : s.wordBits + s.burstBits ≤ 32) (narrow : word < 2 ^ s.wordBits) :
    s.col (high * 2 ^ s.wordBits + word) = word * 2 ^ s.burstBits := by
  have within : word * 2 ^ s.burstBits < busBound :=
    calc word * 2 ^ s.burstBits < 2 ^ s.wordBits * 2 ^ s.burstBits :=
          Nat.mul_lt_mul_of_pos_right narrow (Nat.two_pow_pos _)
      _ = 2 ^ (s.wordBits + s.burstBits) := (Nat.pow_add ..).symm
      _ ≤ busBound := Nat.pow_le_pow_right (by decide) bus
  rw [RowSplit.col, Nat.one_shiftLeft, Nat.shiftLeft_eq, Nat.mul_add_mod_of_lt narrow,
    Nat.mod_eq_of_lt within]

/-- A row and a column that fit are laid above each other. -/
theorem address_eq (fits : s.rowBits + s.wordBits ≤ 64) (within : row < 2 ^ s.rowBits)
    (narrow : col / 2 ^ s.burstBits < 2 ^ s.wordBits) :
    s.address row col = row * 2 ^ s.wordBits + col / 2 ^ s.burstBits := by
  have below : row * 2 ^ s.wordBits + col / 2 ^ s.burstBits < addressBound :=
    calc row * 2 ^ s.wordBits + col / 2 ^ s.burstBits < 2 ^ s.rowBits * 2 ^ s.wordBits :=
          mul_add_lt_mul within narrow
      _ = 2 ^ (s.rowBits + s.wordBits) := (Nat.pow_add ..).symm
      _ ≤ addressBound := Nat.pow_le_pow_right (by decide) fits
  rw [address, Nat.one_shiftLeft, Nat.one_shiftLeft, Nat.shiftLeft_eq,
    Nat.shiftRight_eq_div_pow, Nat.mod_eq_of_lt within, Nat.mod_eq_of_lt narrow,
    Nat.mod_eq_of_lt below]

end RowSplit

/-! ### The whole map -/

/-- A burst lies within a geometry: its bank, row and column exist, and it starts at a multiple of
its length. -/
structure Location.Within (l : Location) (banks rowBits colBits burstLength : Nat) : Prop where
  bank_lt : l.bank < banks
  row_lt : l.row < 2 ^ rowBits
  col_lt : l.col < 2 ^ colBits
  /-- The column is the first of a burst. -/
  aligned : burstLength ∣ l.col

namespace AddressMap

variable {m : AddressMap} {l : Location} {high bank word : Nat}

/-- The width of the addresses that a map tells apart. -/
def width (m : AddressMap) : Nat :=
  m.split.rowBits + m.field.bits + m.field.shift

/-- The locations that a map tells apart. -/
def Covers (m : AddressMap) (l : Location) : Prop :=
  l.Within (2 ^ m.field.bits) m.split.rowBits (m.split.wordBits + m.split.burstBits)
    (2 ^ m.split.burstBits)

/-- Both halves of a map look at the same word index, and no number is wider than what carries
it. -/
structure Fits (m : AddressMap) : Prop where
  /-- The bank field is put right above the words of a row. -/
  shift_eq : m.field.shift = m.split.wordBits
  /-- A row is a word. -/
  rowBits_le : m.split.rowBits ≤ 32
  /-- So is a column. -/
  colBits_le : m.split.wordBits + m.split.burstBits ≤ 32
  /-- An address has 64 bits at most. -/
  width_le : m.width ≤ 64

/-- The place at an address with given parts: the bank is the field, the row what is above it, and
the column the word index below. -/
theorem decode_join (fits : m.Fits) (numbered : bank < 2 ^ m.field.bits)
    (narrow : word < 2 ^ m.field.shift) :
    m.decode (m.field.join high bank word) =
      ⟨bank, high % 2 ^ m.split.rowBits, word * 2 ^ m.split.burstBits⟩ := by
  have same := fits.shift_eq
  rw [decode, BankField.bank_join numbered narrow, BankField.bankLocal_join numbered narrow, same,
    RowSplit.row_pack fits.rowBits_le (same ▸ narrow),
    RowSplit.col_pack fits.colBits_le (same ▸ narrow)]

/-- The word index of a covered location fits below the bank field. -/
theorem word_lt (fits : m.Fits) (covered : m.Covers l) :
    l.col / 2 ^ m.split.burstBits < 2 ^ m.field.shift := by
  have narrow := covered.col_lt
  rw [Nat.pow_add] at narrow
  rw [fits.shift_eq]
  exact Nat.div_lt_of_lt_mul (Nat.mul_comm (2 ^ m.split.wordBits) _ ▸ narrow)

/-- The address of a covered location is joined from its row, its bank and its word index. -/
theorem encode_eq_join (fits : m.Fits) (covered : m.Covers l) :
    m.encode l = m.field.join l.row l.bank (l.col / 2 ^ m.split.burstBits) := by
  have narrow := word_lt fits covered
  have below : m.field.join l.row l.bank (l.col / 2 ^ m.split.burstBits) < addressBound :=
    Nat.lt_of_lt_of_le (BankField.join_lt covered.row_lt covered.bank_lt narrow)
      (Nat.pow_le_pow_right (by decide) fits.width_le)
  have inner : m.split.rowBits + m.split.wordBits ≤ 64 := by
    have whole := fits.width_le
    rw [width, fits.shift_eq] at whole
    omega
  rw [encode, RowSplit.address_eq inner covered.row_lt (fits.shift_eq ▸ narrow), ← fits.shift_eq,
    BankField.compose_eq_join covered.bank_lt narrow below]

/-- Addresses of covered locations have the width of the map, so none needs a bit more than a master
has. -/
theorem encode_lt (fits : m.Fits) (covered : m.Covers l) : m.encode l < 2 ^ m.width := by
  rw [encode_eq_join fits covered]
  exact BankField.join_lt covered.row_lt covered.bank_lt (word_lt fits covered)

/-- **A covered location comes back from its address.** A column that starts a burst has no bits
inside it to be lost. -/
theorem decode_encode (fits : m.Fits) (covered : m.Covers l) : m.decode (m.encode l) = l := by
  rw [encode_eq_join fits covered, decode_join fits covered.bank_lt (word_lt fits covered),
    Nat.mod_eq_of_lt covered.row_lt, Nat.div_mul_cancel covered.aligned]

/-- Every address has a covered location, also one with bits above the width of the map. -/
theorem covers_decode (fits : m.Fits) (address : Nat) : m.Covers (m.decode address) := by
  have narrow : address % 2 ^ m.field.shift < 2 ^ m.field.shift := Nat.mod_lt _ (Nat.two_pow_pos _)
  rw [← m.field.join_parts address, decode_join fits (m.field.bank_lt address) narrow]
  refine ⟨m.field.bank_lt address, Nat.mod_lt _ (Nat.two_pow_pos _), ?_, Nat.dvd_mul_left ..⟩
  rw [fits.shift_eq] at narrow
  rw [fits.shift_eq, Nat.pow_add]
  exact Nat.mul_lt_mul_of_pos_right narrow (Nat.two_pow_pos _)

/-- **An address comes back from its location**, less the bits above the width of the map. -/
theorem encode_decode (fits : m.Fits) (address : Nat) :
    m.encode (m.decode address) = address % 2 ^ m.width := by
  have narrow : address % 2 ^ m.field.shift < 2 ^ m.field.shift := Nat.mod_lt _ (Nat.two_pow_pos _)
  have numbered := m.field.bank_lt address
  rw [encode_eq_join fits (covers_decode fits address)]
  conv_lhs => rw [← m.field.join_parts address, decode_join fits numbered narrow]
  rw [Nat.mul_div_cancel _ (Nat.two_pow_pos _), BankField.join_mod numbered narrow,
    m.field.join_parts address, width]

/-- **Addresses share a location exactly if they agree below the width of the map.** Both directions
follow from the two round trips. -/
theorem decode_eq_decode_iff (fits : m.Fits) {a b : Nat} :
    m.decode a = m.decode b ↔ a % 2 ^ m.width = b % 2 ^ m.width := by
  rw [← encode_decode fits, ← encode_decode fits]
  constructor
  · intro same
    rw [same]
  · intro same
    have back := congrArg m.decode same
    rwa [decode_encode fits (covers_decode fits a), decode_encode fits (covers_decode fits b)]
      at back

/-- A map goes back and forth between the locations that a memory holds and the addresses of some
width. -/
structure Bijective (m : AddressMap) (holds : Location → Prop) (width : Nat) : Prop where
  /-- A location that is held has an address of the width, and comes back from it. -/
  location : ∀ l, holds l → m.encode l < 2 ^ width ∧ m.decode (m.encode l) = l
  /-- An address leads to a location that is held, and comes back from it up to the bits above
  the width. -/
  address : ∀ address < addressBound,
    holds (m.decode address) ∧ m.encode (m.decode address) = address % 2 ^ width
  /-- Addresses that lead to one location differ in those bits only. -/
  shared : ∀ one < addressBound, ∀ other < addressBound,
    m.decode one = m.decode other ↔ one % 2 ^ width = other % 2 ^ width

/-- What a map covers and the addresses of its width correspond to each other, in both
directions. -/
theorem bijective (fits : m.Fits) : m.Bijective m.Covers m.width where
  location _ covered := ⟨encode_lt fits covered, decode_encode fits covered⟩
  address a _ := ⟨covers_decode fits a, encode_decode fits a⟩
  shared _ _ _ _ := decode_eq_decode_iff fits

end AddressMap

/-! ### The map of a configuration -/

namespace Config

variable {c : Config}

namespace Accepted

/-- No part of the address width is saturated in an accepted configuration. -/
theorem addressWidth_eq (a : c.Accepted) : c.addressWidth = c.addressMap.width := by
  have narrow := a.addressWidth_le
  have row := a.rowBits
  simp only [addressWidth, Word.add, Word.top_eq] at narrow ⊢
  simp only [AddressMap.width, addressMap, rowSplit, bankField, RowSplit.ofGeometry]
  omega

/-- A column is made of its word index and the bits inside a burst. -/
theorem colBits_eq (a : c.Accepted) : c.wordBits + c.burstBits = c.geometry.colBits :=
  Nat.sub_add_cancel a.colBits.1.le

/-- The map of an accepted configuration fits: its widths are checked one by one, and their sum is
at most 63. -/
theorem addressMap_fits (a : c.Accepted) : c.addressMap.Fits where
  shift_eq := rfl
  rowBits_le := a.rowBits.2
  colBits_le := a.colBits_eq ▸ a.colBits.2
  width_le := a.addressWidth_eq ▸ a.addressWidth_le.trans (by decide)

end Accepted

/-- The bursts that exist in the memory of a configuration. -/
def Holds (c : Config) (l : Location) : Prop :=
  l.Within c.banks c.geometry.rowBits c.geometry.colBits c.phy.memoryType.burstLength

/-- The map covers what the memory holds: the banks of all ranks, and columns that start a burst. -/
theorem Accepted.covers_iff (a : c.Accepted) {l : Location} :
    c.addressMap.Covers l ↔ c.Holds l := by
  have columns : c.addressMap.split.wordBits + c.addressMap.split.burstBits = c.geometry.colBits :=
    a.colBits_eq
  have bursts : 2 ^ c.addressMap.split.burstBits = c.phy.memoryType.burstLength :=
    (Nat.one_shiftLeft _).symm
  rw [AddressMap.Covers, Holds, columns, bursts, a.banks_eq]
  rfl

/-- **The address map is a bijection** between the bursts of the memory and the addresses of the
address width, in every accepted configuration. -/
theorem addressMap_bijective (accepted : c.validate = .ok ()) :
    c.addressMap.Bijective c.Holds c.addressWidth := by
  have a := validate_eq_ok_iff.1 accepted
  have same : c.addressMap.Covers = c.Holds := funext fun _ => propext a.covers_iff
  rw [a.addressWidth_eq, ← same]
  exact AddressMap.bijective a.addressMap_fits

/-- A geometry that needs the widest address: rows as wide as the bus, columns of 28 bits with
eight beats a burst, and 64 banks in two ranks. -/
def widestAddress : Config where
  phy := { memoryType := .ddr3, ranks := 2 }
  geometry := { bankBits := 5, rowBits := 32, colBits := 28 }

/-- The widest geometry is an accepted one and uses 63 bits. -/
theorem addressMap_bijective_of_widestAddress :
    widestAddress.validate = .ok () ∧ widestAddress.addressWidth = 63 ∧
      widestAddress.addressMap.Bijective widestAddress.Holds widestAddress.addressWidth :=
  ⟨by decide, by decide, addressMap_bijective (by decide)⟩

end Config

end DramScheduler
