import DramScheduler.Proofs.Checked.Traffic

/-!
# The addresses of a traffic pattern

A generator makes a bank, a row and a word of the number of a request, each by a division and a
remainder of its own, and leaves it to the address map to lay them over one another. For the
sequential pattern nothing is lost on the way: the three are the digits of the number, so what is
laid together is the number again, as many rows up as the master starts, and cut to the width of an
address. The other patterns give rows that need not exist, of which the map takes the bits that do.

## Main results

* `AddressMap.encode_digits` — the digits of a number are laid together to the number;
* `Traffic.address_next_lt` — every address has the width of the address map;
* `Traffic.address_of_sequential`, `Traffic.decode_address_of_rowConflict` — two of the patterns,
  over a run;
* `Traffic.new_keepsPattern` — the addresses of a generator, request by request.
-/

namespace DramScheduler

/-! ### Laying locations together -/

/-- A number is joined from its digits, and the top digit counts on from any start. -/
theorem BankField.join_add_parts (f : BankField) (start n : Nat) :
    f.join (start + n / 2 ^ f.shift / 2 ^ f.bits) (f.bank n) (n % 2 ^ f.shift) =
      start * 2 ^ (f.bits + f.shift) + n := by
  have parts := f.join_parts n
  rw [join] at parts ⊢
  rw [Nat.pow_add]
  calc ((start + n / 2 ^ f.shift / 2 ^ f.bits) * 2 ^ f.bits + f.bank n) * 2 ^ f.shift +
        n % 2 ^ f.shift
      = start * (2 ^ f.bits * 2 ^ f.shift) +
        ((n / 2 ^ f.shift / 2 ^ f.bits * 2 ^ f.bits + f.bank n) * 2 ^ f.shift +
          n % 2 ^ f.shift) := by ring
    _ = start * (2 ^ f.bits * 2 ^ f.shift) + n := by rw [parts]

namespace AddressMap

variable {m : AddressMap} {bank word : Nat}

/-- Bits of a row number above the row bits do not get into an address. -/
theorem encode_mod_row (m : AddressMap) (l : Location) :
    m.encode { l with row := l.row % 2 ^ m.split.rowBits } = m.encode l := by
  rw [encode, encode, RowSplit.address, RowSplit.address, Nat.one_shiftLeft, Nat.mod_mod]

/-- A location is covered once its row is cut to the row bits, if its bank and its word exist. -/
theorem covers_mod_row (fits : m.Fits) (numbered : bank < 2 ^ m.field.bits)
    (narrow : word < 2 ^ m.field.shift) (row : Nat) :
    m.Covers ⟨bank, row % 2 ^ m.split.rowBits, word <<< m.split.burstBits⟩ := by
  rw [fits.shift_eq] at narrow
  refine ⟨numbered, Nat.mod_lt _ (Nat.two_pow_pos _), ?_, ?_⟩
  · rw [Nat.shiftLeft_eq, Nat.pow_add]
    exact Nat.mul_lt_mul_of_pos_right narrow (Nat.two_pow_pos _)
  · rw [Nat.shiftLeft_eq]
    exact Nat.dvd_mul_left ..

/-- **The digits of a number are laid together to the number**, as many rows up as given, less the
bits above the width of the map. The top digit has no bound of its own, so the carry goes where it
should. -/
theorem encode_digits (fits : m.Fits) (start n : Nat) :
    m.encode ⟨n / 2 ^ m.field.shift % 2 ^ m.field.bits,
        (start + n / (2 ^ m.field.shift * 2 ^ m.field.bits)) % 2 ^ m.split.rowBits,
        (n % 2 ^ m.field.shift) <<< m.split.burstBits⟩ =
      (start * 2 ^ (m.field.bits + m.field.shift) + n) % 2 ^ m.width := by
  have narrow : n % 2 ^ m.field.shift < 2 ^ m.field.shift := Nat.mod_lt _ (Nat.two_pow_pos _)
  have numbered : m.field.bank n < 2 ^ m.field.bits := m.field.bank_lt n
  have digit : n / 2 ^ m.field.shift % 2 ^ m.field.bits = m.field.bank n := by
    rw [BankField.bank, Nat.one_shiftLeft, Nat.shiftRight_eq_div_pow]
  rw [digit, encode_eq_join fits (covers_mod_row fits numbered narrow _), Nat.shiftLeft_eq,
    Nat.mul_div_cancel _ (Nat.two_pow_pos _), BankField.join_mod numbered narrow,
    ← Nat.div_div_eq_div_mul, BankField.join_add_parts, width]

end AddressMap

/-! ### One request -/

namespace Traffic

variable {t : Traffic} {c : Config} {n : Nat}

/-- Making up a location takes draws and changes nothing else. -/
theorem location_snd (t : Traffic) (c : Config) :
    ∃ state, (t.location c).2 = { t with state := state } := by
  rw [location]
  split
  · exact ⟨t.state, rfl⟩
  · exact ⟨_, rfl⟩
  · exact ⟨t.state, rfl⟩

/-- A request moves the generator on to the next number. -/
theorem next_snd (t : Traffic) (c : Config) :
    ∃ state, (t.next c).2 = { t with state := state, count := t.count + 1 } := by
  obtain ⟨state, after⟩ := t.location_snd c
  rw [next]
  dsimp only
  rw [after]
  exact ⟨_, rfl⟩

/-- The bank and the word of a location exist; its row is cut to the row bits later on. -/
theorem exists_location (a : c.Accepted) (t : Traffic) :
    ∃ bank row word, (t.location c).1 = ⟨bank, row, word <<< c.burstBits⟩ ∧
      bank < 2 ^ c.bankIndexBits ∧ word < 2 ^ c.wordBits := by
  have banks : ∀ n, n % c.banks < 2 ^ c.bankIndexBits := fun n =>
    a.banks_eq ▸ Nat.mod_lt n (a.banks_eq ▸ Nat.two_pow_pos _)
  have words : ∀ n, n % 1 <<< c.wordBits < 2 ^ c.wordBits := fun n =>
    Nat.one_shiftLeft _ ▸ Nat.mod_lt n (Nat.one_shiftLeft _ ▸ Nat.two_pow_pos _)
  rw [location]
  cases t.pattern with
  | sequential => exact ⟨_, _, _, rfl, banks _, words _⟩
  | random => exact ⟨_, _, _, rfl, banks _, words _⟩
  | rowConflict => exact ⟨_, _, _, rfl, Nat.two_pow_pos _, words _⟩

/-- **Every address has the width of the address map**, for each of the patterns: bank and word
exist, and the map cuts the row. -/
theorem address_next_lt (a : c.Accepted) (t : Traffic) :
    (t.next c).1.address < 2 ^ c.addressWidth := by
  obtain ⟨bank, row, word, place, numbered, narrow⟩ := t.exists_location a
  show c.addressMap.encode (t.location c).1 < _
  rw [place, ← AddressMap.encode_mod_row, a.addressWidth_eq]
  exact AddressMap.encode_lt a.addressMap_fits
    (AddressMap.covers_mod_row a.addressMap_fits numbered narrow row)

/-- **The sequential pattern counts** controller words, from the first row of the master on. -/
theorem address_next_of_sequential (a : c.Accepted) (pattern : t.pattern = .sequential) :
    (t.next c).1.address =
      (t.master * 64 * 2 ^ (c.bankIndexBits + c.wordBits) + t.count) % 2 ^ c.addressWidth := by
  show c.addressMap.encode (t.location c).1 = _
  rw [location, pattern, a.addressWidth_eq, a.banks_eq, Nat.one_shiftLeft, Nat.one_shiftLeft]
  exact AddressMap.encode_digits a.addressMap_fits _ _

/-- **The pattern of row conflicts stays in the first bank** and goes back and forth between two
rows. -/
theorem decode_next_of_rowConflict (a : c.Accepted) (pattern : t.pattern = .rowConflict) :
    c.addressMap.decode (t.next c).1.address =
      ⟨0, (t.count % 2 + 2 * t.master) % 2 ^ c.geometry.rowBits,
        (t.count % 2 ^ c.wordBits) <<< c.burstBits⟩ := by
  have covered : c.addressMap.Covers ⟨0, (t.count % 2 + 2 * t.master) % 2 ^ c.geometry.rowBits,
      (t.count % 2 ^ c.wordBits) <<< c.burstBits⟩ :=
    AddressMap.covers_mod_row a.addressMap_fits (Nat.two_pow_pos _)
      (Nat.mod_lt _ (Nat.two_pow_pos _)) _
  show c.addressMap.decode (c.addressMap.encode (t.location c).1) = _
  rw [← AddressMap.encode_mod_row, location, pattern, Nat.one_shiftLeft]
  exact AddressMap.decode_encode a.addressMap_fits covered

/-! ### Request by request -/

/-- The generator after a number of requests. -/
def after (t : Traffic) (c : Config) : Nat → Traffic
  | 0 => t
  | n + 1 => ((t.after c n).next c).2

/-- The address of the request with a number, from zero on. -/
def address (t : Traffic) (c : Config) (n : Nat) : Nat :=
  ((t.after c n).next c).1.address

/-- A generator goes on to count its requests, and keeps what it was made for. Induction on the
number of requests. -/
theorem after_eq (t : Traffic) (c : Config) (n : Nat) :
    ∃ state, t.after c n = { t with state := state, count := t.count + n } := by
  induction n with
  | zero => exact ⟨t.state, rfl⟩
  | succ n ih =>
    obtain ⟨before, shown⟩ := ih
    obtain ⟨state, moved⟩ := (t.after c n).next_snd c
    refine ⟨state, ?_⟩
    rw [after, moved, shown]
    rfl

/-- **The requests of a run are made up without faults** as long as they can be counted. The row of
a master is a sum and a product of near numbers. -/
theorem nextM_after_eq_ok (a : c.Accepted) (near : t.master < 2 ^ 31)
    (counted : t.count + n + 1 < 2 ^ 64) :
    (t.after c n).nextM c = .ok ((t.after c n).next c) := by
  obtain ⟨state, shown⟩ := t.after_eq c n
  rw [shown]
  exact nextM_eq_ok a near counted

/-- **Sequential requests count on** from the start of their master, one controller word after
another. -/
theorem address_of_sequential (a : c.Accepted) (pattern : t.pattern = .sequential) (n : Nat) :
    t.address c n = (t.master * 64 * 2 ^ (c.bankIndexBits + c.wordBits) + (t.count + n)) %
      2 ^ c.addressWidth := by
  obtain ⟨state, shown⟩ := t.after_eq c n
  rw [address, shown]
  exact address_next_of_sequential a pattern

/-- **Row conflicts alternate** between two rows of the first bank, as the numbers of the requests
are even and odd. -/
theorem decode_address_of_rowConflict (a : c.Accepted) (pattern : t.pattern = .rowConflict)
    (n : Nat) :
    c.addressMap.decode (t.address c n) =
      ⟨0, ((t.count + n) % 2 + 2 * t.master) % 2 ^ c.geometry.rowBits,
        ((t.count + n) % 2 ^ c.wordBits) <<< c.burstBits⟩ := by
  obtain ⟨state, shown⟩ := t.after_eq c n
  rw [address, shown]
  exact decode_next_of_rowConflict a pattern

/-- Numbers of different parity differ in the lowest bit, which every geometry has. -/
theorem mod_two_pow_ne {bits a b : Nat} (some_bit : 1 ≤ bits) (parity : a % 2 ≠ b % 2) :
    a % 2 ^ bits ≠ b % 2 ^ bits := by
  have even : 2 ∣ 2 ^ bits := dvd_pow_self 2 (Nat.one_le_iff_ne_zero.1 some_bit)
  intro same
  have low := congrArg (· % 2) same
  rw [Nat.mod_mod_of_dvd _ even, Nat.mod_mod_of_dvd _ even] at low
  exact parity low

/-- What the addresses of a generator are, whatever its seed and its share of writes, request by
request. -/
structure KeepsPattern (t : Traffic) (c : Config) : Prop where
  /-- No operation on the way to a request fails while the requests can be counted. -/
  carriedOut : ∀ n, n + 1 < 2 ^ 64 → (t.after c n).nextM c = .ok ((t.after c n).next c)
  /-- Every address has the width of the address map. -/
  address_lt : ∀ n, t.address c n < 2 ^ c.addressWidth
  /-- Sequential requests count on from the start of their master. -/
  sequential : t.pattern = .sequential → ∀ n, t.address c n =
    (t.master * 64 * 2 ^ (c.bankIndexBits + c.wordBits) + n) % 2 ^ c.addressWidth
  /-- They walk from one controller word to the next, and around at the end. -/
  consecutive : t.pattern = .sequential → ∀ n,
    t.address c (n + 1) = (t.address c n + 1) % 2 ^ c.addressWidth
  /-- Row conflicts go back and forth between two rows of the first bank. -/
  rowConflict : t.pattern = .rowConflict → ∀ n, c.addressMap.decode (t.address c n) =
    ⟨0, (n % 2 + 2 * t.master) % 2 ^ c.geometry.rowBits, (n % 2 ^ c.wordBits) <<< c.burstBits⟩
  /-- Row conflicts are what they are called: one bank, and another row for each request. -/
  conflicts : t.pattern = .rowConflict → ∀ n,
    (c.addressMap.decode (t.address c (n + 1))).bank =
        (c.addressMap.decode (t.address c n)).bank ∧
      (c.addressMap.decode (t.address c (n + 1))).row ≠
        (c.addressMap.decode (t.address c n)).row

/-- **Every generator keeps to its pattern** in an accepted configuration, whatever its seed and its
share of writes. -/
theorem new_keepsPattern (accepted : c.validate = .ok ()) {master : Nat} (near : master < 2 ^ 31)
    (pattern : TrafficPattern) (seed : UInt64) (writes : Nat) :
    (new pattern master seed writes).KeepsPattern c := by
  have a := Config.validate_eq_ok_iff.1 accepted
  have start : ∀ n, (new pattern master seed writes).count + n = n := Nat.zero_add
  have walks : pattern = .sequential → ∀ n, (new pattern master seed writes).address c n =
      (master * 64 * 2 ^ (c.bankIndexBits + c.wordBits) + n) % 2 ^ c.addressWidth := by
    intro sequential n
    rw [address_of_sequential a sequential, start]
    rfl
  have alternates : pattern = .rowConflict → ∀ n,
      c.addressMap.decode ((new pattern master seed writes).address c n) =
        ⟨0, (n % 2 + 2 * master) % 2 ^ c.geometry.rowBits,
          (n % 2 ^ c.wordBits) <<< c.burstBits⟩ := by
    intro rowConflict n
    rw [decode_address_of_rowConflict a rowConflict, start]
    rfl
  constructor
  case carriedOut =>
    intro n fits
    exact nextM_after_eq_ok a near (by rwa [start])
  case address_lt =>
    intro n
    exact address_next_lt a _
  case sequential => exact walks
  case consecutive =>
    intro sequential n
    rw [walks sequential, walks sequential, Nat.mod_add_mod, Nat.add_assoc]
  case rowConflict => exact alternates
  case conflicts =>
    intro rowConflict n
    rw [alternates rowConflict, alternates rowConflict]
    exact ⟨rfl, mod_two_pow_ne a.rowBits.1 (by omega)⟩

/-- The last master that there can be, over the widest geometry. -/
theorem new_keepsPattern_of_widestAddress :
    Config.widestAddress.validate = .ok () ∧ 2147483647 < 2 ^ 31 ∧
      ∀ pattern, (new pattern 2147483647 0 50).KeepsPattern Config.widestAddress :=
  ⟨by decide, by decide, fun pattern => new_keepsPattern (by decide) (by decide) pattern 0 50⟩

-- the second master of a small memory starts 64 rows up; its third request is for the next bank
example :
    let small : Config := { geometry := { bankBits := 1, rowBits := 8, colBits := 3 } }
    (List.range 3).map (fun n =>
      small.addressMap.decode ((new .sequential 1 0 50).address small n)) =
      [⟨0, 64, 0⟩, ⟨0, 64, 4⟩, ⟨1, 64, 0⟩] := by decide

end Traffic

end DramScheduler
