import DramScheduler.Proofs.Checked.Address
import DramScheduler.Traffic.Generator

/-!
# Traffic is made up without faults

A generator computes row, bank and column by divisions and remainders of 64-bit words, and hands row
and column on as words of the address bus, which have 32 bits. In an accepted configuration the
numbers of rows, banks and words are words themselves and none of them is zero. What the pattern
makes of the number of a master comes on top: the rows of the master with the number `2 ^ 31` would
be cut off by the address bus.

## Main results

* `Traffic.newM_eq_ok` — a generator at its start;
* `Traffic.locationM_eq_ok` — where the next request goes;
* `Traffic.nextM_eq_ok` — the next request.
-/

namespace DramScheduler

open Checked

namespace Traffic

variable {t : Traffic} {c : Config}

/-- A generator, with the number of its master counted from one. The product with the constant wraps
and cannot fail. -/
def newM (pattern : TrafficPattern) (master : Nat) (seed : UInt64) (writes : Nat) :
    Checked Traffic := do
  let number ← add 64 master 1
  let state := (seed ^^^ (UInt64.ofNat number * seedStep)) ||| 1
  return { pattern, master, count := 0, state, writes }

/-- Draws a number below the bound, by a remainder. -/
def drawM (t : Traffic) (bound : Nat) : Checked (Nat × Traffic) := do
  let state := xorshift t.state
  return (← rem state.toNat bound, { t with state := state })

/-- The first column of a word, as the address bus takes it. -/
def columnM (c : Config) (word : Nat) : Checked Nat := do
  return (← shiftLeft 64 word c.burstBits) % busBound

/-- The location of the next request, and the generator after the draws it took. Row and column are
cut to what the address bus takes. -/
def locationM (t : Traffic) (c : Config) : Checked (Location × Traffic) := do
  let rows ← shiftLeft 64 1 c.geometry.rowBits
  let words ← shiftLeft 64 1 c.wordBits
  match t.pattern with
  | .sequential =>
    let start ← mul 64 t.master rowsPerMaster
    let row ← rem (← add 64 start (← div t.count (← mul 64 words c.banks))) rows
    let bank ← rem (← div t.count words) c.banks
    return (⟨bank, row % busBound, ← columnM c (← rem t.count words)⟩, t)
  | .random =>
    let (bank, t) ← t.drawM c.banks
    let (row, t) ← t.drawM rows
    let (word, t) ← t.drawM words
    return (⟨bank, row % busBound, ← columnM c word⟩, t)
  | .rowConflict =>
    let row ← add 64 (← rem t.count 2) (← mul 64 2 t.master)
    return (⟨0, row % busBound, ← columnM c (← rem t.count words)⟩, t)

/-- The next request of a generator, which counts its requests in 64 bits. -/
def nextM (t : Traffic) (c : Config) : Checked (Request × Traffic) := do
  let count ← add 64 t.count 1
  let (location, located) ← t.locationM c
  let address ← c.addressMap.encodeM location
  let (percent, drawn) ← located.drawM 100
  return (⟨address, percent < t.writes⟩, { drawn with count := count })

/-- A generator is started without faults, if its master has a number that can be counted. The
product with the number wraps and cannot fail. -/
theorem newM_eq_ok {master : Nat} (counted : master + 1 < 2 ^ 64) (pattern : TrafficPattern)
    (seed : UInt64) (writes : Nat) :
    newM pattern master seed writes = .ok (new pattern master seed writes) := by
  rw [newM, add_eq_ok counted, ok_bind]
  rfl

/-- A number is drawn without faults below a positive bound. -/
theorem drawM_eq_ok {bound : Nat} (positive : 0 < bound) (t : Traffic) :
    t.drawM bound = .ok (t.draw bound) := by
  rw [drawM, rem_eq_ok positive]
  rfl

/-- The column of a word that exists is within the address bus. -/
theorem columnM_eq_ok (a : c.Accepted) {word : Nat} (narrow : word < 2 ^ c.wordBits) :
    columnM c word = .ok (word <<< c.burstBits) := by
  have bus : c.wordBits + c.burstBits ≤ 32 := a.colBits_eq ▸ a.colBits.2
  have within : word <<< c.burstBits < busBound := by
    rw [Nat.shiftLeft_eq]
    calc word * 2 ^ c.burstBits < 2 ^ c.wordBits * 2 ^ c.burstBits :=
          Nat.mul_lt_mul_of_pos_right narrow (Nat.two_pow_pos _)
      _ = 2 ^ (c.wordBits + c.burstBits) := (Nat.pow_add ..).symm
      _ ≤ busBound := Nat.pow_le_pow_right (by decide) bus
  have fits : word <<< c.burstBits < 2 ^ 64 := Nat.lt_trans within (by decide)
  rw [columnM, shiftLeft_eq_ok (by omega), ok_bind, Nat.mod_eq_of_lt fits, Nat.mod_eq_of_lt within]
  rfl

/-- A power of two with an exponent of 32 at most is made without faults. -/
theorem shiftLeft_one_eq_ok {bits : Nat} (narrow : bits ≤ 32) :
    shiftLeft 64 1 bits = .ok (2 ^ bits) := by
  have fits : 2 ^ bits < 2 ^ 64 := Nat.pow_lt_pow_right (by decide) (by omega)
  rw [shiftLeft_eq_ok (by omega), Nat.one_shiftLeft, Nat.mod_eq_of_lt fits]

/-- The number of words in a row of all banks is a word, and there are several. -/
theorem span_bounds (a : c.Accepted) :
    2 ≤ 2 ^ c.wordBits * c.banks ∧ 2 ^ c.wordBits * c.banks < 2 ^ 64 := by
  have columns := a.colBits_eq
  have several := a.colBits.1
  have bus := a.colBits.2
  have banks : 1 ≤ c.banks ∧ c.banks ≤ 64 := ⟨a.banks_eq ▸ Nat.one_le_two_pow, a.banks_le⟩
  have words : 2 ^ 1 ≤ 2 ^ c.wordBits ∧ 2 ^ c.wordBits ≤ 2 ^ 32 :=
    ⟨Nat.pow_le_pow_right (by decide) (by omega), Nat.pow_le_pow_right (by decide) (by omega)⟩
  constructor
  · exact Nat.mul_le_mul words.1 banks.1
  · exact Nat.lt_of_le_of_lt (Nat.mul_le_mul words.2 banks.2) (by decide)

/-- **Where the next request goes** is computed without faults, and is on the address bus as it
is. -/
theorem locationM_eq_ok (a : c.Accepted) (near : t.master < 2 ^ 31) (counted : t.count < 2 ^ 64) :
    t.locationM c = .ok (t.location c) := by
  have rows : shiftLeft 64 1 c.geometry.rowBits = .ok (2 ^ c.geometry.rowBits) :=
    shiftLeft_one_eq_ok a.rowBits.2
  have words : shiftLeft 64 1 c.wordBits = .ok (2 ^ c.wordBits) :=
    shiftLeft_one_eq_ok ((Nat.sub_le _ _).trans a.colBits.2)
  have rows_pos : 0 < 2 ^ c.geometry.rowBits := Nat.two_pow_pos _
  have words_pos : 0 < 2 ^ c.wordBits := Nat.two_pow_pos _
  have banks_pos : 0 < c.banks := a.banks_eq ▸ Nat.two_pow_pos _
  have column : ∀ n, columnM c (n % 2 ^ c.wordBits) = .ok ((n % 2 ^ c.wordBits) <<< c.burstBits) :=
    fun n => columnM_eq_ok a (Nat.mod_lt n words_pos)
  have row : ∀ n, n % 2 ^ c.geometry.rowBits % busBound = n % 2 ^ c.geometry.rowBits := by
    intro n
    refine Nat.mod_eq_of_lt (Nat.lt_of_lt_of_le (Nat.mod_lt n rows_pos) ?_)
    exact Nat.pow_le_pow_right (by decide) a.rowBits.2
  rw [locationM, location, rows, ok_bind, words, ok_bind, Nat.one_shiftLeft, Nat.one_shiftLeft]
  cases t.pattern with
  | sequential =>
    obtain ⟨several, fits⟩ := span_bounds a
    have start : mul 64 t.master rowsPerMaster = .ok (t.master * rowsPerMaster) :=
      mul_eq_ok (by rw [rowsPerMaster]; omega)
    have half : t.count / (2 ^ c.wordBits * c.banks) ≤ t.count / 2 :=
      Nat.div_le_div_left several Nat.two_pos
    have sum : add 64 (t.master * rowsPerMaster) (t.count / (2 ^ c.wordBits * c.banks)) =
        .ok (t.master * rowsPerMaster + t.count / (2 ^ c.wordBits * c.banks)) :=
      add_eq_ok (by rw [rowsPerMaster]; omega)
    dsimp only
    rw [start, ok_bind, mul_eq_ok fits, ok_bind, div_eq_ok (Nat.lt_of_lt_of_le Nat.two_pos several),
      ok_bind, sum, ok_bind, rem_eq_ok rows_pos, ok_bind, div_eq_ok words_pos, ok_bind,
      rem_eq_ok banks_pos, ok_bind, rem_eq_ok words_pos, ok_bind, column, ok_bind, row]
    rfl
  | random =>
    dsimp only
    rw [drawM_eq_ok banks_pos, ok_bind, drawM_eq_ok rows_pos, ok_bind, drawM_eq_ok words_pos,
      ok_bind]
    dsimp only [draw]
    rw [column, ok_bind, row]
    rfl
  | rowConflict =>
    have pair : mul 64 2 t.master = .ok (2 * t.master) := mul_eq_ok (by omega)
    have sum : add 64 (t.count % 2) (2 * t.master) = .ok (t.count % 2 + 2 * t.master) :=
      add_eq_ok (by omega)
    have within : t.count % 2 + 2 * t.master < busBound := by
      rw [busBound, Nat.one_shiftLeft]
      omega
    dsimp only
    rw [rem_eq_ok Nat.two_pos, ok_bind, pair, ok_bind, sum, ok_bind, rem_eq_ok words_pos, ok_bind,
      column, ok_bind, Nat.mod_eq_of_lt within]
    rfl

/-- **The next request** is made up without faults, for near masters and as long as the requests can
be counted. -/
theorem nextM_eq_ok (a : c.Accepted) (near : t.master < 2 ^ 31) (counted : t.count + 1 < 2 ^ 64) :
    t.nextM c = .ok (t.next c) := by
  rw [nextM, add_eq_ok counted, ok_bind, locationM_eq_ok a near (Nat.lt_of_succ_lt counted),
    ok_bind]
  dsimp only
  rw [AddressMap.encodeM_eq_ok a.addressMap_fits a.field_narrow, ok_bind,
    drawM_eq_ok (by decide), ok_bind]
  rfl

end Traffic

end DramScheduler
