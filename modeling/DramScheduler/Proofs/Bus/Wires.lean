import DramScheduler.Dfi
import DramScheduler.Word
import Mathlib.Data.Nat.Bitwise

/-!
# Commands over the wires of a phase

What is put on a phase can be read off again. The rank travels in the chip selects and the bank on
the bank bus, so a bank number comes back as long as there are as many ranks and banks as the number
has; the kind of a command travels in the strobes.

The address bus is where something gets lost. It has one line for the flag of a command, and a
column that is wide enough has a bit on the same line (`Phase.flagOf`). A column command therefore
comes back with the bit taken out of its column and the flag raised for it (`Command.carried`).

## Main results

* `Phase.selectedRank_selectOnly` — the rank comes back;
* `Phase.bankNumber_drive` — the bank number comes back;
* `Phase.decode_drive` — **a command comes back** as `Command.carried` says;
* `Command.carried_eq_self_iff` — which commands come back as they are;
* `Phase.drive_carries` — the phases are a code for the commands that do.
-/

namespace DramScheduler

/-! ### The flag on the address bus -/

/-- Taking out a bit that is set leaves the other bits as they are. -/
theorem testBit_sub_two_pow {a i : Nat} (set : a.testBit i = true) (j : Nat) :
    (a - 2 ^ i).testBit j = (a.testBit j && j != i) := by
  obtain ⟨high, low, small, rfl⟩ : ∃ high low, low < 2 ^ i ∧
      a = 2 ^ (i + 1) * high + (2 ^ i + low) := by
    rw [Nat.testBit_eq_decide_div_mod_eq, decide_eq_true_eq] at set
    refine ⟨a / 2 ^ (i + 1), a % 2 ^ i, Nat.mod_lt _ (Nat.two_pow_pos i), ?_⟩
    have whole := Nat.div_add_mod a (2 ^ i)
    have half := Nat.div_add_mod (a / 2 ^ i) 2
    rw [set] at half
    rw [Nat.pow_succ, ← Nat.div_div_eq_div_mul, Nat.mul_assoc]
    rw [← half] at whole
    rw [Nat.mul_add, Nat.mul_one] at whole
    omega
  have inside : 2 ^ i + low < 2 ^ (i + 1) := by
    rw [Nat.pow_succ]
    omega
  have rest : 2 ^ (i + 1) * high + (2 ^ i + low) - 2 ^ i = 2 ^ (i + 1) * high + low := by omega
  rw [rest, Nat.testBit_two_pow_mul_add _ (Nat.lt_of_le_of_lt (Nat.le_add_left _ _) inside),
    Nat.testBit_two_pow_mul_add _ inside]
  rcases Nat.lt_trichotomy j i with below | rfl | above
  · rw [if_pos (by omega), if_pos (by omega), Nat.testBit_two_pow_add_gt below]
    simp [Nat.ne_of_lt below]
  · rw [if_pos (Nat.lt_succ_self j), Nat.testBit_lt_two_pow small]
    simp
  · rw [if_neg (by omega), if_neg (by omega)]
    simp [Nat.ne_of_gt above]

namespace Phase

open Command

/-- The flag is on its line alone. -/
theorem testBit_flag (on : Bool) (i : Nat) : (flag on).testBit i = (on && i == flagBit) := by
  cases on with
  | false => simp [flag]
  | true =>
    rw [flag, if_pos rfl, Nat.one_shiftLeft, Nat.testBit_two_pow, Bool.true_and, Bool.eq_iff_iff,
      decide_eq_true_eq, beq_iff_eq]
    exact eq_comm

/-- The flag comes back from its line. -/
@[simp] theorem flagOf_flag (on : Bool) : flagOf (flag on) = on := by
  rw [flagOf, testBit_flag, beq_self_eq_true, Bool.and_true]

/-- The flag line is high if the flag is raised or the column has a bit there. -/
@[simp] theorem flagOf_or_flag (address : Nat) (on : Bool) :
    flagOf (address ||| flag on) = (on || flagOf address) := by
  rw [flagOf, Nat.testBit_or, testBit_flag, beq_self_eq_true, Bool.and_true, Bool.or_comm]
  rfl

/-- Everything but the flag line comes back. -/
theorem testBit_withoutFlag (address i : Nat) :
    (withoutFlag address).testBit i = (address.testBit i && i != flagBit) := by
  rw [withoutFlag]
  split
  · next set =>
    rw [Nat.one_shiftLeft]
    exact testBit_sub_two_pow set i
  · next clear =>
    by_cases here : i = flagBit
    · rw [here, bne_self_eq_false, Bool.and_false]
      simpa [flagOf] using clear
    · rw [bne_iff_ne.2 here, Bool.and_true]

/-- A raised flag changes nothing about what comes back of the address. -/
@[simp] theorem withoutFlag_or_flag (address : Nat) (on : Bool) :
    withoutFlag (address ||| flag on) = withoutFlag address := by
  refine Nat.eq_of_testBit_eq fun i => ?_
  rw [testBit_withoutFlag, testBit_withoutFlag, Nat.testBit_or, testBit_flag]
  by_cases here : i = flagBit
  · rw [here, bne_self_eq_false, Bool.and_false, Bool.and_false]
  · rw [beq_false_of_ne here, Bool.and_false, Bool.or_false]

/-- There is nothing to take out if the line is low. -/
theorem withoutFlag_of_flagOf {address : Nat} (clear : flagOf address = false) :
    withoutFlag address = address := by
  rw [withoutFlag, clear, if_neg Bool.false_ne_true]

/-- What comes back of an address has its line low. -/
theorem flagOf_withoutFlag (address : Nat) : flagOf (withoutFlag address) = false := by
  rw [flagOf, testBit_withoutFlag, bne_self_eq_false, Bool.and_false]

/-! ### Ranks and banks -/

variable {ranks rank bankBits : Nat} {c : Command}

/-- The selects with one line pulled, line by line. -/
theorem testBit_selectOnly (few : ranks ≤ maxRanks) (inRange : rank < ranks) (line : Nat) :
    (selectOnly ranks rank).testBit line = (decide (line < ranks) && line != rank) := by
  have here : rank % maxRanks = rank := Nat.mod_eq_of_lt (Nat.lt_of_lt_of_le inRange few)
  have all : released ranks = 2 ^ ranks - 1 := by
    rw [released, Nat.min_eq_left few, Nat.one_shiftLeft]
  have high : (2 ^ ranks - 1).testBit rank = true := by
    rw [Nat.testBit_two_pow_sub_one, decide_eq_true inRange]
  rw [selectOnly, here, all, if_pos high, Nat.one_shiftLeft, testBit_sub_two_pow high,
    Nat.testBit_two_pow_sub_one]

/-- **The rank comes back** from the selects, as the number of the line that is pulled. The selects
are active low, so the search is for a line that is not set. -/
theorem selectedRank_selectOnly (few : ranks ≤ maxRanks) (several : 1 < ranks)
    (inRange : rank < ranks) : selectedRank (selectOnly ranks rank) = rank := by
  have lines := testBit_selectOnly few inRange
  have some_line : selectOnly ranks rank ≠ 0 := by
    intro zero
    have other : (selectOnly ranks rank).testBit (if rank = 0 then 1 else 0) = true := by
      rw [lines]
      split <;> simp <;> omega
    rw [zero, Nat.zero_testBit] at other
    cases other
  have found : (List.range maxRanks).find? (fun line => !(selectOnly ranks rank).testBit line) =
      some rank := by
    rw [List.find?_range_eq_some]
    refine ⟨by rw [lines]; simp, List.mem_range.2 (Nat.lt_of_lt_of_le inRange few), ?_⟩
    intro line below
    rw [lines, decide_eq_true (Nat.lt_trans below inRange), bne_iff_ne.2 (Nat.ne_of_lt below)]
    rfl
  rw [selectedRank, if_neg some_line, found, Option.getD_some]

/-- Commands for every rank name no bank. -/
theorem bank?_of_selectsAllRanks (whole : c.selectsAllRanks = true) : c.bank? = none := by
  cases c with
  | precharge bank every =>
    cases every with
    | false => cases whole
    | true => rfl
  | refresh bank =>
    cases bank with
    | none => rfl
    | some bank => cases whole
  | calibrate => rfl
  | nop => rfl
  | activate => cases whole
  | read => cases whole
  | write => cases whole

/-- The bank bus carries the low bits of a bank number. -/
theorem bank_drive (narrow : bankBits ≤ 32) :
    (drive c bankBits ranks).bank = c.bank?.getD 0 % 2 ^ bankBits := by
  have fits : 2 ^ bankBits ≤ bankBusBound := by
    rw [bankBusBound, Nat.one_shiftLeft]
    exact Nat.pow_le_pow_right (by decide) narrow
  rw [drive, Nat.one_shiftLeft]
  exact Nat.mod_eq_of_lt (Nat.lt_of_lt_of_le (Nat.mod_lt _ (Nat.two_pow_pos _)) fits)

/-- The selects carry the bits above. -/
theorem selectedRank_drive (few : ranks ≤ maxRanks)
    (inRange : c.bank?.getD 0 < ranks * 2 ^ bankBits) :
    selectedRank (drive c bankBits ranks).csN = c.bank?.getD 0 / 2 ^ bankBits := by
  have rank : c.bank?.getD 0 / 2 ^ bankBits < ranks :=
    (Nat.div_lt_iff_lt_mul (Nat.two_pow_pos _)).2 inRange
  rw [drive, Nat.shiftRight_eq_div_pow]
  split
  · next zero =>
    have first : selectedRank 0 = 0 := rfl
    rw [first]
    rw [Bool.or_eq_true, decide_eq_true_eq] at zero
    rcases zero with whole | single
    · rw [bank?_of_selectsAllRanks whole, Option.getD_none, Nat.zero_div]
    · exact (Nat.lt_one_iff.1 (Nat.lt_of_lt_of_le rank single)).symm
  · next several =>
    rw [Bool.or_eq_true, decide_eq_true_eq, not_or] at several
    exact selectedRank_selectOnly few (Nat.lt_of_not_le several.2) rank

/-- **The bank number comes back** from the selects and the bank bus, if there is a line for each of
its bits. -/
theorem bankNumber_drive (few : ranks ≤ maxRanks) (narrow : bankBits ≤ 32)
    (inRange : c.bank?.getD 0 < ranks * 2 ^ bankBits) :
    (drive c bankBits ranks).bankNumber bankBits = c.bank?.getD 0 := by
  have rank : c.bank?.getD 0 / 2 ^ bankBits < ranks :=
    (Nat.div_lt_iff_lt_mul (Nat.two_pow_pos _)).2 inRange
  have fits : (c.bank?.getD 0 / 2 ^ bankBits) <<< bankBits < bankBound := by
    rw [Nat.shiftLeft_eq]
    calc c.bank?.getD 0 / 2 ^ bankBits * 2 ^ bankBits
        < maxRanks * 2 ^ 32 := Nat.mul_lt_mul_of_lt_of_le (Nat.lt_of_lt_of_le rank few)
          (Nat.pow_le_pow_right (by decide) narrow) (Nat.two_pow_pos _)
      _ ≤ bankBound := by decide
  rw [bankNumber, selectedRank_drive few inRange, bank_drive narrow, Nat.mod_eq_of_lt fits,
    ← Nat.shiftLeft_add_eq_or_of_lt (Nat.mod_lt _ (Nat.two_pow_pos _)), Nat.shiftLeft_eq,
    Nat.div_add_mod']

end Phase

/-! ### Commands -/

namespace Command

open Phase

/-- What a command is read back as: a column command is told to close its row, too, if its column
has a bit where the flag is, and it loses that bit. -/
def carried : Command → Command
  | read bank col close => read bank (withoutFlag col) (close || flagOf col)
  | write bank col close => write bank (withoutFlag col) (close || flagOf col)
  | command => command

/-- The column that a command addresses. It is zero where a command names none. -/
def column : Command → Nat
  | read _ col _ | write _ col _ => col
  | _ => 0

/-- **Which commands come back as they are**: those whose columns have no bit where the flag is. Of
all other commands the wires carry everything. -/
theorem carried_eq_self_iff {command : Command} :
    command.carried = command ↔ flagOf command.column = false := by
  have kept : ∀ col, withoutFlag col = col ↔ flagOf col = false := by
    intro col
    constructor
    · intro same
      rw [← same]
      exact flagOf_withoutFlag col
    · exact withoutFlag_of_flagOf
  have columns : ∀ col close, (withoutFlag col = col ∧ (close || flagOf col) = close) ↔
      flagOf col = false := by
    intro col close
    rw [kept]
    constructor
    · exact And.left
    · intro clear
      exact ⟨clear, by rw [clear, Bool.or_false]⟩
  cases command with
  | read bank col close => simpa [carried, column] using columns col close
  | write bank col close => simpa [carried, column] using columns col close
  | nop => simp [carried, column, flagOf]
  | activate => simp [carried, column, flagOf]
  | precharge => simp [carried, column, flagOf]
  | refresh => simp [carried, column, flagOf]
  | calibrate => simp [carried, column, flagOf]

end Command

namespace Phase

open Command

variable {ranks bankBits : Nat} {c : Command}

/-- **A command comes back** from a phase, if there are ranks and banks enough. The cases are those
of the command, whose strobes tell its kind. -/
theorem decode_drive (few : ranks ≤ maxRanks) (narrow : bankBits ≤ 32)
    (all : ∀ bank, c = .precharge bank true → bank = 0)
    (inRange : c.bank?.getD 0 < ranks * 2 ^ bankBits) :
    (drive c bankBits ranks).decode bankBits = c.carried := by
  have number := bankNumber_drive few narrow inRange
  rw [decode, number]
  cases c with
  | nop => rfl
  | activate bank row => rfl
  | precharge bank every =>
    cases every with
    | false => simp [drive, pins, carried, bank?]
    | true => simp [drive, pins, carried, all bank rfl]
  | read bank col close => simp [drive, pins, carried, bank?]
  | write bank col close => simp [drive, pins, carried, bank?]
  | refresh bank => cases bank <;> simp [drive, pins, carried, bank?]
  | calibrate => rfl

/-- The flag line of a column command is high if the command closes its row, or if its column has
a bit there. -/
theorem flagOf_address_drive (moves : c.isColumn = true) :
    flagOf (drive c bankBits ranks).address = (c.autoPrecharge || flagOf c.column) := by
  cases c with
  | read bank col close => exact flagOf_or_flag col close
  | write bank col close => exact flagOf_or_flag col close
  | nop => cases moves
  | activate => cases moves
  | precharge => cases moves
  | refresh => cases moves
  | calibrate => cases moves

end Phase

/-! ### A code for commands -/

/-- The form of a command that comes back as it is, where there are so many banks. -/
structure Command.Canonical (banks : Nat) (command : Command) : Prop where
  /-- The bank that it is for, if it is for one, is one of them. -/
  bank_lt : ∀ bank, command.bank? = some bank → bank < banks
  /-- Where all banks are precharged, the one that is named has no meaning. -/
  precharge : ∀ bank, command = .precharge bank true → bank = 0
  /-- The column has no bit on the line of the flag. -/
  column : Phase.flagOf command.column = false

namespace Phase

open Command

variable {ranks bankBits : Nat} {c : Command}

/-- Without a bank that is named, the number on the wires is zero. -/
theorem getD_bank?_lt (canonical : c.Canonical (ranks * 2 ^ bankBits)) (some_rank : 0 < ranks) :
    c.bank?.getD 0 < ranks * 2 ^ bankBits := by
  cases named : c.bank? with
  | none => exact Nat.mul_pos some_rank (Nat.two_pow_pos _)
  | some bank => exact canonical.bank_lt bank named

/-- A command for one bank selects the rank of the bank, and no other one. -/
theorem testBit_csN_drive (few : ranks ≤ maxRanks) (several : 1 < ranks) {bank : Nat}
    (named : c.bank? = some bank) (inRange : bank < ranks * 2 ^ bankBits) (line : Nat) :
    (drive c bankBits ranks).csN.testBit line =
      (decide (line < ranks) && line != bank / 2 ^ bankBits) := by
  have single : c.selectsAllRanks = false := by
    by_contra whole
    rw [bank?_of_selectsAllRanks (Bool.not_eq_false _ ▸ whole)] at named
    cases named
  rw [drive, single, Bool.false_or, if_neg (by simpa using several), named, Option.getD_some,
    Nat.shiftRight_eq_div_pow]
  exact testBit_selectOnly few ((Nat.div_lt_iff_lt_mul (Nat.two_pow_pos _)).2 inRange) line

/-- What a phase carries of a command: it is read back as it was, its rank is on the selects, and
its bank within the rank on the bank bus. -/
structure Carries (ranks bankBits : Nat) (c : Command) : Prop where
  /-- The command comes back. -/
  decode_eq : (drive c bankBits ranks).decode bankBits = c
  /-- A command for one bank pulls the select of its rank, and no other one. -/
  selects : 1 < ranks → ∀ bank, c.bank? = some bank → ∀ line < ranks,
    ((drive c bankBits ranks).csN.testBit line = false ↔ line = bank / 2 ^ bankBits)
  /-- The bank bus carries the bank within the rank. -/
  bank_eq : ∀ bank, c.bank? = some bank → (drive c bankBits ranks).bank = bank % 2 ^ bankBits
  /-- A command for the whole device pulls every select. -/
  selectsAll : c = .precharge 0 true ∨ c = .refresh none ∨ c = .calibrate →
    ∀ line, (drive c bankBits ranks).csN.testBit line = false

/-- A canonical command is carried as it is, if there are ranks and lines enough. -/
theorem carries_of_canonical (few : ranks ≤ maxRanks) (some_rank : 0 < ranks)
    (narrow : bankBits ≤ 32) (canonical : c.Canonical (ranks * 2 ^ bankBits)) :
    Carries ranks bankBits c where
  decode_eq := by
    rw [decode_drive few narrow canonical.precharge (getD_bank?_lt canonical some_rank)]
    exact carried_eq_self_iff.2 canonical.column
  selects several bank named line within := by
    rw [testBit_csN_drive few several named (canonical.bank_lt bank named),
      decide_eq_true within, Bool.true_and, bne_eq_false_iff_eq]
  bank_eq bank named := by
    rw [bank_drive narrow, named, Option.getD_some]
  selectsAll whole line := by
    have every : c.selectsAllRanks = true := by rcases whole with rfl | rfl | rfl <;> rfl
    rw [drive, every, Bool.true_or, if_pos rfl, Nat.zero_testBit]

/-- **The phases are a code for commands**: each comes back from the phase that it is put on, and no
two are put on the same. -/
theorem drive_carries (power : Word.isPowerOfTwo ranks = true) (few : ranks ≤ 32)
    (banks : ranks * 2 ^ bankBits ≤ 64) :
    (∀ c : Command, c.Canonical (ranks * 2 ^ bankBits) → Carries ranks bankBits c) ∧
      ∀ c c' : Command, c.Canonical (ranks * 2 ^ bankBits) →
        c'.Canonical (ranks * 2 ^ bankBits) →
          drive c bankBits ranks = drive c' bankBits ranks → c = c' := by
  have some_rank : 0 < ranks := by
    refine Nat.pos_of_ne_zero fun none => ?_
    rw [none] at power
    exact absurd power (by decide)
  have narrow : bankBits ≤ 32 := by
    have within : 2 ^ bankBits ≤ 2 ^ 6 := Nat.le_trans (Nat.le_mul_of_pos_left _ some_rank) banks
    exact Nat.le_trans ((Nat.pow_le_pow_iff_right (by decide)).1 within) (by decide)
  have carries : ∀ c : Command, c.Canonical (ranks * 2 ^ bankBits) → Carries ranks bankBits c :=
    fun c canonical => carries_of_canonical few some_rank narrow canonical
  refine ⟨carries, fun c c' canonical canonical' same => ?_⟩
  rw [← (carries c canonical).decode_eq, same, (carries c' canonical').decode_eq]

/-- As many ranks as there are chip selects, with two banks each. -/
theorem drive_carries_of_all_selects :
    Word.isPowerOfTwo 32 = true ∧ 32 * 2 ^ 1 ≤ 64 ∧
      (Command.read 63 7 true).Canonical (32 * 2 ^ 1) ∧ Carries 32 1 (.read 63 7 true) := by
  have canonical : (Command.read 63 7 true).Canonical (32 * 2 ^ 1) :=
    ⟨by simp [bank?], by simp, by decide⟩
  exact ⟨by decide, by decide, canonical,
    (drive_carries (by decide) (by decide) (by decide)).1 _ canonical⟩

end Phase

end DramScheduler
