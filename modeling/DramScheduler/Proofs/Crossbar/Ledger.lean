import DramScheduler.Address
import Mathlib.Data.List.Basic
import Mathlib.Data.List.Count
import Mathlib.Logic.Function.Basic

/-!
# A ledger of accesses

The accesses of several masters are taken in one order and served in another one: each bank
serves its own in turn, and nothing ties the banks together. A `Ledger` holds both orders, and
for each bank the accesses that are between them. It is balanced (`Ledger.Balanced`) if every
bank serves in the order in which it took, and if the accesses of a master that still wait do
so in one bank. Then every master is served in the order in which its accesses were taken, in
all banks together.

This is bookkeeping, without a machine in it. What a crossbar has to see to is the hypothesis
of `Ledger.Balanced.take`: a master's access is taken for a bank only while none of its
accesses waits in another one.

## Main results

* `Ledger.Balanced.serve` — the oldest access of a bank may be served at any time;
* `Ledger.Balanced.take` — accesses may be taken, one per master, if nothing of the master
  waits elsewhere;
* `Ledger.Balanced.served_prefix` — masters are served in order;
* `Ledger.Balanced.exists_unserved` — every access was served once, or waits.
-/

namespace DramScheduler

/-- A request with the number of the master that it comes from. -/
structure Access where
  /-- The master that it comes from. -/
  master : Nat
  /-- What it asks for. -/
  request : Request
  deriving DecidableEq, Repr, Inhabited

namespace Access

/-- Whether an access comes from a master. -/
def isBy (master : Nat) (a : Access) : Bool :=
  a.master == master

/-- Whether an access is for a bank. -/
def isFor (f : BankField) (bank : Nat) (a : Access) : Bool :=
  f.bank a.request.address == bank

/-- The test compares the masters. -/
theorem isBy_iff {a : Access} {master : Nat} : a.isBy master = true ↔ a.master = master :=
  beq_iff_eq

/-- The test compares the bank field of the address. -/
theorem isFor_iff {f : BankField} {bank : Nat} {a : Access} :
    a.isFor f bank = true ↔ f.bank a.request.address = bank :=
  beq_iff_eq

end Access

/-- The accesses of a run. -/
structure Ledger where
  /-- Those that were taken, in the order in which they were. -/
  taken : List Access
  /-- Those that were served, in the order in which they were. -/
  served : List Access
  /-- For each bank, those that were taken and not served. -/
  waiting : Nat → List Access

namespace Ledger

open Access

variable {f : BankField} {l : Ledger}

/-- The ledger before anything was taken. -/
def empty : Ledger :=
  ⟨[], [], fun _ => []⟩

/-- Serves an access; the given ones stay in its bank. -/
def serve (l : Ledger) (bank : Nat) (a : Access) (rest : List Access) : Ledger :=
  { l with served := l.served ++ [a], waiting := Function.update l.waiting bank rest }

/-- The given accesses are what waits in the bank afterwards. -/
theorem waiting_serve_self {bank : Nat} {a : Access} {rest : List Access} :
    (l.serve bank a rest).waiting bank = rest :=
  Function.update_self _ _ _

/-- Nothing changes in the other banks. -/
theorem waiting_serve_of_ne {bank other : Nat} {a : Access} {rest : List Access}
    (h : other ≠ bank) : (l.serve bank a rest).waiting other = l.waiting other :=
  Function.update_of_ne h _ _

/-- Takes accesses, each for the bank that its address is in. -/
def take (l : Ledger) (f : BankField) (accesses : List Access) : Ledger :=
  { l with
    taken := l.taken ++ accesses
    waiting := fun bank => l.waiting bank ++ accesses.filter (isFor f bank) }

/-- Banks serve in order, and what waits of a master waits in one bank. From both together it
follows that masters are served in order. -/
structure Balanced (f : BankField) (l : Ledger) : Prop where
  /-- The accesses of a bank are those served and those waiting. -/
  byBank : ∀ bank,
    l.taken.filter (isFor f bank) = l.served.filter (isFor f bank) ++ l.waiting bank
  /-- The accesses of a master are those served and those waiting, and these wait in one
  bank. -/
  byMaster : ∀ master, ∃ bank,
    l.taken.filter (isBy master) = l.served.filter (isBy master) ++
      (l.waiting bank).filter (isBy master) ∧
    ∀ other, other ≠ bank → (l.waiting other).filter (isBy master) = []

/-- Where nothing was taken nothing is out of order. -/
theorem balanced_empty (f : BankField) : empty.Balanced f where
  byBank _ := rfl
  byMaster _ := ⟨0, rfl, fun _ _ => rfl⟩

/-- An access waits in the bank that it is for. -/
theorem Balanced.bank_eq (balanced : l.Balanced f) {bank : Nat} {a : Access}
    (mem : a ∈ l.waiting bank) : f.bank a.request.address = bank := by
  have among : a ∈ l.taken.filter (isFor f bank) := by
    rw [balanced.byBank bank]
    exact List.mem_append_right _ mem
  exact isFor_iff.1 (List.mem_filter.1 among).2

/-- **The oldest access of a bank may be served.** It is the oldest of its master as well, because
those of its master wait in this bank alone. -/
theorem Balanced.serve (balanced : l.Balanced f) {bank : Nat} {a : Access} {rest : List Access}
    (front : l.waiting bank = a :: rest) : (l.serve bank a rest).Balanced f where
  byBank := by
    intro other
    have before := balanced.byBank other
    have own : f.bank a.request.address = bank :=
      balanced.bank_eq (by rw [front]; exact List.mem_cons_self)
    have served : (l.serve bank a rest).served.filter (isFor f other) =
        l.served.filter (isFor f other) ++ [a].filter (isFor f other) := List.filter_append _ _
    rw [served]
    by_cases h : other = bank
    · have here : a.isFor f bank = true := isFor_iff.2 own
      rw [h, waiting_serve_self, List.filter_cons, if_pos here, List.append_assoc]
      rw [h, front] at before
      exact before
    · have elsewhere : ¬ a.isFor f other = true := by
        rw [isFor_iff, own]
        exact Ne.symm h
      rw [waiting_serve_of_ne h, List.filter_cons, if_neg elsewhere, List.filter_nil,
        List.append_nil]
      exact before
  byMaster := by
    intro master
    obtain ⟨home, conserved, alone⟩ := balanced.byMaster master
    have served : (l.serve bank a rest).served.filter (isBy master) =
        l.served.filter (isBy master) ++ [a].filter (isBy master) := List.filter_append _ _
    rw [served]
    by_cases mine : a.isBy master = true
    · have here : home = bank := by
        by_contra away
        have none_here := alone bank (Ne.symm away)
        rw [front, List.filter_cons, if_pos mine] at none_here
        cases none_here
      refine ⟨bank, ?_, ?_⟩
      · rw [waiting_serve_self, List.filter_cons, if_pos mine, List.append_assoc]
        rw [here, front, List.filter_cons, if_pos mine] at conserved
        exact conserved
      · intro other away
        rw [waiting_serve_of_ne away]
        exact alone other (by rwa [here])
    · have same : ∀ b, ((l.serve bank a rest).waiting b).filter (isBy master) =
          (l.waiting b).filter (isBy master) := by
        intro b
        by_cases h : b = bank
        · rw [h, waiting_serve_self, front, List.filter_cons, if_neg mine]
        · rw [waiting_serve_of_ne h]
      refine ⟨home, ?_, fun other away => (same other).trans (alone other away)⟩
      rw [same home, List.filter_cons, if_neg mine, List.filter_nil, List.append_nil]
      exact conserved

/-- **Accesses may be taken**, at most one of each master, if none of the master's accesses waits in
another bank. Otherwise the two banks could serve them the other way around. -/
theorem Balanced.take (balanced : l.Balanced f) {accesses : List Access}
    (single : ∀ master, (accesses.filter (isBy master)).length ≤ 1)
    (alone : ∀ a ∈ accesses, ∀ other, other ≠ f.bank a.request.address →
      (l.waiting other).filter (isBy a.master) = []) :
    (l.take f accesses).Balanced f where
  byBank := by
    intro bank
    simp only [Ledger.take, List.filter_append]
    rw [balanced.byBank bank, List.append_assoc]
  byMaster := by
    intro master
    obtain ⟨home, conserved, elsewhere⟩ := balanced.byMaster master
    have swapped : ∀ bank, (accesses.filter (isFor f bank)).filter (isBy master) =
        (accesses.filter (isBy master)).filter (isFor f bank) := by
      intro bank
      rw [List.filter_filter, List.filter_filter]
      exact List.filter_congr fun a _ => Bool.and_comm _ _
    simp only [Ledger.take, List.filter_append, swapped]
    cases mine : accesses.filter (isBy master) with
    | nil => exact ⟨home, by simp [conserved], fun other away => by simp [elsewhere other away]⟩
    | cons a others =>
      have few := single master
      rw [mine, List.length_cons] at few
      obtain rfl : others = [] := List.eq_nil_of_length_eq_zero (by omega)
      obtain ⟨mem, by_master⟩ := List.mem_filter.1
        (show a ∈ accesses.filter (isBy master) by rw [mine]; exact List.mem_cons_self)
      have quiet := alone a mem
      rw [isBy_iff.1 by_master] at quiet
      -- nothing of this master waits elsewhere, so its bank is the one of the new access
      have moved : l.taken.filter (isBy master) = l.served.filter (isBy master) ++
          (l.waiting (f.bank a.request.address)).filter (isBy master) := by
        by_cases h : home = f.bank a.request.address
        · rw [conserved, h]
        · rw [conserved, quiet home h, elsewhere _ (Ne.symm h)]
      refine ⟨f.bank a.request.address, ?_, ?_⟩
      · rw [moved, List.filter_singleton, isFor_iff.2 rfl]
        simp
      · intro other away
        have not_for : a.isFor f other = false := by simp [isFor, Ne.symm away]
        rw [quiet other away, List.filter_singleton, not_for]
        rfl

/-- **Masters are served in order**: what was served of a master is the beginning of what was taken
of it. -/
theorem Balanced.served_prefix (balanced : l.Balanced f) (master : Nat) :
    l.served.filter (isBy master) <+: l.taken.filter (isBy master) := by
  obtain ⟨bank, conserved, -⟩ := balanced.byMaster master
  rw [conserved]
  exact List.prefix_append _ _

/-- Among the accesses there are as many equal ones as were served and wait in their bank. -/
theorem Balanced.count_taken (balanced : l.Balanced f) (a : Access) :
    l.taken.count a = l.served.count a + (l.waiting (f.bank a.request.address)).count a := by
  have own : a.isFor f (f.bank a.request.address) = true := isFor_iff.2 rfl
  rw [← List.count_filter own, balanced.byBank, List.count_append, List.count_filter own]

/-- **Every access was served once, or waits.** None is lost, and none is served a second time. -/
theorem Balanced.exists_unserved (balanced : l.Balanced f) :
    ∃ rest, l.taken.Perm (l.served ++ rest) ∧
      ∀ a, a ∈ rest ↔ ∃ bank, a ∈ l.waiting bank := by
  refine ⟨l.taken.diff l.served, ?_, ?_⟩
  · refine (List.subperm_append_diff_self_of_count_le fun a _ => ?_).symm
    rw [balanced.count_taken]
    exact Nat.le_add_right _ _
  · intro a
    rw [← List.count_pos_iff, List.count_diff, balanced.count_taken, Nat.add_sub_cancel_left,
      List.count_pos_iff]
    constructor
    · intro waits
      exact ⟨_, waits⟩
    · rintro ⟨bank, waits⟩
      rwa [balanced.bank_eq waits]

/-- Accesses of one master do not wait in two banks. -/
theorem Balanced.bank_unique (balanced : l.Balanced f) {first second : Nat} {a b : Access}
    (inFirst : a ∈ l.waiting first) (inSecond : b ∈ l.waiting second)
    (same : a.master = b.master) : first = second := by
  obtain ⟨bank, -, alone⟩ := balanced.byMaster a.master
  have home : ∀ {other : Nat} {x : Access}, x ∈ l.waiting other → x.master = a.master →
      other = bank := by
    intro other x mem by_master
    by_contra away
    have among : x ∈ (l.waiting other).filter (isBy a.master) :=
      List.mem_filter.2 ⟨mem, isBy_iff.2 by_master⟩
    rw [alone other away] at among
    cases among
  rw [home inFirst rfl, home inSecond same.symm]

end Ledger

end DramScheduler
