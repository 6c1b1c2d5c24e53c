/-!
# Rotating priority

The arbiter shared by the crossbar and the command bus. Its grant is a register: in a cycle
with the clock enable high it moves to the first requester after the holder, going around,
and the holder itself comes last, so it stays only while nobody else asks.
-/

namespace DramScheduler

/-- A round-robin arbiter over `size` requesters, which are numbered from zero. -/
structure RoundRobin where
  /-- The number of the holder. -/
  grant : Nat
  /-- The number of requesters. -/
  size : Nat
  deriving DecidableEq, Repr, Inhabited

namespace RoundRobin

/-- An arbiter whose first requester holds the grant. -/
def new (size : Nat) : RoundRobin :=
  ⟨0, size⟩

/-- The first of the requesters with the numbers `low`, …, `high - 1` that asks. The requests
are given from the requester with the number `i` on; requesters without an entry are idle. -/
def firstAsking (low high : Nat) : Nat → List Bool → Option Nat
  | _, [] => none
  | i, asks :: requests =>
    if high ≤ i then none
    else if asks && low ≤ i then some i
    else firstAsking low high (i + 1) requests

/-- The grant after an enabled edge: first come the requesters with a higher number than the holder,
then those with a lower one. Where nobody else asks, the holder keeps it. -/
def next (a : RoundRobin) (requests : List Bool) : Nat :=
  match firstAsking (a.grant + 1) a.size 0 requests with
  | some i => i
  | none => (firstAsking 0 (min a.grant a.size) 0 requests).getD a.grant

/-- One clock edge. Without the enable the grant stays where it is, whoever asks. -/
def commit (a : RoundRobin) (enable : Bool) (requests : List Bool) : RoundRobin :=
  if enable then { a with grant := a.next requests } else a

/-- A clock edge does not change who takes part. -/
@[simp] theorem size_commit (a : RoundRobin) (enable : Bool) (requests : List Bool) :
    (a.commit enable requests).size = a.size := by
  unfold commit
  split <;> rfl

/-- The number found is the lowest one in the range whose requester asks. Induction on the requests
left, with the number of the first of them generalized. -/
theorem firstAsking_eq_some_iff {low high i j : Nat} {requests : List Bool} :
    firstAsking low high i requests = some j ↔
      (i ≤ j ∧ low ≤ j ∧ j < high) ∧ requests[j - i]? = some true ∧
        ∀ k, i ≤ k → low ≤ k → k < j → requests[k - i]? ≠ some true := by
  induction requests generalizing i with
  | nil => simp [firstAsking]
  | cons asks requests ih =>
    have shifted : ∀ k, i + 1 ≤ k → (asks :: requests)[k - i]? = requests[k - (i + 1)]? := by
      intro k hk
      rw [show k - i = (k - (i + 1)) + 1 by omega, List.getElem?_cons_succ]
    have first : (asks :: requests)[i - i]? = some asks := by simp
    unfold firstAsking
    split
    · next h =>
      simp only [reduceCtorEq, false_iff]
      rintro ⟨⟨_, _, _⟩, _⟩
      omega
    · next h =>
      split
      · next found =>
        obtain ⟨rfl, hlow⟩ : asks = true ∧ low ≤ i := by simpa using found
        constructor
        · rintro ⟨rfl⟩
          exact ⟨⟨Nat.le_refl _, hlow, by omega⟩, first, fun k _ _ _ => by omega⟩
        · rintro ⟨⟨hij, _, _⟩, _, least⟩
          rcases Nat.eq_or_lt_of_le hij with rfl | hlt
          · rfl
          · exact absurd first (least i (Nat.le_refl _) hlow hlt)
      · next missed =>
        have skips : low ≤ i → asks = false := by
          intro hlow
          simpa [hlow] using missed
        rw [ih]
        constructor
        · rintro ⟨⟨hij, hlow, hhigh⟩, hj, least⟩
          refine ⟨⟨by omega, hlow, hhigh⟩, by rw [shifted j hij]; exact hj, ?_⟩
          intro k hik hk hkj
          rcases Nat.eq_or_lt_of_le hik with rfl | hlt
          · rw [first, skips hk]
            simp
          · rw [shifted k hlt]
            exact least k hlt hk hkj
        · rintro ⟨⟨hij, hlow, hhigh⟩, hj, least⟩
          have hne : i ≠ j := by
            rintro rfl
            rw [first, skips hlow] at hj
            simp at hj
          have hlt : i + 1 ≤ j := by omega
          refine ⟨⟨hlt, hlow, hhigh⟩, by rw [← shifted j hlt]; exact hj, ?_⟩
          intro k hik hk hkj
          rw [← shifted k hik]
          exact least k (by omega) hk hkj

/-- A grant inside the range stays inside it, whoever asks. -/
theorem next_lt {a : RoundRobin} (h : a.grant < a.size) (requests : List Bool) :
    a.next requests < a.size := by
  unfold next
  split
  · next found => exact (firstAsking_eq_some_iff.1 found).1.2.2
  · cases found : firstAsking 0 (min a.grant a.size) 0 requests with
    | none => exact h
    | some i =>
      have := (firstAsking_eq_some_iff.1 found).1.2.2
      simp only [Option.getD_some]
      omega

end RoundRobin

end DramScheduler
