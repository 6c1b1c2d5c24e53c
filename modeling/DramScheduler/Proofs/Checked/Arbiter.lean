import DramScheduler.Bus.Chooser
import DramScheduler.Entries
import DramScheduler.Proofs.Bus.Closing
import DramScheduler.Proofs.Checked.Arithmetic

/-!
# The search for the next grant

An arbiter looks at the requesters one after the other, from the one after the holder on, and wraps
their numbers around by a remainder. Two things are asked of it: that the number of the holder is in
the range, and that the range does not come near the largest word, so that the sum which is wrapped
around is one itself. An arbiter over no requesters at all divides by nothing, because the loop has
no turn.

What `RoundRobin.next` finds in two passes, above the holder and below it, is what this search finds
in one (`RoundRobin.map_around`).

## Main results

* `RoundRobin.commitM_eq_ok`, `Chooser.commitM_eq_ok` — the grant moves without faults.
-/

namespace DramScheduler

open Checked

namespace RoundRobin

variable {a : RoundRobin} {requests : List Bool}

/-- The requester at a distance from the holder, going around. -/
def around (a : RoundRobin) (distance : Nat) : Nat :=
  (a.grant + distance) % a.size

/-- The first requester that asks, over the distances that are left. The holder comes last, when
none is left. -/
def searchM (a : RoundRobin) (requests : List Bool) : List Nat → Checked Nat
  | [] => return a.grant
  | distance :: rest => do
    let i ← rem (← add 64 a.grant distance) a.size
    if requests.getD i false then return i else a.searchM requests rest

/-- The grant after an enabled edge, found in one pass from the holder on. -/
def nextM (a : RoundRobin) (requests : List Bool) : Checked Nat :=
  a.searchM requests (List.range' 1 (a.size - 1))

/-- One clock edge, which searches only if it is enabled. -/
def commitM (a : RoundRobin) (enable : Bool) (requests : List Bool) : Checked RoundRobin := do
  if enable then return { a with grant := ← a.nextM requests } else return a

/-- A search that does not fail: no distance is so large that the number of a requester leaves its
word. Induction on the distances that are left. -/
theorem searchM_eq_ok (inRange : a.grant < a.size) (addressable : a.size ≤ 2 ^ 63)
    (requests : List Bool) {distances : List Nat}
    (near : ∀ distance ∈ distances, distance < a.size) :
    a.searchM requests distances =
      .ok (((distances.map a.around).find? fun i => requests.getD i false).getD a.grant) := by
  induction distances with
  | nil => rfl
  | cons distance rest ih =>
    have close := near distance List.mem_cons_self
    have sum : add 64 a.grant distance = .ok (a.grant + distance) := add_eq_ok (by omega)
    have place : rem (a.grant + distance) a.size = .ok (a.around distance) :=
      rem_eq_ok (Nat.zero_lt_of_lt inRange)
    rw [searchM, sum, ok_bind, place, ok_bind, List.map_cons, List.find?_cons]
    cases asks : requests.getD (a.around distance) false with
    | true => rfl
    | false => exact ih fun other mem => near other (List.mem_cons_of_mem _ mem)

/-- Going around, the requesters above the holder come first, and then those below it. -/
theorem map_around (inRange : a.grant < a.size) :
    (List.range' 1 (a.size - 1)).map a.around =
      List.range' (a.grant + 1) (a.size - (a.grant + 1)) ++ List.range' 0 a.grant := by
  refine List.ext_getElem (by simp; omega) fun i within _ => ?_
  simp only [List.length_map, List.length_range'] at within
  simp only [List.getElem_map, List.getElem_range', around, List.getElem_append,
    List.length_range']
  split
  · next above => rw [Nat.mod_eq_of_lt (by omega)]; omega
  · next below => rw [Nat.mod_eq_sub_mod (by omega), Nat.mod_eq_of_lt (by omega)]; omega

/-- The first requester of a range that asks, found along the numbers of the range. -/
theorem firstAsking_eq_find? (low high : Nat) (requests : List Bool) :
    firstAsking low high 0 requests =
      (List.range' low (high - low)).find? fun i => requests.getD i false := by
  have asks : ∀ i, requests.getD i false = true ↔ requests[i]? = some true :=
    fun _ => getD_false_iff
  refine Option.ext fun j => ?_
  rw [firstAsking_eq_some_iff, List.find?_range'_eq_some, List.mem_range'_1, asks]
  simp only [Nat.sub_zero, Nat.zero_le, true_and, forall_const, Bool.not_eq_true', ne_eq,
    ← Bool.not_eq_true, asks]
  constructor
  · rintro ⟨⟨above, below⟩, here, least⟩
    exact ⟨here, by omega, least⟩
  · rintro ⟨here, within, least⟩
    exact ⟨by omega, here, least⟩

/-- **The search finds the next grant** in one pass, which `RoundRobin.next` finds in two: the
requesters above the holder, and then those below it. -/
theorem nextM_eq_ok (inRange : a.grant < a.size) (addressable : a.size ≤ 2 ^ 63)
    (requests : List Bool) : a.nextM requests = .ok (a.next requests) := by
  have near : ∀ distance ∈ List.range' 1 (a.size - 1), distance < a.size := by
    intro distance mem
    rw [List.mem_range'_1] at mem
    omega
  rw [nextM, searchM_eq_ok inRange addressable requests near, map_around inRange,
    List.find?_append, ← firstAsking_eq_find?]
  have lower := firstAsking_eq_find? 0 a.grant requests
  rw [Nat.sub_zero] at lower
  rw [← lower, next, Nat.min_eq_left (Nat.le_of_lt inRange)]
  cases firstAsking (a.grant + 1) a.size 0 requests <;> rfl

/-- **The grant moves without faults.** Numbers of requesters are taken modulo their count, which is
not zero where there is a holder. -/
theorem commitM_eq_ok (inRange : a.grant < a.size) (addressable : a.size ≤ 2 ^ 63)
    (enable : Bool) (requests : List Bool) :
    a.commitM enable requests = .ok (a.commit enable requests) := by
  cases enable with
  | false => rfl
  | true =>
    rw [commitM, if_pos rfl, nextM_eq_ok inRange addressable]
    rfl

end RoundRobin

namespace Chooser

/-- One clock edge of a chooser, which moves its grant. -/
def commitM (chooser : Chooser) (selection : Selection) (taken : Bool) : Checked Chooser := do
  return ⟨← chooser.arbiter.commitM (taken || selection.choice.isNone) selection.candidates⟩

/-- The grant of a chooser moves without faults among no more banks than can be numbered. -/
theorem commitM_eq_ok {chooser : Chooser} {banks : Nat} (inRange : chooser.InRange banks)
    (addressable : banks ≤ 2 ^ 63) (selection : Selection) (taken : Bool) :
    chooser.commitM selection taken = .ok (chooser.commit selection taken) := by
  have size := inRange.size_eq
  rw [commitM, RoundRobin.commitM_eq_ok (by rw [size]; exact inRange.grant_lt)
    (by rw [size]; exact addressable)]
  rfl

end Chooser

end DramScheduler
