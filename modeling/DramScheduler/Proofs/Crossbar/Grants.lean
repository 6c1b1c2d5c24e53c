import DramScheduler.Proofs.Crossbar.Routing

/-!
# Every bank is held by a master

The grants of the crossbar are registers of their own, one for each bank. They start with the first
master, of which there has to be one, and at an edge an arbiter moves to a requester that it has.

## Main results

* `Crossbar.bounded_new`, `Crossbar.Bounded.commit` — every bank is held by one of the masters.
-/

namespace DramScheduler

/-- The grant of an arbiter is the number of a master. -/
structure LaneArbiter.InRange (a : LaneArbiter) (masters : Nat) : Prop where
  /-- The master that is granted is one of them. -/
  grant_lt : a.arbiter.grant < masters
  /-- The arbiter goes around all masters. -/
  size_eq : a.arbiter.size = masters

namespace Crossbar

variable {c : Config} {x : Crossbar} {ports : List Port} {bank master : Nat}

/-- Every bank is held by one of the masters. -/
def Bounded (x : Crossbar) : Prop :=
  ∀ a ∈ x.lanes, a.InRange x.masters

/-- A bank that is held is held by one of the masters. -/
theorem Bounded.holder?_lt (bounded : x.Bounded) (holds : x.holder? bank = some master) :
    master < x.masters := by
  obtain ⟨a, found, rfl⟩ := Option.map_eq_some_iff.1 holds
  exact (bounded a (List.mem_of_getElem? found)).grant_lt

/-- At first every bank is held by the first master. There has to be one, and without a port no
crossbar is built. -/
theorem bounded_new (made : new c ports = .ok x) : x.Bounded := by
  rw [new] at made
  split at made
  · cases made
  · next present =>
    cases made
    have some_port : 0 < ports.length := by
      rw [List.length_pos_iff]
      rintro rfl
      exact present rfl
    intro a mem
    obtain rfl := List.eq_of_mem_replicate mem
    exact ⟨some_port, rfl⟩

/-- An arbiter keeps its grant or gives it to a master that asks, so it stays with one of the
masters. -/
theorem inRange_commitLane {a : LaneArbiter} {masters : Nat} (inRange : a.InRange masters)
    (l : Lane) (locked accepted : Bool) : (commitLane a l locked accepted).InRange masters := by
  refine ⟨?_, (RoundRobin.size_commit _ _ _).trans inRange.size_eq⟩
  rw [commitLane, RoundRobin.commit]
  dsimp only
  split
  · rw [← inRange.size_eq]
    exact RoundRobin.next_lt (inRange.size_eq ▸ inRange.grant_lt) _
  · exact inRange.grant_lt

/-- **The edge leaves every bank with one of the masters**, whoever asks and whatever is locked. -/
theorem Bounded.commit (bounded : x.Bounded) (r : Routing) (responses : List BankResponse) :
    (x.commit r responses).1.Bounded := by
  have lanes : (x.commit r responses).1.lanes = mapEntries
      (fun a entry => commitLane a entry.1 entry.2 (r.accepted.getD a.arbiter.grant false))
      (⟨[], none⟩, false) x.lanes (mapEntries Prod.mk false r.lanes r.locks) := rfl
  intro after mem
  rw [lanes, mapEntries_eq, List.mem_mapIdx] at mem
  obtain ⟨bank, within, rfl⟩ := mem
  exact inRange_commitLane (bounded _ (List.getElem_mem within)) _ _ _

end Crossbar

end DramScheduler
