import DramScheduler.Proofs.Run
import DramScheduler.RoundRobin
import Mathlib.Order.Basic
import Mathlib.Order.WellFounded

/-!
# The holder makes way

At an enabled edge the grant goes to a requester that asks, and to another one than the holder as
long as there is one. Where the holder stands does not matter: the search goes around. On its way it
passes over no requester that asks, so the grant comes closer to each of them, where `ahead` says
how far it still has to go.

Over a run, the distance to a requester that goes on asking is what bounds its waiting. It falls at
every enabled edge, whoever else asks, and a requester that was granted meanwhile is behind the one
that waits from then on.

## Main results

* `RoundRobin.next_of_other` — the holder makes way for another requester that asks;
* `RoundRobin.ahead_next_lt` — the grant comes closer to every requester that asks;
* `RoundRobin.nearest_next` — it goes to the nearest of them;
* `RoundRobin.exists_served` — a requester that goes on asking is granted in time;
* `RoundRobin.countP_gains_le_one` — no other one is granted twice while it waits;
* `RoundRobin.exists_served_before_gains` — both together;
* `RoundRobin.new_rotates` — all of this for every run of every arbiter.
-/

namespace DramScheduler.RoundRobin

variable {a : RoundRobin} {requests : List Bool} {i j k : Nat}

/-- A requester in the range that asks is found, or one before it. -/
theorem exists_firstAsking {low high i : Nat} (first : i ≤ j) (above : low ≤ j) (below : j < high)
    (asks : requests[j - i]? = some true) : ∃ k, firstAsking low high i requests = some k := by
  obtain ⟨k, ⟨start, lower, shown⟩, least⟩ := WellFounded.has_min Nat.lt_wfRel.wf
    {k | i ≤ k ∧ low ≤ k ∧ requests[k - i]? = some true} ⟨j, first, above, asks⟩
  refine ⟨k, firstAsking_eq_some_iff.2 ⟨⟨start, lower, ?_⟩, shown, ?_⟩⟩
  · exact Nat.lt_of_le_of_lt (Nat.le_of_not_lt (least j ⟨first, above, asks⟩)) below
  · intro k' start' lower' earlier asks'
    exact least k' ⟨start', lower', asks'⟩ earlier

/-- A requester that asks and is not found above the holder is below it, so the search finds it when
it goes around. -/
theorem lt_grant_of_missed (missed : firstAsking (a.grant + 1) a.size 0 requests = none)
    (inRange : j < a.size) (other : j ≠ a.grant) (asks : requests[j]? = some true) :
    j < a.grant := by
  by_contra after
  obtain ⟨k, found⟩ : ∃ k, firstAsking (a.grant + 1) a.size 0 requests = some k :=
    exists_firstAsking (Nat.zero_le j) (by omega) inRange asks
  rw [missed] at found
  cases found

/-- **The holder makes way** for another requester that asks. The grant goes to one that asks,
though not always to the given one. -/
theorem next_of_other (inRange : j < a.size) (other : j ≠ a.grant)
    (asks : requests[j]? = some true) :
    requests[a.next requests]? = some true ∧ a.next requests ≠ a.grant := by
  rw [next]
  split
  · next i found =>
    obtain ⟨⟨-, above, -⟩, shown, -⟩ := firstAsking_eq_some_iff.1 found
    exact ⟨shown, Nat.ne_of_gt above⟩
  · next missed =>
    obtain ⟨k, found⟩ := exists_firstAsking (Nat.zero_le j) (Nat.zero_le j)
      (Nat.lt_min.2 ⟨lt_grant_of_missed missed inRange other asks, inRange⟩) asks
    obtain ⟨⟨-, -, below⟩, shown, -⟩ := firstAsking_eq_some_iff.1 found
    rw [found, Option.getD_some]
    exact ⟨shown, Nat.ne_of_lt (Nat.lt_of_lt_of_le below (Nat.min_le_left _ _))⟩

/-! ### The way of the grant -/

/-- How far ahead of the requester `i` the requester `j` is, going around. This is the measure that
bounds how long `j` waits. -/
def ahead (size i j : Nat) : Nat :=
  if i ≤ j then j - i else j + size - i

/-- It is less than once around. -/
theorem ahead_lt {size i : Nat} (first : i < size) (second : j < size) : ahead size i j < size := by
  rw [ahead]
  split <;> omega

/-- **The grant comes closer** to every requester that asks, as the search does not go past one. -/
theorem ahead_next_lt (held : a.grant < a.size) (inRange : j < a.size) (other : j ≠ a.grant)
    (asks : requests[j]? = some true) :
    ahead a.size (a.next requests) j < ahead a.size a.grant j := by
  rw [next]
  split
  · next i found =>
    -- the search gets no further than the requester, unless that is behind the holder
    obtain ⟨⟨-, above, below⟩, -, least⟩ := firstAsking_eq_some_iff.1 found
    have first : a.grant < j → i ≤ j := by
      intro after
      by_contra later
      exact least j (Nat.zero_le j) after (Nat.lt_of_not_le later) asks
    rw [ahead, ahead]
    split <;> split <;> omega
  · next missed =>
    have before := lt_grant_of_missed missed inRange other asks
    obtain ⟨k, found⟩ := exists_firstAsking (Nat.zero_le j) (Nat.zero_le j)
      (Nat.lt_min.2 ⟨before, inRange⟩) asks
    obtain ⟨-, -, least⟩ := firstAsking_eq_some_iff.1 found
    have first : k ≤ j := by
      by_contra later
      exact least j (Nat.zero_le j) (Nat.zero_le j) (Nat.lt_of_not_le later) asks
    rw [found, Option.getD_some, ahead, ahead, if_pos first, if_neg (Nat.not_le.2 before)]
    omega

/-- A requester that comes closer to another one does not go past it. -/
theorem ahead_le_of_closer {size : Nat} (inRange : k < size)
    (closer : ahead size k j < ahead size i j) : ahead size i k ≤ ahead size i j := by
  rw [ahead, ahead] at closer ⊢
  split at closer <;> split at closer <;> split <;> omega

/-- Where there is nothing left to go the requester is reached. -/
theorem eq_of_ahead_eq_zero {size : Nat} (inRange : i < size) (reached : ahead size i j = 0) :
    i = j := by
  rw [ahead] at reached
  split at reached <;> omega

/-- A requester other than the holder that asks, and none that asks is nearer behind the holder.
There is one at most. -/
structure Nearest (a : RoundRobin) (requests : List Bool) (i : Nat) : Prop where
  /-- It is one of the requesters. -/
  inRange : i < a.size
  /-- It is not the holder. -/
  other : i ≠ a.grant
  /-- It asks. -/
  asks : requests[i]? = some true
  /-- No other requester that asks comes before it. -/
  least : ∀ j < a.size, j ≠ a.grant → requests[j]? = some true →
    ahead a.size a.grant i ≤ ahead a.size a.grant j

/-- **The grant goes to the nearest requester** other than the holder that asks. No other one that
asks can be nearer, since the grant comes closer to each of them. -/
theorem nearest_next (held : a.grant < a.size) (inRange : j < a.size) (other : j ≠ a.grant)
    (asks : requests[j]? = some true) : a.Nearest requests (a.next requests) := by
  obtain ⟨shown, moved⟩ := next_of_other inRange other asks
  refine ⟨next_lt held requests, moved, shown, fun rival within away asks => ?_⟩
  exact ahead_le_of_closer (next_lt held requests) (ahead_next_lt held within away asks)

/-- **The grant stays** where no other requester asks, whether or not the holder does. -/
theorem next_of_alone
    (alone : ∀ j < a.size, requests[j]? = some true → j = a.grant) :
    a.next requests = a.grant := by
  rw [next]
  split
  · next i found =>
    obtain ⟨⟨-, above, below⟩, shown, -⟩ := firstAsking_eq_some_iff.1 found
    have same := alone i below shown
    omega
  · next missed =>
    cases found : firstAsking 0 (min a.grant a.size) 0 requests with
    | none => rfl
    | some i =>
      obtain ⟨⟨-, -, below⟩, shown, -⟩ := firstAsking_eq_some_iff.1 found
      have same := alone i (by omega) shown
      omega

/-! ### Runs -/

/-- What comes to an arbiter in one cycle. -/
structure Input where
  /-- Whether the grant may move. -/
  enable : Bool
  /-- Which requesters ask. -/
  requests : List Bool
  deriving DecidableEq, Repr, Inhabited

/-- The arbiter after a cycle. -/
def step (a : RoundRobin) (input : Input) : RoundRobin :=
  a.commit input.enable input.requests

/-- The arbiter after a run. -/
def run (a : RoundRobin) (past : List Input) : RoundRobin :=
  past.foldl step a

/-- A requester becomes the holder in a cycle. -/
def gains (other : Nat) (cycle : RoundRobin × Input) : Bool :=
  cycle.1.grant != other && (cycle.1.step cycle.2).grant == other

variable {input : Input} {stretch : List Input} {waiting other : Nat}

/-- No requester is added or taken away. -/
@[simp] theorem size_step (a : RoundRobin) (input : Input) : (a.step input).size = a.size :=
  size_commit a input.enable input.requests

/-- The same goes for a run. -/
theorem size_run (a : RoundRobin) (past : List Input) : (a.run past).size = a.size :=
  List.foldlRecOn past step (motive := fun now => now.size = a.size) rfl
    fun now kept input _ => (size_step now input).trans kept

/-- The grant moves at enabled edges only. -/
theorem grant_step (a : RoundRobin) (input : Input) :
    (a.step input).grant = if input.enable then a.next input.requests else a.grant := by
  rw [step, commit]
  split <;> rfl

/-- The holder is one of the requesters after a cycle. -/
theorem grant_step_lt (held : a.grant < a.size) (input : Input) :
    (a.step input).grant < (a.step input).size := by
  rw [size_step, grant_step]
  split
  · exact next_lt held _
  · exact held

/-- The holder is one of the requesters after a run. -/
theorem grant_run_lt (held : a.grant < a.size) (past : List Input) :
    (a.run past).grant < (a.run past).size :=
  List.foldlRecOn past step (motive := fun now => now.grant < now.size) held
    fun _ kept input _ => grant_step_lt kept input

/-- **A cycle brings the grant closer** to a requester that waits if it is an enabled one, and takes
it no further away otherwise. -/
theorem ahead_step_add_le (held : a.grant < a.size) (inRange : waiting < a.size)
    (waits : a.grant ≠ waiting)
    (asks : input.enable = true → input.requests[waiting]? = some true) :
    ahead a.size (a.step input).grant waiting + input.enable.toNat ≤
      ahead a.size a.grant waiting := by
  rw [grant_step]
  cases enabled : input.enable with
  | false => exact Nat.le_refl _
  | true => exact ahead_next_lt held inRange (Ne.symm waits) (asks enabled)

/-- An enabled edge counts in front of a stretch as anywhere. -/
theorem countP_enable_cons (input : Input) (rest : List Input) :
    (input :: rest).countP Input.enable = rest.countP Input.enable + input.enable.toNat := by
  rw [List.countP_cons]
  cases input.enable <;> rfl

/-- **A requester that goes on asking is granted** after as many enabled edges as it is away from
the holder, or earlier. Induction on the stretch, along which the distance falls. -/
theorem exists_served (held : a.grant < a.size) (inRange : waiting < a.size)
    (asks : ∀ cycle ∈ Run.cycles step a stretch, cycle.2.enable = true →
      cycle.1.grant ≠ waiting → cycle.2.requests[waiting]? = some true)
    (long : ahead a.size a.grant waiting ≤ stretch.countP Input.enable) :
    ∃ before after, stretch = before ++ after ∧ (a.run before).grant = waiting ∧
      (∀ cycle ∈ Run.cycles step a before, cycle.1.grant ≠ waiting) ∧
      before.countP Input.enable ≤ ahead a.size a.grant waiting := by
  induction stretch generalizing a with
  | nil =>
    exact ⟨[], [], rfl, eq_of_ahead_eq_zero held (Nat.le_zero.1 long), nofun, Nat.zero_le _⟩
  | cons input rest ih =>
    by_cases holds : a.grant = waiting
    · exact ⟨[], input :: rest, rfl, holds, nofun, Nat.zero_le _⟩
    rw [Run.cycles, List.forall_mem_cons] at asks
    have closer : ahead a.size (a.step input).grant waiting + input.enable.toNat ≤
        ahead a.size a.grant waiting :=
      ahead_step_add_le held inRange holds (asks.1 · holds)
    rw [countP_enable_cons] at long
    obtain ⟨before, after, rfl, served, waits, bound⟩ := ih (grant_step_lt held input)
      (by rwa [size_step]) asks.2 (by rw [size_step]; omega)
    rw [size_step] at bound
    refine ⟨input :: before, after, rfl, served, ?_, ?_⟩
    · rw [Run.cycles, List.forall_mem_cons]
      exact ⟨holds, waits⟩
    · rw [countP_enable_cons]
      omega

/-- **No other requester is granted twice** while one waits, and not at all once the grant has gone
past it. Induction on the stretch: the grant comes closer to the one that waits, and so it does not
come back. -/
theorem countP_gains_le_one (held : a.grant < a.size) (inRange : waiting < a.size)
    (waits : ∀ cycle ∈ Run.cycles step a stretch, cycle.1.grant ≠ waiting ∧
      (cycle.2.enable = true → cycle.2.requests[waiting]? = some true)) :
    (Run.cycles step a stretch).countP (gains other) ≤ 1 ∧
      (ahead a.size a.grant waiting ≤ ahead a.size other waiting →
        (Run.cycles step a stretch).countP (gains other) = 0) := by
  induction stretch generalizing a with
  | nil => exact ⟨Nat.zero_le 1, fun _ => rfl⟩
  | cons input rest ih =>
    rw [Run.cycles, List.forall_mem_cons] at waits
    obtain ⟨⟨away, asks⟩, later⟩ := waits
    have closer : ahead a.size (a.step input).grant waiting + input.enable.toNat ≤
        ahead a.size a.grant waiting :=
      ahead_step_add_le held inRange away asks
    obtain ⟨once, never⟩ := ih (grant_step_lt held input) (by rwa [size_step]) later
    rw [size_step] at never
    rw [Run.cycles, List.countP_cons]
    cases gained : gains other (a, input) with
    | false => exact ⟨once, fun past => never (by omega)⟩
    | true =>
      obtain ⟨moved, granted⟩ : a.grant ≠ other ∧ (a.step input).grant = other := by
        simpa [gains] using gained
      have enabled : input.enable = true := by
        by_contra idle
        rw [grant_step, if_neg idle] at granted
        exact moved granted
      rw [enabled, granted, Bool.toNat_true] at closer
      rw [never (by rw [granted])]
      exact ⟨Nat.le_refl 1, fun past => by omega⟩

/-- **A requester that goes on asking is granted in time**: after fewer enabled edges than there are
requesters, and before any other one gets the grant twice. -/
theorem exists_served_before_gains (held : a.grant < a.size) (inRange : waiting < a.size)
    (asks : ∀ cycle ∈ Run.cycles step a stretch, cycle.2.enable = true →
      cycle.1.grant ≠ waiting → cycle.2.requests[waiting]? = some true)
    (long : a.size - 1 ≤ stretch.countP Input.enable) :
    ∃ before after, stretch = before ++ after ∧ (a.run before).grant = waiting ∧
      before.countP Input.enable ≤ a.size - 1 ∧
      ∀ other, (Run.cycles step a before).countP (gains other) ≤ 1 := by
  have near : ahead a.size a.grant waiting ≤ a.size - 1 :=
    Nat.le_sub_one_of_lt (ahead_lt held inRange)
  obtain ⟨before, after, rfl, served, waits, bound⟩ :=
    exists_served held inRange asks (near.trans long)
  refine ⟨before, after, rfl, served, bound.trans near, fun other => ?_⟩
  refine (countP_gains_le_one held inRange fun cycle mem => ?_).1
  have among : cycle ∈ Run.cycles step a (before ++ after) := by
    rw [Run.cycles_append]
    exact List.mem_append_left _ mem
  exact ⟨waits cycle mem, fun enabled => asks cycle among enabled (waits cycle mem)⟩

/-! ### Every run of every arbiter -/

/-- What a requester can rely on at an arbiter over `size` of them, whatever the others ask for and
whenever the grant may move. -/
structure Rotates (start : RoundRobin) (size : Nat) : Prop where
  /-- The holder is one of the requesters. -/
  grant_lt : ∀ past, (start.run past).grant < size
  /-- The grant goes to the nearest other requester, if there is one. -/
  nearest : ∀ past requests rival, rival < size → rival ≠ (start.run past).grant →
    requests[rival]? = some true →
    (start.run past).Nearest requests ((start.run past).next requests)
  /-- It stays if there is none. -/
  alone : ∀ past requests,
    (∀ rival < size, requests[rival]? = some true → rival = (start.run past).grant) →
    (start.run past).next requests = (start.run past).grant
  /-- An enabled edge brings the grant closer to a requester that waits. -/
  closer : ∀ past input waiting, waiting < size → (start.run past).grant ≠ waiting →
    input.enable = true → input.requests[waiting]? = some true →
    ahead size ((start.run past).step input).grant waiting <
      ahead size (start.run past).grant waiting
  /-- A requester that asks until it is granted has it after fewer enabled edges than there are
  requesters, and no other one gets the grant twice until then. -/
  served : ∀ past stretch waiting, waiting < size →
    (∀ cycle ∈ Run.cycles step (start.run past) stretch, cycle.2.enable = true →
      cycle.1.grant ≠ waiting → cycle.2.requests[waiting]? = some true) →
    size - 1 ≤ stretch.countP Input.enable →
    ∃ before after, stretch = before ++ after ∧
      ((start.run past).run before).grant = waiting ∧ before.countP Input.enable ≤ size - 1 ∧
      ∀ other, (Run.cycles step (start.run past) before).countP (gains other) ≤ 1
  /-- However long a requester waits and asks, no other one gets the grant twice. -/
  once : ∀ past stretch waiting other, waiting < size →
    (∀ cycle ∈ Run.cycles step (start.run past) stretch, cycle.1.grant ≠ waiting ∧
      (cycle.2.enable = true → cycle.2.requests[waiting]? = some true)) →
    (Run.cycles step (start.run past) stretch).countP (gains other) ≤ 1

/-- **The grant goes around**, and nobody who asks for it is left out. Each field holds of every
arbiter whose holder is one of the requesters. -/
theorem new_rotates {size : Nat} (positive : 0 < size) : (new size).Rotates size := by
  have sized : ∀ past, ((new size).run past).size = size := size_run (new size)
  have held : ∀ past, ((new size).run past).grant < ((new size).run past).size :=
    grant_run_lt positive
  have inRange : ∀ past i, i < size → i < ((new size).run past).size := by
    intro past i within
    rwa [sized]
  constructor
  case grant_lt =>
    intro past
    exact Nat.lt_of_lt_of_eq (held past) (sized past)
  case nearest =>
    intro past requests rival within other asks
    exact nearest_next (held past) (inRange past rival within) other asks
  case alone =>
    intro past requests alone
    refine next_of_alone fun rival within asks => alone rival ?_ asks
    rwa [sized] at within
  case closer =>
    intro past input waiting within waits enabled asks
    have closer := ahead_step_add_le (held past) (inRange past waiting within) waits fun _ => asks
    rw [sized, enabled, Bool.toNat_true] at closer
    exact closer
  case served =>
    intro past stretch waiting within asks long
    have served := exists_served_before_gains (held past) (inRange past waiting within) asks
      (by rwa [sized])
    rwa [sized] at served
  case once =>
    intro past stretch waiting other within waits
    exact (countP_gains_le_one (held past) (inRange past waiting within) waits).1

/-- Four edges, every other of which is enabled, while three requesters go on asking. -/
def everyOther : List Input :=
  [true, false, true, false].map (Input.mk · [true, true, true])

/-- In a stretch of which every other edge is enabled, the last of three requesters is granted by
the second enabled edge. -/
theorem new_rotates_of_three :
    0 < 3 ∧ (new 3).Rotates 3 ∧ ∃ before after,
      everyOther = before ++ after ∧
        ((new 3).run before).grant = 2 ∧ before.countP Input.enable ≤ 2 := by
  have rotates := new_rotates (by decide : 0 < 3)
  obtain ⟨before, after, split, served, bound, -⟩ := rotates.served []
    everyOther 2 (by decide) (by decide) (by decide)
  exact ⟨by decide, rotates, before, after, split, served, bound⟩

-- three requesters that all go on asking take turns
example : (List.range 5).map (fun n =>
    ((new 3).run (.replicate n ⟨true, [true, true, true]⟩)).grant) = [0, 1, 2, 0, 1] := by decide

end DramScheduler.RoundRobin
