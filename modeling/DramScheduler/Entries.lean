/-!
# Entries by number

Banks, masters and phases are numbered, and what one cycle says about them comes as a list in
this order. Such a list may be short: the numbers past its end have no entry and count as if
they had a stated default.

`mapEntries` combines the members of a list with their entries in one pass, and
`mapEntries_eq` says what that means number by number.
-/

namespace DramScheduler

variable {α β γ : Type}

/-- Combines every member of a list with its entry, or with `absent` if it has none. One pass does
it, without asking for entries by their number. -/
def mapEntries (f : α → β → γ) (absent : β) (members : List α) (entries : List β) : List γ :=
  go members entries []
where
  /-- The members left, with the entries left, after the results so far, the latest first. -/
  go : List α → List β → List γ → List γ
    | [], _, done => done.reverse
    | a :: members, [], done => go members [] (f a absent :: done)
    | a :: members, b :: entries, done => go members entries (f a b :: done)

/-- The pass with an accumulator gives the results so far and then those of the members left.
Induction on the members, with the entries left generalized. -/
theorem mapEntries_go_eq (f : α → β → γ) (absent : β) (members : List α) (entries : List β)
    (done : List γ) :
    mapEntries.go f absent members entries done =
      done.reverse ++ members.mapIdx fun i a => f a (entries.getD i absent) := by
  induction members generalizing entries done with
  | nil => simp [mapEntries.go]
  | cons a members ih =>
    cases entries with
    | nil => simp [mapEntries.go, ih]
    | cons b entries => simp [mapEntries.go, ih]

/-- The entry of the member with a number is the one at its place. -/
theorem mapEntries_eq (f : α → β → γ) (absent : β) (members : List α) (entries : List β) :
    mapEntries f absent members entries =
      members.mapIdx fun i a => f a (entries.getD i absent) := by
  simp [mapEntries, mapEntries_go_eq]

/-- An entry that counts as lowered past the end is raised only where there is one. -/
theorem getD_false_iff {entries : List Bool} {i : Nat} :
    entries.getD i false = true ↔ entries[i]? = some true := by
  rw [List.getD_eq_getElem?_getD]
  cases entries[i]? <;> simp

/-- There is one result for every member, however many entries there are. -/
@[simp] theorem length_mapEntries (f : α → β → γ) (absent : β) (members : List α)
    (entries : List β) : (mapEntries f absent members entries).length = members.length := by
  simp [mapEntries_eq]

end DramScheduler
