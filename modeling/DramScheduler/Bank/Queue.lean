import DramScheduler.Fifo

/-!
# The request queue of a bank

A bank machine serves one request at a time and sees the one after it. Its queue is a register
for the request being served, fed by a lookahead of limited depth that is filled from the
crossbar. `RequestQueue.toList` is the queue as one sequence; a clock edge takes the served
request off its front and puts the accepted one at its end (`toList_commit`).

A request that finds the register empty spends one cycle in the lookahead all the same, so the
register may be empty while the lookahead holds one request, but no more than that in runs
where requests are consumed only when there are any.
-/

namespace DramScheduler

/-- A request with its bank field taken out. -/
structure BankRequest where
  /-- Whether the burst is written; read otherwise. -/
  isWrite : Bool
  /-- Bank-local address. -/
  address : Nat
  deriving DecidableEq, Repr, Inhabited

/-- The queue of a bank: the request being served and those after it. The first of them to come is
served first. -/
structure RequestQueue where
  /-- Requests that wait. -/
  lookahead : Fifo BankRequest
  /-- The request being served, in a register of its own. -/
  current : Option BankRequest
  /-- The most requests that may wait. -/
  depth : Nat
  deriving DecidableEq, Repr, Inhabited

namespace RequestQueue

/-- An empty queue. A depth of zero acts as one, since nothing could ever be taken otherwise. -/
def new (depth : Nat) : RequestQueue :=
  ⟨.empty, none, max depth 1⟩

/-- Everything in the queue, oldest first, the request being served in front. -/
def toList (q : RequestQueue) : List BankRequest :=
  q.current.toList ++ q.lookahead.toList

/-- Whether a request can be taken in this cycle. The request being served takes no room of the
lookahead. -/
def ready (q : RequestQueue) : Bool :=
  q.lookahead.size < q.depth

/-- Whether there is a request at all, in the register or behind it. -/
def pending (q : RequestQueue) : Bool :=
  q.current.isSome || !q.lookahead.isEmpty

/-- Whether nothing is left to serve. -/
def isEmpty (q : RequestQueue) : Bool :=
  !q.pending

/-- The request after the one being served, if it is there already. -/
def next? (q : RequestQueue) : Option BankRequest :=
  q.lookahead.head?

/-- The number of requests, the one being served included. -/
def size (q : RequestQueue) : Nat :=
  q.lookahead.size + q.current.isSome.toNat

/-- The lookahead with the request that was taken, if there is one, at its end. -/
def accept (waiting : Fifo BankRequest) (push : Option BankRequest) : Fifo BankRequest :=
  match push with
  | some request => waiting.push request
  | none => waiting

/-- One clock edge: the request being served may be over, and a request may have been taken. An
empty register is filled from the requests that waited before the edge. -/
def commit (q : RequestQueue) (consumed : Bool) (push : Option BankRequest) : RequestQueue :=
  match if consumed then none else q.current with
  | some request =>
    { q with current := some request, lookahead := accept q.lookahead push }
  | none =>
    { q with current := q.lookahead.head?, lookahead := accept q.lookahead.tail push }

/-- A request that was taken comes after those that wait. -/
@[simp] theorem toList_accept (waiting : Fifo BankRequest) (push : Option BankRequest) :
    (accept waiting push).toList = waiting.toList ++ push.toList := by
  cases push <;> simp [accept]

/-- **A clock edge appends the request that was taken**, and drops the one that is over. Moving a
request from the lookahead to the register changes nothing in the order. -/
theorem toList_commit (q : RequestQueue) (consumed : Bool) (push : Option BankRequest) :
    (q.commit consumed push).toList =
      (if consumed then q.lookahead.toList else q.toList) ++ push.toList := by
  unfold commit toList
  cases consumed <;> cases q.current <;> cases h : q.lookahead.toList <;> simp [h]

/-- The number of requests is the length of the sequence. -/
theorem length_toList (q : RequestQueue) : q.toList.length = q.size := by
  unfold toList size
  cases q.current <;> simp

end RequestQueue

end DramScheduler
