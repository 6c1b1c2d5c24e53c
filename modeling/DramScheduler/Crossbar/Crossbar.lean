import DramScheduler.Controller
import DramScheduler.Crossbar.Port
import DramScheduler.Timing.DelayLine

/-!
# The crossbar

The crossbar leads the requests of several masters to the banks, and the data strobes of the
banks back to the masters. Every bank has a round-robin arbiter, whose grant is a register.
The bank forwards the request of its holder alone, and only while that master competes for
it: its request addresses the bank, and no other bank that it holds is locked. So the requests
of one master are under way in one bank at a time.

A holder whose request was taken once yields as soon as another master competes: its further
requests are held back until the bank has run dry, and then the grant moves on.

Strobes belong to the master that holds the bank in the cycle of the command. They reach it
after a fixed delay, which is the latency of the interface and one cycle more.

## Main definitions

* `Crossbar.route` — the requests forwarded in a cycle, a `Routing`;
* `Crossbar.commit` — the clock edge, which also answers the handshakes of every port.
-/

namespace DramScheduler

/-- What happens at one bank's arbiter in a cycle, before the bank has answered. The arbiter moves
at the edge, by what is in the lane. -/
structure Lane where
  /-- For each master, whether it competes for the bank. -/
  requests : List Bool
  /-- The request forwarded to the bank, which is its holder's if there is one. -/
  offer : Option BankRequest
  deriving DecidableEq, Repr, Inhabited

/-- What the crossbar does in one cycle before its clock edge. The edge is applied to it once the
banks have responded. -/
structure Routing where
  /-- What happens at each bank. -/
  lanes : List Lane
  /-- For each master, whether its request is taken. -/
  accepted : List Bool
  /-- For each bank, whether it was locked. -/
  locks : List Bool
  deriving DecidableEq, Repr, Inhabited

/-- The requests forwarded to the banks, by bank number. -/
def Routing.offers (r : Routing) : List (Option BankRequest) :=
  r.lanes.map Lane.offer

/-- The arbiter of one bank, with what is remembered about its holder: whether it has been served
since it got the bank. -/
structure LaneArbiter where
  /-- The round robin over the masters; its grant is the holder. -/
  arbiter : RoundRobin
  /-- A request of the holder was taken since it got the grant. -/
  served : Bool
  deriving DecidableEq, Repr, Inhabited

/-- The way of the strobes to one master, a line of its own for either direction of the data. -/
structure StrobeDelay where
  /-- Strobes on which data of a write is taken. -/
  write : DelayLine
  /-- Strobes on which data of a read is returned. -/
  read : DelayLine
  deriving DecidableEq, Repr, Inhabited

/-- The crossbar between the masters and the banks. Its registers are the arbiters, the strobes
under way, and which master had either data bus in the last cycle. -/
structure Crossbar where
  /-- The place of the bank number in an address. -/
  field : BankField
  /-- The ports, by number of the master. -/
  ports : List Port
  /-- The arbiters, by bank number. -/
  lanes : List LaneArbiter
  /-- The strobes under way, by number of the master. -/
  delays : List StrobeDelay
  /-- The master whose data is taken in the last cycle. -/
  writeSource : Option Nat
  /-- The master that got data in the last cycle. -/
  readSink : Option Nat
  deriving DecidableEq, Repr, Inhabited

namespace Crossbar

/-- The crossbar of a configuration with the given ports, of which there has to be one. Every grant
is with the first master, and a strobe is to take one cycle more than the latency of the interface,
for the register of the phases. -/
def new (c : Config) (ports : List Port) : Except ConfigError Crossbar :=
  if ports.isEmpty then .error (.settings .noPorts)
  else .ok {
    field := c.bankField
    ports := ports
    lanes := List.replicate c.banks ⟨.new ports.length, false⟩
    delays := List.replicate ports.length
      ⟨.new (Word.add c.phy.writeLatency 1), .new (Word.add c.phy.readLatency 1)⟩
    writeSource := none
    readSink := none }

/-- The number of masters, one for each port. -/
def masters (x : Crossbar) : Nat :=
  x.ports.length

/-- The master that holds a bank. Every bank there is has a holder, though it may have nothing to
ask for. -/
def holder? (x : Crossbar) (bank : Nat) : Option Nat :=
  x.lanes[bank]?.map fun lane => lane.arbiter.grant

/-- Whether a request of a bank's holder was taken since it got the grant. Such a holder yields to
others. -/
def served (x : Crossbar) (bank : Nat) : Bool :=
  x.lanes[bank]?.any LaneArbiter.served

/-- Whether a strobe is under way to some master. -/
def busy (x : Crossbar) : Bool :=
  x.delays.any fun delay => delay.write.busy || delay.read.busy

/-! ### Routing -/

/-- The locked banks, each with its holder. Banks without an entry are not locked, and a master may
be in the list several times. -/
def lockedHolders (x : Crossbar) (locks : List Bool) : List (Nat × Nat) :=
  (x.lanes.zip locks).zipIdx.filterMap fun ((lane, locked), bank) =>
    if locked then some (bank, lane.arbiter.grant) else none

/-- Whether a master holds a locked bank other than the given one. Its requests to the given bank
then have to wait. -/
def excluded (lockedHolders : List (Nat × Nat)) (master bank : Nat) : Bool :=
  lockedHolders.any fun (other, holder) => other != bank && holder == master

/-- Whether a master is excluded from a bank because it holds another one that is locked. -/
def masterLocked (x : Crossbar) (master bank : Nat) (locks : List Bool) : Bool :=
  excluded (x.lockedHolders locks) master bank

/-- The bank a master with the given request competes for, with the request as the bank sees it. A
master that is excluded from the bank of its request competes for none. -/
def target (x : Crossbar) (lockedHolders : List (Nat × Nat)) (master : Nat)
    (command : Option Request) : Option (Nat × BankRequest) :=
  command.bind fun request =>
    let bank := x.field.bank request.address
    if excluded lockedHolders master bank then none
    else some (bank, ⟨request.isWrite, x.field.bankLocal request.address⟩)

/-- What each master competes for, by number of the master. A master competes for one bank at
most. -/
def targets (x : Crossbar) (commands : List (Option Request)) (locks : List Bool) :
    List (Option (Nat × BankRequest)) :=
  mapEntries (x.target (x.lockedHolders locks)) none (List.range x.masters) commands

/-- The request a target carries if it is for the given bank. -/
def requestFor (bank : Nat) : Option (Nat × BankRequest) → Option BankRequest
  | some (wanted, request) => if wanted = bank then some request else none
  | none => none

/-- Whether a master other than the given one competes. -/
def contended (requests : List Bool) (holder : Nat) : Bool :=
  (requests.set holder false).any id

/-- The lane of a bank, given what the masters compete for. The holder's request is held back if
another master competes and the holder has been served, so that the bank runs dry and the grant can
move. -/
def lane (targets : List (Option (Nat × BankRequest))) (bank : Nat) (a : LaneArbiter) : Lane :=
  let requests := targets.map fun target => (requestFor bank target).isSome
  let holder := a.arbiter.grant
  ⟨requests,
    if a.served && contended requests holder then none
    else requestFor bank (targets.getD holder none)⟩

/-- The routing of a cycle, from the request each master offers and from the banks that are ready
and locked. Masters and banks without an entry offer nothing and are not ready. -/
def route (x : Crossbar) (commands : List (Option Request)) (ready locks : List Bool) :
    Routing :=
  let targets := x.targets commands locks
  let lanes := x.lanes.mapIdx fun bank a => lane targets bank a
  { lanes := lanes
    accepted := targets.mapIdx fun master target => target.any fun (bank, _) =>
      x.holder? bank == some master && lanes[bank]?.any (fun l => l.offer.isSome) &&
        ready.getD bank false
    locks := locks }

/-! ### The clock edge -/

/-- The holders of the banks whose response has a strobe of the given kind. The owner of a burst is
the holder of its bank in the cycle of the command. -/
def strobed (x : Crossbar) (responses : List BankResponse) (kind : BankResponse → Bool) :
    List Nat :=
  (x.lanes.zip responses).filterMap fun (lane, response) =>
    if kind response then some lane.arbiter.grant else none

/-- The edge at one bank's arbiter: the grant may move while nothing is forwarded and the bank is
not locked; a new holder has not been served. -/
def commitLane (a : LaneArbiter) (l : Lane) (locked accepted : Bool) : LaneArbiter :=
  let arbiter := a.arbiter.commit (!l.offer.isSome && !locked) l.requests
  { arbiter := arbiter
    served := arbiter.grant == a.arbiter.grant && (a.served || (l.offer.isSome && accepted)) }

/-- One clock edge after the given routing and the responses of the banks: the crossbar after it and
the handshakes of every port. The strobes of the cycle enter their lines, and those that leave them
are shown to the masters. -/
def commit (x : Crossbar) (r : Routing) (responses : List BankResponse) :
    Crossbar × List PortStatus :=
  let writers := x.strobed responses BankResponse.writeData
  let readers := x.strobed responses BankResponse.readData
  let status := (r.accepted.zip x.delays).mapIdx fun master (accepted, delay) =>
    { accepted := accepted
      writeData := delay.write.output (writers.contains master)
      readData := delay.read.output (readers.contains master) : PortStatus }
  ({ x with
      lanes := mapEntries
        (fun a (lane, locked) =>
          commitLane a lane locked (r.accepted.getD a.arbiter.grant false))
        (⟨[], none⟩, false) x.lanes (mapEntries Prod.mk false r.lanes r.locks)
      delays := x.delays.mapIdx fun master delay =>
        ⟨delay.write.shift (writers.contains master), delay.read.shift (readers.contains master)⟩
      writeSource := status.findIdx? PortStatus.writeData
      readSink := status.findIdx? PortStatus.readData }, status)

end Crossbar

end DramScheduler
