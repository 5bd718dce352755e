import BoxOffice.Engine.Manual
import BoxOffice.Gateway.Mock
import BoxOffice.Http.Handler
import BoxOffice.Ledger.Barred
import BoxOffice.Ledger.Memory

/-!
# Rehearsals

A rehearsal is an engine on a ledger in memory behind barriers, with a mock gateway. Tickets and
codes are put on sale, things are made to fail, time is moved, and open reservations are copied,
taken away and put back. Someone can come in between: a rehearsal answers the questions of services
as its engine does, but before the next transaction it lets in who is to come. So it carries out
services and lets time pass by itself, and where nobody is to come it does what its engine does.
-/
namespace BoxOffice

/-- An engine that is put through its paces. -/
structure Rehearsal where
  /-- The engine. -/
  engine : Engine (BarredLedger MemoryLedger) MockGateway
  /-- Copies of reservations by name. -/
  copies : List (String × Reservation)
  /-- A reservation that someone puts into the store before the next transaction is opened. -/
  arrival : Option Reservation

namespace Rehearsal

/-- Books in which nothing is on sale yet. -/
def start (gateway : MockGateway) (now : Instant) (delay : Nat) (acceptsMail : Bool) :
    Rehearsal where
  engine :=
    { Engine.start (.ofLedger (.ofBooks .empty [])) gateway now delay with acceptsMail }
  copies := []
  arrival := none

/-- The ledger behind its barriers. -/
def barred (rehearsal : Rehearsal) : BarredLedger MemoryLedger := rehearsal.engine.desk.ledger

/-- The committed books. -/
def books (rehearsal : Rehearsal) : Books := rehearsal.barred.inner.books

/-- The rehearsal with another ledger. -/
def withBarred (rehearsal : Rehearsal) (ledger : BarredLedger MemoryLedger) : Rehearsal :=
  { rehearsal with engine := rehearsal.engine.withLedger ledger }

/-- The rehearsal with other books. -/
def withBooks (rehearsal : Rehearsal) (books : Books) : Rehearsal :=
  let ledger := rehearsal.barred
  rehearsal.withBarred (ledger.withInner (.ofBooks books ledger.inner.failing))

/-- The rehearsal with another gateway. -/
def withGateway (rehearsal : Rehearsal) (gateway : MockGateway) : Rehearsal :=
  let engine := rehearsal.engine
  { rehearsal with engine := { engine with desk := { engine.desk with gateway } } }

/-- Puts tickets of one type on sale, each with its identifier and its code. -/
def seedTickets (event : Uuid) (name : String) (price : Int64) (made : List (Uuid × String))
    (rehearsal : Rehearsal) : Rehearsal :=
  let books := rehearsal.books
  let tickets := made.map fun ticket =>
    { id := ticket.1, event, name, price, status := .available, hash := ticket.2 }
  rehearsal.withBooks { books with tickets := books.tickets ++ tickets }

/-- Issues a referral code that has been valid since a day ago. -/
def seedCode (id : Uuid) (code : String) (discountPercentage maxUses : Int32)
    (validUntil : Option Instant) (rehearsal : Rehearsal) : ReferralCode × Rehearsal :=
  let books := rehearsal.books
  let referral : ReferralCode :=
    { id, code, discountPercentage, maxUses, currentUses := 0
      validFrom := rehearsal.engine.desk.now.dayBefore, validUntil }
  (referral, rehearsal.withBooks { books with codes := books.codes ++ [referral] })

/-- Sets the wall clock. -/
def setNow (now : Instant) (rehearsal : Rehearsal) : Rehearsal :=
  let engine := rehearsal.engine
  { rehearsal with engine := { engine with desk := { engine.desk with now } } }

/-- Puts a new gateway in place; a number imposed on bills stays imposed. -/
def setGateway (behavior : String) (rehearsal : Rehearsal) : Rehearsal :=
  rehearsal.withGateway
    { MockGateway.new behavior with
      imposedNumber := rehearsal.engine.desk.gateway.imposedNumber }

/-- Makes the ledger in memory fail at some place. -/
def failAt (point : FailPoint) (rehearsal : Rehearsal) : Rehearsal :=
  let ledger := rehearsal.barred
  rehearsal.withBarred
    (ledger.withInner { ledger.inner with failing := point :: ledger.inner.failing })

/-- Sets up a barrier before the ledger. -/
def bar (barrier : Barrier) (passing : Nat) (rehearsal : Rehearsal) : Rehearsal :=
  rehearsal.withBarred (rehearsal.barred.bar barrier passing)

/-- Replaces answers of the ledger. -/
def report (usage : Option Int) (change : Option Nat) (rehearsal : Rehearsal) : Rehearsal :=
  rehearsal.withBarred
    { rehearsal.barred with reportedUsage := usage, reportedChange := change }

/-- Nothing is made to fail any more, no answer is replaced, and nobody comes in between. -/
def clearFailures (rehearsal : Rehearsal) : Rehearsal :=
  let ledger := rehearsal.barred.clear
  { rehearsal.withBarred (ledger.withInner { ledger.inner with failing := [] }) with
    arrival := none }

/-- The copy of a name. -/
def copy? (rehearsal : Rehearsal) (name : String) : Option Reservation :=
  (rehearsal.copies.find? fun copy => copy.1 = name).map (·.2)

/-- Copies the open reservation under an identifier, and tells whether there is one. -/
def stash (id : TrackingId) (name : String) (rehearsal : Rehearsal) : Bool × Rehearsal :=
  match rehearsal.engine.store.get? id with
  | none => (false, rehearsal)
  | some reservation =>
    (true, { rehearsal with copies := (name, reservation) :: rehearsal.copies })

/-- Opens a reservation, and tells whether it could be opened. -/
def put (reservation : Reservation) (rehearsal : Rehearsal) : Bool × Rehearsal :=
  let opened := rehearsal.engine.put reservation
  (opened.1, { rehearsal with engine := opened.2 })

/-- Lets someone put a copy into the store before the next transaction, and tells whether there
is such a copy. -/
def steal (name : String) (rehearsal : Rehearsal) : Bool × Rehearsal :=
  match rehearsal.copy? name with
  | none => (false, rehearsal)
  | some reservation =>
    (true, { rehearsal with arrival := some reservation })

/-- Lets in who is to come. -/
def letIn (rehearsal : Rehearsal) : Rehearsal :=
  match rehearsal.arrival with
  | none => rehearsal
  | some reservation => { (rehearsal.put reservation).2 with arrival := none }

/-- Answers a question of a service. Who is to come is let in before a transaction. -/
def answer (request : Request) (rehearsal : Rehearsal) : request.Answer × Rehearsal :=
  let rehearsal := match request with
    | .transact _ => rehearsal.letIn
    | _ => rehearsal
  let given := rehearsal.engine.answer request
  (given.1, { rehearsal with engine := given.2 })

/-- Carries out a service. -/
def run {α : Type} (program : Program α) (rehearsal : Rehearsal) : α × Rehearsal :=
  Dialogue.run answer program rehearsal

/-- Lets the timers fire that are due. -/
def fireDue (rehearsal : Rehearsal) : Rehearsal :=
  let engine := rehearsal.engine
  let woken := engine.reaper.wake engine.clock
  woken.1.foldl (fun rehearsal id => (rehearsal.run (Release.fire id)).2)
    { rehearsal with engine := { engine with reaper := woken.2 } }

/-- Lets the reaper follow its commands. -/
def followCommands (rehearsal : Rehearsal) : Rehearsal :=
  { rehearsal with engine := rehearsal.engine.followCommands }

/-- Comes to rest. -/
def rest (rehearsal : Rehearsal) : Rehearsal :=
  rehearsal.followCommands.fireDue.followCommands

/-- Carries out a service and comes to rest. -/
def perform {α : Type} (program : Program α) (rehearsal : Rehearsal) : α × Rehearsal :=
  let ran := rehearsal.run program
  (ran.1, ran.2.rest)

/-- Sets the timer clock and comes to rest. -/
def restAt (clock : Nat) (rehearsal : Rehearsal) : Rehearsal :=
  rest { rehearsal with engine := { rehearsal.engine with clock } }

/-- Lets the timer clock go on to some time, stopping at most so many times on the way, whenever
the reaper has to wake up. -/
def advanceTo (target : Nat) : (stops : Nat) → Rehearsal → Rehearsal
  | 0, rehearsal => rehearsal.restAt target
  | stops + 1, rehearsal =>
    match rehearsal.engine.reaper.nextWake? with
    | none => rehearsal.restAt target
    | some due =>
      if due ≤ target then
        advanceTo target stops (rehearsal.restAt (max rehearsal.engine.clock due))
      else rehearsal.restAt target

/-- Lets time pass: first on the timer clock, where each millisecond is a stop at most, then on
the wall clock. -/
def advance (milliseconds : Nat) (rehearsal : Rehearsal) : Rehearsal :=
  let advanced := rehearsal.advanceTo (rehearsal.engine.clock + milliseconds) (milliseconds + 1)
  advanced.setNow (advanced.engine.desk.now.addMilliseconds milliseconds)

/-- The code of a ticket, when there is one with the identifier. -/
def hashOf? (rehearsal : Rehearsal) (ticket : Uuid) : Option String :=
  (rehearsal.books.tickets.find? fun present => present.id = ticket).map (·.hash)

end Rehearsal

end BoxOffice
