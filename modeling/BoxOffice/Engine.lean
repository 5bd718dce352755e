import BoxOffice.Checkout
import BoxOffice.Reaper
import BoxOffice.Release
import BoxOffice.Settlement

/-!
# The engine of the box office

The engine is everything that the services talk to: ledger and gateway, the store of open
reservations, the reaper with the commands that wait for it, the mails and reports so far, and
two clocks. The wall clock dates things and the timer clock drives the reaper. A service is
carried out to its end, and then the engine comes to rest: the reaper follows its commands, fires
what is due and follows the commands that this brought.
-/
namespace BoxOffice

/-- A mail handed over for delivery. -/
structure Delivery where
  /-- The mail. -/
  mail : ConfirmationMail
  /-- Whether it was accepted. -/
  isAccepted : Bool
deriving DecidableEq

/-- The box office with all that belongs to it. -/
structure Engine (σ γ : Type) where
  /-- The ledger, the gateway and the wall clock. -/
  desk : Desk σ γ
  /-- The open reservations. -/
  store : Register TrackingId Reservation
  /-- The timers. -/
  reaper : Reaper
  /-- What the reaper has been told and has not followed yet, the oldest first. -/
  commands : List Reaper.Command
  /-- The timer clock, in milliseconds. -/
  clock : Nat
  /-- How long a reservation stays open, in milliseconds. -/
  delay : Nat
  /-- Whether mails are accepted. -/
  acceptsMail : Bool
  /-- The mails handed over so far. -/
  deliveries : List Delivery
  /-- The reports of timers so far. -/
  events : List ReapEvent

namespace Engine

variable {σ γ : Type}

/-- An engine that has done nothing yet. -/
def start (ledger : σ) (gateway : γ) (now : Instant) (delay : Nat) : Engine σ γ where
  desk := ⟨ledger, gateway, now⟩
  store := .empty
  reaper := .empty
  commands := []
  clock := 0
  delay
  acceptsMail := true
  deliveries := []
  events := []

/-- Opens a reservation unless one is open under its identifier, and tells which. -/
def put (reservation : Reservation) (engine : Engine σ γ) : Bool × Engine σ γ :=
  if engine.store.contains reservation.id then (false, engine)
  else (true, { engine with store := engine.store.insert reservation.id reservation })

/-- Takes away the open reservation under an identifier. -/
def take (id : TrackingId) (engine : Engine σ γ) : Option Reservation × Engine σ γ :=
  (engine.store.get? id, { engine with store := engine.store.erase id })

/-- Tells the reaper something. -/
def command (order : Reaper.Command) (engine : Engine σ γ) : Engine σ γ :=
  { engine with commands := engine.commands ++ [order] }

/-- Lets the reaper follow its commands. -/
def followCommands (engine : Engine σ γ) : Engine σ γ :=
  { engine with
    reaper := engine.commands.foldl (fun reaper order => reaper.follow order) engine.reaper
    commands := [] }

/-- The engine with another ledger. -/
def withLedger (engine : Engine σ γ) (ledger : σ) : Engine σ γ :=
  { engine with desk := { engine.desk with ledger } }

variable [Ledger σ] [Gateway γ]

/-- Answers a question of a service. -/
def answer : (request : Request) → Engine σ γ → request.Answer × Engine σ γ
  | .transact transaction, engine =>
    let performed := engine.desk.perform transaction
    (performed.1, { engine with desk := performed.2 })
  | .paymentExists id, engine =>
    let given := Ledger.paymentExists id engine.desk.ledger
    (given.1, engine.withLedger given.2)
  | .ping, engine =>
    let given := Ledger.ping engine.desk.ledger
    (given.1, engine.withLedger given.2)
  | .putReservation reservation, engine => engine.put reservation
  | .takeReservation id, engine => engine.take id
  | .countReservations, engine => (engine.store.size, engine)
  | .schedule id, engine => ((), engine.command (.schedule id (engine.clock + engine.delay)))
  | .resolve id, engine => ((), engine.command (.resolve id))
  | .deliver mail, engine =>
    ((), { engine with deliveries := engine.deliveries ++ [⟨mail, engine.acceptsMail⟩] })
  | .publish event, engine => ((), { engine with events := engine.events ++ [event] })
  | .wallClock, engine => (engine.desk.now, engine)

/-- Carries out a service. -/
def run {α : Type} (program : Program α) (engine : Engine σ γ) : α × Engine σ γ :=
  Dialogue.run answer program engine

/-- Lets the timers fire that are due. -/
def fireDue (engine : Engine σ γ) : Engine σ γ :=
  let woken := engine.reaper.wake engine.clock
  woken.1.foldl (fun engine id => (engine.run (Release.fire id)).2)
    { engine with reaper := woken.2 }

/-- Comes to rest. -/
def rest (engine : Engine σ γ) : Engine σ γ := engine.followCommands.fireDue.followCommands

/-- Carries out a service and comes to rest. -/
def perform {α : Type} (program : Program α) (engine : Engine σ γ) : α × Engine σ γ :=
  let ran := engine.run program
  (ran.1, ran.2.rest)

/-- Lets the timer clock go on to some time, stopping at most so many times on the way, whenever
the reaper has to wake up. -/
def advanceTo (target : Nat) : (stops : Nat) → Engine σ γ → Engine σ γ
  | 0, engine => rest { engine with clock := target }
  | stops + 1, engine =>
    match engine.reaper.nextWake? with
    | none => rest { engine with clock := target }
    | some due =>
      if due ≤ target then
        advanceTo target stops (rest { engine with clock := max engine.clock due })
      else rest { engine with clock := target }

/-- Lets time pass: first on the timer clock, where each millisecond is a stop at most, then on
the wall clock. -/
def advance (milliseconds : Nat) (engine : Engine σ γ) : Engine σ γ :=
  let engine := engine.advanceTo (engine.clock + milliseconds) (milliseconds + 1)
  { engine with
    desk := { engine.desk with now := engine.desk.now.addMilliseconds milliseconds } }

/-- Buys tickets of an event. -/
def buy (settings : CheckoutSettings) (event : Uuid) (request : PurchaseRequest)
    (engine : Engine σ γ) : Except Abort Receipt × Engine σ γ :=
  engine.perform (Checkout.buy settings event request)

/-- Settles the reservation that a notification is about. -/
def settle (notification : PaymentNotification) (engine : Engine σ γ) :
    Except Abort SettlementOutcome × Engine σ γ :=
  engine.perform (Settlement.settle notification)

/-- Releases a reservation that has not been paid for. -/
def reap (id : TrackingId) (engine : Engine σ γ) : Except Abort ReapOutcome × Engine σ γ :=
  engine.perform (Release.reap id)

end Engine

end BoxOffice
