import BoxOffice.Mail
import BoxOffice.Transaction

/-!
# Programs of the box office

A service is a dialogue with the box office around it: with the ledger, one transaction at a time,
with the store of open reservations, with the reaper that releases them when time runs out, and
with the outbox for mails. Each question is one step, so the steps of several services can be
taken in any order.
-/
namespace BoxOffice

/-- What came of releasing a reservation whose time ran out. -/
inductive ReapOutcome where
  /-- So many tickets are available again. -/
  | released (tickets : Nat)
  /-- The bill has been paid. -/
  | alreadySettled
  /-- No reservation is open. -/
  | alreadyConsumed
deriving DecidableEq, Repr

/-- The report of a timer that fired. -/
structure ReapEvent where
  /-- The reservation. -/
  id : TrackingId
  /-- What came of it. -/
  outcome : Except Abort ReapOutcome

/-- A question to the box office. -/
inductive Request where
  /-- A transaction is carried out. -/
  | transact (transaction : Transaction)
  /-- Whether a payment has been committed. -/
  | paymentExists (id : TrackingId)
  /-- Whether the ledger answers. -/
  | ping
  /-- A reservation is opened unless one is open under its identifier. -/
  | putReservation (reservation : Reservation)
  /-- The open reservation under an identifier is taken away. -/
  | takeReservation (id : TrackingId)
  /-- The number of open reservations. -/
  | countReservations
  /-- The timer of a reservation is armed. -/
  | schedule (id : TrackingId)
  /-- The timer of a reservation is disarmed. -/
  | resolve (id : TrackingId)
  /-- A mail is handed over for delivery. -/
  | deliver (mail : ConfirmationMail)
  /-- The report of a timer is published. -/
  | publish (event : ReapEvent)
  /-- The time. -/
  | wallClock

/-- What a question is answered with. -/
@[reducible]
def Request.Answer : Request → Type
  | .transact transaction => Except Abort transaction.Result
  | .paymentExists _ => Except Fault Bool
  | .ping | .putReservation _ => Bool
  | .takeReservation _ => Option Reservation
  | .countReservations => Nat
  | .schedule _ | .resolve _ | .deliver _ | .publish _ => Unit
  | .wallClock => Instant

/-- A service, as a dialogue with the box office. -/
abbrev Program (α : Type) : Type := Dialogue Request Request.Answer α

end BoxOffice
