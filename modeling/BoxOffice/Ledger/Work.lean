import BoxOffice.Dialogue
import BoxOffice.Ledger.Basic
import BoxOffice.Refusal

/-!
# Work within a transaction

What is done within one transaction is a dialogue with the ledger, the gateway and the clock. An
`Attempt` is such work that may end early: a fault of the ledger ends it with a refusal.
-/
namespace BoxOffice

/-- A question asked within a transaction. -/
inductive Inquiry where
  /-- A query to the ledger. -/
  | consult (query : Query)
  /-- A request to the gateway. -/
  | createBill (request : BillRequest)
  /-- The time. -/
  | wallClock

/-- What an inquiry is answered with. -/
@[reducible]
def Inquiry.Answer : Inquiry → Type
  | .consult query => Except Fault query.Answer
  | .createBill _ => Except GatewayFault Bill
  | .wallClock => Instant

/-- What is done within a transaction. -/
abbrev Work (α : Type) : Type := Dialogue Inquiry Inquiry.Answer α

/-- Work that may end early. -/
abbrev Attempt (α : Type) : Type := ExceptT Abort (Dialogue Inquiry Inquiry.Answer) α

namespace Attempt

/-- Work that ends with a refusal. -/
def refuse {α : Type} (refusal : Refusal) : Attempt α := throw (.refused refusal)

/-- The answer to a query; a fault ends the work. -/
def consult (query : Query) : Attempt query.Answer :=
  ExceptT.mk (.ask (.consult query) fun answer => .done (answer.mapError Abort.ofFault))

/-- A bill of the gateway; without one the work ends. -/
def createBill (request : BillRequest) : Attempt Bill :=
  ExceptT.mk (.ask (.createBill request) fun answer =>
    .done (answer.mapError fun fault => .refused (.gatewayUnavailable fault)))

/-- The time. -/
def wallClock : Attempt Instant := ExceptT.mk (.ask .wallClock fun now => .done (.ok now))

/-- The result of a computation; an overflow ends the work. -/
def compute {α : Type} (result : Except Overflow α) : Attempt α :=
  ExceptT.mk (.done (result.mapError Abort.overflowed))

/-- The result of a check; a refusal ends the work. -/
def check {α : Type} (result : Except Refusal α) : Attempt α :=
  ExceptT.mk (.done (result.mapError Abort.refused))

/-- A condition that has to hold for the work to go on. -/
def demand (condition : Bool) (refusal : Refusal) : Attempt Unit :=
  if condition then pure () else refuse refusal

/-- The first available tickets of an event and a type, at most so many. -/
def availableTickets (event : Uuid) (name : String) (limit : Int64) : Attempt (List Ticket) :=
  consult (.availableTickets event name limit)

/-- Changes those of some tickets that have the current status to the next one, and tells how
many changed. -/
def changeStatus (tickets : List Uuid) (current next : TicketStatus) : Attempt Nat :=
  consult (.changeStatus tickets current next)

/-- The referral code of some text. -/
def referralCode (code : String) : Attempt (Option ReferralCode) := consult (.referralCode code)

/-- How often a referral code has been used. -/
def usageCount (code : Uuid) : Attempt Int := consult (.usageCount code)

/-- Records that a reservation uses a referral code. -/
def recordUsage (code : Uuid) (id : TrackingId) : Attempt Unit := consult (.recordUsage code id)

/-- Returns the use of a referral code, if the reservation has one. -/
def releaseUsage (id : TrackingId) : Attempt Unit := consult (.releaseUsage id)

/-- Whether a bill has been paid. -/
def paymentExists (id : TrackingId) : Attempt Bool := consult (.paymentExists id)

/-- Enters a payment. -/
def insertPayment (record : PaymentRecord) : Attempt Unit := consult (.insertPayment record)

/-- Enters an attendance. -/
def insertAttendance (attendance : Attendance) : Attempt Unit :=
  consult (.insertAttendance attendance)

end Attempt

end BoxOffice
