import BoxOffice.Attendance
import BoxOffice.Ledger.Fault
import BoxOffice.Payment

/-!
# Ledgers

A ledger is the lasting record of tickets, referral codes and their uses, payments and
attendances. It is reached through one transaction at a time. Within a transaction it answers
queries, and the transaction ends by a commit, which keeps its changes, or by being rolled back
or abandoned, which undoes them. Outside transactions a ledger tells whether a payment has been
committed and whether it answers at all.
-/
namespace BoxOffice

/-- A question to a ledger within a transaction. -/
inductive Query where
  /-- The first available tickets of an event and a type, at most so many. -/
  | availableTickets (event : Uuid) (name : String) (limit : Int64)
  /-- Those of some tickets that have the current status take on the next one. -/
  | changeStatus (tickets : List Uuid) (current next : TicketStatus)
  /-- The referral code of some text. -/
  | referralCode (code : String)
  /-- How often a referral code has been used. -/
  | usageCount (code : Uuid)
  /-- A reservation uses a referral code. -/
  | recordUsage (code : Uuid) (id : TrackingId)
  /-- A reservation returns its use of a referral code, if it has one. -/
  | releaseUsage (id : TrackingId)
  /-- Whether a bill has been paid. -/
  | paymentExists (id : TrackingId)
  /-- A payment is entered. -/
  | insertPayment (record : PaymentRecord)
  /-- An attendance is entered. -/
  | insertAttendance (attendance : Attendance)

/-- What a query is answered with, unless the ledger fails. -/
@[reducible]
def Query.Answer : Query → Type
  | .availableTickets .. => List Ticket
  | .changeStatus .. => Nat
  | .referralCode _ => Option ReferralCode
  | .usageCount _ => Int
  | .paymentExists _ => Bool
  | .recordUsage .. | .releaseUsage _ | .insertPayment _ | .insertAttendance _ => Unit

/-- Things that serve as a ledger. -/
class Ledger (σ : Type) where
  /-- Opens a transaction. -/
  openTransaction : σ → Except Fault Unit × σ
  /-- Answers a query within the open transaction. -/
  answer : (query : Query) → σ → Except Fault query.Answer × σ
  /-- Ends the open transaction and keeps its changes. -/
  commit : σ → Except Fault Unit × σ
  /-- Ends the open transaction and undoes its changes. -/
  rollBack : σ → Except Fault Unit × σ
  /-- Leaves the open transaction to be undone. -/
  abandon : σ → σ
  /-- Whether a payment has been committed. -/
  paymentExists : TrackingId → σ → Except Fault Bool × σ
  /-- Whether the ledger answers. -/
  ping : σ → Bool × σ

end BoxOffice
