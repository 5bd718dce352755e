import BoxOffice.Reservation
import BoxOffice.Ticket

/-!
# Faults of a ledger

Why a transaction with the ledger came to nothing. Each fault is a cause with its data;
`Fault.message` is its report. A fault may be explained by the context in which it arose, and
then only the outermost context is reported.
-/
namespace BoxOffice

/-- Places at which a ledger in memory can be made to fail. -/
inductive FailPoint where
  /-- A change of tickets. -/
  | changeTicketStatus
  /-- The entry of a payment. -/
  | insertPayment
  /-- The entry of an attendance. -/
  | insertAttendee
  /-- The end of a transaction. -/
  | commit
deriving DecidableEq, Repr

/-- The name of a place. -/
def FailPoint.name : FailPoint → String
  | .changeTicketStatus => "ChangeTicketStatus"
  | .insertPayment => "InsertPayment"
  | .insertAttendee => "InsertAttendee"
  | .commit => "Commit"

/-- Places at which a ledger can be made to fail from outside. -/
inductive Barrier where
  /-- The beginning of a transaction. -/
  | opening
  /-- The question for a payment outside transactions. -/
  | paymentExists
  /-- The question whether the ledger answers. -/
  | ping
  /-- The look-up of available tickets. -/
  | lockTickets
  /-- The look-up of a referral code. -/
  | lockReferral
  /-- The count of the uses of a code. -/
  | usageCount
  /-- The entry of a use. -/
  | recordUsage
  /-- The return of a use. -/
  | releaseUsage
  /-- The question for a payment in a transaction. -/
  | transactionPaymentExists
  /-- A change of tickets. -/
  | changeStatus
  /-- The end of a transaction. -/
  | commit
  /-- The undoing of a transaction. -/
  | rollback
deriving DecidableEq, Repr

/-- The name of a barrier. -/
def Barrier.name : Barrier → String
  | .opening => "Begin"
  | .paymentExists => "PaymentExists"
  | .ping => "Ping"
  | .lockTickets => "TxLockTickets"
  | .lockReferral => "TxLockReferral"
  | .usageCount => "TxUsageCount"
  | .recordUsage => "TxRecordUsage"
  | .releaseUsage => "TxReleaseUsage"
  | .transactionPaymentExists => "TxPaymentExists"
  | .changeStatus => "TxChangeStatus"
  | .commit => "TxCommit"
  | .rollback => "TxRollback"

/-- Why a transaction with the ledger came to nothing. -/
inductive Fault where
  /-- The ledger in memory was made to fail. -/
  | injected (point : FailPoint)
  /-- The ledger was made to fail from outside. -/
  | barred (barrier : Barrier)
  /-- Tickets were to change against the rule. -/
  | illegalMove (current next : TicketStatus)
  /-- The reservation has used a code already. -/
  | usageRecorded (id : TrackingId)
  /-- There is no such code. -/
  | codeMissing (code : Uuid)
  /-- The bill has been paid already. -/
  | paymentRecorded (id : TrackingId)
  /-- The ticket has a visitor already. -/
  | visitorRecorded (ticket : Uuid)
  /-- Not as many tickets became pending as were to be held. -/
  | heldCount (expected held : Nat)
  /-- Not as many tickets were pending as the reservation holds. -/
  | pendingCount (expected : Nat) (id : TrackingId) (found : Nat)
  /-- The reservation tells nothing about the visitor of a ticket. -/
  | visitorMissing (ticket : Uuid)
  /-- Another reservation is open under the identifier. -/
  | reservationOpen (id : TrackingId)
  /-- A number on record would leave its range. -/
  | overflowed (overflow : Overflow)
  /-- A ticket has a status of an unknown name. -/
  | unexpectedStatus (name : String)
  /-- A question that has one row as its answer had none. -/
  | noRow
  /-- A row gives no value that can be read from a column. -/
  | unreadable (column : String)
  /-- There is no connection to the database. -/
  | noConnection
  /-- The database reports an error. -/
  | database (report : String)
  /-- A cause in given words. -/
  | stated (text : String)
  /-- A fault in its context. -/
  | explained (context : String) (cause : Fault)
deriving DecidableEq

/-- The report of a fault; of a fault in its context, the outermost context. -/
def Fault.message : Fault → String
  | .injected point => "injected failure at " ++ point.name
  | .barred barrier => "double failed at " ++ barrier.name
  | .illegalMove current next => "illegal ticket transition " ++ current.name ++ " -> " ++ next.name
  | .usageRecorded id => "referral usage for " ++ id.label ++ " already recorded"
  | .codeMissing code => "referral code " ++ code.hyphenated ++ " missing"
  | .paymentRecorded id => "duplicate payment for " ++ id.label
  | .visitorRecorded ticket => "ticket " ++ ticket.hyphenated ++ " already has an attendee"
  | .heldCount expected held =>
    "expected to hold " ++ toString expected ++ " tickets, held " ++ toString held
  | .pendingCount expected id found =>
    "expected " ++ toString expected ++ " pending tickets for " ++ id.label ++ ", found " ++
      toString found
  | .visitorMissing ticket => "no attendee payload for ticket " ++ ticket.hyphenated
  | .reservationOpen id => "tracking id " ++ id.label ++ " already has an open reservation"
  | .overflowed overflow => overflow.message
  | .unexpectedStatus name => "unexpected ticket status " ++ name
  | .noRow => "no rows returned by a query that expected to return at least one row"
  | .unreadable column => "no column found for name: " ++ column
  | .noConnection => "pool timed out while waiting for an open connection"
  | .database report => "error returned from database: " ++ report
  | .stated text => text
  | .explained context _ => context

end BoxOffice
