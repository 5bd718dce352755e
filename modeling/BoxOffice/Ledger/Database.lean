import BoxOffice.Ledger.Basic
import BoxOffice.Sql.Session

/-!
# Ledgers in a database

The queries of a ledger as statements of SQL over a session, and what is made of the replies.
Tickets change only by moves that are allowed, and a move of no tickets sends nothing. The use of
a referral code and its return take two statements each.

Each statement that asks for rows names the columns that are read from them, and each column has its
one type in the tables, so every row of a reply to the statement gives all that is read. A row that
does not answers another statement, and no database replies with it: a reader of columns takes it
for a mistake of the program, not for an error that it reports. Here reading it ends the query with
`Fault.unreadable`, a fault with no other origin. Of the transaction nothing is kept either way, for
it is left without a commit.
-/
namespace BoxOffice

namespace Database

open Sql

/-- Locks available tickets; those locked by others are passed over. -/
def lockTickets : String :=
  "SELECT id, event_id, name, price, status::text AS status, hash FROM tickets " ++
  "WHERE event_id = $1 AND name = $2 AND status = 'available' " ++
  "ORDER BY created_at ASC, id ASC LIMIT $3 FOR UPDATE SKIP LOCKED"

/-- Changes the status of tickets. -/
def updateTickets : String :=
  "UPDATE tickets SET status = $1::ticket_status, updated_at = now() " ++
  "WHERE id = ANY($2) AND status = $3::ticket_status"

/-- Locks a referral code. -/
def lockCode : String :=
  "SELECT id, code, discount_percentage, max_uses, current_uses, valid_from, valid_until " ++
  "FROM referral_codes WHERE code = $1 FOR UPDATE"

/-- Counts the uses of a referral code. -/
def countUses : String :=
  "SELECT COUNT(*) AS used FROM referral_usage WHERE referral_code_id = $1"

/-- Enters the use of a referral code. -/
def insertUse : String :=
  "INSERT INTO referral_usage (referral_code_id, bill_link_id) VALUES ($1, $2)"

/-- Counts one use more. -/
def countUp : String := "UPDATE referral_codes SET current_uses = current_uses + 1 WHERE id = $1"

/-- Removes the use of a referral code. -/
def deleteUse : String :=
  "DELETE FROM referral_usage WHERE bill_link_id = $1 RETURNING referral_code_id"

/-- Counts one use less. -/
def countDown : String :=
  "UPDATE referral_codes SET current_uses = GREATEST(current_uses - 1, 0) WHERE id = $1"

/-- Looks for a payment. -/
def findPayment : String :=
  "SELECT EXISTS (SELECT 1 FROM payments WHERE bill_link_id = $1) AS found"

/-- Enters a payment. -/
def insertPayment : String :=
  "INSERT INTO payments (event_id, bill_link_id, amount, name, email, data) " ++
  "VALUES ($1, $2, $3, $4, $5, $6)"

/-- Enters an attendance. -/
def insertAttendance : String :=
  "INSERT INTO attendees (event_id, ticket_id, data) VALUES ($1, $2, $3)"

/-- Asks for nothing but an answer. -/
def probe : String := "SELECT 1"

/-- What a row gives in a column that has to be read. -/
def given {α : Type} (column : String) (value : Option α) : Except Fault α :=
  match value with
  | some value => .ok value
  | none => .error (.unreadable column)

/-- The identifier that a row gives in a column. -/
def uuidIn (column : String) (row : Row) : Except Fault Uuid := given column (row.uuid? column)

/-- The text that a row gives in a column. -/
def textIn (column : String) (row : Row) : Except Fault String := given column (row.text? column)

/-- The truth value that a row gives in a column. -/
def boolIn (column : String) (row : Row) : Except Fault Bool := given column (row.bool? column)

/-- The integer of 64 bits that a row gives in a column. -/
def int64In (column : String) (row : Row) : Except Fault Int64 :=
  given column (row.integer? column >>= int64?)

/-- The integer of 32 bits that a row gives in a column. -/
def int32In (column : String) (row : Row) : Except Fault Int32 :=
  given column (row.integer? column >>= int32?)

/-- The instant that a row gives in a column. -/
def instantIn (column : String) (row : Row) : Except Fault Instant :=
  given column (row.instant? column)

/-- The instant that a row gives in a column which may be without a value. -/
def instantOrNullIn (column : String) (row : Row) : Except Fault (Option Instant) :=
  match row.cell? column with
  | some .null => .ok none
  | _ => (instantIn column row).map some

/-- The ticket of a row. -/
def ticketOf (row : Row) : Except Fault Ticket := do
  let statusName ← textIn "status" row
  let id ← uuidIn "id" row
  let event ← uuidIn "event_id" row
  let name ← textIn "name" row
  let price ← int64In "price" row
  let status ← match TicketStatus.ofName? statusName with
    | some status => .ok status
    | none => .error (.unexpectedStatus statusName)
  let hash ← textIn "hash" row
  return { id, event, name, price, status, hash }

/-- The referral code of a row. -/
def codeOf (row : Row) : Except Fault ReferralCode := do
  let id ← uuidIn "id" row
  let code ← textIn "code" row
  let discountPercentage ← int32In "discount_percentage" row
  let maxUses ← int32In "max_uses" row
  let currentUses ← int32In "current_uses" row
  let validFrom ← instantIn "valid_from" row
  let validUntil ← instantOrNullIn "valid_until" row
  return { id, code, discountPercentage, maxUses, currentUses, validFrom, validUntil }

/-- Queries as a computation over a session; a fault ends it. -/
abbrev Exchanging (α : Type) := ExceptT Fault (StateM Session) α

/-- Sends a query within the open transaction. -/
def send (text : String) (parameters : List Parameter) : Exchanging Reply :=
  ExceptT.mk (Session.ask text parameters)

/-- The first row of a reply. -/
def firstRow (reply : Reply) : Except Fault Row :=
  match reply.rows with
  | [] => .error .noRow
  | row :: _ => .ok row

/-- Answers a query within the open transaction. -/
def answer : (query : Query) → Exchanging query.Answer
  | .availableTickets event name limit => do
    let reply ← send lockTickets [.uuid event, .text name, .integer limit]
    ExceptT.mk (pure (reply.rows.mapM ticketOf))
  | .changeStatus tickets current next => do
    if !current.canBecome next then throw (.illegalMove current next)
    if tickets.isEmpty then return (0 : Nat)
    let reply ← send updateTickets [.text next.name, .uuids tickets, .text current.name]
    return reply.affected
  | .referralCode code => do
    let reply ← send lockCode [.text code]
    match reply.rows with
    | [] => return (none : Option ReferralCode)
    | row :: _ =>
      let referral ← ExceptT.mk (pure (codeOf row))
      return some referral
  | .usageCount code => do
    let reply ← send countUses [.uuid code]
    let row ← ExceptT.mk (pure (firstRow reply))
    ExceptT.mk (pure (given "used" (row.integer? "used")))
  | .recordUsage code id => do
    let _ ← send insertUse [.uuid code, .integer id.number]
    let _ ← send countUp [.uuid code]
    return ()
  | .releaseUsage id => do
    let reply ← send deleteUse [.integer id.number]
    match reply.rows with
    | [] => return ()
    | row :: _ =>
      let code ← ExceptT.mk (pure (uuidIn "referral_code_id" row))
      let _ ← send countDown [.uuid code]
      return ()
  | .paymentExists id => do
    let reply ← send findPayment [.integer id.number]
    let row ← ExceptT.mk (pure (firstRow reply))
    ExceptT.mk (pure (boolIn "found" row))
  | .insertPayment record => do
    let _ ← send insertPayment [.uuid record.event, .integer record.id.number,
      .integer record.amount, .text record.payerName, .text record.payerEmail,
      .json record.notification]
    return ()
  | .insertAttendance attendance => do
    let _ ← send insertAttendance [.uuid attendance.event, .uuid attendance.ticket,
      .json attendance.data]
    return ()

/-- Whether a payment is found, asked outside transactions. -/
def paymentExists (id : TrackingId) (session : Session) : Except Fault Bool × Session :=
  let asked := session.askAlone findPayment [.integer id.number]
  (asked.1 >>= firstRow >>= boolIn "found", asked.2)

instance : Ledger Session where
  openTransaction := Session.openTransaction
  answer query := (answer query).run.run
  commit := Session.commit
  rollBack := Session.rollBack
  abandon := Session.undo
  paymentExists := paymentExists
  ping session :=
    let asked := session.askAlone probe []
    (asked.1.isOk, asked.2)

end Database

end BoxOffice
