import BoxOffice.Ledger.Basic

/-!
# Books

The books of a ledger as five lists in the order of entry, and what each query reads in them and
enters. A reservation has at most one use of a referral code and at most one payment, and a
ticket at most one attendance; a query that would enter a second one fails.
-/
namespace BoxOffice

/-- One use of a referral code. -/
structure ReferralUse where
  /-- The code. -/
  code : Uuid
  /-- The reservation that used it. -/
  id : TrackingId
deriving DecidableEq

/-- The books of a ledger. -/
structure Books where
  /-- The tickets. -/
  tickets : List Ticket
  /-- The referral codes. -/
  codes : List ReferralCode
  /-- The uses of referral codes. -/
  uses : List ReferralUse
  /-- The payments. -/
  payments : List PaymentRecord
  /-- The attendances. -/
  attendances : List Attendance

namespace Books

/-- Books without entries. -/
def empty : Books := ⟨[], [], [], [], []⟩

/-- Whether a ticket is of an event and a type and can be held. -/
def isAvailable (event : Uuid) (name : String) (ticket : Ticket) : Bool :=
  ticket.event = event && ticket.name = name && ticket.status = .available

/-- The tickets of an event and a type that can be held. -/
def availableTickets (books : Books) (event : Uuid) (name : String) : List Ticket :=
  books.tickets.filter (isAvailable event name)

/-- Whether a ticket is one of some tickets and has a status. -/
def isAmong (tickets : List Uuid) (status : TicketStatus) (ticket : Ticket) : Bool :=
  tickets.contains ticket.id && ticket.status = status

/-- The books after those of some tickets that have the current status took on the next one. -/
def withStatus (books : Books) (tickets : List Uuid) (current next : TicketStatus) : Books :=
  { books with
    tickets := books.tickets.map fun ticket =>
      if isAmong tickets current ticket then { ticket with status := next } else ticket }

/-- How many of some tickets have a status. -/
def countAmong (books : Books) (tickets : List Uuid) (status : TicketStatus) : Nat :=
  books.tickets.countP (isAmong tickets status)

/-- The referral code of some text. -/
def referralCode (books : Books) (code : String) : Option ReferralCode :=
  books.codes.find? fun referral => referral.code = code

/-- How often a referral code has been used. -/
def usageCount (books : Books) (code : Uuid) : Nat :=
  books.uses.countP fun entry => entry.code = code

/-- Changes the first of some codes that has the given identifier. -/
def changeFirst (code : Uuid) (change : ReferralCode → ReferralCode) :
    List ReferralCode → List ReferralCode
  | [] => []
  | referral :: rest =>
    if referral.id = code then change referral :: rest else referral :: changeFirst code change rest

/-- A code with one use more. -/
def addUse (referral : ReferralCode) : ReferralCode :=
  { referral with currentUses := referral.currentUses + 1 }

/-- A code with one use less, but not fewer than none. -/
def returnUse (referral : ReferralCode) : ReferralCode :=
  { referral with currentUses := Int32.ofInt (max 0 (referral.currentUses.toInt - 1)) }

/-- The books after a reservation used a code, unless the code has been used so often that its
counter cannot go on. -/
def withUse (books : Books) (code : Uuid) (id : TrackingId) : Except Fault Books :=
  if books.uses.any fun entry => entry.id = id then .error (.usageRecorded id)
  else
    match books.codes.find? fun referral => referral.id = code with
    | none => .error (.codeMissing code)
    | some referral =>
      if referral.currentUses = Int32.maxValue then .error (.overflowed .sum)
      else
        .ok { books with
          codes := changeFirst code addUse books.codes
          uses := books.uses ++ [⟨code, id⟩] }

/-- The books after a reservation returned its use of a code. -/
def withoutUse (books : Books) (id : TrackingId) : Books :=
  match books.uses.find? fun entry => entry.id = id with
  | none => books
  | some entry =>
    { books with
      codes := changeFirst entry.code returnUse books.codes
      uses := books.uses.eraseP fun entry => entry.id = id }

/-- Whether a reservation used a code whose counter is as low as a counter can be. -/
def isAtBottom (books : Books) (id : TrackingId) : Bool :=
  (books.uses.find? fun entry => entry.id = id).any fun entry =>
    (books.codes.find? fun referral => referral.id = entry.code).any fun referral =>
      referral.currentUses = Int32.minValue

/-- The books after a reservation returned its use of a code, unless the counter of the code cannot
go back: one is taken off before the counter is kept from being negative. -/
def releaseUse (books : Books) (id : TrackingId) : Except Fault Books :=
  if books.isAtBottom id then .error (.overflowed .difference) else .ok (books.withoutUse id)

/-- Whether a bill has been paid. -/
def paymentExists (books : Books) (id : TrackingId) : Bool :=
  books.payments.any fun record => record.id = id

/-- The books with one more payment. -/
def withPayment (books : Books) (record : PaymentRecord) : Except Fault Books :=
  if books.paymentExists record.id then .error (.paymentRecorded record.id)
  else .ok { books with payments := books.payments ++ [record] }

/-- The books with one more attendance. -/
def withAttendance (books : Books) (attendance : Attendance) : Except Fault Books :=
  if books.attendances.any fun present => present.ticket = attendance.ticket then
    .error (.visitorRecorded attendance.ticket)
  else .ok { books with attendances := books.attendances ++ [attendance] }

/-- The answer to a query and the books after it. -/
def answer : (query : Query) → Books → Except Fault (query.Answer × Books)
  | .availableTickets event name limit, books =>
    .ok ((books.availableTickets event name).take limit.toInt.toNat, books)
  | .changeStatus tickets current next, books =>
    if current.canBecome next then
      .ok (books.countAmong tickets current, books.withStatus tickets current next)
    else .error (.illegalMove current next)
  | .referralCode code, books => .ok (books.referralCode code, books)
  | .usageCount code, books => .ok ((books.usageCount code : Int), books)
  | .recordUsage code id, books => (books.withUse code id).map ((), ·)
  | .releaseUsage id, books => (books.releaseUse id).map ((), ·)
  | .paymentExists id, books => .ok (books.paymentExists id, books)
  | .insertPayment record, books => (books.withPayment record).map ((), ·)
  | .insertAttendance attendance, books => (books.withAttendance attendance).map ((), ·)

/-- The status of the first ticket with an identifier. -/
def ticketStatus? (books : Books) (ticket : Uuid) : Option TicketStatus :=
  (books.tickets.find? fun present => present.id = ticket).map (·.status)

/-- How many tickets of an event and a type have a status. -/
def count (books : Books) (event : Uuid) (name : String) (status : TicketStatus) : Nat :=
  books.tickets.countP fun ticket =>
    ticket.event = event && ticket.name = name && ticket.status = status

end Books

end BoxOffice
