import BoxOffice.Gateway.Basic
import BoxOffice.Inventory
import BoxOffice.Price
import BoxOffice.Redemption

/-!
# Transactions

The five transactions with the ledger: tickets are held and billed, a hold is undone, tickets are
sold, and tickets are released, either on the word of the gateway or because time ran out. Each
is opened, does its work and is committed; if the work ends early, the transaction is undone. So
from outside a transaction is one step.
-/
namespace BoxOffice

/-- What a shop decides about its sales. -/
structure CheckoutSettings where
  /-- The fee for each ticket. -/
  feePerTicket : Int64
  /-- For how many minutes a bill can be paid. The span is set in whole minutes, and nothing finer
  is ever added to the time at which a bill is made. -/
  billMinutes : Int
  /-- Where a payer is led afterwards. -/
  redirectUrl : String

/-- Seconds by which the clock on bills is ahead of universal time. -/
def billClockOffset : Int := 7 * 3600

/-- What a buyer holds once the bill is made. -/
structure Hold where
  /-- The tickets. -/
  tickets : List Ticket
  /-- The discount they were priced with. -/
  discount : Option DiscountSnapshot
  /-- The price. -/
  price : PriceQuote
  /-- The bill. -/
  bill : Bill

/-- What came of the notification about a bill. -/
inductive SettlementOutcome where
  /-- So many tickets are sold. -/
  | sold (tickets : Nat)
  /-- So many tickets are available again. -/
  | released (tickets : Nat)
  /-- No reservation was open, or the payment was recorded before. -/
  | duplicate
deriving DecidableEq, Repr

/-- A transaction with the ledger. -/
inductive Transaction where
  /-- Tickets are held and billed. -/
  | hold (settings : CheckoutSettings) (event : Uuid) (request : PurchaseRequest)
  /-- A hold that could not be kept is undone. -/
  | undoHold (id : TrackingId) (tickets : List Uuid) (isRedeemed : Bool)
  /-- The tickets of a reservation are sold. -/
  | sell (reservation : Reservation) (notification : PaymentNotification)
  /-- The tickets of a reservation are released on the word of the gateway. -/
  | release (reservation : Reservation)
  /-- The tickets of a reservation are released because time ran out. -/
  | reclaim (reservation : Reservation)

namespace Transaction

/-- What comes of a transaction. -/
@[reducible]
def Result : Transaction → Type
  | .hold .. => Hold
  | .undoHold .. => Unit
  | .sell .. => SettlementOutcome
  | .release _ | .reclaim _ => Nat

/-- The bill for tickets of some price. -/
def billRequest (settings : CheckoutSettings) (title : String) (amount : Int64)
    (expiry : Instant) : BillRequest where
  title
  amount
  kind := "SINGLE"
  expiry := ⟨expiry, billClockOffset⟩
  redirectUrl := settings.redirectUrl
  isAddressRequired := false
  isPhoneNumberRequired := false

/-- The discount of the code that a buyer entered, if any was entered. -/
def redeemEntered (request : PurchaseRequest) : Attempt (Option DiscountSnapshot) :=
  match request.referralCode with
  | none => pure none
  | some code => do
    let now ← Attempt.wallClock
    let discount ← Redemption.redeem code now
    return some discount

/-- Records the use of a code for a bill, if a code was redeemed. -/
def recordUse (discount : Option DiscountSnapshot) (bill : Bill) : Attempt Unit :=
  match discount with
  | none => pure ()
  | some snapshot => Attempt.recordUsage snapshot.referral bill.trackingId

/-- Holds tickets and bills them at the price of the first one. -/
def holdWork (settings : CheckoutSettings) (event : Uuid) (request : PurchaseRequest) :
    Attempt Hold := do
  let discount ← redeemEntered request
  let tickets ← Inventory.reserve event request.ticketName request.amount
  let unitPrice := (tickets.head?.map (·.price)).getD 0
  let price ← Attempt.compute (PriceQuote.compute unitPrice request.amount
    (discount.map (·.percentage)) settings.feePerTicket)
  let now ← Attempt.wallClock
  let expiry ← Attempt.compute (now.addMinutes settings.billMinutes)
  let bill ← Attempt.createBill (billRequest settings request.ticketName price.total expiry)
  recordUse discount bill
  return { tickets, discount, price, bill }

/-- Makes held tickets available again and returns the use of a code. -/
def undoWork (id : TrackingId) (tickets : List Uuid) (isRedeemed : Bool) : Attempt Unit := do
  let _ ← Attempt.changeStatus tickets .pending .available
  if isRedeemed then Attempt.releaseUsage id else pure ()

/-- Makes the tickets of a reservation available again and returns its use of a code. -/
def releaseWork (reservation : Reservation) : Attempt Nat := do
  let released ← Attempt.changeStatus reservation.tickets .pending .available
  Attempt.releaseUsage reservation.id
  return released

/-- The record of a payment for a reservation. -/
def paymentRecord (reservation : Reservation) (notification : PaymentNotification) :
    PaymentRecord where
  id := reservation.id
  event := reservation.event
  amount := notification.amount
  payerName := notification.senderName
  payerEmail := notification.senderEmail
  notification := notification.json

/-- Enters an attendance for each ticket, with the visitors in the same order. -/
def attendWork (event : Uuid) : List Uuid → List VisitorDetails → Attempt Unit
  | [], _ => pure ()
  | ticket :: _, [] => Attempt.refuse (.persistence (.visitorMissing ticket))
  | ticket :: tickets, visitor :: visitors => do
    Attempt.insertAttendance ⟨event, ticket, visitor.json⟩
    attendWork event tickets visitors

/-- Records the payment, sells the tickets and enters the attendances, unless the payment is on
record already. -/
def sellWork (reservation : Reservation) (notification : PaymentNotification) :
    Attempt SettlementOutcome := do
  let isRecorded ← Attempt.paymentExists reservation.id
  if isRecorded then return .duplicate
  Attempt.insertPayment (paymentRecord reservation notification)
  let sold ← Attempt.changeStatus reservation.tickets .pending .sold
  let expected := reservation.tickets.length
  Attempt.demand (decide (sold = expected))
    (.persistence (.pendingCount expected reservation.id sold))
  attendWork reservation.event reservation.tickets reservation.visitors
  return .sold expected

/-- What is done within a transaction. -/
def work : (transaction : Transaction) → Attempt transaction.Result
  | .hold settings event request => holdWork settings event request
  | .undoHold id tickets isRedeemed => undoWork id tickets isRedeemed
  | .sell reservation notification => sellWork reservation notification
  | .release reservation => releaseWork reservation
  | .reclaim reservation => releaseWork reservation

/-- Whether the ledger is told to undo the transaction when its work ends early; otherwise the
transaction is left to be undone. -/
def isRolledBack : Transaction → Abort → Bool
  | _, .overflowed _ => false
  | .reclaim _, _ => false
  | _, .refused _ => true

end Transaction

/-- What transactions work with. -/
structure Desk (σ γ : Type) where
  /-- The ledger. -/
  ledger : σ
  /-- The gateway. -/
  gateway : γ
  /-- The time. -/
  now : Instant

namespace Desk

variable {σ γ : Type} [Ledger σ] [Gateway γ]

/-- Answers an inquiry. -/
def answer : (inquiry : Inquiry) → Desk σ γ → inquiry.Answer × Desk σ γ
  | .consult query, desk =>
    let given := Ledger.answer query desk.ledger
    (given.1, { desk with ledger := given.2 })
  | .createBill request, desk =>
    let given := Gateway.createBill request desk.gateway
    (given.1, { desk with gateway := given.2 })
  | .wallClock, desk => (desk.now, desk)

/-- Does some work. -/
def attempt {α : Type} (work : Attempt α) (desk : Desk σ γ) : Except Abort α × Desk σ γ :=
  Dialogue.run answer work.run desk

/-- Work that gives a value at once changes nothing. -/
@[simp]
theorem attempt_pure {α : Type} (value : α) (desk : Desk σ γ) :
    desk.attempt (pure value) = (.ok value, desk) :=
  rfl

/-- Work that ends at once changes nothing. -/
@[simp]
theorem attempt_refuse {α : Type} (refusal : Refusal) (desk : Desk σ γ) :
    desk.attempt (Attempt.refuse refusal : Attempt α) = (.error (.refused refusal), desk) :=
  rfl

/-- Work that goes on does so unless it has ended. -/
theorem attempt_bind {α β : Type} (work : Attempt α) (next : α → Attempt β) (desk : Desk σ γ) :
    desk.attempt (work >>= next) =
      match desk.attempt work with
      | (.ok value, later) => later.attempt (next value)
      | (.error abort, later) => (.error abort, later) := by
  simp only [attempt, ExceptT.run_bind, Dialogue.run_bind]
  generalize Dialogue.run answer work.run desk = worked
  obtain ⟨result, later⟩ := worked
  cases result <;> rfl

/-- Ends the open transaction according to what came of its work. -/
def close {α : Type} (isRolledBack : Abort → Bool) (result : Except Abort α)
    (desk : Desk σ γ) : Except Abort α × Desk σ γ :=
  match result with
  | .ok value =>
    let committed := Ledger.commit desk.ledger
    (committed.1.mapError Abort.ofFault |>.map fun _ => value, { desk with ledger := committed.2 })
  | .error abort =>
    let ledger :=
      if isRolledBack abort then (Ledger.rollBack desk.ledger).2 else Ledger.abandon desk.ledger
    (.error abort, { desk with ledger })

/-- Carries out a transaction. -/
def perform (transaction : Transaction) (desk : Desk σ γ) :
    Except Abort transaction.Result × Desk σ γ :=
  let opened := Ledger.openTransaction desk.ledger
  let desk := { desk with ledger := opened.2 }
  match opened.1 with
  | .error fault => (.error (.ofFault fault), desk)
  | .ok _ =>
    let worked := desk.attempt transaction.work
    close transaction.isRolledBack worked.1 worked.2

end Desk

end BoxOffice
