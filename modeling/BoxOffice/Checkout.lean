import BoxOffice.Program
import BoxOffice.Receipt

/-!
# Buying

A purchase holds tickets, bills them, opens the reservation and arms its timer, in this order:
tickets are committed as pending before the reservation can be seen, and it can be seen before
its timer is armed. When the gateway gave the bill a number under which a reservation is open
already, the hold is undone.
-/
namespace BoxOffice.Checkout

/-- What is wrong with a purchase request: the number of tickets, then the name of the type, then
the number of visitors. -/
def check (request : PurchaseRequest) : Except Refusal Unit :=
  match Inventory.checkAmount request.amount with
  | .error refusal => .error refusal
  | .ok () =>
    if (Text.trim request.ticketName).isEmpty then .error (.invalidArgument .ticketName)
    else if (request.visitors.length : Int) ≠ request.amount.toInt then
      .error (.invalidArgument (.visitorCount request.amount request.visitors.length))
    else .ok ()

/-- The reservation of a hold. -/
def reservationOf (event : Uuid) (request : PurchaseRequest) (hold : Hold) (now : Instant) :
    Reservation where
  id := hold.bill.trackingId
  event
  tickets := hold.tickets.map (·.id)
  hashes := hold.tickets.map (·.hash)
  visitors := request.visitors
  discount := hold.discount
  billedAmount := hold.price.total
  createdAt := now

/-- The receipt of a hold. -/
def receiptOf (event : Uuid) (request : PurchaseRequest) (hold : Hold) : Receipt where
  event
  amount := request.amount
  tickets := hold.tickets.map (·.id)
  visitors := request.visitors
  bill := hold.bill

/-- The end of a purchase whose hold was undone. -/
def afterUndo (id : TrackingId) (undone : Except Abort Unit) : Program (Except Abort Receipt) :=
  .done (undone >>= fun _ => .error (.ofFault (.reservationOpen id)))

/-- A purchase once the store has answered whether the reservation was opened. -/
def afterPut (event : Uuid) (request : PurchaseRequest) (hold : Hold) (isOpened : Bool) :
    Program (Except Abort Receipt) :=
  let id := hold.bill.trackingId
  if isOpened then .ask (.schedule id) fun _ => .done (.ok (receiptOf event request hold))
  else
    .ask (.transact (.undoHold id (hold.tickets.map (·.id)) hold.discount.isSome)) (afterUndo id)

/-- A purchase once its transaction has ended. -/
def afterHold (event : Uuid) (request : PurchaseRequest) (held : Except Abort Hold) :
    Program (Except Abort Receipt) :=
  match held with
  | .error abort => .done (.error abort)
  | .ok hold =>
    .ask .wallClock fun now =>
      .ask (.putReservation (reservationOf event request hold now)) (afterPut event request hold)

/-- Buys tickets of an event. -/
def buy (settings : CheckoutSettings) (event : Uuid) (request : PurchaseRequest) :
    Program (Except Abort Receipt) :=
  match check request with
  | .error refusal => .done (.error (.refused refusal))
  | .ok () => .ask (.transact (.hold settings event request)) (afterHold event request)

end BoxOffice.Checkout
