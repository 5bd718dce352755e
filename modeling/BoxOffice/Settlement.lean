import BoxOffice.Program

/-!
# Settling

A notification of the gateway settles the reservation of its bill: the tickets are sold when the
bill was paid and released when it was not or when the status is unknown. The reservation is
taken from the store first, so at most one notification settles it. When the transaction is refused
the reservation is put back and its timer armed again, and the reaper gets another chance. An
overflow ends the settlement on the spot: what was taken is not put back.
-/
namespace BoxOffice.Settlement

/-- The mail about a payment. -/
def mailOf (reservation : Reservation) (notification : PaymentNotification) :
    ConfirmationMail where
  recipient := notification.senderEmail
  subject := ConfirmationMail.thanks
  body := ConfirmationMail.render notification.senderName notification.billTitle
    notification.amount reservation.hashes
  hashes := reservation.hashes

/-- The end of a settlement whose timer has been disarmed: a payer with an address gets a mail. -/
def afterResolve (reservation : Reservation) (notification : PaymentNotification)
    (outcome : SettlementOutcome) : Program (Except Abort SettlementOutcome) :=
  match outcome with
  | .sold tickets =>
    if notification.senderEmail.isEmpty then .done (.ok (.sold tickets))
    else .ask (.deliver (mailOf reservation notification)) fun _ => .done (.ok (.sold tickets))
  | .released tickets => .done (.ok (.released tickets))
  | .duplicate => .done (.ok .duplicate)

/-- The end of a settlement that was refused, once the store has answered whether the reservation is
open again. -/
def afterPutBack (id : TrackingId) (refusal : Refusal) (isOpened : Bool) :
    Program (Except Abort SettlementOutcome) :=
  if isOpened then .ask (.schedule id) fun _ => .done (.error (.refused refusal))
  else .done (.error (.refused refusal))

/-- A settlement once its transaction has ended. -/
def afterTransaction (reservation : Reservation) (notification : PaymentNotification)
    (result : Except Abort SettlementOutcome) : Program (Except Abort SettlementOutcome) :=
  let id := notification.trackingId
  match result with
  | .ok outcome => .ask (.resolve id) fun _ => afterResolve reservation notification outcome
  | .error (.refused refusal) => .ask (.putReservation reservation) (afterPutBack id refusal)
  | .error (.overflowed overflow) => .done (.error (.overflowed overflow))

/-- A settlement once the store has answered. -/
def afterTake (notification : PaymentNotification) (taken : Option Reservation) :
    Program (Except Abort SettlementOutcome) :=
  match taken with
  | none => .done (.ok .duplicate)
  | some reservation =>
    if notification.isPaid then
      .ask (.transact (.sell reservation notification)) (afterTransaction reservation notification)
    else
      .ask (.transact (.release reservation)) fun released =>
        afterTransaction reservation notification (Except.map .released released)

/-- Settles the reservation that a notification is about. -/
def settle (notification : PaymentNotification) : Program (Except Abort SettlementOutcome) :=
  .ask (.takeReservation notification.trackingId) (afterTake notification)

end BoxOffice.Settlement
