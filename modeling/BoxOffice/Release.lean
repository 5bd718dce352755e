import BoxOffice.Program

/-!
# Releasing what nobody paid for

When the time of a reservation has run out, the ledger is asked for a payment first and the
reservation is taken from the store second; whoever takes it consumes it. If the ledger refuses to
release its tickets, it is put back. A timer that meets a refusal is armed again before it reports.
An overflow ends everything on the spot: nothing is put back, armed or reported.
-/
namespace BoxOffice.Release

/-- A release once the reservation was put back. -/
def afterPutBack (refusal : Refusal) (_ : Bool) : Program (Except Abort ReapOutcome) :=
  .done (.error (.refused refusal))

/-- A release once its transaction has ended. -/
def afterReclaim (reservation : Reservation) (released : Except Abort Nat) :
    Program (Except Abort ReapOutcome) :=
  match released with
  | .ok tickets => .done (.ok (.released tickets))
  | .error (.refused refusal) => .ask (.putReservation reservation) (afterPutBack refusal)
  | .error (.overflowed overflow) => .done (.error (.overflowed overflow))

/-- A release once the store has answered. -/
def afterTake (taken : Option Reservation) : Program (Except Abort ReapOutcome) :=
  match taken with
  | none => .done (.ok .alreadyConsumed)
  | some reservation => .ask (.transact (.reclaim reservation)) (afterReclaim reservation)

/-- A release once the ledger has told whether the bill is paid. -/
def afterPaymentCheck (id : TrackingId) (isPaid : Except Fault Bool) :
    Program (Except Abort ReapOutcome) :=
  match isPaid with
  | .error fault => .done (.error (.refused (.persistence fault)))
  | .ok true => .done (.ok .alreadySettled)
  | .ok false => .ask (.takeReservation id) afterTake

/-- Releases a reservation that has not been paid for. -/
def reap (id : TrackingId) : Program (Except Abort ReapOutcome) :=
  .ask (.paymentExists id) (afterPaymentCheck id)

/-- The end of what a timer does. -/
def afterReap (id : TrackingId) (outcome : Except Abort ReapOutcome) : Program Unit :=
  match outcome with
  | .ok outcome => .ask (.publish ⟨id, .ok outcome⟩) .done
  | .error (.refused refusal) =>
    .ask (.schedule id) fun _ => .ask (.publish ⟨id, .error (.refused refusal)⟩) .done
  | .error (.overflowed _) => .done ()

/-- What the timer of a reservation does when it fires. -/
def fire (id : TrackingId) : Program Unit := reap id >>= afterReap id

end BoxOffice.Release
