import BoxOffice.Ledger.Work

/-!
# Holding tickets

Tickets are held all or none: the first available ones of an event and a type become pending, and
when there are too few, or other than all of them changed, the work ends and the transaction is
to be undone.
-/
namespace BoxOffice.Inventory

/-- What is wrong with a number of tickets to hold. -/
def checkAmount (amount : Int64) : Except Refusal Unit :=
  if amount.toInt ≤ 0 then .error (.invalidArgument (.amount amount)) else .ok ()

/-- Holds so many tickets of an event and a type. -/
def reserve (event : Uuid) (name : String) (amount : Int64) : Attempt (List Ticket) := do
  Attempt.check (checkAmount amount)
  let tickets ← Attempt.availableTickets event name amount
  let found : Int := tickets.length
  Attempt.demand (decide (amount.toInt ≤ found)) (.insufficientInventory amount.toInt found)
  let held ← Attempt.changeStatus (tickets.map (·.id)) .available .pending
  Attempt.demand (decide (held = tickets.length)) (.persistence (.heldCount tickets.length held))
  return tickets.map fun ticket => { ticket with status := .pending }

end BoxOffice.Inventory
