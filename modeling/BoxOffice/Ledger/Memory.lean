import BoxOffice.Ledger.Books

/-!
# Ledgers in memory

A ledger that keeps its books in memory. A transaction works on a copy of the books; the commit
puts the copy in their place, and any other end drops it. The ledger can be made to fail at four
places, and then the query or the commit at such a place fails before it does anything.
-/
namespace BoxOffice

/-- A ledger in memory. -/
structure MemoryLedger where
  /-- The books as committed. -/
  books : Books
  /-- The books as the open transaction sees them; the committed ones when none is open. -/
  staged : Books
  /-- Where the ledger is made to fail. -/
  failing : List FailPoint

namespace MemoryLedger

/-- A ledger without an open transaction. -/
def ofBooks (books : Books) (failing : List FailPoint) : MemoryLedger := ⟨books, books, failing⟩

/-- The place at which a query can be made to fail. -/
def failPoint? : Query → Option FailPoint
  | .changeStatus .. => some .changeTicketStatus
  | .insertPayment _ => some .insertPayment
  | .insertAttendance _ => some .insertAttendee
  | _ => none

/-- The place among the failing ones at which a query fails. -/
def failureAt? (ledger : MemoryLedger) (query : Query) : Option FailPoint :=
  (failPoint? query).filter fun point => ledger.failing.contains point

/-- Drops the changes of the open transaction. -/
def dropChanges (ledger : MemoryLedger) : MemoryLedger := { ledger with staged := ledger.books }

instance : Ledger MemoryLedger where
  openTransaction ledger := (.ok (), { ledger with staged := ledger.books })
  answer query ledger :=
    match ledger.failureAt? query with
    | some point => (.error (.injected point), ledger)
    | none =>
      match ledger.staged.answer query with
      | .error fault => (.error fault, ledger)
      | .ok (value, books) => (.ok value, { ledger with staged := books })
  commit ledger :=
    if ledger.failing.contains .commit then (.error (.injected .commit), ledger.dropChanges)
    else (.ok (), { ledger with books := ledger.staged })
  rollBack ledger := (.ok (), ledger.dropChanges)
  abandon ledger := ledger.dropChanges
  paymentExists id ledger := (.ok (ledger.books.paymentExists id), ledger)
  ping ledger := (true, ledger)

end MemoryLedger

end BoxOffice
