import BoxOffice.Bill

/-!
# Receipts

What a buyer gets: the tickets held, and the bill to pay.
-/
namespace BoxOffice

/-- What a buyer gets. -/
structure Receipt where
  /-- The event. -/
  event : Uuid
  /-- The number of tickets. -/
  amount : Int64
  /-- The tickets. -/
  tickets : List Uuid
  /-- The visitors. -/
  visitors : List VisitorDetails
  /-- The bill. -/
  bill : Bill

/-- A receipt in JSON: its own fields and those of the bill side by side. -/
def Receipt.json (receipt : Receipt) : Json :=
  .ofFields ([("event_id", .ofUuid receipt.event), ("ticket_amount", .ofInt64 receipt.amount),
    ("ticket_ids", .ofList .ofUuid receipt.tickets),
    ("attendees", .ofList VisitorDetails.json receipt.visitors)] ++ receipt.bill.fields)

end BoxOffice
