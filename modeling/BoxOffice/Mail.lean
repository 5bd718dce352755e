import BoxOffice.Json.Leaf

/-!
# Confirmation mails

Whoever has paid gets a mail with the codes of the tickets.
-/
namespace BoxOffice

/-- A mail to a payer. -/
structure ConfirmationMail where
  /-- The mail address of the payer. -/
  recipient : String
  /-- The subject. -/
  subject : String
  /-- The text. -/
  body : String
  /-- The codes of the tickets. -/
  hashes : List String
deriving DecidableEq

namespace ConfirmationMail

/-- The subject of all mails. -/
def thanks : String := "Thanks for your purchase!"

/-- The line of one code. -/
def codeLine (hash : String) : String := "  - " ++ hash ++ "\n"

/-- The text of the mail about a payment. -/
def render (payer title : String) (amount : Int64) (hashes : List String) : String :=
  "Dear " ++ payer ++ ",\n\nThank you for your purchase. Your order has been processed.\n\n" ++
    title ++ ": " ++ toString hashes.length ++ " ticket(s), total paid " ++
    toString amount.toInt ++ ".\n\nTicket codes:\n" ++ String.join (hashes.map codeLine)

/-- A mail in JSON. -/
def json (mail : ConfirmationMail) : Json :=
  .ofFields [("recipient", .ofText mail.recipient), ("subject", .ofText mail.subject),
    ("body", .ofText mail.body), ("ticket_hashes", .ofList .ofText mail.hashes)]

end ConfirmationMail

end BoxOffice
