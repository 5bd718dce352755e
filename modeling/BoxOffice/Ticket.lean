import BoxOffice.Json.Shape

/-!
# Tickets

A ticket belongs to an event, is of a type with a name, and has a price. It is available, pending
while a buyer holds it, or sold. A held ticket is either sold or becomes available again, and a
sold one never changes; `TicketStatus.canBecome` is this rule.
-/
namespace BoxOffice

/-- What has become of a ticket. -/
inductive TicketStatus where
  /-- Anyone may hold it. -/
  | available
  /-- A buyer holds it and has not paid. -/
  | pending
  /-- It has been paid for. -/
  | sold
deriving DecidableEq, Repr

namespace TicketStatus

/-- The name of a status. -/
def name : TicketStatus → String
  | .available => "available"
  | .pending => "pending"
  | .sold => "sold"

/-- The status with a name. -/
def ofName? : String → Option TicketStatus
  | "available" => some .available
  | "pending" => some .pending
  | "sold" => some .sold
  | _ => none

/-- A status is found by its name. -/
theorem ofName?_name (status : TicketStatus) : ofName? status.name = some status := by
  cases status <;> rfl

/-- Whether a ticket of the first status may take on the second. -/
def canBecome : TicketStatus → TicketStatus → Bool
  | .available, .pending => true
  | .pending, .sold => true
  | .pending, .available => true
  | _, _ => false

/-- A status in JSON. -/
def json (status : TicketStatus) : Json := .ofText status.name

/-- Reads a status from JSON. -/
def ofJson : Json.Decoder TicketStatus := Json.readName ofName?

end TicketStatus

/-- A ticket. -/
structure Ticket where
  /-- The identifier of the ticket. -/
  id : Uuid
  /-- The event it admits to. -/
  event : Uuid
  /-- The name of its type. -/
  name : String
  /-- What it costs. -/
  price : Int64
  /-- What has become of it. -/
  status : TicketStatus
  /-- The code that the buyer receives. -/
  hash : String
deriving DecidableEq

namespace Ticket

/-- A ticket in JSON. -/
def json (ticket : Ticket) : Json :=
  .ofFields [("id", .ofUuid ticket.id), ("event_id", .ofUuid ticket.event),
    ("name", .ofText ticket.name), ("price", .ofInt64 ticket.price),
    ("status", ticket.status.json), ("hash", .ofText ticket.hash)]

/-- The fields of a ticket in JSON. -/
def shape : Json.Shape Ticket :=
  Ticket.mk <$> .required "id" Json.readUuid <*> .required "event_id" Json.readUuid
    <*> .required "name" Json.readText <*> .required "price" Json.readInt64
    <*> .required "status" TicketStatus.ofJson <*> .required "hash" Json.readText

end Ticket

end BoxOffice
