import BoxOffice.Json.Shape

/-!
# Attendance

Whoever comes with a ticket that was sold: the ticket, its event, and what the buyer told.
-/
namespace BoxOffice

/-- The visitor of one ticket that was sold. -/
structure Attendance where
  /-- The event. -/
  event : Uuid
  /-- The ticket. -/
  ticket : Uuid
  /-- What the buyer told, as JSON. -/
  data : Json

namespace Attendance

/-- An attendance in JSON. -/
def json (attendance : Attendance) : Json :=
  .ofFields [("event_id", .ofUuid attendance.event), ("ticket_id", .ofUuid attendance.ticket),
    ("data", attendance.data)]

/-- The fields of an attendance in JSON. -/
def shape : Json.Shape Attendance :=
  Attendance.mk <$> .required "event_id" Json.readUuid <*> .required "ticket_id" Json.readUuid
    <*> .required "data" Json.readFree

end Attendance

end BoxOffice
