import BoxOffice.Referral
import BoxOffice.Text.Blank

/-!
# Reservations

A reservation is what a buyer holds between the purchase request and the payment: tickets, the
discount they were priced with, and the amount billed. It goes by the number of its bill, its
tracking identifier.
-/
namespace BoxOffice

/-- The number of a bill, by which its reservation is tracked. -/
structure TrackingId where
  /-- The number of the bill. -/
  number : Int64
deriving DecidableEq, Repr

namespace TrackingId

/-- The written form of a tracking identifier. -/
def label (id : TrackingId) : String := "reserve:" ++ toString id.number.toInt

/-- A tracking identifier in JSON is its number. -/
def json (id : TrackingId) : Json := .ofInt64 id.number

/-- Reads a tracking identifier from JSON. -/
def ofJson : Json.Decoder TrackingId := fun value => (Json.readInt64 value).map TrackingId.mk

instance : KeyOrder TrackingId where
  before first second := decide (first.number < second.number)
  trans first second := by
    simp only [decide_eq_true_eq] at first second ⊢
    exact Int64.lt_trans first second
  irrefl id := by simp
  total first second := by
    simp only [decide_eq_false_iff_not, Int64.not_lt] at first second
    exact congrArg TrackingId.mk (Int64.le_antisymm second first)

end TrackingId

/-- What a buyer tells about one visitor: named texts. -/
abbrev VisitorDetails := Register String String

/-- The details of a visitor in JSON. -/
def VisitorDetails.json (details : VisitorDetails) : Json := .ofRegister .ofText details

/-- Reads the details of a visitor from JSON. -/
def VisitorDetails.ofJson : Json.Decoder VisitorDetails := Json.readRegister Json.readText

/-- Tickets that a buyer holds until the bill is paid. -/
structure Reservation where
  /-- The number of the bill. -/
  id : TrackingId
  /-- The event. -/
  event : Uuid
  /-- The tickets held. -/
  tickets : List Uuid
  /-- The codes of the tickets, in the same order. -/
  hashes : List String
  /-- The visitors, in the same order. -/
  visitors : List VisitorDetails
  /-- The discount the tickets were priced with. -/
  discount : Option DiscountSnapshot
  /-- The amount of the bill. -/
  billedAmount : Int64
  /-- When the tickets were held. -/
  createdAt : Instant

namespace Reservation

/-- A reservation in JSON. -/
def json (reservation : Reservation) : Json :=
  .ofFields [("tracking_id", reservation.id.json), ("event_id", .ofUuid reservation.event),
    ("ticket_ids", .ofList .ofUuid reservation.tickets),
    ("ticket_hashes", .ofList .ofText reservation.hashes),
    ("attendees", .ofList VisitorDetails.json reservation.visitors),
    ("discount", .ofOption DiscountSnapshot.json reservation.discount),
    ("billed_amount", .ofInt64 reservation.billedAmount),
    ("created_at", .ofInstant reservation.createdAt)]

/-- The fields of a reservation in JSON. -/
def shape : Json.Shape Reservation :=
  Reservation.mk <$> .required "tracking_id" TrackingId.ofJson
    <*> .required "event_id" Json.readUuid
    <*> .required "ticket_ids" (Json.readList Json.readUuid)
    <*> .required "ticket_hashes" (Json.readList Json.readText)
    <*> .required "attendees" (Json.readList VisitorDetails.ofJson)
    <*> .optional "discount" DiscountSnapshot.shape.decode
    <*> .required "billed_amount" Json.readInt64 <*> .required "created_at" Json.readInstant

end Reservation

/-- What a buyer asks for. -/
structure PurchaseRequest where
  /-- The name of the ticket type. -/
  ticketName : String
  /-- How many tickets. -/
  amount : Int64
  /-- A referral code as it was entered. -/
  enteredCode : Option String
  /-- The visitors. -/
  visitors : List VisitorDetails

namespace PurchaseRequest

/-- The referral code asked for: what was entered without the blanks around it, unless nothing
else was entered. -/
def referralCode (request : PurchaseRequest) : Option String :=
  (request.enteredCode.map Text.trim).filter fun code => !code.isEmpty

/-- A purchase request in JSON. -/
def json (request : PurchaseRequest) : Json :=
  .ofFields [("ticket_name", .ofText request.ticketName),
    ("ticket_amount", .ofInt64 request.amount),
    ("referral_code", .ofOption .ofText request.enteredCode),
    ("attendees", .ofList VisitorDetails.json request.visitors)]

/-- The fields of a purchase request in JSON. -/
def shape : Json.Shape PurchaseRequest :=
  PurchaseRequest.mk <$> .required "ticket_name" Json.readText
    <*> .required "ticket_amount" Json.readInt64
    <*> .defaulted "referral_code" none (Json.readOption Json.readText)
    <*> .defaulted "attendees" [] (Json.readList VisitorDetails.ofJson)

end PurchaseRequest

end BoxOffice
