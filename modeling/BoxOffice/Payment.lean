import BoxOffice.Reservation

/-!
# Payments

The gateway notifies of what became of a bill. A notification names the bill and its status; all
other fields may be missing. Only the exact spelling of a status counts. A payment that was
received is kept as a record with the whole notification.
-/
namespace BoxOffice

/-- What became of a bill. -/
inductive PaymentStatus where
  /-- It was paid. -/
  | successful
  /-- The payment failed. -/
  | failed
  /-- It was cancelled. -/
  | cancelled
  /-- It was not paid in time. -/
  | expired
deriving DecidableEq, Repr

namespace PaymentStatus

/-- The name of a status. -/
def name : PaymentStatus → String
  | .successful => "SUCCESSFUL"
  | .failed => "FAILED"
  | .cancelled => "CANCELLED"
  | .expired => "EXPIRED"

/-- The status with a name. -/
def ofName? : String → Option PaymentStatus
  | "SUCCESSFUL" => some .successful
  | "FAILED" => some .failed
  | "CANCELLED" => some .cancelled
  | "EXPIRED" => some .expired
  | _ => none

/-- A status is found by its name. -/
theorem ofName?_name (status : PaymentStatus) : ofName? status.name = some status := by
  cases status <;> rfl

/-- A status in JSON. -/
def json (status : PaymentStatus) : Json := .ofText status.name

/-- Reads a status from JSON. -/
def ofJson : Json.Decoder PaymentStatus := Json.readName ofName?

end PaymentStatus

/-- What the gateway tells about a bill. -/
structure PaymentNotification where
  /-- The identifier of the payment. -/
  id : String
  /-- The address of the bill. -/
  billLink : String
  /-- The number of the bill. -/
  billNumber : Int64
  /-- The title of the bill. -/
  billTitle : String
  /-- The name of the payer. -/
  senderName : String
  /-- The bank of the payer. -/
  senderBank : String
  /-- The mail address of the payer. -/
  senderEmail : String
  /-- The amount paid. -/
  amount : Int64
  /-- The name of the status. -/
  status : String
  /-- The kind of the payer's bank. -/
  senderBankType : String
  /-- When the payment was made, as the gateway writes it. -/
  createdAt : String
deriving DecidableEq

namespace PaymentNotification

/-- The reservation that a notification is about. -/
def trackingId (notification : PaymentNotification) : TrackingId := ⟨notification.billNumber⟩

/-- Whether the status tells, in its exact spelling, that the bill was paid. -/
def isPaid (notification : PaymentNotification) : Bool :=
  PaymentStatus.ofName? notification.status = some .successful

/-- A notification in JSON, its members in ascending order. -/
def json (notification : PaymentNotification) : Json :=
  .ofFields [("amount", .ofInt64 notification.amount),
    ("bill_link", .ofText notification.billLink),
    ("bill_link_id", .ofInt64 notification.billNumber),
    ("bill_title", .ofText notification.billTitle),
    ("created_at", .ofText notification.createdAt), ("id", .ofText notification.id),
    ("sender_bank", .ofText notification.senderBank),
    ("sender_bank_type", .ofText notification.senderBankType),
    ("sender_email", .ofText notification.senderEmail),
    ("sender_name", .ofText notification.senderName), ("status", .ofText notification.status)]

/-- The fields of a notification in JSON. -/
def shape : Json.Shape PaymentNotification :=
  PaymentNotification.mk <$> .defaulted "id" "" Json.readText
    <*> .defaulted "bill_link" "" Json.readText <*> .required "bill_link_id" Json.readInt64
    <*> .defaulted "bill_title" "" Json.readText <*> .defaulted "sender_name" "" Json.readText
    <*> .defaulted "sender_bank" "" Json.readText <*> .defaulted "sender_email" "" Json.readText
    <*> .defaulted "amount" 0 Json.readInt64 <*> .defaulted "status" "" Json.readText
    <*> .defaulted "sender_bank_type" "" Json.readText
    <*> .defaulted "created_at" "" Json.readText

end PaymentNotification

/-- A payment received. -/
structure PaymentRecord where
  /-- The number of the bill. -/
  id : TrackingId
  /-- The event. -/
  event : Uuid
  /-- The amount paid. -/
  amount : Int64
  /-- The name of the payer. -/
  payerName : String
  /-- The mail address of the payer. -/
  payerEmail : String
  /-- The notification, as JSON. -/
  notification : Json

namespace PaymentRecord

/-- A record in JSON. -/
def json (record : PaymentRecord) : Json :=
  .ofFields [("tracking_id", record.id.json), ("event_id", .ofUuid record.event),
    ("amount", .ofInt64 record.amount), ("payer_name", .ofText record.payerName),
    ("payer_email", .ofText record.payerEmail), ("raw_payload", record.notification)]

/-- The fields of a record in JSON. -/
def shape : Json.Shape PaymentRecord :=
  PaymentRecord.mk <$> .required "tracking_id" TrackingId.ofJson
    <*> .required "event_id" Json.readUuid <*> .required "amount" Json.readInt64
    <*> .required "payer_name" Json.readText <*> .required "payer_email" Json.readText
    <*> .required "raw_payload" Json.readFree

end PaymentRecord

end BoxOffice
