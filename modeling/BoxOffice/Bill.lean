import BoxOffice.Reservation

/-!
# Bills

The gateway is asked for a bill over some amount that can be paid until some time, and answers
with the bill it made. `BillRequest.formFields` is the request as the gateway takes it: the date
without its time and the two demands as 0 or 1. Of the answer only the number of the bill has to
be there; four of its fields may hold any JSON.
-/
namespace BoxOffice

/-- What a bill shall be. -/
structure BillRequest where
  /-- The title of the bill. -/
  title : String
  /-- The amount to pay. -/
  amount : Int64
  /-- The kind of bill. -/
  kind : String
  /-- Until when it can be paid. -/
  expiry : LocalTime
  /-- Where the payer is led afterwards. -/
  redirectUrl : String
  /-- Whether the payer has to give an address. -/
  isAddressRequired : Bool
  /-- Whether the payer has to give a phone number. -/
  isPhoneNumberRequired : Bool
deriving DecidableEq

namespace BillRequest

/-- A demand as a number. -/
def flag (demand : Bool) : Nat := if demand then 1 else 0

/-- The fields of the request in the order in which they are sent. -/
def formFields (request : BillRequest) : List (String × String) :=
  [("title", request.title), ("amount", toString request.amount.toInt), ("type", request.kind),
    ("expired_date", Rfc3339.writeDay request.expiry), ("redirect_url", request.redirectUrl),
    ("is_address_required", toString (flag request.isAddressRequired)),
    ("is_phone_number_required", toString (flag request.isPhoneNumberRequired))]

/-- A request in JSON. -/
def json (request : BillRequest) : Json :=
  .ofFields [("title", .ofText request.title), ("amount", .ofInt64 request.amount),
    ("type", .ofText request.kind),
    ("expired_date", .ofText (Rfc3339.writeWithOffset request.expiry)),
    ("redirect_url", .ofText request.redirectUrl),
    ("is_address_required", .bool request.isAddressRequired),
    ("is_phone_number_required", .bool request.isPhoneNumberRequired)]

end BillRequest

/-- A bill as the gateway describes it. -/
structure Bill where
  /-- The number of the bill. -/
  number : Int64
  /-- Where it can be paid. -/
  url : String
  /-- Its title. -/
  title : String
  /-- Its kind. -/
  kind : String
  /-- The amount to pay. -/
  amount : Int64
  /-- Where the payer is led afterwards. -/
  redirectUrl : Option String
  /-- Until when it can be paid, as the gateway writes it. -/
  expiry : Option String
  /-- How it was made. -/
  createdFrom : Option String
  /-- Its status. -/
  status : Json
  /-- The step it has reached. -/
  step : Json
  /-- Whether the payer has to give an address. -/
  isAddressRequired : Json
  /-- Whether the payer has to give a phone number. -/
  isPhoneNumberRequired : Json

namespace Bill

/-- The identifier of the reservation that the bill is for. -/
def trackingId (bill : Bill) : TrackingId := ⟨bill.number⟩

/-- The fields of a bill in JSON. -/
def fields (bill : Bill) : List (String × Json) :=
  [("link_id", .ofInt64 bill.number), ("link_url", .ofText bill.url),
    ("title", .ofText bill.title), ("type", .ofText bill.kind), ("amount", .ofInt64 bill.amount),
    ("redirect_url", .ofOption .ofText bill.redirectUrl),
    ("expired_date", .ofOption .ofText bill.expiry),
    ("created_from", .ofOption .ofText bill.createdFrom), ("status", bill.status),
    ("step", bill.step), ("is_address_required", bill.isAddressRequired),
    ("is_phone_number_required", bill.isPhoneNumberRequired)]

/-- A bill in JSON. -/
def json (bill : Bill) : Json := .ofFields bill.fields

/-- The fields of a bill that has been read from JSON. -/
def shape : Json.Shape Bill :=
  Bill.mk <$> .required "link_id" Json.readInt64 <*> .defaulted "link_url" "" Json.readText
    <*> .defaulted "title" "" Json.readText <*> .defaulted "type" "" Json.readText
    <*> .defaulted "amount" 0 Json.readInt64
    <*> .defaulted "redirect_url" none (Json.readOption Json.readText)
    <*> .defaulted "expired_date" none (Json.readOption Json.readText)
    <*> .defaulted "created_from" none (Json.readOption Json.readText)
    <*> .defaulted "status" .null Json.readFree <*> .defaulted "step" .null Json.readFree
    <*> .defaulted "is_address_required" .null Json.readFree
    <*> .defaulted "is_phone_number_required" .null Json.readFree

end Bill

/-- Why there is no bill. -/
inductive GatewayFault where
  /-- The gateway declines all requests. -/
  | declined
  /-- The gateway answered with a status that tells no success. -/
  | answered (status : Nat) (body : String)
  /-- The gateway did not answer in time. -/
  | timedOut
  /-- The exchange with the gateway broke off before an answer. -/
  | unreachable
  /-- The answer broke off. -/
  | unreadable
  /-- The answer is no bill. -/
  | undecodable
  /-- A cause in given words. -/
  | stated (text : String)
deriving DecidableEq, Repr

namespace GatewayFault

/-- How much of an answer a report quotes. -/
def quotedCharacters : Nat := 200

/-- The report of a fault. -/
def message : GatewayFault → String
  | .declined => "mock decline"
  | .answered status body =>
    "HTTP_" ++ toString status ++ ": " ++ String.ofList (body.toList.take quotedCharacters)
  | .timedOut => "gateway timeout"
  | .unreachable => "network error"
  | .unreadable => "reading bill response"
  | .undecodable => "decoding bill response"
  | .stated text => text

end GatewayFault

end BoxOffice
