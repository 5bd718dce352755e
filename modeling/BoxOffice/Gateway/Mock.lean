import BoxOffice.Gateway.Basic

/-!
# Mock gateways

A gateway that keeps the requests it gets and, unless it declines all of them, answers each with
a bill under the next number, from 1000 on. It can be told to put some other number on the bills
it makes; the numbering goes on nevertheless.
-/
namespace BoxOffice

/-- A gateway that makes bills of its own. -/
structure MockGateway where
  /-- What the gateway does; by one name it declines all requests. -/
  behavior : String
  /-- The number of the next bill. -/
  nextNumber : Int64
  /-- The requests so far. -/
  requests : List BillRequest
  /-- The number put on bills instead of the next one. -/
  imposedNumber : Option Int64

namespace MockGateway

/-- The behavior of a gateway that declines all requests. -/
def declining : String := "ALWAYS_FAILURE"

/-- A new gateway. -/
def new (behavior : String) : MockGateway := ⟨behavior, 1000, [], none⟩

/-- The bill that a request gets under a number. -/
def billOf (request : BillRequest) (number : Int64) : Bill where
  number
  url := "mock.bill/" ++ toString number.toInt
  title := request.title
  kind := request.kind
  amount := request.amount
  redirectUrl := some request.redirectUrl
  expiry := some (Rfc3339.writeMinute request.expiry)
  createdFrom := some "API"
  status := .ofText "ACTIVE"
  step := .ofInt 1
  isAddressRequired := .ofNat (BillRequest.flag request.isAddressRequired)
  isPhoneNumberRequired := .ofNat (BillRequest.flag request.isPhoneNumberRequired)

instance : Gateway MockGateway where
  createBill request gateway :=
    let heard := { gateway with requests := gateway.requests ++ [request] }
    if gateway.behavior = declining then (.error .declined, heard)
    else
      let bill := billOf request gateway.nextNumber
      (.ok { bill with number := gateway.imposedNumber.getD bill.number },
        { heard with nextNumber := gateway.nextNumber + 1 })

end MockGateway

end BoxOffice
