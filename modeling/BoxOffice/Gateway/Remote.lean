import BoxOffice.Gateway.Basic
import BoxOffice.Http.Post
import BoxOffice.Http.Target
import BoxOffice.Text.Base64

/-!
# Remote gateways

A gateway at some address, to which requests are posted as forms with the secret as the name of
the user. A success has to bring a bill in JSON; any other answer is quoted in the report.
-/
namespace BoxOffice

/-- A gateway at some address. -/
structure RemoteGateway where
  /-- The path under which it is found. -/
  basePath : String
  /-- The secret. -/
  secret : String
  /-- What the gateway does with posts. -/
  conduct : Http.Conduct
  /-- The posts it has received. -/
  received : List Http.Post

namespace RemoteGateway

/-- The name of the gateway. -/
def name : String := "flip"

/-- A path without the slashes at its end. -/
def trimSlashes (path : String) : String :=
  String.ofList (path.toList.reverse.dropWhile (· = '/')).reverse

/-- The post for a bill. -/
def postFor (gateway : RemoteGateway) (request : BillRequest) : Http.Post where
  target := Http.Target.ofAddress (trimSlashes gateway.basePath ++ "/pwf/bill")
  authorization := some ("Basic " ++ Base64.encode (Utf8.encode (gateway.secret ++ ":")))
  contentType := "application/x-www-form-urlencoded"
  eventType := none
  body := FormEncoding.write request.formFields

/-- What the conduct of the gateway means for a request. -/
def interpret : Http.Conduct → Except GatewayFault Bill
  | .answers status body =>
    let body := Http.bodyOf status body
    if Http.isSuccess status then
      (Json.readWhole Bill.shape.decode body).mapError fun _ => .undecodable
    else .error (.answered status body)
  | .breaksOff status =>
    if !Http.isSuccess status then .error (.answered status "")
    else if Http.hasBody status then .error .unreadable
    else .error .undecodable
  | .hangsUp | .refuses => .error .unreachable
  | .hangs => .error .timedOut

instance : Gateway RemoteGateway where
  createBill request gateway :=
    let received :=
      if gateway.conduct.receives then gateway.received ++ [gateway.postFor request]
      else gateway.received
    (interpret gateway.conduct, { gateway with received })

end RemoteGateway

end BoxOffice
