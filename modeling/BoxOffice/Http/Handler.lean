import BoxOffice.Checkout
import BoxOffice.Http.MediaType
import BoxOffice.Http.Route
import BoxOffice.Settlement
import BoxOffice.Text.FormEncoding

/-!
# Answering over HTTP

How the box office answers at each of its routes. A purchase needs an event in the path, a body
of a JSON type, and a purchase request in the body, and the first of these that is missing is
reported. A notification of the gateway is always acknowledged; it acts only if its form can be
read, brings the token that is asked for, and holds a notification.
-/
namespace BoxOffice.Http

/-- How the box office was set up. -/
structure Setup where
  /-- What was decided about sales. -/
  checkout : CheckoutSettings
  /-- The token that callbacks have to bring, if any. -/
  callbackToken : Option String

/-- What comes of a request: a response, unless a number or a date left its range. -/
abbrev Handled := Except Overflow HttpResponse

/-- The event that a segment of a path names. -/
def eventOf? (segment : String) : Option Uuid :=
  Utf8.decode? (FormEncoding.decodePercent (Utf8.encode segment)) >>= Uuid.read?

/-- Whether a body is said to be JSON. -/
def isJsonType (contentType : Option String) : Bool :=
  (contentType >>= MediaType.read?).any MediaType.isJson

/-- The response to a path that names no event. -/
def invalidUrl : HttpResponse := .text 400 "Invalid URL"

/-- The response to a body that is not said to be JSON. -/
def jsonExpected : HttpResponse :=
  .text 415 ("Expected request with \x60Content-Type: " ++ jsonType ++ "\x60")

/-- The response to a body that holds no purchase request. -/
def unreadableBody : Json.Flaw → HttpResponse
  | .malformed => .text 400 "Failed to parse the request body as JSON"
  | .mismatched => .text 422 "Failed to deserialize the JSON body into the target type"

/-- The response to a purchase. -/
def purchaseResponse : Except Abort Receipt → Handled
  | .ok receipt =>
    .ok (.json 200 (.ofFields [("data", receipt.json), ("message", .ofText "Tickets reserved")]))
  | .error (.refused refusal) => .ok (.json refusal.status refusal.envelope)
  | .error (.overflowed overflow) => .error overflow

/-- Sells tickets of an event. -/
def sell (setup : Setup) (event : Uuid) (purchase : PurchaseRequest) : Program Handled := do
  let bought ← Checkout.buy setup.checkout event purchase
  return purchaseResponse bought

/-- Takes a purchase. What follows the purchase request in the body is not read. -/
def takePurchase (setup : Setup) (segment : String) (request : HttpRequest) : Program Handled :=
  match eventOf? segment with
  | none => .done (.ok invalidUrl)
  | some event =>
    if !isJsonType request.bodyType? then .done (.ok jsonExpected)
    else match PurchaseRequest.shape.decode (Json.read request.body).value with
      | .error flaw => .done (.ok (unreadableBody flaw))
      | .ok purchase => sell setup event purchase

/-- The acknowledgement of a notification. -/
def acknowledged : HttpResponse := .json 200 (.ofFields [("status", .ofText "ok")])

/-- The form of a notification. -/
structure CallbackForm where
  /-- The text of the notification. -/
  data : String
  /-- The token. -/
  token : Option String
deriving DecidableEq

/-- The value of the only field with a name, or none without such a field; the outer option tells
that there are several. -/
def onlyField? (fields : List (String × String)) (name : String) : Option (Option String) :=
  match fields.filter fun field => field.1 = name with
  | [] => some none
  | [field] => some (some field.2)
  | _ => none

/-- The form in a request, if the body is said to be one and no field is given twice. -/
def callbackForm? (request : HttpRequest) : Option CallbackForm := do
  let contentType ← request.bodyType?
  if !contentType.startsWith "application/x-www-form-urlencoded" then none
  let fields := FormEncoding.read request.body
  let data ← onlyField? fields "data"
  let token ← onlyField? fields "token"
  return ⟨data.getD "", token⟩

/-- The notification that a form may act for: it brings the token asked for and can be read. -/
def notificationOf? (setup : Setup) (form : CallbackForm) : Option PaymentNotification :=
  if setup.callbackToken.all fun token => form.token = some token then
    (Json.readWhole PaymentNotification.shape.decode form.data).toOption
  else none

/-- Takes the form of a notification, if there is one that can be read. -/
def takeNotification (setup : Setup) (form : Option CallbackForm) : Program Handled :=
  match form >>= notificationOf? setup with
  | none => .done (.ok acknowledged)
  | some notification => do
    let _ ← Settlement.settle notification
    return .ok acknowledged

/-- The response to whether the box office is ready. -/
def readinessResponse (isAnswering : Bool) (openReservations : Nat) : HttpResponse :=
  .json (if isAnswering then 200 else 503)
    (.ofFields [("ready", .bool isAnswering), ("db", .bool isAnswering),
      ("open_reservations", .ofNat openReservations)])

/-- Tells whether the box office is ready. -/
def tellReadiness : Program Handled :=
  .ask .ping fun isAnswering =>
    .ask .countReservations fun openReservations =>
      .done (.ok (readinessResponse isAnswering openReservations))

/-- Answers at a route. -/
def answerAt (setup : Setup) (request : HttpRequest) : Route → Program Handled
  | .health => .done (.ok (.text 200 "ok"))
  | .liveness => .done (.ok (.json 200 (.ofFields [("alive", .bool true)])))
  | .readiness => tellReadiness
  | .callback => takeNotification setup (callbackForm? request)
  | .buy segment => takePurchase setup segment request

/-- Answers a request. -/
def answer (setup : Setup) (request : HttpRequest) : Program Handled :=
  match Route.ofPath? request.path with
  | none => .done (.ok .notFound)
  | some route =>
    if !route.takes request.method then .done (.ok (.methodNotAllowed route.allowed))
    else do
      let handled ← answerAt setup request route
      return if request.method = "HEAD" then handled.map .withoutBody else handled

end BoxOffice.Http
