import BoxOffice.Http.Message

/-!
# Routes

The five places at which the box office answers, by their exact paths. Those that only tell
something are asked by GET or HEAD, the others by POST.
-/
namespace BoxOffice.Http

/-- A place at which the box office answers. -/
inductive Route where
  /-- Whether anyone is there. -/
  | health
  /-- Whether the ledger answers, and how many reservations are open. -/
  | readiness
  /-- Whether the process is alive. -/
  | liveness
  /-- Notifications of the gateway. -/
  | callback
  /-- Purchases for the event in a segment of the path. -/
  | buy (event : String)
deriving DecidableEq, Repr

namespace Route

/-- The route of a path. -/
def ofPath? (path : String) : Option Route :=
  match (path.toList.splitOn '/').map String.ofList with
  | ["", "health"] => some .health
  | ["", "ops", "readiness"] => some .readiness
  | ["", "ops", "liveness"] => some .liveness
  | ["", "payments", "callback"] => some .callback
  | ["", "v1", "events", event, "tickets", "buy"] => some (.buy event)
  | _ => none

/-- Whether a route is asked by POST. -/
def isPosted : Route → Bool
  | .callback | .buy _ => true
  | .health | .readiness | .liveness => false

/-- The methods allowed on a route. -/
def allowed (route : Route) : String := if route.isPosted then "POST" else "GET,HEAD"

/-- Whether a route takes a method. -/
def takes (route : Route) (method : String) : Bool :=
  if route.isPosted then method = "POST" else method = "GET" || method = "HEAD"

end Route

end BoxOffice.Http
