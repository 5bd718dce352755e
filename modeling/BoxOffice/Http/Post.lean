/-!
# Posts

A post sent to a peer, and what may come of it. A status from 200 to 299 tells success and one
from 400 on failure. An answer that breaks off has a status but no body that could be read. The
answers 204 and 304 have no body.
-/
namespace BoxOffice.Http

/-- A post as the peer receives it. -/
structure Post where
  /-- The path and what follows it. -/
  target : String
  /-- The authorization, if any. -/
  authorization : Option String
  /-- The type of the body. -/
  contentType : String
  /-- The kind of event reported, if any. -/
  eventType : Option String
  /-- The body. -/
  body : String
deriving DecidableEq

/-- What a peer does with a post. -/
inductive Conduct where
  /-- It answers. -/
  | answers (status : Nat) (body : String)
  /-- It breaks off its answer. -/
  | breaksOff (status : Nat)
  /-- It ends the connection without an answer. -/
  | hangsUp
  /-- It takes no connections. -/
  | refuses
  /-- It never answers. -/
  | hangs
deriving DecidableEq

/-- Whether a peer receives posts at all. -/
def Conduct.receives : Conduct → Bool
  | .refuses => false
  | _ => true

/-- Whether a status tells success. -/
def isSuccess (status : Nat) : Bool := 200 ≤ status && status < 300

/-- Whether a status tells failure. -/
def isFailure (status : Nat) : Bool := 400 ≤ status

/-- Whether answers of a status have a body. -/
def hasBody (status : Nat) : Bool := status ≠ 204 && status ≠ 304

/-- The body of an answer. -/
def bodyOf (status : Nat) (body : String) : String := if hasBody status then body else ""

end BoxOffice.Http
