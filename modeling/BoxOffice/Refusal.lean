import BoxOffice.Bill
import BoxOffice.Ledger.Fault
import BoxOffice.Payment
import BoxOffice.Text.Quoted

/-!
# Refusals

Why a service refuses. Each refusal has a code and an HTTP status, which say what kind it is, and
a message. The envelope is what a buyer gets to see: of a fault in the ledger only that there was
one.
-/
namespace BoxOffice

/-- What is wrong with a request. -/
inductive ArgumentFault where
  /-- The number of tickets is not positive. -/
  | amount (given : Int64)
  /-- The ticket type has no name. -/
  | ticketName
  /-- There are not as many visitors as tickets. -/
  | visitorCount (expected : Int64) (given : Nat)
  /-- A cause in given words. -/
  | stated (text : String)
deriving DecidableEq

/-- The report of what is wrong. -/
def ArgumentFault.message : ArgumentFault → String
  | .amount given => "ticket amount must be > 0, got " ++ toString given.toInt
  | .ticketName => "ticket_name is required"
  | .visitorCount expected given =>
    "expected " ++ toString expected.toInt ++ " attendees, got " ++ toString given
  | .stated text => text

/-- Why a service refuses. -/
inductive Refusal where
  /-- The request makes no sense. -/
  | invalidArgument (fault : ArgumentFault)
  /-- There are not enough tickets. -/
  | insufficientInventory (requested available : Int)
  /-- There is no such referral code. -/
  | referralNotFound (code : String)
  /-- The referral code is not valid now. -/
  | referralExpired (code : String)
  /-- The referral code has been used as often as it may. -/
  | referralExhausted (code : String)
  /-- There is no bill. -/
  | gatewayUnavailable (fault : GatewayFault)
  /-- The ledger failed. -/
  | persistence (fault : Fault)
  /-- The gateway told an unknown status. -/
  | unknownStatus (status : String)
deriving DecidableEq

namespace Refusal

/-- The code of the kind of refusal. -/
def code : Refusal → String
  | .invalidArgument _ => "INVALID_ARGUMENT"
  | .insufficientInventory .. => "INSUFFICIENT_INVENTORY"
  | .referralNotFound _ => "REFERRAL_NOT_FOUND"
  | .referralExpired _ => "REFERRAL_EXPIRED"
  | .referralExhausted _ => "REFERRAL_EXHAUSTED"
  | .gatewayUnavailable _ => "GATEWAY_UNAVAILABLE"
  | .persistence _ => "PERSISTENCE_FAILURE"
  | .unknownStatus _ => "UNKNOWN_WEBHOOK_STATUS"

/-- The HTTP status of the kind of refusal. -/
def status : Refusal → Nat
  | .invalidArgument _ | .referralExpired _ | .referralExhausted _ | .unknownStatus _ => 400
  | .referralNotFound _ => 404
  | .insufficientInventory .. => 409
  | .gatewayUnavailable _ => 502
  | .persistence _ => 500

/-- The message of a refusal. -/
def message : Refusal → String
  | .invalidArgument fault => "invalid argument: " ++ fault.message
  | .insufficientInventory requested available =>
    "insufficient inventory: requested " ++ toString requested ++ ", available " ++
      toString available
  | .referralNotFound code => "referral code " ++ code ++ " not found"
  | .referralExpired code => "referral code " ++ code ++ " has expired"
  | .referralExhausted code => "referral code " ++ code ++ " has reached maximum uses"
  | .gatewayUnavailable fault => "billing gateway unavailable: " ++ fault.message
  | .persistence fault => "persistence failure: " ++ fault.message
  | .unknownStatus status => "unknown webhook status " ++ Text.quote status

/-- The message that a buyer gets to see. -/
def publicMessage : Refusal → String
  | .persistence _ => "internal error"
  | other => other.message

/-- A refusal as a buyer gets to see it. -/
def envelope (refusal : Refusal) : Json :=
  .ofFields [("error", .ofFields [("code", .ofText refusal.code),
    ("message", .ofText refusal.publicMessage), ("details", .null)])]

end Refusal

/-- Reads the status of a payment in its exact spelling. -/
def PaymentStatus.read (text : String) : Except Refusal PaymentStatus :=
  match PaymentStatus.ofName? text with
  | some status => .ok status
  | none => .error (.unknownStatus text)

/-- How a computation ends without a result. -/
inductive Abort where
  /-- A service refuses. -/
  | refused (refusal : Refusal)
  /-- A number or a date left its range. -/
  | overflowed (overflow : Overflow)
deriving DecidableEq

/-- A fault of the ledger is a refusal, unless a number on record would leave its range. -/
def Abort.ofFault : Fault → Abort
  | .overflowed overflow => .overflowed overflow
  | fault => .refused (.persistence fault)

end BoxOffice
