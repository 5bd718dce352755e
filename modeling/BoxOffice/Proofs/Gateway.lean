import BoxOffice.Gateway.Basic
import Mathlib.Data.List.Nodup

/-!
# The numbers of bills

What a gateway answers may depend on all it has heard. A gateway never repeats a number if, whatever
it is asked, the bills it makes have different numbers. Any answers at all are given by a gateway
that has them ready.
-/
namespace BoxOffice

namespace Gateway

variable {γ : Type} [Gateway γ]

/-- A gateway after some requests. -/
def heard (requests : List BillRequest) (gateway : γ) : γ :=
  requests.foldl (fun gateway request => (createBill request gateway).2) gateway

/-- The identifiers of the bills that a gateway makes on some requests. -/
def issued : List BillRequest → γ → List TrackingId
  | [], _ => []
  | request :: rest, gateway =>
    match createBill request gateway with
    | (.ok bill, later) => bill.trackingId :: issued rest later
    | (.error _, later) => issued rest later

/-- Whether a gateway puts different numbers on all the bills it will ever make. -/
def NeverRepeats (gateway : γ) : Prop := ∀ requests, (issued requests gateway).Nodup

/-- Requests that come later get bills of their own. -/
theorem issued_append (first second : List BillRequest) (gateway : γ) :
    issued (first ++ second) gateway =
      issued first gateway ++ issued second (heard first gateway) := by
  induction first generalizing gateway with
  | nil => rfl
  | cons request rest ih =>
    simp only [List.cons_append, issued, heard, List.foldl_cons]
    cases createBill request gateway with
    | mk result later =>
      cases result with
      | ok bill => exact congrArg _ (ih later)
      | error fault => exact ih later

/-- A bill is the first of those that a gateway makes from then on. -/
theorem issued_of_createBill {request : BillRequest} {gateway later : γ} {bill : Bill}
    (made : createBill request gateway = (.ok bill, later)) (requests : List BillRequest) :
    issued (request :: requests) gateway = bill.trackingId :: issued requests later := by
  simp only [issued, made]

end Gateway

/-- A gateway that has its answers ready, and has nothing to say when they are used up. -/
structure ScriptedGateway where
  /-- The answers still to be given. -/
  replies : List (Except GatewayFault Bill)

namespace ScriptedGateway

instance : Gateway ScriptedGateway where
  createBill _ gateway :=
    match gateway.replies with
    | [] => (.error .unreachable, gateway)
    | reply :: rest => (reply, ⟨rest⟩)

/-- The identifier on a reply, if it is a bill. -/
def idOf? : Except GatewayFault Bill → Option TrackingId
  | .ok bill => some bill.trackingId
  | .error _ => none

/-- The bills that a gateway makes are the first it has ready. -/
theorem issued_sublist (requests : List BillRequest) (gateway : ScriptedGateway) :
    (Gateway.issued requests gateway).Sublist (gateway.replies.filterMap idOf?) := by
  induction requests generalizing gateway with
  | nil => exact List.nil_sublist _
  | cons request rest ih =>
    cases ready : gateway.replies with
    | nil =>
      have silent := ih gateway
      rw [ready] at silent
      simpa only [Gateway.issued, Gateway.createBill, ready] using silent
    | cons reply replies =>
      have others := ih ⟨replies⟩
      simp only [Gateway.issued, Gateway.createBill, ready]
      cases reply with
      | ok bill => exact others.cons_cons bill.trackingId
      | error fault => exact others

/-- A gateway whose answers have different numbers never repeats one. -/
theorem neverRepeats {gateway : ScriptedGateway}
    (distinct : (gateway.replies.filterMap idOf?).Nodup) : Gateway.NeverRepeats gateway :=
  fun requests => distinct.sublist (issued_sublist requests gateway)

end ScriptedGateway

end BoxOffice
