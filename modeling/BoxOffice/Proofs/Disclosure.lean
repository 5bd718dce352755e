import BoxOffice.Ledger.Barred
import BoxOffice.Ledger.Database
import BoxOffice.Proofs.Callback
import BoxOffice.Proofs.Concourse.Order
import BoxOffice.Proofs.Engine.Rest
import BoxOffice.Proofs.Ledger.Discretion

/-!
# What a buyer learns of a fault

A purchase stops at the first fault of the ledger, in the hold as in the transaction that undoes
it, and whatever the fault tells, its answer over HTTP is `internalError`. So two ledgers that sound
the same to someone with no ear for the words of faults (`Engine.callsOf`) get a buyer the same
answer: nobody can tell from it which words a ledger found, nor in which call it failed.
-/
namespace BoxOffice

/-- How a service ends when a question is answered so, if that ends it: with what a transaction
came to or with the fault of a ledger. -/
def Request.abort? : (request : Request) → request.Answer → Option Abort
  | .transact _ => fun result =>
    match result with
    | .ok _ => none
    | .error abort => some abort
  | .paymentExists _ => fun reply =>
    match reply with
    | .ok _ => none
    | .error fault => some (.refused (.persistence fault))
  | .ping | .putReservation _ | .takeReservation _ | .countReservations | .schedule _
  | .resolve _ | .deliver _ | .publish _ | .wallClock => fun _ => none

/-- A transaction ends a service only with what it came to itself. -/
theorem Request.eq_error_of_abort? {transaction : Transaction}
    {result : Except Abort transaction.Result} {abort : Abort}
    (told : Request.abort? (.transact transaction) result = some abort) :
    result = .error abort := by
  cases result with
  | ok value => contradiction
  | error failure => exact congrArg _ (Option.some.inj told)

/-- Whether a service ends with the first fault of the ledger. -/
def Program.StopsAtFaults {α : Type} (program : Program (Except Abort α)) : Prop :=
  program.StopsAt Request.abort?

namespace Checkout

/-- A purchase ends with the fault that the undoing of its hold came to. -/
theorem afterUndo_error (id : TrackingId) (abort : Abort) :
    afterUndo id (.error abort) = .done (.error abort) :=
  rfl

/-- A purchase ends with the first fault. -/
theorem stopsAtFaults_buy (settings : CheckoutSettings) (event : Uuid)
    (request : PurchaseRequest) : (buy settings event request).StopsAtFaults := by
  unfold buy
  cases check request with
  | error refusal => trivial
  | ok _ =>
    refine ⟨fun held abort told => ?_, fun held => ?_⟩
    · obtain rfl := Request.eq_error_of_abort? told
      rfl
    · cases held with
      | error failure => trivial
      | ok hold =>
        refine ⟨fun _ _ told => by contradiction, fun now =>
          ⟨fun _ _ told => by contradiction, fun isOpened => ?_⟩⟩
        cases isOpened with
        | true => exact ⟨fun _ _ told => by contradiction, fun _ => trivial⟩
        | false =>
          refine ⟨fun undone abort told => ?_, fun _ => trivial⟩
          obtain rfl := Request.eq_error_of_abort? told
          exact afterUndo_error _ _

end Checkout

section Calls

variable {σ τ γ α : Type}

/-- An engine with another ledger. -/
def Engine.overLedger (engine : Engine σ γ) (ledger : τ) : Engine τ γ :=
  engine.mapDesk fun desk => desk.overLedger ledger

/-- Whether two engines differ in their ledgers only. -/
def Engine.IsTwin (engine : Engine σ γ) (other : Engine τ γ) : Prop :=
  ∃ ledger, other = engine.overLedger ledger

variable [Ledger σ] [Ledger τ] [Gateway γ]

/-- The calls to the ledger by which a question of a service is answered. -/
def Request.calls : (request : Request) → Engine σ γ → List LedgerCall
  | .transact transaction, engine => transaction.calls engine.desk
  | .paymentExists id, engine =>
    [.paymentExists id (bareReply (Ledger.paymentExists id engine.desk.ledger).1)]
  | .ping, engine => [.ping (Ledger.ping engine.desk.ledger).1]
  | .putReservation _, _ | .takeReservation _, _ | .countReservations, _ | .schedule _, _
  | .resolve _, _ | .deliver _, _ | .publish _, _ | .wallClock, _ => []

namespace Engine

/-- An engine to whose ledger someone listens who has heard some calls. -/
def recording (calls : List LedgerCall) (engine : Engine σ γ) : Engine (RecordingLedger σ) γ :=
  engine.mapDesk (Desk.recording calls)

/-- The calls to the ledger of an engine that are heard when a service is carried out. -/
def callsOf (program : Program α) (engine : Engine σ γ) : List LedgerCall :=
  ((engine.recording []).run program).2.desk.ledger.calls

/-- Who listens hears the calls by which a question is answered, and changes nothing. -/
theorem answer_recording (request : Request) (earlier : List LedgerCall) (engine : Engine σ γ) :
    answer request (engine.recording earlier) =
      ((answer request engine).1,
        (answer request engine).2.recording (earlier ++ request.calls engine)) := by
  cases request with
  | transact transaction =>
    have desks : (engine.recording earlier).desk = engine.desk.recording earlier := rfl
    simp only [answer, desks, Desk.perform_recording]
    rfl
  | paymentExists id => rfl
  | ping => rfl
  | putReservation reservation =>
    simp only [Request.calls, List.append_nil]
    exact put_mapDesk (Desk.recording earlier) reservation engine
  | _ =>
    simp only [Request.calls, List.append_nil]
    rfl

/-- What is heard are the calls by which the questions of a service are answered. -/
theorem callsOf_eq_noted (program : Program α) (engine : Engine σ γ) :
    engine.callsOf program = program.noted answer Request.calls engine := by
  have noted := Dialogue.run_noting answer_recording program [] engine
  have heard := congrArg (fun ran : α × Engine (RecordingLedger σ) γ => ran.2.desk.ledger.calls)
    noted
  exact heard

end Engine

/-- A transaction that has come to a fault ends a service with it. -/
theorem Request.tellsOfFault_transact {transaction : Transaction}
    {result : Except Abort transaction.Result} (failed : HasFailed result) :
    Dialogue.TellsOfFault Request.abort? (.transact transaction) result := by
  obtain ⟨abort, rfl, isFault⟩ := failed
  exact ⟨abort, rfl, isFault⟩

/-- A look-up of a payment that has failed ends a service with a fault. -/
theorem Request.tellsOfFault_paymentExists {id : TrackingId} {reply : Except Fault Bool}
    (failed : bareReply reply = .error .failure) :
    Dialogue.TellsOfFault Request.abort? (.paymentExists id) reply := by
  obtain ⟨fault, rfl, -⟩ := bareReply_eq_failure failed
  exact ⟨.refused (.persistence fault), rfl, fault, rfl⟩

namespace Engine

/-- A question to two engines is answered alike if the calls to their ledgers are the same. -/
theorem answer_alike (request : Request) {engine : Engine σ γ} {other : Engine τ γ}
    {rest restToo : List LedgerCall} (twins : engine.IsTwin other)
    (same : request.calls engine ++ rest = request.calls other ++ restToo) :
    ((answer request engine).1 = (answer request other).1 ∨
      Dialogue.TellsOfFault Request.abort? request (answer request engine).1 ∧
      Dialogue.TellsOfFault Request.abort? request (answer request other).1) ∧
    (answer request engine).2.IsTwin (answer request other).2 ∧ rest = restToo := by
  obtain ⟨ledger, rfl⟩ := twins
  cases request with
  | transact transaction =>
    have desks : (engine.overLedger ledger).desk = engine.desk.overLedger ledger := rfl
    simp only [Request.calls, answer, desks] at same ⊢
    obtain ⟨alike, ⟨later, place⟩, others⟩ :=
      Desk.perform_alike transaction ⟨ledger, rfl⟩ same
    refine ⟨?_, ⟨later, ?_⟩, others⟩
    · rcases alike with equal | ⟨failed, failedToo⟩
      · exact .inl equal
      · exact .inr ⟨Request.tellsOfFault_transact failed, Request.tellsOfFault_transact failedToo⟩
    · rw [place]
      rfl
  | paymentExists id =>
    obtain ⟨first, others⟩ := List.cons.inj same
    refine ⟨?_, ⟨_, rfl⟩, others⟩
    have replies := (LedgerCall.paymentExists.inj first).2
    rcases eq_or_failures_of_bareReply replies with equal | ⟨failed, failedToo⟩
    · exact .inl equal
    · exact .inr ⟨Request.tellsOfFault_paymentExists failed,
        Request.tellsOfFault_paymentExists failedToo⟩
  | ping =>
    obtain ⟨first, others⟩ := List.cons.inj same
    exact ⟨.inl (LedgerCall.ping.inj first), ⟨_, rfl⟩, others⟩
  | putReservation reservation =>
    have put := put_mapDesk (fun desk : Desk σ γ => desk.overLedger ledger) reservation engine
    have opened := congrArg Prod.fst put
    have place := congrArg Prod.snd put
    exact ⟨.inl opened.symm, ⟨ledger, place⟩, same⟩
  | _ => exact ⟨.inl rfl, ⟨ledger, rfl⟩, same⟩

/-- What tells of a failed call to the ledger is an answer that tells of a fault. -/
theorem answer_failed (request : Request) (engine : Engine σ γ) (call : LedgerCall)
    (member : call ∈ request.calls engine) (failed : call.IsFailure) :
    Dialogue.TellsOfFault Request.abort? request (answer request engine).1 := by
  cases request with
  | transact transaction =>
    exact Request.tellsOfFault_transact (Desk.perform_failed transaction member failed)
  | paymentExists id =>
    obtain rfl := List.mem_singleton.mp member
    exact Request.tellsOfFault_paymentExists failed
  | ping =>
    obtain rfl := List.mem_singleton.mp member
    exact failed.elim
  | _ => cases member

/-- A service that ends with the first fault comes to the same over two ledgers if the calls to them
are the same but for the words of faults, and the two engines still differ in their ledgers only. -/
theorem run_alike {program : Program (Except Abort α)} (stops : program.StopsAtFaults)
    {engine : Engine σ γ} {other : Engine τ γ} (twins : engine.IsTwin other)
    (same : engine.callsOf program = other.callsOf program) :
    EndsAlike (engine.run program).1 (other.run program).1 ∧
      (engine.run program).2.IsTwin (other.run program).2 := by
  rw [callsOf_eq_noted, callsOf_eq_noted] at same
  obtain ⟨alike, twins, -⟩ := Dialogue.StopsAt.run_alike
    (fun request _ _ _ _ => answer_alike request) stops twins (congrArg (· ++ []) same)
  exact ⟨alike, twins⟩

/-- A service that ends with the first fault has come to one if a call to the ledger has failed. -/
theorem run_failed {program : Program (Except Abort α)} (stops : program.StopsAtFaults)
    {engine : Engine σ γ} {call : LedgerCall} (member : call ∈ engine.callsOf program)
    (failed : call.IsFailure) : HasFailed (engine.run program).1 := by
  rw [callsOf_eq_noted] at member
  exact Dialogue.StopsAt.run_failed answer_failed stops member failed

/-- What a service comes to may be put in other words without a call to the ledger. -/
theorem callsOf_bind_pure {β : Type} (program : Program α) (respond : α → β)
    (engine : Engine σ γ) :
    engine.callsOf (program >>= fun value => pure (respond value)) = engine.callsOf program := by
  simp only [callsOf, run, Dialogue.run_bind, Dialogue.run_pure]

end Engine

end Calls

namespace Http

/-- The response to a fault of the ledger, whichever it is. -/
def internalError : HttpResponse :=
  .json 500 (.ofFields [("error", .ofFields [("code", .ofText "PERSISTENCE_FAILURE"),
    ("message", .ofText "internal error"), ("details", .null)])])

/-- A fault of the ledger is responded to without a word about it. -/
theorem purchaseResponse_of_failed {bought : Except Abort Receipt} (failed : HasFailed bought) :
    purchaseResponse bought = .ok internalError := by
  obtain ⟨abort, rfl, fault, rfl⟩ := failed
  rfl

/-- Purchases that end alike are responded to in the same way. -/
theorem purchaseResponse_congr {bought boughtToo : Except Abort Receipt}
    (alike : EndsAlike bought boughtToo) :
    purchaseResponse bought = purchaseResponse boughtToo := by
  rcases alike with rfl | ⟨failed, failedToo⟩
  · rfl
  · rw [purchaseResponse_of_failed failed, purchaseResponse_of_failed failedToo]

/-- A request at a place where tickets are sold is turned away, or a purchase answers it. -/
theorem answer_of_buy (setup : Setup) {request : HttpRequest} {segment : String}
    (place : Route.ofPath? request.path = some (.buy segment)) :
    (∃ response, answer setup request = pure (.ok response)) ∨
      ∃ event purchase, answer setup request =
        (do let bought ← Checkout.buy setup.checkout event purchase
            return purchaseResponse bought) := by
  by_cases posted : request.method = "POST"
  · rw [answer_of_posted setup place rfl posted, answerAt, takePurchase]
    split
    · exact .inl ⟨_, rfl⟩
    · split
      · exact .inl ⟨_, rfl⟩
      · split
        · exact .inl ⟨_, rfl⟩
        · exact .inr ⟨_, _, rfl⟩
  · have refused : (Route.buy segment).takes request.method = false := decide_eq_false posted
    simp only [answer, place, refused, Bool.not_false, ↓reduceIte]
    exact .inl ⟨_, rfl⟩

variable {σ τ γ : Type} [Ledger σ] [Ledger τ] [Gateway γ]

/-- Faults of the ledger never reach a buyer. Whatever the engine, the gateway and the request, a
request for tickets is answered in the same way over any two ledgers if the calls to them are the
same but for the words of faults, wherever in the hold or in its undoing they fail, and nothing but
the ledger can be told apart afterwards. And if any call has failed the answer has status 500 and a
body that is always the same. -/
theorem faults_undisclosed (setup : Setup) {request : HttpRequest} {segment : String}
    (place : Route.ofPath? request.path = some (.buy segment)) (engine : Engine σ γ)
    (ledger : τ) :
    (engine.callsOf (answer setup request) =
        (engine.overLedger ledger).callsOf (answer setup request) →
      (engine.run (answer setup request)).1 =
        ((engine.overLedger ledger).run (answer setup request)).1 ∧
      (engine.run (answer setup request)).2.IsTwin
        ((engine.overLedger ledger).run (answer setup request)).2) ∧
      (∀ call ∈ engine.callsOf (answer setup request), call.IsFailure →
        (engine.run (answer setup request)).1 = .ok internalError) ∧
      internalError.status = 500 ∧
      ∃ value, internalError.body = .json value ∧ value.write =
        "\x7b\"error\":\x7b\"code\":\"PERSISTENCE_FAILURE\"," ++
          "\"message\":\"internal error\",\"details\":null\x7d\x7d" := by
  have body : ∃ value, internalError.body = .json value ∧ value.write =
      "\x7b\"error\":\x7b\"code\":\"PERSISTENCE_FAILURE\"," ++
        "\"message\":\"internal error\",\"details\":null\x7d\x7d" := ⟨_, rfl, by decide⟩
  rcases answer_of_buy setup place with ⟨response, ends⟩ | ⟨event, purchase, sells⟩
  · rw [ends]
    refine ⟨fun _ => ⟨rfl, ledger, rfl⟩, fun call member failed => ?_, rfl, body⟩
    cases member
  · have stops := Checkout.stopsAtFaults_buy setup.checkout event purchase
    rw [sells]
    simp only [Engine.callsOf_bind_pure, Engine.run, Dialogue.run_bind, Dialogue.run_pure]
    refine ⟨fun same => ?_, fun call member failed => ?_, rfl, body⟩
    · obtain ⟨alike, twins⟩ := Engine.run_alike stops ⟨ledger, rfl⟩ same
      exact ⟨purchaseResponse_congr alike, twins⟩
    · have failed := Engine.run_failed stops member failed
      exact purchaseResponse_of_failed failed

end Http

namespace Matinee

/-- An office where a reservation is open under the number of the next bill, and whose ledger in
memory lets one change of tickets pass. -/
def crowdedOffice : Engine (BarredLedger MemoryLedger) ScriptedGateway :=
  let ledger := BarredLedger.ofLedger (.ofBooks ⟨[ticket], [], [], [], []⟩ [])
  let occupant : Reservation := ⟨⟨7⟩, event, [], [], [], none, 0, .ofMilliseconds 0⟩
  { Engine.start (ledger.bar .changeStatus 1) ⟨[.ok (bill 7)]⟩ (.ofMilliseconds 0) 10 with
    store := Register.empty.insert ⟨7⟩ occupant }

/-- A session with a database that has the ticket and fails at the second change of tickets. -/
def deadlockedSession : Sql.Session :=
  let row : Sql.Row := [("id", .uuid ticket.id), ("event_id", .uuid event), ("name", .text "A"),
    ("price", .integer 100), ("status", .text "available"), ("hash", .text "A1")]
  .start .established ⟨none, none, none⟩
    [.ok ⟨[row], 1⟩, .ok ⟨[], 1⟩, .error "deadlock detected"]

/-- The calls by which the ticket is held and not given back. -/
def crowdedCalls : List LedgerCall :=
  [.opening (.ok ()), .query (.availableTickets event "A" 1) (.ok [ticket]),
    .query (.changeStatus [ticket.id] .available .pending) (.ok (1 : Nat)), .commit (.ok ()),
    .opening (.ok ()), .query (.changeStatus [ticket.id] .pending .available) (.error .failure),
    .rollBack (.ok ())]

/-- A request for the ticket. -/
def order : Http.HttpRequest where
  method := "POST"
  target := "/v1/events/00000000-0000-0000-0000-000000000009/tickets/buy"
  contentType := some "application/json"
  body := "\x7b\"ticket_name\":\"A\",\"ticket_amount\":1,\"attendees\":[\x7b\x7d]\x7d"

/-- Tickets are sold where it is posted. -/
theorem order_place : Http.Route.ofPath? order.path =
    some (.buy "00000000-0000-0000-0000-000000000009") := by
  decide

/-- It is answered by a purchase. -/
theorem answer_order : Http.answer ⟨⟨0, 30, ""⟩, none⟩ order =
    (do let bought ← Checkout.buy ⟨0, 30, ""⟩ event ⟨"A", 1, none, [.empty]⟩
        return Http.purchaseResponse bought) := by
  have named : Http.eventOf? "00000000-0000-0000-0000-000000000009" = some event := by
    decide +kernel
  have typed : Http.isJsonType order.bodyType? = true := by decide
  have told : PurchaseRequest.shape.decode (Json.read order.body).value =
      .ok ⟨"A", 1, none, [.empty]⟩ := rfl
  rw [Http.answer_of_posted _ order_place rfl rfl]
  simp only [Http.answerAt, Http.takePurchase, named, typed, told, Bool.not_true,
    Bool.false_eq_true, ↓reduceIte]
  rfl

/-- Either ledger is called in the same way. -/
theorem callsOf_order :
    crowdedOffice.callsOf (Http.answer ⟨⟨0, 30, ""⟩, none⟩ order) = crowdedCalls ∧
      (crowdedOffice.overLedger deadlockedSession).callsOf
        (Http.answer ⟨⟨0, 30, ""⟩, none⟩ order) = crowdedCalls := by
  rw [answer_order]
  exact ⟨rfl, rfl⟩

end Matinee

/-- The ledger in memory and the session fail with other words when the ticket is to be given back,
since the number of its bill is open, and the buyer learns of neither. -/
theorem Http.faults_undisclosed_matinee :
    let office := Matinee.crowdedOffice
    let other := office.overLedger Matinee.deadlockedSession
    let program := answer ⟨⟨0, 30, ""⟩, none⟩ Matinee.order
    office.callsOf program = Matinee.crowdedCalls ∧ other.callsOf program = Matinee.crowdedCalls ∧
      (office.run program).1 = .ok internalError ∧ (other.run program).1 = .ok internalError := by
  obtain ⟨calls, callsToo⟩ := Matinee.callsOf_order
  obtain ⟨undisclosed, failed, -⟩ := faults_undisclosed ⟨⟨0, 30, ""⟩, none⟩ Matinee.order_place
    Matinee.crowdedOffice Matinee.deadlockedSession
  have same := undisclosed (calls.trans callsToo.symm)
  let refused : LedgerCall :=
    .query (.changeStatus [Matinee.ticket.id] .pending .available) (.error .failure)
  have member : refused ∈ Matinee.crowdedCalls := List.mem_of_getElem? (i := 5) rfl
  rw [← calls] at member
  have answered := failed refused member rfl
  exact ⟨calls, callsToo, answered, same.1.symm.trans answered⟩

end BoxOffice
