import BoxOffice.Proofs.Engine.Discipline
import BoxOffice.Proofs.Turn

/-!
# The bills that a gateway is asked for

A gateway can be listened to: `RecordingGateway` keeps the requests that another gateway answers,
and whatever an engine does is the same with the one as with the other. The gateway hears nothing
but requests for bills, and of all the transactions only a hold asks for one. So what an engine asks
its gateway for is told by the holds that it carries out.
-/
namespace BoxOffice

namespace Dialogue

variable {Question : Type} {Answer : Question → Type} {α σ τ : Type} {Allowed : Question → Prop}

/-- What no such question changes is as before when a dialogue that asks no other has been carried
out. -/
theorem AsksOnly.run {answer : (question : Question) → σ → Answer question × σ}
    {dialogue : Dialogue Question Answer α} (asks : dialogue.AsksOnly Allowed) (view : σ → τ)
    (keeps : ∀ question partner, Allowed question → view (answer question partner).2 = view partner)
    (partner : σ) : view (dialogue.run answer partner).2 = view partner := by
  induction dialogue generalizing partner with
  | done value => rfl
  | ask question next ih =>
    exact (ih _ (asks.2 _) (answer question partner).2).trans (keeps question partner asks.1)

/-- Partners that answer alike, whatever is changed about them, are alike after a dialogue. -/
theorem run_map {answer : (question : Question) → σ → Answer question × σ}
    {answerToo : (question : Question) → τ → Answer question × τ} {change : σ → τ}
    (alike : ∀ question partner, answerToo question (change partner) =
      ((answer question partner).1, change (answer question partner).2))
    (dialogue : Dialogue Question Answer α) (partner : σ) :
    dialogue.run answerToo (change partner) =
      ((dialogue.run answer partner).1, change (dialogue.run answer partner).2) := by
  induction dialogue generalizing partner with
  | done value => rfl
  | ask question next ih =>
    simp only [run, alike]
    exact ih _ _

end Dialogue

/-- A gateway whose requests are kept. -/
structure RecordingGateway (γ : Type) where
  /-- The gateway that answers. -/
  inner : γ
  /-- The requests so far. -/
  requests : List BillRequest

namespace RecordingGateway

variable {γ : Type} [Gateway γ]

instance : Gateway (RecordingGateway γ) where
  createBill request gateway :=
    let made := Gateway.createBill request gateway.inner
    (made.1, ⟨made.2, gateway.requests ++ [request]⟩)

/-- What such a gateway hears is kept in order. -/
theorem requests_heard (heard : List BillRequest) (gateway : RecordingGateway γ) :
    (Gateway.heard heard gateway).requests = gateway.requests ++ heard := by
  induction heard generalizing gateway with
  | nil => exact (List.append_nil _).symm
  | cons request rest ih =>
    have later := ih (Gateway.createBill request gateway).2
    exact later.trans (List.append_assoc _ [request] rest)

end RecordingGateway

section Recorded

variable {σ γ α : Type}

/-- A desk with a gateway that is listened to, without the listener. -/
def Desk.unrecorded (desk : Desk σ (RecordingGateway γ)) : Desk σ γ :=
  ⟨desk.ledger, desk.gateway.inner, desk.now⟩

namespace Engine

/-- An engine with a gateway that is listened to, without the listener. -/
def unrecorded (engine : Engine σ (RecordingGateway γ)) : Engine σ γ :=
  { engine with desk := engine.desk.unrecorded }

/-- An engine whose gateway is listened to from now on. -/
def recorded (engine : Engine σ γ) : Engine σ (RecordingGateway γ) :=
  { engine with desk := ⟨engine.desk.ledger, ⟨engine.desk.gateway, []⟩, engine.desk.now⟩ }

end Engine

variable [Ledger σ] [Gateway γ]

/-- An inquiry is answered as if nobody listened. -/
theorem Desk.answer_unrecorded (inquiry : Inquiry) (desk : Desk σ (RecordingGateway γ)) :
    answer inquiry desk.unrecorded =
      ((answer inquiry desk).1, (answer inquiry desk).2.unrecorded) := by
  cases inquiry <;> rfl

/-- A transaction is carried out as if nobody listened. -/
theorem Desk.perform_unrecorded (transaction : Transaction) (desk : Desk σ (RecordingGateway γ)) :
    desk.unrecorded.perform transaction =
      ((desk.perform transaction).1, (desk.perform transaction).2.unrecorded) := by
  have worked (desk : Desk σ (RecordingGateway γ)) : desk.unrecorded.attempt transaction.work =
      ((desk.attempt transaction.work).1, (desk.attempt transaction.work).2.unrecorded) :=
    Dialogue.run_map answer_unrecorded _ _
  let opened : Desk σ (RecordingGateway γ) :=
    { desk with ledger := (Ledger.openTransaction desk.ledger).2 }
  have closed (result : Except Abort transaction.Result) (desk : Desk σ (RecordingGateway γ)) :
      close transaction.isRolledBack result desk.unrecorded =
        ((close transaction.isRolledBack result desk).1,
          (close transaction.isRolledBack result desk).2.unrecorded) := by
    cases result <;> rfl
  have begins : (Ledger.openTransaction desk.unrecorded.ledger) =
    Ledger.openTransaction desk.ledger := rfl
  simp only [perform, begins]
  cases (Ledger.openTransaction desk.ledger).1 with
  | error fault => rfl
  | ok _ =>
    have both := closed (opened.attempt transaction.work).1 (opened.attempt transaction.work).2
    have start := worked opened
    have firsts := congrArg Prod.fst start
    have seconds := congrArg Prod.snd start
    exact (congrArg₂ (close transaction.isRolledBack) firsts seconds).trans both

namespace Engine

/-- A question of a service is answered as if nobody listened. -/
theorem answer_unrecorded (request : Request) (engine : Engine σ (RecordingGateway γ)) :
    answer request engine.unrecorded =
      ((answer request engine).1, (answer request engine).2.unrecorded) := by
  cases request with
  | transact transaction =>
    have performed := Desk.perform_unrecorded transaction engine.desk
    exact congrArg (fun performed : Except Abort transaction.Result × Desk σ γ =>
      (performed.1, { engine.unrecorded with desk := performed.2 })) performed
  | putReservation reservation => exact put_mapDesk Desk.unrecorded reservation engine
  | _ => rfl

/-- A service is carried out as if nobody listened. -/
theorem run_unrecorded (program : Program α) (engine : Engine σ (RecordingGateway γ)) :
    engine.unrecorded.run program =
      ((engine.run program).1, (engine.run program).2.unrecorded) :=
  Dialogue.run_map answer_unrecorded program engine

/-- An engine comes to rest as if nobody listened. -/
theorem rest_unrecorded (engine : Engine σ (RecordingGateway γ)) :
    engine.unrecorded.rest = engine.rest.unrecorded := by
  have fired (ids : List TrackingId) (engine : Engine σ (RecordingGateway γ)) :
      ids.foldl (fun engine id => (engine.run (Release.fire id)).2) engine.unrecorded =
        (ids.foldl (fun engine id => (engine.run (Release.fire id)).2) engine).unrecorded := by
    induction ids generalizing engine with
    | nil => rfl
    | cons id rest ih =>
      rw [List.foldl_cons, run_unrecorded]
      exact ih _
  -- the reaper does not see the gateway, so the same timers fire
  let woken := engine.followCommands.reaper.wake engine.clock
  exact congrArg followCommands (fired woken.1 { engine.followCommands with reaper := woken.2 })

/-- Whoever listens to the gateway of an engine hears what it is asked and changes nothing. -/
theorem perform_recorded (program : Program α) (engine : Engine σ γ) :
    engine.perform program =
      ((engine.recorded.perform program).1, (engine.recorded.perform program).2.unrecorded) := by
  have ran := engine.recorded.run_unrecorded program
  have same : engine.recorded.unrecorded = engine := rfl
  rw [same] at ran
  simp only [perform, ran, rest_unrecorded]

/-- The bills that a service asks for, until the engine has come to rest. -/
def billsOf (program : Program α) (engine : Engine σ γ) : List BillRequest :=
  (engine.recorded.perform program).2.desk.gateway.requests

end Engine

end Recorded

/-- Whether an inquiry is not one to the gateway. -/
def Inquiry.IsQuiet : Inquiry → Prop
  | .createBill _ => False
  | .consult _ | .wallClock => True

/-- Whether a transaction is not one in which a bill is made. -/
def Transaction.IsQuiet : Transaction → Prop
  | .hold .. => False
  | .undoHold .. | .sell .. | .release _ | .reclaim _ => True

/-- Whether a question of a service is not one for a transaction in which a bill is made. -/
def Request.IsQuiet : Request → Prop
  | .transact transaction => transaction.IsQuiet
  | _ => True

/-- Whether no bill is asked for in some work. -/
def Attempt.IsQuiet {α : Type} (work : Attempt α) : Prop := work.run.AsksOnly Inquiry.IsQuiet

/-- Whether a service carries out no transaction in which a bill is made. -/
def Program.IsQuiet {α : Type} (program : Program α) : Prop := program.AsksOnly Request.IsQuiet

namespace Attempt

variable {α β : Type}

/-- No bill is asked for in a query. -/
theorem isQuiet_consult (query : Query) : (consult query).IsQuiet := ⟨trivial, fun _ => trivial⟩

/-- No bill is asked for in a demand. -/
theorem isQuiet_demand (condition : Bool) (refusal : Refusal) :
    (demand condition refusal).IsQuiet := by
  cases condition <;> trivial

/-- No bill is asked for in work that goes on if none is in its parts. -/
theorem IsQuiet.bind {work : Attempt α} {next : α → Attempt β} (quiet : work.IsQuiet)
    (quietOn : ∀ value, (next value).IsQuiet) : (work >>= next).IsQuiet := by
  unfold IsQuiet
  rw [ExceptT.run_bind]
  refine Dialogue.AsksOnly.bind quiet fun result => ?_
  cases result with
  | ok value => exact quietOn value
  | error abort => trivial

end Attempt

namespace Transaction

/-- No bill is asked for when visitors are entered. -/
theorem isQuiet_attendWork (event : Uuid) (tickets : List Uuid) (visitors : List VisitorDetails) :
    (attendWork event tickets visitors).IsQuiet := by
  induction tickets generalizing visitors with
  | nil => trivial
  | cons ticket tickets ih =>
    cases visitors with
    | nil => trivial
    | cons visitor visitors =>
      exact (Attempt.isQuiet_consult _).bind fun _ => ih visitors

/-- No bill is asked for when tickets are sold. -/
theorem isQuiet_sellWork (reservation : Reservation) (notification : PaymentNotification) :
    (sellWork reservation notification).IsQuiet := by
  refine (Attempt.isQuiet_consult _).bind fun isRecorded => ?_
  cases isRecorded with
  | true => trivial
  | false =>
    refine (Attempt.isQuiet_consult _).bind fun _ => (Attempt.isQuiet_consult _).bind fun _ => ?_
    refine (Attempt.isQuiet_demand _ _).bind fun _ => ?_
    exact (isQuiet_attendWork _ _ _).bind fun _ => trivial

/-- No bill is asked for when tickets are released. -/
theorem isQuiet_releaseWork (reservation : Reservation) : (releaseWork reservation).IsQuiet :=
  (Attempt.isQuiet_consult _).bind fun _ => (Attempt.isQuiet_consult _).bind fun _ => trivial

/-- No bill is asked for when a hold is undone. -/
theorem isQuiet_undoWork (id : TrackingId) (tickets : List Uuid) (isRedeemed : Bool) :
    (undoWork id tickets isRedeemed).IsQuiet := by
  refine (Attempt.isQuiet_consult _).bind fun _ => ?_
  cases isRedeemed with
  | true => exact Attempt.isQuiet_consult _
  | false => trivial

/-- No bill is asked for when the use of a code is recorded. -/
theorem isQuiet_recordUse (discount : Option DiscountSnapshot) (bill : Bill) :
    (recordUse discount bill).IsQuiet := by
  cases discount with
  | none => trivial
  | some snapshot => exact Attempt.isQuiet_consult _

/-- No bill is asked for in a transaction but a hold. -/
theorem IsQuiet.work {transaction : Transaction} (quiet : transaction.IsQuiet) :
    transaction.work.IsQuiet := by
  cases transaction with
  | hold settings event request => exact quiet.elim
  | undoHold id tickets isRedeemed => exact isQuiet_undoWork id tickets isRedeemed
  | sell reservation notification => exact isQuiet_sellWork reservation notification
  | release reservation => exact isQuiet_releaseWork reservation
  | reclaim reservation => exact isQuiet_releaseWork reservation

end Transaction

section Quiet

variable {σ γ α : Type} [Ledger σ] [Gateway γ]

/-- The gateway hears nothing of work in which no bill is asked for. -/
theorem Attempt.IsQuiet.gateway {work : Attempt α} (quiet : work.IsQuiet) (desk : Desk σ γ) :
    (desk.attempt work).2.gateway = desk.gateway := by
  refine Dialogue.AsksOnly.run quiet Desk.gateway (fun inquiry desk allowed => ?_) desk
  cases inquiry with
  | consult query => rfl
  | createBill request => exact allowed.elim
  | wallClock => rfl

/-- The gateway hears nothing of a transaction but a hold. -/
theorem Desk.perform_gateway {transaction : Transaction} (quiet : transaction.IsQuiet)
    (desk : Desk σ γ) : (desk.perform transaction).2.gateway = desk.gateway := by
  simp only [perform]
  cases (Ledger.openTransaction desk.ledger).1 with
  | error fault => rfl
  | ok _ => rw [close_gateway, quiet.work.gateway]

/-- The gateway hears nothing of a service that holds no tickets. -/
theorem Program.IsQuiet.gateway {program : Program α} (quiet : program.IsQuiet)
    (engine : Engine σ γ) : (engine.run program).2.desk.gateway = engine.desk.gateway := by
  refine Dialogue.AsksOnly.run quiet (fun engine : Engine σ γ => engine.desk.gateway)
    (fun request engine allowed => ?_) engine
  cases request with
  | transact transaction => exact Desk.perform_gateway allowed engine.desk
  | putReservation reservation =>
    simp only [Engine.answer, Engine.put]
    split <;> rfl
  | _ => rfl

/-- A timer that fires holds no tickets. -/
theorem Release.isQuiet_fire (id : TrackingId) : (fire id).IsQuiet := by
  have reaps : (reap id).IsQuiet := by
    refine ⟨trivial, fun isPaid => ?_⟩
    rcases isPaid with fault | _ | _
    · trivial
    · refine ⟨trivial, fun taken => ?_⟩
      cases taken with
      | none => trivial
      | some reservation =>
        refine ⟨trivial, fun released => ?_⟩
        rcases released with (refusal | overflow) | tickets
        · exact ⟨trivial, fun _ => trivial⟩
        · trivial
        · trivial
    · trivial
  refine Dialogue.AsksOnly.bind reaps fun outcome => ?_
  rcases outcome with (refusal | overflow) | outcome
  · exact ⟨trivial, fun _ => ⟨trivial, fun _ => trivial⟩⟩
  · trivial
  · exact ⟨trivial, fun _ => trivial⟩

/-- A purchase that passes the check begins with its hold. -/
theorem Checkout.buy_of_checked {settings : CheckoutSettings} {event : Uuid}
    {request : PurchaseRequest} (checked : check request = .ok ()) :
    buy settings event request =
      .ask (.transact (.hold settings event request)) (afterHold event request) := by
  simp only [buy, checked]

/-- A purchase holds no tickets once its hold has ended. -/
theorem Checkout.isQuiet_afterHold (event : Uuid) (request : PurchaseRequest)
    (held : Except Abort Hold) : (afterHold event request held).IsQuiet := by
  cases held with
  | error abort => trivial
  | ok hold =>
    refine ⟨trivial, fun now => ⟨trivial, fun isOpened => ?_⟩⟩
    cases isOpened with
    | true => exact ⟨trivial, fun _ => trivial⟩
    | false => exact ⟨trivial, fun _ => trivial⟩

namespace Engine

variable {engine : Engine σ γ}

/-- The gateway hears nothing when an engine comes to rest. -/
theorem rest_gateway (engine : Engine σ γ) : engine.rest.desk.gateway = engine.desk.gateway := by
  let Kept (later : Engine σ γ) : Prop := later.desk.gateway = engine.desk.gateway
  have kept : Kept engine := rfl
  have rested : Kept engine.rest := rest_induction
    (fun _ id same => ((Release.isQuiet_fire id).gateway _).trans same)
    (fun _ _ _ same => same) kept
  exact rested

variable {settings : CheckoutSettings} {event : Uuid} {request : PurchaseRequest}

/-- Of a purchase that passes the check the gateway hears what it hears of the hold. -/
theorem buy_gateway (engine : Engine σ γ) (checked : Checkout.check request = .ok ()) :
    (engine.buy settings event request).2.desk.gateway =
      (engine.desk.perform (.hold settings event request)).2.gateway := by
  show (engine.perform (Checkout.buy settings event request)).2.desk.gateway = _
  rw [Checkout.buy_of_checked checked, perform, rest_gateway, run_ask,
    (Checkout.isQuiet_afterHold event request _).gateway]
  rfl

/-- A purchase that does not pass the check is refused, and the gateway hears nothing of it. -/
theorem buy_of_failed (engine : Engine σ γ) {refusal : Refusal}
    (failed : Checkout.check request = .error refusal) :
    (engine.buy settings event request).1 = .error (.refused refusal) ∧
      (engine.buy settings event request).2.desk.gateway = engine.desk.gateway := by
  have ends : Checkout.buy settings event request = .done (.error (.refused refusal)) := by
    simp only [Checkout.buy, failed]
  show (engine.perform (Checkout.buy settings event request)).1 = _ ∧
    (engine.perform (Checkout.buy settings event request)).2.desk.gateway = _
  rw [ends, perform, rest_gateway]
  exact ⟨rfl, rfl⟩

end Engine

end Quiet

end BoxOffice
