import BoxOffice.Proofs.Sql.Query
import BoxOffice.Transaction

/-!
# Transactions that keep to the discipline

A ledger that is kept in a database sends all it has to say over a session. The peer behind it may
change from one call to the next: it may refuse a connection or a command at one time and accept it
at another. Whatever it replies, each of the five transactions keeps to the discipline, and when it
has come to its end, in whichever way, no transaction is open.
-/
namespace BoxOffice

open Sql

namespace Sql

/-- Whether a call to a ledger is one to its session, whose peer may have changed before. -/
def Conducts {σ α : Type} (session : σ → Session) (call : σ → α × σ)
    (proper : Session → α × Session) : Prop :=
  ∀ ledger, ∃ begun, begun.Continues (session ledger) ∧ (call ledger).1 = (proper begun).1 ∧
    session (call ledger).2 = (proper begun).2

/-- Ledgers that send all they have to say over a session. -/
class Conducted (σ : Type) [Ledger σ] where
  /-- The session. -/
  session : σ → Session
  /-- Transactions are begun over it. -/
  opens : Conducts session Ledger.openTransaction Session.openTransaction
  /-- Queries are sent over it. -/
  answers (query : Query) :
    Conducts session (Ledger.answer query) (Database.answer query).run.run
  /-- Transactions are committed over it. -/
  commits : Conducts session Ledger.commit Session.commit
  /-- Transactions are undone over it. -/
  rollsBack : Conducts session Ledger.rollBack Session.rollBack
  /-- Transactions that are left are undone over it. -/
  abandons (ledger : σ) : ∃ begun : Session, begun.Continues (session ledger) ∧
    session (Ledger.abandon ledger) = begun.undo
  /-- Payments are looked for over it. -/
  looks (id : TrackingId) :
    Conducts session (Ledger.paymentExists id) (Database.paymentExists id)
  /-- It is used to find out whether the database answers. -/
  pings : Conducts session Ledger.ping (Ledger.ping (σ := Session))

/-- A session speaks for itself. -/
instance : Conducted Session where
  session session := session
  opens session := ⟨session, .refl session, rfl, rfl⟩
  answers _ session := ⟨session, .refl session, rfl, rfl⟩
  commits session := ⟨session, .refl session, rfl, rfl⟩
  rollsBack session := ⟨session, .refl session, rfl, rfl⟩
  abandons session := ⟨session, .refl session, rfl⟩
  looks _ session := ⟨session, .refl session, rfl, rfl⟩
  pings session := ⟨session, .refl session, rfl, rfl⟩

/-- How a peer behaves. -/
structure Conduct where
  /-- Whether there is a connection. -/
  connection : Connection
  /-- The commands that it refuses. -/
  commandFaults : CommandFaults

/-- A session with a peer that changes its conduct with each call, as long as it has another one. -/
structure FitfulSession where
  /-- The session. -/
  session : Session
  /-- How the peer is going to behave. -/
  conducts : List Conduct

namespace FitfulSession

/-- The session when the peer has changed its conduct. -/
def turned (fitful : FitfulSession) : FitfulSession :=
  match fitful.conducts with
  | [] => fitful
  | conduct :: rest =>
    ⟨{ fitful.session with
        connection := conduct.connection
        commandFaults := conduct.commandFaults }, rest⟩

/-- A call after which the peer may change. -/
def call {α : Type} (proper : Session → α × Session) (fitful : FitfulSession) :
    α × FitfulSession :=
  let done := proper fitful.turned.session
  (done.1, ⟨done.2, fitful.turned.conducts⟩)

instance : Ledger FitfulSession where
  openTransaction := call Session.openTransaction
  answer query := call (Database.answer query).run.run
  commit := call Session.commit
  rollBack := call Session.rollBack
  abandon fitful := { fitful.turned with session := fitful.turned.session.undo }
  paymentExists id := call (Database.paymentExists id)
  ping := call (Ledger.ping (σ := Session))

/-- A peer that changes its conduct does not change what was sent. -/
theorem turned_continues (fitful : FitfulSession) :
    fitful.turned.session.Continues fitful.session := by
  unfold turned
  cases fitful.conducts with
  | nil => exact .refl _
  | cons conduct rest => exact ⟨rfl, rfl⟩

/-- A call is one to the session with a peer that may have changed. -/
theorem call_conducts {α : Type} (proper : Session → α × Session) :
    Conducts FitfulSession.session (call proper) proper := fun fitful =>
  ⟨fitful.turned.session, fitful.turned_continues, rfl, rfl⟩

instance : Conducted FitfulSession where
  session := FitfulSession.session
  opens := call_conducts _
  answers _ := call_conducts _
  commits := call_conducts _
  rollsBack := call_conducts _
  abandons fitful := ⟨fitful.turned.session, fitful.turned_continues, rfl⟩
  looks _ := call_conducts _
  pings := call_conducts _

end FitfulSession

end Sql

variable (σ γ : Type) [Ledger σ] [Conducted σ] [Gateway γ] {α β : Type}

namespace Attempt

variable {before : List Exchange → Prop} {between after : α → List Exchange → Prop}

/-- Whether some work keeps to the discipline. -/
def Keeps (before : List Exchange → Prop) (work : Attempt α)
    (after : α → List Exchange → Prop) : Prop :=
  Sql.Keeps (fun desk : Desk σ γ => Conducted.session desk.ledger) before
    (fun desk => desk.attempt work) after

/-- Whether some work keeps to the discipline and leaves all statements met. -/
def Preserves (work : Attempt α) : Prop := Keeps σ γ AllMet work fun _ => AllMet

variable {σ γ}

/-- A value is given at once. -/
theorem keeps_pure {value : α} (holds : ∀ past, before past → after value past) :
    Keeps σ γ before (pure value) after :=
  keeps_done holds

/-- A refusal ends the work. -/
theorem keeps_refuse {refusal : Refusal} :
    Keeps σ γ before (Attempt.refuse refusal : Attempt α) after :=
  keeps_stop

/-- Work that goes on keeps to the discipline if all of it does. -/
theorem keeps_bind {work : Attempt α} {next : α → Attempt β} {last : β → List Exchange → Prop}
    (first : Keeps σ γ before work between)
    (rest : ∀ value, Keeps σ γ (between value) (next value) last) :
    Keeps σ γ before (work >>= next) last := by
  refine Keeps.andThen first rest fun desk => ?_
  rw [desk.attempt_bind]
  generalize desk.attempt work = worked
  obtain ⟨result, later⟩ := worked
  cases result <;> rfl

/-- A query within a transaction keeps to the discipline. -/
theorem keeps_consult (query : Query) :
    Keeps σ γ AllMet (Attempt.consult query) (Database.expects query) := by
  intro desk past working met
  obtain ⟨begun, continues, answer, place⟩ := Conducted.answers query desk.ledger
  obtain ⟨disciplined, goes⟩ :=
    Database.sends_answer query begun past (working.continued continues) met
  constructor
  · show IsDisciplined (Conducted.session (Ledger.answer query desk.ledger).2).log
    rw [place]
    exact disciplined
  · intro value given
    show ∃ later, (Conducted.session (Ledger.answer query desk.ledger).2).IsWorking later ∧ _
    rw [place]
    apply goes value
    have given : (Ledger.answer query desk.ledger).1.mapError Abort.ofFault = .ok value := given
    rw [← answer]
    cases told : (Ledger.answer query desk.ledger).1 with
    | error fault =>
      rw [told] at given
      contradiction
    | ok found =>
      rw [told] at given
      cases given
      rfl

/-- A bill of the gateway is no matter of the ledger. -/
theorem keeps_createBill (request : BillRequest) :
    Keeps σ γ before (Attempt.createBill request) fun _ => before := by
  intro desk past working was
  exact ⟨working.disciplined, fun _ _ => ⟨past, working, was⟩⟩

/-- The time is no matter of the ledger. -/
theorem keeps_wallClock : Keeps σ γ before Attempt.wallClock fun _ => before :=
  fun _ past working was => ⟨working.disciplined, fun _ _ => ⟨past, working, was⟩⟩

/-- Computations are no matter of the ledger. -/
theorem keeps_compute (result : Except Overflow α) :
    Keeps σ γ before (Attempt.compute result) fun _ => before :=
  fun _ past working was => ⟨working.disciplined, fun _ _ => ⟨past, working, was⟩⟩

/-- Checks are no matter of the ledger. -/
theorem keeps_check (result : Except Refusal α) :
    Keeps σ γ before (Attempt.check result) fun _ => before :=
  fun _ past working was => ⟨working.disciplined, fun _ _ => ⟨past, working, was⟩⟩

/-- Work that goes on after a demand goes on if the condition holds. -/
theorem keeps_demand (condition : Bool) (refusal : Refusal) :
    Keeps σ γ before (Attempt.demand condition refusal) fun _ past =>
      condition = true ∧ before past := by
  cases condition with
  | false => exact keeps_stop
  | true => exact keeps_done fun past was => ⟨rfl, was⟩

/-- A code that is redeemed leaves all statements met. -/
theorem preserves_redeem (code : String) (now : Instant) :
    Preserves σ γ (Redemption.redeem code now) := by
  refine keeps_bind (keeps_consult (.referralCode code)) fun found => ?_
  cases found with
  | none => exact keeps_refuse
  | some referral =>
    refine keeps_bind (keeps_check _) fun _ => ?_
    refine keeps_bind (keeps_demand _ _) fun _ => ?_
    refine keeps_bind ((keeps_consult (.usageCount referral.id)).mono (fun _ was => was.2)
      fun _ _ met => met) fun uses => ?_
    exact keeps_bind (keeps_demand _ _) fun _ => keeps_pure fun _ was => was.2

/-- Tickets that are reserved leave all statements met: as many were changed as there are. -/
theorem preserves_reserve (event : Uuid) (name : String) (amount : Int64) :
    Preserves σ γ (Inventory.reserve event name amount) := by
  refine keeps_bind (keeps_check _) fun _ => ?_
  refine keeps_bind (keeps_consult (.availableTickets event name amount)) fun tickets => ?_
  refine keeps_bind (keeps_demand _ _) fun _ => ?_
  have changes := keeps_consult (σ := σ) (γ := γ)
    (.changeStatus (tickets.map (·.id)) .available .pending)
  refine keeps_bind (changes.mono (fun _ was => was.2) fun _ _ holds => holds) fun held => ?_
  refine keeps_bind (keeps_demand _ _) fun _ => keeps_pure fun past counted => ?_
  obtain ⟨same, holds⟩ := counted
  apply holds
  right
  rw [List.length_map]
  exact of_decide_eq_true same

/-- A hold leaves all statements met. -/
theorem preserves_holdWork (settings : CheckoutSettings) (event : Uuid)
    (request : PurchaseRequest) :
    Preserves σ γ (Transaction.holdWork settings event request) := by
  have redeems : Preserves σ γ (Transaction.redeemEntered request) := by
    unfold Transaction.redeemEntered
    cases request.referralCode with
    | none => exact keeps_pure fun _ met => met
    | some code =>
      refine keeps_bind keeps_wallClock fun now => ?_
      exact keeps_bind (preserves_redeem code now) fun _ => keeps_pure fun _ met => met
  have records (discount : Option DiscountSnapshot) (bill : Bill) :
      Preserves σ γ (Transaction.recordUse discount bill) := by
    cases discount with
    | none => exact keeps_pure fun _ met => met
    | some snapshot => exact keeps_consult (.recordUsage snapshot.referral bill.trackingId)
  refine keeps_bind redeems fun discount => ?_
  refine keeps_bind (preserves_reserve event request.ticketName request.amount) fun tickets => ?_
  refine keeps_bind (keeps_compute _) fun price => ?_
  refine keeps_bind keeps_wallClock fun now => ?_
  refine keeps_bind (keeps_compute _) fun expiry => ?_
  refine keeps_bind (keeps_createBill _) fun bill => ?_
  exact keeps_bind (records discount bill) fun _ => keeps_pure fun _ met => met

/-- Tickets that are given back leave all statements met. -/
theorem preserves_giveBack (tickets : List Uuid) :
    Preserves σ γ (Attempt.changeStatus tickets .pending .available) :=
  (keeps_consult (.changeStatus tickets .pending .available)).mono (fun _ met => met)
    fun _ _ holds => holds (.inl rfl)

/-- A hold that is undone leaves all statements met. -/
theorem preserves_undoWork (id : TrackingId) (tickets : List Uuid) (isRedeemed : Bool) :
    Preserves σ γ (Transaction.undoWork id tickets isRedeemed) := by
  refine keeps_bind (preserves_giveBack tickets) fun _ => ?_
  cases isRedeemed with
  | false => exact keeps_pure fun _ met => met
  | true => exact keeps_consult (.releaseUsage id)

/-- A release leaves all statements met. -/
theorem preserves_releaseWork (reservation : Reservation) :
    Preserves σ γ (Transaction.releaseWork reservation) := by
  refine keeps_bind (preserves_giveBack reservation.tickets) fun released => ?_
  exact keeps_bind (keeps_consult (.releaseUsage reservation.id)) fun _ =>
    keeps_pure fun _ met => met

/-- Attendances that are entered leave all statements met, however many there are. -/
theorem preserves_attendWork (event : Uuid) (tickets : List Uuid)
    (visitors : List VisitorDetails) :
    Preserves σ γ (Transaction.attendWork event tickets visitors) := by
  induction tickets generalizing visitors with
  | nil => exact keeps_pure fun _ met => met
  | cons ticket rest ih =>
    cases visitors with
    | nil => exact keeps_refuse
    | cons visitor visitors =>
      exact keeps_bind (keeps_consult (.insertAttendance ⟨event, ticket, visitor.json⟩)) fun _ =>
        ih visitors

/-- A sale leaves all statements met: as many tickets were sold as there are. -/
theorem preserves_sellWork (reservation : Reservation) (notification : PaymentNotification) :
    Preserves σ γ (Transaction.sellWork reservation notification) := by
  refine keeps_bind (keeps_consult (.paymentExists reservation.id)) fun isRecorded => ?_
  cases isRecorded with
  | true => exact keeps_pure fun _ met => met
  | false =>
    refine keeps_bind (keeps_consult (.insertPayment _)) fun _ => ?_
    refine keeps_bind (keeps_consult (.changeStatus reservation.tickets .pending .sold))
      fun sold => ?_
    refine keeps_bind (keeps_demand _ _) fun _ => ?_
    have attends := preserves_attendWork (σ := σ) (γ := γ) reservation.event reservation.tickets
      reservation.visitors
    refine keeps_bind (attends.mono (fun past counted => ?_) fun _ _ met => met) fun _ =>
      keeps_pure fun _ met => met
    obtain ⟨same, holds⟩ := counted
    exact holds (.inr (of_decide_eq_true same))

/-- Each of the five transactions leaves all statements met. -/
theorem preserves_work (transaction : Transaction) : Preserves σ γ transaction.work := by
  cases transaction with
  | hold settings event request => exact preserves_holdWork settings event request
  | undoHold id tickets isRedeemed => exact preserves_undoWork id tickets isRedeemed
  | sell reservation notification => exact preserves_sellWork reservation notification
  | release reservation => exact preserves_releaseWork reservation
  | reclaim reservation => exact preserves_releaseWork reservation

end Attempt

namespace Desk

variable {σ γ} {desk : Desk σ γ} {past : List Exchange}

/-- The session over which the ledger of a desk sends what it has to say. -/
def session (desk : Desk σ γ) : Session := Conducted.session desk.ledger

omit [Gateway γ] in
/-- When work has ended early its transaction is undone. -/
theorem close_error_isIdle (isRolledBack : Abort → Bool) (abort : Abort)
    (disciplined : IsDisciplined desk.session.log) :
    (close isRolledBack (.error abort : Except Abort α) desk).2.session.IsIdle := by
  show (Conducted.session (if isRolledBack abort then (Ledger.rollBack desk.ledger).2
    else Ledger.abandon desk.ledger)).IsIdle
  split
  · obtain ⟨begun, continues, -, place⟩ := Conducted.rollsBack desk.ledger
    rw [place]
    apply Session.isIdle_rollBack
    rw [continues.log]
    exact disciplined
  · obtain ⟨begun, continues, place⟩ := Conducted.abandons desk.ledger
    rw [place]
    apply Session.isIdle_undo
    rw [continues.log]
    exact disciplined

omit [Gateway γ] in
/-- When work has given a value and all statements are met its transaction is committed. -/
theorem close_ok_isIdle (isRolledBack : Abort → Bool) (value : α)
    (working : desk.session.IsWorking past) (met : AllMet past) :
    (close isRolledBack (.ok value) desk).2.session.IsIdle := by
  obtain ⟨begun, continues, -, place⟩ := Conducted.commits desk.ledger
  show (Conducted.session (Ledger.commit desk.ledger).2).IsIdle
  rw [place]
  exact (working.continued continues).commit met

/-- A transaction keeps to the discipline, and none is open after it. -/
theorem perform_isIdle (transaction : Transaction) (idle : desk.session.IsIdle) :
    (desk.perform transaction).2.session.IsIdle := by
  obtain ⟨begun, continues, answer, place⟩ := Conducted.opens desk.ledger
  obtain ⟨opens, fails⟩ := (idle.continued continues).openTransaction
  let opened : Desk σ γ := { desk with ledger := (Ledger.openTransaction desk.ledger).2 }
  have place : opened.session = begun.openTransaction.2 := place
  cases told : (Ledger.openTransaction desk.ledger).1 with
  | error fault =>
    simp only [perform, told]
    show opened.session.IsIdle
    rw [place]
    exact fails fault (answer.symm.trans told)
  | ok done =>
    have working : opened.session.IsWorking [] := by
      rw [place]
      exact opens (answer.symm.trans told)
    obtain ⟨disciplined, goes⟩ :=
      Attempt.preserves_work transaction opened [] working (fun _ member => nomatch member)
    simp only [perform, told]
    show (close transaction.isRolledBack (opened.attempt transaction.work).1
      (opened.attempt transaction.work).2).2.session.IsIdle
    cases worked : (opened.attempt transaction.work).1 with
    | error abort => exact close_error_isIdle _ abort disciplined
    | ok value =>
      obtain ⟨later, still, met⟩ := goes value worked
      exact close_ok_isIdle _ value still met

end Desk

end BoxOffice
