import BoxOffice.Proofs.Engine.Rest

/-!
# What a service leaves behind

A purchase and a settlement that are carried out to their end leave the timers and the clock alone.
What they do to the store goes along with what they tell the reaper: a reservation that is opened or
put back has its timer armed, and one that is taken for good has it disarmed. `Served` tells the
cases apart.
-/
namespace BoxOffice

/-- What a settlement that takes a reservation for good does to the books: a payment may be recorded
under the number, and unless there was one the tickets of the reservation are not pending any more.
-/
structure Books.Settled (id : TrackingId) (reservation : Reservation) (books after : Books) :
    Prop where
  /-- Nobody pays for another number. -/
  payments : ∀ other, other ≠ id → after.paymentExists other = books.paymentExists other
  /-- No other ticket becomes pending, and those of the reservation do not stay so. -/
  pending : ∀ ticket ∈ after.idsOf .pending, ticket ∈ books.idsOf .pending ∧
    (books.paymentExists id = false → ticket ∉ reservation.tickets)

/-- A sale that has ended well settles its reservation. -/
theorem Books.Settled.of_sell {reservation : Reservation} {notification : PaymentNotification}
    {outcome : SettlementOutcome} {books after : Books}
    (deed : (Transaction.sell reservation notification).Deed outcome books after) :
    books.Settled reservation.id reservation after := by
  rcases deed with ⟨-, paid, rfl⟩ | ⟨-, sold, -⟩
  · refine ⟨fun _ _ => rfl, fun ticket member => ⟨member, fun unpaid => ?_⟩⟩
    rw [paid] at unpaid
    contradiction
  · refine ⟨fun other apart => ?_, fun ticket member => ?_⟩
    · rw [Bool.eq_iff_iff, Books.paymentExists_iff, Books.paymentExists_iff, sold.payments,
        List.mem_append, List.mem_singleton]
      exact or_iff_left apart
    · have still := sold.pending.mp member
      exact ⟨still.1, fun _ => still.2⟩

/-- A release that has ended well settles its reservation. -/
theorem Books.Settled.of_release {reservation : Reservation} {released : Nat}
    {books after : Books} (deed : (Transaction.release reservation).Deed released books after) :
    books.Settled reservation.id reservation after := by
  cases deed
  refine ⟨fun other _ => ?_, fun ticket member => ?_⟩
  · exact congrFun (Books.paymentExists_congr (books.freed_frame _ _).2.1) other
  · have still := Books.freed_pending.mp member
    exact ⟨still.1, fun _ => still.2⟩

namespace Engine

/-- A reservation is opened where none is open under its number. -/
theorem answer_put_absent {σ γ : Type} [Ledger σ] [Gateway γ] {engine : Engine σ γ}
    {reservation : Reservation} (absent : engine.store.get? reservation.id = none) :
    answer (.putReservation reservation) engine =
      (true, { engine with store := engine.store.insert reservation.id reservation }) := by
  simp only [answer, put, Register.contains_eq_isSome, absent, Option.isSome_none,
    Bool.false_eq_true, ↓reduceIte]

/-- A reservation is not opened where one is open under its number. -/
theorem answer_put_present {σ γ : Type} [Ledger σ] [Gateway γ] {engine : Engine σ γ}
    {reservation present : Reservation}
    (found : engine.store.get? reservation.id = some present) :
    answer (.putReservation reservation) engine = (false, engine) := by
  simp only [answer, put, Register.contains_eq_isSome, found, Option.isSome_some, ↓reduceIte]

variable {γ : Type} {engine later : Engine MemoryLedger γ}

/-- What is left behind by a service that is carried out, and under which number it has opened a
reservation that was not open before. -/
inductive Served (engine later : Engine MemoryLedger γ) : Option TrackingId → Prop where
  /-- Nothing has come of it. -/
  | nothing (commands : later.commands = engine.commands)
    (payments : later.desk.books.payments = engine.desk.books.payments)
    (pending : later.desk.books.idsOf .pending ⊆ engine.desk.books.idsOf .pending)
    (store : later.store.get? = engine.store.get?) : Served engine later none
  /-- A reservation has been opened, and its timer is to be armed. -/
  | opened (reservation : Reservation)
    (commands : later.commands = engine.commands ++
      [.schedule reservation.id (engine.clock + engine.delay)])
    (payments : later.desk.books.payments = engine.desk.books.payments)
    (pending : later.desk.books.idsOf .pending ⊆
      engine.desk.books.idsOf .pending ++ reservation.tickets)
    (absent : engine.store.get? reservation.id = none)
    (store : later.store = engine.store.insert reservation.id reservation) :
    Served engine later (some reservation.id)
  /-- A reservation has been taken and put back, and its timer is to be armed. -/
  | putBack (id : TrackingId)
    (commands : later.commands = engine.commands ++ [.schedule id (engine.clock + engine.delay)])
    (books : later.desk.books = engine.desk.books) (store : later.store.get? = engine.store.get?) :
    Served engine later none
  /-- A reservation has been taken for good, and its timer is to be disarmed. -/
  | taken (id : TrackingId) (reservation : Reservation)
    (found : engine.store.get? id = some reservation)
    (commands : later.commands = engine.commands ++ [.resolve id])
    (books : engine.desk.books.Settled id reservation later.desk.books)
    (store : later.store = engine.store.erase id) : Served engine later none

variable [Gateway γ]

/-- A purchase that has opened its reservation has its timer armed and ends with a receipt. -/
theorem run_afterPut_opened (engine : Engine MemoryLedger γ) (event : Uuid)
    (request : PurchaseRequest) (hold : Hold) :
    engine.run (Checkout.afterPut event request hold true) =
      (.ok (Checkout.receiptOf event request hold),
        engine.command (.schedule hold.id (engine.clock + engine.delay))) :=
  rfl

/-- A purchase that could not open its reservation undoes its hold and ends without a receipt. -/
theorem IsSmooth.run_afterPut_refused (smooth : engine.IsSmooth) (event : Uuid)
    (request : PurchaseRequest) (hold : Hold) :
    ∃ abort desk, engine.run (Checkout.afterPut event request hold false) =
        (.error abort, { engine with desk }) ∧
      desk.books = engine.desk.books.undone hold.discount.isSome hold.ticketIds hold.id := by
  have undone := Desk.perform_undoHold smooth.sound smooth.regular.returnable hold.id
    hold.ticketIds hold.discount.isSome
  have deed := Desk.perform_deed smooth.regular.faithful undone
  refine ⟨.ofFault (.reservationOpen hold.id), _, ?_, deed⟩
  change (Engine.answer (.transact (.undoHold hold.id hold.ticketIds hold.discount.isSome))
    engine).2.run (Checkout.afterUndo hold.id (Engine.answer
      (.transact (.undoHold hold.id hold.ticketIds hold.discount.isSome)) engine).1) = _
  rw [answer_transact, undone]
  rfl

/-- The number of a purchase that has ended with a receipt. -/
def openedBy : Except Abort Receipt → Option TrackingId
  | .ok receipt => some receipt.bill.trackingId
  | .error _ => none

/-- A purchase that is carried out has opened a reservation under the number on its receipt, or
nothing has come of it. -/
theorem IsSmooth.run_buy (smooth : engine.IsSmooth) (settings : CheckoutSettings) (event : Uuid)
    (request : PurchaseRequest) :
    engine.Served (engine.run (Checkout.buy settings event request)).2
      (openedBy (engine.run (Checkout.buy settings event request)).1) := by
  simp only [Checkout.buy]
  split
  · exact .nothing rfl rfl (List.Subset.refl _) rfl
  · rw [run_ask, answer_transact]
    cases held : (engine.desk.perform (.hold settings event request)).1 with
    | error abort =>
      have same := Desk.perform_error smooth.regular.faithful held
      refine .nothing rfl (congrArg Books.payments same) ?_ rfl
      exact fun ticket member => same ▸ member
    | ok hold =>
      obtain ⟨deed, -, -⟩ := Desk.perform_deed smooth.regular.faithful held
      have begun := smooth.answer (.transact (.hold settings event request))
      rw [answer_transact] at begun
      simp only [Checkout.afterHold, run_ask]
      generalize (engine.desk.perform (.hold settings event request)).2 = desk at deed begun
      let middle : Engine MemoryLedger γ := { engine with desk }
      let reservation := Checkout.reservationOf event request hold desk.now
      change engine.Served
        (middle.run (.ask (.putReservation reservation) (Checkout.afterPut event request hold))).2
        (openedBy (middle.run
          (.ask (.putReservation reservation) (Checkout.afterPut event request hold))).1)
      rw [run_ask]
      cases present : engine.store.get? reservation.id with
      | none =>
        have absent : middle.store.get? reservation.id = none := present
        rw [answer_put_absent absent, run_afterPut_opened]
        refine .opened reservation rfl deed.payments (fun ticket member => ?_) absent rfl
        exact List.mem_append.mpr (deed.pending member)
      | some other =>
        have found : middle.store.get? reservation.id = some other := present
        obtain ⟨abort, last, ran, books⟩ := begun.run_afterPut_refused event request hold
        rw [answer_put_present found, ran]
        have frame := desk.books.undone_frame hold.discount.isSome hold.ticketIds hold.id
        refine .nothing rfl ?_ (fun ticket member => ?_) rfl
        · exact (congrArg Books.payments books).trans (frame.2.1.trans deed.payments)
        · have member : ticket ∈ last.books.idsOf .pending := member
          rw [books, Books.undone_pending] at member
          exact (deed.pending member.1).resolve_right member.2

/-- A settlement whose transaction has ended well has the timer disarmed. -/
theorem run_afterTransaction_ok (engine : Engine MemoryLedger γ) (reservation : Reservation)
    (notification : PaymentNotification) (outcome : SettlementOutcome) :
    ∃ deliveries, engine.run (Settlement.afterTransaction reservation notification (.ok outcome)) =
      (.ok outcome, { engine.command (.resolve notification.trackingId) with deliveries }) := by
  simp only [Settlement.afterTransaction, run_ask]
  cases outcome with
  | sold tickets =>
    simp only [Settlement.afterResolve]
    split
    · exact ⟨engine.deliveries, rfl⟩
    · exact ⟨_, rfl⟩
  | released tickets => exact ⟨engine.deliveries, rfl⟩
  | duplicate => exact ⟨engine.deliveries, rfl⟩

/-- A settlement whose transaction is refused puts the reservation back and has the timer armed. -/
theorem run_afterTransaction_refused {reservation : Reservation}
    {notification : PaymentNotification} (absent : engine.store.get? reservation.id = none)
    (refusal : Refusal) :
    engine.run (Settlement.afterTransaction reservation notification
        (.error (.refused refusal))) =
      (.error (.refused refusal),
        { engine with store := engine.store.insert reservation.id reservation }.command
          (.schedule notification.trackingId (engine.clock + engine.delay))) := by
  simp only [Settlement.afterTransaction, run_ask]
  rw [answer_put_absent absent]
  rfl

/-- A settlement whose transaction has ended has taken the reservation for good or put it back. -/
theorem served_afterTransaction {reservation : Reservation} {notification : PaymentNotification}
    (found : engine.store.get? notification.trackingId = some reservation)
    (named : reservation.id = notification.trackingId) (desk : Desk MemoryLedger γ)
    {result : Except Abort SettlementOutcome}
    (failed : ∀ abort, result = .error abort →
      (∃ refusal, abort = .refused refusal) ∧ desk.books = engine.desk.books)
    (done : ∀ outcome, result = .ok outcome →
      engine.desk.books.Settled reservation.id reservation desk.books) :
    engine.Served ({ engine with desk, store := engine.store.erase notification.trackingId }.run
      (Settlement.afterTransaction reservation notification result)).2 none := by
  let taken : Engine MemoryLedger γ :=
    { engine with desk, store := engine.store.erase notification.trackingId }
  cases result with
  | error abort =>
    obtain ⟨⟨refusal, rfl⟩, books⟩ := failed abort rfl
    have absent : taken.store.get? reservation.id = none := by
      rw [named]
      exact Register.get?_erase_self _ _
    rw [run_afterTransaction_refused absent]
    refine .putBack notification.trackingId rfl books ?_
    change ((engine.store.erase notification.trackingId).insert reservation.id reservation).get? =
      engine.store.get?
    rw [named]
    exact Register.get?_insert_erase found
  | ok outcome =>
    obtain ⟨deliveries, ran⟩ := taken.run_afterTransaction_ok reservation notification outcome
    rw [ran]
    exact .taken notification.trackingId reservation found rfl (named ▸ done outcome rfl) rfl

/-- A settlement that is carried out opens no reservation that was not open before. -/
theorem IsSmooth.run_settle (smooth : engine.IsSmooth) (notification : PaymentNotification) :
    engine.Served (engine.run (Settlement.settle notification)).2 none := by
  let taken : Engine MemoryLedger γ :=
    { engine with store := engine.store.erase notification.trackingId }
  have begun : taken.IsSmooth := smooth.answer (.takeReservation notification.trackingId)
  change engine.Served (taken.run (Settlement.afterTake notification
    (engine.store.get? notification.trackingId))).2 none
  cases found : engine.store.get? notification.trackingId with
  | none =>
    exact .nothing rfl rfl (List.Subset.refl _) (Register.get?_erase_absent found)
  | some reservation =>
    have named := smooth.regular.keyed _ _ found
    simp only [Settlement.afterTake]
    split
    · rw [run_ask, answer_transact]
      refine served_afterTransaction found named _ (fun abort failed => ?_) fun outcome done => ?_
      · exact ⟨Desk.perform_refused smooth.regular.faithful smooth.regular.returnable rfl failed,
          Desk.perform_error smooth.regular.faithful failed⟩
      · exact .of_sell (Desk.perform_deed smooth.regular.faithful done)
    · have done := Desk.perform_release smooth.sound smooth.regular.returnable reservation
      have deed := Desk.perform_deed smooth.regular.faithful done
      rw [run_ask, answer_transact]
      refine served_afterTransaction found named _ (fun abort failed => ?_) fun outcome _ =>
        .of_release deed
      rw [done] at failed
      contradiction

end Engine

end BoxOffice
