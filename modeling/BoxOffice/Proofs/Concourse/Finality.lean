import BoxOffice.Proofs.Concourse.Consumption
import BoxOffice.Proofs.Concourse.Redemption

/-!
# Payments that are final

Once a reservation has been sold its payment is on record and its tickets have visitors, for good.
If the same reservation turns up in the store again, a second payment, a release and a timer find
that out and leave the books alone. A notification that the bill was not paid does not ask: the
tickets, payments and attendances stay, but the use of a code goes.
-/
namespace BoxOffice

/-- What was recorded before an exchange is recorded after it. -/
theorem Exchange.Deed.grows {exchange : Exchange} {books after : Books}
    (deed : exchange.Deed books after) :
    books.payments <+: after.payments ∧ books.attendances <+: after.attendances := by
  rcases deed.eq_or with rfl | ⟨transaction, value, -, deed⟩
  · exact ⟨List.prefix_rfl, List.prefix_rfl⟩
  · obtain ⟨payments, attendances⟩ := deed.rows
    rw [payments, attendances]
    exact ⟨List.prefix_append _ _, List.prefix_append _ _⟩

namespace Books

variable {books : Books} {tickets : List Uuid}

/-- Tickets that are sold do not change their status. -/
theorem withStatus_of_sold (next : TicketStatus) (distinct : books.ticketIds.Nodup)
    (sold : ∀ ticket ∈ tickets, books.ticketStatus? ticket = some .sold) :
    books.withStatus tickets .pending next = books := by
  have same : books.tickets.map (fun ticket =>
      if isAmong tickets .pending ticket then { ticket with status := next } else ticket) =
        books.tickets := by
    refine (List.map_congr_left fun ticket member => if_neg fun among => ?_).trans (List.map_id _)
    obtain ⟨listed, has⟩ := isAmong_iff.mp among
    have pending : books.ticketStatus? ticket.id = some .pending :=
      (ticketStatus?_eq_some distinct).mpr (mem_idsOf.mpr ⟨ticket, member, has, rfl⟩)
    rw [sold ticket.id listed] at pending
    cases pending
  simp only [withStatus, same]

end Books

/-- The engine with another store. -/
def Engine.withStore {σ γ : Type} (engine : Engine σ γ)
    (store : Register TrackingId Reservation) : Engine σ γ :=
  { engine with store }

/-- Another store makes no other desk. -/
@[simp]
theorem Engine.withStore_desk {σ γ : Type} (engine : Engine σ γ)
    (store : Register TrackingId Reservation) : (engine.withStore store).desk = engine.desk :=
  rfl

section

variable {σ γ : Type} [Ledger σ] [Gateway γ]

/-- After its transaction a settlement does not change the desk any more, and ends as the
transaction did. -/
theorem Engine.run_afterTransaction (engine : Engine σ γ) (reservation : Reservation)
    (notification : PaymentNotification) (result : Except Abort SettlementOutcome) :
    (engine.run (Settlement.afterTransaction reservation notification result)).1 = result ∧
      (engine.run (Settlement.afterTransaction reservation notification result)).2.desk =
        engine.desk := by
  cases result with
  | error abort =>
    cases abort with
    | refused refusal =>
      simp only [Settlement.afterTransaction, run, Dialogue.run, answer, put]
      split <;> exact ⟨rfl, rfl⟩
    | overflowed overflow => exact ⟨rfl, rfl⟩
  | ok outcome =>
    simp only [Settlement.afterTransaction, run, Dialogue.run]
    cases outcome with
    | sold tickets =>
      simp only [Settlement.afterResolve]
      split <;> exact ⟨rfl, rfl⟩
    | released tickets => exact ⟨rfl, rfl⟩
    | duplicate => exact ⟨rfl, rfl⟩

/-- A settlement of an open reservation that was paid for sells it. -/
theorem Engine.run_settle_paid (engine : Engine σ γ) {reservation : Reservation}
    {notification : PaymentNotification}
    (found : engine.store.get? notification.trackingId = some reservation)
    (paid : notification.isPaid = true) :
    (engine.run (Settlement.settle notification)).1 =
        (engine.desk.perform (.sell reservation notification)).1 ∧
      (engine.run (Settlement.settle notification)).2.desk =
        (engine.desk.perform (.sell reservation notification)).2 := by
  simp only [Settlement.settle, run, Dialogue.run, answer, take, found, Settlement.afterTake, paid,
    ↓reduceIte]
  exact run_afterTransaction _ _ _ _

/-- A settlement of an open reservation that was not paid for releases it. -/
theorem Engine.run_settle_unpaid (engine : Engine σ γ) {reservation : Reservation}
    {notification : PaymentNotification}
    (found : engine.store.get? notification.trackingId = some reservation)
    (unpaid : notification.isPaid = false) :
    (engine.run (Settlement.settle notification)).1 =
        (engine.desk.perform (.release reservation)).1.map .released ∧
      (engine.run (Settlement.settle notification)).2.desk =
        (engine.desk.perform (.release reservation)).2 := by
  simp only [Settlement.settle, run, Dialogue.run, answer, take, found, Settlement.afterTake,
    unpaid, Bool.false_eq_true, ↓reduceIte]
  exact run_afterTransaction _ _ _ _

end

variable {σ γ : Type} [Ledger σ] [Bookkeeping σ] [Gateway γ]

/-- A release of a reservation whose payment is on record changes nothing in the books. -/
theorem Engine.run_reap_paid {engine : Engine σ γ} {id : TrackingId}
    (faithful : engine.desk.IsFaithful) (paid : engine.desk.books.paymentExists id = true) :
    (engine.run (Release.reap id)).2.desk.books = engine.desk.books := by
  have kept := (Bookkeeping.paymentExists_books id faithful).2
  simp only [Release.reap, run, Dialogue.run, answer]
  cases told : (Ledger.paymentExists id engine.desk.ledger).1 with
  | error fault => exact kept
  | ok isPaid =>
    have right := Bookkeeping.paymentExists_ok faithful told
    obtain rfl : isPaid = true := right.symm.trans paid
    exact kept

/-- What has been sold has been paid for and has visitors, for good. -/
theorem Opening.recorded_after (opening : Opening σ γ) (actions : List (Action σ))
    {reservation : Reservation} {notification : PaymentNotification} {tickets : Nat}
    (sold : ⟨.transact (.sell reservation notification), .ok (.sold tickets)⟩ ∈
      (opening.after actions).transcript) :
    reservation.id ∈ (opening.after actions).books.payments.map (·.id) ∧
      reservation.tickets ⊆ (opening.after actions).books.attendances.map (·.ticket) := by
  revert sold
  refine opening.after_induction (fun concourse =>
    ⟨.transact (.sell reservation notification), .ok (.sold tickets)⟩ ∈ concourse.transcript →
      reservation.id ∈ concourse.books.payments.map (·.id) ∧
        reservation.tickets ⊆ concourse.books.attendances.map (·.ticket)) ?_
    (fun actions action before sold => ?_) actions
  · intro sold
    exact absurd sold List.not_mem_nil
  · have regular := opening.after_regular actions
    have happens := regular.happens action
    generalize (opening.after actions).step action = later,
      (opening.after actions).begun action = errands,
      (opening.after actions).asked action = asked at happens sold ⊢
    cases happens with
    | still calls transcript books =>
      rw [books]
      exact before (transcript ▸ sold)
    | @exchange caller call request present asked =>
      have deed := regular.engine.deed request
      rcases List.mem_append.mp sold with old | new
      · obtain ⟨payments, attendances⟩ := deed.grows
        obtain ⟨paid, attended⟩ := before old
        exact ⟨(payments.map _).subset paid, List.Subset.trans attended (attendances.map _).subset⟩
      · rw [← List.mem_singleton.mp new] at deed
        rcases deed with ⟨again, -⟩ | ⟨-, sale, -⟩
        · cases again
        · constructor
          · exact sale.payments ▸ List.mem_append_right _ List.mem_cons_self
          · exact sale.attendances ▸ List.subset_append_right _ _

section

variable {opening : Opening σ γ} {actions : List (Action σ)} {reservation : Reservation}
  {notification message : PaymentNotification} {tickets : Nat}
  {store : Register TrackingId Reservation} {result : Except Abort SettlementOutcome}
  {later : Engine σ γ}

/-- Releasing what has been sold returns the use of a code and no ticket. -/
theorem Opening.freed_after
    (sold : ⟨.transact (.sell reservation notification), .ok (.sold tickets)⟩ ∈
      (opening.after actions).transcript) :
    (opening.after actions).books.freed reservation.tickets reservation.id =
      (opening.after actions).books.withoutUse reservation.id := by
  have attended := (opening.recorded_after actions sold).2
  have final (ticket : Uuid) (member : ticket ∈ reservation.tickets) :
      (opening.after actions).books.ticketStatus? ticket = some .sold :=
    (opening.attended_iff actions ticket).mp (attended member)
  have distinct := (opening.custody_after actions).distinct
  rw [Books.freed, Books.withStatus_of_sold .available distinct final]

/-- A second payment for what has been sold changes nothing in the books. -/
theorem Opening.paid_again
    (sold : ⟨.transact (.sell reservation notification), .ok (.sold tickets)⟩ ∈
      (opening.after actions).transcript)
    (reopened : store.get? message.trackingId = some reservation) (paid : message.isPaid = true)
    (ran : ((opening.after actions).engine.withStore store).run (Settlement.settle message) =
      (result, later)) : later.desk.books = (opening.after actions).books := by
  have regular := (opening.after_regular actions).engine
  have recorded := (opening.recorded_after actions sold).1
  rw [← Books.paymentExists_iff] at recorded
  have desk := (((opening.after actions).engine.withStore store).run_settle_paid reopened paid).2
  rw [ran, Engine.withStore_desk] at desk
  rw [desk]
  cases done : ((opening.after actions).engine.desk.perform (.sell reservation message)).1 with
  | error abort => exact Desk.perform_error regular.faithful done
  | ok outcome =>
    rcases Desk.perform_deed regular.faithful done with ⟨-, -, same⟩ | ⟨-, sale, -⟩
    · exact same
    · exact absurd (sale.unpaid.symm.trans recorded) Bool.false_ne_true

/-- A notification that what has been sold was not paid for returns its use of a code, unless the
settlement fails. -/
theorem Opening.unpaid_again
    (sold : ⟨.transact (.sell reservation notification), .ok (.sold tickets)⟩ ∈
      (opening.after actions).transcript)
    (reopened : store.get? message.trackingId = some reservation) (unpaid : message.isPaid = false)
    (ran : ((opening.after actions).engine.withStore store).run (Settlement.settle message) =
      (result, later)) :
    (∃ abort, result = .error abort) ∧ later.desk.books = (opening.after actions).books ∨
      (∃ released, result = .ok (.released released)) ∧
        later.desk.books = (opening.after actions).books.withoutUse reservation.id := by
  have regular := (opening.after_regular actions).engine
  obtain ⟨came, desk⟩ :=
    ((opening.after actions).engine.withStore store).run_settle_unpaid reopened unpaid
  rw [ran, Engine.withStore_desk] at came desk
  rw [desk]
  cases done : ((opening.after actions).engine.desk.perform (.release reservation)).1 with
  | error abort =>
    rw [done] at came
    exact .inl ⟨⟨abort, came⟩, Desk.perform_error regular.faithful done⟩
  | ok released =>
    rw [done] at came
    have deed := Desk.perform_deed regular.faithful done
    exact .inr ⟨⟨released, came⟩, deed.trans (Opening.freed_after sold)⟩

end

/-- A payment that is recorded is final, but for the use of a code. A reservation has been sold, and
it is in the store again, whatever else is. A release finds the payment and changes nothing in the
books. A settlement, whatever its notification tells, changes no ticket, payment or attendance; and
it changes nothing at all in the books if it was notified of a payment, if it fails, or if no use is
on record under the number of the reservation, and only then. -/
theorem Opening.paid_is_final (opening : Opening σ γ) (actions : List (Action σ))
    {reservation : Reservation} {notification : PaymentNotification} {tickets : Nat}
    (sold : ⟨.transact (.sell reservation notification), .ok (.sold tickets)⟩ ∈
      (opening.after actions).transcript)
    (store : Register TrackingId Reservation)
    (reopened : store.get? reservation.id = some reservation) :
    (((opening.after actions).engine.withStore store).run
        (Release.reap reservation.id)).2.desk.books = (opening.after actions).books ∧
      ∀ (message : PaymentNotification) (result : Except Abort SettlementOutcome)
        (later : Engine σ γ), message.trackingId = reservation.id →
        ((opening.after actions).engine.withStore store).run (Settlement.settle message) =
            (result, later) →
          later.desk.books.tickets = (opening.after actions).books.tickets ∧
          later.desk.books.payments = (opening.after actions).books.payments ∧
          later.desk.books.attendances = (opening.after actions).books.attendances ∧
          (later.desk.books = (opening.after actions).books ↔
            message.isPaid = true ∨ (∃ abort, result = .error abort) ∨
              reservation.id ∉ (opening.after actions).books.uses.map (·.id)) := by
  have faithful := (opening.after_regular actions).engine.faithful
  have paid := (opening.recorded_after actions sold).1
  rw [← Books.paymentExists_iff] at paid
  refine ⟨Engine.run_reap_paid faithful paid, fun message result later about ran => ?_⟩
  rw [← about] at reopened
  cases isPaid : message.isPaid with
  | true =>
    rw [Opening.paid_again sold reopened isPaid ran]
    exact ⟨rfl, rfl, rfl, iff_of_true rfl (.inl rfl)⟩
  | false =>
    rcases Opening.unpaid_again sold reopened isPaid ran with ⟨failed, same⟩ | ⟨ended, after⟩
    · rw [same]
      exact ⟨rfl, rfl, rfl, iff_of_true rfl (.inr (.inl failed))⟩
    · obtain ⟨onSale, payments, attendances⟩ :=
        (opening.after actions).books.withoutUse_frame reservation.id
      obtain ⟨released, rfl⟩ := ended
      rw [after]
      refine ⟨onSale, payments, attendances, Books.withoutUse_eq_self.trans ?_⟩
      simp only [Bool.false_eq_true, reduceCtorEq, exists_false, false_or]

namespace Matinee

/-- Someone buys the ticket with the code and pays for it. -/
def discountedSale : List (Action MemoryLedger) :=
  discountedPurchase 4 ++ .settle notification :: List.replicate 3 (.go 1)

/-- The reservation of the ticket that was bought with the code. -/
def discountedReservation : Reservation where
  id := ⟨7⟩
  event
  tickets := [ticket.id]
  hashes := ["A1"]
  visitors := [.empty]
  discount := some code.snapshot
  billedAmount := 50
  createdAt := .ofMilliseconds 0

/-- The gateway tells that the first bill has not been paid. -/
def failure : PaymentNotification := { notification with status := "FAILED" }

/-- The ticket has been sold. -/
theorem discountedSale_sold :
    ⟨.transact (.sell discountedReservation notification), .ok (.sold 1)⟩ ∈
      (previewOpening.after discountedSale).transcript := by
  have sixth : (previewOpening.after discountedSale).transcript[5]? =
    some ⟨.transact (.sell discountedReservation notification), .ok (.sold 1)⟩ := rfl
  exact List.mem_of_getElem? sixth

/-- The store before the payment, with the reservation open. -/
def reopened : Register TrackingId Reservation :=
  (previewOpening.after (discountedPurchase 4)).engine.store

end Matinee

/-- After the sale of the ticket its reservation is in the store again. A second notification of the
payment changes nothing in the books, and the use of the code stays on record. -/
theorem Opening.paid_is_final_matinee :
    Matinee.reopened.get? ⟨7⟩ = some Matinee.discountedReservation ∧
      (((Matinee.previewOpening.after Matinee.discountedSale).engine.withStore
        Matinee.reopened).run (Settlement.settle Matinee.notification)).2.desk.books =
          (Matinee.previewOpening.after Matinee.discountedSale).books ∧
      (Matinee.previewOpening.after Matinee.discountedSale).books.uses =
        [⟨Matinee.code.id, ⟨7⟩⟩] := by
  have reopened : Matinee.reopened.get? ⟨7⟩ = some Matinee.discountedReservation := rfl
  obtain ⟨-, settled⟩ := Matinee.previewOpening.paid_is_final Matinee.discountedSale
    Matinee.discountedSale_sold Matinee.reopened reopened
  obtain ⟨-, -, -, same⟩ := settled Matinee.notification _ _ rfl rfl
  exact ⟨reopened, same.mpr (.inl rfl), by decide⟩

/-- A payment that is recorded is not final: the ticket has been sold and its reservation is in the
store again. When the gateway tells that the bill was not paid, the settlement ends well, the use of
the code is off the record and its counter is back at none. -/
theorem Opening.paid_is_not_final :
    ⟨.transact (.sell Matinee.discountedReservation Matinee.notification), .ok (.sold 1)⟩ ∈
        (Matinee.previewOpening.after Matinee.discountedSale).transcript ∧
      Matinee.reopened.get? Matinee.discountedReservation.id =
        some Matinee.discountedReservation ∧
      Matinee.failure.trackingId = Matinee.discountedReservation.id ∧
      (((Matinee.previewOpening.after Matinee.discountedSale).engine.withStore
        Matinee.reopened).run (Settlement.settle Matinee.failure)).2.desk.books ≠
          (Matinee.previewOpening.after Matinee.discountedSale).books := by
  refine ⟨Matinee.discountedSale_sold, rfl, rfl, fun same => ?_⟩
  have uses := congrArg Books.uses same
  revert uses
  decide

end BoxOffice
