import BoxOffice.Proofs.Concourse.Custody
import BoxOffice.Proofs.Engine.Clearing
import BoxOffice.Proofs.Ledger.Undo

/-!
# Engines that are sound

At an engine with a ledger in memory tickets are bought and reservations are cleared, and the
ledger may be made to fail anywhere. Whatever the gateway numbers its bills, a purchase either
holds tickets and opens a reservation for them or leaves the books as they were, and a clearing
does one of four things. So the tickets stay in custody of the open reservations, and no code
counts fewer than no uses.
-/
namespace BoxOffice

/-- What is in custody is so with respect to the stock there is. -/
theorem Custody.restock {stock : List Ticket} {books : Books} {live : List Holding}
    (custody : Custody stock books live) : Custody books.stock books live :=
  { custody with stocked := rfl }

/-- No counter becomes negative by an amendment. -/
theorem Books.IsTallied.amend {books : Books} (tallied : books.IsTallied) (amendment : Amendment) :
    (books.amend amendment).IsTallied := by
  have returned : (books.returning amendment.returned).IsTallied := by
    cases amendment.returned with
    | none => exact tallied
    | some id => exact tallied.withoutUse id
  exact returned.congr rfl

namespace Engine

variable {γ : Type}

/-- What the open reservations of an engine hold. -/
def holdings {σ : Type} (engine : Engine σ γ) : List Holding :=
  engine.store.values.map Reservation.holding

/-- Whether an engine can be relied on, its tickets are in custody of the open reservations, and no
code counts fewer than no uses. -/
structure IsSound (engine : Engine MemoryLedger γ) : Prop where
  /-- It can be relied on. -/
  regular : engine.IsRegular
  /-- The tickets are in custody. -/
  custody : Custody engine.desk.books.stock engine.desk.books engine.holdings
  /-- No code counts fewer than no uses. -/
  tallied : engine.desk.books.IsTallied

variable {engine later : Engine MemoryLedger γ}

/-- Engines that can be relied on are tidy. -/
theorem IsSound.tidy (sound : engine.IsSound) : engine.IsTidy :=
  sound.regular.tidy

/-- An engine with the same books and store is sound as well. -/
theorem IsSound.congr (sound : engine.IsSound) (books : later.desk.books = engine.desk.books)
    (store : later.store = engine.store) : later.IsSound := by
  refine ⟨⟨trivial, ?_, ?_⟩, ?_, ?_⟩
  · rw [books]
    exact sound.regular.returnable
  · rw [store]
    exact sound.regular.keyed
  · unfold holdings
    rw [books, store]
    exact sound.custody
  · rw [books]
    exact sound.tallied

/-- A reservation that is open holds its tickets beside all others. -/
theorem holdings_of_found {id : TrackingId} {reservation : Reservation}
    (found : engine.store.get? id = some reservation) :
    engine.holdings.Perm
      (reservation.holding :: (engine.store.erase id).values.map Reservation.holding) :=
  (Register.values_erase found).map _

variable [Gateway γ]

/-- A sale that comes of a settlement sells the tickets. -/
theorem judge_sold {notification : PaymentNotification} {reservation : Reservation} {tickets : Nat}
    {desk : Desk MemoryLedger γ}
    (sold : (Clearing.judgeSettlement notification (some reservation) desk).1 =
      .ok (.sold tickets)) :
    desk.books.Sold reservation
      (Clearing.judgeSettlement notification (some reservation) desk).2.books := by
  simp only [Clearing.judgeSettlement] at sold ⊢
  by_cases paid : notification.isPaid = true
  · simp only [paid, ↓reduceIte] at sold ⊢
    rcases Desk.perform_deed trivial sold with ⟨again, -, -⟩ | ⟨-, deed, -⟩
    · contradiction
    · exact deed
  · simp only [paid, Bool.false_eq_true, ↓reduceIte] at sold
    cases performed : (desk.perform (.release reservation)).1 with
    | error abort =>
      rw [performed] at sold
      contradiction
    | ok released =>
      rw [performed] at sold
      have same := Except.ok.inj sold
      contradiction

/-- What a clearing makes of the books and the store. -/
inductive Clears (engine : Engine MemoryLedger γ) (id : TrackingId) (books : Books)
    (store : Register TrackingId Reservation) : Prop where
  /-- Nothing has changed. -/
  | kept (same : books = engine.desk.books) (open_ : store = engine.store)
  /-- The reservation is gone and nothing else. -/
  | forgotten (reservation : Reservation) (found : engine.store.get? id = some reservation)
    (same : books = engine.desk.books) (taken : store = engine.store.erase id)
  /-- The tickets of the reservation are available again. -/
  | released (reservation : Reservation) (found : engine.store.get? id = some reservation)
    (freed : books = engine.desk.books.freed reservation.tickets reservation.id)
    (taken : store = engine.store.erase id)
  /-- The tickets of the reservation are sold. -/
  | sold (reservation : Reservation) (found : engine.store.get? id = some reservation)
    (sold : engine.desk.books.Sold reservation books) (taken : store = engine.store.erase id)

omit [Gateway γ] in
/-- A release leaves the reservation as it was, or it is gone, with its tickets available or not. -/
theorem clears_of_release {id : TrackingId}
    (judged : Except Abort ReapOutcome × Desk MemoryLedger γ)
    (books : judged.2.books = engine.desk.books.amend
      (Clearing.releaseAmendment (engine.store.get? id) judged.1)) :
    engine.Clears id judged.2.books (engine.cleared (.reap id) judged).store := by
  obtain ⟨result, desk⟩ := judged
  cases found : engine.store.get? id with
  | none =>
    rw [found] at books
    apply Clears.kept (books.trans (Amendment.amend_nothing _))
    show (if _ then engine.store.erase id else engine.store) = engine.store
    rw [Register.erase_of_absent found, ite_self]
  | some reservation =>
    rw [found] at books
    rcases result with (refusal | overflow) | ⟨tickets | _ | _⟩
    · exact .kept (books.trans (Amendment.amend_nothing _)) rfl
    · exact .forgotten reservation found (books.trans (Amendment.amend_nothing _)) rfl
    · exact .released reservation found (books.trans (Amendment.amend_release _ _)) rfl
    · exact .kept (books.trans (Amendment.amend_nothing _)) rfl
    · exact .forgotten reservation found (books.trans (Amendment.amend_nothing _)) rfl

omit [Gateway γ] in
/-- A settlement leaves the reservation as it was, or it is gone, with its tickets sold or available
or neither. -/
theorem clears_of_settlement {notification : PaymentNotification}
    (judged : Except Abort SettlementOutcome × Desk MemoryLedger γ)
    (books : judged.2.books = engine.desk.books.amend (Clearing.settlementAmendment notification
      (engine.store.get? notification.trackingId) judged.1))
    (sold : ∀ reservation tickets,
      engine.store.get? notification.trackingId = some reservation →
        judged.1 = .ok (.sold tickets) → engine.desk.books.Sold reservation judged.2.books) :
    engine.Clears notification.trackingId judged.2.books
      (engine.cleared (.settle notification) judged).store := by
  obtain ⟨result, desk⟩ := judged
  cases found : engine.store.get? notification.trackingId with
  | none =>
    rw [found] at books
    apply Clears.kept (books.trans (Amendment.amend_nothing _))
    show (if _ then engine.store.erase notification.trackingId else engine.store) = engine.store
    rw [Register.erase_of_absent found, ite_self]
  | some reservation =>
    rw [found] at books
    rcases result with (refusal | overflow) | ⟨tickets | tickets | _⟩
    · exact .kept (books.trans (Amendment.amend_nothing _)) rfl
    · exact .forgotten reservation found (books.trans (Amendment.amend_nothing _)) rfl
    · exact .sold reservation found (sold reservation tickets found rfl) rfl
    · exact .released reservation found (books.trans (Amendment.amend_release _ _)) rfl
    · exact .forgotten reservation found (books.trans (Amendment.amend_nothing _)) rfl

omit [Gateway γ] in
/-- The store is the same whether a reservation is released on demand or by its timer. -/
theorem store_cleared_reap (engine : Engine MemoryLedger γ) (id : TrackingId)
    (judged : Except Abort ReapOutcome × Desk MemoryLedger γ) :
    (engine.cleared (.reap id) judged).store = (engine.cleared (.expire id) judged).store := by
  rcases judged with ⟨(refusal | overflow) | outcome, desk⟩ <;> rfl

/-- What a clearing makes of the books and the store is one of four things. -/
theorem clears (engine : Engine MemoryLedger γ) (clearing : Clearing) :
    engine.Clears clearing.id (engine.judge clearing).2.books
      (engine.cleared clearing (engine.judge clearing)).store := by
  have faithful : engine.desk.IsFaithful := trivial
  have books := Clearing.judge_books clearing (engine.store.get? clearing.id) faithful
  cases clearing with
  | settle notification =>
    refine clears_of_settlement (engine.judge (.settle notification)) books ?_
    intro reservation tickets found result
    unfold judge Clearing.judge at result ⊢
    simp only [Clearing.id, found] at result ⊢
    exact judge_sold result
  | reap id => exact clears_of_release (engine.judge (.reap id)) books
  | expire id =>
    have cleared := clears_of_release (engine.judge (.reap id)) books
    rw [engine.store_cleared_reap] at cleared
    exact cleared

omit [Gateway γ] in
/-- Tickets stay in custody whatever comes of a clearing. -/
theorem Clears.custody {stock : List Ticket} {id : TrackingId} {books : Books}
    {store : Register TrackingId Reservation} (clears : engine.Clears id books store)
    (custody : Custody stock engine.desk.books engine.holdings) :
    Custody stock books (store.values.map Reservation.holding) := by
  cases clears with
  | kept same open_ =>
    rw [same, open_]
    exact custody
  | forgotten reservation found same taken =>
    rw [same, taken]
    exact (custody.of_perm (holdings_of_found found)).drop
  | released reservation found freed taken =>
    obtain ⟨tickets, -, attendances⟩ :=
      engine.desk.books.freed_frame reservation.tickets reservation.id
    rw [freed, taken]
    exact (custody.of_perm (holdings_of_found found)).free tickets attendances
  | sold reservation found sold taken =>
    rw [taken]
    exact (custody.of_perm (holdings_of_found found)).sell sold

/-- An engine that can be relied on can be relied on whatever is carried out. -/
theorem IsRegular.run_regular {α : Type} (regular : engine.IsRegular) (program : Program α) :
    (engine.run program).2.IsRegular :=
  run_induction (fun _ request regular => regular.answer request) program regular

/-- A clearing keeps an engine sound. -/
theorem IsSound.run_clearing (sound : engine.IsSound) (clearing : Clearing) :
    (engine.run clearing.program).2.IsSound := by
  have regular := sound.regular.run_regular clearing.program
  have books := Clearing.judge_books clearing (engine.store.get? clearing.id)
    sound.regular.faithful
  rw [sound.tidy.run_clearing clearing] at regular ⊢
  refine ⟨regular, ((engine.clears clearing).custody sound.custody).restock, ?_⟩
  show (clearing.judge (engine.store.get? clearing.id) engine.desk).2.books.IsTallied
  rw [books]
  exact sound.tallied.amend _

/-- What comes of a purchase, with its result. -/
inductive Purchased (engine : Engine MemoryLedger γ) (event : Uuid) (request : PurchaseRequest) :
    Except Abort Receipt × Engine MemoryLedger γ → Prop where
  /-- Nothing has changed but what the gateway remembers. -/
  | failed (abort : Abort) (desk : Desk MemoryLedger γ) (same : desk.books = engine.desk.books) :
    Purchased engine event request (.error abort, { engine with desk })
  /-- The tickets asked for are held, their reservation is open, and its timer is to be armed. -/
  | bought (hold : Hold) (desk : Desk MemoryLedger γ)
    (checked : Checkout.check request = .ok ())
    (serves : hold.Serves engine.desk.books.stock event request)
    (held : engine.desk.books.Held hold desk.books)
    (redeemed : engine.desk.books.Redeemed hold desk.books)
    (absent : engine.store.get? hold.id = none) :
    Purchased engine event request (.ok (Checkout.receiptOf event request hold),
      { engine with
        desk
        store := engine.store.insert hold.id (Checkout.reservationOf event request hold desk.now)
        commands := engine.commands ++ [.schedule hold.id (engine.clock + engine.delay)] })

/-- A purchase whose reservation could not be opened leaves the books as they were before it. -/
theorem IsSound.run_afterPut_refused (sound : engine.IsSound) {settings : CheckoutSettings}
    {event : Uuid} {request : PurchaseRequest} {hold : Hold}
    (done : (engine.desk.perform (.hold settings event request)).1 = .ok hold) :
    engine.Purchased event request
      ({ engine with desk := (engine.desk.perform (.hold settings event request)).2 }.run
        (Checkout.afterPut event request hold false)) := by
  obtain ⟨held, redeemed, -⟩ := Desk.perform_deed sound.regular.faithful done
  obtain ⟨changes, commits⟩ := Desk.sound_of_hold done
  have returnable := sound.regular.returnable.redeemed redeemed held.uses
  rw [← Desk.perform_failing (.hold settings event request) engine.desk] at changes commits
  generalize (engine.desk.perform (.hold settings event request)).2 = desk at *
  have faithful : desk.IsFaithful := trivial
  have undone := Desk.perform_undoHold_of_sound changes commits returnable hold.id hold.ticketIds
    hold.discount.isSome
  have back := Desk.perform_deed faithful undone
  have same : (desk.perform (.undoHold hold.id hold.ticketIds hold.discount.isSome)).2.books =
      engine.desk.books :=
    Eq.trans back (held.undone redeemed sound.custody.distinct sound.tallied)
  have ran : { engine with desk }.run (Checkout.afterPut event request hold false) =
      (.error (.ofFault (.reservationOpen hold.id)),
        { engine with
          desk := (desk.perform (.undoHold hold.id hold.ticketIds hold.discount.isSome)).2 }) := by
    show Engine.run (.ask (.transact (.undoHold hold.id hold.ticketIds hold.discount.isSome))
      (Checkout.afterUndo hold.id)) { engine with desk } = _
    rw [run_ask, answer_transact, undone]
    rfl
  rw [ran]
  exact .failed _ _ same

/-- A purchase holds tickets and opens a reservation for them, or it changes nothing. -/
theorem IsSound.run_purchase (sound : engine.IsSound) (settings : CheckoutSettings) (event : Uuid)
    (request : PurchaseRequest) :
    engine.Purchased event request (engine.run (Checkout.buy settings event request)) := by
  unfold Checkout.buy
  cases checked : Checkout.check request with
  | error refusal => exact .failed (.refused refusal) engine.desk rfl
  | ok _ =>
    show engine.Purchased event request (engine.run
      (.ask (.transact (.hold settings event request)) (Checkout.afterHold event request)))
    rw [run_ask, answer_transact]
    cases done : (engine.desk.perform (.hold settings event request)).1 with
    | error abort => exact .failed abort _ (Desk.perform_error sound.regular.faithful done)
    | ok hold =>
      have refused := sound.run_afterPut_refused done
      obtain ⟨held, redeemed, serves⟩ := Desk.perform_deed sound.regular.faithful done
      generalize (engine.desk.perform (.hold settings event request)).2 = desk at *
      let middle : Engine MemoryLedger γ := { engine with desk }
      let reservation := Checkout.reservationOf event request hold desk.now
      show engine.Purchased event request (middle.run
        (.ask (.putReservation reservation) (Checkout.afterPut event request hold)))
      rw [run_ask]
      cases present : engine.store.get? hold.id with
      | none =>
        have absent : middle.store.get? reservation.id = none := present
        rw [answer_put_absent absent]
        exact .bought hold desk checked serves held redeemed present
      | some other =>
        have found : middle.store.get? reservation.id = some other := present
        rw [answer_put_present found]
        exact refused

/-- A purchase keeps an engine sound. -/
theorem IsSound.run_buy (sound : engine.IsSound) (settings : CheckoutSettings) (event : Uuid)
    (request : PurchaseRequest) : (engine.run (Checkout.buy settings event request)).2.IsSound := by
  have regular := sound.regular.run_regular (Checkout.buy settings event request)
  have purchased := sound.run_purchase settings event request
  generalize engine.run (Checkout.buy settings event request) = ran at *
  cases purchased with
  | failed abort desk same => exact sound.congr same rfl
  | bought hold desk checked serves held redeemed absent =>
    let reservation := Checkout.reservationOf event request hold desk.now
    have added : ((engine.store.insert hold.id reservation).values.map
        Reservation.holding).Perm (hold.holding :: engine.holdings) :=
      (Register.values_insert reservation absent).map Reservation.holding
    refine ⟨regular, ?_, ?_⟩
    · exact ((sound.custody.hold held).of_perm added.symm).restock
    · exact sound.tallied.redeemed redeemed

end Engine

end BoxOffice
