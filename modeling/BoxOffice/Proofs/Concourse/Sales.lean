import BoxOffice.Proofs.Concourse.Chronicle
import BoxOffice.Proofs.Concourse.Consumption

/-!
# Where sales come from

Each payment on record goes back to one settlement, which was notified of it and took a reservation
from the store, and each reservation in the store goes back to a purchase, which held its tickets
and opened it, however often it was taken and put back in between. So who is to come with which
ticket was told by the buyer of the ticket.
-/
namespace BoxOffice

/-- A notification tells of a payment if its status is spelled in one way. -/
theorem PaymentNotification.isPaid_iff {notification : PaymentNotification} :
    notification.isPaid = true ↔ notification.status = "SUCCESSFUL" := by
  simp only [isPaid, decide_eq_true_eq]
  constructor
  · intro found
    simp only [PaymentStatus.ofName?] at found
    split at found <;> first | assumption | contradiction
  · intro spelled
    rw [spelled]
    rfl

/-- A purchase, from the request to the reservation. -/
structure Purchase where
  /-- The number of the call. -/
  buyer : Nat
  /-- What the shop had decided. -/
  settings : CheckoutSettings
  /-- The event. -/
  event : Uuid
  /-- What was asked for. -/
  request : PurchaseRequest
  /-- What was held. -/
  hold : Hold
  /-- When the reservation was opened. -/
  openedAt : Instant

/-- The reservation of a purchase. -/
def Purchase.reservation (purchase : Purchase) : Reservation :=
  Checkout.reservationOf purchase.event purchase.request purchase.hold purchase.openedAt

/-- A sale, from the purchase to the notification. -/
structure Sale where
  /-- The number of the call. -/
  seller : Nat
  /-- The notification of the payment. -/
  notification : PaymentNotification
  /-- The purchase that was paid for. -/
  purchase : Purchase

/-- The record of the payment: what the notification tells, for the event of the purchase. -/
def Sale.payment (sale : Sale) : PaymentRecord where
  id := ⟨sale.notification.billNumber⟩
  event := sale.purchase.event
  amount := sale.notification.amount
  payerName := sale.notification.senderName
  payerEmail := sale.notification.senderEmail
  notification := sale.notification.json

/-- The attendances of a sale: for each ticket of the purchase, in order, the visitor that the buyer
told in the same place. -/
def Sale.attendances (sale : Sale) : List Attendance :=
  List.zipWith (fun ticket visitor => ⟨sale.purchase.event, ticket.id, visitor.json⟩)
    sale.purchase.hold.tickets sale.purchase.request.visitors

section

variable {σ γ : Type} {stock : List Ticket} {chronicle later : Chronicle σ γ}

/-- Whether a purchase has happened according to a chronicle: a call on its errand has held tickets
out of the stock, as many as there are visitors, and has opened the reservation. -/
structure Purchase.IsTold (purchase : Purchase) (stock : List Ticket)
    (chronicle : Chronicle σ γ) : Prop where
  /-- It was the errand of the call. -/
  errand : chronicle.errands[purchase.buyer]? =
    some (.buy purchase.settings purchase.event purchase.request)
  /-- The tickets were held. -/
  held : (purchase.buyer, ⟨.transact (.hold purchase.settings purchase.event purchase.request),
    .ok purchase.hold⟩) ∈ chronicle.log
  /-- The reservation was opened. -/
  opened : (purchase.buyer, ⟨.putReservation purchase.reservation, true⟩) ∈ chronicle.log
  /-- The tickets are those asked for. -/
  serves : purchase.hold.Serves stock purchase.event purchase.request
  /-- There is one visitor for each ticket. -/
  visitors : purchase.request.visitors.length = purchase.hold.tickets.length

/-- Whether a sale has happened according to a chronicle: a call was notified of the payment, has
taken the reservation of a purchase, and has sold it. -/
structure Sale.IsTold (sale : Sale) (stock : List Ticket) (chronicle : Chronicle σ γ) : Prop where
  /-- It was the errand of the call. -/
  errand : chronicle.errands[sale.seller]? = some (.settle sale.notification)
  /-- The notification tells of a payment. -/
  paid : sale.notification.status = "SUCCESSFUL"
  /-- The reservation was taken from the store. -/
  taken : (sale.seller, ⟨.takeReservation ⟨sale.notification.billNumber⟩,
    some sale.purchase.reservation⟩) ∈ chronicle.log
  /-- It was sold. -/
  sold : (sale.seller, ⟨.transact (.sell sale.purchase.reservation sale.notification),
    .ok (.sold sale.purchase.hold.tickets.length)⟩) ∈ chronicle.log
  /-- It goes by the number of the bill. -/
  billed : sale.purchase.hold.bill.trackingId = ⟨sale.notification.billNumber⟩
  /-- The purchase has happened. -/
  purchase : sale.purchase.IsTold stock chronicle

/-- What a purchase was is told by every longer chronicle. -/
theorem Purchase.IsTold.mono {purchase : Purchase} (told : purchase.IsTold stock chronicle)
    (errands : chronicle.errands <+: later.errands) (log : chronicle.log <+: later.log) :
    purchase.IsTold stock later := by
  refine { told with errand := ?_, held := log.subset told.held, opened := log.subset told.opened }
  obtain ⟨more, same⟩ := errands
  obtain ⟨inside, -⟩ := List.getElem?_eq_some_iff.mp told.errand
  rw [← same, List.getElem?_append_left inside]
  exact told.errand

/-- What a sale was is told by every longer chronicle. -/
theorem Sale.IsTold.mono {sale : Sale} (told : sale.IsTold stock chronicle)
    (errands : chronicle.errands <+: later.errands) (log : chronicle.log <+: later.log) :
    sale.IsTold stock later := by
  refine { told with
    errand := ?_
    taken := log.subset told.taken
    sold := log.subset told.sold
    purchase := told.purchase.mono errands log }
  obtain ⟨more, same⟩ := errands
  obtain ⟨inside, -⟩ := List.getElem?_eq_some_iff.mp told.errand
  rw [← same, List.getElem?_append_left inside]
  exact told.errand

/-- Whether a reservation is that of a purchase. -/
def Chronicle.Tells (chronicle : Chronicle σ γ) (stock : List Ticket)
    (reservation : Reservation) : Prop :=
  ∃ purchase : Purchase, purchase.IsTold stock chronicle ∧ purchase.reservation = reservation

/-- Whether all that is in the store or was taken from it goes back to purchases. -/
structure Chronicle.IsTraced (chronicle : Chronicle σ γ) (stock : List Ticket) : Prop where
  /-- Holds hold what was asked for. -/
  held : ∀ (caller : Nat) (settings : CheckoutSettings) (event : Uuid)
    (request : PurchaseRequest) (hold : Hold),
    (caller, ⟨.transact (.hold settings event request), .ok hold⟩) ∈ chronicle.log →
      hold.Serves stock event request
  /-- Each reservation in the store is that of a purchase. -/
  stored : ∀ (id : TrackingId) (reservation : Reservation),
    chronicle.concourse.engine.store.get? id = some reservation →
      chronicle.Tells stock reservation
  /-- Each reservation that was taken goes by the number asked for and is that of a purchase. -/
  taken : ∀ (caller : Nat) (id : TrackingId) (reservation : Reservation),
    (caller, ⟨.takeReservation id, some reservation⟩) ∈ chronicle.log →
      reservation.id = id ∧ chronicle.Tells stock reservation

end

section

variable {σ γ : Type} [Ledger σ] [Bookkeeping σ] [Gateway γ] {engine : Engine σ γ}

/-- What an engine has in its store after an answer was there before or has just been put there. -/
theorem Engine.IsRegular.stored_or_put (regular : engine.IsRegular) (request : Request)
    {id : TrackingId} {reservation : Reservation}
    (found : (Engine.answer request engine).2.store.get? id = some reservation) :
    engine.store.get? id = some reservation ∨
      (⟨request, (Engine.answer request engine).1⟩ : Exchange) =
        ⟨.putReservation reservation, true⟩ := by
  cases request with
  | transact transaction =>
    rw [Engine.answer_transact] at found
    exact .inl found
  | putReservation other =>
    rcases regular.put other with ⟨-, opened⟩ | ⟨-, refused⟩
    · rw [opened] at found ⊢
      rcases Register.get?_insert_eq_some.mp found with ⟨-, rfl⟩ | ⟨-, old⟩
      · exact .inr rfl
      · exact .inl old
    · rw [refused] at found
      exact .inl found
  | takeReservation other =>
    simp only [Engine.answer, Engine.take] at found
    exact .inl (Register.get?_erase_eq_some.mp found).2
  | _ => exact .inl found

omit [Bookkeeping σ] in
/-- What is taken was in the store. -/
theorem Engine.stored_of_taken {request : Request} {id : TrackingId} {reservation : Reservation}
    (taken : (⟨request, (Engine.answer request engine).1⟩ : Exchange) =
      ⟨.takeReservation id, some reservation⟩) :
    engine.store.get? id = some reservation := by
  obtain ⟨rfl, given⟩ := Dialogue.Exchange.mk.inj taken
  exact eq_of_heq given

/-- A request that is sound names one visitor for each ticket. -/
theorem Checkout.visitors_of_check {request : PurchaseRequest}
    (sound : Checkout.check request = .ok ()) :
    (request.visitors.length : Int) = request.amount.toInt := by
  simp only [Checkout.check] at sound
  split at sound
  · cases sound
  · split at sound
    · cases sound
    · split at sound
      · cases sound
      · rename_i same
        exact Decidable.not_not.mp same

variable {stock : List Ticket} {chronicle : Chronicle σ γ}

/-- What is in the store or was taken from it goes back to purchases after every step. -/
theorem Chronicle.IsTraced.step (traced : chronicle.IsTraced stock) (kept : chronicle.IsKept)
    (regular : chronicle.concourse.IsRegular) (stocked : chronicle.concourse.books.stock = stock)
    (action : Action σ) : (chronicle.step action).IsTraced stock := by
  have grows {reservation : Reservation} (told : chronicle.Tells stock reservation) :
      (chronicle.step action).Tells stock reservation := by
    obtain ⟨purchase, told, own⟩ := told
    exact ⟨purchase, told.mono (List.prefix_append _ _) (List.prefix_append _ _), own⟩
  have happens := regular.happens action
  simp only [Chronicle.step] at grows ⊢
  generalize chronicle.concourse.step action = later, chronicle.concourse.begun action = errands,
    chronicle.concourse.asked action = asked at happens grows ⊢
  cases happens with
  | still calls transcript books store =>
    simp only [Option.toList_none, List.append_nil] at grows ⊢
    refine ⟨traced.held, fun id reservation found => ?_, fun caller id reservation member => ?_⟩
    · exact grows (traced.stored id reservation (store ▸ found))
    · obtain ⟨own, told⟩ := traced.taken caller id reservation member
      exact ⟨own, grows told⟩
  | @exchange speaker call request present asked =>
    obtain ⟨errand, given, warrant⟩ := kept.warrant present asked
    simp only [Option.toList_some, List.append_nil] at grows ⊢
    refine ⟨fun caller settings event wish hold member => ?_, fun id reservation found => ?_,
      fun caller id reservation member => ?_⟩
    · rcases List.mem_append.mp member with old | new
      · exact traced.held caller settings event wish hold old
      · have same := (Prod.mk.inj (List.mem_singleton.mp new)).2
        have deed := regular.engine.deed request
        rw [← same] at deed
        exact stocked ▸ deed.2.2
    · rcases regular.engine.stored_or_put request found with before | put
      · exact grows (traced.stored id reservation before)
      · rw [put] at warrant grows ⊢
        cases warrant with
        | opening now own sound held =>
          have recorded := Chronicle.mem_heard.mp held
          have serves := traced.held _ _ _ _ _ recorded
          have visitors := Int.ofNat.inj ((Checkout.visitors_of_check sound).trans
            serves.count.symm)
          exact ⟨⟨speaker, _, _, _, _, now⟩, ⟨own ▸ given, List.mem_append_left _ recorded,
            List.mem_append_right _ List.mem_cons_self, serves, visitors⟩, rfl⟩
        | putBack taken => exact grows (traced.taken _ _ _ (Chronicle.mem_heard.mp taken)).2
        | routine plain => contradiction
    · rcases List.mem_append.mp member with old | new
      · obtain ⟨own, told⟩ := traced.taken caller id reservation old
        exact ⟨own, grows told⟩
      · have same := (Prod.mk.inj (List.mem_singleton.mp new)).2
        have found := Engine.stored_of_taken same.symm
        exact ⟨regular.engine.keyed id reservation found,
          grows (traced.stored id reservation found)⟩

/-- An exchange that sold tickets is a sale of some reservation. -/
theorem Exchange.exists_of_isSale {exchange : Exchange} (sale : exchange.isSale = true) :
    ∃ reservation notification tickets, exchange =
      ⟨.transact (.sell reservation notification), .ok (.sold tickets)⟩ := by
  simp only [isSale] at sale
  split at sale
  · exact ⟨_, _, _, rfl⟩
  · cases sale

/-- An exchange that did not sell tickets enters no payment and no attendance. -/
theorem Exchange.Deed.rows_of_not_sale {exchange : Exchange} {books after : Books}
    (deed : exchange.Deed books after) (plain : exchange.isSale = false) :
    after.payments = books.payments ∧ after.attendances = books.attendances := by
  rcases deed.eq_or with rfl | ⟨transaction, value, rfl, deed⟩
  · exact ⟨rfl, rfl⟩
  · have none : transaction.rows value = ([], []) := by
      cases transaction with
      | sell reservation notification =>
        cases value with
        | sold tickets => cases plain
        | released tickets => rfl
        | duplicate => rfl
      | _ => rfl
    have rows := deed.rows
    simp only [none, List.append_nil] at rows
    exact rows

/-- The record that a sale enters is that of the payment it was notified of. -/
theorem Sale.payment_eq (sale : Sale)
    (billed : sale.purchase.hold.bill.trackingId = ⟨sale.notification.billNumber⟩) :
    Transaction.paymentRecord sale.purchase.reservation sale.notification = sale.payment := by
  simp only [Transaction.paymentRecord, payment, Purchase.reservation, Checkout.reservationOf,
    billed]

/-- The attendances that a sale enters are those of the visitors and tickets of the purchase. -/
theorem Sale.attendances_eq (sale : Sale) :
    attendancesOf sale.purchase.reservation.event sale.purchase.reservation.tickets
      sale.purchase.reservation.visitors = sale.attendances := by
  simp only [attendancesOf, attendances, Purchase.reservation, Checkout.reservationOf,
    List.zip, List.map_zipWith, List.zipWith_map_left]

/-- Whether some sales are all there have been: they account for all payments and attendances, each
was made by a different call, and the calls are those that had an exchange that sold tickets. -/
structure Chronicle.Lists (chronicle : Chronicle σ γ) (stock : List Ticket)
    (sales : List Sale) : Prop where
  /-- The payments are those of the sales. -/
  payments : chronicle.concourse.books.payments = sales.map Sale.payment
  /-- The attendances are those of the sales. -/
  attendances : chronicle.concourse.books.attendances = sales.flatMap Sale.attendances
  /-- The sales are the exchanges that sold tickets. -/
  sellers : sales.map (·.seller) =
    (chronicle.log.filter fun entry => entry.2.isSale).map (·.1)
  /-- No call has made two sales. -/
  once : (sales.map (·.seller)).Nodup
  /-- Each sale has happened. -/
  told : ∀ sale ∈ sales, sale.IsTold stock chronicle

omit [Gateway γ] in
/-- The calls that made sales are those that had an exchange that sold tickets. -/
theorem Chronicle.Lists.mem_sellers {sales : List Sale} (lists : chronicle.Lists stock sales)
    (caller : Nat) :
    caller ∈ sales.map (·.seller) ↔ (chronicle.heard caller).any Exchange.isSale = true := by
  rw [lists.sellers, List.any_eq_true]
  constructor
  · intro among
    obtain ⟨entry, member, rfl⟩ := List.mem_map.mp among
    obtain ⟨member, sale⟩ := List.mem_filter.mp member
    exact ⟨entry.2, Chronicle.mem_heard.mpr member, sale⟩
  · rintro ⟨exchange, heard, sale⟩
    refine List.mem_map.mpr ⟨(caller, exchange), List.mem_filter.mpr ⟨?_, sale⟩, rfl⟩
    exact Chronicle.mem_heard.mp heard

omit [Gateway γ] in
/-- A sale more is listed if it enters its payment and its attendances and its call has made none
before. -/
theorem Chronicle.Lists.add {later : Chronicle σ γ} {sales : List Sale} {sale : Sale}
    {exchange : Exchange} (lists : chronicle.Lists stock sales)
    (payments : later.concourse.books.payments =
      chronicle.concourse.books.payments ++ [sale.payment])
    (attendances : later.concourse.books.attendances =
      chronicle.concourse.books.attendances ++ sale.attendances)
    (log : later.log = chronicle.log ++ [(sale.seller, exchange)])
    (isSale : exchange.isSale = true) (silent : (chronicle.heard sale.seller).any Exchange.isSale =
      false)
    (told : ∀ other ∈ sales, other.IsTold stock later) (new : sale.IsTold stock later) :
    later.Lists stock (sales ++ [sale]) := by
  have fresh : sale.seller ∉ sales.map (·.seller) := by
    rw [lists.mem_sellers, silent]
    exact Bool.false_ne_true
  refine ⟨?_, ?_, ?_, ?_, ?_⟩
  · rw [payments, lists.payments, List.map_append, List.map_singleton]
  · rw [attendances, lists.attendances, List.flatMap_append, List.flatMap_singleton]
  · have listed : [(sale.seller, exchange)].filter (fun entry => entry.2.isSale) =
        [(sale.seller, exchange)] := List.filter_cons_of_pos isSale
    rw [log, List.filter_append, listed, List.map_append, List.map_append, lists.sellers]
    rfl
  · rw [List.map_append]
    refine List.Nodup.append lists.once (List.nodup_singleton _) fun seller early late => ?_
    obtain rfl : seller = sale.seller := List.mem_singleton.mp late
    exact fresh early
  · intro other member
    rcases List.mem_append.mp member with old | last
    · exact told other old
    · exact List.mem_singleton.mp last ▸ new

/-- After every step there is a list of all sales. -/
theorem Chronicle.Lists.step {sales : List Sale} (lists : chronicle.Lists stock sales)
    (traced : chronicle.IsTraced stock) (kept : chronicle.IsKept)
    (regular : chronicle.concourse.IsRegular) (action : Action σ) :
    ∃ sales, (chronicle.step action).Lists stock sales := by
  have grows (sale : Sale) (member : sale ∈ sales) : sale.IsTold stock (chronicle.step action) :=
    (lists.told sale member).mono (List.prefix_append _ _) (List.prefix_append _ _)
  have happens := regular.happens action
  simp only [Chronicle.step] at grows ⊢
  generalize chronicle.concourse.step action = later, chronicle.concourse.begun action = errands,
    chronicle.concourse.asked action = asked at happens grows ⊢
  cases happens with
  | still calls transcript books store =>
    simp only [Option.toList_none, List.append_nil] at grows ⊢
    exact ⟨sales, books ▸ lists.payments, books ▸ lists.attendances, lists.sellers, lists.once,
      grows⟩
  | @exchange speaker call request present asked =>
    obtain ⟨errand, given, warrant⟩ := kept.warrant present asked
    have deed := regular.engine.deed request
    simp only [Option.toList_some, List.append_nil] at grows ⊢
    cases sale : Exchange.isSale
        ⟨request, (Engine.answer request chronicle.concourse.engine).1⟩ with
    | false =>
      obtain ⟨payments, attendances⟩ := deed.rows_of_not_sale sale
      refine ⟨sales, payments.trans lists.payments, attendances.trans lists.attendances, ?_,
        lists.once, grows⟩
      simp only [List.filter_append, List.filter_cons, sale, Bool.false_eq_true, ↓reduceIte,
        List.filter_nil, List.append_nil]
      exact lists.sellers
    | true =>
      obtain ⟨reservation, notification, tickets, same⟩ := Exchange.exists_of_isSale sale
      obtain ⟨rfl, -⟩ := Dialogue.Exchange.mk.inj same
      rw [same] at deed grows ⊢
      cases warrant with
      | routine plain => cases plain
      | sell own paid taken first =>
        obtain ⟨billed, purchase, bought, rfl⟩ :=
          traced.taken _ _ _ (Chronicle.mem_heard.mp taken)
        rcases deed with ⟨again, -⟩ | ⟨outcome, sold, entered⟩
        · cases again
        · obtain rfl : tickets = purchase.hold.tickets.length := by
            rw [SettlementOutcome.sold.inj outcome]
            exact List.length_map _
          have before := List.prefix_append chronicle.log [(speaker, (⟨.transact (.sell
            purchase.reservation notification),
              .ok (.sold purchase.hold.tickets.length)⟩ : Exchange))]
          have payments := entered.payments
          have attendances := entered.attendances
          rw [Sale.payment_eq ⟨speaker, notification, purchase⟩ billed] at payments
          rw [Sale.attendances_eq ⟨speaker, notification, purchase⟩] at attendances
          exact ⟨_, lists.add payments attendances rfl rfl first grows
            ⟨own ▸ given, PaymentNotification.isPaid_iff.mp paid,
              before.subset (Chronicle.mem_heard.mp taken),
              List.mem_append_right _ List.mem_cons_self, billed,
              bought.mono List.prefix_rfl before⟩⟩

end

/-- A program that has come to the end of tickets sold or released is going to end so. -/
theorem phaseOf_eq_consumed {α : Type} {finish : α → Phase} {program : Program α}
    {id : TrackingId} {fate : Fate} (come : phaseOf finish program = .consumed id fate) :
    ∃ value, finish value = .consumed id fate := by
  induction program with
  | done value => exact ⟨value, come⟩
  | ask question next ih =>
    cases question with
    | transact transaction => cases transaction <;> cases come
    | resolve other =>
      simp only [phaseOf] at come
      split at come
      · cases come
      · exact ih () come
    | deliver mail => exact ih () come
    | publish event => exact ih () come
    | wallClock => exact ih _ come
    | _ => cases come

/-- A call that has sold tickets has done so on its errand. -/
theorem Call.Follows.hasSold_iff {past : List Exchange} {errand : Errand} {call : Call}
    (follows : call.Follows past errand) (id : TrackingId) :
    call.phase.consumption? = some (id, .sold) ↔
      errand.hasSold call.phase = true ∧ errand.id? = some id := by
  have own (come : call.phase = .consumed id .sold) : errand.id? = some id := by
    cases follows with
    | purchase =>
      obtain ⟨value, ending⟩ := phaseOf_eq_consumed come
      cases value <;> cases ending
    | settlement =>
      obtain ⟨value, ending⟩ := phaseOf_eq_consumed come
      rcases value with abort | (tickets | tickets | _) <;> cases ending
      rfl
    | release =>
      obtain ⟨value, ending⟩ := phaseOf_eq_consumed come
      rcases value with abort | (tickets | _ | _) <;> cases ending
    | timer =>
      obtain ⟨value, ending⟩ := phaseOf_eq_consumed come
      rcases value with abort | (tickets | _ | _) <;> cases ending
  cases come : call.phase with
  | consumed other fate =>
    rw [come] at own
    cases fate with
    | released => simp [Phase.consumption?, Errand.hasSold]
    | sold =>
      simp only [Phase.consumption?, Errand.hasSold, Option.some.injEq, Prod.mk.injEq, and_true,
        decide_eq_true_eq]
      constructor
      · intro same
        have own := own (same ▸ rfl)
        exact ⟨same ▸ own, own⟩
      · rintro ⟨first, second⟩
        exact Option.some.inj (first.symm.trans second)
  | _ => simp [Phase.consumption?, Errand.hasSold]

variable {σ γ : Type} [Ledger σ] [Bookkeeping σ] [Gateway γ]

/-- Whatever has happened, there is a list of all sales. -/
theorem Opening.lists_after (opening : Opening σ γ) (actions : List (Action σ)) :
    ∃ sales, (opening.chronicle actions).Lists (Bookkeeping.books opening.ledger).stock sales := by
  refine (opening.chronicle_induction (fun chronicle =>
    chronicle.IsTraced (Bookkeeping.books opening.ledger).stock ∧
      ∃ sales, chronicle.Lists (Bookkeeping.books opening.ledger).stock sales) ?_
    (fun actions action before => ?_) actions).2
  · refine ⟨⟨fun caller settings event request hold member => ?_, fun id reservation found => ?_,
      fun caller id reservation member => ?_⟩, [], opening.unpaid, opening.unattended, rfl,
      List.nodup_nil, List.forall_mem_nil _⟩
    · exact absurd member List.not_mem_nil
    · cases found
    · exact absurd member List.not_mem_nil
  · obtain ⟨traced, sales, lists⟩ := before
    have kept := opening.chronicle_kept actions
    have regular := opening.after_regular actions
    have stocked := (opening.custody_after actions).stocked
    rw [← opening.chronicle_concourse] at regular stocked
    exact ⟨traced.step kept regular stocked action, lists.step traced kept regular action⟩

/-- Each sale can be traced. Whatever has happened, there are some sales, no two of them made by the
same call, and each as a chronicle tells it: a settlement that was notified of a payment took the
reservation of a purchase and sold it. The payments on record are those of the sales and the
attendances are those of their visitors, in the order of the tickets that were bought; there are no
others. The calls that made the sales are those that have come to the end of tickets sold, and among
the calls that are over they are those that ended so. -/
theorem Opening.sales_traced (opening : Opening σ γ) (actions : List (Action σ)) :
    ∃ sales : List Sale,
      (opening.after actions).books.payments = sales.map Sale.payment ∧
      (opening.after actions).books.attendances = sales.flatMap Sale.attendances ∧
      (sales.map (·.seller)).Nodup ∧
      (∀ sale ∈ sales,
        sale.IsTold (Bookkeeping.books opening.ledger).stock (opening.chronicle actions)) ∧
      ∀ caller call, (opening.after actions).calls[caller]? = some call →
        (∀ id, call.phase.consumption? = some (id, .sold) ↔
          ∃ sale ∈ sales, sale.seller = caller ∧ sale.payment.id = id) ∧
        (call.isOver = true → (call.brings .sold = true ↔ caller ∈ sales.map (·.seller))) := by
  obtain ⟨sales, lists⟩ := opening.lists_after actions
  have kept := opening.chronicle_kept actions
  have payments := lists.payments
  have attendances := lists.attendances
  rw [opening.chronicle_concourse] at payments attendances
  refine ⟨sales, payments, attendances, lists.once, lists.told, fun caller call present => ?_⟩
  rw [← opening.chronicle_concourse] at present
  obtain ⟨inside, -⟩ := List.getElem?_eq_some_iff.mp present
  obtain ⟨errand, given⟩ : ∃ errand, (opening.chronicle actions).errands[caller]? = some errand :=
    ⟨_, List.getElem?_eq_getElem (kept.begun ▸ inside)⟩
  have follows := kept.follows _ _ _ given present
  have sold : caller ∈ sales.map (·.seller) ↔ errand.hasSold call.phase = true := by
    rw [lists.mem_sellers, follows.sold]
  have ended (id : TrackingId) : call.phase.consumption? = some (id, .sold) ↔
      ∃ sale ∈ sales, sale.seller = caller ∧ sale.payment.id = id := by
    rw [follows.hasSold_iff, ← sold, List.mem_map]
    constructor
    · rintro ⟨⟨sale, member, rfl⟩, about⟩
      obtain rfl := Option.some.inj (given.symm.trans (lists.told sale member).errand)
      exact ⟨sale, member, rfl, Option.some.inj about⟩
    · rintro ⟨sale, member, rfl, rfl⟩
      obtain rfl := Option.some.inj (given.symm.trans (lists.told sale member).errand)
      exact ⟨⟨sale, member, rfl⟩, rfl⟩
  refine ⟨ended, fun finished => ?_⟩
  rw [Call.brings_iff finished, List.mem_map]
  constructor
  · rintro ⟨id, come⟩
    obtain ⟨sale, member, own, -⟩ := (ended id).mp come
    exact ⟨sale, member, own⟩
  · rintro ⟨sale, member, own⟩
    exact ⟨_, (ended _).mpr ⟨sale, member, own, rfl⟩⟩

end BoxOffice
