import BoxOffice.Proofs.Ledger.Success
import BoxOffice.Proofs.Turn

/-!
# What is settled before a bill is asked for

A hold is drafted on the books alone: the discount that a request is granted, the tickets that are
offered, the price and until when the bill can be paid. `Books.draft` is the draft, or why there is
none. With a ledger in memory whose changes of tickets are not made to fail, the work of a hold
comes to its draft and asks for its bill, or it ends for the same reason and the gateway hears
nothing.
-/
namespace BoxOffice

/-- What is settled of a hold when its bill is asked for. -/
structure Draft where
  /-- The discount. -/
  discount : Option DiscountSnapshot
  /-- The tickets, now held. -/
  tickets : List Ticket
  /-- The price. -/
  price : PriceQuote
  /-- Until when the bill can be paid. -/
  expiry : Instant

namespace Draft

/-- The bill that is asked for. -/
def billRequest (draft : Draft) (settings : CheckoutSettings) (request : PurchaseRequest) :
    BillRequest :=
  Transaction.billRequest settings request.ticketName draft.price.total draft.expiry

/-- The work of a hold up to its bill. -/
def work (settings : CheckoutSettings) (event : Uuid) (request : PurchaseRequest) :
    Attempt Draft := do
  let discount ← Transaction.redeemEntered request
  let tickets ← Inventory.reserve event request.ticketName request.amount
  let price ← Attempt.compute (PriceQuote.compute ((tickets.head?.map (·.price)).getD 0)
    request.amount (discount.map (·.percentage)) settings.feePerTicket)
  let now ← Attempt.wallClock
  let expiry ← Attempt.compute (now.addMinutes settings.billMinutes)
  return { discount, tickets, price, expiry }

/-- The work of a hold from its bill on. -/
def bill (draft : Draft) (settings : CheckoutSettings) (request : PurchaseRequest) :
    Attempt Hold := do
  let bill ← Attempt.createBill (draft.billRequest settings request)
  Transaction.recordUse draft.discount bill
  return { tickets := draft.tickets, discount := draft.discount, price := draft.price, bill }

/-- The work of a hold drafts it and then bills it. -/
theorem work_bill (settings : CheckoutSettings) (event : Uuid) (request : PurchaseRequest) :
    Transaction.holdWork settings event request =
      work settings event request >>= fun draft => draft.bill settings request := by
  simp only [Transaction.holdWork, work, bill, billRequest, bind_assoc, pure_bind]

end Draft

/-- A ticket once it is held. -/
def Ticket.held (ticket : Ticket) : Ticket := { ticket with status := .pending }

/-- Tickets keep their identifiers when they are held. -/
theorem Ticket.map_id_held (tickets : List Ticket) :
    (tickets.map held).map (·.id) = tickets.map (·.id) :=
  List.map_map.trans rfl

namespace Books

variable {books : Books} {now : Instant} {event : Uuid} {request : PurchaseRequest}

/-- The discount of the code with some text. -/
def redeem (books : Books) (now : Instant) (code : String) : Except Refusal DiscountSnapshot :=
  match books.referralCode code with
  | none => .error (.referralNotFound code)
  | some referral =>
    if !referral.isValidAt now then .error (.referralExpired referral.code)
    else if referral.isExhaustedBy referral.currentUses.toInt then
      .error (.referralExhausted referral.code)
    else if referral.isExhaustedBy (books.usageCount referral.id) then
      .error (.referralExhausted referral.code)
    else .ok referral.snapshot

/-- The discount that is granted on a request. -/
def grant (books : Books) (now : Instant) (request : PurchaseRequest) :
    Except Refusal (Option DiscountSnapshot) :=
  match request.referralCode with
  | none => .ok none
  | some code => (books.redeem now code).map some

/-- The first tickets of an event and a type that can be held, at most as many as asked for. -/
def allotment (books : Books) (event : Uuid) (request : PurchaseRequest) : List Ticket :=
  (books.availableTickets event request.ticketName).take request.amount.toInt.toNat

/-- The tickets that are offered on a request. -/
def offer (books : Books) (event : Uuid) (request : PurchaseRequest) :
    Except Refusal (List Ticket) :=
  let found := books.allotment event request
  if request.amount.toInt ≤ found.length then .ok found
  else .error (.insufficientInventory request.amount.toInt found.length)

/-- The unit price of a request: that of the first ticket that can be held. -/
def unitPrice (books : Books) (event : Uuid) (request : PurchaseRequest) : Int64 :=
  ((books.availableTickets event request.ticketName).head?.map (·.price)).getD 0

/-- The code that was entered, if there is such a code. -/
def entered? (books : Books) (request : PurchaseRequest) : Option ReferralCode :=
  request.referralCode.bind books.referralCode

/-- The price of a request. -/
def quote (books : Books) (settings : CheckoutSettings) (event : Uuid)
    (request : PurchaseRequest) : Except Overflow PriceQuote :=
  PriceQuote.compute (books.unitPrice event request) request.amount
    ((books.entered? request).map (·.discountPercentage)) settings.feePerTicket

/-- The draft of a hold, or why there is none. -/
def draft (books : Books) (settings : CheckoutSettings) (now : Instant) (event : Uuid)
    (request : PurchaseRequest) : Except Abort Draft := do
  let discount ← (books.grant now request).mapError .refused
  let tickets ← (books.offer event request).mapError .refused
  let price ← (books.quote settings event request).mapError .overflowed
  let expiry ← (now.addMinutes settings.billMinutes).mapError .overflowed
  return { discount, tickets := tickets.map Ticket.held, price, expiry }

/-- A discount that is granted is that of the code that was entered, which there is. -/
theorem discount_of_grant {discount : Option DiscountSnapshot}
    (granted : books.grant now request = .ok discount) :
    discount = (books.entered? request).map (·.snapshot) ∧
      (books.entered? request).isSome = request.referralCode.isSome := by
  simp only [grant, entered?] at granted ⊢
  cases entered : request.referralCode with
  | none =>
    simp only [entered] at granted
    exact ⟨(Except.ok.inj granted).symm, rfl⟩
  | some code =>
    simp only [entered, redeem] at granted
    cases found : books.referralCode code with
    | none =>
      simp only [found] at granted
      contradiction
    | some referral =>
      simp only [found] at granted
      split at granted
      · contradiction
      split at granted
      · contradiction
      split at granted
      · contradiction
      rw [← Except.ok.inj granted, Option.bind_some, found]
      exact ⟨rfl, rfl⟩

/-- A discount that is granted has the percentage of the code that was entered. -/
theorem percentage_of_grant {discount : Option DiscountSnapshot}
    (granted : books.grant now request = .ok discount) :
    discount.map (·.percentage) = (books.entered? request).map (·.discountPercentage) := by
  rw [(discount_of_grant granted).1, Option.map_map]
  rfl

/-- Tickets that are offered are the first that can be held, as many as asked for. -/
theorem offer_eq_ok {tickets : List Ticket} (offered : books.offer event request = .ok tickets) :
    tickets = books.allotment event request ∧ request.amount.toInt ≤ tickets.length := by
  simp only [offer] at offered
  split at offered
  · rename_i enough
    obtain rfl := Except.ok.inj offered
    exact ⟨rfl, enough⟩
  · contradiction

/-- The tickets of a draft are those that are offered, once they are held. -/
theorem held_of_offer {tickets : List Ticket}
    (offered : (books.offer event request).map (·.map Ticket.held) = .ok tickets) :
    tickets = (books.allotment event request).map Ticket.held := by
  cases found : books.offer event request with
  | error refusal =>
    rw [found] at offered
    contradiction
  | ok among =>
    rw [found] at offered
    rw [← (offer_eq_ok found).1]
    exact (Except.ok.inj offered).symm

/-- Tickets that can be held are available. -/
theorem availableTickets_ids (books : Books) (event : Uuid) (name : String) :
    ((books.availableTickets event name).map (·.id)).Sublist (books.idsOf .available) := by
  refine (List.monotone_filter_right _ fun ticket available => ?_).map _
  simp only [isAvailable, Bool.and_eq_true] at available
  exact available.2

/-- Tickets that are offered are available. -/
theorem offered_ids {tickets : List Ticket} (offered : books.offer event request = .ok tickets) :
    (tickets.map (·.id)).Sublist (books.idsOf .available) := by
  rw [(offer_eq_ok offered).1]
  exact ((List.take_sublist _ _).map _).trans (books.availableTickets_ids _ _)

/-- The first ticket that is allotted is the first that can be held. -/
theorem head?_allotment (positive : 0 < request.amount.toInt) :
    (books.allotment event request).head? =
      (books.availableTickets event request.ticketName).head? := by
  have some : request.amount.toInt.toNat ≠ 0 := by omega
  rw [allotment, List.head?_take, if_neg some]

/-- The first of the tickets that are offered has the unit price, also once it is held. -/
theorem unitPrice_of_offer {tickets : List Ticket} (positive : 0 < request.amount.toInt)
    (offered : books.offer event request = .ok tickets) :
    ((tickets.map Ticket.held).head?.map (·.price)).getD 0 = books.unitPrice event request := by
  rw [(offer_eq_ok offered).1, List.head?_map, head?_allotment positive, Option.map_map]
  rfl

variable {settings : CheckoutSettings}

/-- A price that is quoted where enough tickets are left is that of the first ticket allotted. -/
theorem compute_of_quote {price : PriceQuote} (positive : 0 < request.amount.toInt)
    (enough : request.amount.toInt ≤ (books.allotment event request).length)
    (quoted : books.quote settings event request = .ok price) :
    ∃ first ∈ (books.allotment event request).head?,
      PriceQuote.compute first.price request.amount
        ((books.entered? request).map (·.discountPercentage)) settings.feePerTicket =
          .ok price := by
  rw [quote, unitPrice, ← head?_allotment positive] at quoted
  cases first : (books.allotment event request).head? with
  | none =>
    rw [List.head?_eq_none_iff.mp first, List.length_nil] at enough
    omega
  | some ticket =>
    rw [first] at quoted
    exact ⟨ticket, rfl, quoted⟩

/-- A draft holds the tickets that are offered, and takes over the discount that is granted, the
price that is quoted and the time until when the bill can be paid. -/
theorem draft_eq_ok {draft : Draft} :
    books.draft settings now event request = .ok draft ↔
      books.grant now request = .ok draft.discount ∧
        (books.offer event request).map (·.map Ticket.held) = .ok draft.tickets ∧
          books.quote settings event request = .ok draft.price ∧
            now.addMinutes settings.billMinutes = .ok draft.expiry := by
  simp only [Books.draft]
  cases books.grant now request with
  | error refusal => exact ⟨nofun, fun parts => nomatch parts.1⟩
  | ok discount =>
  cases books.offer event request with
  | error refusal => exact ⟨nofun, fun parts => nomatch parts.2.1⟩
  | ok tickets =>
  cases books.quote settings event request with
  | error overflow => exact ⟨nofun, fun parts => nomatch parts.2.2.1⟩
  | ok price =>
  cases now.addMinutes settings.billMinutes with
  | error overflow => exact ⟨nofun, fun parts => nomatch parts.2.2.2⟩
  | ok expiry =>
    constructor
    · intro drafted
      obtain rfl := Except.ok.inj drafted
      exact ⟨rfl, rfl, rfl, rfl⟩
    · rintro ⟨granted, offered, quoted, dated⟩
      obtain ⟨discountOf, ticketsOf, priceOf, expiryOf⟩ := draft
      obtain rfl : discount = discountOf := Except.ok.inj granted
      obtain rfl : tickets.map Ticket.held = ticketsOf := Except.ok.inj offered
      obtain rfl : price = priceOf := Except.ok.inj quoted
      obtain rfl : expiry = expiryOf := Except.ok.inj dated
      rfl

/-- There is no draft where the code is not granted, or else too few tickets are offered. -/
theorem draft_eq_refused {refusal : Refusal} :
    books.draft settings now event request = .error (.refused refusal) ↔
      books.grant now request = .error refusal ∨
        (∃ discount, books.grant now request = .ok discount) ∧
          books.offer event request = .error refusal := by
  simp only [Books.draft]
  cases books.grant now request with
  | error found =>
    constructor
    · intro denied
      obtain rfl : found = refusal := Abort.refused.inj (Except.error.inj denied)
      exact .inl rfl
    · rintro (denied | ⟨⟨discount, granted⟩, -⟩)
      · rw [Except.error.inj denied]
        rfl
      · contradiction
  | ok discount =>
  cases books.offer event request with
  | error found =>
    constructor
    · intro short
      obtain rfl : found = refusal := Abort.refused.inj (Except.error.inj short)
      exact .inr ⟨⟨discount, rfl⟩, rfl⟩
    · rintro (denied | ⟨-, short⟩)
      · contradiction
      · rw [Except.error.inj short]
        rfl
  | ok tickets =>
    refine ⟨fun ended => ?_, ?_⟩
    · cases quoted : books.quote settings event request with
      | error overflow =>
        rw [quoted] at ended
        exact nomatch Except.error.inj ended
      | ok price =>
        cases dated : now.addMinutes settings.billMinutes with
        | error overflow =>
          rw [quoted, dated] at ended
          exact nomatch Except.error.inj ended
        | ok expiry =>
          rw [quoted, dated] at ended
          contradiction
    · rintro (denied | ⟨-, short⟩) <;> contradiction

end Books

namespace Desk

variable {γ : Type} [Gateway γ] {desk later : Desk MemoryLedger γ}

/-- Work goes on where its first part left the desk. -/
theorem Gives.attempt_bind {α β : Type} {work : Attempt α} {value : α}
    (given : desk.Gives work value later) (next : α → Attempt β) :
    desk.attempt (work >>= next) = later.attempt (next value) := by
  unfold Gives at given
  rw [Desk.attempt_bind, given]

/-- Work that ends in its first part has ended. -/
theorem attempt_bind_of_error {α β : Type} {work : Attempt α} {abort : Abort}
    (ended : desk.attempt work = (.error abort, later)) (next : α → Attempt β) :
    desk.attempt (work >>= next) = (.error abort, later) := by
  rw [attempt_bind, ended]

/-- A check gives its result. -/
theorem attempt_check {α : Type} (result : Except Refusal α) :
    desk.attempt (Attempt.check result) = (result.mapError .refused, desk) :=
  rfl

/-- A computation gives its result. -/
theorem attempt_compute {α : Type} (result : Except Overflow α) :
    desk.attempt (Attempt.compute result) = (result.mapError .overflowed, desk) :=
  rfl

/-- A condition is demanded. -/
theorem attempt_demand (condition : Bool) (refusal : Refusal) :
    desk.attempt (Attempt.demand condition refusal) =
      (if condition then .ok () else .error (.refused refusal), desk) := by
  cases condition <;> rfl

/-- The clock gives the time. -/
theorem attempt_wallClock : desk.attempt Attempt.wallClock = (.ok desk.now, desk) :=
  rfl

/-- Redeeming a code only reads the books. -/
theorem attempt_redeem (code : String) (now : Instant) :
    desk.attempt (Redemption.redeem code now) =
      ((desk.ledger.staged.redeem now code).mapError .refused, desk) := by
  have looked : desk.attempt (Attempt.referralCode code) =
      (.ok (desk.ledger.staged.referralCode code), desk) := attempt_consult_answered rfl rfl
  rw [Redemption.redeem, attempt_bind, looked, Books.redeem]
  cases desk.ledger.staged.referralCode code with
  | none => rfl
  | some referral =>
    have counted : desk.attempt (Attempt.usageCount referral.id) =
        (.ok (desk.ledger.staged.usageCount referral.id), desk) := attempt_consult_answered rfl rfl
    simp only [attempt_bind, attempt_check, Redemption.checkWindow, attempt_demand]
    cases referral.isValidAt now with
    | false => rfl
    | true =>
      cases referral.isExhaustedBy referral.currentUses.toInt with
      | true => rfl
      | false =>
        simp only [Bool.not_false, ↓reduceIte, Except.mapError, counted]
        cases referral.isExhaustedBy (desk.ledger.staged.usageCount referral.id) <;> rfl

/-- Redeeming the code that was entered, if any, only reads the books. -/
theorem attempt_redeemEntered (request : PurchaseRequest) (desk : Desk MemoryLedger γ) :
    desk.attempt (Transaction.redeemEntered request) =
      ((desk.ledger.staged.grant desk.now request).mapError .refused, desk) := by
  rw [Transaction.redeemEntered, Books.grant]
  cases request.referralCode with
  | none => rfl
  | some code =>
    simp only [attempt_bind, attempt_wallClock, attempt_redeem]
    cases desk.ledger.staged.redeem desk.now code <;> rfl

/-- Tickets that are offered are held, where changes of tickets are not made to fail. -/
theorem attempt_reserve_offered {event : Uuid} {request : PurchaseRequest} {tickets : List Ticket}
    (passes : .changeTicketStatus ∉ desk.ledger.failing)
    (distinct : desk.ledger.staged.ticketIds.Nodup) (positive : 0 < request.amount.toInt)
    (offered : desk.ledger.staged.offer event request = .ok tickets) :
    desk.attempt (Inventory.reserve event request.ticketName request.amount) =
      (.ok (tickets.map Ticket.held), desk.withStaged
        (desk.ledger.staged.withStatus (tickets.map (·.id)) .available .pending)) := by
  obtain ⟨same, enough⟩ := Books.offer_eq_ok offered
  have looked : desk.attempt (Attempt.availableTickets event request.ticketName request.amount) =
      (.ok tickets, desk) := same ▸ attempt_consult_answered rfl rfl
  have checked : Inventory.checkAmount request.amount = .ok () := by
    rw [Inventory.checkAmount, if_neg (by omega)]
  have available := Books.offered_ids offered
  have counted : desk.ledger.staged.countAmong (tickets.map (·.id)) .available =
      tickets.length := by
    have separate := (Books.idsOf_nodup distinct).sublist available
    rw [Books.countAmong_eq_length distinct separate available.subset, List.length_map]
  have changed : desk.attempt
      (Attempt.changeStatus (tickets.map (·.id)) .available .pending) =
        (.ok tickets.length, desk.withStaged
          (desk.ledger.staged.withStatus (tickets.map (·.id)) .available .pending)) :=
    counted ▸ attempt_consult_answered (MemoryLedger.failureAt?_eq_none rfl passes) rfl
  simp only [Inventory.reserve, attempt_bind, attempt_check, checked, Except.mapError, looked,
    attempt_demand, enough, decide_true, ↓reduceIte, changed, attempt_pure]
  rfl

/-- Where too few tickets can be held none is, and all that can be held are counted. -/
theorem attempt_reserve_short {event : Uuid} {request : PurchaseRequest} {refusal : Refusal}
    (positive : 0 < request.amount.toInt)
    (short : desk.ledger.staged.offer event request = .error refusal) :
    desk.attempt (Inventory.reserve event request.ticketName request.amount) =
      (.error (.refused refusal), desk) := by
  have looked : desk.attempt (Attempt.availableTickets event request.ticketName request.amount) =
      (.ok (desk.ledger.staged.allotment event request), desk) := attempt_consult_answered rfl rfl
  have checked : Inventory.checkAmount request.amount = .ok () := by
    rw [Inventory.checkAmount, if_neg (by omega)]
  simp only [Books.offer] at short
  split at short
  · contradiction
  · rename_i few
    rw [← Except.error.inj short]
    simp only [Inventory.reserve, attempt_bind, attempt_check, checked, Except.mapError, looked,
      attempt_demand, few, decide_false, Bool.false_eq_true, ↓reduceIte]

/-- A hold is drafted as the books tell, and the gateway hears nothing. The tickets of a draft are
held. -/
theorem attempt_draft {settings : CheckoutSettings} {event : Uuid} {request : PurchaseRequest}
    (passes : .changeTicketStatus ∉ desk.ledger.failing)
    (distinct : desk.ledger.staged.ticketIds.Nodup) (positive : 0 < request.amount.toInt) :
    ∃ later, desk.attempt (Draft.work settings event request) =
        (desk.ledger.staged.draft settings desk.now event request, later) ∧
      later.gateway = desk.gateway ∧
      ∀ draft, desk.ledger.staged.draft settings desk.now event request = .ok draft →
        later = desk.withStaged
          (desk.ledger.staged.withStatus (draft.tickets.map (·.id)) .available .pending) := by
  have redeemed := attempt_redeemEntered request desk
  simp only [Books.draft]
  cases granted : desk.ledger.staged.grant desk.now request with
  | error refusal =>
    rw [granted] at redeemed
    exact ⟨desk, attempt_bind_of_error redeemed _, rfl, nofun⟩
  | ok discount =>
  rw [granted] at redeemed
  have redeemed : desk.Gives (Transaction.redeemEntered request) discount desk := redeemed
  rw [Draft.work, redeemed.attempt_bind]
  cases offered : desk.ledger.staged.offer event request with
  | error refusal =>
    exact ⟨desk, attempt_bind_of_error (attempt_reserve_short positive offered) _, rfl, nofun⟩
  | ok tickets =>
  -- the tickets are held from here on, and neither the price nor the date depends on that
  let middle : Desk MemoryLedger γ := desk.withStaged
    (desk.ledger.staged.withStatus (tickets.map (·.id)) .available .pending)
  have reserved : desk.Gives (Inventory.reserve event request.ticketName request.amount)
      (tickets.map Ticket.held) middle := attempt_reserve_offered passes distinct positive offered
  rw [reserved.attempt_bind, Books.unitPrice_of_offer positive offered,
    Books.percentage_of_grant granted, ← Books.quote]
  cases quoted : desk.ledger.staged.quote settings event request with
  | error overflow => exact ⟨middle, rfl, rfl, nofun⟩
  | ok price =>
  cases dated : desk.now.addMinutes settings.billMinutes with
  | error overflow =>
    have datedLater : middle.now.addMinutes settings.billMinutes = .error overflow := dated
    refine ⟨middle, ?_, rfl, nofun⟩
    simp only [attempt_bind, attempt_compute, attempt_wallClock, Except.mapError, datedLater]
    rfl
  | ok expiry =>
    have datedLater : middle.now.addMinutes settings.billMinutes = .ok expiry := dated
    refine ⟨middle, ?_, rfl, fun draft drafted => ?_⟩
    · simp only [attempt_bind, attempt_compute, attempt_wallClock, Except.mapError, datedLater,
        attempt_pure]
      rfl
    · rw [← Except.ok.inj drafted, Ticket.map_id_held]

end Desk

end BoxOffice
