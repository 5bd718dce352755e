import BoxOffice.Proofs.Ledger.Attempt
import BoxOffice.Proofs.Ledger.Tickets

/-!
# What each transaction does to the books

`Held`, `Sold`, `freed` and `undone` tell what is different once a transaction has been committed:
tickets that were held, tickets that were sold, and tickets that are available again. `Serves` and
`Redeemed` tell which tickets a hold holds and which code it redeems, and `Entered` what a sale
enters row by row. They are all that is known about the five transactions elsewhere, and everything
they do not mention is as before.
-/
namespace BoxOffice

/-- The number of the bill of a hold. -/
def Hold.id (hold : Hold) : TrackingId := hold.bill.trackingId

/-- The tickets of a hold. -/
def Hold.ticketIds (hold : Hold) : List Uuid := hold.tickets.map (·.id)

/-- The use of a referral code that comes with a hold. -/
def Hold.use? (hold : Hold) : Option ReferralUse :=
  hold.discount.map fun snapshot => ⟨snapshot.referral, hold.id⟩

/-- Whether the tickets of a hold are out of some stock and those asked for. -/
structure Hold.Serves (hold : Hold) (stock : List Ticket) (event : Uuid)
    (request : PurchaseRequest) : Prop where
  /-- They are as many as asked for. -/
  count : (hold.tickets.length : Int) = request.amount.toInt
  /-- They are of the event and the type. -/
  kind : ∀ ticket ∈ hold.tickets, ticket.event = event ∧ ticket.name = request.ticketName
  /-- They are in stock. -/
  stocked : ∀ ticket ∈ hold.tickets, { ticket with status := .available } ∈ stock

/-- The attendances entered for tickets and their visitors, in the same order. -/
def attendancesOf (event : Uuid) (tickets : List Uuid) (visitors : List VisitorDetails) :
    List Attendance :=
  (tickets.zip visitors).map fun pair => ⟨event, pair.1, pair.2.json⟩

/-- Attendances are entered for the tickets, if there is a visitor for each. -/
theorem attendancesOf_tickets (event : Uuid) {tickets : List Uuid}
    {visitors : List VisitorDetails} (enough : tickets.length ≤ visitors.length) :
    (attendancesOf event tickets visitors).map (·.ticket) = tickets := by
  rw [attendancesOf, List.map_map]
  exact List.map_fst_zip enough

namespace Books

/-- What a hold does: tickets that were available are pending, and the use of a code is recorded.
-/
structure Held (hold : Hold) (books after : Books) : Prop where
  /-- The tickets were available, and each is held once. -/
  offered : hold.ticketIds.Sublist (books.idsOf .available)
  /-- They are pending. -/
  tickets : after.tickets = (books.withStatus hold.ticketIds .available .pending).tickets
  /-- The use is recorded. -/
  uses : after.uses = books.uses ++ hold.use?.toList
  /-- Nobody paid. -/
  payments : after.payments = books.payments
  /-- Nobody is to come. -/
  attendances : after.attendances = books.attendances

/-- What a sale does: the payment is recorded for the first time, the tickets are sold, and each of
them has a visitor. -/
structure Sold (reservation : Reservation) (books after : Books) : Prop where
  /-- There was no payment. -/
  unpaid : books.paymentExists reservation.id = false
  /-- The tickets are sold. -/
  tickets : after.tickets = (books.withStatus reservation.tickets .pending .sold).tickets
  /-- The payment is recorded. -/
  payments : after.payments.map (·.id) = books.payments.map (·.id) ++ [reservation.id]
  /-- Each ticket has a visitor. -/
  attendances :
    after.attendances.map (·.ticket) = books.attendances.map (·.ticket) ++ reservation.tickets
  /-- No code is used. -/
  uses : after.uses = books.uses

/-- Whether the counter of a code can go on. -/
def HasRoom (books : Books) (code : Uuid) : Prop :=
  ∃ referral, books.codes.find? (fun referral => referral.id = code) = some referral ∧
    referral.currentUses ≠ Int32.maxValue

/-- What a hold does to the codes: if it comes with a discount, a code that the uses on record did
not exhaust counts one more, and the number of the bill is new to the record of uses; otherwise
nothing. -/
inductive Redeemed (hold : Hold) (books after : Books) : Prop where
  /-- There is no discount. -/
  | plain (none : hold.discount = none) (codes : after.codes = books.codes)
  /-- There is the discount of a code. -/
  | redeemed {referral : ReferralCode} (issued : referral ∈ books.codes)
    (granted : hold.discount = some referral.snapshot)
    (free : referral.isExhaustedBy (books.usageCount referral.id) = false)
    (first : hold.id ∉ books.uses.map (·.id))
    (room : books.HasRoom referral.id)
    (codes : after.codes = changeFirst referral.id addUse books.codes)

/-- What a sale enters: the payment as it was notified of, and one attendance for each ticket. -/
structure Entered (reservation : Reservation) (notification : PaymentNotification)
    (books after : Books) : Prop where
  /-- The payment is entered. -/
  payments :
    after.payments = books.payments ++ [Transaction.paymentRecord reservation notification]
  /-- The attendances are entered. -/
  attendances : after.attendances = books.attendances ++
    attendancesOf reservation.event reservation.tickets reservation.visitors
  /-- No code changes. -/
  codes : after.codes = books.codes

/-- The books after tickets became available again and the use of a code was returned. -/
def freed (books : Books) (tickets : List Uuid) (id : TrackingId) : Books :=
  (books.withStatus tickets .pending .available).withoutUse id

/-- The books after a hold was undone that a code may have been redeemed for. -/
def undone (books : Books) (isRedeemed : Bool) (tickets : List Uuid) (id : TrackingId) : Books :=
  if isRedeemed then books.freed tickets id else books.withStatus tickets .pending .available

/-- Where no number has two uses, taking off the first use under a number takes off all. -/
theorem eraseP_uses {uses : List ReferralUse} (once : (uses.map (·.id)).Nodup)
    (id : TrackingId) :
    (uses.eraseP fun use => use.id = id) = uses.filter fun use => use.id ≠ id := by
  induction uses with
  | nil => rfl
  | cons use rest ih =>
    have numbers := List.nodup_cons.mp once
    by_cases same : use.id = id
    · have others : (rest.filter fun use => use.id ≠ id) = rest := by
        rw [List.filter_eq_self]
        intro other member
        have apart : other.id ≠ id := fun again =>
          numbers.1 (List.mem_map.mpr ⟨other, member, again.trans same.symm⟩)
        exact decide_eq_true apart
      simp only [List.eraseP_cons, List.filter_cons, same, ne_eq, not_true_eq_false, decide_true,
        decide_false, Bool.false_eq_true, cond_true, ↓reduceIte]
      exact others.symm
    · simp only [List.eraseP_cons, List.filter_cons, same, ne_eq, not_false_eq_true, decide_true,
        decide_false, cond_false, ↓reduceIte]
      exact congrArg _ (ih numbers.2)

/-- Returning a use takes it off the record, where no number has two. -/
theorem withoutUse_uses (books : Books) (once : (books.uses.map (·.id)).Nodup)
    (id : TrackingId) :
    (books.withoutUse id).uses = books.uses.filter fun use => use.id ≠ id := by
  rw [← eraseP_uses once]
  simp only [withoutUse]
  split
  · rename_i missing
    rw [List.eraseP_of_forall_not]
    intro use member
    exact List.find?_eq_none.mp missing use member
  · rfl

/-- Returning a use changes the books if there is one to be returned, and only then. -/
theorem withoutUse_eq_self {books : Books} {id : TrackingId} :
    books.withoutUse id = books ↔ id ∉ books.uses.map (·.id) := by
  rw [List.mem_map]
  cases found : books.uses.find? fun entry => entry.id = id with
  | none =>
    have missing := List.find?_eq_none.mp found
    simp only [withoutUse, found, true_iff]
    rintro ⟨use, member, rfl⟩
    exact missing use member (decide_eq_true rfl)
  | some use =>
    have member := List.mem_of_find?_eq_some found
    have own : use.id = id := by simpa using List.find?_some found
    refine iff_of_false (fun same => ?_) fun missing => missing ⟨use, member, own⟩
    have fewer := congrArg (fun books => books.uses.length) same
    simp only [withoutUse, found] at fewer
    rw [List.length_eraseP_of_mem member (decide_eq_true own)] at fewer
    have some := List.length_pos_of_mem member
    omega

/-- Returning a use leaves everything but codes and uses as it is. -/
theorem withoutUse_frame (books : Books) (id : TrackingId) :
    (books.withoutUse id).tickets = books.tickets ∧
      (books.withoutUse id).payments = books.payments ∧
        (books.withoutUse id).attendances = books.attendances := by
  simp only [withoutUse]
  split <;> exact ⟨rfl, rfl, rfl⟩

/-- Tickets that become available again change nothing but their status, codes and uses. -/
theorem freed_frame (books : Books) (tickets : List Uuid) (id : TrackingId) :
    (books.freed tickets id).tickets =
        (books.withStatus tickets .pending .available).tickets ∧
      (books.freed tickets id).payments = books.payments ∧
        (books.freed tickets id).attendances = books.attendances :=
  withoutUse_frame (books.withStatus tickets .pending .available) id

/-- A hold that is undone changes nothing but the status of its tickets, codes and uses. -/
theorem undone_frame (books : Books) (isRedeemed : Bool) (tickets : List Uuid)
    (id : TrackingId) :
    (books.undone isRedeemed tickets id).tickets =
        (books.withStatus tickets .pending .available).tickets ∧
      (books.undone isRedeemed tickets id).payments = books.payments ∧
        (books.undone isRedeemed tickets id).attendances = books.attendances := by
  cases isRedeemed with
  | false => exact ⟨rfl, rfl, rfl⟩
  | true => exact books.freed_frame tickets id

/-- Whether a payment is recorded under a number. -/
theorem paymentExists_iff {books : Books} {id : TrackingId} :
    books.paymentExists id = true ↔ id ∈ books.payments.map (·.id) := by
  simp only [paymentExists, List.any_eq_true, decide_eq_true_eq, List.mem_map]

/-- Whether a payment has been recorded depends on the payments only. -/
theorem paymentExists_congr {books after : Books} (same : after.payments = books.payments) :
    after.paymentExists = books.paymentExists := by
  funext id
  simp only [paymentExists, same]

/-- Recording a use adds it to the record, where it is the first under its number, and its code
counts one more. -/
theorem withUse_ok {books after : Books} {code : Uuid} {id : TrackingId}
    (recorded : books.withUse code id = .ok after) :
    id ∉ books.uses.map (·.id) ∧ books.HasRoom code ∧
      after = { books with
        codes := changeFirst code addUse books.codes, uses := books.uses ++ [⟨code, id⟩] } := by
  simp only [withUse] at recorded
  split at recorded
  · contradiction
  · rename_i fresh
    have first : id ∉ books.uses.map (·.id) := by
      intro member
      obtain ⟨use, present, same⟩ := List.mem_map.mp member
      exact fresh (List.any_eq_true.mpr ⟨use, present, decide_eq_true same⟩)
    cases found : books.codes.find? fun referral => referral.id = code with
    | none => simp only [found, reduceCtorEq] at recorded
    | some referral =>
      simp only [found] at recorded
      split at recorded
      · contradiction
      · rename_i room
        exact ⟨first, ⟨referral, found, room⟩, (Except.ok.inj recorded).symm⟩

/-- Returning a use takes it off the record and its code counts one less. -/
theorem releaseUse_ok {books after : Books} {id : TrackingId}
    (returned : books.releaseUse id = .ok after) : after = books.withoutUse id := by
  simp only [releaseUse] at returned
  split at returned
  · contradiction
  · exact (Except.ok.inj returned).symm

/-- Recording a payment adds it to the record, where it is the first under its number. -/
theorem withPayment_ok {books after : Books} {record : PaymentRecord}
    (recorded : books.withPayment record = .ok after) :
    books.paymentExists record.id = false ∧
      after = { books with payments := books.payments ++ [record] } := by
  simp only [withPayment] at recorded
  split at recorded
  · contradiction
  · rename_i unpaid
    exact ⟨by simpa using unpaid, (Except.ok.inj recorded).symm⟩

/-- Recording an attendance adds it to the record. -/
theorem withAttendance_ok {books after : Books} {attendance : Attendance}
    (recorded : books.withAttendance attendance = .ok after) :
    after = { books with attendances := books.attendances ++ [attendance] } := by
  simp only [withAttendance] at recorded
  split at recorded
  · contradiction
  · exact (Except.ok.inj recorded).symm

end Books

namespace Desk

variable {σ γ : Type} [Ledger σ] [Gateway γ] [Bookkeeping σ] {desk later : Desk σ γ}

/-- Whether between two moments of some work only the books have changed, into given ones. -/
structure Becomes (desk later : Desk σ γ) (books : Books) : Prop where
  /-- The ledger still gives its own answers. -/
  faithful : later.IsFaithful
  /-- The books are the given ones. -/
  staged : later.staged = books
  /-- The gateway has heard nothing. -/
  gateway : later.gateway = desk.gateway

omit [Gateway γ] in
/-- Where nothing happens nothing changes. -/
theorem Becomes.refl (faithful : desk.IsFaithful) : desk.Becomes desk desk.staged :=
  ⟨faithful, rfl, rfl⟩

omit [Gateway γ] in
/-- Changes follow one another. -/
theorem Becomes.trans {middle : Desk σ γ} {books after : Books} (first : desk.Becomes middle books)
    (second : middle.Becomes later after) : desk.Becomes later after :=
  ⟨second.faithful, second.staged, second.gateway.trans first.gateway⟩

/-- A query turns the books into what the query makes of them. -/
theorem becomes_of_consult {query : Query} {value : query.Answer} (faithful : desk.IsFaithful)
    (given : desk.Gives (Attempt.consult query) value later) :
    ∃ after, desk.staged.answer query = .ok (value, after) ∧ desk.Becomes later after := by
  obtain ⟨faithfulLater, told, gateway⟩ := gives_consult faithful given
  exact ⟨_, told, faithfulLater, rfl, gateway⟩

/-- A query that only reads leaves the books as they are. -/
theorem becomes_of_reading {query : Query} {value found : query.Answer} (faithful : desk.IsFaithful)
    (given : desk.Gives (Attempt.consult query) value later)
    (reads : desk.staged.answer query = .ok (found, desk.staged)) :
    found = value ∧ desk.Becomes later desk.staged := by
  obtain ⟨after, told, becomes⟩ := becomes_of_consult faithful given
  rw [reads] at told
  obtain ⟨same, place⟩ := Prod.mk.inj (Except.ok.inj told)
  exact ⟨same, place ▸ becomes⟩

/-- A change of status that is carried out is the one asked for. -/
theorem becomes_of_changeStatus {tickets : List Uuid} {current next : TicketStatus} {changed : Nat}
    (faithful : desk.IsFaithful)
    (given : desk.Gives (Attempt.changeStatus tickets current next) changed later) :
    desk.Becomes later (desk.staged.withStatus tickets current next) := by
  obtain ⟨after, told, becomes⟩ := becomes_of_consult faithful given
  simp only [Books.answer] at told
  split at told
  · exact (Prod.mk.inj (Except.ok.inj told)).2 ▸ becomes
  · contradiction

/-- The return of a use that is carried out is the one asked for. -/
theorem becomes_of_releaseUsage {id : TrackingId} {done : Unit} (faithful : desk.IsFaithful)
    (given : desk.Gives (Attempt.releaseUsage id) done later) :
    desk.Becomes later (desk.staged.withoutUse id) := by
  obtain ⟨after, told, becomes⟩ := becomes_of_consult faithful given
  simp only [Books.answer, Except.map] at told
  split at told
  · contradiction
  · rename_i books returned
    rw [← (Prod.mk.inj (Except.ok.inj told)).2, Books.releaseUse_ok returned] at becomes
    exact becomes

/-- Redeeming a code reads the books only, and grants the discount of a code on record that its uses
have not exhausted. -/
theorem becomes_of_redeem {code : String} {now : Instant} {discount : DiscountSnapshot}
    (faithful : desk.IsFaithful) (given : desk.Gives (Redemption.redeem code now) discount later) :
    desk.Becomes later desk.staged ∧ ∃ referral ∈ desk.staged.codes,
      discount = referral.snapshot ∧
        referral.isExhaustedBy (desk.staged.usageCount referral.id) = false := by
  obtain ⟨found, first, looked, given⟩ := gives_bind given
  obtain ⟨told, first⟩ := becomes_of_reading faithful looked rfl
  cases found with
  | none => exact absurd given not_gives_refuse
  | some referral =>
    obtain ⟨_, _, checked, given⟩ := gives_bind given
    obtain ⟨-, rfl⟩ := gives_check checked
    obtain ⟨_, _, demanded, given⟩ := gives_bind given
    obtain ⟨-, rfl⟩ := gives_demand demanded
    obtain ⟨uses, second, counted, given⟩ := gives_bind given
    obtain ⟨count, second⟩ := becomes_of_reading first.faithful counted rfl
    obtain ⟨_, _, demanded, given⟩ := gives_bind given
    obtain ⟨free, rfl⟩ := gives_demand demanded
    obtain ⟨rfl, rfl⟩ := gives_pure given
    rw [first.staged] at second count
    refine ⟨first.trans second, referral, List.mem_of_find?_eq_some told, rfl, ?_⟩
    rw [count]
    exact Bool.not_eq_true' _ ▸ free

/-- Redeeming the code that was entered, if any, reads the books only, and what it grants is the
discount of a code on record that its uses have not exhausted. -/
theorem becomes_of_redeemEntered {request : PurchaseRequest} {discount : Option DiscountSnapshot}
    (faithful : desk.IsFaithful)
    (given : desk.Gives (Transaction.redeemEntered request) discount later) :
    desk.Becomes later desk.staged ∧ ∀ snapshot, discount = some snapshot →
      ∃ referral ∈ desk.staged.codes, snapshot = referral.snapshot ∧
        referral.isExhaustedBy (desk.staged.usageCount referral.id) = false := by
  simp only [Transaction.redeemEntered] at given
  split at given
  · obtain ⟨rfl, rfl⟩ := gives_pure given
    exact ⟨.refl faithful, nofun⟩
  · obtain ⟨now, _, dated, given⟩ := gives_bind given
    obtain ⟨-, rfl⟩ := gives_wallClock dated
    obtain ⟨found, middle, redeemed, given⟩ := gives_bind given
    obtain ⟨rfl, rfl⟩ := gives_pure given
    obtain ⟨becomes, granted⟩ := becomes_of_redeem faithful redeemed
    exact ⟨becomes, fun snapshot same => Option.some.inj same ▸ granted⟩

/-- Tickets that are held were available and are pending now, and are those asked for. -/
theorem becomes_of_reserve {event : Uuid} {name : String} {amount : Int64} {tickets : List Ticket}
    (faithful : desk.IsFaithful)
    (given : desk.Gives (Inventory.reserve event name amount) tickets later) :
    (tickets.map (·.id)).Sublist (desk.staged.idsOf .available) ∧
      desk.Becomes later (desk.staged.withStatus (tickets.map (·.id)) .available .pending) ∧
        (tickets.length : Int) = amount.toInt ∧
          (∀ ticket ∈ tickets, ticket.event = event ∧ ticket.name = name) ∧
            ∀ ticket ∈ tickets, { ticket with status := .available } ∈ desk.staged.stock := by
  obtain ⟨_, _, checked, given⟩ := gives_bind given
  obtain ⟨positive, rfl⟩ := gives_check checked
  obtain ⟨found, first, looked, given⟩ := gives_bind given
  obtain ⟨offered, first⟩ := becomes_of_reading faithful looked rfl
  obtain ⟨_, _, demanded, given⟩ := gives_bind given
  obtain ⟨enough, rfl⟩ := gives_demand demanded
  obtain ⟨held, second, changed, given⟩ := gives_bind given
  have second := becomes_of_changeStatus first.faithful changed
  obtain ⟨_, _, demanded, given⟩ := gives_bind given
  obtain ⟨-, rfl⟩ := gives_demand demanded
  obtain ⟨rfl, rfl⟩ := gives_pure given
  have same : (found.map fun ticket => { ticket with status := .pending }).map (·.id) =
      found.map (·.id) := List.map_map
  rw [first.staged] at second
  have seen : ∀ ticket ∈ found, ticket ∈ desk.staged.tickets ∧
      Books.isAvailable event name ticket = true := by
    intro ticket member
    rw [← offered] at member
    exact List.mem_filter.mp (List.mem_of_mem_take member)
  rw [same]
  refine ⟨?_, first.trans second, ?_, fun changed member => ?_, fun changed member => ?_⟩
  · rw [← offered]
    refine (List.take_sublist _ _).map _ |>.trans (List.Sublist.map _ ?_)
    refine List.monotone_filter_right _ fun ticket available => ?_
    simp only [Books.isAvailable, Bool.and_eq_true] at available
    exact available.2
  · have most : found.length ≤ amount.toInt.toNat := by
      rw [← offered]
      exact List.length_take_le _ _
    have least : amount.toInt ≤ found.length := of_decide_eq_true enough
    have some : 0 ≤ amount.toInt := by
      simp only [Inventory.checkAmount] at positive
      split at positive
      · contradiction
      · omega
    rw [List.length_map]
    omega
  · obtain ⟨ticket, present, rfl⟩ := List.mem_map.mp member
    have available := (seen ticket present).2
    simp only [Books.isAvailable, Bool.and_eq_true, decide_eq_true_eq] at available
    exact available.1
  · obtain ⟨ticket, present, rfl⟩ := List.mem_map.mp member
    exact List.mem_map.mpr ⟨ticket, (seen ticket present).1, rfl⟩

/-- A hold that is done has been billed, and does to the books what a hold does. -/
theorem gives_holdWork {settings : CheckoutSettings} {event : Uuid} {request : PurchaseRequest}
    {hold : Hold} (faithful : desk.IsFaithful)
    (given : desk.Gives (Transaction.holdWork settings event request) hold later) :
    later.IsFaithful ∧ desk.staged.Held hold later.staged ∧
      (∃ bill, Gateway.createBill bill desk.gateway = (.ok hold.bill, later.gateway)) ∧
        desk.staged.Redeemed hold later.staged ∧
          hold.Serves desk.staged.stock event request := by
  obtain ⟨discount, first, redeemed, given⟩ := gives_bind given
  obtain ⟨first, granted⟩ := becomes_of_redeemEntered faithful redeemed
  obtain ⟨tickets, second, reserved, given⟩ := gives_bind given
  obtain ⟨offered, second, count, kind, stocked⟩ := becomes_of_reserve first.faithful reserved
  rw [first.staged] at offered second stocked
  obtain ⟨price, _, computed, given⟩ := gives_bind given
  obtain ⟨-, rfl⟩ := gives_compute computed
  obtain ⟨now, _, dated, given⟩ := gives_bind given
  obtain ⟨-, rfl⟩ := gives_wallClock dated
  obtain ⟨expiry, _, computed, given⟩ := gives_bind given
  obtain ⟨-, rfl⟩ := gives_compute computed
  obtain ⟨bill, third, billed, given⟩ := gives_bind given
  obtain ⟨made, kept⟩ := gives_createBill billed
  have faithfulThird : third.IsFaithful := by
    rw [IsFaithful, kept]
    exact second.faithful
  have stagedThird : third.staged =
      desk.staged.withStatus (tickets.map (·.id)) .available .pending := by
    rw [staged, kept]
    exact second.staged
  rw [second.gateway, first.gateway] at made
  obtain ⟨_, fourth, used, given⟩ := gives_bind given
  obtain ⟨rfl, rfl⟩ := gives_pure given
  cases discount with
  | none =>
    obtain ⟨-, rfl⟩ := gives_pure used
    refine ⟨faithfulThird, ?_, ⟨_, made⟩, ?_, count, kind, stocked⟩
    · rw [stagedThird]
      exact ⟨offered, rfl, (List.append_nil _).symm, rfl, rfl⟩
    · rw [stagedThird]
      exact .plain rfl rfl
  | some snapshot =>
    obtain ⟨after, told, fourth⟩ := becomes_of_consult faithfulThird used
    rw [stagedThird] at told
    obtain ⟨books, recorded, same⟩ : ∃ books, Books.withUse (desk.staged.withStatus
        (tickets.map (·.id)) .available .pending) snapshot.referral bill.trackingId = .ok books ∧
          books = after := by
      simp only [Books.answer, Except.map] at told
      split at told
      · contradiction
      · rename_i books recorded
        exact ⟨books, recorded, (Prod.mk.inj (Except.ok.inj told)).2⟩
    rw [same] at recorded
    obtain ⟨fresh, room, rfl⟩ := Books.withUse_ok recorded
    obtain ⟨referral, issued, rfl, free⟩ := granted snapshot rfl
    refine ⟨fourth.faithful, ?_, ⟨_, fourth.gateway ▸ made⟩, ?_, count, kind, stocked⟩
    · rw [fourth.staged]
      exact ⟨offered, rfl, rfl, rfl, rfl⟩
    · rw [fourth.staged]
      exact .redeemed issued rfl free fresh room rfl

/-- Tickets that are released are available again, and the use of a code is returned. -/
theorem becomes_of_releaseWork {reservation : Reservation} {released : Nat}
    (faithful : desk.IsFaithful)
    (given : desk.Gives (Transaction.releaseWork reservation) released later) :
    desk.Becomes later (desk.staged.freed reservation.tickets reservation.id) := by
  obtain ⟨changed, first, change, given⟩ := gives_bind given
  have first := becomes_of_changeStatus faithful change
  obtain ⟨_, second, returned, given⟩ := gives_bind given
  have second := becomes_of_releaseUsage first.faithful returned
  obtain ⟨-, rfl⟩ := gives_pure given
  rw [first.staged] at second
  exact first.trans second

/-- A hold that is undone makes its tickets available again, and returns a use if it has one. -/
theorem becomes_of_undoWork {id : TrackingId} {tickets : List Uuid} {isRedeemed : Bool}
    {done : Unit} (faithful : desk.IsFaithful)
    (given : desk.Gives (Transaction.undoWork id tickets isRedeemed) done later) :
    desk.Becomes later (desk.staged.undone isRedeemed tickets id) := by
  obtain ⟨changed, first, change, given⟩ := gives_bind given
  have first := becomes_of_changeStatus faithful change
  cases isRedeemed with
  | false =>
    obtain ⟨-, rfl⟩ := gives_pure given
    exact first
  | true =>
    have second := becomes_of_releaseUsage first.faithful given
    rw [first.staged] at second
    exact first.trans second

/-- Attendances that are entered are entered for all tickets in turn, and nothing else is. -/
theorem becomes_of_attendWork {event : Uuid} {tickets : List Uuid}
    {visitors : List VisitorDetails} {done : Unit} (faithful : desk.IsFaithful)
    (given : desk.Gives (Transaction.attendWork event tickets visitors) done later) :
    tickets.length ≤ visitors.length ∧
      desk.Becomes later { desk.staged with
        attendances := desk.staged.attendances ++ attendancesOf event tickets visitors } := by
  induction tickets generalizing visitors desk with
  | nil =>
    obtain ⟨-, rfl⟩ := gives_pure given
    refine ⟨Nat.zero_le _, ?_⟩
    rw [attendancesOf, List.zip_nil_left, List.map_nil, List.append_nil]
    exact .refl faithful
  | cons ticket rest ih =>
    cases visitors with
    | nil => exact absurd given not_gives_refuse
    | cons visitor visitors =>
      obtain ⟨_, middle, entry, given⟩ := gives_bind given
      obtain ⟨after, told, first⟩ := becomes_of_consult faithful entry
      obtain ⟨enough, second⟩ := ih first.faithful given
      have entry : after = { desk.staged with
          attendances := desk.staged.attendances ++ [⟨event, ticket, visitor.json⟩] } := by
        simp only [Books.answer, Except.map] at told
        split at told
        · contradiction
        · rename_i books recorded
          rw [← (Prod.mk.inj (Except.ok.inj told)).2]
          exact Books.withAttendance_ok recorded
      refine ⟨Nat.succ_le_succ enough, ?_⟩
      rw [first.staged, entry, List.append_assoc] at second
      exact first.trans second

/-- A sale that is done has sold the tickets, or has found the payment on record. -/
theorem gives_sellWork {reservation : Reservation} {notification : PaymentNotification}
    {outcome : SettlementOutcome} (faithful : desk.IsFaithful)
    (given : desk.Gives (Transaction.sellWork reservation notification) outcome later) :
    later.IsFaithful ∧ later.gateway = desk.gateway ∧
      (outcome = .duplicate ∧ desk.staged.paymentExists reservation.id = true ∧
          later.staged = desk.staged ∨
        outcome = .sold reservation.tickets.length ∧
          desk.staged.Sold reservation later.staged ∧
            desk.staged.Entered reservation notification later.staged) := by
  obtain ⟨isRecorded, first, asked, given⟩ := gives_bind given
  obtain ⟨told, first⟩ := becomes_of_reading faithful asked rfl
  cases isRecorded with
  | true =>
    obtain ⟨rfl, rfl⟩ := gives_pure given
    exact ⟨first.faithful, first.gateway, .inl ⟨rfl, told, first.staged⟩⟩
  | false =>
    obtain ⟨_, second, paid, given⟩ := gives_bind given
    obtain ⟨after, recorded, second⟩ := becomes_of_consult first.faithful paid
    have entry : after = { desk.staged with
        payments := desk.staged.payments ++
          [Transaction.paymentRecord reservation notification] } := by
      rw [first.staged] at recorded
      simp only [Books.answer, Except.map] at recorded
      split at recorded
      · contradiction
      · rename_i books written
        rw [← (Prod.mk.inj (Except.ok.inj recorded)).2]
        exact (Books.withPayment_ok written).2
    obtain ⟨sold, third, change, given⟩ := gives_bind given
    have third := becomes_of_changeStatus second.faithful change
    obtain ⟨_, _, demanded, given⟩ := gives_bind given
    obtain ⟨-, rfl⟩ := gives_demand demanded
    obtain ⟨_, fourth, attended, given⟩ := gives_bind given
    obtain ⟨enough, fourth⟩ := becomes_of_attendWork third.faithful attended
    obtain ⟨rfl, rfl⟩ := gives_pure given
    rw [third.staged, second.staged, entry] at fourth
    have whole := first.trans (second.trans (third.trans fourth))
    refine ⟨whole.faithful, whole.gateway, .inr ⟨rfl, ?_, ?_⟩⟩
    · rw [whole.staged]
      refine ⟨told, rfl, List.map_append, ?_, rfl⟩
      have names := attendancesOf_tickets reservation.event enough
      conv_rhs => rw [← names]
      exact List.map_append
    · rw [whole.staged]
      exact ⟨rfl, rfl, rfl⟩

end Desk

end BoxOffice
