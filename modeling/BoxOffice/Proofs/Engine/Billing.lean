import BoxOffice.Proofs.Engine.Purchase
import BoxOffice.Proofs.Ledger.Locality
import BoxOffice.Proofs.Price

/-!
# What a buyer is billed

Tickets of one event and one type can be on sale at different prices, as when more are put on sale
later. A bill is over the price of the first ticket that is held, once for each ticket, and so over
the prices of the tickets held only as long as these have one price.
-/
namespace BoxOffice

namespace Books

variable {books : Books} {event : Uuid} {request : PurchaseRequest}

/-- Of tickets told apart by their identifiers those with the identifiers of some of them are these,
in the same order. -/
theorem filter_ids_of_sublist {some all : List Ticket} (among : some.Sublist all)
    (distinct : (all.map (·.id)).Nodup) :
    (all.filter fun ticket => (some.map (·.id)).contains ticket.id) = some := by
  induction among with
  | slnil => rfl
  | @cons some rest first among ih =>
    obtain ⟨apart, distinct⟩ := List.nodup_cons.mp distinct
    have foreign : first.id ∉ some.map (·.id) := fun own => apart ((among.map _).subset own)
    rw [List.filter_cons_of_neg (by rwa [List.contains_iff_mem])]
    exact ih distinct
  | @cons_cons some rest first among ih =>
    obtain ⟨apart, distinct⟩ := List.nodup_cons.mp distinct
    have own : (first.id :: some.map (·.id)).contains first.id = true :=
      List.contains_iff_mem.mpr List.mem_cons_self
    rw [List.map_cons, List.filter_cons, if_pos own]
    -- no other ticket has the identifier of the first, so it may go from those looked for
    have others : ∀ ticket ∈ rest, (first.id :: some.map (·.id)).contains ticket.id =
        (some.map (·.id)).contains ticket.id := by
      intro ticket member
      have other : ticket.id ≠ first.id := fun same =>
        apart (List.mem_map.mpr ⟨ticket, member, same⟩)
      simp only [List.contains_cons, beq_eq_false_iff_ne.mpr other, Bool.false_or]
    rw [List.filter_congr others, ih distinct]

/-- The rows of the tickets that are allotted are these. -/
theorem rowsOf_allotment (distinct : books.ticketIds.Nodup) :
    books.rowsOf ((books.allotment event request).map (·.id)) = books.allotment event request :=
  filter_ids_of_sublist ((List.take_sublist _ _).trans List.filter_sublist) distinct

/-- Tickets that are held have the rows they had, but for their status. -/
theorem rowsOf_held (distinct : books.ticketIds.Nodup) :
    let ids := (books.allotment event request).map (·.id)
    (books.withStatus ids .available .pending).rowsOf ids =
      (books.allotment event request).map Ticket.held := by
  intro ids
  rw [rowsOf_withStatus, rowsOf_allotment distinct]
  refine List.map_congr_left fun ticket allotted => if_pos ?_
  exact isAmong_iff.mpr ⟨List.mem_map_of_mem allotted, (mem_allotment allotted).2⟩

end Books

namespace Checkout

variable {γ : Type} [Gateway γ]

/-- What is charged for tickets that make up some subtotal: what the code that was entered leaves of
it, and the fee for each ticket. -/
def charge (settings : CheckoutSettings) (books : Books) (request : PurchaseRequest)
    (subtotal : Int) : Int :=
  exactDiscounted ((books.entered? request).map (·.discountPercentage)) subtotal +
    settings.feePerTicket.toInt * request.amount.toInt

/-- Tickets of one price make up that price for each of them. -/
theorem sum_prices {tickets : List Ticket} {price : Int64}
    (same : ∀ ticket ∈ tickets, ticket.price = price) :
    (tickets.map (·.price.toInt)).sum = price.toInt * tickets.length := by
  induction tickets with
  | nil => exact (Int.mul_zero _).symm
  | cons ticket rest ih =>
    obtain ⟨first, others⟩ := List.forall_mem_cons.mp same
    rw [List.map_cons, List.sum_cons, first, ih others, List.length_cons, Int.natCast_succ,
      Int.mul_add, Int.mul_one, Int.add_comm]

/-- A buyer is billed at the price of the first ticket held. Whatever an engine has on record, as
long as tickets have one identifier each, whatever its gateway answers and wherever its ledger is
made to fail, a purchase that ends with a receipt has asked for one bill and opened a reservation
under the number of the receipt that holds as many tickets as were asked for, all of them pending.
The bill is over the price of the first of them for each ticket, less the discount of the code that
was entered, and the fee for each ticket. If the tickets held all have that price, it is over the
sum of their prices, less that discount, and the fees. -/
theorem billed_at_first_price {engine : Engine MemoryLedger γ}
    (distinct : engine.desk.books.ticketIds.Nodup) (settings : CheckoutSettings) (event : Uuid)
    (request : PurchaseRequest) {receipt : Receipt}
    (bought : (engine.buy settings event request).1 = .ok receipt) :
    let later := (engine.run (buy settings event request)).2
    let charged := charge settings engine.desk.books request
    ∃ bill reservation, engine.billsOf (buy settings event request) = [bill] ∧
      later.store.get? receipt.id = some reservation ∧
      let held := later.desk.books.rowsOf reservation.tickets
      (held.length : Int) = request.amount.toInt ∧ (∀ ticket ∈ held, ticket.status = .pending) ∧
      ∃ first ∈ held.head?,
        bill.amount.toInt = charged (first.price.toInt * request.amount.toInt) ∧
        ((∀ ticket ∈ held, ticket.price = first.price) →
          bill.amount.toInt = charged (held.map (·.price.toInt)).sum) := by
  intro later charged
  obtain ⟨hold, checked, done, absent, rfl, ran⟩ := Engine.run_bought bought
  have formed := check_eq_ok.mp checked
  have positive := PurchaseRequest.positive_of_formed formed
  obtain ⟨draft, drafted, -⟩ := Desk.perform_hold_ok distinct positive done
  obtain ⟨deed, -, -⟩ := Desk.perform_deed trivial done
  obtain ⟨passes, -⟩ := Desk.sound_of_hold done
  obtain ⟨-, -, quoted, -⟩ := Books.draft_eq_ok.mp drafted
  obtain ⟨tickets, count⟩ := Desk.tickets_of_hold distinct positive done
  obtain ⟨first, head, computed⟩ := Books.compute_of_quote positive (Int.le_of_eq count.symm) quoted
  have total : draft.price.total.toInt = charged (first.price.toInt * request.amount.toInt) :=
    (PriceQuote.isExact_of_compute computed).total
  have rows : later.desk.books.rowsOf (hold.tickets.map (·.id)) = hold.tickets := by
    have pending : later.desk.books.tickets =
        (engine.desk.books.withStatus (hold.tickets.map (·.id)) .available .pending).tickets :=
      (congrArg (fun engine => engine.desk.books.tickets) ran).trans deed.tickets
    rw [Books.rowsOf, pending, tickets, Ticket.map_id_held]
    exact Books.rowsOf_held distinct
  refine ⟨_, reservationOf event request hold engine.desk.now,
    Engine.billsOf_drafted passes distinct formed drafted, ?_, ?_⟩
  · rw [show later = _ from ran]
    exact Register.get?_insert_self _ _ _
  · intro held
    have held_eq : held = hold.tickets := rows
    rw [held_eq, tickets]
    rw [← List.length_map (f := Ticket.held)] at count
    refine ⟨count, ?_, first.held, ?_, total, fun uniform => ?_⟩
    · intro ticket held
      obtain ⟨_, -, rfl⟩ := List.mem_map.mp held
      rfl
    · rw [List.head?_map, Option.mem_def.mp head]
      rfl
    · rw [sum_prices uniform, count]
      exact total

end Checkout

namespace Matinee

/-- An office where a ticket was put on sale, and then another at twice its price. -/
def mixedOffice : Engine MemoryLedger ScriptedGateway :=
  Season.ending { relaxedSeason with
    steps := [.stock event "A" 100 [(.ofNat 1, "A1")], .stock event "A" 200 [(.ofNat 2, "A2")]] }

/-- Someone asks for two tickets. -/
def couple : PurchaseRequest := ⟨"A", 2, none, [.empty, .empty]⟩

/-- The two tickets are bought. -/
theorem couple_bought :
    ∃ receipt, (mixedOffice.buy ⟨0, 30, ""⟩ event couple).1 = .ok receipt ∧ receipt.id = ⟨7⟩ :=
  ⟨_, rfl, rfl⟩

end Matinee

/-- Two tickets of different prices are billed at the price of the first. -/
theorem Checkout.billed_at_first_price_matinee :
    ∃ bill, Matinee.mixedOffice.billsOf (buy ⟨0, 30, ""⟩ Matinee.event Matinee.couple) = [bill] ∧
      bill.amount.toInt = 200 := by
  obtain ⟨receipt, bought, own⟩ := Matinee.couple_bought
  obtain ⟨bill, reservation, asked, opened, -, -, first, head, amount, -⟩ :=
    billed_at_first_price (by decide) _ _ _ bought
  rw [own] at opened
  obtain rfl : _ = reservation := Option.some.inj opened
  obtain rfl : _ = first := Option.some.inj head
  exact ⟨bill, asked, amount⟩

/-- These tickets are not billed at the sum of their prices. -/
theorem Checkout.not_billed_at_sum :
    let office := Matinee.mixedOffice
    let later := (office.run (buy ⟨0, 30, ""⟩ Matinee.event Matinee.couple)).2
    office.desk.books.ticketIds.Nodup ∧ ∃ receipt bill reservation,
      (office.buy ⟨0, 30, ""⟩ Matinee.event Matinee.couple).1 = .ok receipt ∧
        office.billsOf (buy ⟨0, 30, ""⟩ Matinee.event Matinee.couple) = [bill] ∧
          later.store.get? receipt.id = some reservation ∧
            let held := later.desk.books.rowsOf reservation.tickets
            held.map (·.price) = [100, 200] ∧ bill.amount = 200 ∧
              bill.amount.toInt ≠ charge ⟨0, 30, ""⟩ office.desk.books Matinee.couple
                (held.map (·.price.toInt)).sum := by
  refine ⟨by decide, _, _, _, rfl, rfl, rfl, ?_⟩
  decide

end BoxOffice
