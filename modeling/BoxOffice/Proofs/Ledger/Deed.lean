import BoxOffice.Proofs.Ledger.Effect

/-!
# What a committed transaction has done

`Transaction.Deed` says for each of the five transactions what the committed books are after it has
given a value. A transaction that gives none leaves them as they are, so the deeds are all that ever
happens to the books. Payments and attendances are only ever added, and only by sales.
-/
namespace BoxOffice

/-- What a transaction that gives a value does to the books. -/
def Transaction.Deed : (transaction : Transaction) → transaction.Result → Books → Books → Prop
  | .hold _ event request, held, books, after =>
    books.Held held after ∧ books.Redeemed held after ∧ held.Serves books.stock event request
  | .undoHold id tickets isRedeemed, _, books, after =>
    after = books.undone isRedeemed tickets id
  | .sell reservation notification, outcome, books, after =>
    outcome = .duplicate ∧ books.paymentExists reservation.id = true ∧ after = books ∨
      outcome = .sold reservation.tickets.length ∧ books.Sold reservation after ∧
        books.Entered reservation notification after
  | .release reservation, _, books, after =>
    after = books.freed reservation.tickets reservation.id
  | .reclaim reservation, _, books, after =>
    after = books.freed reservation.tickets reservation.id

/-- A transaction that gives a value has done its deed. -/
theorem Desk.perform_deed {σ γ : Type} [Ledger σ] [Gateway γ] [Bookkeeping σ] {desk : Desk σ γ}
    {transaction : Transaction} {value : transaction.Result} (faithful : desk.IsFaithful)
    (done : (desk.perform transaction).1 = .ok value) :
    transaction.Deed value desk.books (desk.perform transaction).2.books := by
  obtain ⟨opened, worked, honest, staged, -, given, committed, -⟩ := perform_ok faithful done
  rw [committed, ← staged]
  cases transaction with
  | hold settings event request =>
    obtain ⟨-, held, -, redeemed, serves⟩ := gives_holdWork honest given
    exact ⟨held, redeemed, serves⟩
  | undoHold id tickets isRedeemed => exact (becomes_of_undoWork honest given).staged
  | sell reservation notification =>
    obtain ⟨-, -, recorded | sold⟩ := gives_sellWork honest given
    · exact .inl recorded
    · exact .inr sold
  | release reservation => exact (becomes_of_releaseWork honest given).staged
  | reclaim reservation => exact (becomes_of_releaseWork honest given).staged

namespace Transaction

/-- The rows that a transaction with some outcome enters for good: a payment and its attendances.
-/
def rows : (transaction : Transaction) → transaction.Result → List PaymentRecord × List Attendance
  | .sell reservation notification, .sold _ =>
    ([paymentRecord reservation notification],
      attendancesOf reservation.event reservation.tickets reservation.visitors)
  | _, _ => ([], [])

/-- Payments and attendances are added by sales, and nothing else happens to them. -/
theorem Deed.rows {transaction : Transaction} {value : transaction.Result} {books after : Books}
    (deed : transaction.Deed value books after) :
    after.payments = books.payments ++ (transaction.rows value).1 ∧
      after.attendances = books.attendances ++ (transaction.rows value).2 := by
  cases transaction with
  | hold settings event request =>
    obtain ⟨held, -, -⟩ := deed
    exact ⟨held.payments.trans (List.append_nil _).symm,
      held.attendances.trans (List.append_nil _).symm⟩
  | undoHold id tickets isRedeemed =>
    obtain ⟨-, payments, attendances⟩ := books.undone_frame isRedeemed tickets id
    cases deed
    exact ⟨payments.trans (List.append_nil _).symm, attendances.trans (List.append_nil _).symm⟩
  | sell reservation notification =>
    rcases deed with ⟨rfl, -, rfl⟩ | ⟨rfl, -, entered⟩
    · exact ⟨(List.append_nil _).symm, (List.append_nil _).symm⟩
    · exact ⟨entered.payments, entered.attendances⟩
  | release reservation =>
    obtain ⟨-, payments, attendances⟩ := books.freed_frame reservation.tickets reservation.id
    cases deed
    exact ⟨payments.trans (List.append_nil _).symm, attendances.trans (List.append_nil _).symm⟩
  | reclaim reservation =>
    obtain ⟨-, payments, attendances⟩ := books.freed_frame reservation.tickets reservation.id
    cases deed
    exact ⟨payments.trans (List.append_nil _).symm, attendances.trans (List.append_nil _).symm⟩

end Transaction

end BoxOffice
