import BoxOffice.Proofs.Ledger.Locality
import BoxOffice.Proofs.Ledger.Undo

/-!
# Amendments of the books

What a sale or a release makes of the books is an amendment: some tickets go over from pending to
another status, a use is returned, and rows are entered. Amendments that concern different
reservations without a ticket in common can be made in any order, and neither shows in what the
other looks at.
-/
namespace BoxOffice

/-- What is to be made of the books. -/
structure Amendment where
  /-- The tickets that go over from pending. -/
  tickets : List Uuid
  /-- What becomes of them. -/
  next : TicketStatus
  /-- The reservation that returns its use of a code, if one does. -/
  returned : Option TrackingId
  /-- The payments that are entered. -/
  payments : List PaymentRecord
  /-- The attendances that are entered. -/
  attendances : List Attendance

namespace Books

/-- The books after a use was returned, if one is to be. -/
def returning (books : Books) : Option TrackingId → Books
  | none => books
  | some id => books.withoutUse id

/-- The books after an amendment. -/
def amend (books : Books) (amendment : Amendment) : Books where
  tickets := (books.withStatus amendment.tickets .pending amendment.next).tickets
  codes := (books.returning amendment.returned).codes
  uses := (books.returning amendment.returned).uses
  payments := books.payments ++ amendment.payments
  attendances := books.attendances ++ amendment.attendances

/-- Whether books are the same but for the order of payments and attendances. -/
structure Alike (books other : Books) : Prop where
  /-- The tickets are the same. -/
  tickets : other.tickets = books.tickets
  /-- The codes are the same. -/
  codes : other.codes = books.codes
  /-- The uses are the same. -/
  uses : other.uses = books.uses
  /-- The payments are the same in some order. -/
  payments : other.payments.Perm books.payments
  /-- The attendances are the same in some order. -/
  attendances : other.attendances.Perm books.attendances

end Books

namespace Amendment

/-- Nothing is changed. -/
def nothing : Amendment := ⟨[], .available, none, [], []⟩

/-- The tickets of a reservation become available again and its use of a code is returned. -/
def release (reservation : Reservation) : Amendment :=
  ⟨reservation.tickets, .available, some reservation.id, [], []⟩

/-- The tickets of a reservation are sold. -/
def sale (reservation : Reservation) (notification : PaymentNotification) : Amendment :=
  ⟨reservation.tickets, .sold, none, [Transaction.paymentRecord reservation notification],
    attendancesOf reservation.event reservation.tickets reservation.visitors⟩

/-- Whether an amendment is about nothing but a reservation and its tickets. -/
structure Concerns (amendment : Amendment) (id : TrackingId) (ids : List Uuid) : Prop where
  /-- Other tickets stay as they are. -/
  tickets : amendment.tickets ⊆ ids
  /-- Only the reservation returns its use. -/
  returned : ∀ number, amendment.returned = some number → number = id
  /-- Only its payment is entered. -/
  payments : ∀ record ∈ amendment.payments, record.id = id
  /-- Only its visitors are entered. -/
  attendances : ∀ attendance ∈ amendment.attendances, attendance.ticket ∈ ids

variable {books after : Books} {id other : TrackingId} {ids others : List Uuid}
  {first second : Amendment}

/-- Changing nothing concerns anything. -/
theorem nothing_concerns (id : TrackingId) (ids : List Uuid) : nothing.Concerns id ids :=
  ⟨List.nil_subset _, nofun, nofun, nofun⟩

/-- A release concerns its reservation. -/
theorem release_concerns (reservation : Reservation) :
    (release reservation).Concerns reservation.id reservation.tickets :=
  ⟨List.Subset.refl _, fun _ same => (Option.some.inj same).symm, nofun, nofun⟩

/-- A sale concerns its reservation. -/
theorem sale_concerns (reservation : Reservation) (notification : PaymentNotification) :
    (sale reservation notification).Concerns reservation.id reservation.tickets := by
  refine ⟨List.Subset.refl _, nofun, fun record member => ?_, fun attendance member => ?_⟩
  · rw [List.mem_singleton.mp member]
    rfl
  · obtain ⟨⟨ticket, visitor⟩, among, rfl⟩ := List.mem_map.mp member
    exact (List.of_mem_zip among).1

/-- Where nothing is changed the books stay as they are. -/
theorem amend_nothing (books : Books) : books.amend nothing = books := by
  apply Books.ext
  · show books.tickets.map _ = books.tickets
    refine (List.map_congr_left fun ticket _ => if_neg ?_).trans (List.map_id _)
    intro among
    exact List.not_mem_nil (Books.isAmong_iff.mp among).1
  · rfl
  · rfl
  · exact List.append_nil _
  · exact List.append_nil _

/-- What a release does is an amendment. -/
theorem amend_release (books : Books) (reservation : Reservation) :
    books.amend (release reservation) = books.freed reservation.tickets reservation.id := by
  obtain ⟨tickets, payments, attendances⟩ := books.freed_frame reservation.tickets reservation.id
  unfold Books.freed at tickets payments attendances ⊢
  apply Books.ext
  · exact tickets.symm
  · show (books.withoutUse reservation.id).codes = _
    simp only [Books.withoutUse, Books.withStatus]
    split <;> rfl
  · show (books.withoutUse reservation.id).uses = _
    simp only [Books.withoutUse, Books.withStatus]
    split <;> rfl
  · rw [payments]
    exact List.append_nil _
  · rw [attendances]
    exact List.append_nil _

/-- What a sale does is an amendment. -/
theorem amend_sale {reservation : Reservation} {notification : PaymentNotification}
    (sold : books.Sold reservation after) (entered : books.Entered reservation notification after) :
    books.amend (sale reservation notification) = after :=
  Books.ext sold.tickets.symm entered.codes.symm sold.uses.symm entered.payments.symm
    entered.attendances.symm

/-- After an amendment the uses on record can be returned if they could before. -/
theorem canReturn_amend (returnable : books.CanReturn) (amendment : Amendment) :
    (books.amend amendment).CanReturn := by
  have returned : (books.returning amendment.returned).CanReturn := by
    cases amendment.returned with
    | none => exact returnable
    | some id => exact returnable.withoutUse id
  exact returned.congr rfl rfl

/-- An amendment that concerns one reservation does not show in what concerns another without a
ticket in common. -/
theorem Concerns.agreesOn (concerns : first.Concerns id ids) (apart : id ≠ other)
    (separate : ids.Disjoint others) (returnable : books.CanReturn) :
    books.AgreesOn other others (books.amend first) := by
  constructor
  · show (books.payments ++ first.payments).any _ = books.payments.any _
    rw [List.any_append]
    have none : (first.payments.any fun record => record.id = other) = false := by
      rw [List.any_eq_false]
      intro record member same
      exact apart ((concerns.payments record member).symm.trans (of_decide_eq_true same))
    rw [none, Bool.or_false]
  · show (books.withStatus first.tickets .pending first.next).rowsOf others = books.rowsOf others
    rw [Books.rowsOf_withStatus]
    refine (List.map_congr_left fun ticket member => if_neg ?_).trans (List.map_id _)
    intro among
    have own : ticket.id ∈ others := List.contains_iff_mem.mp (List.mem_filter.mp member).2
    exact separate (concerns.tickets (Books.isAmong_iff.mp among).1) own
  · intro ticket own
    show (books.attendances ++ first.attendances).any _ = books.attendances.any _
    rw [List.any_append]
    have none : (first.attendances.any fun present => present.ticket = ticket) = false := by
      rw [List.any_eq_false]
      intro attendance member same
      have among := concerns.attendances attendance member
      rw [of_decide_eq_true same] at among
      exact separate among own
    rw [none, Bool.or_false]
  · exact .inr ⟨returnable, canReturn_amend returnable first⟩

end Amendment

namespace Books

variable {id other : TrackingId}

/-- Changes of the first code with some identifier and of the first with another can be made in any
order. -/
theorem changeFirst_comm {change : ReferralCode → ReferralCode}
    (keeps : ∀ referral, (change referral).id = referral.id) (first second : Uuid)
    (codes : List ReferralCode) :
    changeFirst first change (changeFirst second change codes) =
      changeFirst second change (changeFirst first change codes) := by
  by_cases same : first = second
  · rw [same]
  · induction codes with
    | nil => rfl
    | cons referral rest ih =>
      by_cases own : referral.id = first
      · simp only [changeFirst, own, same, ↓reduceIte, keeps]
      · by_cases again : referral.id = second
        · simp only [changeFirst, again, ↓reduceIte, keeps, Ne.symm same]
        · simp only [changeFirst, own, again, ↓reduceIte, ih]

/-- Where the use of one reservation is taken off, that of another is found as before. -/
theorem find?_eraseP (uses : List ReferralUse) (apart : id ≠ other) :
    (uses.eraseP fun use => use.id = other).find? (fun use => use.id = id) =
      uses.find? fun use => use.id = id := by
  induction uses with
  | nil => rfl
  | cons use rest ih =>
    by_cases own : use.id = other
    · have elsewhere : use.id ≠ id := fun same => apart (same.symm.trans own)
      simp only [List.eraseP_cons, own, decide_true, cond_true, List.find?_cons,
        Ne.symm apart, decide_false]
    · simp only [List.eraseP_cons, own, decide_false, cond_false, List.find?_cons, ih]

/-- Returning a use takes the first one under the number off the record and takes it away from its
code. -/
theorem withoutUse_eq (books : Books) (id : TrackingId) :
    books.withoutUse id = { books with
      codes := ((books.uses.find? fun use => use.id = id).map fun use =>
        changeFirst use.code returnUse books.codes).getD books.codes
      uses := books.uses.eraseP fun use => use.id = id } := by
  unfold withoutUse
  cases found : books.uses.find? fun use => use.id = id with
  | some use => rfl
  | none =>
    have missing : books.uses.eraseP (fun use => use.id = id) = books.uses :=
      List.eraseP_of_forall_not (List.find?_eq_none.mp found)
    rw [missing]
    rfl

/-- Two reservations can return their uses in any order. -/
theorem withoutUse_comm (books : Books) (apart : id ≠ other) :
    (books.withoutUse id).withoutUse other = (books.withoutUse other).withoutUse id := by
  have uses : (books.uses.eraseP fun use => use.id = id).eraseP (fun use => use.id = other) =
      (books.uses.eraseP fun use => use.id = other).eraseP fun use => use.id = id := by
    apply List.eraseP_comm
    intro use _
    by_cases own : use.id = id
    · right
      rw [decide_eq_true_eq]
      exact fun again => apart (own.symm.trans again)
    · left
      rwa [decide_eq_true_eq]
  simp only [withoutUse_eq, find?_eraseP _ apart, find?_eraseP _ apart.symm, uses]
  cases books.uses.find? fun use => use.id = id with
  | none => rfl
  | some use =>
    cases books.uses.find? fun use => use.id = other with
    | none => rfl
    | some second =>
      have keeps (referral : ReferralCode) : (returnUse referral).id = referral.id := rfl
      have codes := changeFirst_comm keeps second.code use.code books.codes
      exact Books.ext rfl codes rfl rfl rfl

/-- Tickets of different reservations can change in any order. -/
theorem withStatus_comm (books : Books) {ids others : List Uuid} (separate : ids.Disjoint others)
    (current next last : TicketStatus) :
    ((books.withStatus ids current next).withStatus others current last).tickets =
      ((books.withStatus others current last).withStatus ids current next).tickets := by
  simp only [withStatus, List.map_map]
  refine List.map_congr_left fun ticket _ => ?_
  simp only [Function.comp_apply]
  by_cases among : ticket.id ∈ ids
  · have elsewhere (status : TicketStatus) :
        isAmong others current { ticket with status } = false := by
      rw [Bool.eq_false_iff]
      exact fun again => separate among (isAmong_iff.mp again).1
    have own : isAmong others current ticket = false := elsewhere ticket.status
    by_cases has : isAmong ids current ticket = true
    · simp only [has, ↓reduceIte, elsewhere, Bool.false_eq_true]
    · simp only [has, ↓reduceIte, own, Bool.false_eq_true]
  · have elsewhere (status : TicketStatus) :
        isAmong ids current { ticket with status } = false := by
      rw [Bool.eq_false_iff]
      exact fun again => among (isAmong_iff.mp again).1
    have own : isAmong ids current ticket = false := elsewhere ticket.status
    by_cases has : isAmong others current ticket = true
    · simp only [has, ↓reduceIte, elsewhere, Bool.false_eq_true]
    · simp only [has, ↓reduceIte, own, Bool.false_eq_true]

/-- What is left of codes and uses when a use is returned depends on codes and uses only. -/
theorem returning_congr (books after : Books) (codes : after.codes = books.codes)
    (uses : after.uses = books.uses) (returned : Option TrackingId) :
    (after.returning returned).codes = (books.returning returned).codes ∧
      (after.returning returned).uses = (books.returning returned).uses := by
  cases returned with
  | none => exact ⟨codes, uses⟩
  | some id =>
    simp only [returning, withoutUse_eq, codes, uses, and_self]

/-- Different reservations can return what uses they have in any order. -/
theorem returning_comm (books : Books) {returned again : Option TrackingId}
    (apart : ∀ id, returned = some id → again ≠ some id) :
    (books.returning returned).returning again = (books.returning again).returning returned := by
  cases returned with
  | none => rfl
  | some id =>
    cases again with
    | none => rfl
    | some other =>
      apply withoutUse_comm
      intro same
      exact apart id rfl (congrArg some same.symm)

end Books

namespace Amendment

variable {id other : TrackingId} {ids others : List Uuid} {first second : Amendment}

/-- Amendments that concern different reservations without a ticket in common can be made in any
order. -/
theorem Concerns.comm (concerns : first.Concerns id ids) (too : second.Concerns other others)
    (apart : id ≠ other) (separate : ids.Disjoint others) (books : Books) :
    ((books.amend first).amend second).Alike ((books.amend second).amend first) := by
  have tickets : first.tickets.Disjoint second.tickets := fun ticket early late =>
    separate (concerns.tickets early) (too.tickets late)
  have returned : ∀ number, first.returned = some number → second.returned ≠ some number := by
    intro number early late
    exact apart ((concerns.returned number early).symm.trans (too.returned number late))
  have both := books.returning_comm returned
  obtain ⟨codes, uses⟩ := Books.returning_congr (books.returning first.returned)
    (books.amend first) rfl rfl second.returned
  obtain ⟨codesToo, usesToo⟩ := Books.returning_congr (books.returning second.returned)
    (books.amend second) rfl rfl first.returned
  constructor
  · exact (Books.withStatus_comm books tickets .pending first.next second.next).symm
  · exact codesToo.trans ((congrArg Books.codes both).symm.trans codes.symm)
  · exact usesToo.trans ((congrArg Books.uses both).symm.trans uses.symm)
  · show ((books.payments ++ second.payments) ++ first.payments).Perm
      ((books.payments ++ first.payments) ++ second.payments)
    rw [List.append_assoc, List.append_assoc]
    exact List.perm_append_comm.append_left _
  · show ((books.attendances ++ second.attendances) ++ first.attendances).Perm
      ((books.attendances ++ first.attendances) ++ second.attendances)
    rw [List.append_assoc, List.append_assoc]
    exact List.perm_append_comm.append_left _

end Amendment

end BoxOffice
