import BoxOffice.Proofs.Ledger.Success

/-!
# What a transaction looks at

A sale or a release reads only what the books tell about its own reservation: its payment, the rows
of its tickets and their visitors. Two ledgers in memory that are made to fail at the same places
and agree on all this bring such a transaction to the same end, whatever else they hold, if uses are
returned alike in both.
-/
namespace BoxOffice

namespace Books

variable {books other : Books} {id : TrackingId} {ids : List Uuid}

/-- The rows of some tickets. -/
def rowsOf (books : Books) (ids : List Uuid) : List Ticket :=
  books.tickets.filter fun ticket => ids.contains ticket.id

/-- Whether someone is to come with a ticket. -/
def isAttended (books : Books) (ticket : Uuid) : Bool :=
  books.attendances.any fun present => present.ticket = ticket

/-- Whether uses are returned alike in two books: they have the same codes and uses, or each use on
record can be returned in both. -/
def ReturnAlike (books other : Books) : Prop :=
  other.codes = books.codes ∧ other.uses = books.uses ∨ books.CanReturn ∧ other.CanReturn

/-- Where uses are returned alike, a use meets a counter at its lowest in both or in neither. -/
theorem ReturnAlike.isAtBottom (alike : books.ReturnAlike other) (id : TrackingId) :
    other.isAtBottom id = books.isAtBottom id := by
  rcases alike with ⟨codes, uses⟩ | ⟨returnable, returnableToo⟩
  · unfold Books.isAtBottom
    rw [codes, uses]
  · rw [returnable.isAtBottom, returnableToo.isAtBottom]

/-- Where uses are returned alike they still are after one was. -/
theorem ReturnAlike.withoutUse (alike : books.ReturnAlike other) (id : TrackingId) :
    (books.withoutUse id).ReturnAlike (other.withoutUse id) := by
  rcases alike with ⟨codes, uses⟩ | ⟨returnable, returnableToo⟩
  · left
    unfold Books.withoutUse
    rw [uses]
    cases books.uses.find? fun use => use.id = id with
    | none => exact ⟨codes, uses⟩
    | some use => exact ⟨congrArg (changeFirst use.code returnUse) codes, rfl⟩
  · exact .inr ⟨returnable.withoutUse id, returnableToo.withoutUse id⟩

/-- Whether two books tell the same about a reservation and its tickets, and return uses alike. -/
structure AgreesOn (id : TrackingId) (ids : List Uuid) (books other : Books) : Prop where
  /-- The bill has been paid in both or in neither. -/
  payment : other.paymentExists id = books.paymentExists id
  /-- The tickets are the same. -/
  rows : other.rowsOf ids = books.rowsOf ids
  /-- The same tickets have a visitor. -/
  visitors : ∀ ticket ∈ ids, other.isAttended ticket = books.isAttended ticket
  /-- Uses are returned alike. -/
  returns : books.ReturnAlike other

/-- How many of some tickets have a status is told by their rows. -/
theorem countAmong_eq (books : Books) (ids : List Uuid) (status : TicketStatus) :
    books.countAmong ids status =
      (books.rowsOf ids).countP fun ticket => decide (ticket.status = status) := by
  unfold countAmong rowsOf
  rw [List.countP_filter]
  exact List.countP_congr fun ticket _ => by
    simp only [isAmong, Bool.and_comm]

/-- A change of status changes the rows of the tickets one by one. -/
theorem rowsOf_withStatus (books : Books) (ids changed : List Uuid) (current next : TicketStatus) :
    (books.withStatus changed current next).rowsOf ids =
      (books.rowsOf ids).map fun ticket =>
        if isAmong changed current ticket then { ticket with status := next } else ticket := by
  unfold rowsOf withStatus
  rw [List.filter_map]
  congr 1
  refine List.filter_congr fun ticket _ => ?_
  simp only [Function.comp_apply]
  split <;> rfl

/-- Books that agree still do so after the same change of status. -/
theorem AgreesOn.withStatus (agrees : AgreesOn id ids books other) (changed : List Uuid)
    (current next : TicketStatus) :
    AgreesOn id ids (books.withStatus changed current next)
      (other.withStatus changed current next) := by
  refine ⟨agrees.payment, ?_, agrees.visitors, agrees.returns⟩
  rw [rowsOf_withStatus, rowsOf_withStatus, agrees.rows]

/-- Books that agree still do so after the same payment was entered. -/
theorem AgreesOn.withPayment (agrees : AgreesOn id ids books other) (record : PaymentRecord) :
    AgreesOn id ids { books with payments := books.payments ++ [record] }
      { other with payments := other.payments ++ [record] } := by
  refine ⟨?_, agrees.rows, agrees.visitors, agrees.returns⟩
  have payment := agrees.payment
  unfold paymentExists at payment ⊢
  rw [List.any_append, List.any_append, payment]

/-- Books that agree still do so after the same attendance was entered. -/
theorem AgreesOn.withAttendance (agrees : AgreesOn id ids books other) (attendance : Attendance) :
    AgreesOn id ids { books with attendances := books.attendances ++ [attendance] }
      { other with attendances := other.attendances ++ [attendance] } := by
  refine ⟨agrees.payment, agrees.rows, fun ticket member => ?_, agrees.returns⟩
  have visitors := agrees.visitors ticket member
  unfold isAttended at visitors ⊢
  rw [List.any_append, List.any_append, visitors]

/-- Books that agree still do so after a use was returned. -/
theorem AgreesOn.withoutUse (agrees : AgreesOn id ids books other) (returned : TrackingId) :
    AgreesOn id ids (books.withoutUse returned) (other.withoutUse returned) := by
  obtain ⟨tickets, payments, attendances⟩ := books.withoutUse_frame returned
  obtain ⟨ticketsOther, paymentsOther, attendancesOther⟩ := other.withoutUse_frame returned
  constructor
  · rw [paymentExists_congr payments, paymentExists_congr paymentsOther]
    exact agrees.payment
  · unfold rowsOf
    rw [tickets, ticketsOther]
    exact agrees.rows
  · unfold isAttended
    rw [attendances, attendancesOther]
    exact agrees.visitors
  · exact agrees.returns.withoutUse returned

end Books

/-- Whether books that agree on a reservation and its tickets answer a query alike, and agree after
it. -/
def Query.IsLocal (id : TrackingId) (ids : List Uuid) (query : Query) : Prop :=
  ∀ books other : Books, books.AgreesOn id ids other →
    (∃ fault, books.answer query = .error fault ∧ other.answer query = .error fault) ∨
      ∃ value after later, books.answer query = .ok (value, after) ∧
        other.answer query = .ok (value, later) ∧ after.AgreesOn id ids later

namespace Query

variable {id : TrackingId} {ids : List Uuid}

/-- Whether a bill has been paid is told of its reservation. -/
theorem isLocal_paymentExists : (paymentExists id).IsLocal id ids := by
  intro books other agrees
  have told : other.answer (.paymentExists id) = .ok (books.paymentExists id, other) := by
    simp only [Books.answer, agrees.payment]
  exact .inr ⟨_, books, other, rfl, told, agrees⟩

/-- The payment of a bill is entered unless there is one. -/
theorem isLocal_insertPayment {record : PaymentRecord} (own : record.id = id) :
    (insertPayment record).IsLocal id ids := by
  intro books other agrees
  have payment := agrees.payment
  rw [← own] at payment
  simp only [Books.answer, Books.withPayment, payment]
  by_cases paid : books.paymentExists record.id = true
  · left
    rw [if_pos paid, if_pos paid]
    exact ⟨_, rfl, rfl⟩
  · right
    rw [if_neg paid, if_neg paid]
    exact ⟨(), _, _, rfl, rfl, agrees.withPayment record⟩

/-- Tickets change in the same way where they are the same. -/
theorem isLocal_changeStatus (current next : TicketStatus) :
    (changeStatus ids current next).IsLocal id ids := by
  intro books other agrees
  have count : other.countAmong ids current = books.countAmong ids current := by
    rw [Books.countAmong_eq, Books.countAmong_eq, agrees.rows]
  simp only [Books.answer, count]
  by_cases allowed : current.canBecome next = true
  · right
    rw [if_pos allowed, if_pos allowed]
    exact ⟨_, _, _, rfl, rfl, agrees.withStatus ids current next⟩
  · left
    rw [if_neg allowed, if_neg allowed]
    exact ⟨_, rfl, rfl⟩

/-- A use is returned where uses are returned alike. -/
theorem isLocal_releaseUsage (returned : TrackingId) :
    (releaseUsage returned).IsLocal id ids := by
  intro books other agrees
  rw [Books.answer_releaseUsage, Books.answer_releaseUsage, agrees.returns.isAtBottom]
  by_cases bottom : books.isAtBottom returned = true
  · left
    rw [if_pos bottom, if_pos bottom]
    exact ⟨_, rfl, rfl⟩
  · right
    rw [if_neg bottom, if_neg bottom]
    exact ⟨(), _, _, rfl, rfl, agrees.withoutUse returned⟩

/-- A visitor is entered for a ticket unless it has one. -/
theorem isLocal_insertAttendance {attendance : Attendance} (own : attendance.ticket ∈ ids) :
    (insertAttendance attendance).IsLocal id ids := by
  intro books other agrees
  have visitor : other.isAttended attendance.ticket = books.isAttended attendance.ticket :=
    agrees.visitors attendance.ticket own
  unfold Books.isAttended at visitor
  simp only [Books.answer, Books.withAttendance, visitor]
  by_cases attended : (books.attendances.any fun present =>
      present.ticket = attendance.ticket) = true
  · left
    rw [if_pos attended, if_pos attended]
    exact ⟨_, rfl, rfl⟩
  · right
    rw [if_neg attended, if_neg attended]
    exact ⟨(), _, _, rfl, rfl, agrees.withAttendance attendance⟩

end Query

namespace Desk

variable {γ : Type} {id : TrackingId} {ids : List Uuid}

/-- Whether the ledgers of two desks are made to fail at the same places, and their open
transactions see books that agree on a reservation and its tickets. -/
structure AgreesOn (id : TrackingId) (ids : List Uuid) (desk other : Desk MemoryLedger γ) :
    Prop where
  /-- They are made to fail at the same places. -/
  failing : other.ledger.failing = desk.ledger.failing
  /-- The books agree. -/
  staged : desk.ledger.staged.AgreesOn id ids other.ledger.staged

variable [Gateway γ] {α β : Type}

/-- Whether some work comes to the same end at desks that agree on a reservation and its tickets,
and leaves them so. -/
def IsLocal (γ : Type) [Gateway γ] (id : TrackingId) (ids : List Uuid) (work : Attempt α) : Prop :=
  ∀ desk other : Desk MemoryLedger γ, desk.AgreesOn id ids other →
    (other.attempt work).1 = (desk.attempt work).1 ∧
      (desk.attempt work).2.AgreesOn id ids (other.attempt work).2

/-- Work that gives a value at once does so everywhere. -/
theorem isLocal_pure (value : α) : IsLocal γ id ids (pure value : Attempt α) :=
  fun _ _ agrees => ⟨rfl, agrees⟩

/-- Work that refuses does so everywhere. -/
theorem isLocal_refuse (refusal : Refusal) :
    IsLocal γ id ids (Attempt.refuse refusal : Attempt α) :=
  fun _ _ agrees => ⟨rfl, agrees⟩

/-- A condition that is demanded is met everywhere or nowhere. -/
theorem isLocal_demand (condition : Bool) (refusal : Refusal) :
    IsLocal γ id ids (Attempt.demand condition refusal) := by
  cases condition with
  | false => exact isLocal_refuse refusal
  | true => exact isLocal_pure ()

/-- Work that goes on is local if its parts are. -/
theorem IsLocal.bind {work : Attempt α} {next : α → Attempt β} (first : IsLocal γ id ids work)
    (rest : ∀ value, IsLocal γ id ids (next value)) : IsLocal γ id ids (work >>= next) := by
  intro desk other agrees
  obtain ⟨same, agree⟩ := first desk other agrees
  rw [attempt_bind, attempt_bind]
  cases worked : desk.attempt work with
  | mk result later =>
    cases workedOther : other.attempt work with
    | mk resultOther laterOther =>
      rw [worked, workedOther] at same agree
      obtain rfl : resultOther = result := same
      cases resultOther with
      | error abort => exact ⟨rfl, agree⟩
      | ok value => exact rest value later laterOther agree

/-- A query is asked with the same outcome where the books answer it alike. -/
theorem isLocal_consult {query : Query} (isLocal : query.IsLocal id ids) :
    IsLocal γ id ids (Attempt.consult query) := by
  intro desk other agrees
  have stops : other.ledger.failureAt? query = desk.ledger.failureAt? query := by
    unfold MemoryLedger.failureAt?
    rw [agrees.failing]
  cases stopped : desk.ledger.failureAt? query with
  | some point =>
    rw [attempt_consult_failing stopped, attempt_consult_failing (stops.trans stopped)]
    exact ⟨rfl, agrees⟩
  | none =>
    have passes := stops.trans stopped
    rcases isLocal _ _ agrees.staged with ⟨fault, told, toldOther⟩ |
      ⟨value, after, later, told, toldOther, agree⟩
    · rw [attempt_consult_refused stopped told, attempt_consult_refused passes toldOther]
      exact ⟨rfl, agrees⟩
    · rw [attempt_consult_answered stopped told, attempt_consult_answered passes toldOther]
      exact ⟨rfl, agrees.failing, agree⟩

/-- A release looks at its own reservation only. -/
theorem isLocal_releaseWork (reservation : Reservation) :
    IsLocal γ reservation.id reservation.tickets (Transaction.releaseWork reservation) := by
  apply IsLocal.bind (isLocal_consult (Query.isLocal_changeStatus _ _))
  intro released
  apply IsLocal.bind (isLocal_consult (Query.isLocal_releaseUsage _))
  intro _
  exact isLocal_pure released

/-- The entry of attendances looks at the tickets that they are entered for. -/
theorem isLocal_attendWork (event : Uuid) {tickets : List Uuid} (own : tickets ⊆ ids)
    (visitors : List VisitorDetails) :
    IsLocal γ id ids (Transaction.attendWork event tickets visitors) := by
  induction tickets generalizing visitors with
  | nil => exact isLocal_pure ()
  | cons ticket rest ih =>
    obtain ⟨member, others⟩ := List.cons_subset.mp own
    cases visitors with
    | nil => exact isLocal_refuse _
    | cons visitor visitors =>
      apply IsLocal.bind (isLocal_consult (Query.isLocal_insertAttendance member))
      intro _
      exact ih others visitors

/-- A sale looks at its own reservation only. -/
theorem isLocal_sellWork (reservation : Reservation) (notification : PaymentNotification) :
    IsLocal γ reservation.id reservation.tickets
      (Transaction.sellWork reservation notification) := by
  apply IsLocal.bind (isLocal_consult Query.isLocal_paymentExists)
  intro isRecorded
  cases isRecorded with
  | true => exact isLocal_pure _
  | false =>
    have payment : (Query.insertPayment
        (Transaction.paymentRecord reservation notification)).IsLocal reservation.id
          reservation.tickets :=
      Query.isLocal_insertPayment rfl
    rw [if_neg Bool.false_ne_true]
    apply IsLocal.bind (isLocal_consult payment)
    intro _
    apply IsLocal.bind (isLocal_consult (Query.isLocal_changeStatus _ _))
    intro sold
    apply IsLocal.bind (isLocal_demand _ _)
    intro _
    apply IsLocal.bind (isLocal_attendWork _ (List.Subset.refl _) _)
    intro _
    exact isLocal_pure _

/-- A transaction whose work is local comes to the same end where what is committed agrees. -/
theorem perform_local (transaction : Transaction) {desk other : Desk MemoryLedger γ}
    (isLocal : IsLocal γ id ids transaction.work)
    (failing : other.ledger.failing = desk.ledger.failing)
    (agrees : desk.books.AgreesOn id ids other.books) :
    (other.perform transaction).1 = (desk.perform transaction).1 := by
  let opened (desk : Desk MemoryLedger γ) : Desk MemoryLedger γ :=
    { desk with ledger := (Ledger.openTransaction desk.ledger).2 }
  obtain ⟨same, agree⟩ := isLocal (opened desk) (opened other) ⟨failing, agrees⟩
  show (close transaction.isRolledBack ((opened other).attempt transaction.work).1
      ((opened other).attempt transaction.work).2).1 =
    (close transaction.isRolledBack ((opened desk).attempt transaction.work).1
      ((opened desk).attempt transaction.work).2).1
  rw [same]
  cases ((opened desk).attempt transaction.work).1 with
  | error abort => rfl
  | ok value =>
    simp only [close, Ledger.commit]
    rw [agree.failing]
    by_cases ends :
        ((opened desk).attempt transaction.work).2.ledger.failing.contains .commit = true
    · rw [if_pos ends, if_pos ends]
    · rw [if_neg ends, if_neg ends]

end Desk

end BoxOffice
