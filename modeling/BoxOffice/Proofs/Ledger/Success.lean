import BoxOffice.Proofs.Ledger.Returns

/-!
# Transactions that cannot fail

A ledger in memory that is not made to fail anywhere stays so. If the uses on record can be
returned, tickets that are released and holds that are undone then come to their end: whatever the
tickets have become, those that are pending are available again. A sale comes to its end if nobody
paid before, all tickets are pending, and there is a visitor for each, who is the first. What a
transaction makes of the pending tickets is told for tickets by their identifiers, whether or not
two tickets share one.
-/
namespace BoxOffice

namespace Books

variable {books : Books} {ids : List Uuid} {id : Uuid}

/-- After a change of status the tickets that still have the former one are those that were not to
change. -/
theorem mem_idsOf_left {current next : TicketStatus} (changes : next ≠ current) :
    id ∈ (books.withStatus ids current next).idsOf current ↔
      id ∈ books.idsOf current ∧ id ∉ ids := by
  rw [mem_idsOf, mem_idsOf]
  constructor
  · rintro ⟨changed, present, has, rfl⟩
    obtain ⟨ticket, was, rfl⟩ := List.mem_map.mp present
    by_cases among : isAmong ids current ticket = true
    · simp only [among, ↓reduceIte] at has
      exact absurd has changes
    · simp only [among, Bool.false_eq_true, ↓reduceIte] at has ⊢
      exact ⟨⟨ticket, was, has, rfl⟩, fun listed => among (isAmong_iff.mpr ⟨listed, has⟩)⟩
  · rintro ⟨⟨ticket, was, has, rfl⟩, apart⟩
    have stays : ¬isAmong ids current ticket = true := fun among => apart (isAmong_iff.mp among).1
    exact ⟨ticket, List.mem_map.mpr ⟨ticket, was, if_neg stays⟩, has, rfl⟩

/-- After a change of status a ticket that has the next one had it before or was to take it on. -/
theorem mem_idsOf_reached {current next : TicketStatus}
    (member : id ∈ (books.withStatus ids current next).idsOf next) :
    id ∈ books.idsOf next ∨ id ∈ ids := by
  obtain ⟨changed, present, has, rfl⟩ := mem_idsOf.mp member
  obtain ⟨ticket, was, rfl⟩ := List.mem_map.mp present
  by_cases among : isAmong ids current ticket = true
  · simp only [among, ↓reduceIte]
    exact .inr (isAmong_iff.mp among).1
  · simp only [among, Bool.false_eq_true, ↓reduceIte] at has ⊢
    exact .inl (mem_idsOf.mpr ⟨ticket, was, has, rfl⟩)

/-- After a hold a pending ticket was pending or is held. -/
theorem Held.pending {hold : Hold} {after : Books} (held : books.Held hold after)
    (member : id ∈ after.idsOf .pending) : id ∈ books.idsOf .pending ∨ id ∈ hold.ticketIds := by
  rw [idsOf_congr held.tickets] at member
  exact mem_idsOf_reached member

/-- After a sale the pending tickets are those that were not sold. -/
theorem Sold.pending {reservation : Reservation} {after : Books}
    (sold : books.Sold reservation after) :
    id ∈ after.idsOf .pending ↔ id ∈ books.idsOf .pending ∧ id ∉ reservation.tickets := by
  rw [idsOf_congr sold.tickets]
  exact mem_idsOf_left nofun

/-- After a release the pending tickets are those that were not released. -/
theorem freed_pending {tickets : List Uuid} {number : TrackingId} :
    id ∈ (books.freed tickets number).idsOf .pending ↔
      id ∈ books.idsOf .pending ∧ id ∉ tickets := by
  rw [idsOf_congr (books.freed_frame tickets number).1]
  exact mem_idsOf_left nofun

/-- After a hold was undone the pending tickets are those that it did not hold. -/
theorem undone_pending {isRedeemed : Bool} {tickets : List Uuid} {number : TrackingId} :
    id ∈ (books.undone isRedeemed tickets number).idsOf .pending ↔
      id ∈ books.idsOf .pending ∧ id ∉ tickets := by
  rw [idsOf_congr (books.undone_frame isRedeemed tickets number).1]
  exact mem_idsOf_left nofun

end Books

namespace MemoryLedger

variable {ledger : MemoryLedger} {query : Query} {point : FailPoint}

/-- A query fails at its place if that is made to fail. -/
theorem failureAt?_eq_some (place : failPoint? query = some point)
    (stops : point ∈ ledger.failing) : ledger.failureAt? query = some point := by
  simp only [failureAt?, place, Option.filter_some, List.contains_iff_mem.mpr stops, ↓reduceIte]

/-- A query passes its place if that is not made to fail. -/
theorem failureAt?_eq_none (place : failPoint? query = some point)
    (passes : point ∉ ledger.failing) : ledger.failureAt? query = none := by
  simp only [failureAt?, place, Option.filter_eq_none_iff, Option.some.injEq, forall_eq',
    List.contains_iff_mem]
  exact passes

/-- Where nothing is made to fail every query passes. -/
theorem failureAt?_of_sound (sound : ledger.failing = []) (query : Query) :
    ledger.failureAt? query = none := by
  simp only [failureAt?, sound, List.contains_nil, Option.filter_eq_none_iff, Bool.false_eq_true,
    not_false_eq_true, implies_true]

/-- A query to a ledger in memory leaves the places alone at which it is made to fail. -/
theorem answer_failing (query : Query) (ledger : MemoryLedger) :
    (Ledger.answer query ledger).2.failing = ledger.failing := by
  simp only [Ledger.answer]
  split
  · rfl
  · split <;> rfl

end MemoryLedger

namespace Desk

variable {γ : Type} [Gateway γ] {desk middle later : Desk MemoryLedger γ}

omit [Gateway γ] in
/-- The desk with other books in the open transaction of its ledger. -/
def withStaged (desk : Desk MemoryLedger γ) (books : Books) : Desk MemoryLedger γ :=
  { desk with ledger := { desk.ledger with staged := books } }

/-- A query at a place that is made to fail fails, and nothing happens. -/
theorem attempt_consult_failing {query : Query} {point : FailPoint}
    (stopped : desk.ledger.failureAt? query = some point) :
    desk.attempt (Attempt.consult query) = (.error (.ofFault (.injected point)), desk) := by
  simp only [attempt, Attempt.consult, ExceptT.run_mk, Dialogue.run, answer, Ledger.answer, stopped]
  rfl

/-- A query that the books refuse is refused, and nothing happens. -/
theorem attempt_consult_refused {query : Query} {fault : Fault}
    (passes : desk.ledger.failureAt? query = none)
    (told : desk.ledger.staged.answer query = .error fault) :
    desk.attempt (Attempt.consult query) = (.error (.ofFault fault), desk) := by
  simp only [attempt, Attempt.consult, ExceptT.run_mk, Dialogue.run, answer, Ledger.answer, passes,
    told]
  rfl

/-- A query that the books answer is answered. -/
theorem attempt_consult_answered {query : Query} {value : query.Answer} {books : Books}
    (passes : desk.ledger.failureAt? query = none)
    (told : desk.ledger.staged.answer query = .ok (value, books)) :
    desk.attempt (Attempt.consult query) = (.ok value, desk.withStaged books) := by
  simp only [attempt, Attempt.consult, ExceptT.run_mk, Dialogue.run, answer, Ledger.answer, passes,
    told]
  rfl

/-- Work leaves the places alone at which a ledger in memory is made to fail. -/
theorem attempt_failing {α : Type} (work : Attempt α) (desk : Desk MemoryLedger γ) :
    (desk.attempt work).2.ledger.failing = desk.ledger.failing := by
  have kept (dialogue : Work (Except Abort α)) (desk : Desk MemoryLedger γ) :
      (Dialogue.run answer dialogue desk).2.ledger.failing = desk.ledger.failing := by
    induction dialogue generalizing desk with
    | done value => rfl
    | ask inquiry next ih =>
      cases inquiry with
      | consult query => exact (ih _ _).trans (MemoryLedger.answer_failing query desk.ledger)
      | createBill request => exact ih _ _
      | wallClock => exact ih _ _
  exact kept work.run desk

/-- Work that gives a value leaves the places alone at which the ledger is made to fail. -/
theorem gives_failing {α : Type} {work : Attempt α} {value : α}
    (given : desk.Gives work value later) : later.ledger.failing = desk.ledger.failing := by
  have kept := attempt_failing work desk
  unfold Gives at given
  rw [given] at kept
  exact kept

omit [Gateway γ] in
/-- Ending a transaction leaves the places alone at which a ledger in memory is made to fail. -/
theorem close_failing {α : Type} (isRolledBack : Abort → Bool) (result : Except Abort α)
    (desk : Desk MemoryLedger γ) :
    (close isRolledBack result desk).2.ledger.failing = desk.ledger.failing := by
  cases result with
  | error abort =>
    simp only [close, Ledger.rollBack, Ledger.abandon, MemoryLedger.dropChanges]
    split <;> rfl
  | ok value =>
    simp only [close, Ledger.commit, MemoryLedger.dropChanges]
    split <;> rfl

/-- A transaction leaves the places alone at which a ledger in memory is made to fail. -/
theorem perform_failing (transaction : Transaction) (desk : Desk MemoryLedger γ) :
    (desk.perform transaction).2.ledger.failing = desk.ledger.failing :=
  (close_failing _ _ _).trans (attempt_failing transaction.work
    { desk with ledger := (Ledger.openTransaction desk.ledger).2 })

/-- Pending tickets become available again unless the change of tickets is made to fail. -/
theorem attempt_free (passes : .changeTicketStatus ∉ desk.ledger.failing) (tickets : List Uuid) :
    desk.attempt (Attempt.changeStatus tickets .pending .available) =
      (.ok (desk.ledger.staged.countAmong tickets .pending),
        desk.withStaged (desk.ledger.staged.withStatus tickets .pending .available)) :=
  attempt_consult_answered (MemoryLedger.failureAt?_eq_none rfl passes) rfl

/-- A use is returned unless it meets a counter at its lowest; no ledger in memory is made to fail
there. -/
theorem attempt_releaseUsage (desk : Desk MemoryLedger γ) (id : TrackingId) :
    desk.attempt (Attempt.releaseUsage id) =
      if desk.ledger.staged.isAtBottom id then (.error (.overflowed .difference), desk)
      else (.ok (), desk.withStaged (desk.ledger.staged.withoutUse id)) := by
  have told := desk.ledger.staged.answer_releaseUsage id
  have passes : desk.ledger.failureAt? (.releaseUsage id) = none := rfl
  by_cases bottom : desk.ledger.staged.isAtBottom id = true
  · rw [if_pos bottom] at told ⊢
    exact attempt_consult_refused passes told
  · rw [if_neg bottom] at told ⊢
    exact attempt_consult_answered passes told

omit [Gateway γ] in
/-- A transaction whose work has given a value gives it unless the commit is made to fail. -/
theorem close_value {α : Type} (isRolledBack : Abort → Bool) (value : α)
    (desk : Desk MemoryLedger γ) :
    (close isRolledBack (.ok value) desk).1 =
      if .commit ∈ desk.ledger.failing then .error (.ofFault (.injected .commit))
      else .ok value := by
  simp only [close, Ledger.commit, ← List.contains_iff_mem]
  split <;> rfl

/-- A transaction comes to the end that its work comes to, unless the commit is made to fail. -/
theorem perform_of_gives {transaction : Transaction} {value : transaction.Result}
    (commits : .commit ∉ desk.ledger.failing)
    (given : (desk.withStaged desk.ledger.books).Gives transaction.work value later) :
    (desk.perform transaction).1 = .ok value := by
  have kept := gives_failing given
  have commits : .commit ∉ later.ledger.failing := kept ▸ commits
  have performed : desk.perform transaction = close transaction.isRolledBack
      ((desk.withStaged desk.ledger.books).attempt transaction.work).1
      ((desk.withStaged desk.ledger.books).attempt transaction.work).2 := rfl
  unfold Gives at given
  rw [performed, given, close_value, if_neg commits]

/-- A hold that is to be undone is undone unless the change of its tickets or the commit is made to
fail, if uses can be returned. -/
theorem perform_undoHold_of_sound (changes : .changeTicketStatus ∉ desk.ledger.failing)
    (commits : .commit ∉ desk.ledger.failing) (returnable : desk.books.CanReturn)
    (id : TrackingId) (tickets : List Uuid) (isRedeemed : Bool) :
    (desk.perform (.undoHold id tickets isRedeemed)).1 = .ok () := by
  let opened : Desk MemoryLedger γ := desk.withStaged desk.ledger.books
  have returnable : (desk.ledger.books.withStatus tickets .pending .available).CanReturn :=
    returnable.congr rfl rfl
  have changes : .changeTicketStatus ∉ opened.ledger.failing := changes
  have worked : ∃ later, opened.Gives (Transaction.undoWork id tickets isRedeemed) () later := by
    unfold Gives
    rw [Transaction.undoWork, attempt_bind, attempt_free changes]
    cases isRedeemed with
    | false => exact ⟨_, rfl⟩
    | true =>
      refine ⟨_, (attempt_releaseUsage _ id).trans (if_neg ?_)⟩
      exact Bool.eq_false_iff.mp (returnable.isAtBottom id)
  obtain ⟨later, given⟩ := worked
  exact perform_of_gives commits given

/-- Where nothing is made to fail and uses can be returned, a hold that is to be undone is undone. -/
theorem perform_undoHold (sound : desk.ledger.failing = []) (returnable : desk.books.CanReturn)
    (id : TrackingId) (tickets : List Uuid) (isRedeemed : Bool) :
    (desk.perform (.undoHold id tickets isRedeemed)).1 = .ok () := by
  apply perform_undoHold_of_sound _ _ returnable
  · exact sound ▸ List.not_mem_nil
  · exact sound ▸ List.not_mem_nil

omit [Gateway γ] in
/-- A ledger in memory undoes a transaction alike whether it is told to or left to it. -/
theorem close_alike {α : Type} (isRolledBack isRolledBackToo : Abort → Bool)
    (result : Except Abort α) (desk : Desk MemoryLedger γ) :
    close isRolledBack result desk = close isRolledBackToo result desk := by
  cases result with
  | ok value => rfl
  | error abort =>
    simp only [close, Ledger.rollBack, Ledger.abandon, ite_self]

/-- Tickets are released alike on the word of the gateway and because time ran out. -/
theorem perform_reclaim_eq (desk : Desk MemoryLedger γ) (reservation : Reservation) :
    desk.perform (.reclaim reservation) = desk.perform (.release reservation) :=
  close_alike _ _ _ _

/-- The work of a release frees the tickets and returns the use, unless that meets a counter at its
lowest. -/
theorem attempt_releaseWork (passes : .changeTicketStatus ∉ desk.ledger.failing)
    (reservation : Reservation) :
    let books := desk.ledger.staged.withStatus reservation.tickets .pending .available
    desk.attempt (Transaction.releaseWork reservation) =
      if desk.ledger.staged.isAtBottom reservation.id then
        (.error (.overflowed .difference), desk.withStaged books)
      else
        (.ok (desk.ledger.staged.countAmong reservation.tickets .pending),
          desk.withStaged (books.withoutUse reservation.id)) := by
  intro books
  have same : (desk.withStaged books).ledger.staged.isAtBottom reservation.id =
      desk.ledger.staged.isAtBottom reservation.id := rfl
  have returns := (desk.withStaged books).attempt_releaseUsage reservation.id
  rw [same] at returns
  rw [Transaction.releaseWork, attempt_bind, attempt_free passes]
  show (desk.withStaged books).attempt (Attempt.releaseUsage reservation.id >>= fun _ =>
    pure (desk.ledger.staged.countAmong reservation.tickets .pending)) = _
  rw [attempt_bind, returns]
  by_cases bottom : desk.ledger.staged.isAtBottom reservation.id = true
  · rw [if_pos bottom, if_pos bottom]
  · rw [if_neg bottom, if_neg bottom]
    rfl

/-- Tickets are released unless the change of their status or the commit is made to fail, or the use
of a code meets its counter at its lowest, and those are counted that were pending. -/
theorem perform_release_fate (desk : Desk MemoryLedger γ) (reservation : Reservation) :
    (desk.perform (.release reservation)).1 =
      if .changeTicketStatus ∈ desk.ledger.failing then
        .error (.ofFault (.injected .changeTicketStatus))
      else if desk.books.isAtBottom reservation.id then .error (.overflowed .difference)
      else if .commit ∈ desk.ledger.failing then .error (.ofFault (.injected .commit))
      else .ok (desk.books.countAmong reservation.tickets .pending) := by
  let opened : Desk MemoryLedger γ := desk.withStaged desk.ledger.books
  have performed : desk.perform (.release reservation) =
      close (Transaction.release reservation).isRolledBack
        (opened.attempt (Transaction.releaseWork reservation)).1
        (opened.attempt (Transaction.releaseWork reservation)).2 := rfl
  rw [performed]
  by_cases stops : .changeTicketStatus ∈ desk.ledger.failing
  · have stopped :
        opened.ledger.failureAt? (.changeStatus reservation.tickets .pending .available) =
          some .changeTicketStatus :=
      MemoryLedger.failureAt?_eq_some rfl stops
    have fails : opened.attempt (Attempt.changeStatus reservation.tickets .pending .available) =
        (.error (.ofFault (.injected .changeTicketStatus)), opened) :=
      attempt_consult_failing stopped
    rw [Transaction.releaseWork, attempt_bind, fails, if_pos stops]
    rfl
  · have passes : .changeTicketStatus ∉ opened.ledger.failing := stops
    have same : opened.ledger.staged.isAtBottom reservation.id =
        desk.books.isAtBottom reservation.id := rfl
    rw [attempt_releaseWork passes, if_neg stops, same]
    by_cases bottom : desk.books.isAtBottom reservation.id = true
    · rw [if_pos bottom, if_pos bottom]
      rfl
    · rw [if_neg bottom, if_neg bottom, close_value]
      rfl

/-- Where nothing is made to fail and uses can be returned, tickets that the gateway tells to release
are released. -/
theorem perform_release (sound : desk.ledger.failing = []) (returnable : desk.books.CanReturn)
    (reservation : Reservation) :
    (desk.perform (.release reservation)).1 =
      .ok (desk.books.countAmong reservation.tickets .pending) := by
  rw [perform_release_fate, sound, returnable.isAtBottom, if_neg List.not_mem_nil,
    if_neg Bool.false_ne_true, if_neg List.not_mem_nil]

/-- Where nothing is made to fail and uses can be returned, tickets whose time has run out are
released. -/
theorem perform_reclaim (sound : desk.ledger.failing = []) (returnable : desk.books.CanReturn)
    (reservation : Reservation) :
    (desk.perform (.reclaim reservation)).1 =
      .ok (desk.books.countAmong reservation.tickets .pending) := by
  rw [perform_reclaim_eq]
  exact perform_release sound returnable reservation

section Sale

variable {reservation : Reservation}

/-- Work that goes on gives a value if its parts do. -/
theorem Gives.andThen {α β : Type} {work : Attempt α} {next : α → Attempt β} {found : α} {value : β}
    (first : desk.Gives work found middle) (second : middle.Gives (next found) value later) :
    desk.Gives (work >>= next) value later := by
  unfold Gives at first second ⊢
  rw [attempt_bind, first]
  exact second

/-- Work goes on after a condition that holds. -/
theorem gives_of_demand {condition : Bool} (refusal : Refusal) (holds : condition = true) :
    desk.Gives (Attempt.demand condition refusal) () desk := by
  rw [holds]
  rfl

/-- Where nothing is made to fail a query gives what the books answer. -/
theorem gives_of_answer {query : Query} {value : query.Answer} {books : Books}
    (sound : desk.ledger.failing = [])
    (told : desk.ledger.staged.answer query = .ok (value, books)) :
    desk.Gives (Attempt.consult query) value (desk.withStaged books) :=
  attempt_consult_answered (MemoryLedger.failureAt?_of_sound sound query) told

/-- Where nothing is made to fail attendances are entered for tickets that have none, if there is a
visitor for each. -/
theorem attendWork_gives (event : Uuid) {tickets : List Uuid} {visitors : List VisitorDetails}
    (sound : desk.ledger.failing = []) (enough : tickets.length ≤ visitors.length)
    (separate : tickets.Nodup)
    (fresh : ∀ ticket ∈ tickets, ticket ∉ desk.ledger.staged.attendances.map (·.ticket)) :
    ∃ later, desk.Gives (Transaction.attendWork event tickets visitors) () later := by
  induction tickets generalizing visitors desk with
  | nil => exact ⟨desk, rfl⟩
  | cons ticket rest ih =>
    cases visitors with
    | nil => exact absurd enough (Nat.not_succ_le_zero _)
    | cons visitor visitors =>
      obtain ⟨first, others⟩ := List.nodup_cons.mp separate
      let attendance : Attendance := ⟨event, ticket, visitor.json⟩
      let books : Books := { desk.ledger.staged with
        attendances := desk.ledger.staged.attendances ++ [attendance] }
      have absent : ¬desk.ledger.staged.attendances.any
          (fun present => present.ticket = ticket) = true := by
        intro among
        obtain ⟨present, member, same⟩ := List.any_eq_true.mp among
        exact fresh ticket List.mem_cons_self
          (List.mem_map.mpr ⟨present, member, of_decide_eq_true same⟩)
      have entered : desk.ledger.staged.withAttendance attendance = .ok books := if_neg absent
      have told : desk.ledger.staged.answer (.insertAttendance attendance) = .ok ((), books) := by
        simp only [Books.answer, entered, Except.map]
      have freshLater : ∀ other ∈ rest, other ∉ books.attendances.map (·.ticket) := by
        intro other member among
        rw [List.map_append, List.mem_append, List.map_singleton, List.mem_singleton] at among
        rcases among with old | rfl
        · exact fresh other (List.mem_cons_of_mem _ member) old
        · exact first member
      have next : (desk.withStaged books).ledger.failing = [] := sound
      obtain ⟨later, given⟩ := ih next (Nat.le_of_succ_le_succ enough) others freshLater
      exact ⟨later, (gives_of_answer sound told).andThen given⟩

/-- Where nothing is made to fail pending tickets are sold that nobody paid for, if there is a
visitor for each and none has one yet. -/
theorem sellWork_gives (notification : PaymentNotification) (sound : desk.ledger.failing = [])
    (unpaid : desk.ledger.staged.paymentExists reservation.id = false)
    (counted : desk.ledger.staged.countAmong reservation.tickets .pending =
      reservation.tickets.length)
    (enough : reservation.tickets.length ≤ reservation.visitors.length)
    (separate : reservation.tickets.Nodup)
    (fresh : ∀ ticket ∈ reservation.tickets,
      ticket ∉ desk.ledger.staged.attendances.map (·.ticket)) :
    ∃ later, desk.Gives (Transaction.sellWork reservation notification)
      (.sold reservation.tickets.length) later := by
  let record := Transaction.paymentRecord reservation notification
  let paid : Books := { desk.ledger.staged with
    payments := desk.ledger.staged.payments ++ [record] }
  let sold : Books := paid.withStatus reservation.tickets .pending .sold
  have unrecorded : desk.ledger.staged.answer (.paymentExists reservation.id) =
      .ok (false, desk.ledger.staged) := by
    simp only [Books.answer, unpaid]
  have asked : desk.Gives (Attempt.paymentExists reservation.id) false desk :=
    gives_of_answer sound unrecorded
  have recorded : desk.ledger.staged.withPayment record = .ok paid :=
    if_neg (Bool.eq_false_iff.mp unpaid)
  have told : desk.ledger.staged.answer (.insertPayment record) = .ok ((), paid) := by
    simp only [Books.answer, recorded, Except.map]
  have entered : desk.Gives (Attempt.insertPayment record) () (desk.withStaged paid) :=
    gives_of_answer sound told
  have changed : (desk.withStaged paid).Gives
      (Attempt.changeStatus reservation.tickets .pending .sold)
      (paid.countAmong reservation.tickets .pending) (desk.withStaged sold) :=
    gives_of_answer sound rfl
  have soundLater : (desk.withStaged sold).ledger.failing = [] := sound
  obtain ⟨later, attended⟩ := attendWork_gives reservation.event soundLater enough separate fresh
  refine ⟨later, asked.andThen (entered.andThen (changed.andThen ?_))⟩
  exact (gives_of_demand _ (decide_eq_true counted)).andThen (attended.andThen rfl)

/-- Where nothing is made to fail pending tickets that nobody paid for are sold, if there is a
visitor for each and none has one yet. -/
theorem perform_sell (notification : PaymentNotification) (sound : desk.ledger.failing = [])
    (unpaid : desk.books.paymentExists reservation.id = false)
    (counted : desk.books.countAmong reservation.tickets .pending = reservation.tickets.length)
    (enough : reservation.tickets.length ≤ reservation.visitors.length)
    (separate : reservation.tickets.Nodup)
    (fresh : ∀ ticket ∈ reservation.tickets, ticket ∉ desk.books.attendances.map (·.ticket)) :
    (desk.perform (.sell reservation notification)).1 = .ok (.sold reservation.tickets.length) := by
  let opened : Desk MemoryLedger γ := desk.withStaged desk.ledger.books
  have soundToo : opened.ledger.failing = [] := sound
  obtain ⟨later, given⟩ :=
    sellWork_gives notification soundToo unpaid counted enough separate fresh
  exact perform_of_gives (sound ▸ List.not_mem_nil) given

end Sale

end Desk

end BoxOffice
