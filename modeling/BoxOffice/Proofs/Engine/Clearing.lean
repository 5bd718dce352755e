import BoxOffice.Proofs.Engine.Service
import BoxOffice.Proofs.Ledger.Amendment
import BoxOffice.Proofs.Turn

/-!
# Clearings

A reservation is cleared when a notification settles it, when it is released, or when its timer
fires. Whatever the ledger, the gateway takes no part, and one transaction with the ledger decides:
`Clearing.judge` is what comes of it at the desk. All else that a clearing does follows from the
outcome, and `run_clearing` says how: a clearing that is refused leaves the store as it was and
sends no mail, and unless it was a release on demand it has the timer armed. One that ends in an
overflow has taken the reservation and tells nobody anything.
-/
namespace BoxOffice

/-- What clears a reservation. -/
inductive Clearing where
  /-- The gateway notifies of what became of the bill. -/
  | settle (notification : PaymentNotification)
  /-- The reservation is released on demand. -/
  | reap (id : TrackingId)
  /-- The timer fires. -/
  | expire (id : TrackingId)

namespace Clearing

/-- What comes of a clearing that does not fail. -/
@[reducible]
def Result : Clearing → Type
  | .settle _ => SettlementOutcome
  | .reap _ | .expire _ => ReapOutcome

/-- The number of the reservation that is to be cleared. -/
def id : Clearing → TrackingId
  | .settle notification => notification.trackingId
  | .reap id | .expire id => id

/-- The service that clears a reservation. -/
def program : (clearing : Clearing) → Program (Except Abort clearing.Result)
  | .settle notification => Settlement.settle notification
  | .reap id => Release.reap id
  | .expire id => Release.watch id

/-- Whether a clearing that came to an end has taken the reservation out of the store. -/
def isTaken : (clearing : Clearing) → Except Abort clearing.Result → Bool
  | _, .error (.refused _) => false
  | _, .error (.overflowed _) => true
  | .settle _, .ok _ => true
  | .reap _, .ok outcome | .expire _, .ok outcome => decide (outcome ≠ .alreadySettled)

/-- What the reaper is told by a clearing that has found some reservation. -/
def orders (clearing : Clearing) (found : Option Reservation) (due : Nat)
    (result : Except Abort clearing.Result) : List Reaper.Command :=
  match clearing, found, result with
  | .settle notification, some _, .ok _ => [.resolve notification.trackingId]
  | .settle notification, some _, .error (.refused _) => [.schedule notification.trackingId due]
  | .expire id, _, .error (.refused _) => [.schedule id due]
  | _, _, _ => []

/-- The mails that a clearing sends. -/
def mails (clearing : Clearing) (found : Option Reservation)
    (result : Except Abort clearing.Result) : List ConfirmationMail :=
  match clearing, found, result with
  | .settle notification, some reservation, .ok (.sold _) =>
    if notification.senderEmail.isEmpty then [] else [Settlement.mailOf reservation notification]
  | _, _, _ => []

/-- The reports that a clearing publishes. -/
def reports : (clearing : Clearing) → Except Abort clearing.Result → List ReapEvent
  | .expire _, .error (.overflowed _) => []
  | .expire id, result => [⟨id, result⟩]
  | _, _ => []

section Desk

variable {σ γ : Type} [Ledger σ] [Gateway γ]

/-- What comes at the desk of a settlement that has found some reservation. -/
def judgeSettlement (notification : PaymentNotification) (found : Option Reservation)
    (desk : Desk σ γ) : Except Abort SettlementOutcome × Desk σ γ :=
  match found with
  | none => (.ok .duplicate, desk)
  | some reservation =>
    if notification.isPaid then desk.perform (.sell reservation notification)
    else
      let performed := desk.perform (.release reservation)
      (performed.1.map .released, performed.2)

/-- What comes at the desk of a release that finds some reservation, once the ledger has told
whether the bill is paid. -/
def judgeChecked (isPaid : Except Fault Bool) (found : Option Reservation) (desk : Desk σ γ) :
    Except Abort ReapOutcome × Desk σ γ :=
  match isPaid, found with
  | .error fault, _ => (.error (.refused (.persistence fault)), desk)
  | .ok true, _ => (.ok .alreadySettled, desk)
  | .ok false, none => (.ok .alreadyConsumed, desk)
  | .ok false, some reservation =>
    let performed := desk.perform (.reclaim reservation)
    (performed.1.map .released, performed.2)

/-- What comes at the desk of a release that finds some reservation. -/
def judgeRelease (id : TrackingId) (found : Option Reservation) (desk : Desk σ γ) :
    Except Abort ReapOutcome × Desk σ γ :=
  let asked := Ledger.paymentExists id desk.ledger
  judgeChecked asked.1 found { desk with ledger := asked.2 }

/-- What comes of a clearing at the desk if there is some reservation to be found. -/
def judge : (clearing : Clearing) → Option Reservation → Desk σ γ →
    Except Abort clearing.Result × Desk σ γ
  | .settle notification, found, desk => judgeSettlement notification found desk
  | .reap id, found, desk | .expire id, found, desk => judgeRelease id found desk

end Desk

/-- What a settlement that has found some reservation makes of the books. -/
def settlementAmendment (notification : PaymentNotification) (found : Option Reservation)
    (result : Except Abort SettlementOutcome) : Amendment :=
  match found, result with
  | some reservation, .ok (.sold _) => .sale reservation notification
  | some reservation, .ok (.released _) => .release reservation
  | _, _ => .nothing

/-- What a release that has found some reservation makes of the books. -/
def releaseAmendment (found : Option Reservation) (result : Except Abort ReapOutcome) :
    Amendment :=
  match found, result with
  | some reservation, .ok (.released _) => .release reservation
  | _, _ => .nothing

/-- What a clearing that has found some reservation makes of the books. -/
def amendment : (clearing : Clearing) → Option Reservation → Except Abort clearing.Result →
    Amendment
  | .settle notification, found, result => settlementAmendment notification found result
  | .reap _, found, result | .expire _, found, result => releaseAmendment found result

/-- The tickets that a clearing has to do with. -/
def ticketsOf (found : Option Reservation) : List Uuid := (found.map (·.tickets)).getD []

/-- A clearing concerns the reservation that it has found. -/
theorem amendment_concerns (clearing : Clearing) {found : Option Reservation}
    (named : ∀ reservation, found = some reservation → reservation.id = clearing.id)
    (result : Except Abort clearing.Result) :
    (clearing.amendment found result).Concerns clearing.id (ticketsOf found) := by
  cases found with
  | none =>
    have nothing : clearing.amendment none result = .nothing := by
      cases clearing <;> rfl
    rw [nothing]
    exact Amendment.nothing_concerns _ _
  | some reservation =>
    rw [← named reservation rfl]
    have nothing := Amendment.nothing_concerns reservation.id reservation.tickets
    have released (result : Except Abort ReapOutcome) :
        (releaseAmendment (some reservation) result).Concerns reservation.id
          reservation.tickets := by
      rcases result with abort | ⟨tickets | _ | _⟩
      · exact nothing
      · exact Amendment.release_concerns reservation
      · exact nothing
      · exact nothing
    cases clearing with
    | settle notification =>
      rcases result with abort | ⟨tickets | tickets | _⟩
      · exact nothing
      · exact Amendment.sale_concerns reservation notification
      · exact Amendment.release_concerns reservation
      · exact nothing
    | reap id => exact released result
    | expire id => exact released result

section Books

variable {σ γ : Type} [Ledger σ] [Bookkeeping σ] [Gateway γ] {desk : Desk σ γ}

/-- A transaction by which tickets are released amends the books if it gives a value. -/
theorem books_of_release {transaction : Transaction} {reservation : Reservation}
    (releases : transaction = .release reservation ∨ transaction = .reclaim reservation)
    (faithful : desk.IsFaithful) {released : transaction.Result}
    (done : (desk.perform transaction).1 = .ok released) :
    (desk.perform transaction).2.books = desk.books.amend (.release reservation) := by
  have deed := Desk.perform_deed faithful done
  rw [Amendment.amend_release]
  rcases releases with rfl | rfl
  · exact deed
  · exact deed

/-- What a settlement makes of the books follows from its outcome. -/
theorem judgeSettlement_books (notification : PaymentNotification) (found : Option Reservation)
    (faithful : desk.IsFaithful) :
    (judgeSettlement notification found desk).2.books = desk.books.amend
      (settlementAmendment notification found
        (judgeSettlement notification found desk).1) := by
  cases found with
  | none => exact (Amendment.amend_nothing desk.books).symm
  | some reservation =>
    simp only [judgeSettlement]
    by_cases paid : notification.isPaid = true
    · rw [if_pos paid]
      cases done : (desk.perform (.sell reservation notification)).1 with
      | error abort =>
        exact (Desk.perform_error faithful done).trans (Amendment.amend_nothing desk.books).symm
      | ok outcome =>
        rcases Desk.perform_deed faithful done with ⟨rfl, -, same⟩ | ⟨rfl, sold, entered⟩
        · exact same.trans (Amendment.amend_nothing desk.books).symm
        · exact (Amendment.amend_sale sold entered).symm
    · rw [if_neg paid]
      cases done : (desk.perform (.release reservation)).1 with
      | error abort =>
        exact (Desk.perform_error faithful done).trans (Amendment.amend_nothing desk.books).symm
      | ok released => exact books_of_release (.inl rfl) faithful done

/-- What a release makes of the books follows from its outcome. -/
theorem judgeChecked_books (isPaid : Except Fault Bool)
    (found : Option Reservation) (faithful : desk.IsFaithful) :
    (judgeChecked isPaid found desk).2.books = desk.books.amend
      (releaseAmendment found (judgeChecked isPaid found desk).1) := by
  have nothing := (Amendment.amend_nothing desk.books).symm
  cases isPaid with
  | error fault => cases found <;> exact nothing
  | ok isPaid =>
    cases isPaid with
    | true => cases found <;> exact nothing
    | false =>
      cases found with
      | none => exact nothing
      | some reservation =>
        simp only [judgeChecked]
        cases done : (desk.perform (.reclaim reservation)).1 with
        | error abort => exact (Desk.perform_error faithful done).trans nothing
        | ok released => exact books_of_release (.inr rfl) faithful done

/-- What a clearing makes of the books follows from its outcome. -/
theorem judge_books (clearing : Clearing) (found : Option Reservation)
    (faithful : desk.IsFaithful) :
    (clearing.judge found desk).2.books =
      desk.books.amend (clearing.amendment found (clearing.judge found desk).1) := by
  have release (id : TrackingId) : (judgeRelease id found desk).2.books = desk.books.amend
      (releaseAmendment found (judgeRelease id found desk).1) := by
    obtain ⟨still, kept⟩ := Bookkeeping.paymentExists_books id faithful
    let asked : Desk σ γ := { desk with ledger := (Ledger.paymentExists id desk.ledger).2 }
    have faithful : asked.IsFaithful := still
    have same : asked.books = desk.books := kept
    have books := judgeChecked_books (Ledger.paymentExists id desk.ledger).1 found faithful
    rw [same] at books
    exact books
  cases clearing with
  | settle notification => exact judgeSettlement_books notification found faithful
  | reap id => exact release id
  | expire id => exact release id

/-- What ends early in other words ended early before. -/
theorem eq_error_of_map {α β : Type} {result : Except Abort α} {next : α → β} {abort : Abort}
    (failed : result.map next = .error abort) : result = .error abort := by
  cases result with
  | error other => exact congrArg Except.error (Except.error.inj failed)
  | ok value => contradiction

/-- A release that ends in no outcome is refused, where the uses on record can be returned. -/
theorem judgeChecked_refused {isPaid : Except Fault Bool} {found : Option Reservation}
    {abort : Abort} (faithful : desk.IsFaithful) (returnable : desk.books.CanReturn)
    (failed : (judgeChecked isPaid found desk).1 = .error abort) :
    ∃ refusal, abort = .refused refusal := by
  rcases isPaid with fault | _ | _
  · cases found <;> exact ⟨.persistence fault, (Except.error.inj failed).symm⟩
  · cases found with
    | none => contradiction
    | some reservation =>
      have performed : (desk.perform (.reclaim reservation)).1 = .error abort :=
        eq_error_of_map failed
      exact Desk.perform_refused faithful returnable rfl performed
  · cases found <;> contradiction

/-- A clearing that ends in no outcome is refused, where the uses on record can be returned. -/
theorem judge_refused (clearing : Clearing) {found : Option Reservation} {abort : Abort}
    (faithful : desk.IsFaithful) (returnable : desk.books.CanReturn)
    (failed : (clearing.judge found desk).1 = .error abort) :
    ∃ refusal, abort = .refused refusal := by
  have release (id : TrackingId) (failed : (judgeRelease id found desk).1 = .error abort) :
      ∃ refusal, abort = .refused refusal := by
    obtain ⟨still, kept⟩ := Bookkeeping.paymentExists_books id faithful
    let asked : Desk σ γ := { desk with ledger := (Ledger.paymentExists id desk.ledger).2 }
    have faithful : asked.IsFaithful := still
    have same : asked.books = desk.books := kept
    exact judgeChecked_refused faithful (same ▸ returnable) failed
  cases clearing with
  | settle notification =>
    cases found with
    | none => contradiction
    | some reservation =>
      simp only [judge, judgeSettlement] at failed
      by_cases paid : notification.isPaid = true
      · rw [if_pos paid] at failed
        exact Desk.perform_refused faithful returnable rfl failed
      · rw [if_neg paid] at failed
        have performed := eq_error_of_map failed
        exact Desk.perform_refused faithful returnable rfl performed
  | reap id => exact release id failed
  | expire id => exact release id failed

end Books

section Memory

variable {γ : Type} [Gateway γ] {desk other : Desk MemoryLedger γ}

/-- A settlement comes to the same end where the ledger is made to fail at the same places and tells
the same about the reservation. -/
theorem judgeSettlement_local (notification : PaymentNotification) {found : Option Reservation}
    (failing : other.ledger.failing = desk.ledger.failing)
    (agrees : ∀ reservation, found = some reservation →
      desk.books.AgreesOn reservation.id reservation.tickets other.books) :
    (judgeSettlement notification found other).1 =
      (judgeSettlement notification found desk).1 := by
  cases found with
  | none => rfl
  | some reservation =>
    have same := agrees reservation rfl
    simp only [judgeSettlement]
    by_cases paid : notification.isPaid = true
    · rw [if_pos paid, if_pos paid]
      exact Desk.perform_local (.sell reservation notification)
        (Desk.isLocal_sellWork reservation notification) failing same
    · rw [if_neg paid, if_neg paid]
      have released := Desk.perform_local (.release reservation)
        (Desk.isLocal_releaseWork reservation) failing same
      exact congrArg (Except.map SettlementOutcome.released) released

/-- A release comes to the same end where the ledger is made to fail at the same places and tells
the same about the reservation. -/
theorem judgeRelease_local {id : TrackingId} {found : Option Reservation}
    (failing : other.ledger.failing = desk.ledger.failing)
    (payment : other.books.paymentExists id = desk.books.paymentExists id)
    (agrees : ∀ reservation, found = some reservation →
      desk.books.AgreesOn reservation.id reservation.tickets other.books) :
    (judgeRelease id found other).1 = (judgeRelease id found desk).1 := by
  show (judgeChecked (.ok (other.books.paymentExists id)) found other).1 =
    (judgeChecked (.ok (desk.books.paymentExists id)) found desk).1
  rw [payment]
  cases desk.books.paymentExists id with
  | true => cases found <;> rfl
  | false =>
    cases found with
    | none => rfl
    | some reservation =>
      have reclaimed := Desk.perform_local (.reclaim reservation)
        (Desk.isLocal_releaseWork reservation) failing (agrees reservation rfl)
      exact congrArg (Except.map ReapOutcome.released) reclaimed

/-- A clearing comes to the same end where the ledger is made to fail at the same places and tells
the same about the reservation. -/
theorem judge_local (clearing : Clearing) {found : Option Reservation}
    (named : ∀ reservation, found = some reservation → reservation.id = clearing.id)
    (failing : other.ledger.failing = desk.ledger.failing)
    (agrees : desk.books.AgreesOn clearing.id (ticketsOf found) other.books) :
    (clearing.judge found other).1 = (clearing.judge found desk).1 := by
  have own : ∀ reservation, found = some reservation →
      desk.books.AgreesOn reservation.id reservation.tickets other.books := by
    intro reservation present
    rw [present, ← named reservation present] at agrees
    exact agrees
  cases clearing with
  | settle notification => exact judgeSettlement_local notification failing own
  | reap id => exact judgeRelease_local failing agrees.payment own
  | expire id => exact judgeRelease_local failing agrees.payment own

/-- A release leaves the places alone at which the ledger is made to fail. -/
theorem judgeRelease_failing (id : TrackingId) (found : Option Reservation)
    (desk : Desk MemoryLedger γ) :
    (judgeRelease id found desk).2.ledger.failing = desk.ledger.failing := by
  show (judgeChecked (.ok (desk.books.paymentExists id)) found desk).2.ledger.failing = _
  cases desk.books.paymentExists id with
  | true => cases found <;> rfl
  | false =>
    cases found with
    | none => rfl
    | some reservation => exact Desk.perform_failing _ desk

/-- A clearing leaves the places alone at which the ledger is made to fail. -/
theorem judge_failing (clearing : Clearing) (found : Option Reservation)
    (desk : Desk MemoryLedger γ) :
    (clearing.judge found desk).2.ledger.failing = desk.ledger.failing := by
  cases clearing with
  | settle notification =>
    cases found with
    | none => rfl
    | some reservation =>
      simp only [judge, judgeSettlement]
      split
      · exact Desk.perform_failing _ desk
      · exact Desk.perform_failing _ desk
  | reap id => exact judgeRelease_failing id found desk
  | expire id => exact judgeRelease_failing id found desk

end Memory

end Clearing

namespace Engine

variable {σ γ : Type}

/-- Whether each open reservation is in the store under its own number. -/
structure IsTidy (engine : Engine σ γ) : Prop where
  /-- Each reservation is there under its own number. -/
  keyed : ∀ id reservation, engine.store.get? id = some reservation → reservation.id = id

/-- An engine that can be relied on is tidy. -/
theorem IsRegular.tidy [Ledger σ] [Bookkeeping σ] {engine : Engine σ γ}
    (regular : engine.IsRegular) : engine.IsTidy :=
  ⟨regular.keyed⟩

/-- The engine after a clearing that came to some end at the desk. -/
def cleared (engine : Engine σ γ) (clearing : Clearing)
    (judged : Except Abort clearing.Result × Desk σ γ) : Engine σ γ :=
  let found := engine.store.get? clearing.id
  { engine with
    desk := judged.2
    store := if clearing.isTaken judged.1 then engine.store.erase clearing.id else engine.store
    commands :=
      engine.commands ++ clearing.orders found (engine.clock + engine.delay) judged.1
    deliveries := engine.deliveries ++
      (clearing.mails found judged.1).map fun mail => ⟨mail, engine.acceptsMail⟩
    events := engine.events ++ clearing.reports judged.1 }

variable [Ledger σ] [Gateway γ] {engine : Engine σ γ}

/-- What comes of a clearing at the desk of an engine. -/
def judge (engine : Engine σ γ) (clearing : Clearing) : Except Abort clearing.Result × Desk σ γ :=
  clearing.judge (engine.store.get? clearing.id) engine.desk

/-- A reservation that was taken out of the store is put back as if it had not been taken. -/
theorem IsTidy.answer_putBack (tidy : engine.IsTidy) {id : TrackingId} {reservation : Reservation}
    (found : engine.store.get? id = some reservation) (desk : Desk σ γ) :
    answer (.putReservation reservation) { engine with desk, store := engine.store.erase id } =
      (true, { engine with desk }) := by
  have named := tidy.keyed id reservation found
  have absent : (engine.store.erase id).get? reservation.id = none := by
    rw [named]
    exact Register.get?_erase_self _ _
  rw [answer_put_absent absent]
  simp only [named, Register.insert_erase found]

omit [Ledger σ] [Gateway γ] in
/-- A clearing that tells nobody anything is seen at the desk and in the store. -/
theorem cleared_silent {clearing : Clearing} {judged : Except Abort clearing.Result × Desk σ γ}
    (orders : clearing.orders (engine.store.get? clearing.id) (engine.clock + engine.delay)
      judged.1 = [])
    (mails : clearing.mails (engine.store.get? clearing.id) judged.1 = [])
    (reports : clearing.reports judged.1 = []) :
    engine.cleared clearing judged = { engine with
      desk := judged.2
      store := if clearing.isTaken judged.1 then engine.store.erase clearing.id
        else engine.store } := by
  simp only [cleared, orders, mails, reports, List.map_nil, List.append_nil]

/-- A settlement whose transaction has ended does what follows from its outcome. -/
theorem IsTidy.run_afterTransaction (tidy : engine.IsTidy) {notification : PaymentNotification}
    {reservation : Reservation}
    (found : engine.store.get? notification.trackingId = some reservation)
    (judged : Except Abort SettlementOutcome × Desk σ γ) :
    Engine.run (Settlement.afterTransaction reservation notification judged.1)
        { engine with desk := judged.2, store := engine.store.erase notification.trackingId } =
      (judged.1, engine.cleared (.settle notification) judged) := by
  obtain ⟨result, desk⟩ := judged
  cases result with
  | error abort =>
    cases abort with
    | refused refusal =>
      simp only [Settlement.afterTransaction, run_ask]
      rw [tidy.answer_putBack found]
      simp only [cleared, Clearing.id, found, Clearing.isTaken, Bool.false_eq_true, ↓reduceIte,
        Clearing.orders, Clearing.mails, Clearing.reports, List.map_nil, List.append_nil]
      rfl
    | overflowed overflow =>
      simp only [cleared, Clearing.id, found, Clearing.isTaken, ↓reduceIte, Clearing.orders,
        Clearing.mails, Clearing.reports, List.map_nil, List.append_nil]
      rfl
  | ok outcome =>
    simp only [Settlement.afterTransaction, run_ask, cleared, Clearing.id, found, Clearing.isTaken,
      ↓reduceIte, Clearing.orders, Clearing.reports, List.append_nil]
    cases outcome with
    | sold tickets =>
      simp only [Settlement.afterResolve, Clearing.mails]
      by_cases unnamed : notification.senderEmail.isEmpty = true
      · simp only [unnamed, ↓reduceIte, List.map_nil, List.append_nil]
        rfl
      · simp only [unnamed, Bool.false_eq_true, ↓reduceIte]
        rfl
    | released tickets =>
      simp only [Clearing.mails, List.map_nil, List.append_nil]
      rfl
    | duplicate =>
      simp only [Clearing.mails, List.map_nil, List.append_nil]
      rfl

/-- A settlement does what follows from its outcome at the desk. -/
theorem IsTidy.run_settle (tidy : engine.IsTidy) (notification : PaymentNotification) :
    engine.run (Settlement.settle notification) =
      ((engine.judge (.settle notification)).1,
        engine.cleared (.settle notification) (engine.judge (.settle notification))) := by
  let taken : Engine σ γ := { engine with store := engine.store.erase notification.trackingId }
  have asked : engine.run (Settlement.settle notification) =
      taken.run (Settlement.afterTake notification
        (engine.store.get? notification.trackingId)) := rfl
  rw [asked]
  simp only [judge, Clearing.judge, Clearing.id]
  cases found : engine.store.get? notification.trackingId with
  | none =>
    have untold : Clearing.orders (.settle notification)
        (engine.store.get? notification.trackingId) (engine.clock + engine.delay)
          (.ok .duplicate) = [] := by
      rw [found]
      rfl
    have unsent : Clearing.mails (.settle notification)
        (engine.store.get? notification.trackingId) (.ok .duplicate) = [] := by
      rw [found]
      rfl
    have silent : engine.cleared (.settle notification) (.ok .duplicate, engine.desk) =
        { engine with store := engine.store.erase notification.trackingId } :=
      cleared_silent untold unsent rfl
    exact congrArg _ silent.symm
  | some reservation =>
    simp only [Settlement.afterTake, Clearing.judgeSettlement]
    by_cases paid : notification.isPaid = true
    · rw [if_pos paid, if_pos paid, run_ask, answer_transact]
      exact tidy.run_afterTransaction found
        (engine.desk.perform (.sell reservation notification))
    · rw [if_neg paid, if_neg paid, run_ask, answer_transact]
      exact tidy.run_afterTransaction found
        ((engine.desk.perform (.release reservation)).1.map .released,
          (engine.desk.perform (.release reservation)).2)

/-- A release whose transaction has ended does what follows from its outcome. -/
theorem IsTidy.run_afterReclaim (tidy : engine.IsTidy) {id : TrackingId}
    {reservation : Reservation} (found : engine.store.get? id = some reservation)
    (performed : Except Abort Nat × Desk σ γ) :
    Engine.run (Release.afterReclaim reservation performed.1)
        { engine with desk := performed.2, store := engine.store.erase id } =
      (performed.1.map .released,
        engine.cleared (.reap id) (performed.1.map .released, performed.2)) := by
  obtain ⟨result, desk⟩ := performed
  rw [cleared_silent rfl rfl rfl]
  cases result with
  | error abort =>
    cases abort with
    | refused refusal =>
      simp only [Release.afterReclaim, run_ask]
      rw [tidy.answer_putBack found]
      rfl
    | overflowed overflow => rfl
  | ok released => rfl

/-- A release that has been told whether the bill is paid does what follows from its outcome. -/
theorem IsTidy.run_afterPaymentCheck (tidy : engine.IsTidy) (id : TrackingId)
    (isPaid : Except Fault Bool) :
    engine.run (Release.afterPaymentCheck id isPaid) =
      ((Clearing.judgeChecked isPaid (engine.store.get? id) engine.desk).1,
        engine.cleared (.reap id)
          (Clearing.judgeChecked isPaid (engine.store.get? id) engine.desk)) := by
  cases isPaid with
  | error fault =>
    rw [cleared_silent rfl rfl rfl]
    rfl
  | ok isPaid =>
    cases isPaid with
    | true =>
      rw [cleared_silent rfl rfl rfl]
      rfl
    | false =>
      let taken : Engine σ γ := { engine with store := engine.store.erase id }
      show taken.run (Release.afterTake (engine.store.get? id)) = _
      cases found : engine.store.get? id with
      | none =>
        rw [cleared_silent rfl rfl rfl]
        rfl
      | some reservation =>
        simp only [Release.afterTake, run_ask, answer_transact]
        exact tidy.run_afterReclaim found (engine.desk.perform (.reclaim reservation))

/-- A release does what follows from its outcome at the desk. -/
theorem IsTidy.run_reap (tidy : engine.IsTidy) (id : TrackingId) :
    engine.run (Release.reap id) =
      ((engine.judge (.reap id)).1, engine.cleared (.reap id) (engine.judge (.reap id))) := by
  have still : (engine.withLedger (Ledger.paymentExists id engine.desk.ledger).2).IsTidy :=
    ⟨tidy.keyed⟩
  exact still.run_afterPaymentCheck id (Ledger.paymentExists id engine.desk.ledger).1

/-- A timer that fires does what follows from its outcome at the desk. -/
theorem IsTidy.run_watch (tidy : engine.IsTidy) (id : TrackingId) :
    engine.run (Release.watch id) =
      ((engine.judge (.expire id)).1, engine.cleared (.expire id) (engine.judge (.expire id))) := by
  have ran := tidy.run_reap id
  simp only [run, Release.watch, Dialogue.run_bind] at ran ⊢
  rw [ran]
  show Dialogue.run answer (Release.report id (engine.judge (.expire id)).1)
    (engine.cleared (.reap id) (engine.judge (.expire id))) = _
  rw [cleared_silent rfl rfl rfl]
  generalize engine.judge (.expire id) = judged
  obtain ⟨result, desk⟩ := judged
  cases result with
  | error abort =>
    cases abort with
    | refused refusal =>
      simp only [cleared, Clearing.mails, List.map_nil, List.append_nil]
      rfl
    | overflowed overflow =>
      simp only [cleared, Clearing.mails, Clearing.orders, Clearing.reports, List.map_nil,
        List.append_nil]
      rfl
  | ok outcome =>
    simp only [cleared, Clearing.mails, Clearing.orders, List.map_nil, List.append_nil]
    rfl

/-- A clearing does what follows from its outcome at the desk. -/
theorem IsTidy.run_clearing (tidy : engine.IsTidy) (clearing : Clearing) :
    engine.run clearing.program =
      ((engine.judge clearing).1, engine.cleared clearing (engine.judge clearing)) := by
  cases clearing with
  | settle notification => exact tidy.run_settle notification
  | reap id => exact tidy.run_reap id
  | expire id => exact tidy.run_watch id

/-- Carries out a service and lets the reaper follow what it was told, while no timer fires. -/
def handle {α : Type} (program : Program α) (engine : Engine σ γ) : α × Engine σ γ :=
  let ran := engine.run program
  (ran.1, ran.2.followCommands)

/-- A clearing does what follows from its outcome at the desk, and then the reaper what it was
told. -/
theorem IsTidy.handle_clearing (tidy : engine.IsTidy) (clearing : Clearing) :
    engine.handle clearing.program = ((engine.judge clearing).1,
      (engine.cleared clearing (engine.judge clearing)).followCommands) := by
  unfold handle
  rw [tidy.run_clearing clearing]

/-- When a timer fires all that is kept of the outcome is its report. -/
theorem run_fire (engine : Engine σ γ) (id : TrackingId) :
    (engine.run (Release.fire id)).2 = (engine.run (Clearing.expire id).program).2 := by
  simp only [run, Release.fire_eq_watch, Clearing.program, Dialogue.run_bind]
  rfl

/-- When a timer fires and the reaper follows, all that is kept of the outcome is its report. -/
theorem handle_fire (engine : Engine σ γ) (id : TrackingId) :
    (engine.handle (Release.fire id)).2 = (engine.handle (Clearing.expire id).program).2 :=
  congrArg followCommands (engine.run_fire id)

end Engine

end BoxOffice
