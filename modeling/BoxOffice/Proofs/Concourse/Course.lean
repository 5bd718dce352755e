import BoxOffice.Proofs.Concourse.Move

/-!
# Courses of calls

Each call takes a course of its own: what can be left of it is one of a few programs. Along its
course every turn of a call is a move. A concourse that is regular stays so, and whatever happens
in it either leaves things as they stand or is a move of one call.
-/
namespace BoxOffice

variable {σ γ : Type} [Ledger σ] [Bookkeeping σ] [Gateway γ]

/-- What can be left of a purchase. -/
inductive PurchaseCourse : Program (Except Abort Receipt) → Prop
  /-- Tickets are going to be held. -/
  | start (settings : CheckoutSettings) (event : Uuid) (request : PurchaseRequest) :
    PurchaseCourse
      (.ask (.transact (.hold settings event request)) (Checkout.afterHold event request))
  /-- Tickets are held. -/
  | held (event : Uuid) (request : PurchaseRequest) (hold : Hold) :
    PurchaseCourse (Checkout.afterHold event request (.ok hold))
  /-- The reservation is going to be opened. -/
  | dated (event : Uuid) (request : PurchaseRequest) (hold : Hold) (now : Instant) :
    PurchaseCourse (.ask (.putReservation (Checkout.reservationOf event request hold now))
      (Checkout.afterPut event request hold))
  /-- The store has answered. -/
  | answered (event : Uuid) (request : PurchaseRequest) (hold : Hold) (isOpened : Bool) :
    PurchaseCourse (Checkout.afterPut event request hold isOpened)
  /-- The purchase is over. -/
  | finished (result : Except Abort Receipt) : PurchaseCourse (.done result)

/-- What can be left of a settlement. -/
inductive SettlementCourse (notification : PaymentNotification) :
    Program (Except Abort SettlementOutcome) → Prop
  /-- The reservation is going to be taken. -/
  | start : SettlementCourse notification (Settlement.settle notification)
  /-- The tickets are going to be sold. -/
  | selling (reservation : Reservation) (own : reservation.id = notification.trackingId) :
    SettlementCourse notification (.ask (.transact (.sell reservation notification))
      (Settlement.afterTransaction reservation notification))
  /-- The tickets are going to be released. -/
  | releasing (reservation : Reservation) (own : reservation.id = notification.trackingId) :
    SettlementCourse notification (.ask (.transact (.release reservation)) fun released =>
      Settlement.afterTransaction reservation notification (Except.map .released released))
  /-- The transaction has ended. -/
  | ended (reservation : Reservation) (result : Except Abort SettlementOutcome)
    (own : reservation.id = notification.trackingId) :
    SettlementCourse notification (Settlement.afterTransaction reservation notification result)
  /-- The timer is disarmed. -/
  | resolved (reservation : Reservation) (outcome : SettlementOutcome) :
    SettlementCourse notification (Settlement.afterResolve reservation notification outcome)
  /-- The reservation is put back, if the store took it. -/
  | restored (refusal : Refusal) (isOpened : Bool) :
    SettlementCourse notification
      (Settlement.afterPutBack notification.trackingId refusal isOpened)
  /-- The settlement is over. -/
  | finished (result : Except Abort SettlementOutcome) :
    SettlementCourse notification (.done result)

/-- What can be left of a release. -/
inductive ReleaseCourse (id : TrackingId) : Program (Except Abort ReapOutcome) → Prop
  /-- The ledger is going to be asked. -/
  | start : ReleaseCourse id (Release.reap id)
  /-- The ledger has answered. -/
  | checked (isPaid : Except Fault Bool) : ReleaseCourse id (Release.afterPaymentCheck id isPaid)
  /-- The reservation is taken. -/
  | taken (reservation : Reservation) (own : reservation.id = id) :
    ReleaseCourse id (Release.afterTake (some reservation))
  /-- The transaction has ended. -/
  | ended (reservation : Reservation) (result : Except Abort Nat) (own : reservation.id = id) :
    ReleaseCourse id (Release.afterReclaim reservation result)
  /-- The release is over. -/
  | finished (result : Except Abort ReapOutcome) : ReleaseCourse id (.done result)

/-- What can be left of a timer. -/
inductive TimerCourse (id : TrackingId) : Program (Except Abort ReapOutcome) → Prop
  /-- The reservation is going to be released. -/
  | releasing (program : Program (Except Abort ReapOutcome)) (course : ReleaseCourse id program) :
    TimerCourse id (program >>= Release.report id)
  /-- What came of it is going to be published. -/
  | reporting (event : ReapEvent) (result : Except Abort ReapOutcome) :
    TimerCourse id (.ask (.publish event) fun _ => .done result)
  /-- The timer is over. -/
  | finished (result : Except Abort ReapOutcome) : TimerCourse id (.done result)

/-- How far programs have come that follow one another. -/
theorem phaseOf_bind {α β : Type} (finish : β → Phase) (program : Program α)
    (next : α → Program β) :
    phaseOf finish (program >>= next) =
      phaseOf (fun value => phaseOf finish (next value)) program := by
  induction program with
  | done value => rfl
  | ask question rest ih =>
    cases question with
    | transact transaction => cases transaction <;> rfl
    | resolve id =>
      have later := ih ()
      simp only [Bind.bind, Dialogue.andThen, phaseOf] at later ⊢
      rw [later]
    | deliver mail => exact ih ()
    | publish event => exact ih ()
    | wallClock => exact ih _
    | _ => rfl

/-- Whether the next turn of a program is a move. -/
def Moves {α : Type} (role : Role) (finish : α → Phase) (program : Program α)
    (engine : Engine σ γ) : Prop :=
  ∀ holds, Move role (engine.standing holds) (phaseOf finish program)
    ((program.turn Engine.answer engine).2.standing
      (holds ++ (program.exchange? Engine.answer engine).toList.filterMap Exchange.hold?))
    (phaseOf finish (program.turn Engine.answer engine).1)

variable {engine later : Engine σ γ}

/-- A program that is over makes no move any more. -/
theorem moves_of_done {α : Type} (role : Role) (finish : α → Phase) (value : α) :
    Moves role finish (.done value) engine := by
  intro holds
  have same : holds ++ [] = holds := List.append_nil holds
  simp only [Dialogue.exchange?, Option.toList_none, List.filterMap_nil, same]
  exact .stay _ _ _

/-- A question that no hold comes of is a move if it is one with the holds there are. -/
theorem moves_of_ask {α : Type} {role : Role} {finish : α → Phase} {question : Request}
    {next : question.Answer → Program α} {given : question.Answer}
    (answered : Engine.answer question engine = (given, later))
    (plain : Exchange.hold? ⟨question, given⟩ = none)
    (move : ∀ holds, Move role (engine.standing holds) (phaseOf finish (.ask question next))
      (later.standing holds) (phaseOf finish (next given))) :
    Moves role finish (.ask question next) engine := by
  intro holds
  have same : holds ++ [] = holds := List.append_nil holds
  simp only [Dialogue.exchange?, Dialogue.turn, answered, Option.toList_some,
    List.filterMap_cons, plain, List.filterMap_nil, same]
  exact move holds

/-- Nothing comes of a transaction that fails and leaves a program as far as it had come. -/
theorem moves_of_failed {α : Type} {role : Role} {finish : α → Phase} {transaction : Transaction}
    {next : Except Abort transaction.Result → Program α} {abort : Abort}
    (regular : engine.IsRegular)
    (failed : Engine.answer (.transact transaction) engine = (.error abort, later))
    (same : phaseOf finish (next (.error abort)) =
      phaseOf finish (.ask (.transact transaction) next)) :
    Moves role finish (.ask (.transact transaction) next) engine := by
  obtain ⟨requests, stands⟩ := Engine.standing_of_error regular failed
  have plain : Exchange.hold? ⟨.transact transaction, .error abort⟩ = none := by
    cases transaction <;> rfl
  refine moves_of_ask failed plain fun holds => ?_
  rw [stands, same]
  exact .rest _ _ requests

/-- A question is a move as well if the program goes on beyond its end. -/
theorem Moves.bind {α β : Type} {role : Role} {finish : β → Phase} {question : Request}
    {next : question.Answer → Program α} {last : α → Program β}
    (moves : Moves role (fun value => phaseOf finish (last value)) (.ask question next) engine) :
    Moves role finish (.ask question next >>= last) engine := by
  intro holds
  have move := moves holds
  rw [← phaseOf_bind] at move
  simp only [Dialogue.turn, ← phaseOf_bind] at move
  exact move

/-- A purchase begins its course. -/
theorem purchaseCourse_buy (settings : CheckoutSettings) (event : Uuid)
    (request : PurchaseRequest) : PurchaseCourse (Checkout.buy settings event request) := by
  simp only [Checkout.buy]
  split
  · exact .finished _
  · exact .start settings event request

/-- Each turn of a purchase is a move along its course. -/
theorem PurchaseCourse.turn {program : Program (Except Abort Receipt)}
    (course : PurchaseCourse program) (regular : engine.IsRegular) :
    PurchaseCourse (program.turn Engine.answer engine).1 ∧
      Moves .purchase purchaseEnd program engine := by
  cases course with
  | start settings event request =>
    cases done : Engine.answer (.transact (.hold settings event request)) engine with
    | mk result later =>
      simp only [Dialogue.turn, done]
      cases result with
      | error abort => exact ⟨.finished _, moves_of_failed regular done rfl⟩
      | ok hold =>
        refine ⟨.held event request hold, fun holds => ?_⟩
        obtain ⟨books, gateway, bill, held, billed, stands⟩ :=
          Engine.standing_of_hold regular done
        simp only [Dialogue.turn, Dialogue.exchange?, done, stands]
        exact .hold rfl held billed
  | held event request hold =>
    exact ⟨.dated event request hold _, moves_of_ask rfl rfl fun holds => .stay _ _ _⟩
  | dated event request hold now =>
    refine ⟨.answered event request hold _, ?_⟩
    rcases regular.put (Checkout.reservationOf event request hold now) with
      ⟨absent, opened⟩ | ⟨present, refused⟩
    · exact moves_of_ask opened rfl fun holds => .put absent
    · exact moves_of_ask refused rfl fun holds => .decline rfl (present holds)
  | answered event request hold isOpened =>
    cases isOpened with
    | true => exact ⟨.finished _, moves_of_ask rfl rfl fun holds => .schedule _⟩
    | false =>
      refine ⟨.finished _, ?_⟩
      cases done : Engine.answer (.transact (.undoHold hold.bill.trackingId
          (hold.tickets.map (·.id)) hold.discount.isSome)) engine with
      | mk result later =>
        cases result with
        | error abort =>
          obtain ⟨requests, stands⟩ := Engine.standing_of_error regular done
          refine moves_of_ask done rfl fun holds => ?_
          rw [stands]
          exact .abandon requests rfl
        | ok undone =>
          refine moves_of_ask done rfl fun holds => ?_
          rw [Engine.standing_of_becomes
            (·.undone hold.discount.isSome hold.ticketIds hold.id) regular done
            fun _ _ => Desk.becomes_of_undoWork]
          exact .undo _ rfl
  | finished result => exact ⟨.finished result, moves_of_done _ _ _⟩

/-- A settlement whose timer has been disarmed has come as far as it will. -/
theorem phaseOf_afterResolve (reservation : Reservation) (notification : PaymentNotification)
    (outcome : SettlementOutcome) (id : TrackingId) :
    phaseOf (settlementEnd id) (Settlement.afterResolve reservation notification outcome) =
      settlementEnd id (.ok outcome) := by
  cases outcome with
  | sold tickets =>
    simp only [Settlement.afterResolve]
    split <;> rfl
  | released tickets => rfl
  | duplicate => rfl

/-- Each turn of a settlement is a move along its course. -/
theorem SettlementCourse.turn {notification : PaymentNotification}
    {program : Program (Except Abort SettlementOutcome)}
    (course : SettlementCourse notification program) (regular : engine.IsRegular) :
    SettlementCourse notification (program.turn Engine.answer engine).1 ∧
      Moves .settlement (settlementEnd notification.trackingId) program engine := by
  cases course with
  | start =>
    rcases regular.take notification.trackingId with
      ⟨absent, answered⟩ | ⟨reservation, own, found, answered⟩
    · simp only [Settlement.settle, Dialogue.turn, answered]
      exact ⟨.finished _,
        moves_of_ask answered rfl fun holds => .lapse (by decide) (.inr absent)⟩
    · simp only [Settlement.settle, Dialogue.turn, answered]
      rw [← own] at answered
      have takes (holds : List Hold) : Move .settlement (engine.standing holds)
          (.seeking reservation.id)
          { engine.standing holds with store := engine.store.erase reservation.id }
          (.keeping reservation.holding) := .take (by decide) found
      simp only [Settlement.afterTake]
      cases paid : notification.isPaid with
      | true =>
        refine ⟨.selling reservation own, ?_⟩
        rw [← own]
        refine moves_of_ask answered rfl fun holds => ?_
        simp only [Settlement.afterTake, paid]
        exact takes holds
      | false =>
        refine ⟨.releasing reservation own, ?_⟩
        rw [← own]
        refine moves_of_ask answered rfl fun holds => ?_
        simp only [Settlement.afterTake, paid]
        exact takes holds
  | selling reservation own =>
    refine ⟨.ended reservation _ own, ?_⟩
    rw [← own]
    cases done : Engine.answer (.transact (.sell reservation notification)) engine with
    | mk result later =>
      cases result with
      | error abort =>
        obtain ⟨refusal, rfl⟩ := regular.refused rfl done
        exact moves_of_failed regular done rfl
      | ok outcome =>
        refine moves_of_ask done rfl fun holds => ?_
        simp only [Settlement.afterTransaction, phaseOf, phaseOf_afterResolve, ← own]
        rcases Engine.standing_of_sell regular done with
          ⟨rfl, paid, stands⟩ | ⟨rfl, books, sold, stands⟩
        · rw [stands]
          exact .recur (by decide) paid
        · rw [stands]
          exact .sell (by decide) sold
  | releasing reservation own =>
    refine ⟨.ended reservation _ own, ?_⟩
    rw [← own]
    cases done : Engine.answer (.transact (.release reservation)) engine with
    | mk result later =>
      cases result with
      | error abort =>
        obtain ⟨refusal, rfl⟩ := regular.refused rfl done
        exact moves_of_failed regular done rfl
      | ok tickets =>
        refine moves_of_ask done rfl fun holds => ?_
        rw [Engine.standing_of_becomes (·.freed reservation.tickets reservation.id) regular done
          fun _ _ => Desk.becomes_of_releaseWork]
        exact .release (by decide)
  | ended reservation result own =>
    cases result with
    | error abort =>
      cases abort with
      | overflowed overflow => exact ⟨.finished _, moves_of_done _ _ _⟩
      | refused refusal =>
        refine ⟨.restored refusal _, ?_⟩
        rw [← own]
        rcases regular.put reservation with ⟨absent, opened⟩ | ⟨present, refused⟩
        · refine moves_of_ask opened rfl fun holds => ?_
          rw [← own]
          exact .put absent
        · refine moves_of_ask refused rfl fun holds => ?_
          exact .turnAway (by decide) (present holds)
    | ok outcome =>
      refine ⟨.resolved reservation outcome, ?_⟩
      refine moves_of_ask rfl rfl fun holds => ?_
      simp only [phaseOf, phaseOf_afterResolve]
      cases outcome with
      | sold tickets => exact .resolve (by decide)
      | released tickets => exact .resolve (by decide)
      | duplicate => exact .forget (by decide)
  | resolved reservation outcome =>
    cases outcome with
    | sold tickets =>
      simp only [Settlement.afterResolve]
      split
      · exact ⟨.finished _, moves_of_done _ _ _⟩
      · exact ⟨.finished _, moves_of_ask rfl rfl fun holds => .stay _ _ _⟩
    | released tickets => exact ⟨.finished _, moves_of_done _ _ _⟩
    | duplicate => exact ⟨.finished _, moves_of_done _ _ _⟩
  | restored refusal isOpened =>
    cases isOpened with
    | true => exact ⟨.finished _, moves_of_ask rfl rfl fun holds => .schedule _⟩
    | false => exact ⟨.finished _, moves_of_done _ _ _⟩
  | finished result => exact ⟨.finished result, moves_of_done _ _ _⟩

/-- How far a release or a timer has come with each outcome of a release. -/
structure EndsRelease (role : Role) (id : TrackingId)
    (finish : Except Abort ReapOutcome → Phase) : Prop where
  /-- It is not a purchase. -/
  taker : role ≠ .purchase
  /-- It has released the tickets. -/
  released : ∀ tickets, finish (.ok (.released tickets)) = .consumed id .released
  /-- Nothing has come of it when the bill has been paid. -/
  settled : finish (.ok .alreadySettled) = .waiting
  /-- Nothing has come of it when no reservation is open. -/
  consumed : finish (.ok .alreadyConsumed) = .waiting
  /-- It has been refused. -/
  failed : ∀ refusal, finish (.error (.refused refusal)) = role.afterPut id
  /-- It makes no difference why it was refused. -/
  turnedAway : role.afterTurnAway id = role.afterPut id

/-- Each turn of a release is a move along its course, also when it is released by a timer. -/
theorem ReleaseCourse.turn {role : Role} {id : TrackingId}
    {finish : Except Abort ReapOutcome → Phase} {program : Program (Except Abort ReapOutcome)}
    (course : ReleaseCourse id program) (ends : EndsRelease role id finish)
    (regular : engine.IsRegular) :
    ReleaseCourse id (program.turn Engine.answer engine).1 ∧ Moves role finish program engine := by
  cases course with
  | start =>
    refine ⟨.checked _, ?_⟩
    cases asked : Engine.answer (.paymentExists id) engine with
    | mk isPaid later =>
      obtain ⟨stands, told⟩ := Engine.standing_of_paymentExists regular asked
      refine moves_of_ask asked rfl fun holds => ?_
      rw [stands]
      cases isPaid with
      | error fault =>
        simp only [Release.afterPaymentCheck, phaseOf, ends.failed]
        exact .falter ends.taker
      | ok answer =>
        cases answer with
        | true =>
          simp only [Release.afterPaymentCheck, phaseOf, ends.settled]
          exact .lapse ends.taker (.inl (told true rfl))
        | false => exact .stay _ _ _
  | checked isPaid =>
    cases isPaid with
    | error fault => exact ⟨.finished _, moves_of_done _ _ _⟩
    | ok answer =>
      cases answer with
      | true => exact ⟨.finished _, moves_of_done _ _ _⟩
      | false =>
        rcases regular.take id with ⟨absent, answered⟩ | ⟨reservation, own, found, answered⟩
        · simp only [Release.afterPaymentCheck, Dialogue.turn, answered]
          refine ⟨.finished _, moves_of_ask answered rfl fun holds => ?_⟩
          simp only [Release.afterTake, phaseOf, ends.consumed]
          exact .lapse ends.taker (.inr absent)
        · simp only [Release.afterPaymentCheck, Dialogue.turn, answered]
          refine ⟨.taken reservation own, moves_of_ask answered rfl fun holds => ?_⟩
          rw [← own]
          exact .take ends.taker found
  | taken reservation own =>
    refine ⟨.ended reservation _ own, ?_⟩
    cases done : Engine.answer (.transact (.reclaim reservation)) engine with
    | mk result later =>
      cases result with
      | error abort =>
        obtain ⟨refusal, rfl⟩ := regular.refused rfl done
        exact moves_of_failed regular done rfl
      | ok tickets =>
        refine moves_of_ask done rfl fun holds => ?_
        rw [Engine.standing_of_becomes (·.freed reservation.tickets reservation.id) regular done
          fun _ _ => Desk.becomes_of_releaseWork]
        simp only [Release.afterReclaim, phaseOf, ends.released]
        rw [← own]
        exact .release ends.taker
  | ended reservation result own =>
    cases result with
    | ok tickets => exact ⟨.finished _, moves_of_done _ _ _⟩
    | error abort =>
      cases abort with
      | overflowed overflow => exact ⟨.finished _, moves_of_done _ _ _⟩
      | refused refusal =>
        refine ⟨.finished _, ?_⟩
        rcases regular.put reservation with ⟨absent, opened⟩ | ⟨present, refused⟩
        · refine moves_of_ask opened rfl fun holds => ?_
          simp only [Release.afterPutBack, phaseOf, ends.failed]
          rw [← own]
          exact .put absent
        · refine moves_of_ask refused rfl fun holds => ?_
          simp only [Release.afterPutBack, phaseOf, ends.failed, ← ends.turnedAway]
          rw [← own]
          exact .turnAway ends.taker (present holds)
  | finished result => exact ⟨.finished result, moves_of_done _ _ _⟩

/-- A release ends as a release. -/
theorem endsRelease_release (id : TrackingId) : EndsRelease .release id (releaseEnd id) where
  taker := by decide
  released _ := rfl
  settled := rfl
  consumed := rfl
  failed _ := rfl
  turnedAway := rfl

/-- A timer goes on after its release with a report. -/
theorem endsRelease_timer (id : TrackingId) :
    EndsRelease .timer id fun outcome => phaseOf (releaseEnd id) (Release.report id outcome) where
  taker := by decide
  released _ := rfl
  settled := rfl
  consumed := rfl
  failed _ := rfl
  turnedAway := rfl

/-- Each turn of a timer is a move along its course. -/
theorem TimerCourse.turn {id : TrackingId} {program : Program (Except Abort ReapOutcome)}
    (course : TimerCourse id program) (regular : engine.IsRegular) :
    TimerCourse id (program.turn Engine.answer engine).1 ∧
      Moves .timer (releaseEnd id) program engine := by
  cases course with
  | releasing program course =>
    cases program with
    | ask question next =>
      obtain ⟨stays, moves⟩ := course.turn (endsRelease_timer id) regular
      exact ⟨.releasing _ stays, moves.bind⟩
    | done outcome =>
      cases outcome with
      | ok outcome => exact ⟨.finished _, moves_of_ask rfl rfl fun holds => .stay _ _ _⟩
      | error abort =>
        cases abort with
        | overflowed overflow => exact ⟨.finished _, moves_of_done _ _ _⟩
        | refused refusal =>
          exact ⟨.reporting _ _, moves_of_ask rfl rfl fun holds => .schedule _⟩
  | reporting event result =>
    exact ⟨.finished result, moves_of_ask rfl rfl fun holds => .stay _ _ _⟩
  | finished result => exact ⟨.finished result, moves_of_done _ _ _⟩

end BoxOffice
