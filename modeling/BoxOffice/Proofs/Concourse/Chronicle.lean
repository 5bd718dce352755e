import BoxOffice.Proofs.Concourse.Custody
import BoxOffice.Proofs.Ledger.Deed

/-!
# Chronicles

A chronicle tells for each call of a concourse on which errand it began, and for each exchange which
call had it. Nothing but exchanges changes books and store, and what an exchange did to the books is
its deed. What a call asks is warranted by its errand and by what it has been answered before: it
puts into the store what it has held or taken, and sells what it has taken.
-/
namespace BoxOffice

/-- What an exchange does to the books. -/
def Exchange.Deed : Exchange → Books → Books → Prop
  | ⟨.transact transaction, .ok value⟩, books, after => transaction.Deed value books after
  | _, books, after => after = books

/-- An exchange leaves the books as they are, or a transaction does its deed in it. -/
theorem Exchange.Deed.eq_or {exchange : Exchange} {books after : Books}
    (deed : exchange.Deed books after) :
    after = books ∨ ∃ (transaction : Transaction) (value : transaction.Result),
      exchange = ⟨.transact transaction, .ok value⟩ ∧ transaction.Deed value books after := by
  obtain ⟨question, answer⟩ := exchange
  cases question with
  | transact transaction =>
    cases answer with
    | error abort => exact .inl deed
    | ok value => exact .inr ⟨transaction, value, rfl, deed⟩
  | _ => exact .inl deed

/-- Whether an exchange is one that sold tickets. -/
def Exchange.isSale : Exchange → Bool
  | ⟨.transact (.sell ..), .ok (.sold _)⟩ => true
  | _ => false

/-- What a call is for. -/
inductive Errand where
  /-- Tickets are to be bought. -/
  | buy (settings : CheckoutSettings) (event : Uuid) (request : PurchaseRequest)
  /-- A reservation is to be settled. -/
  | settle (notification : PaymentNotification)
  /-- A reservation is to be released. -/
  | reap (id : TrackingId)
  /-- The timer of a reservation has fired. -/
  | fire (id : TrackingId)

namespace Errand

/-- The reservation that an errand is about. -/
def id? : Errand → Option TrackingId
  | .buy .. => none
  | .settle notification => some notification.trackingId
  | .reap id | .fire id => some id

/-- The call that begins on an errand. -/
def call : Errand → Call
  | .buy settings event request => .purchase (Checkout.buy settings event request)
  | .settle notification => .settlement notification.trackingId (Settlement.settle notification)
  | .reap id => .release id (Release.reap id)
  | .fire id => .timer id (Release.watch id)

/-- Whether a call on an errand has come so far that it has sold tickets. -/
def hasSold (errand : Errand) : Phase → Bool
  | .consumed id .sold => errand.id? = some id
  | _ => false

end Errand

/-- Whether a question needs no warrant. -/
def Request.isRoutine : Request → Bool
  | .transact (.hold ..) | .transact (.sell ..) | .putReservation _ => false
  | _ => true

/-- What warrants a question of a call: its errand and its past. -/
inductive Warrant (errand : Errand) (past : List Exchange) : Request → Prop where
  /-- A purchase holds what was asked for, if the request is sound. -/
  | hold {settings : CheckoutSettings} {event : Uuid} {request : PurchaseRequest}
    (own : errand = .buy settings event request) (sound : Checkout.check request = .ok ()) :
    Warrant errand past (.transact (.hold settings event request))
  /-- A purchase opens the reservation of its hold. -/
  | opening {settings : CheckoutSettings} {event : Uuid} {request : PurchaseRequest} {hold : Hold}
    (now : Instant) (own : errand = .buy settings event request)
    (sound : Checkout.check request = .ok ())
    (held : ⟨.transact (.hold settings event request), .ok hold⟩ ∈ past) :
    Warrant errand past (.putReservation (Checkout.reservationOf event request hold now))
  /-- A reservation is put back by a call that has taken it. -/
  | putBack {id : TrackingId} {reservation : Reservation}
    (taken : ⟨.takeReservation id, some reservation⟩ ∈ past) :
    Warrant errand past (.putReservation reservation)
  /-- A settlement sells what it has taken, once, if it was notified of a payment. -/
  | sell {notification : PaymentNotification} {reservation : Reservation}
    (own : errand = .settle notification) (paid : notification.isPaid = true)
    (taken : ⟨.takeReservation notification.trackingId, some reservation⟩ ∈ past)
    (first : past.any Exchange.isSale = false) :
    Warrant errand past (.transact (.sell reservation notification))
  /-- Nothing is needed for other questions. -/
  | routine {request : Request} (plain : request.isRoutine = true) : Warrant errand past request

/-- How a program on an errand stands: its next question is warranted, and it has come as far as its
past tells. -/
structure Stance {α : Type} (errand : Errand) (finish : α → Phase) (past : List Exchange)
    (program : Program α) : Prop where
  /-- The next question is warranted. -/
  warranted : ∀ request, program.question? = some request → Warrant errand past request
  /-- It has come so far that it has sold tickets if it had the exchange that sold them. -/
  sold : past.any Exchange.isSale = errand.hasSold (phaseOf finish program)

section

variable {α : Type} {errand : Errand} {finish : α → Phase} {past : List Exchange}

/-- A program that is over needs no warrant any more. -/
theorem Stance.done {value : α} (sold : past.any Exchange.isSale = errand.hasSold (finish value)) :
    Stance errand finish past (.done value) := by
  refine ⟨fun request asked => ?_, sold⟩
  contradiction

/-- A program that asks needs a warrant. -/
theorem Stance.ask {request : Request} {next : request.Answer → Program α}
    (warrant : Warrant errand past request)
    (sold : past.any Exchange.isSale = errand.hasSold (phaseOf finish (.ask request next))) :
    Stance errand finish past (.ask request next) :=
  ⟨fun _ asked => Option.some.inj asked ▸ warrant, sold⟩

end

/-- A purchase always has a warrant. -/
theorem always_buy (settings : CheckoutSettings) (event : Uuid) (request : PurchaseRequest) :
    (Checkout.buy settings event request).Always
      (Stance (.buy settings event request) purchaseEnd) [] := by
  simp only [Checkout.buy]
  split
  · exact .done rfl
  · rename_i sound
    refine ⟨.ask (.hold rfl sound) rfl, fun held => ?_⟩
    cases held with
    | error abort => exact .done rfl
    | ok hold =>
      refine ⟨.ask (.routine rfl) rfl, fun now => ⟨.ask (.opening now rfl sound ?_) rfl,
        fun isOpened => ?_⟩⟩
      · exact List.mem_cons_self
      · cases isOpened with
        | true => exact ⟨.ask (.routine rfl) rfl, fun _ => .done rfl⟩
        | false =>
          refine ⟨.ask (.routine rfl) rfl, fun undone => .done ?_⟩
          cases undone <;> rfl

/-- An exchange that sold nothing makes no difference to whether tickets were sold. -/
theorem any_isSale_append (past : List Exchange) (exchange : Exchange)
    (plain : exchange.isSale = false) :
    (past ++ [exchange]).any Exchange.isSale = past.any Exchange.isSale := by
  rw [List.any_append, List.any_cons, plain]
  exact Bool.or_false _

/-- A settlement whose timer has been disarmed needs no warrant any more. -/
theorem always_afterResolve (reservation : Reservation) (notification : PaymentNotification)
    {outcome : SettlementOutcome} {past : List Exchange}
    (sold : past.any Exchange.isSale = (Errand.settle notification).hasSold
      (settlementEnd notification.trackingId (.ok outcome))) :
    (Settlement.afterResolve reservation notification outcome).Always
      (Stance (.settle notification) (settlementEnd notification.trackingId)) past := by
  cases outcome with
  | sold tickets =>
    simp only [Settlement.afterResolve]
    split
    · exact .done sold
    · refine ⟨.ask (.routine rfl) sold, fun _ => .done ?_⟩
      rw [any_isSale_append past _ rfl, sold]
  | released tickets => exact .done sold
  | duplicate => exact .done sold

/-- A settlement whose transaction has ended needs a warrant to put back what it took. -/
theorem always_afterTransaction {reservation : Reservation} {notification : PaymentNotification}
    {result : Except Abort SettlementOutcome} {past : List Exchange}
    (taken : ⟨.takeReservation notification.trackingId, some reservation⟩ ∈ past)
    (sold : past.any Exchange.isSale = (Errand.settle notification).hasSold
      (settlementEnd notification.trackingId result)) :
    (Settlement.afterTransaction reservation notification result).Always
      (Stance (.settle notification) (settlementEnd notification.trackingId)) past := by
  cases result with
  | ok outcome =>
    refine ⟨.ask (.routine rfl) ?_, fun _ => always_afterResolve reservation notification ?_⟩
    · simp only [phaseOf, phaseOf_afterResolve, sold]
      cases outcome <;> rfl
    · rw [any_isSale_append past _ rfl, sold]
  | error abort =>
    cases abort with
    | overflowed overflow => exact .done sold
    | refused refusal =>
      refine ⟨.ask (.putBack taken) sold, fun isOpened => ?_⟩
      have kept := any_isSale_append past ⟨.putReservation reservation, isOpened⟩ rfl
      cases isOpened with
      | true =>
        refine ⟨.ask (.routine rfl) (kept.trans sold), fun _ => .done ?_⟩
        rw [any_isSale_append _ _ rfl, kept, sold]
      | false => exact .done (kept.trans sold)

/-- A settlement always has a warrant. -/
theorem always_settle (notification : PaymentNotification) :
    (Settlement.settle notification).Always
      (Stance (.settle notification) (settlementEnd notification.trackingId)) [] := by
  refine ⟨.ask (.routine rfl) rfl, fun taken => ?_⟩
  cases taken with
  | none => exact .done rfl
  | some reservation =>
    simp only [Settlement.afterTake]
    split
    · rename_i paid
      refine ⟨.ask (.sell rfl paid List.mem_cons_self rfl) rfl, fun result => ?_⟩
      refine always_afterTransaction List.mem_cons_self ?_
      rcases result with abort | (tickets | tickets | _)
      · rfl
      · exact (decide_eq_true rfl).symm
      · rfl
      · rfl
    · refine ⟨.ask (.routine rfl) rfl, fun released => ?_⟩
      refine always_afterTransaction List.mem_cons_self ?_
      cases released <;> rfl

/-- A release always has a warrant, whatever follows it, if it sells nothing. -/
theorem always_reap (id : TrackingId) {errand : Errand}
    {finish : Except Abort ReapOutcome → Phase}
    (unsold : ∀ result, errand.hasSold (finish result) = false) :
    (Release.reap id).Always (Stance errand finish) [] := by
  refine ⟨.ask (.routine rfl) rfl, fun isPaid => ?_⟩
  rcases isPaid with fault | _ | _
  · exact .done (unsold _).symm
  · refine ⟨.ask (.routine rfl) rfl, fun taken => ?_⟩
    cases taken with
    | none => exact .done (unsold _).symm
    | some reservation =>
      refine ⟨.ask (.routine rfl) rfl, fun result => ?_⟩
      rcases result with (refusal | overflow) | tickets
      · have taken : ⟨.takeReservation id, some reservation⟩ ∈ ([⟨.paymentExists id, .ok false⟩,
            ⟨.takeReservation id, some reservation⟩,
            ⟨.transact (.reclaim reservation), .error (.refused refusal)⟩] : List Exchange) :=
          List.mem_cons_of_mem _ List.mem_cons_self
        exact ⟨.ask (.putBack taken) rfl, fun _ => .done (unsold _).symm⟩
      · exact .done (unsold _).symm
      · exact .done (unsold _).symm
  · exact .done (unsold _).symm

/-- Programs that follow one another always have a warrant if both have. -/
theorem always_bind {α β : Type} {errand : Errand} {finish : β → Phase} {program : Program α}
    {last : α → Program β} {past : List Exchange}
    (first : program.Always (Stance errand fun value => phaseOf finish (last value)) past)
    (second : ∀ value past,
      past.any Exchange.isSale = errand.hasSold (phaseOf finish (last value)) →
        (last value).Always (Stance errand finish) past) :
    (program >>= last).Always (Stance errand finish) past := by
  induction program generalizing past with
  | done value => exact second value past first.sold
  | ask question next ih =>
    obtain ⟨stance, later⟩ := first
    refine ⟨⟨stance.warranted, ?_⟩, fun answer => ih answer (later answer)⟩
    rw [stance.sold, ← phaseOf_bind]
    rfl

/-- A timer always has a warrant. -/
theorem always_watch (id : TrackingId) :
    (Release.watch id).Always (Stance (.fire id) (releaseEnd id)) [] := by
  have unsold (result : Except Abort ReapOutcome) :
      (Errand.fire id).hasSold (phaseOf (releaseEnd id) (Release.report id result)) = false := by
    rcases result with (refusal | overflow) | (tickets | _ | _) <;> rfl
  refine always_bind (always_reap id unsold) fun result past sold => ?_
  rcases result with (refusal | overflow) | outcome
  · have armed := (any_isSale_append past ⟨.schedule id, ()⟩ rfl).trans sold
    refine ⟨.ask (.routine rfl) sold, fun _ => ⟨.ask (.routine rfl) armed, fun _ => .done ?_⟩⟩
    exact (any_isSale_append _ _ rfl).trans armed
  · exact .done sold
  · exact ⟨.ask (.routine rfl) sold, fun _ => .done ((any_isSale_append past _ rfl).trans sold)⟩

/-- Whether a call is on an errand with some past, so that it always has a warrant. -/
inductive Call.Follows (past : List Exchange) : Errand → Call → Prop
  /-- A purchase. -/
  | purchase {settings : CheckoutSettings} {event : Uuid} {request : PurchaseRequest}
    {program : Program (Except Abort Receipt)}
    (always : program.Always (Stance (.buy settings event request) purchaseEnd) past) :
    Follows past (.buy settings event request) (.purchase program)
  /-- A settlement. -/
  | settlement {notification : PaymentNotification}
    {program : Program (Except Abort SettlementOutcome)}
    (always : program.Always
      (Stance (.settle notification) (settlementEnd notification.trackingId)) past) :
    Follows past (.settle notification) (.settlement notification.trackingId program)
  /-- A release. -/
  | release {id : TrackingId} {program : Program (Except Abort ReapOutcome)}
    (always : program.Always (Stance (.reap id) (releaseEnd id)) past) :
    Follows past (.reap id) (.release id program)
  /-- A timer. -/
  | timer {id : TrackingId} {program : Program (Except Abort ReapOutcome)}
    (always : program.Always (Stance (.fire id) (releaseEnd id)) past) :
    Follows past (.fire id) (.timer id program)

/-- A call begins on its errand. -/
theorem Errand.follows_call (errand : Errand) : errand.call.Follows [] errand := by
  cases errand with
  | buy settings event request => exact .purchase (always_buy settings event request)
  | settle notification => exact .settlement (always_settle notification)
  | reap id =>
    refine .release (always_reap id fun result => ?_)
    rcases result with abort | (tickets | _ | _) <;> rfl
  | fire id => exact .timer (always_watch id)

namespace Call.Follows

variable {σ γ : Type} [Ledger σ] [Gateway γ] {past : List Exchange} {errand : Errand}
  {call : Call}

/-- A call stays on its errand. -/
theorem turn (follows : call.Follows past errand) (engine : Engine σ γ) :
    (call.turn engine).1.Follows (past ++ (call.exchange? engine).toList) errand := by
  cases follows with
  | purchase always => exact .purchase (always.turn Engine.answer engine)
  | settlement always => exact .settlement (always.turn Engine.answer engine)
  | release always => exact .release (always.turn Engine.answer engine)
  | timer always => exact .timer (always.turn Engine.answer engine)

/-- What a call asks is warranted. -/
theorem warrant (follows : call.Follows past errand) {engine : Engine σ γ} {exchange : Exchange}
    (asked : call.exchange? engine = some exchange) :
    Warrant errand past exchange.question := by
  cases follows with
  | purchase always =>
    exact always.now.warranted _ (Dialogue.exchange?_eq_some asked).1
  | settlement always =>
    exact always.now.warranted _ (Dialogue.exchange?_eq_some asked).1
  | release always =>
    exact always.now.warranted _ (Dialogue.exchange?_eq_some asked).1
  | timer always =>
    exact always.now.warranted _ (Dialogue.exchange?_eq_some asked).1

/-- A call has come so far that it has sold tickets if it had the exchange that sold them. -/
theorem sold (follows : call.Follows past errand) :
    past.any Exchange.isSale = errand.hasSold call.phase := by
  cases follows with
  | purchase always => exact always.now.sold
  | settlement always => exact always.now.sold
  | release always => exact always.now.sold
  | timer always => exact always.now.sold

end Call.Follows

/-- What a call asks is answered by the engine, and nothing else happens to it. -/
theorem Call.exchange?_eq_some {σ γ : Type} [Ledger σ] [Gateway γ] {call : Call}
    {engine : Engine σ γ} {exchange : Exchange} (asked : call.exchange? engine = some exchange) :
    ∃ request, exchange = ⟨request, (Engine.answer request engine).1⟩ ∧
      (call.turn engine).2 = (Engine.answer request engine).2 := by
  cases call with
  | purchase program => exact ⟨_, (Dialogue.exchange?_eq_some asked).2⟩
  | settlement id program => exact ⟨_, (Dialogue.exchange?_eq_some asked).2⟩
  | release id program => exact ⟨_, (Dialogue.exchange?_eq_some asked).2⟩
  | timer id program => exact ⟨_, (Dialogue.exchange?_eq_some asked).2⟩

/-- Where nothing is asked nothing happens. -/
theorem Call.exchange?_eq_none {σ γ : Type} [Ledger σ] [Gateway γ] {call : Call}
    {engine : Engine σ γ} (silent : call.exchange? engine = none) :
    call.turn engine = (call, engine) := by
  have still {α : Type} (program : Program α)
      (silent : program.exchange? Engine.answer engine = none) :
      program.turn Engine.answer engine = (program, engine) := by
    cases program with
    | done value => rfl
    | ask question next => contradiction
  cases call with
  | purchase program => simp only [turn, still program silent]
  | settlement id program => simp only [turn, still program silent]
  | release id program => simp only [turn, still program silent]
  | timer id program => simp only [turn, still program silent]

variable {σ γ : Type} [Ledger σ] [Bookkeeping σ] [Gateway γ]

/-- What an engine that can be relied on answers does to the books what its deed says. -/
theorem Engine.IsRegular.deed {engine : Engine σ γ} (regular : engine.IsRegular)
    (request : Request) :
    Exchange.Deed ⟨request, (Engine.answer request engine).1⟩ engine.desk.books
      (Engine.answer request engine).2.desk.books := by
  cases request with
  | transact transaction =>
    rw [answer_transact]
    cases done : (engine.desk.perform transaction).1 with
    | error abort => exact Desk.perform_error regular.faithful done
    | ok value => exact Desk.perform_deed regular.faithful done
  | paymentExists id => exact (Bookkeeping.paymentExists_books id regular.faithful).2
  | ping => exact (Bookkeeping.ping_books regular.faithful).2
  | putReservation reservation =>
    simp only [Engine.answer, Engine.put]
    split <;> rfl
  | _ => rfl

namespace Concourse

/-- The errands on which calls begin in a step. -/
def begun (concourse : Concourse σ γ) : Action σ → List Errand
  | .buy settings event request => [.buy settings event request]
  | .settle notification => [.settle notification]
  | .reap id => [.reap id]
  | .wake => (concourse.engine.reaper.wake concourse.engine.clock).1.map .fire
  | _ => []

/-- The exchange in a step, with the number of the call that has it. -/
def asked (concourse : Concourse σ γ) : Action σ → Option (Nat × Exchange)
  | .go caller => concourse.calls[caller]?.bind fun call =>
    (call.exchange? concourse.engine).map fun exchange => (caller, exchange)
  | _ => none

/-- What happens in a step: calls begin on errands, or some call has an exchange. -/
inductive Happens (concourse : Concourse σ γ) :
    Concourse σ γ → List Errand → Option (Nat × Exchange) → Prop where
  /-- Nothing is asked, and calls may begin. -/
  | still {later : Concourse σ γ} {errands : List Errand}
    (calls : later.calls = concourse.calls ++ errands.map Errand.call)
    (transcript : later.transcript = concourse.transcript) (books : later.books = concourse.books)
    (store : later.engine.store = concourse.engine.store) : Happens concourse later errands none
  /-- A call is answered. -/
  | exchange {caller : Nat} {call : Call} {request : Request}
    (present : concourse.calls[caller]? = some call)
    (asked : call.exchange? concourse.engine =
      some ⟨request, (Engine.answer request concourse.engine).1⟩) :
    Happens concourse
      { engine := (Engine.answer request concourse.engine).2
        calls := concourse.calls.set caller (call.turn concourse.engine).1
        transcript := concourse.transcript ++
          [⟨request, (Engine.answer request concourse.engine).1⟩] }
      [] (some (caller, ⟨request, (Engine.answer request concourse.engine).1⟩))

/-- In each step of a regular concourse calls begin, or some call has an exchange. -/
theorem IsRegular.happens {concourse : Concourse σ γ} (regular : concourse.IsRegular)
    (action : Action σ) :
    concourse.Happens (concourse.step action) (concourse.begun action)
      (concourse.asked action) := by
  cases action with
  | go caller =>
    simp only [Concourse.step, Concourse.go, begun, asked]
    cases present : concourse.calls[caller]? with
    | none => exact .still (List.append_nil _).symm rfl rfl rfl
    | some call =>
      dsimp only [Option.bind_some]
      cases asked : call.exchange? concourse.engine with
      | none =>
        simp only [Call.exchange?_eq_none asked]
        obtain ⟨inside, rfl⟩ := List.getElem?_eq_some_iff.mp present
        refine .still ?_ (List.append_nil _) rfl rfl
        exact (List.set_getElem_self inside).trans (List.append_nil _).symm
      | some exchange =>
        obtain ⟨request, rfl, turned⟩ := Call.exchange?_eq_some asked
        simp only [turned]
        exact .exchange present asked
  | follow =>
    simp only [Concourse.step, Concourse.follow]
    split <;> exact .still (List.append_nil _).symm rfl rfl rfl
  | wake =>
    refine .still ?_ rfl rfl rfl
    simp only [begun, List.map_map]
    rfl
  | upset mood =>
    refine .still (List.append_nil _).symm rfl ?_ rfl
    exact (Bookkeeping.inMood_books mood regular.engine.faithful).2
  | buy settings event request => exact .still rfl rfl rfl rfl
  | settle notification => exact .still rfl rfl rfl rfl
  | reap id => exact .still rfl rfl rfl rfl
  | pass milliseconds => exact .still (List.append_nil _).symm rfl rfl rfl
  | date now => exact .still (List.append_nil _).symm rfl rfl rfl
  | post acceptsMail => exact .still (List.append_nil _).symm rfl rfl rfl

/-- A step leaves the books as they are, or a transaction does its deed in it. -/
theorem IsRegular.deed {concourse : Concourse σ γ} (regular : concourse.IsRegular)
    (action : Action σ) :
    (concourse.step action).books = concourse.books ∨
      ∃ (transaction : Transaction) (value : transaction.Result),
        (concourse.step action).transcript =
            concourse.transcript ++ [⟨.transact transaction, .ok value⟩] ∧
          transaction.Deed value concourse.books (concourse.step action).books := by
  have happens := regular.happens action
  generalize concourse.step action = later, concourse.begun action = errands,
    concourse.asked action = asked at happens
  cases happens with
  | still calls transcript books => exact .inl books
  | @exchange caller call request present asked =>
    rcases (regular.engine.deed request).eq_or with same | ⟨transaction, value, given, deed⟩
    · exact .inl same
    · exact .inr ⟨transaction, value, congrArg (fun exchange => _ ++ [exchange]) given, deed⟩

end Concourse

/-- A concourse with the errands of its calls and the exchanges that they had. -/
structure Chronicle (σ γ : Type) where
  /-- The concourse. -/
  concourse : Concourse σ γ
  /-- The errands on which the calls began. -/
  errands : List Errand
  /-- The exchanges, each with the number of the call that had it. -/
  log : List (Nat × Exchange)

namespace Chronicle

/-- The exchanges that some call had. -/
def heard (chronicle : Chronicle σ γ) (caller : Nat) : List Exchange :=
  chronicle.log.filterMap fun entry => if entry.1 = caller then some entry.2 else none

/-- The chronicle of one more step. -/
def step (chronicle : Chronicle σ γ) (action : Action σ) : Chronicle σ γ where
  concourse := chronicle.concourse.step action
  errands := chronicle.errands ++ chronicle.concourse.begun action
  log := chronicle.log ++ (chronicle.concourse.asked action).toList

end Chronicle

/-- The chronicle of what has happened since an opening. -/
def Opening.chronicle (opening : Opening σ γ) (actions : List (Action σ)) : Chronicle σ γ :=
  actions.foldl Chronicle.step ⟨opening.concourse, [], []⟩

/-- What holds at first and is kept by every step holds of the chronicle of anything. -/
theorem Opening.chronicle_induction (opening : Opening σ γ) (Invariant : Chronicle σ γ → Prop)
    (start : Invariant ⟨opening.concourse, [], []⟩)
    (keeps : ∀ actions action, Invariant (opening.chronicle actions) →
      Invariant ((opening.chronicle actions).step action))
    (actions : List (Action σ)) : Invariant (opening.chronicle actions) := by
  induction actions using List.reverseRecOn with
  | nil => exact start
  | append_singleton actions action ih =>
    rw [chronicle, List.foldl_append]
    exact keeps actions action ih

/-- A chronicle is about the concourse after what has happened. -/
@[simp]
theorem Opening.chronicle_concourse (opening : Opening σ γ) (actions : List (Action σ)) :
    (opening.chronicle actions).concourse = opening.after actions := by
  induction actions using List.reverseRecOn with
  | nil => rfl
  | append_singleton actions action ih =>
    rw [chronicle, List.foldl_append, opening.after_append]
    exact congrArg (fun concourse => concourse.step action) ih

/-- Whether something holds of each call on its errand, and of what it has heard. -/
def Chronicle.Each (chronicle : Chronicle σ γ) (Holds : List Exchange → Errand → Call → Prop) :
    Prop :=
  ∀ (caller : Nat) (errand : Errand) (call : Call), chronicle.errands[caller]? = some errand →
    chronicle.concourse.calls[caller]? = some call → Holds (chronicle.heard caller) errand call

/-- Whether a chronicle is kept well: it knows of each call and of each exchange, and each call is
still on its errand. -/
structure Chronicle.IsKept (chronicle : Chronicle σ γ) : Prop where
  /-- It knows of each call. -/
  begun : chronicle.errands.length = chronicle.concourse.calls.length
  /-- It knows of each exchange. -/
  transcript : chronicle.log.map (·.2) = chronicle.concourse.transcript
  /-- Only calls have exchanges. -/
  spoken : ∀ entry ∈ chronicle.log, entry.1 < chronicle.errands.length
  /-- Each call is still on its errand. -/
  follows : ∀ (caller : Nat) (errand : Errand) (call : Call),
    chronicle.errands[caller]? = some errand → chronicle.concourse.calls[caller]? = some call →
      call.Follows (chronicle.heard caller) errand

namespace Chronicle

variable {chronicle : Chronicle σ γ}

omit [Ledger σ] [Bookkeeping σ] [Gateway γ] in
/-- A call that has had no exchange has heard nothing. -/
theorem heard_eq_nil {caller : Nat} (silent : ∀ entry ∈ chronicle.log, entry.1 ≠ caller) :
    chronicle.heard caller = [] :=
  List.filterMap_eq_nil_iff.mpr fun entry member => if_neg (silent entry member)

omit [Ledger σ] [Bookkeeping σ] [Gateway γ] in
/-- A call has heard of the exchanges it had. -/
theorem mem_heard {caller : Nat} {exchange : Exchange} :
    exchange ∈ chronicle.heard caller ↔ (caller, exchange) ∈ chronicle.log := by
  rw [heard, List.mem_filterMap]
  constructor
  · rintro ⟨entry, member, own⟩
    split at own
    · rename_i same
      obtain rfl := Option.some.inj own
      exact same ▸ member
    · contradiction
  · intro member
    exact ⟨_, member, if_pos rfl⟩

/-- What holds of each call on its errand and of what it has heard does so after every step, if it
holds of calls that begin and is kept by turns. -/
theorem Each.step {Holds : List Exchange → Errand → Call → Prop} (each : chronicle.Each Holds)
    (kept : chronicle.IsKept) (regular : chronicle.concourse.IsRegular)
    (begins : ∀ errand : Errand, Holds [] errand errand.call)
    (turns : ∀ (past : List Exchange) (errand : Errand) (call : Call) (engine : Engine σ γ),
      Holds past errand call →
        Holds (past ++ (call.exchange? engine).toList) errand (call.turn engine).1)
    (action : Action σ) : (chronicle.step action).Each Holds := by
  have happens := regular.happens action
  simp only [Chronicle.step]
  generalize chronicle.concourse.step action = later, chronicle.concourse.begun action = errands,
    chronicle.concourse.asked action = asked at happens
  cases happens with
  | still calls transcript =>
    intro caller errand call given present
    simp only [calls] at present
    simp only [heard, Option.toList_none, List.append_nil]
    by_cases old : caller < chronicle.errands.length
    · rw [List.getElem?_append_left old] at given
      rw [List.getElem?_append_left (kept.begun ▸ old)] at present
      exact each caller errand call given present
    · rw [List.getElem?_append_right (by omega)] at given
      rw [List.getElem?_append_right (by rw [← kept.begun]; omega), ← kept.begun,
        List.getElem?_map, given] at present
      obtain rfl := Option.some.inj present
      have silent : chronicle.heard caller = [] := heard_eq_nil fun entry member own =>
        old (own ▸ kept.spoken entry member)
      rw [heard] at silent
      rw [silent]
      exact begins errand
  | @exchange speaker turning request present asked =>
    obtain ⟨inside, -⟩ := List.getElem?_eq_some_iff.mp present
    intro caller errand call given was
    simp only [List.append_nil] at given
    simp only [heard, Option.toList_some, List.filterMap_append, List.filterMap_cons,
      List.filterMap_nil]
    by_cases own : speaker = caller
    · subst own
      have turned := turns _ _ _ chronicle.concourse.engine (each _ _ _ given present)
      rw [List.getElem?_set_self inside] at was
      rw [asked] at turned
      obtain rfl := Option.some.inj was
      simp only [↓reduceIte]
      exact turned
    · rw [List.getElem?_set_ne own] at was
      simp only [own, ↓reduceIte, List.append_nil]
      exact each caller errand call given was

/-- A chronicle is kept well in every step. -/
theorem IsKept.step (kept : chronicle.IsKept) (regular : chronicle.concourse.IsRegular)
    (action : Action σ) : (chronicle.step action).IsKept := by
  have follows : (chronicle.step action).Each fun past errand call => call.Follows past errand :=
    Each.step kept.follows kept regular Errand.follows_call
      (fun past errand call engine follows => follows.turn engine) action
  have happens := regular.happens action
  simp only [Chronicle.step] at follows ⊢
  generalize chronicle.concourse.step action = later, chronicle.concourse.begun action = errands,
    chronicle.concourse.asked action = asked at happens follows ⊢
  cases happens with
  | still calls transcript =>
    refine ⟨?_, ?_, ?_, follows⟩
    · simp only [calls, List.length_append, List.length_map, kept.begun]
    · simp only [Option.toList_none, List.append_nil, transcript, kept.transcript]
    · intro entry member
      simp only [Option.toList_none, List.append_nil] at member
      have inside := kept.spoken entry member
      simp only [List.length_append]
      omega
  | @exchange speaker turning request present asked =>
    obtain ⟨inside, -⟩ := List.getElem?_eq_some_iff.mp present
    refine ⟨?_, ?_, ?_, follows⟩
    · simp only [List.append_nil, List.length_set, kept.begun]
    · simp only [Option.toList_some, List.map_append, kept.transcript, List.map_cons, List.map_nil]
    · intro entry member
      simp only [List.append_nil]
      rcases List.mem_append.mp member with old | new
      · exact kept.spoken entry old
      · simp only [Option.toList_some, List.mem_singleton] at new
        rw [new, kept.begun]
        exact inside

omit [Bookkeeping σ] in
/-- What a call asks is warranted by its errand and by what it has heard. -/
theorem IsKept.warrant (kept : chronicle.IsKept) {caller : Nat} {call : Call}
    {exchange : Exchange} (present : chronicle.concourse.calls[caller]? = some call)
    (asked : call.exchange? chronicle.concourse.engine = some exchange) :
    ∃ errand, chronicle.errands[caller]? = some errand ∧
      Warrant errand (chronicle.heard caller) exchange.question := by
  obtain ⟨inside, -⟩ := List.getElem?_eq_some_iff.mp present
  have given := List.getElem?_eq_getElem (kept.begun ▸ inside)
  exact ⟨_, given, (kept.follows _ _ _ given present).warrant asked⟩

end Chronicle

/-- The chronicle of anything is kept well. -/
theorem Opening.chronicle_kept (opening : Opening σ γ) (actions : List (Action σ)) :
    (opening.chronicle actions).IsKept := by
  refine opening.chronicle_induction _ ?_ (fun actions action kept => ?_) actions
  · refine ⟨rfl, rfl, List.forall_mem_nil _, fun caller errand call given => ?_⟩
    contradiction
  · refine kept.step ?_ action
    rw [opening.chronicle_concourse]
    exact opening.after_regular actions

/-- What holds of calls that begin and is kept by turns holds of each call of a chronicle and of
what it has heard. -/
theorem Opening.each_after (opening : Opening σ γ) {Holds : List Exchange → Errand → Call → Prop}
    (begins : ∀ errand : Errand, Holds [] errand errand.call)
    (turns : ∀ (past : List Exchange) (errand : Errand) (call : Call) (engine : Engine σ γ),
      Holds past errand call →
        Holds (past ++ (call.exchange? engine).toList) errand (call.turn engine).1)
    (actions : List (Action σ)) : (opening.chronicle actions).Each Holds := by
  refine opening.chronicle_induction (fun chronicle => chronicle.Each Holds) ?_
    (fun actions action each => ?_) actions
  · intro caller errand call given
    contradiction
  · have regular := opening.after_regular actions
    rw [← opening.chronicle_concourse] at regular
    exact each.step (opening.chronicle_kept actions) regular begins turns action

end BoxOffice
