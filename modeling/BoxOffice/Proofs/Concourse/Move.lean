import BoxOffice.Proofs.Concourse.Basic
import BoxOffice.Proofs.Ledger.Returns

/-!
# Moves

A turn of a call changes how far the call has come and where things stand: books, store, timers,
commands, gateway and holds. `Move` lists all the changes there are, each with what has to be the
case for it. That nothing else happens in a turn is shown with the courses that calls take;
invariants only have to be kept by moves.
-/
namespace BoxOffice

variable {γ : Type}

/-- How far a call has come that has put a reservation into the store or could not ask for it. -/
def Role.afterPut : Role → TrackingId → Phase
  | .release, _ => .waiting
  | _, id => .arming id

/-- How far a call has come whose reservation the store did not take back. -/
def Role.afterTurnAway : Role → TrackingId → Phase
  | .timer, id => .arming id
  | _, _ => .waiting

/-- How far a call has come that has armed a timer. -/
def Role.afterArming : Role → TrackingId → Phase
  | .purchase, id => .bought id
  | _, _ => .waiting

/-- A call that has put a reservation into the store holds nothing. -/
@[simp]
theorem Role.holding?_afterPut (role : Role) (id : TrackingId) :
    (role.afterPut id).holding? = none := by
  cases role <;> rfl

/-- A call whose reservation the store did not take back has lost it. -/
@[simp]
theorem Role.holding?_afterTurnAway (role : Role) (id : TrackingId) :
    (role.afterTurnAway id).holding? = none := by
  cases role <;> rfl

/-- A call that has armed a timer holds nothing. -/
@[simp]
theorem Role.holding?_afterArming (role : Role) (id : TrackingId) :
    (role.afterArming id).holding? = none := by
  cases role <;> rfl

/-- A call that only asks for a reservation has made no hold. -/
theorem Role.bought?_of_ne {role : Role} (taker : role ≠ .purchase) (phase : Phase) :
    role.bought? phase = none := by
  cases role with
  | purchase => exact absurd rfl taker
  | settlement => rfl
  | release => rfl
  | timer => rfl

/-- What a hold holds. -/
def Hold.holding (hold : Hold) : Holding := ⟨hold.id, hold.ticketIds⟩

/-- Where things stand between two turns. -/
structure Standing (γ : Type) where
  /-- The books as committed. -/
  books : Books
  /-- The open reservations. -/
  store : Register TrackingId Reservation
  /-- The timers. -/
  reaper : Reaper
  /-- What the reaper has been told and has not followed yet. -/
  commands : List Reaper.Command
  /-- The gateway. -/
  gateway : γ
  /-- The holds made so far. -/
  holds : List Hold

/-- What is held in the store. -/
def Standing.stored (standing : Standing γ) : List Holding :=
  standing.store.values.map (·.holding)

/-- The standing after the gateway has heard some requests. -/
def Standing.heard [Gateway γ] (standing : Standing γ) (requests : List BillRequest) :
    Standing γ :=
  { standing with gateway := Gateway.heard requests standing.gateway }

/-- What a turn of a call changes: where things stand and how far the call has come, before and
after. -/
inductive Move [Gateway γ] (role : Role) :
    Standing γ → Phase → Standing γ → Phase → Prop where
  /-- Nothing comes of the turn, except that the gateway may have been asked in vain. -/
  | rest (standing : Standing γ) (phase : Phase) (requests : List BillRequest) :
    Move role standing phase (standing.heard requests) phase
  /-- Tickets are held and billed. -/
  | hold {standing : Standing γ} {hold : Hold} {books : Books} {gateway : γ}
    {request : BillRequest} (buyer : role = .purchase) (held : standing.books.Held hold books)
    (billed : Gateway.createBill request standing.gateway = (.ok hold.bill, gateway)) :
    Move role standing .waiting
      { standing with books, gateway, holds := standing.holds ++ [hold] } (.keeping hold.holding)
  /-- A reservation is opened under a free number. -/
  | put {standing : Standing γ} {reservation : Reservation}
    (absent : standing.store.get? reservation.id = none) :
    Move role standing (.keeping reservation.holding)
      { standing with store := standing.store.insert reservation.id reservation }
      (role.afterPut reservation.id)
  /-- A purchase finds that its number is not free. -/
  | decline {standing : Standing γ} {holding : Holding} (buyer : role = .purchase)
    (present : holding.id ∈ standing.stored.map (·.id)) :
    Move role standing (.keeping holding) standing (.undoing holding)
  /-- A reservation cannot be put back since its number is not free any more. -/
  | turnAway {standing : Standing γ} {holding : Holding} (taker : role ≠ .purchase)
    (present : holding.id ∈ standing.stored.map (·.id)) :
    Move role standing (.keeping holding) standing (role.afterTurnAway holding.id)
  /-- The hold of a purchase is undone. -/
  | undo {standing : Standing γ} {holding : Holding} (isRedeemed : Bool)
    (buyer : role = .purchase) :
    Move role standing (.undoing holding)
      { standing with books := standing.books.undone isRedeemed holding.tickets holding.id }
      .waiting
  /-- The hold of a purchase cannot be undone. -/
  | abandon {standing : Standing γ} {holding : Holding} (requests : List BillRequest)
    (buyer : role = .purchase) :
    Move role standing (.undoing holding) (standing.heard requests) .waiting
  /-- A call leaves a reservation that has been paid for or is not in the store. -/
  | lapse {standing : Standing γ} {id : TrackingId} (taker : role ≠ .purchase)
    (gone : standing.books.paymentExists id = true ∨ standing.store.get? id = none) :
    Move role standing (.seeking id) standing .waiting
  /-- A call cannot find out whether a reservation has been paid for. -/
  | falter {standing : Standing γ} {id : TrackingId} (taker : role ≠ .purchase) :
    Move role standing (.seeking id) standing (role.afterPut id)
  /-- A reservation is taken from the store. -/
  | take {standing : Standing γ} {reservation : Reservation} (taker : role ≠ .purchase)
    (present : standing.store.get? reservation.id = some reservation) :
    Move role standing (.seeking reservation.id)
      { standing with store := standing.store.erase reservation.id }
      (.keeping reservation.holding)
  /-- Tickets are sold. -/
  | sell {standing : Standing γ} {reservation : Reservation} {books : Books}
    (taker : role ≠ .purchase) (sold : standing.books.Sold reservation books) :
    Move role standing (.keeping reservation.holding) { standing with books }
      (.consumed reservation.id .sold)
  /-- A settlement finds the payment on record already. -/
  | recur {standing : Standing γ} {holding : Holding} (taker : role ≠ .purchase)
    (paid : standing.books.paymentExists holding.id = true) :
    Move role standing (.keeping holding) standing (.repeated holding.id)
  /-- Tickets are released. -/
  | release {standing : Standing γ} {holding : Holding} (taker : role ≠ .purchase) :
    Move role standing (.keeping holding)
      { standing with books := standing.books.freed holding.tickets holding.id }
      (.consumed holding.id .released)
  /-- A timer is armed. -/
  | schedule {standing : Standing γ} {id : TrackingId} (due : Nat) :
    Move role standing (.arming id)
      { standing with commands := standing.commands ++ [.schedule id due] } (role.afterArming id)
  /-- The timer of a reservation whose tickets are sold or released is disarmed. -/
  | resolve {standing : Standing γ} {id : TrackingId} {fate : Fate} (taker : role ≠ .purchase) :
    Move role standing (.consumed id fate)
      { standing with commands := standing.commands ++ [.resolve id] } (.consumed id fate)
  /-- The timer of a reservation whose payment was on record already is disarmed. -/
  | forget {standing : Standing γ} {id : TrackingId} (taker : role ≠ .purchase) :
    Move role standing (.repeated id)
      { standing with commands := standing.commands ++ [.resolve id] } .waiting

/-- Nothing comes of a turn in which nothing is asked. -/
theorem Move.stay [Gateway γ] (role : Role) (standing : Standing γ) (phase : Phase) :
    Move role standing phase standing phase :=
  .rest standing phase []

namespace Engine

variable {σ : Type} [Ledger σ] [Bookkeeping σ]

/-- Where things stand at an engine when some holds have been made. -/
def standing (engine : Engine σ γ) (holds : List Hold) : Standing γ where
  books := engine.desk.books
  store := engine.store
  reaper := engine.reaper
  commands := engine.commands
  gateway := engine.desk.gateway
  holds

/-- Whether an engine can be relied on: its ledger gives its own answers, the uses on record can be
returned, and each reservation is there under its own number. -/
structure IsRegular (engine : Engine σ γ) : Prop where
  /-- The ledger gives its own answers. -/
  faithful : engine.desk.IsFaithful
  /-- The uses on record can be returned. -/
  returnable : engine.desk.books.CanReturn
  /-- Each reservation is there under its own number. -/
  keyed : ∀ id reservation, engine.store.get? id = some reservation → reservation.id = id

variable [Gateway γ] {engine later : Engine σ γ}

omit [Bookkeeping σ] in
/-- What an engine answers about a transaction is what the desk makes of it. -/
theorem answer_transact (transaction : Transaction) :
    answer (.transact transaction) engine =
      ((engine.desk.perform transaction).1,
        { engine with desk := (engine.desk.perform transaction).2 }) :=
  rfl

/-- An engine that can be relied on can be relied on after every answer. -/
theorem IsRegular.answer (regular : engine.IsRegular) (request : Request) :
    (answer request engine).2.IsRegular := by
  have stays (ledger : σ) (kept : Bookkeeping.IsFaithful ledger ∧
      Bookkeeping.books ledger = engine.desk.books) : (engine.withLedger ledger).IsRegular :=
    ⟨kept.1, regular.returnable.congr (congrArg Books.codes kept.2) (congrArg Books.uses kept.2),
      regular.keyed⟩
  cases request with
  | transact transaction =>
    exact ⟨Desk.perform_faithful transaction regular.faithful,
      Desk.perform_canReturn regular.faithful regular.returnable, regular.keyed⟩
  | paymentExists id => exact stays _ (Bookkeeping.paymentExists_books id regular.faithful)
  | ping => exact stays _ (Bookkeeping.ping_books regular.faithful)
  | putReservation reservation =>
    simp only [Engine.answer, put]
    split
    · exact regular
    · refine ⟨regular.faithful, regular.returnable, fun id found given => ?_⟩
      rcases Register.get?_insert_eq_some.mp given with ⟨rfl, rfl⟩ | ⟨-, old⟩
      · rfl
      · exact regular.keyed id found old
  | takeReservation id =>
    refine ⟨regular.faithful, regular.returnable, fun other found given => ?_⟩
    simp only [Engine.answer, take] at given
    exact regular.keyed other found (Register.get?_erase_eq_some.mp given).2
  | countReservations => exact regular
  | schedule id => exact ⟨regular.faithful, regular.returnable, regular.keyed⟩
  | resolve id => exact ⟨regular.faithful, regular.returnable, regular.keyed⟩
  | deliver mail => exact ⟨regular.faithful, regular.returnable, regular.keyed⟩
  | publish event => exact ⟨regular.faithful, regular.returnable, regular.keyed⟩
  | wallClock => exact regular

/-- After a transaction that came to nothing things stand as before. -/
theorem standing_of_error {transaction : Transaction} {abort : Abort} (regular : engine.IsRegular)
    (failed : answer (.transact transaction) engine = (.error abort, later)) :
    ∃ requests, ∀ holds, later.standing holds = (engine.standing holds).heard requests := by
  obtain ⟨came, place⟩ := Prod.mk.inj failed
  obtain ⟨requests, heard⟩ := engine.desk.perform_heard transaction
  have books := Desk.perform_error regular.faithful came
  refine ⟨requests, fun holds => ?_⟩
  rw [← place]
  simp only [standing, Standing.heard, books, heard]

/-- A transaction that holds nothing gives a value or is refused. -/
theorem IsRegular.refused {transaction : Transaction} {abort : Abort}
    (regular : engine.IsRegular) (holds : transaction.isHold = false)
    (failed : Engine.answer (.transact transaction) engine = (.error abort, later)) :
    ∃ refusal, abort = .refused refusal :=
  Desk.perform_refused regular.faithful regular.returnable holds (congrArg Prod.fst failed)

/-- A transaction that gives a value has done its work, and things stand as the work left them. -/
theorem standing_of_ok {transaction : Transaction} {value : transaction.Result}
    (regular : engine.IsRegular)
    (done : answer (.transact transaction) engine = (.ok value, later)) :
    ∃ start worked : Desk σ γ, start.IsFaithful ∧ start.staged = engine.desk.books ∧
      start.gateway = engine.desk.gateway ∧ start.Gives transaction.work value worked ∧
        ∀ holds, later.standing holds =
          { engine.standing holds with books := worked.staged, gateway := worked.gateway } := by
  obtain ⟨came, place⟩ := Prod.mk.inj done
  obtain ⟨start, worked, faithful, staged, gateway, given, books, heard⟩ :=
    Desk.perform_ok regular.faithful came
  refine ⟨start, worked, faithful, staged, gateway, given, fun holds => ?_⟩
  rw [← place]
  simp only [standing, books, heard]

/-- After a hold things stand as `Held` says. -/
theorem standing_of_hold {settings : CheckoutSettings} {event : Uuid} {request : PurchaseRequest}
    {hold : Hold} (regular : engine.IsRegular)
    (done : answer (.transact (.hold settings event request)) engine = (.ok hold, later)) :
    ∃ books gateway bill, engine.desk.books.Held hold books ∧
      Gateway.createBill bill engine.desk.gateway = (.ok hold.bill, gateway) ∧
        ∀ holds, later.standing holds = { engine.standing holds with books, gateway } := by
  obtain ⟨start, worked, faithful, staged, gateway, given, stands⟩ := standing_of_ok regular done
  obtain ⟨-, held, ⟨bill, made⟩, -⟩ := Desk.gives_holdWork faithful given
  rw [staged] at held
  rw [gateway] at made
  exact ⟨worked.staged, worked.gateway, bill, held, made, stands⟩

/-- After work that only changes the books things stand with the changed books. -/
theorem standing_of_becomes {transaction : Transaction} {value : transaction.Result}
    (change : Books → Books) (regular : engine.IsRegular)
    (done : answer (.transact transaction) engine = (.ok value, later))
    (becomes : ∀ start worked : Desk σ γ, start.IsFaithful →
      start.Gives transaction.work value worked → start.Becomes worked (change start.staged))
    (holds : List Hold) :
    later.standing holds =
      { engine.standing holds with books := change engine.desk.books } := by
  obtain ⟨start, worked, faithful, staged, gateway, given, stands⟩ := standing_of_ok regular done
  have became := becomes start worked faithful given
  rw [stands, became.staged, became.gateway, staged, gateway]
  rfl

/-- After a sale the tickets are sold, unless the payment was on record; then things stand as
before. -/
theorem standing_of_sell {reservation : Reservation} {notification : PaymentNotification}
    {outcome : SettlementOutcome} (regular : engine.IsRegular)
    (done : answer (.transact (.sell reservation notification)) engine = (.ok outcome, later)) :
    outcome = .duplicate ∧ engine.desk.books.paymentExists reservation.id = true ∧
        (∀ holds, later.standing holds = engine.standing holds) ∨
      outcome = .sold reservation.tickets.length ∧
        ∃ books, engine.desk.books.Sold reservation books ∧
          ∀ holds, later.standing holds = { engine.standing holds with books } := by
  obtain ⟨start, worked, faithful, staged, gateway, given, stands⟩ := standing_of_ok regular done
  obtain ⟨-, kept, recorded | sold⟩ := Desk.gives_sellWork faithful given
  · obtain ⟨rfl, paid, same⟩ := recorded
    rw [staged] at paid
    refine .inl ⟨rfl, paid, fun holds => ?_⟩
    rw [stands, same, kept, staged, gateway]
    rfl
  · obtain ⟨rfl, sold, -⟩ := sold
    rw [staged] at sold
    refine .inr ⟨rfl, worked.staged, sold, fun holds => ?_⟩
    rw [stands, kept, gateway]
    rfl

/-- After the question for a payment things stand as before, and an answer is the right one. -/
theorem standing_of_paymentExists {id : TrackingId} {isPaid : Except Fault Bool}
    (regular : engine.IsRegular)
    (asked : answer (.paymentExists id) engine = (isPaid, later)) :
    (∀ holds, later.standing holds = engine.standing holds) ∧
      ∀ answer, isPaid = .ok answer → engine.desk.books.paymentExists id = answer := by
  obtain ⟨told, place⟩ := Prod.mk.inj asked
  have books := (Bookkeeping.paymentExists_books id regular.faithful).2
  constructor
  · intro holds
    rw [← place]
    simp only [standing, withLedger, books]
  · intro answer right
    exact Bookkeeping.paymentExists_ok regular.faithful (told.trans right)

omit [Bookkeeping σ] in
/-- Nothing is taken if no reservation is open under a number. -/
theorem answer_take_of_absent {id : TrackingId} (absent : engine.store.get? id = none) :
    answer (.takeReservation id) engine = (none, engine) := by
  simp only [answer, take, absent, Register.erase_of_absent absent]

/-- A reservation is taken if it is open. -/
theorem IsRegular.take (regular : engine.IsRegular) (id : TrackingId) :
    engine.store.get? id = none ∧
        Engine.answer (.takeReservation id) engine = (none, engine) ∨
      ∃ reservation, reservation.id = id ∧
        engine.store.get? reservation.id = some reservation ∧
        Engine.answer (.takeReservation id) engine = (some reservation,
          { engine with store := engine.store.erase reservation.id }) := by
  cases found : engine.store.get? id with
  | none => exact .inl ⟨rfl, answer_take_of_absent found⟩
  | some reservation =>
    have own := regular.keyed _ _ found
    refine .inr ⟨reservation, own, own ▸ found, ?_⟩
    simp only [Engine.answer, Engine.take, found, own]

/-- A reservation is opened if its number is free. -/
theorem IsRegular.put (regular : engine.IsRegular) (reservation : Reservation) :
    engine.store.get? reservation.id = none ∧
        Engine.answer (.putReservation reservation) engine =
          (true, { engine with store := engine.store.insert reservation.id reservation }) ∨
      (∀ holds, reservation.id ∈ (engine.standing holds).stored.map (·.id)) ∧
        Engine.answer (.putReservation reservation) engine = (false, engine) := by
  simp only [Engine.answer, Engine.put, Register.contains_eq_isSome]
  cases found : engine.store.get? reservation.id with
  | none => exact .inl ⟨rfl, rfl⟩
  | some present =>
    refine .inr ⟨fun holds => ?_, rfl⟩
    have member : present ∈ engine.store.values :=
      List.mem_map.mpr ⟨_, Register.get?_eq_some.mp found, rfl⟩
    rw [← regular.keyed _ _ found]
    exact List.mem_map.mpr ⟨_, List.mem_map.mpr ⟨present, member, rfl⟩, rfl⟩

end Engine

end BoxOffice
