import BoxOffice.Checkout
import BoxOffice.Engine
import BoxOffice.Proofs.Ledger.Attempt
import BoxOffice.Proofs.Ledger.Tickets
import BoxOffice.Proofs.Register
import BoxOffice.Proofs.Turn
import BoxOffice.Settlement

/-!
# Concourses

In a concourse any number of purchases, settlements, releases and timers are under way at one
engine. In one step a call begins, some call takes its next turn, the reaper follows a command or
wakes up, or something changes from outside: the clocks, the mood of the ledger, whether mails are
accepted. Steps come in any order, so calls get in between each other after every transaction and
every call to the store. `Phase` is how far a call has come.
-/
namespace BoxOffice

/-- What became of a reservation in the end. -/
inductive Fate where
  /-- Its tickets were sold. -/
  | sold
  /-- Its tickets became available again. -/
  | released
deriving DecidableEq, Repr

/-- Tickets that are held under the number of a bill. -/
structure Holding where
  /-- The number of the bill. -/
  id : TrackingId
  /-- The tickets. -/
  tickets : List Uuid
deriving DecidableEq

/-- What a reservation holds. -/
def Reservation.holding (reservation : Reservation) : Holding :=
  ⟨reservation.id, reservation.tickets⟩

/-- How far a call has come, told by what it is going to ask next. -/
inductive Phase where
  /-- It holds nothing, and nothing has come of it. -/
  | waiting
  /-- It is after the reservation under a number and has not asked the store for it. -/
  | seeking (id : TrackingId)
  /-- It holds tickets that it will sell, release or put into the store. -/
  | keeping (holding : Holding)
  /-- It holds tickets whose reservation could not be opened. -/
  | undoing (holding : Holding)
  /-- It is about to arm a timer. -/
  | arming (id : TrackingId)
  /-- It has opened a reservation and armed its timer, and ends with a receipt. -/
  | bought (id : TrackingId)
  /-- It has taken a reservation whose payment is on record. -/
  | repeated (id : TrackingId)
  /-- It has sold or released the tickets of a reservation, and ends with this outcome. -/
  | consumed (id : TrackingId) (fate : Fate)
deriving DecidableEq

namespace Phase

/-- The tickets that a call holds. -/
def holding? : Phase → Option Holding
  | .keeping holding | .undoing holding => some holding
  | _ => none

/-- Whether a call is on its way to an end that only comes of a repeated number. -/
def isAstray : Phase → Bool
  | .undoing _ | .repeated _ => true
  | _ => false

/-- What a call has sold or released. -/
def consumption? : Phase → Option (TrackingId × Fate)
  | .consumed id fate => some (id, fate)
  | _ => none

end Phase

/-- How far a program has come, if the value it ends with tells how far it has come then. Questions
with only one answer, and the time, are looked beyond. -/
def phaseOf {α : Type} (finish : α → Phase) : Program α → Phase
  | .done value => finish value
  | .ask (.transact (.hold ..)) _ => .waiting
  | .ask (.transact (.undoHold id tickets _)) _ => .undoing ⟨id, tickets⟩
  | .ask (.transact (.sell reservation _)) _ => .keeping reservation.holding
  | .ask (.transact (.release reservation)) _ => .keeping reservation.holding
  | .ask (.transact (.reclaim reservation)) _ => .keeping reservation.holding
  | .ask (.paymentExists id) _ => .seeking id
  | .ask .ping _ => .waiting
  | .ask (.putReservation reservation) _ => .keeping reservation.holding
  | .ask (.takeReservation id) _ => .seeking id
  | .ask .countReservations _ => .waiting
  | .ask (.schedule id) _ => .arming id
  | .ask (.resolve id) next =>
    match phaseOf finish (next ()) with
    | .waiting => .repeated id
    | phase => phase
  | .ask (.deliver _) next => phaseOf finish (next ())
  | .ask (.publish _) next => phaseOf finish (next ())
  | .ask .wallClock next => phaseOf finish (next (.ofMilliseconds 0))

/-- A purchase ends with a receipt or without. -/
def purchaseEnd : Except Abort Receipt → Phase
  | .ok receipt => .bought receipt.bill.trackingId
  | .error _ => .waiting

/-- A settlement ends with tickets sold, with tickets released or with nothing. -/
def settlementEnd (id : TrackingId) : Except Abort SettlementOutcome → Phase
  | .ok (.sold _) => .consumed id .sold
  | .ok (.released _) => .consumed id .released
  | .ok .duplicate => .waiting
  | .error _ => .waiting

/-- A release ends with tickets released or with nothing. -/
def releaseEnd (id : TrackingId) : Except Abort ReapOutcome → Phase
  | .ok (.released _) => .consumed id .released
  | .ok .alreadySettled => .waiting
  | .ok .alreadyConsumed => .waiting
  | .error _ => .waiting

/-- A call of a service that is under way, as what is left of it; one that is over stays as its
end. -/
inductive Call where
  /-- A purchase. -/
  | purchase (program : Program (Except Abort Receipt))
  /-- A settlement for a bill. -/
  | settlement (id : TrackingId) (program : Program (Except Abort SettlementOutcome))
  /-- A release of a reservation. -/
  | release (id : TrackingId) (program : Program (Except Abort ReapOutcome))
  /-- A timer that fired. -/
  | timer (id : TrackingId) (program : Program (Except Abort ReapOutcome))

/-- The kinds of calls. -/
inductive Role where
  /-- A purchase. -/
  | purchase
  /-- A settlement. -/
  | settlement
  /-- A release. -/
  | release
  /-- A timer. -/
  | timer
deriving DecidableEq

/-- The number under which a purchase has made a hold that has not been undone. -/
def Role.bought? : Role → Phase → Option TrackingId
  | .purchase, .keeping holding => some holding.id
  | .purchase, .undoing holding => some holding.id
  | .purchase, .arming id => some id
  | .purchase, .bought id => some id
  | _, _ => none

/-- A question and its answer. -/
abbrev Exchange : Type := Dialogue.Exchange Request Request.Answer

namespace Call

variable {σ γ : Type} [Ledger σ] [Gateway γ]

/-- What kind of call it is. -/
def role : Call → Role
  | .purchase _ => .purchase
  | .settlement .. => .settlement
  | .release .. => .release
  | .timer .. => .timer

/-- How far a call has come. -/
def phase : Call → Phase
  | .purchase program => phaseOf purchaseEnd program
  | .settlement id program => phaseOf (settlementEnd id) program
  | .release id program => phaseOf (releaseEnd id) program
  | .timer id program => phaseOf (releaseEnd id) program

/-- Whether a call is over. -/
def isOver : Call → Bool
  | .purchase (.done _) | .settlement _ (.done _) => true
  | .release _ (.done _) | .timer _ (.done _) => true
  | _ => false

/-- A call after its next turn, and the engine after it. -/
def turn (call : Call) (engine : Engine σ γ) : Call × Engine σ γ :=
  match call with
  | .purchase program =>
    let turned := program.turn Engine.answer engine
    (.purchase turned.1, turned.2)
  | .settlement id program =>
    let turned := program.turn Engine.answer engine
    (.settlement id turned.1, turned.2)
  | .release id program =>
    let turned := program.turn Engine.answer engine
    (.release id turned.1, turned.2)
  | .timer id program =>
    let turned := program.turn Engine.answer engine
    (.timer id turned.1, turned.2)

/-- What a call asks in its next turn and what it is answered. -/
def exchange? (call : Call) (engine : Engine σ γ) : Option Exchange :=
  match call with
  | .purchase program => program.exchange? Engine.answer engine
  | .settlement _ program => program.exchange? Engine.answer engine
  | .release _ program => program.exchange? Engine.answer engine
  | .timer _ program => program.exchange? Engine.answer engine

end Call

/-- The hold that was made, if an exchange was one that made a hold. -/
def Exchange.hold? : Exchange → Option Hold
  | ⟨.transact (.hold ..), .ok hold⟩ => some hold
  | _ => none

/-- An engine with all the calls there have been. -/
structure Concourse (σ γ : Type) where
  /-- The engine. -/
  engine : Engine σ γ
  /-- The calls, in the order in which they began. -/
  calls : List Call
  /-- What the calls asked and were answered so far. -/
  transcript : List Exchange

/-- What can happen next in a concourse. -/
inductive Action (σ : Type) [Ledger σ] [Bookkeeping σ] where
  /-- A purchase begins. -/
  | buy (settings : CheckoutSettings) (event : Uuid) (request : PurchaseRequest)
  /-- A settlement begins. -/
  | settle (notification : PaymentNotification)
  /-- A release begins. -/
  | reap (id : TrackingId)
  /-- A call takes its next turn. -/
  | go (caller : Nat)
  /-- The reaper follows its next command. -/
  | follow
  /-- The reaper wakes up, and the timers that are due begin. -/
  | wake
  /-- Time passes on the timer clock. -/
  | pass (milliseconds : Nat)
  /-- The wall clock is set. -/
  | date (now : Instant)
  /-- The ledger gets into another mood. -/
  | upset (mood : Bookkeeping.Mood σ)
  /-- Mails are accepted from now on, or not. -/
  | post (acceptsMail : Bool)

namespace Concourse

variable {σ γ : Type}

/-- The holds made so far. -/
def holds (concourse : Concourse σ γ) : List Hold := concourse.transcript.filterMap Exchange.hold?

/-- What is held in the store. -/
def stored (concourse : Concourse σ γ) : List Holding :=
  concourse.engine.store.values.map (·.holding)

/-- What is held by running calls. -/
def inHand (concourse : Concourse σ γ) : List Holding :=
  concourse.calls.filterMap fun call => call.phase.holding?

/-- What is held. -/
def live (concourse : Concourse σ γ) : List Holding := concourse.stored ++ concourse.inHand

/-- What has been sold or released, by number and fate. -/
def consumptions (concourse : Concourse σ γ) : List (TrackingId × Fate) :=
  concourse.calls.filterMap fun call => call.phase.consumption?

/-- The concourse with one more call. -/
def begin (concourse : Concourse σ γ) (call : Call) : Concourse σ γ :=
  { concourse with calls := concourse.calls ++ [call] }

variable [Ledger σ] [Gateway γ]

/-- Lets a call take its next turn. -/
def go (concourse : Concourse σ γ) (caller : Nat) : Concourse σ γ :=
  match concourse.calls[caller]? with
  | none => concourse
  | some call =>
    let turned := call.turn concourse.engine
    { engine := turned.2
      calls := concourse.calls.set caller turned.1
      transcript := concourse.transcript ++ (call.exchange? concourse.engine).toList }

/-- Lets the reaper follow its next command. -/
def follow (concourse : Concourse σ γ) : Concourse σ γ :=
  match concourse.engine.commands with
  | [] => concourse
  | order :: rest =>
    let engine := concourse.engine
    { concourse with
      engine := { engine with reaper := engine.reaper.follow order, commands := rest } }

/-- Wakes the reaper up. -/
def wake (concourse : Concourse σ γ) : Concourse σ γ :=
  let woken := concourse.engine.reaper.wake concourse.engine.clock
  { concourse with
    engine := { concourse.engine with reaper := woken.2 }
    calls := concourse.calls ++ woken.1.map fun id => .timer id (Release.watch id) }

variable [Bookkeeping σ]

/-- The books as committed. -/
def books (concourse : Concourse σ γ) : Books := concourse.engine.desk.books

/-- Lets something happen. -/
def step (concourse : Concourse σ γ) (action : Action σ) : Concourse σ γ :=
  let engine := concourse.engine
  match action with
  | .buy settings event request =>
    concourse.begin (.purchase (Checkout.buy settings event request))
  | .settle notification =>
    concourse.begin (.settlement notification.trackingId (Settlement.settle notification))
  | .reap id => concourse.begin (.release id (Release.reap id))
  | .go caller => concourse.go caller
  | .follow => concourse.follow
  | .wake => concourse.wake
  | .pass milliseconds =>
    { concourse with engine := { engine with clock := engine.clock + milliseconds } }
  | .date now => { concourse with engine := { engine with desk := { engine.desk with now } } }
  | .upset mood =>
    { concourse with engine := engine.withLedger (Bookkeeping.inMood mood engine.desk.ledger) }
  | .post acceptsMail => { concourse with engine := { engine with acceptsMail } }

/-- Lets things happen one after the other. -/
def run (concourse : Concourse σ γ) (actions : List (Action σ)) : Concourse σ γ :=
  actions.foldl step concourse

end Concourse

/-- An opening: tickets are on sale, codes may be issued, and nothing has happened yet. -/
structure Opening (σ γ : Type) [Ledger σ] [Bookkeeping σ] where
  /-- The ledger. -/
  ledger : σ
  /-- The gateway. -/
  gateway : γ
  /-- The time. -/
  now : Instant
  /-- How long a reservation stays open, in milliseconds. -/
  delay : Nat
  /-- The ledger gives its own answers. -/
  faithful : Bookkeeping.IsFaithful ledger
  /-- All tickets are available. -/
  available : ∀ ticket ∈ (Bookkeeping.books ledger).tickets, ticket.status = .available
  /-- No two tickets have the same identifier. -/
  distinct : (Bookkeeping.books ledger).ticketIds.Nodup
  /-- No code has been used. -/
  unused : (Bookkeeping.books ledger).uses = []
  /-- Nobody has paid. -/
  unpaid : (Bookkeeping.books ledger).payments = []
  /-- Nobody is to come. -/
  unattended : (Bookkeeping.books ledger).attendances = []

/-- A concourse in which nothing has happened yet. -/
def Opening.concourse {σ γ : Type} [Ledger σ] [Bookkeeping σ] (opening : Opening σ γ) :
    Concourse σ γ where
  engine := Engine.start opening.ledger opening.gateway opening.now opening.delay
  calls := []
  transcript := []

/-- The concourse after some things have happened, one after the other. -/
def Opening.after {σ γ : Type} [Ledger σ] [Bookkeeping σ] [Gateway γ] (opening : Opening σ γ)
    (actions : List (Action σ)) : Concourse σ γ :=
  opening.concourse.run actions

end BoxOffice
