import BoxOffice.Ledger.Basic

/-!
# Barred ledgers

A ledger behind barriers. A barrier stands before one kind of call; it lets some calls pass and
stops all later ones, which then fail without reaching the ledger. A rollback that is stopped has
reached it. Besides, two kinds of answers can be replaced: the count of the uses of a code, and
the number of tickets changed, after the change was made.
-/
namespace BoxOffice

/-- A ledger behind barriers. -/
structure BarredLedger (σ : Type) where
  /-- The ledger. -/
  inner : σ
  /-- The barriers, each with the number of calls it still lets pass. -/
  barriers : List (Barrier × Nat)
  /-- What takes the place of the count of uses. -/
  reportedUsage : Option Int
  /-- What takes the place of the number of tickets changed. -/
  reportedChange : Option Nat

namespace BarredLedger

variable {σ : Type}

/-- A ledger without barriers. -/
def ofLedger (ledger : σ) : BarredLedger σ := ⟨ledger, [], none, none⟩

/-- Sets up a barrier that lets some calls pass; a former one of its kind gives way. -/
def bar (ledger : BarredLedger σ) (barrier : Barrier) (passing : Nat) : BarredLedger σ :=
  { ledger with
    barriers := (barrier, passing) :: ledger.barriers.filter fun present => present.1 ≠ barrier }

/-- Takes down all barriers and lets all answers through. -/
def clear (ledger : BarredLedger σ) : BarredLedger σ := ofLedger ledger.inner

/-- Whether a barrier stops a call, and the ledger after the call met it. -/
def meet (ledger : BarredLedger σ) (barrier : Barrier) : Bool × BarredLedger σ :=
  match ledger.barriers.find? fun present => present.1 = barrier with
  | none => (false, ledger)
  | some (_, 0) => (true, ledger)
  | some (_, passing + 1) => (false, ledger.bar barrier passing)

/-- The ledger with another one behind its barriers. -/
def withInner (ledger : BarredLedger σ) (inner : σ) : BarredLedger σ := { ledger with inner }

/-- A call that a barrier may stop. -/
def call {α : Type} (barrier : Barrier) (perform : σ → Except Fault α × σ)
    (ledger : BarredLedger σ) : Except Fault α × BarredLedger σ :=
  let met := ledger.meet barrier
  if met.1 then (.error (.barred barrier), met.2)
  else
    let performed := perform met.2.inner
    (performed.1, met.2.withInner performed.2)

/-- The barrier before a query. -/
def barrierOf? : Query → Option Barrier
  | .availableTickets .. => some .lockTickets
  | .changeStatus .. => some .changeStatus
  | .referralCode _ => some .lockReferral
  | .usageCount _ => some .usageCount
  | .recordUsage .. => some .recordUsage
  | .releaseUsage _ => some .releaseUsage
  | .paymentExists _ => some .transactionPaymentExists
  | .insertPayment _ | .insertAttendance _ => none

/-- The answer that takes the place of the one given to a query. -/
def replaced (ledger : BarredLedger σ) : (query : Query) → query.Answer → query.Answer
  | .usageCount _, given => ledger.reportedUsage.getD given
  | .changeStatus .., given => ledger.reportedChange.getD given
  | _, given => given

instance [Ledger σ] : Ledger (BarredLedger σ) where
  openTransaction := call .opening Ledger.openTransaction
  answer query ledger :=
    let answered := match barrierOf? query with
      | some barrier => ledger.call barrier (Ledger.answer query)
      | none =>
        let performed := Ledger.answer query ledger.inner
        (performed.1, ledger.withInner performed.2)
    (answered.1.map (ledger.replaced query), answered.2)
  commit ledger :=
    let met := ledger.meet .commit
    if met.1 then (.error (.barred .commit), met.2.withInner (Ledger.abandon met.2.inner))
    else
      let performed := Ledger.commit met.2.inner
      (performed.1, met.2.withInner performed.2)
  rollBack ledger :=
    let performed := Ledger.rollBack ledger.inner
    let met := (ledger.withInner performed.2).meet .rollback
    (if met.1 then .error (.barred .rollback) else performed.1, met.2)
  abandon ledger := ledger.withInner (Ledger.abandon ledger.inner)
  paymentExists id := call .paymentExists (Ledger.paymentExists id)
  ping ledger :=
    let met := ledger.meet .ping
    if met.1 then (false, met.2)
    else
      let performed := Ledger.ping met.2.inner
      (performed.1, met.2.withInner performed.2)

end BarredLedger

end BoxOffice
