import BoxOffice.Engine

/-!
# Transactions by hand

A transaction that is opened, worked in and ended from outside, piece by piece.
-/
namespace BoxOffice.Engine

variable {σ γ : Type} [Ledger σ] [Gateway γ]

/-- How a transaction is ended. -/
inductive Ending where
  /-- Its changes are kept. -/
  | commit
  /-- Its changes are undone. -/
  | rollBack
  /-- It is left to be undone. -/
  | abandon
deriving DecidableEq, Repr

/-- Opens a transaction. -/
def openTransaction (engine : Engine σ γ) : Except Fault Unit × Engine σ γ :=
  let opened := Ledger.openTransaction engine.desk.ledger
  (opened.1, engine.withLedger opened.2)

/-- Does some work within the open transaction. -/
def attempt {α : Type} (work : Attempt α) (engine : Engine σ γ) : Except Abort α × Engine σ γ :=
  let worked := engine.desk.attempt work
  (worked.1, { engine with desk := worked.2 })

/-- Ends the open transaction. -/
def endTransaction (ending : Ending) (engine : Engine σ γ) : Except Fault Unit × Engine σ γ :=
  match ending with
  | .commit =>
    let ended := Ledger.commit engine.desk.ledger
    (ended.1, engine.withLedger ended.2)
  | .rollBack =>
    let ended := Ledger.rollBack engine.desk.ledger
    (ended.1, engine.withLedger ended.2)
  | .abandon => (.ok (), engine.withLedger (Ledger.abandon engine.desk.ledger))

end BoxOffice.Engine
