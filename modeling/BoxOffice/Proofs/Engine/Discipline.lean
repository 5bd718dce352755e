import BoxOffice.Proofs.Engine.Rest
import BoxOffice.Proofs.Sql.Peer

/-!
# Engines that keep to the discipline

An engine whose ledger is kept in a database is asked for one service after the other, and its
timers fire in between. Whatever the peer replies and refuses, the statements that were sent keep
to the discipline, and whenever the engine has come to rest no transaction is open.
-/
namespace BoxOffice

open Sql

/-- What an engine is asked for from outside. -/
inductive Visit where
  /-- Someone buys tickets. -/
  | buy (settings : CheckoutSettings) (event : Uuid) (request : PurchaseRequest)
  /-- The gateway notifies of what became of a bill. -/
  | settle (notification : PaymentNotification)
  /-- A reservation is released on demand. -/
  | reap (id : TrackingId)
  /-- Time passes. -/
  | pass (milliseconds : Nat)

namespace Engine

variable {σ γ α : Type} [Ledger σ] [Gateway γ] {engine : Engine σ γ}

/-- The engine after a visit. -/
def receive (engine : Engine σ γ) : Visit → Engine σ γ
  | .buy settings event request => (engine.buy settings event request).2
  | .settle notification => (engine.settle notification).2
  | .reap id => (engine.reap id).2
  | .pass milliseconds => engine.advance milliseconds

/-- The engine after some visits. -/
def afterVisits (engine : Engine σ γ) (visits : List Visit) : Engine σ γ :=
  visits.foldl receive engine

variable [Conducted σ]

/-- Whether an engine has kept to the discipline and no transaction is open. -/
def IsDisciplined (engine : Engine σ γ) : Prop := engine.desk.session.IsIdle

/-- An engine keeps to the discipline with every answer. -/
theorem IsDisciplined.answer (disciplined : engine.IsDisciplined) (request : Request) :
    (answer request engine).2.IsDisciplined := by
  cases request with
  | transact transaction => exact Desk.perform_isIdle transaction disciplined
  | paymentExists id =>
    obtain ⟨begun, continues, -, place⟩ := Conducted.looks id engine.desk.ledger
    show (Conducted.session (Ledger.paymentExists id engine.desk.ledger).2).IsIdle
    rw [place]
    exact (disciplined.continued continues).askAlone _ (by decide +kernel) (by decide +kernel)
  | ping =>
    obtain ⟨begun, continues, -, place⟩ := Conducted.pings engine.desk.ledger
    show (Conducted.session (Ledger.ping engine.desk.ledger).2).IsIdle
    rw [place]
    exact (disciplined.continued continues).askAlone _ (by decide +kernel) (by decide +kernel)
  | putReservation reservation =>
    simp only [Engine.answer, put]
    split <;> exact disciplined
  | _ => exact disciplined

/-- An engine keeps to the discipline whatever is carried out. -/
theorem IsDisciplined.run (disciplined : engine.IsDisciplined) (program : Program α) :
    (engine.run program).2.IsDisciplined :=
  run_induction (fun _ request disciplined => disciplined.answer request) program disciplined

/-- An engine keeps to the discipline while it comes to rest. -/
theorem IsDisciplined.rest (disciplined : engine.IsDisciplined) : engine.rest.IsDisciplined :=
  rest_induction (fun _ id disciplined => disciplined.run (Release.fire id))
    (fun _ _ _ disciplined => disciplined) disciplined

/-- An engine keeps to the discipline while time passes. -/
theorem IsDisciplined.advanceTo (disciplined : engine.IsDisciplined) (target stops : Nat) :
    (engine.advanceTo target stops).IsDisciplined := by
  apply advanceTo_induction ?_ target stops disciplined
  intro engine clock disciplined
  have clocked : IsDisciplined { engine with clock } := disciplined
  exact clocked.rest

/-- An engine keeps to the discipline with every visit. -/
theorem IsDisciplined.receive (disciplined : engine.IsDisciplined) (visit : Visit) :
    (engine.receive visit).IsDisciplined := by
  cases visit with
  | buy settings event request =>
    exact (disciplined.run (Checkout.buy settings event request)).rest
  | settle notification => exact (disciplined.run (Settlement.settle notification)).rest
  | reap id => exact (disciplined.run (Release.reap id)).rest
  | pass milliseconds =>
    exact disciplined.advanceTo (engine.clock + milliseconds) (milliseconds + 1)

/-- An engine keeps to the discipline through all visits. -/
theorem IsDisciplined.afterVisits (disciplined : engine.IsDisciplined) (visits : List Visit) :
    (engine.afterVisits visits).IsDisciplined := by
  induction visits generalizing engine with
  | nil => exact disciplined
  | cons visit rest ih => exact ih (disciplined.receive visit)

end Engine

/-- Over a database every engine keeps to the discipline. Whatever reservations are open at first,
whatever it is asked for, and whatever the peer replies: rows are written within transactions only,
tickets are only held, sold and given back, after a statement that failed nothing is sent in its
transaction but the rollback, and a transaction is committed only when all of it was answered and
exactly the tickets that were to be held or sold were counted. So it is with a peer that refuses
connections and commands always alike, and with one that changes its conduct with each call; and in
the end no transaction is open. -/
theorem Engine.commit_discipline {γ : Type} [Gateway γ] (connection : Connection)
    (commandFaults : CommandFaults) (script : List (Except String Reply)) (visits : List Visit) :
    (∀ engine : Engine Session γ,
      let session := Session.start connection commandFaults script
      let later := (engine.withLedger session).afterVisits visits
      Sql.IsDisciplined later.desk.ledger.log ∧ stageOf later.desk.ledger.log = .outside) ∧
    ∀ (engine : Engine FitfulSession γ) (conducts : List Conduct),
      let session := Session.start connection commandFaults script
      let later := (engine.withLedger ⟨session, conducts⟩).afterVisits visits
      Sql.IsDisciplined later.desk.ledger.session.log ∧
        stageOf later.desk.ledger.session.log = .outside := by
  have idle := Session.isIdle_start connection commandFaults script
  constructor
  · intro engine
    have begun :
        (engine.withLedger (Session.start connection commandFaults script)).IsDisciplined :=
      idle
    have ends := begun.afterVisits visits
    exact ⟨ends.disciplined, ends.outside⟩
  · intro engine conducts
    have begun : (engine.withLedger (FitfulSession.mk
      (Session.start connection commandFaults script) conducts)).IsDisciplined := idle
    have ends := begun.afterVisits visits
    exact ⟨ends.disciplined, ends.outside⟩

/-- The text of a statement. -/
def Sql.Statement.text : Statement → String
  | .opening => "BEGIN"
  | .commit => "COMMIT"
  | .rollback => "ROLLBACK"
  | .query text _ => text

/-- A ticket is found and was to be held, but no row was affected: the transaction is undone. -/
example :
    let row : Row := [("id", .uuid (.ofNat 1)), ("event_id", .uuid (.ofNat 9)),
      ("name", .text "A"), ("price", .integer 100), ("status", .text "available"),
      ("hash", .text "A1")]
    let session := Session.start .established ⟨none, none, none⟩ [.ok ⟨[row], 1⟩, .ok ⟨[], 0⟩]
    let engine := Engine.start session (⟨[]⟩ : ScriptedGateway) (.ofMilliseconds 0) 10
    let later := engine.receive (.buy ⟨0, 30, ""⟩ (.ofNat 9) ⟨"A", 1, none, [.empty]⟩)
    later.desk.ledger.log.map (·.statement.text) =
      ["BEGIN", Database.lockTickets, Database.updateTickets, "ROLLBACK"] := by
  rfl

end BoxOffice
