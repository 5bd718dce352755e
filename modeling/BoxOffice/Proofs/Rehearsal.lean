import BoxOffice.Proofs.Engine.Bills
import BoxOffice.Rehearsal

/-!
# Rehearsals and their engines

A rehearsal carries out services and lets time pass by itself, since someone may have to be let in
on the way. Where nobody is to come it does what its engine does, so what is said of engines is said
of it as well. Who is to come is let in before the first transaction and never again; from there on
the rehearsal does what its engine does with that reservation in the store.
-/
namespace BoxOffice.Rehearsal

/-- The rehearsal with another engine. -/
def playedBy (rehearsal : Rehearsal) (engine : Engine (BarredLedger MemoryLedger) MockGateway) :
    Rehearsal :=
  { rehearsal with engine }

section Alone

variable {α : Type} {rehearsal : Rehearsal} (alone : rehearsal.arrival = none)
  (engine : Engine (BarredLedger MemoryLedger) MockGateway)

include alone

/-- Where nobody is to come a rehearsal answers as its engine does. -/
theorem answer_playedBy (request : Request) :
    (rehearsal.playedBy engine).answer request =
      ((engine.answer request).1, rehearsal.playedBy (engine.answer request).2) := by
  have nobody : (rehearsal.playedBy engine).letIn = rehearsal.playedBy engine := by
    simp only [letIn, playedBy, alone]
  cases request with
  | transact transaction =>
    simp only [answer, nobody]
    rfl
  | _ => rfl

/-- Where nobody is to come a rehearsal carries out a service as its engine does. -/
theorem run_playedBy (program : Program α) :
    (rehearsal.playedBy engine).run program =
      ((engine.run program).1, rehearsal.playedBy (engine.run program).2) :=
  Dialogue.run_map (fun request engine => answer_playedBy alone engine request) program engine

/-- Where nobody is to come the timers of a rehearsal fire as those of its engine do. -/
theorem fireDue_playedBy :
    (rehearsal.playedBy engine).fireDue = rehearsal.playedBy engine.fireDue := by
  have all (ids : List TrackingId) (engine : Engine (BarredLedger MemoryLedger) MockGateway) :
      ids.foldl (fun rehearsal id => (rehearsal.run (Release.fire id)).2)
          (rehearsal.playedBy engine) =
        rehearsal.playedBy
          (ids.foldl (fun engine id => (engine.run (Release.fire id)).2) engine) := by
    induction ids generalizing engine with
    | nil => rfl
    | cons id rest ih =>
      simp only [List.foldl_cons, run_playedBy alone]
      exact ih _
  exact all _ _

/-- Where nobody is to come a rehearsal comes to rest as its engine does. -/
theorem rest_playedBy : (rehearsal.playedBy engine).rest = rehearsal.playedBy engine.rest :=
  congrArg followCommands (fireDue_playedBy alone engine.followCommands)

/-- Where nobody is to come a rehearsal lets the timer clock go on as its engine does. -/
theorem advanceTo_playedBy (target stops : Nat) :
    (rehearsal.playedBy engine).advanceTo target stops =
      rehearsal.playedBy (engine.advanceTo target stops) := by
  have rests (clock : Nat) (engine : Engine (BarredLedger MemoryLedger) MockGateway) :
      (rehearsal.playedBy engine).restAt clock =
        rehearsal.playedBy (Engine.rest { engine with clock }) :=
    rest_playedBy alone { engine with clock }
  induction stops generalizing engine with
  | zero => exact rests target engine
  | succ stops ih =>
    have wakes : (rehearsal.playedBy engine).engine.reaper.nextWake? = engine.reaper.nextWake? :=
      rfl
    unfold advanceTo Engine.advanceTo
    rw [wakes]
    cases engine.reaper.nextWake? with
    | none => exact rests target engine
    | some due =>
      by_cases early : due ≤ target
      · simp only [early, ↓reduceIte]
        rw [rests]
        exact ih _
      · simp only [early, ↓reduceIte]
        exact rests target engine

/-- Where nobody is to come a rehearsal does what its engine does: when it carries out a service,
when it comes to rest, and while time passes. -/
theorem plays_engine :
    (∀ {α : Type} (program : Program α), rehearsal.perform program =
      ((rehearsal.engine.perform program).1,
        rehearsal.playedBy (rehearsal.engine.perform program).2)) ∧
      rehearsal.rest = rehearsal.playedBy rehearsal.engine.rest ∧
        ∀ milliseconds, rehearsal.advance milliseconds =
          rehearsal.playedBy (rehearsal.engine.advance milliseconds) := by
  refine ⟨fun program => ?_, rest_playedBy alone rehearsal.engine, fun milliseconds => ?_⟩
  · have ran : rehearsal.run program =
        ((rehearsal.engine.run program).1, rehearsal.playedBy (rehearsal.engine.run program).2) :=
      run_playedBy alone rehearsal.engine program
    simp only [perform, Engine.perform, ran, rest_playedBy alone]
  · have advanced := advanceTo_playedBy alone rehearsal.engine
      (rehearsal.engine.clock + milliseconds) (milliseconds + 1)
    have advanced : rehearsal.advanceTo (rehearsal.engine.clock + milliseconds)
      (milliseconds + 1) = _ := advanced
    simp only [advance, Engine.advance, advanced]
    rfl

end Alone

/-- Who is to come is let in once. -/
theorem letIn_arrival (rehearsal : Rehearsal) : rehearsal.letIn.arrival = none := by
  unfold letIn
  cases alone : rehearsal.arrival with
  | none => exact alone
  | some reservation => rfl

/-- A service that begins with a transaction is carried out as by the engine once who is to come was
let in, and nobody is to come after it. -/
theorem run_transact {α : Type} (rehearsal : Rehearsal) (transaction : Transaction)
    (next : Except Abort transaction.Result → Program α) :
    let service : Program α := .ask (.transact transaction) next
    rehearsal.run service = ((rehearsal.letIn.engine.run service).1,
      rehearsal.letIn.playedBy (rehearsal.letIn.engine.run service).2) := by
  intro service
  have alone := rehearsal.letIn_arrival
  have again : rehearsal.letIn.letIn = rehearsal.letIn := by
    rw [letIn, alone]
  have same : rehearsal.answer (.transact transaction) =
      rehearsal.letIn.answer (.transact transaction) := by
    simp only [answer, again]
  have begun : rehearsal.run service = rehearsal.letIn.run service := by
    show (next (rehearsal.answer (.transact transaction)).1).run answer
      (rehearsal.answer (.transact transaction)).2 = _
    rw [same]
    rfl
  rw [begun]
  exact run_playedBy alone rehearsal.letIn.engine service

end BoxOffice.Rehearsal
