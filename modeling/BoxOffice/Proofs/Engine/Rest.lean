import BoxOffice.Proofs.Concourse.Move
import BoxOffice.Proofs.Ledger.Success
import BoxOffice.Proofs.Reaper

/-!
# An engine at rest

When an engine carries out one service after the other and comes to rest in between, its timers are
all that goes on by itself. With a ledger in memory that is not made to fail anywhere, a timer that
fires releases the reservation it stands for unless a payment is on record under the number, and no
timer is armed again. `Lapse` is what comes of any number of timers.
-/
namespace BoxOffice

namespace Engine

variable {γ : Type}

section Induction

variable {σ : Type} [Ledger σ] [Gateway γ] {Kept : Engine σ γ → Prop} {engine : Engine σ γ}

/-- What is kept with every answer is kept whatever is carried out. -/
theorem run_induction {α : Type}
    (answers : ∀ engine request, Kept engine → Kept (answer request engine).2)
    (program : Program α) (kept : Kept engine) : Kept (engine.run program).2 := by
  induction program generalizing engine with
  | done value => exact kept
  | ask request next ih => exact ih _ (answers engine request kept)

/-- What is kept when a timer fires, whatever the reaper has to do, is kept when an engine comes to
rest. -/
theorem rest_induction
    (fires : ∀ engine id, Kept engine → Kept (engine.run (Release.fire id)).2)
    (tells : ∀ engine reaper commands, Kept engine → Kept { engine with reaper, commands })
    (kept : Kept engine) : Kept engine.rest := by
  have all (ids : List TrackingId) (engine : Engine σ γ) (kept : Kept engine) :
      Kept (ids.foldl (fun engine id => (engine.run (Release.fire id)).2) engine) := by
    induction ids generalizing engine with
    | nil => exact kept
    | cons id rest ih => exact ih _ (fires engine id kept)
  have woken : Kept { engine.followCommands with
      reaper := (engine.followCommands.reaper.wake engine.clock).2 } := tells engine _ _ kept
  exact tells _ _ _ (all (engine.followCommands.reaper.wake engine.clock).1 _ woken)

/-- What is kept when an engine comes to rest, at whatever time, is kept while time passes. -/
theorem advanceTo_induction
    (rests : ∀ engine clock, Kept engine → Kept (rest { engine with clock }))
    (target stops : Nat) (kept : Kept engine) : Kept (engine.advanceTo target stops) := by
  induction stops generalizing engine with
  | zero => exact rests engine target kept
  | succ stops ih =>
    unfold advanceTo
    split
    · exact rests engine target kept
    · rename_i due _
      split
      · exact ih (rests engine (max engine.clock due) kept)
      · exact rests engine target kept

end Induction

section MapDesk

variable {σ τ δ : Type}

/-- An engine with something changed about its desk. -/
def mapDesk (change : Desk σ γ → Desk τ δ) (engine : Engine σ γ) : Engine τ δ :=
  { engine with desk := change engine.desk }

/-- A reservation is opened whatever is changed about the desk. -/
theorem put_mapDesk (change : Desk σ γ → Desk τ δ) (reservation : Reservation)
    (engine : Engine σ γ) : put reservation (engine.mapDesk change) =
      ((put reservation engine).1, (put reservation engine).2.mapDesk change) := by
  have same : (engine.mapDesk change).store = engine.store := rfl
  rw [put, put, same]
  split <;> rfl

end MapDesk

/-- Whether an engine can be relied on and its ledger is not made to fail anywhere. -/
structure IsSmooth (engine : Engine MemoryLedger γ) : Prop where
  /-- It can be relied on. -/
  regular : engine.IsRegular
  /-- Nothing is made to fail. -/
  sound : engine.desk.ledger.failing = []

/-- What happens between two moments if nothing happens but that time passes: some of the
reservations that nobody has paid for are released. -/
structure Lapse (engine later : Engine MemoryLedger γ) : Prop where
  /-- Nobody pays. -/
  payments : later.desk.books.payments = engine.desk.books.payments
  /-- Each reservation is still open, or it has been released and nobody has paid for it. -/
  store : ∀ id, later.store.get? id = engine.store.get? id ∨
    later.store.get? id = none ∧ engine.desk.books.paymentExists id = false
  /-- The pending tickets are those of no reservation that has been released. -/
  pending : ∀ ticket, ticket ∈ later.desk.books.idsOf .pending ↔
    ticket ∈ engine.desk.books.idsOf .pending ∧
      ∀ id reservation, engine.store.get? id = some reservation →
        later.store.get? id = none → ticket ∉ reservation.tickets

variable {engine middle later : Engine MemoryLedger γ}

/-- Where books and look-ups are the same nothing has happened. -/
theorem Lapse.of_eq (books : later.desk.books = engine.desk.books)
    (store : later.store.get? = engine.store.get?) : engine.Lapse later := by
  refine ⟨congrArg Books.payments books, fun id => .inl (congrFun store id), fun ticket => ?_⟩
  rw [books, store]
  refine (and_iff_left ?_).symm
  intro id reservation found gone
  rw [found] at gone
  contradiction

/-- What happens in a while and the while after it happens in both. -/
theorem Lapse.trans (first : engine.Lapse middle) (second : middle.Lapse later) :
    engine.Lapse later := by
  have unpaid := Books.paymentExists_congr first.payments
  refine ⟨second.payments.trans first.payments, fun id => ?_, fun ticket => ?_⟩
  · rcases second.store id with same | ⟨gone, free⟩
    · rw [same]
      exact first.store id
    · exact .inr ⟨gone, congrFun unpaid id ▸ free⟩
  · rw [second.pending, first.pending, and_assoc]
    refine and_congr_right fun _ => ⟨?_, fun apart => ⟨?_, ?_⟩⟩
    · rintro ⟨early, late⟩ id reservation found gone
      rcases first.store id with same | ⟨released, -⟩
      · exact late id reservation (same.trans found) gone
      · exact early id reservation found released
    · intro id reservation found released
      refine apart id reservation found ?_
      rcases second.store id with same | ⟨gone, -⟩
      · exact same.trans released
      · exact gone
    · intro id reservation found gone
      refine apart id reservation ?_ gone
      rcases first.store id with same | ⟨released, -⟩
      · exact same.symm.trans found
      · rw [released] at found
        contradiction

/-- When a reservation that nobody has paid for is released that is all that happens. -/
theorem Lapse.of_freed {id : TrackingId} {reservation : Reservation}
    (found : engine.store.get? id = some reservation)
    (unpaid : engine.desk.books.paymentExists id = false)
    (books : later.desk.books = engine.desk.books.freed reservation.tickets reservation.id)
    (store : later.store = engine.store.erase id) : engine.Lapse later := by
  refine ⟨?_, fun other => ?_, fun ticket => ?_⟩
  · rw [books]
    exact (engine.desk.books.freed_frame _ _).2.1
  · rw [store]
    by_cases same : other = id
    · rw [same]
      exact .inr ⟨Register.get?_erase_self _ _, unpaid⟩
    · exact .inl (Register.get?_erase_of_ne _ same)
  · rw [books, store, Books.freed_pending]
    refine and_congr_right fun _ => ⟨fun apart other freed given gone => ?_, fun apart => ?_⟩
    · by_cases same : other = id
      · rw [same, found] at given
        exact Option.some.inj given ▸ apart
      · rw [Register.get?_erase_of_ne _ same, given] at gone
        contradiction
    · exact apart id reservation found (Register.get?_erase_self _ _)

/-- An engine with the same ledger and store is smooth as well. -/
theorem IsSmooth.congr (smooth : engine.IsSmooth) (ledger : later.desk.ledger = engine.desk.ledger)
    (store : later.store = engine.store) : later.IsSmooth := by
  have books : later.desk.books = engine.desk.books := congrArg MemoryLedger.books ledger
  refine ⟨⟨trivial, books ▸ smooth.regular.returnable, ?_⟩, ?_⟩
  · rw [store]
    exact smooth.regular.keyed
  · rw [ledger]
    exact smooth.sound

variable [Gateway γ]

/-- Carrying out a question asks it and carries out the rest. -/
theorem run_ask {σ α : Type} [Ledger σ] (engine : Engine σ γ) (request : Request)
    (next : request.Answer → Program α) :
    engine.run (.ask request next) =
      (answer request engine).2.run (next (answer request engine).1) :=
  rfl

/-- No service touches the timers or the clock. -/
theorem run_frame {σ α : Type} [Ledger σ] (program : Program α) (engine : Engine σ γ) :
    (engine.run program).2.reaper = engine.reaper ∧ (engine.run program).2.clock = engine.clock ∧
      (engine.run program).2.delay = engine.delay := by
  induction program generalizing engine with
  | done value => exact ⟨rfl, rfl, rfl⟩
  | ask request next ih =>
    obtain ⟨reaper, clock, delay⟩ :=
      ih (answer request engine).1 (answer request engine).2
    have frame : (answer request engine).2.reaper = engine.reaper ∧
        (answer request engine).2.clock = engine.clock ∧
          (answer request engine).2.delay = engine.delay := by
      cases request with
      | putReservation reservation =>
        simp only [answer, put]
        split <;> exact ⟨rfl, rfl, rfl⟩
      | _ => exact ⟨rfl, rfl, rfl⟩
    exact ⟨reaper.trans frame.1, clock.trans frame.2.1, delay.trans frame.2.2⟩

/-- An engine stays smooth with every answer. -/
theorem IsSmooth.answer (smooth : engine.IsSmooth) (request : Request) :
    (answer request engine).2.IsSmooth := by
  refine ⟨smooth.regular.answer request, ?_⟩
  cases request with
  | transact transaction =>
    exact (Desk.perform_failing transaction engine.desk).trans smooth.sound
  | putReservation reservation =>
    simp only [Engine.answer, put]
    split <;> exact smooth.sound
  | _ => exact smooth.sound

/-- An engine stays smooth whatever is carried out. -/
theorem IsSmooth.run {α : Type} (smooth : engine.IsSmooth) (program : Program α) :
    (engine.run program).2.IsSmooth :=
  run_induction (fun _ request smooth => smooth.answer request) program smooth

/-- A release of a reservation whose payment is on record does nothing. -/
theorem run_reap_settled {id : TrackingId}
    (paid : engine.desk.books.paymentExists id = true) :
    engine.run (Release.reap id) = (.ok .alreadySettled, engine) := by
  have told : (Engine.answer (.paymentExists id) engine).1 = .ok true := congrArg Except.ok paid
  rw [Release.reap, run_ask, told]
  rfl

/-- A release of a reservation whose payment is not on record takes it from the store. -/
theorem run_reap_unsettled {id : TrackingId}
    (unpaid : engine.desk.books.paymentExists id = false) :
    engine.run (Release.reap id) =
      { engine with store := engine.store.erase id }.run
        (Release.afterTake (engine.store.get? id)) := by
  have told : (Engine.answer (.paymentExists id) engine).1 = .ok false := congrArg Except.ok unpaid
  rw [Release.reap, run_ask, told]
  rfl

/-- A reservation that a release has taken from the store has its tickets released. -/
theorem IsSmooth.run_afterTake (smooth : engine.IsSmooth) (reservation : Reservation) :
    ∃ released desk, engine.run (Release.afterTake (some reservation)) =
        (.ok (.released released), { engine with desk }) ∧
      desk.books = engine.desk.books.freed reservation.tickets reservation.id := by
  have done := Desk.perform_reclaim smooth.sound smooth.regular.returnable reservation
  have deed := Desk.perform_deed smooth.regular.faithful done
  refine ⟨engine.desk.books.countAmong reservation.tickets .pending, _, ?_, deed⟩
  rw [Release.afterTake, run_ask, answer_transact, done]
  rfl

/-- A release finds the payment on record, or takes away the reservation, if it is open, and makes
its tickets available. -/
theorem IsSmooth.run_reap (smooth : engine.IsSmooth) (id : TrackingId) :
    ∃ outcome desk store,
      engine.run (Release.reap id) = (.ok outcome, { engine with desk, store }) ∧
        engine.Lapse { engine with desk, store } ∧
          (engine.desk.books.paymentExists id = false → store.get? id = none) := by
  cases paid : engine.desk.books.paymentExists id with
  | true => exact ⟨_, _, _, run_reap_settled paid, .of_eq rfl rfl, nofun⟩
  | false =>
    have erased : (engine.store.erase id).get? id = none := Register.get?_erase_self _ _
    rw [run_reap_unsettled paid]
    cases found : engine.store.get? id with
    | none =>
      exact ⟨.alreadyConsumed, engine.desk, engine.store.erase id, rfl,
        .of_eq rfl (Register.get?_erase_absent found), fun _ => erased⟩
    | some reservation =>
      obtain ⟨released, desk, ran, books⟩ :=
        IsSmooth.run_afterTake (smooth.answer (.takeReservation id)) reservation
      exact ⟨_, desk, engine.store.erase id, ran, .of_freed found paid books rfl, fun _ => erased⟩

/-- A timer that fires does what a release does, and reports it. -/
theorem IsSmooth.run_fire (smooth : engine.IsSmooth) (id : TrackingId) :
    ∃ desk store events, (engine.run (Release.fire id)).2 = { engine with desk, store, events } ∧
      engine.Lapse { engine with desk, store, events } ∧
        (engine.desk.books.paymentExists id = false → store.get? id = none) := by
  obtain ⟨outcome, desk, store, ran, lapse, gone⟩ := smooth.run_reap id
  refine ⟨desk, store, engine.events ++ [⟨id, .ok outcome⟩], ?_,
    lapse.trans (.of_eq rfl rfl), gone⟩
  simp only [Engine.run, Release.fire, Dialogue.run_bind] at ran ⊢
  rw [ran]
  rfl

/-- Timers that fire one after the other release the reservations that nobody has paid for, and
leave all others alone. -/
theorem IsSmooth.fires (smooth : engine.IsSmooth) (ids : List TrackingId) :
    ∃ desk store events, ids.foldl (fun engine id => (engine.run (Release.fire id)).2) engine =
        { engine with desk, store, events } ∧
      IsSmooth { engine with desk, store, events } ∧
        engine.Lapse { engine with desk, store, events } ∧
          ∀ id ∈ ids, engine.desk.books.paymentExists id = false → store.get? id = none := by
  induction ids generalizing engine with
  | nil => exact ⟨_, _, _, rfl, smooth, .of_eq rfl rfl, nofun⟩
  | cons first rest ih =>
    have fired := smooth.run (Release.fire first)
    obtain ⟨desk, store, events, ran, once, gone⟩ := smooth.run_fire first
    rw [ran] at fired
    obtain ⟨lastDesk, lastStore, lastEvents, others, ends, more, left⟩ := ih fired
    rw [List.foldl_cons, ran, others]
    refine ⟨lastDesk, lastStore, lastEvents, rfl, ends, once.trans more, ?_⟩
    intro id member unpaid
    rcases List.mem_cons.mp member with rfl | behind
    · rcases more.store id with same | ⟨released, -⟩
      · exact same.trans (gone unpaid)
      · exact released
    · exact left id behind (congrFun (Books.paymentExists_congr once.payments) id ▸ unpaid)

/-- Whether an engine has come to rest and each open reservation that nobody has paid for has a
timer that fires by some time. -/
structure IsAtRest (limit : Nat) (engine : Engine MemoryLedger γ) : Prop where
  /-- It is smooth. -/
  smooth : engine.IsSmooth
  /-- The queue of the reaper goes by time. -/
  ordered : engine.reaper.IsOrdered
  /-- The reaper has followed its commands. -/
  quiet : engine.commands = []
  /-- Each reservation that nobody has paid for has its timer. -/
  timed : ∀ id reservation, engine.store.get? id = some reservation →
    engine.desk.books.paymentExists id = false → engine.reaper.IsArmedBy limit id

omit [Gateway γ] in
/-- An engine that is at rest up to some limit is so up to any later one. -/
theorem IsAtRest.mono {limit further : Nat} (rests : engine.IsAtRest limit)
    (later : limit ≤ further) : engine.IsAtRest further :=
  ⟨rests.smooth, rests.ordered, rests.quiet, fun id reservation found unpaid =>
    (rests.timed id reservation found unpaid).mono later⟩

/-- What has come of an engine when time has passed and it has come to rest: nothing but a lapse,
and no timer is due any more. -/
structure Settles (limit : Nat) (engine later : Engine MemoryLedger γ) : Prop where
  /-- It is at rest. -/
  rests : later.IsAtRest limit
  /-- Reservations have been released and nothing else has happened. -/
  lapse : engine.Lapse later
  /-- Reservations stay open as long as before. -/
  delay : later.delay = engine.delay
  /-- No timer is due. -/
  waits : ∀ place ∈ later.reaper.queue, later.clock < place.1

omit [Gateway γ] in
/-- A reaper that has been told nothing does nothing. -/
theorem followCommands_of_quiet (quiet : engine.commands = []) :
    engine.followCommands = engine := by
  simp only [followCommands, quiet, List.foldl_nil]
  rw [← quiet]

/-- When the timers that are due have fired, the others are still armed and the engine is at rest.
-/
theorem IsAtRest.fireDue {limit : Nat} (rests : engine.IsAtRest limit) :
    Settles limit engine engine.fireDue ∧ engine.fireDue.clock = engine.clock := by
  let woken : Engine MemoryLedger γ :=
    { engine with reaper := (engine.reaper.wake engine.clock).2 }
  have awake : woken.IsSmooth := rests.smooth.congr rfl rfl
  have still : engine.Lapse woken := .of_eq rfl rfl
  obtain ⟨ordered, waits⟩ := rests.ordered.wake engine.clock
  obtain ⟨desk, store, events, fired, smooth, lapse, gone⟩ :=
    awake.fires (engine.reaper.wake engine.clock).1
  have ends : engine.fireDue = { woken with desk, store, events } := fired
  rw [ends]
  refine ⟨⟨⟨smooth, ordered, rests.quiet, ?_⟩, still.trans lapse, rfl, waits⟩, rfl⟩
  intro id reservation found unpaid
  have before := congrFun (Books.paymentExists_congr lapse.payments) id ▸ unpaid
  rcases lapse.store id with same | ⟨released, -⟩
  · -- A reservation that is still open has not had its timer fire.
    have armed := rests.timed id reservation (same.symm.trans found) before
    refine (armed.wake engine.clock).resolve_left fun among => ?_
    rw [gone id among before] at found
    contradiction
  · rw [released] at found
    contradiction

/-- An engine whose reaper has followed its commands comes to rest. -/
theorem settles_rest {limit : Nat} (followed : engine.followCommands.IsAtRest limit) :
    Settles limit engine engine.rest ∧ engine.rest.clock = engine.clock := by
  obtain ⟨settles, clock⟩ := followed.fireDue
  have still : engine.Lapse engine.followCommands := .of_eq rfl rfl
  rw [rest, followCommands_of_quiet settles.rests.quiet]
  exact ⟨⟨settles.rests, still.trans settles.lapse, settles.delay, settles.waits⟩, clock⟩

/-- An engine at rest comes to rest again at another time. -/
theorem IsAtRest.rest {limit : Nat} (rests : engine.IsAtRest limit) (clock : Nat) :
    Settles limit engine (Engine.rest { engine with clock }) ∧
      (Engine.rest { engine with clock }).clock = clock := by
  let clocked : Engine MemoryLedger γ := { engine with clock }
  have still : engine.Lapse clocked := .of_eq rfl rfl
  have followed : clocked.followCommands.IsAtRest limit := by
    have quiet : clocked.commands = [] := rests.quiet
    rw [followCommands_of_quiet quiet]
    exact ⟨rests.smooth.congr rfl rfl, rests.ordered, rests.quiet, rests.timed⟩
  obtain ⟨settles, same⟩ := settles_rest followed
  exact ⟨⟨settles.rests, still.trans settles.lapse, settles.delay, settles.waits⟩, same⟩

/-- When the timer clock has gone on to some time the engine is at rest, however often it stopped
on the way. -/
theorem IsAtRest.advanceTo {limit : Nat} (rests : engine.IsAtRest limit) (target stops : Nat) :
    Settles limit engine (engine.advanceTo target stops) ∧
      (engine.advanceTo target stops).clock = target := by
  induction stops generalizing engine with
  | zero => exact rests.rest target
  | succ stops ih =>
    simp only [Engine.advanceTo]
    split
    · exact rests.rest target
    · rename_i due next
      split
      · obtain ⟨first, -⟩ := rests.rest (max engine.clock due)
        obtain ⟨second, clock⟩ := ih first.rests
        exact ⟨⟨second.rests, first.lapse.trans second.lapse, second.delay.trans first.delay,
          second.waits⟩, clock⟩
      · exact rests.rest target

/-- When time has passed the engine is at rest. -/
theorem IsAtRest.advance {limit : Nat} (rests : engine.IsAtRest limit) (milliseconds : Nat) :
    Settles limit engine (engine.advance milliseconds) ∧
      (engine.advance milliseconds).clock = engine.clock + milliseconds := by
  obtain ⟨⟨⟨smooth, ordered, quiet, timed⟩, lapse, delay, waits⟩, clock⟩ :=
    rests.advanceTo (engine.clock + milliseconds) (milliseconds + 1)
  exact ⟨⟨⟨smooth.congr rfl rfl, ordered, quiet, timed⟩, lapse.trans (.of_eq rfl rfl), delay,
    waits⟩, clock⟩

end Engine

end BoxOffice
