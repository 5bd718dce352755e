import BoxOffice.Proofs.Concourse.Redemption
import BoxOffice.Proofs.Engine.Reach

/-!
# Clearings that commute

Clearings of two different reservations come to the same in either order. The tickets in custody of
one are not those of the other, so neither clearing shows in what the other one looks at, and what
the two make of the books are amendments that commute. Payments, attendances, mails and reports may
differ in their order, and so may what the queue of the reaper still holds of former deadlines.
-/
namespace BoxOffice

namespace Clearing

/-- A clearing tells the reaper about nothing but its own timer. -/
theorem orders_target (clearing : Clearing) (found : Option Reservation) (due : Nat)
    (result : Except Abort clearing.Result) :
    ∀ order ∈ clearing.orders found due result, order.target = clearing.id := by
  intro order member
  cases clearing with
  | settle notification =>
    cases found with
    | none => contradiction
    | some reservation =>
      rcases result with (refusal | overflow) | outcome
      · rw [List.mem_singleton.mp member]
        rfl
      · contradiction
      · rw [List.mem_singleton.mp member]
        rfl
  | reap id => contradiction
  | expire id =>
    rcases result with (refusal | overflow) | outcome
    · rw [List.mem_singleton.mp member]
      rfl
    · contradiction
    · contradiction

end Clearing

namespace Engine

variable {γ : Type} {engine later other : Engine MemoryLedger γ}

/-- Whether two engines are the same but for the order in which rows were entered and mails and
reports were sent. -/
structure Resembles (engine other : Engine MemoryLedger γ) : Prop where
  /-- The books are alike. -/
  books : engine.desk.books.Alike other.desk.books
  /-- The same reservations are open. -/
  store : other.store = engine.store
  /-- The same timers are armed for the same times. -/
  deadlines : other.reaper.deadlines = engine.reaper.deadlines
  /-- The same mails were sent. -/
  deliveries : other.deliveries.Perm engine.deliveries
  /-- The same reports were published. -/
  events : other.events.Perm engine.events

/-- What a clearing that came to some end has made of an idle engine. -/
structure Handled (engine later : Engine MemoryLedger γ) (clearing : Clearing)
    (result : Except Abort clearing.Result) : Prop where
  /-- The engine is still sound. -/
  sound : later.IsSound
  /-- The reaper has followed. -/
  quiet : later.commands = []
  /-- The ledger is made to fail at the same places. -/
  failing : later.desk.ledger.failing = engine.desk.ledger.failing
  /-- The books are amended. -/
  books : later.desk.books = engine.desk.books.amend
    (clearing.amendment (engine.store.get? clearing.id) result)
  /-- The reservation is open or gone. -/
  store : later.store =
    if clearing.isTaken result then engine.store.erase clearing.id else engine.store
  /-- The reaper has followed what it was told. -/
  reaper : later.reaper =
    (clearing.orders (engine.store.get? clearing.id) (engine.clock + engine.delay) result).foldl
      (fun reaper order => reaper.follow order) engine.reaper
  /-- The mails are sent. -/
  deliveries : later.deliveries = engine.deliveries ++
    (clearing.mails (engine.store.get? clearing.id) result).map
      fun mail => ⟨mail, engine.acceptsMail⟩
  /-- The reports are published. -/
  events : later.events = engine.events ++ clearing.reports result
  /-- No time passes, reservations stay open as long as before, and mails are accepted or not as
  before. -/
  frame : later.clock = engine.clock ∧ later.delay = engine.delay ∧
    later.acceptsMail = engine.acceptsMail

/-- The tickets of two reservations that are open at the same time have none in common. -/
theorem IsSound.separate (sound : engine.IsSound) {first second : TrackingId}
    (apart : first ≠ second) :
    (Clearing.ticketsOf (engine.store.get? first)).Disjoint
      (Clearing.ticketsOf (engine.store.get? second)) := by
  cases found : engine.store.get? first with
  | none => exact List.disjoint_nil_left _
  | some reservation =>
    cases foundToo : engine.store.get? second with
    | none => exact List.disjoint_nil_right _
    | some another =>
      have left : (engine.store.erase first).get? second = some another :=
        (Register.get?_erase_of_ne _ apart.symm).trans foundToo
      have behind := (Register.values_erase left).map Reservation.holding
      have both := (holdings_of_found found).trans (behind.cons reservation.holding)
      have once := (sound.custody.of_perm both).held_nodup
      have separate := (List.nodup_append.mp once).2.2
      intro ticket own among
      exact separate ticket own ticket (List.mem_append_left _ among) rfl

variable [Gateway γ]

/-- A clearing that is handled at an idle engine makes of it what follows from its outcome. -/
theorem IsSound.handled (sound : engine.IsSound) (quiet : engine.commands = [])
    (clearing : Clearing) :
    (engine.handle clearing.program).1 = (engine.judge clearing).1 ∧
      engine.Handled (engine.handle clearing.program).2 clearing (engine.judge clearing).1 := by
  have ran := sound.run_clearing clearing
  have books := Clearing.judge_books clearing (engine.store.get? clearing.id)
    sound.regular.faithful
  have failing := clearing.judge_failing (engine.store.get? clearing.id) engine.desk
  rw [sound.tidy.run_clearing clearing] at ran
  rw [sound.tidy.handle_clearing clearing]
  refine ⟨rfl, ran.congr rfl rfl, rfl, failing, books, rfl, ?_, rfl, rfl, rfl, rfl, rfl⟩
  show (engine.commands ++ _).foldl (fun reaper order => reaper.follow order) engine.reaper = _
  rw [quiet]
  rfl

variable {first second : Clearing}

/-- A clearing comes to the same end after one of another reservation. -/
theorem Handled.judge_eq {result : Except Abort first.Result}
    (handled : engine.Handled later first result) (sound : engine.IsSound)
    (apart : first.id ≠ second.id) :
    later.store.get? second.id = engine.store.get? second.id ∧
      (later.judge second).1 = (engine.judge second).1 := by
  have found : later.store.get? second.id = engine.store.get? second.id := by
    rw [handled.store]
    split
    · exact Register.get?_erase_of_ne _ apart.symm
    · rfl
  refine ⟨found, ?_⟩
  have concerns := first.amendment_concerns (sound.regular.keyed first.id) result
  have agrees := concerns.agreesOn apart (sound.separate apart) sound.regular.returnable
  rw [← handled.books] at agrees
  unfold judge
  rw [found]
  exact second.judge_local (sound.regular.keyed second.id) handled.failing agrees

/-- Two clearings of different reservations leave engines that resemble each other in either order,
if each comes to the same end. -/
theorem Handled.resembles {one both another turned : Engine MemoryLedger γ}
    {early : Except Abort first.Result} {late : Except Abort second.Result}
    (sound : engine.IsSound) (apart : first.id ≠ second.id)
    (firstOne : engine.Handled one first early) (thenSecond : one.Handled both second late)
    (secondOne : engine.Handled another second late)
    (thenFirst : another.Handled turned first early) : both.Resembles turned := by
  obtain ⟨foundSecond, -⟩ := firstOne.judge_eq sound apart
  obtain ⟨foundFirst, -⟩ := secondOne.judge_eq sound apart.symm
  obtain ⟨clock, delay, accepts⟩ := firstOne.frame
  obtain ⟨clockToo, delayToo, acceptsToo⟩ := secondOne.frame
  constructor
  · rw [thenSecond.books, firstOne.books, foundSecond, thenFirst.books, secondOne.books, foundFirst]
    have concerns := first.amendment_concerns (sound.regular.keyed first.id) early
    have concernsToo := second.amendment_concerns (sound.regular.keyed second.id) late
    exact concerns.comm concernsToo apart (sound.separate apart) engine.desk.books
  · rw [thenSecond.store, firstOne.store, thenFirst.store, secondOne.store]
    by_cases taken : first.isTaken early = true
    · by_cases takenToo : second.isTaken late = true
      · simp only [taken, takenToo, ↓reduceIte]
        exact Register.erase_comm _ _ _
      · simp only [taken, takenToo, Bool.false_eq_true, ↓reduceIte]
    · simp only [taken, Bool.false_eq_true, ↓reduceIte]
  · rw [thenSecond.reaper, firstOne.reaper, foundSecond, clock, delay, thenFirst.reaper,
      secondOne.reaper, foundFirst, clockToo, delayToo, ← List.foldl_append, ← List.foldl_append]
    exact engine.reaper.deadlines_comm apart (first.orders_target _ _ _)
      (second.orders_target _ _ _)
  · rw [thenSecond.deliveries, firstOne.deliveries, foundSecond, accepts, thenFirst.deliveries,
      secondOne.deliveries, foundFirst, acceptsToo, List.append_assoc, List.append_assoc]
    exact List.perm_append_comm.append_left _
  · rw [thenSecond.events, firstOne.events, thenFirst.events, secondOne.events, List.append_assoc,
      List.append_assoc]
    exact List.perm_append_comm.append_left _

/-- Handles two services one after the other, and tells what came of each. -/
def handleBoth {α β : Type} (first : Program α) (second : Program β)
    (engine : Engine MemoryLedger γ) : (α × β) × Engine MemoryLedger γ :=
  let one := engine.handle first
  let both := one.2.handle second
  ((one.1, both.1), both.2)

/-- Performs two services one after the other, and tells what came of each. -/
def performBoth {α β : Type} (first : Program α) (second : Program β)
    (engine : Engine MemoryLedger γ) : (α × β) × Engine MemoryLedger γ :=
  let one := engine.perform first
  let both := one.2.perform second
  ((one.1, both.1), both.2)

/-- Services that are performed one after the other meet no timer. -/
theorem IsIdle.performBoth_eq {α β : Type} (idle : engine.IsIdle) (positive : 0 < engine.delay)
    (first : Program α) (second : Program β) :
    engine.performBoth first second = engine.handleBoth first second := by
  obtain ⟨same, still, delay⟩ := idle.perform positive first
  have positive : 0 < (engine.handle first).2.delay := Nat.lt_of_lt_of_eq positive delay.symm
  obtain ⟨sameToo, -, -⟩ := still.perform positive second
  show (((engine.perform first).1, ((engine.perform first).2.perform second).1),
    ((engine.perform first).2.perform second).2) = _
  rw [same, sameToo]
  rfl

/-- Two clearings of different reservations come to the same in either order. -/
theorem IsSound.handleBoth_comm (sound : engine.IsSound) (quiet : engine.commands = [])
    (apart : first.id ≠ second.id) :
    (engine.handleBoth second.program first.program).1 =
        (engine.handleBoth first.program second.program).1.swap ∧
      (engine.handleBoth first.program second.program).2.Resembles
        (engine.handleBoth second.program first.program).2 := by
  obtain ⟨early, firstOne⟩ := sound.handled quiet first
  obtain ⟨late, secondOne⟩ := sound.handled quiet second
  obtain ⟨lateToo, thenSecond⟩ := firstOne.sound.handled firstOne.quiet second
  obtain ⟨earlyToo, thenFirst⟩ := secondOne.sound.handled secondOne.quiet first
  rw [(firstOne.judge_eq sound apart).2] at lateToo thenSecond
  rw [(secondOne.judge_eq sound apart.symm).2] at earlyToo thenFirst
  refine ⟨?_, firstOne.resembles sound apart thenSecond secondOne thenFirst⟩
  show (_, _) = (_, _)
  rw [Prod.mk.injEq]
  exact ⟨late.trans lateToo.symm, earlyToo.trans early.symm⟩

end Engine

/-- Clearings of different reservations commute. Whatever has happened at an engine, and wherever
its ledger is made to fail: two settlements or releases under different numbers come to the same
ends in either order, and leave the same tickets, codes and uses, the same open reservations and
the same armed timers; payments, attendances, mails and reports are the same up to their order. So
it is with the engine that comes to rest after each, unless reservations stay open for no time at
all. -/
theorem Clearing.commutation {γ : Type} [Gateway γ] {engine : Engine MemoryLedger γ}
    (reached : engine.Reached) {first second : Clearing} (apart : first.id ≠ second.id) :
    ((engine.handleBoth second.program first.program).1 =
        (engine.handleBoth first.program second.program).1.swap ∧
      (engine.handleBoth first.program second.program).2.Resembles
        (engine.handleBoth second.program first.program).2) ∧
    (0 < engine.delay →
      (engine.performBoth second.program first.program).1 =
          (engine.performBoth first.program second.program).1.swap ∧
        (engine.performBoth first.program second.program).2.Resembles
          (engine.performBoth second.program first.program).2) := by
  obtain ⟨sound, idle⟩ := reached.sound_idle
  have commute := sound.handleBoth_comm idle.quiet apart
  refine ⟨commute, fun positive => ?_⟩
  rw [idle.performBoth_eq positive, idle.performBoth_eq positive]
  exact commute

namespace Matinee

/-- A season in which two tickets are held under different numbers, one of them at the price of a
code. -/
def fullSeason : Season ScriptedGateway :=
  { relaxedSeason with
    gateway := ⟨[.ok (bill 7), .ok (bill 8)]⟩
    steps := [.stock event "A" 100 [(.ofNat 1, "A1"), (.ofNat 2, "A2")], .issue code, buying,
      .buy ⟨0, 30, ""⟩ event ⟨"A", 1, some "HALF", [.empty]⟩] }

/-- It can come to the end of that season. -/
theorem fullSeason_reached : fullSeason.ending.Reached := by
  have opened : fullSeason.beginning.Reached := .start _ _ _
  have stocked :=
    opened.step (.stock event "A" 100 [(.ofNat 1, "A1"), (.ofNat 2, "A2")]) (by decide)
  have issued := stocked.step (.issue code) (by decide)
  have bought := issued.step buying trivial
  exact bought.step (.buy ⟨0, 30, ""⟩ event ⟨"A", 1, some "HALF", [.empty]⟩) trivial

end Matinee

/-- One ticket is paid for and the other is released with its use of the code, in either order. -/
theorem Clearing.commutation_matinee :
    (Matinee.fullSeason.ending.performBoth (Settlement.settle Matinee.notification)
        (Release.reap ⟨8⟩)).1 = (.ok (.sold 1), .ok (.released 1)) ∧
      (Matinee.fullSeason.ending.performBoth (Release.reap ⟨8⟩)
          (Settlement.settle Matinee.notification)).1 = (.ok (.released 1), .ok (.sold 1)) ∧
        (Matinee.fullSeason.ending.performBoth (Settlement.settle Matinee.notification)
          (Release.reap ⟨8⟩)).2.Resembles
            (Matinee.fullSeason.ending.performBoth (Release.reap ⟨8⟩)
              (Settlement.settle Matinee.notification)).2 := by
  have apart : Clearing.id (.settle Matinee.notification) ≠ Clearing.id (.reap ⟨8⟩) := by
    decide
  obtain ⟨-, performed⟩ := commutation Matinee.fullSeason_reached apart
  obtain ⟨swapped, resembles⟩ := performed (by decide)
  have came : (Matinee.fullSeason.ending.performBoth (Settlement.settle Matinee.notification)
      (Release.reap ⟨8⟩)).1 = (.ok (.sold 1), .ok (.released 1)) := by
    rfl
  exact ⟨came, swapped.trans (congrArg Prod.swap came), resembles⟩

end BoxOffice
