import BoxOffice.Proofs.Engine.Clearing
import BoxOffice.Proofs.Engine.Season

/-!
# Clearings that fail

A clearing that is refused leaves no trace but a timer: the reservation is open again, no mail is
sent, and over a ledger in memory the books are as before. So it can be tried again, at any time and
however often, and the first attempt that succeeds does what it would have done at once. At an
engine that can be relied on a clearing fails in no other way.
-/
namespace BoxOffice

/-- An attempt to clear a reservation, with the places at which the ledger is made to fail and the
times at which it is made. -/
structure Trial where
  /-- What is attempted. -/
  clearing : Clearing
  /-- Where the ledger is made to fail. -/
  failing : List FailPoint
  /-- The time. -/
  now : Instant
  /-- The time on the timer clock. -/
  clock : Nat

namespace Engine

section Any

variable {σ γ : Type} {engine : Engine σ γ}

/-- What a clearing that was refused leaves behind: the store is as before, and no mail is sent. -/
structure IsRestored (engine later : Engine σ γ) : Prop where
  /-- The same reservations are open. -/
  store : later.store = engine.store
  /-- No mail is sent. -/
  deliveries : later.deliveries = engine.deliveries

/-- A clearing that is refused leaves the store as it was and sends no mail. -/
theorem isRestored_of_refused {clearing : Clearing}
    {judged : Except Abort clearing.Result × Desk σ γ} {refusal : Refusal}
    (refused : judged.1 = .error (.refused refusal)) :
    engine.IsRestored (engine.cleared clearing judged).followCommands := by
  have untaken : clearing.isTaken judged.1 = false := by
    rw [refused]
    cases clearing <;> rfl
  have unsent : clearing.mails (engine.store.get? clearing.id) judged.1 = [] := by
    rw [refused]
    cases clearing with
    | settle notification => cases engine.store.get? (Clearing.id (.settle notification)) <;> rfl
    | reap id => rfl
    | expire id => rfl
  constructor
  · show (if clearing.isTaken judged.1 then _ else engine.store) = engine.store
    rw [untaken]
    rfl
  · show engine.deliveries ++ (clearing.mails _ judged.1).map _ = engine.deliveries
    rw [unsent, List.map_nil, List.append_nil]

/-- A timer that the reaper was told to arm last is armed. -/
theorem isSet_of_told (commands : List Reaper.Command) {id : TrackingId} {due : Nat}
    (told : engine.commands = commands ++ [.schedule id due]) :
    engine.followCommands.reaper.IsSet id due := by
  show (engine.commands.foldl (fun reaper order => reaper.follow order) engine.reaper).IsSet id due
  rw [told, List.foldl_append]
  exact Reaper.isSet_schedule _ id due

variable [Ledger σ] [Gateway γ]

/-- A settlement that is refused has the timer armed. -/
theorem isSet_of_settlement_refused {notification : PaymentNotification} {refusal : Refusal}
    (refused : (engine.judge (.settle notification)).1 = .error (.refused refusal)) :
    (engine.cleared (.settle notification)
      (engine.judge (.settle notification))).followCommands.reaper.IsSet notification.trackingId
        (engine.clock + engine.delay) := by
  apply isSet_of_told engine.commands
  show engine.commands ++ Clearing.orders (.settle notification)
    (engine.store.get? notification.trackingId) _ (engine.judge (.settle notification)).1 = _
  cases found : engine.store.get? notification.trackingId with
  | none =>
    simp only [judge, Clearing.id, found] at refused
    contradiction
  | some reservation =>
    rw [refused]
    rfl

/-- A timer whose release is refused is armed again. -/
theorem isSet_of_expiry_refused {id : TrackingId} {refusal : Refusal}
    (refused : (engine.judge (.expire id)).1 = .error (.refused refusal)) :
    (engine.cleared (.expire id) (engine.judge (.expire id))).followCommands.reaper.IsSet id
      (engine.clock + engine.delay) := by
  apply isSet_of_told engine.commands
  show engine.commands ++ Clearing.orders (.expire id) (engine.store.get? id) _
    (engine.judge (.expire id)).1 = _
  rw [refused]
  rfl

end Any

section Memory

variable {γ : Type} {engine other later : Engine MemoryLedger γ}

/-- Whether two engines have the same books, open reservations and mails. -/
structure Matches (engine other : Engine MemoryLedger γ) : Prop where
  /-- The books are the same. -/
  books : other.desk.books = engine.desk.books
  /-- The same reservations are open. -/
  store : other.store = engine.store
  /-- Mails are accepted at both or at neither. -/
  acceptsMail : other.acceptsMail = engine.acceptsMail
  /-- The same mails have been handed over. -/
  deliveries : other.deliveries = engine.deliveries

/-- What matches matches in turn. -/
theorem Matches.trans (first : engine.Matches other) (second : other.Matches later) :
    engine.Matches later :=
  ⟨second.books.trans first.books, second.store.trans first.store,
    second.acceptsMail.trans first.acceptsMail, second.deliveries.trans first.deliveries⟩

/-- The engine at the moment of an attempt. -/
def prepared (engine : Engine MemoryLedger γ) (trial : Trial) : Engine MemoryLedger γ :=
  { engine with
    desk :=
      { engine.desk with
        ledger := { engine.desk.ledger with failing := trial.failing }
        now := trial.now }
    clock := trial.clock }

variable [Gateway γ]

/-- Makes an attempt to clear a reservation. -/
def undergo (engine : Engine MemoryLedger γ) (trial : Trial) :
    Except Abort trial.clearing.Result × Engine MemoryLedger γ :=
  (engine.prepared trial).handle trial.clearing.program

/-- The engine after some attempts. -/
def afterTrials (engine : Engine MemoryLedger γ) (trials : List Trial) : Engine MemoryLedger γ :=
  trials.foldl (fun engine trial => (engine.undergo trial).2) engine

/-- Whether each of some attempts is refused, one after the other. -/
def AllRefused : List Trial → Engine MemoryLedger γ → Prop
  | [], _ => True
  | trial :: rest, engine =>
    (∃ refusal, (engine.undergo trial).1 = .error (.refused refusal)) ∧
      AllRefused rest (engine.undergo trial).2

/-- What an attempt comes to follows from its outcome at the desk. -/
theorem IsTidy.undergo_eq (tidy : engine.IsTidy) (trial : Trial) :
    engine.undergo trial = (((engine.prepared trial).judge trial.clearing).1,
      ((engine.prepared trial).cleared trial.clearing
        ((engine.prepared trial).judge trial.clearing)).followCommands) := by
  have prepared : (engine.prepared trial).IsTidy := ⟨tidy.keyed⟩
  exact prepared.handle_clearing trial.clearing

/-- What an attempt makes of the books follows from its outcome. -/
theorem IsTidy.undergo_books (tidy : engine.IsTidy) (trial : Trial) :
    (engine.undergo trial).2.desk.books = engine.desk.books.amend
      (trial.clearing.amendment (engine.store.get? trial.clearing.id)
        (engine.undergo trial).1) := by
  have faithful : (engine.prepared trial).desk.IsFaithful := trivial
  rw [tidy.undergo_eq]
  exact Clearing.judge_books trial.clearing (engine.store.get? trial.clearing.id) faithful

/-- Which reservations are open after an attempt follows from its outcome. -/
theorem IsTidy.undergo_store (tidy : engine.IsTidy) (trial : Trial) :
    (engine.undergo trial).2.store =
      if trial.clearing.isTaken (engine.undergo trial).1 then
        engine.store.erase trial.clearing.id
      else engine.store := by
  rw [tidy.undergo_eq]
  rfl

/-- Which mails have been handed over after an attempt follows from its outcome. -/
theorem IsTidy.undergo_deliveries (tidy : engine.IsTidy) (trial : Trial) :
    (engine.undergo trial).2.deliveries = engine.deliveries ++
      (trial.clearing.mails (engine.store.get? trial.clearing.id) (engine.undergo trial).1).map
        fun mail => ⟨mail, engine.acceptsMail⟩ := by
  rw [tidy.undergo_eq]
  rfl

/-- An attempt that is refused leaves books, reservations and mails as they were. -/
theorem IsTidy.undergo_refused (tidy : engine.IsTidy) {trial : Trial} {refusal : Refusal}
    (refused : (engine.undergo trial).1 = .error (.refused refusal)) :
    engine.Matches (engine.undergo trial).2 ∧ (engine.undergo trial).2.IsTidy := by
  have books := tidy.undergo_books trial
  have nothing (found : Option Reservation) :
      trial.clearing.amendment found (.error (.refused refusal)) = .nothing := by
    cases trial.clearing <;> cases found <;> rfl
  rw [refused, nothing, Amendment.amend_nothing] at books
  rw [tidy.undergo_eq] at refused books ⊢
  have restored : (engine.prepared trial).IsRestored _ := isRestored_of_refused refused
  refine ⟨⟨books, restored.store, rfl, restored.deliveries⟩, ⟨?_⟩⟩
  rw [restored.store]
  exact tidy.keyed

/-- An attempt comes to the same at engines that match. -/
theorem Matches.undergo (same : engine.Matches other) (tidy : engine.IsTidy)
    (tidyToo : other.IsTidy) (trial : Trial) :
    (other.undergo trial).1 = (engine.undergo trial).1 ∧
      (engine.undergo trial).2.Matches (other.undergo trial).2 := by
  let found := engine.store.get? trial.clearing.id
  have foundToo : other.store.get? trial.clearing.id = found := by rw [same.store]
  have outcome : (other.undergo trial).1 = (engine.undergo trial).1 := by
    rw [tidy.undergo_eq, tidyToo.undergo_eq]
    show (trial.clearing.judge (other.store.get? trial.clearing.id) _).1 = _
    rw [foundToo]
    apply Clearing.judge_local trial.clearing fun reservation => tidy.keyed _ reservation
    · rfl
    · show Books.AgreesOn trial.clearing.id _ engine.desk.books other.desk.books
      rw [same.books]
      exact ⟨rfl, rfl, fun _ _ => rfl, .inl ⟨rfl, rfl⟩⟩
  refine ⟨outcome, ?_, ?_, ?_, ?_⟩
  · rw [tidy.undergo_books, tidyToo.undergo_books, outcome, foundToo, same.books]
  · rw [tidy.undergo_store, tidyToo.undergo_store, outcome, same.store]
  · rw [tidy.undergo_eq, tidyToo.undergo_eq]
    exact same.acceptsMail
  · rw [tidy.undergo_deliveries, tidyToo.undergo_deliveries, outcome, foundToo, same.deliveries,
      same.acceptsMail]

/-- Attempts that are all refused leave books, reservations and mails as they were. -/
theorem IsTidy.afterTrials (tidy : engine.IsTidy) {trials : List Trial}
    (all : engine.AllRefused trials) :
    engine.Matches (engine.afterTrials trials) ∧ (engine.afterTrials trials).IsTidy := by
  induction trials generalizing engine with
  | nil => exact ⟨⟨rfl, rfl, rfl, rfl⟩, tidy⟩
  | cons trial rest ih =>
    obtain ⟨⟨refusal, refused⟩, others⟩ := all
    obtain ⟨first, still⟩ := tidy.undergo_refused refused
    obtain ⟨last, ends⟩ := ih still others
    exact ⟨first.trans last, ends⟩

end Memory

end Engine

/-- A settlement or a release that is refused is not seen, and the timer is armed. Whatever the
ledger, and whichever of its calls fails, the store is as before and no mail is sent; a settlement
and a timer arm the timer for the time that a reservation stays open from now on, and a timer
reports the failure. Over a ledger in memory the books are as before as well, and an attempt after
any number of those that were refused, at whatever times and for whatever reasons, has the outcome
that it would have had at once, and leaves the same books, open reservations and mails. Where an
engine can be relied on there is no other way to fail. -/
theorem Clearing.failure_leaves_no_trace {γ : Type} [Gateway γ] :
    (∀ {σ : Type} [Ledger σ] (engine : Engine σ γ), engine.IsTidy →
      (∀ notification refusal,
        (engine.handle (Settlement.settle notification)).1 = .error (.refused refusal) →
        let later := (engine.handle (Settlement.settle notification)).2
        engine.IsRestored later ∧
          later.reaper.IsSet notification.trackingId (engine.clock + engine.delay)) ∧
      ∀ id refusal, (engine.handle (Release.reap id)).1 = .error (.refused refusal) →
        engine.IsRestored (engine.handle (Release.reap id)).2 ∧
        let later := (engine.handle (Release.fire id)).2
        engine.IsRestored later ∧ later.reaper.IsSet id (engine.clock + engine.delay) ∧
          later.events = engine.events ++ [⟨id, .error (.refused refusal)⟩]) ∧
    (∀ (engine : Engine MemoryLedger γ) (failures : List Trial) (last : Trial), engine.IsTidy →
      engine.AllRefused failures →
        engine.Matches (engine.afterTrials failures) ∧
        ((engine.afterTrials failures).undergo last).1 = (engine.undergo last).1 ∧
        (engine.undergo last).2.Matches ((engine.afterTrials failures).undergo last).2) ∧
    ∀ {σ : Type} [Ledger σ] [Bookkeeping σ] (engine : Engine σ γ) (clearing : Clearing),
      engine.IsRegular → ∀ abort, (engine.handle clearing.program).1 = .error abort →
        ∃ refusal, abort = .refused refusal := by
  refine ⟨fun engine tidy => ⟨fun notification refusal refused => ?_,
    fun id refusal refused => ?_⟩, fun engine failures last tidy all => ?_,
    fun engine clearing regular abort failed => ?_⟩
  · have handled := tidy.handle_clearing (.settle notification)
    simp only [program] at handled
    rw [handled] at refused ⊢
    exact ⟨Engine.isRestored_of_refused refused, Engine.isSet_of_settlement_refused refused⟩
  · have handled := tidy.handle_clearing (.reap id)
    have expired := tidy.handle_clearing (.expire id)
    simp only [program] at handled
    rw [handled] at refused ⊢
    have fails : (engine.judge (.expire id)).1 = .error (.refused refusal) := refused
    refine ⟨Engine.isRestored_of_refused refused, ?_⟩
    rw [Engine.handle_fire, expired]
    refine ⟨Engine.isRestored_of_refused fails, Engine.isSet_of_expiry_refused fails, ?_⟩
    show engine.events ++ reports (.expire id) (engine.judge (.expire id)).1 = _
    rw [fails]
    rfl
  · obtain ⟨same, still⟩ := tidy.afterTrials all
    obtain ⟨outcome, ends⟩ := same.undergo tidy still last
    exact ⟨same, outcome, ends⟩
  · rw [regular.tidy.handle_clearing clearing] at failed
    exact clearing.judge_refused regular.faithful regular.returnable failed

namespace Matinee

/-- A reservation is open, and the ledger can neither enter payments nor commit anything. -/
def stuckOffice : Engine MemoryLedger ScriptedGateway :=
  let office := Season.ending { relaxedSeason with
    steps := [.stock event "A" 100 [(.ofNat 1, "A1")], buying] }
  { office with desk :=
    { office.desk with ledger :=
      { office.desk.ledger with failing := [.insertPayment, .commit] } } }

/-- The office can be relied on. -/
theorem stuckOffice_regular : stuckOffice.IsRegular :=
  have regular := (Season.ending_rests { relaxedSeason with
    steps := [.stock event "A" 100 [(.ofNat 1, "A1")], buying] }).1.smooth.regular
  ⟨trivial, regular.returnable, regular.keyed⟩

/-- The gateway notifies of a payment by someone who is to get a mail. -/
def paid : PaymentNotification := { notification with senderEmail := "a@b.c" }

/-- The gateway notifies when payments cannot be entered, and then the timer fires when nothing can
be committed. -/
def failures : List Trial :=
  [⟨.settle paid, [.insertPayment], .ofMilliseconds 1, 1⟩,
    ⟨.expire ⟨7⟩, [.commit], .ofMilliseconds 2, 2⟩]

/-- The gateway notifies once more when nothing is made to fail. -/
def success : Trial := ⟨.settle paid, [], .ofMilliseconds 3, 3⟩

end Matinee

/-- A settlement and a release fail, and both times the timer is armed; and after two failures a
third attempt sells the ticket and sends the mail. -/
theorem Clearing.failure_leaves_no_trace_matinee :
    (Matinee.stuckOffice.IsRestored
        (Matinee.stuckOffice.handle (Settlement.settle Matinee.paid)).2 ∧
      (Matinee.stuckOffice.handle
        (Settlement.settle Matinee.paid)).2.reaper.IsSet ⟨7⟩ 10) ∧
      (Matinee.stuckOffice.handle (Release.fire ⟨7⟩)).2.reaper.IsSet ⟨7⟩ 10 ∧
        (Matinee.stuckOffice.handle (Release.fire ⟨7⟩)).2.events.length = 1 ∧
          ((Matinee.stuckOffice.afterTrials Matinee.failures).undergo Matinee.success).1 =
              .ok (.sold 1) ∧
            ((Matinee.stuckOffice.afterTrials Matinee.failures).undergo
              Matinee.success).2.deliveries.length = 1 := by
  have tidy := Matinee.stuckOffice_regular.tidy
  obtain ⟨any, memory, -⟩ := failure_leaves_no_trace (γ := ScriptedGateway)
  obtain ⟨settles, reaps⟩ := any Matinee.stuckOffice tidy
  obtain ⟨-, -, set, events⟩ := reaps ⟨7⟩ (.persistence (.injected .commit)) rfl
  obtain ⟨-, outcome, ends⟩ := memory Matinee.stuckOffice Matinee.failures Matinee.success tidy
    ⟨⟨_, rfl⟩, ⟨_, rfl⟩, trivial⟩
  refine ⟨settles Matinee.paid _ rfl, set, congrArg List.length events, outcome.trans rfl, ?_⟩
  rw [ends.deliveries]
  rfl

end BoxOffice
