import BoxOffice.Proofs.Concourse.Consumption
import BoxOffice.Proofs.Engine.Service

/-!
# Seasons

In a season one thing happens after the other at an engine with a ledger in memory: tickets are put
on sale, codes are issued, tickets are bought, bills are settled and time passes, and each time the
engine comes to rest. The gateway may put any number on a bill, also one that is open, one that has
been released or one that has been paid for. Once time has passed for as long as reservations stay
open, every reservation is gone that nobody has paid for. One that was opened under a number that
had been paid for before is not: its timer finds the payment and leaves it alone, and a second
payment is taken for a repetition and leaves its tickets pending.
-/
namespace BoxOffice

/-- What happens in a season. -/
inductive Step where
  /-- Tickets of one type are put on sale, each with its identifier and its code. -/
  | stock (event : Uuid) (name : String) (price : Int64) (made : List (Uuid × String))
  /-- A referral code is issued. -/
  | issue (referral : ReferralCode)
  /-- Someone buys tickets. -/
  | buy (settings : CheckoutSettings) (event : Uuid) (request : PurchaseRequest)
  /-- The gateway notifies of what became of a bill. -/
  | settle (notification : PaymentNotification)
  /-- Time passes. -/
  | pass (milliseconds : Nat)

/-- A season at an engine with a ledger in memory that has nothing on record. -/
structure Season (γ : Type) where
  /-- The gateway. -/
  gateway : γ
  /-- The time at first. -/
  now : Instant
  /-- How long a reservation stays open, in milliseconds. -/
  delay : Nat
  /-- What happens, one after the other. -/
  steps : List Step

namespace Engine

variable {γ : Type} [Gateway γ] {engine later : Engine MemoryLedger γ}
  {opened : Option TrackingId} {limit : Nat}

/-- The engine with other books. -/
def withBooks (engine : Engine MemoryLedger γ) (books : Books) : Engine MemoryLedger γ :=
  engine.withLedger (.ofBooks books engine.desk.ledger.failing)

/-- The engine after something has happened and it has come to rest. -/
def step (engine : Engine MemoryLedger γ) : Step → Engine MemoryLedger γ
  | .stock event name price made =>
    let books := engine.desk.books
    let tickets := made.map fun ticket =>
      { id := ticket.1, event, name, price, status := .available, hash := ticket.2 }
    engine.withBooks { books with tickets := books.tickets ++ tickets }
  | .issue referral =>
    let books := engine.desk.books
    engine.withBooks { books with codes := books.codes ++ [referral] }
  | .buy settings event request => (engine.buy settings event request).2
  | .settle notification => (engine.settle notification).2
  | .pass milliseconds => engine.advance milliseconds

/-- Whether no receipt of a step has a number that has been paid for before. -/
def isFresh (engine : Engine MemoryLedger γ) : Step → Bool
  | .buy settings event request =>
    match openedBy (engine.buy settings event request).1 with
    | some id => !engine.desk.books.paymentExists id
    | none => true
  | _ => true

/-- Whether no receipt of some steps has a number that has been paid for before. -/
def areFresh (engine : Engine MemoryLedger γ) : List Step → Bool
  | [] => true
  | step :: rest => engine.isFresh step && (engine.step step).areFresh rest

/-- Whether nobody has paid for an open reservation, and each pending ticket is one of an open
reservation. -/
structure IsOrderly (engine : Engine MemoryLedger γ) : Prop where
  /-- Nobody has paid for an open reservation. -/
  unpaid : ∀ id reservation, engine.store.get? id = some reservation →
    engine.desk.books.paymentExists id = false
  /-- Each pending ticket is one of an open reservation. -/
  held : ∀ ticket ∈ engine.desk.books.idsOf .pending,
    ∃ id reservation, engine.store.get? id = some reservation ∧ ticket ∈ reservation.tickets

omit [Gateway γ] in
/-- When the reaper has followed what a service told it, each reservation that nobody has paid for
has its timer. -/
theorem Served.followed (served : engine.Served later opened) (rests : engine.IsAtRest limit)
    (smooth : later.IsSmooth) (reaper : later.reaper = engine.reaper)
    (early : engine.clock + engine.delay ≤ limit) : later.followCommands.IsAtRest limit := by
  have follows : later.followCommands.reaper =
      later.commands.foldl (fun reaper order => reaper.follow order) engine.reaper := by
    simp only [followCommands, reaper]
  refine ⟨smooth.congr rfl rfl, follows ▸ rests.ordered.foldl _, rfl, ?_⟩
  intro id reservation found unpaid
  rw [follows]
  have was := rests.timed id reservation
  cases served with
  | nothing commands payments pending store =>
    rw [← store, ← Books.paymentExists_congr payments] at was
    rw [commands, rests.quiet]
    exact was found unpaid
  | opened new commands payments pending absent store =>
    rw [← Books.paymentExists_congr payments] at was
    rw [commands, rests.quiet]
    by_cases same : id = new.id
    · rw [same]
      exact ⟨_, early, engine.reaper.isSet_schedule _ _⟩
    · rw [← Register.get?_insert_of_ne engine.store new same, ← store] at was
      exact (was found unpaid).schedule _ early
  | putBack number commands books store =>
    rw [← store, ← books] at was
    rw [commands, rests.quiet]
    exact (was found unpaid).schedule _ early
  | taken number settled present commands books store =>
    rw [commands, rests.quiet]
    by_cases same : id = number
    · have gone : later.store.get? id = none := by
        rw [store, same]
        exact Register.get?_erase_self _ _
      cases gone.symm.trans found
    · rw [← Register.get?_erase_of_ne engine.store same, ← store, ← books.payments id same] at was
      exact (was found unpaid).resolve same

omit [Gateway γ] in
/-- Engines stay orderly while reservations that nobody has paid for are released. -/
theorem IsOrderly.lapse (orderly : engine.IsOrderly) (lapse : engine.Lapse later) :
    later.IsOrderly := by
  refine ⟨fun id reservation found => ?_, fun ticket pending => ?_⟩
  · rw [Books.paymentExists_congr lapse.payments]
    rcases lapse.store id with same | ⟨gone, -⟩
    · exact orderly.unpaid id reservation (same.symm.trans found)
    · cases gone.symm.trans found
  · obtain ⟨was, apart⟩ := (lapse.pending ticket).mp pending
    obtain ⟨id, reservation, found, among⟩ := orderly.held ticket was
    refine ⟨id, reservation, ?_, among⟩
    rcases lapse.store id with same | ⟨gone, -⟩
    · exact same.trans found
    · exact absurd among (apart id reservation found gone)

omit [Gateway γ] in
/-- Engines stay orderly with every service that opens no reservation under a number that has been
paid for. -/
theorem IsOrderly.serve (orderly : engine.IsOrderly) (served : engine.Served later opened)
    (fresh : ∀ id, opened = some id → engine.desk.books.paymentExists id = false) :
    later.IsOrderly := by
  cases served with
  | nothing commands payments pending store =>
    refine ⟨?_, fun ticket member => ?_⟩
    · rw [store, Books.paymentExists_congr payments]
      exact orderly.unpaid
    · rw [store]
      exact orderly.held ticket (pending member)
  | opened new commands payments pending absent store =>
    refine ⟨fun id reservation found => ?_, fun ticket member => ?_⟩
    · rw [Books.paymentExists_congr payments]
      by_cases same : id = new.id
      · exact same ▸ fresh new.id rfl
      · rw [store, Register.get?_insert_of_ne _ _ same] at found
        exact orderly.unpaid id reservation found
    · rw [store]
      rcases List.mem_append.mp (pending member) with was | own
      · obtain ⟨id, reservation, found, among⟩ := orderly.held ticket was
        refine ⟨id, reservation, ?_, among⟩
        rw [Register.get?_insert_of_ne _ _ fun same => ?_]
        · exact found
        · rw [same, absent] at found
          contradiction
      · exact ⟨new.id, new, Register.get?_insert_self _ _ _, own⟩
  | putBack number commands books store =>
    refine ⟨?_, ?_⟩
    · rw [store, books]
      exact orderly.unpaid
    · rw [store, books]
      exact orderly.held
  | taken number settled present commands books store =>
    refine ⟨fun id reservation found => ?_, fun ticket member => ?_⟩
    · rw [store] at found
      obtain ⟨apart, old⟩ := Register.get?_erase_eq_some.mp found
      rw [books.payments id apart]
      exact orderly.unpaid id reservation old
    · obtain ⟨was, apart⟩ := books.pending ticket member
      obtain ⟨id, reservation, found, among⟩ := orderly.held ticket was
      refine ⟨id, reservation, ?_, among⟩
      rw [store, Register.get?_erase_of_ne _ fun same => ?_]
      · exact found
      · rw [same, present] at found
        cases found
        exact apart (orderly.unpaid number settled present) among

/-- A service that is performed leaves the engine at rest, at the same time, and lets reservations
lapse at most. -/
theorem IsAtRest.perform {α : Type} (rests : engine.IsAtRest limit) (program : Program α)
    (served : engine.Served (engine.run program).2 opened)
    (early : engine.clock + engine.delay ≤ limit) :
    (engine.run program).2.Settles limit (engine.perform program).2 ∧
      (engine.perform program).2.clock = engine.clock ∧
        (engine.perform program).2.delay = engine.delay := by
  obtain ⟨reaper, clock, delay⟩ := run_frame program engine
  obtain ⟨settles, same⟩ :=
    settles_rest (served.followed rests (rests.smooth.run program) reaper early)
  exact ⟨settles, same.trans clock, settles.delay.trans delay⟩

/-- When a reservation has to be paid for if it is opened now. -/
def horizon (engine : Engine MemoryLedger γ) : Nat := engine.clock + engine.delay

omit [Gateway γ] in
/-- Books that are put in place leave an engine at rest if the payments stay and the uses on record
can be returned. -/
theorem IsAtRest.withBooks (rests : engine.IsAtRest limit) {books : Books}
    (payments : books.payments = engine.desk.books.payments) (returnable : books.CanReturn) :
    (engine.withBooks books).IsAtRest limit := by
  refine ⟨⟨⟨trivial, returnable, rests.smooth.regular.keyed⟩, rests.smooth.sound⟩, rests.ordered,
    rests.quiet, ?_⟩
  intro id reservation found unpaid
  have unpaid : books.paymentExists id = false := unpaid
  rw [Books.paymentExists_congr payments] at unpaid
  exact rests.timed id reservation found unpaid

omit [Gateway γ] in
/-- Books that are put in place leave an engine orderly if they tell the same payments and no other
pending tickets. -/
theorem IsOrderly.withBooks (orderly : engine.IsOrderly) {books : Books}
    (payments : books.payments = engine.desk.books.payments)
    (pending : books.idsOf .pending ⊆ engine.desk.books.idsOf .pending) :
    (engine.withBooks books).IsOrderly := by
  refine ⟨fun id reservation found => ?_, fun ticket member => orderly.held ticket (pending member)⟩
  exact (congrFun (Books.paymentExists_congr payments) id).trans
    (orderly.unpaid id reservation found)

/-- After each step the engine is at rest, and it stays orderly if the step is fresh. -/
theorem IsAtRest.step (rests : engine.IsAtRest engine.horizon) (step : Step) :
    (engine.step step).IsAtRest (engine.step step).horizon ∧
      (engine.step step).delay = engine.delay ∧
        (engine.IsOrderly → engine.isFresh step = true → (engine.step step).IsOrderly) := by
  cases step with
  | stock event name price made =>
    have returnable := rests.smooth.regular.returnable
    refine ⟨rests.withBooks rfl (returnable.congr rfl rfl), rfl,
      fun orderly _ => orderly.withBooks rfl ?_⟩
    intro ticket member
    obtain ⟨present, among, pending, own⟩ := Books.mem_idsOf.mp member
    rcases List.mem_append.mp among with old | new
    · exact Books.mem_idsOf.mpr ⟨present, old, pending, own⟩
    · obtain ⟨_, -, rfl⟩ := List.mem_map.mp new
      contradiction
  | issue referral =>
    have returnable := rests.smooth.regular.returnable
    exact ⟨rests.withBooks rfl (returnable.issue rfl rfl), rfl, fun orderly _ =>
      orderly.withBooks rfl (List.Subset.refl _)⟩
  | buy settings event request =>
    have served := rests.smooth.run_buy settings event request
    obtain ⟨settles, clock, delay⟩ := rests.perform _ served (Nat.le_refl _)
    have same : (engine.step (.buy settings event request)).horizon = engine.horizon :=
      congrArg₂ (· + ·) clock delay
    refine ⟨same.symm ▸ settles.rests, delay, fun orderly fresh => ?_⟩
    refine (orderly.serve served fun id given => ?_).lapse settles.lapse
    have given : openedBy (engine.buy settings event request).1 = some id := given
    simpa only [isFresh, given, Bool.not_eq_true'] using fresh
  | settle notification =>
    have served := rests.smooth.run_settle notification
    obtain ⟨settles, clock, delay⟩ := rests.perform _ served (Nat.le_refl _)
    have same : (engine.step (.settle notification)).horizon = engine.horizon :=
      congrArg₂ (· + ·) clock delay
    refine ⟨same.symm ▸ settles.rests, delay, fun orderly _ => ?_⟩
    exact (orderly.serve served nofun).lapse settles.lapse
  | pass milliseconds =>
    obtain ⟨settles, clock⟩ := rests.advance milliseconds
    refine ⟨settles.rests.mono ?_, settles.delay, fun orderly _ => orderly.lapse settles.lapse⟩
    have later : (engine.advance milliseconds).horizon = engine.horizon + milliseconds := by
      simp only [horizon, clock, settles.delay, Nat.add_right_comm]
    exact later ▸ Nat.le_add_right _ _

/-- After any number of steps the engine is at rest, and it stays orderly if all steps are fresh. -/
theorem IsAtRest.steps (rests : engine.IsAtRest engine.horizon) (steps : List Step) :
    (steps.foldl Engine.step engine).IsAtRest (steps.foldl Engine.step engine).horizon ∧
      (steps.foldl Engine.step engine).delay = engine.delay ∧
        (engine.IsOrderly → engine.areFresh steps = true →
          (steps.foldl Engine.step engine).IsOrderly) := by
  induction steps generalizing engine with
  | nil => exact ⟨rests, rfl, fun orderly _ => orderly⟩
  | cons step rest ih =>
    obtain ⟨first, delay, orderly⟩ := rests.step step
    obtain ⟨last, same, others⟩ := ih first
    refine ⟨last, same.trans delay, fun was fresh => ?_⟩
    simp only [areFresh, Bool.and_eq_true] at fresh
    exact others (orderly was fresh.1) fresh.2

end Engine

namespace Season

variable {γ : Type} [Gateway γ]

/-- The engine before the season. -/
def beginning (season : Season γ) : Engine MemoryLedger γ :=
  .start (.ofBooks .empty []) season.gateway season.now season.delay

/-- The engine at the end of the season. -/
def ending (season : Season γ) : Engine MemoryLedger γ :=
  season.steps.foldl Engine.step season.beginning

/-- The engine when time has passed after the season for as long as reservations stay open. -/
def aftermath (season : Season γ) : Engine MemoryLedger γ := season.ending.advance season.delay

omit [Gateway γ] in
/-- Nothing is open and nothing is on record before the season. -/
theorem beginning_orderly (season : Season γ) :
    season.beginning.IsAtRest season.beginning.horizon ∧ season.beginning.IsOrderly :=
  ⟨⟨⟨⟨trivial, .of_unused rfl, nofun⟩, rfl⟩, .nil, rfl, nofun⟩, ⟨nofun, nofun⟩⟩

/-- At the end of a season the engine is at rest, and it is orderly if no receipt of the season has
a number that had been paid for. -/
theorem ending_rests (season : Season γ) :
    season.ending.IsAtRest season.ending.horizon ∧ season.ending.delay = season.delay ∧
      (season.beginning.areFresh season.steps = true → season.ending.IsOrderly) := by
  obtain ⟨rests, orderly⟩ := season.beginning_orderly
  obtain ⟨ends, delay, keeps⟩ := rests.steps season.steps
  exact ⟨ends, delay, keeps orderly⟩

/-- In the aftermath of a season reservations lapse and nothing else happens, and what is still open
has been paid for. -/
theorem aftermath_lapse (season : Season γ) :
    season.ending.Lapse season.aftermath ∧
      ∀ id reservation, season.aftermath.store.get? id = some reservation →
        season.ending.desk.books.paymentExists id = true := by
  obtain ⟨rests, delay, -⟩ := season.ending_rests
  obtain ⟨settles, clock⟩ : season.ending.Settles season.ending.horizon season.aftermath ∧
      season.aftermath.clock = season.ending.clock + season.delay := rests.advance season.delay
  have now : season.aftermath.clock = season.ending.horizon :=
    clock.trans (congrArg (season.ending.clock + ·) delay.symm)
  refine ⟨settles.lapse, fun id reservation left => ?_⟩
  by_contra unpaid
  rw [Bool.not_eq_true, ← Books.paymentExists_congr settles.lapse.payments] at unpaid
  -- The timer of a reservation that nobody has paid for would be due by now.
  obtain ⟨due, early, -, queued⟩ := settles.rests.timed id reservation left unpaid
  exact absurd (settles.waits _ queued) (Nat.not_lt.mpr (now ▸ early))

/-- In the aftermath of a season exactly those reservations are left that are paid for. -/
theorem aftermath_store (season : Season γ) (id : TrackingId) :
    season.aftermath.store.get? id =
      (season.ending.store.get? id).filter fun _ => season.ending.desk.books.paymentExists id := by
  obtain ⟨lapse, paid⟩ := season.aftermath_lapse
  rcases lapse.store id with same | ⟨gone, unpaid⟩
  · rw [same]
    cases left : season.ending.store.get? id with
    | none => rfl
    | some reservation =>
      rw [paid id reservation (same.trans left)]
      rfl
  · rw [gone, unpaid]
    cases season.ending.store.get? id <;> rfl

/-- In the aftermath of a season the tickets of reservations that nobody has paid for are pending no
more. -/
theorem aftermath_pending (season : Season γ) (ticket : Uuid) :
    ticket ∈ season.aftermath.desk.books.idsOf .pending ↔
      ticket ∈ season.ending.desk.books.idsOf .pending ∧
        ∀ id reservation, season.ending.store.get? id = some reservation →
          season.ending.desk.books.paymentExists id = false → ticket ∉ reservation.tickets := by
  rw [season.aftermath_lapse.1.pending]
  refine and_congr_right fun _ => forall₂_congr fun id reservation =>
    imp_congr_right fun found => ?_
  rw [season.aftermath_store, found]
  cases season.ending.desk.books.paymentExists id <;> simp

/-- Once time has passed after a season for as long as reservations stay open, exactly those are
left that were opened under a number that is paid for, and the tickets of all others are pending no
more. If no receipt of the season has a number that had been paid for, no reservation is left and no
ticket is pending. -/
theorem holds_expire (season : Season γ) :
    (∀ id, season.aftermath.store.get? id =
      (season.ending.store.get? id).filter fun _ => season.ending.desk.books.paymentExists id) ∧
    (∀ ticket, ticket ∈ season.aftermath.desk.books.idsOf .pending ↔
      ticket ∈ season.ending.desk.books.idsOf .pending ∧
        ∀ id reservation, season.ending.store.get? id = some reservation →
          season.ending.desk.books.paymentExists id = false → ticket ∉ reservation.tickets) ∧
    (season.beginning.areFresh season.steps = true →
      season.aftermath.store.size = 0 ∧
        ∀ ticket ∈ season.aftermath.desk.books.tickets, ticket.status ≠ .pending) := by
  refine ⟨season.aftermath_store, season.aftermath_pending, fun fresh => ?_⟩
  have orderly := season.ending_rests.2.2 fresh
  refine ⟨Register.size_eq_zero_of_absent fun id => ?_, fun ticket member waiting => ?_⟩
  · rw [season.aftermath_store]
    cases found : season.ending.store.get? id with
    | none => rfl
    | some reservation =>
      rw [orderly.unpaid id reservation found]
      rfl
  · obtain ⟨was, apart⟩ :=
      (season.aftermath_pending ticket.id).mp (Books.mem_idsOf.mpr ⟨ticket, member, waiting, rfl⟩)
    obtain ⟨id, reservation, found, among⟩ := orderly.held ticket.id was
    exact apart id reservation found (orderly.unpaid id reservation found) among

end Season

namespace Matinee

/-- Someone buys a ticket. -/
def buying : Step := .buy ⟨0, 30, ""⟩ event ⟨"A", 1, none, [.empty]⟩

/-- A season in which the time of the first buyer runs out, and the second gets the same number. -/
def relaxedSeason : Season ScriptedGateway where
  gateway := ⟨[.ok (bill 7), .ok (bill 7)]⟩
  now := .ofMilliseconds 0
  delay := 10
  steps := [.stock event "A" 100 [(.ofNat 1, "A1")], buying, .pass 10, buying]

/-- A season in which the first buyer pays, and the second gets the same number. -/
def hastySeason : Season ScriptedGateway :=
  { relaxedSeason with
    steps := [.stock event "A" 100 [(.ofNat 1, "A1"), (.ofNat 2, "A2")], buying,
      .settle notification, buying] }

end Matinee

/-- Under a number that was released before a ticket is bought again, and it does not stay pending.
-/
theorem Season.holds_expire_matinee :
    Matinee.relaxedSeason.ending.store.size = 1 ∧
      Matinee.relaxedSeason.aftermath.store.size = 0 ∧
      ∀ ticket ∈ Matinee.relaxedSeason.aftermath.desk.books.tickets, ticket.status ≠ .pending := by
  obtain ⟨-, -, expire⟩ := Matinee.relaxedSeason.holds_expire
  exact ⟨by decide, expire (by decide)⟩

/-- Under a number that was paid for before a ticket is bought, and when its time has run out the
reservation is still open and the ticket still pending. -/
theorem Season.holds_do_not_expire :
    0 < Matinee.hastySeason.delay ∧
      Matinee.hastySeason.aftermath.store.contains ⟨7⟩ = true ∧
      Matinee.hastySeason.aftermath.desk.books.tickets.map (·.status) = [.sold, .pending] := by
  decide

end BoxOffice
