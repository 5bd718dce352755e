import BoxOffice.Proofs.Concourse.Redemption
import BoxOffice.Proofs.Engine.Reach

/-!
# Purchases that fail

A purchase that ends without a receipt changes nothing, wherever it has failed: the request may be
wrong, a code unknown, out of date or used up, tickets too few, a sum out of range, the gateway
silent or the ledger at fault. The gateway may also give the bill a number that is open or has a
use on record; in the former case the tickets have been held for good and are given back.
-/
namespace BoxOffice

namespace Engine

variable {γ : Type}

/-- Whether nothing has changed between two moments but what the gateway remembers: neither the
books, nor the open reservations, nor the timers and what the reaper is still to be told, and nobody
has heard anything. -/
structure IsUntouched (engine later : Engine MemoryLedger γ) : Prop where
  /-- The books are the same. -/
  books : later.desk.books = engine.desk.books
  /-- The same reservations are open. -/
  store : later.store = engine.store
  /-- The timers are the same. -/
  reaper : later.reaper = engine.reaper
  /-- The reaper was told nothing. -/
  commands : later.commands = engine.commands
  /-- No mail is sent. -/
  deliveries : later.deliveries = engine.deliveries
  /-- No timer reports anything. -/
  events : later.events = engine.events

variable [Gateway γ] {engine : Engine MemoryLedger γ}

/-- A purchase that ends without a receipt changes nothing. -/
theorem IsSound.isUntouched_of_failed (sound : engine.IsSound) {settings : CheckoutSettings}
    {event : Uuid} {request : PurchaseRequest} {abort : Abort}
    (failed : (engine.run (Checkout.buy settings event request)).1 = .error abort) :
    engine.IsUntouched (engine.run (Checkout.buy settings event request)).2 := by
  have purchased := sound.run_purchase settings event request
  generalize engine.run (Checkout.buy settings event request) = ran at *
  cases purchased with
  | failed abort desk same => exact ⟨same, rfl, rfl, rfl, rfl, rfl⟩
  | bought hold desk checked serves held redeemed absent => contradiction

omit [Gateway γ] in
/-- An engine that is idle and untouched by a service is untouched when the reaper has followed. -/
theorem IsIdle.isUntouched_followed (idle : engine.IsIdle) {later : Engine MemoryLedger γ}
    (untouched : engine.IsUntouched later) : engine.IsUntouched later.followCommands := by
  have told : later.commands = [] := untouched.commands.trans idle.quiet
  rw [followCommands_of_quiet told]
  exact untouched

end Engine

/-- A purchase that fails changes nothing. Whatever has happened at an engine, whatever its gateway
answers and numbers its bills, and wherever its ledger is made to fail: a purchase that ends without
a receipt, be it refused or its arithmetic out of range, leaves all of the books, the open
reservations and the timers as they were. So does the engine that comes to rest after it, unless
reservations stay open for no time at all. -/
theorem Checkout.failure_changes_nothing {γ : Type} [Gateway γ] {engine : Engine MemoryLedger γ}
    (reached : engine.Reached) (settings : CheckoutSettings) (event : Uuid)
    (request : PurchaseRequest) {abort : Abort}
    (failed : (engine.run (buy settings event request)).1 = .error abort) :
    engine.IsUntouched (engine.run (buy settings event request)).2 ∧
      (0 < engine.delay → engine.IsUntouched (engine.buy settings event request).2) := by
  obtain ⟨sound, idle⟩ := reached.sound_idle
  have untouched := sound.isUntouched_of_failed failed
  refine ⟨untouched, fun positive => ?_⟩
  obtain ⟨performed, -, -⟩ := idle.perform positive (buy settings event request)
  show engine.IsUntouched (engine.perform (buy settings event request)).2
  rw [performed]
  exact idle.isUntouched_followed untouched

namespace Matinee

/-- A season in which a ticket is held under a number that the gateway is going to give again, and a
second ticket and a code are left. -/
def doubleSeason : Season ScriptedGateway :=
  { relaxedSeason with
    steps := [.stock event "A" 100 [(.ofNat 1, "A1"), (.ofNat 2, "A2")], .issue code, buying] }

/-- It can come to the end of that season. -/
theorem doubleSeason_reached : doubleSeason.ending.Reached := by
  have opened : doubleSeason.beginning.Reached := .start _ _ _
  have stocked :=
    opened.step (.stock event "A" 100 [(.ofNat 1, "A1"), (.ofNat 2, "A2")]) (by decide)
  have issued := stocked.step (.issue code) (by decide)
  exact issued.step buying trivial

/-- Someone asks for a ticket at the price of the code. -/
def discounted : PurchaseRequest := ⟨"A", 1, some "HALF", [.empty]⟩

end Matinee

/-- The second ticket is held at the price of the code and given back, since the number of the bill
is open, and the ticket, the code and the timers are as before. -/
theorem Checkout.failure_changes_nothing_matinee :
    (Matinee.doubleSeason.ending.buy ⟨0, 30, ""⟩ Matinee.event Matinee.discounted).1 =
        .error (.ofFault (.reservationOpen ⟨7⟩)) ∧
      Matinee.doubleSeason.ending.IsUntouched
        (Matinee.doubleSeason.ending.run (buy ⟨0, 30, ""⟩ Matinee.event Matinee.discounted)).2 ∧
      Matinee.doubleSeason.ending.IsUntouched
        (Matinee.doubleSeason.ending.buy ⟨0, 30, ""⟩ Matinee.event Matinee.discounted).2 := by
  have failed : (Matinee.doubleSeason.ending.run
      (buy ⟨0, 30, ""⟩ Matinee.event Matinee.discounted)).1 =
        .error (.ofFault (.reservationOpen ⟨7⟩)) := by
    rfl
  obtain ⟨untouched, rests⟩ := failure_changes_nothing Matinee.doubleSeason_reached ⟨0, 30, ""⟩
    Matinee.event Matinee.discounted failed
  exact ⟨failed, untouched, rests (by decide)⟩

end BoxOffice
