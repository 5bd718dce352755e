import BoxOffice.Proofs.Engine.Idle
import BoxOffice.Proofs.Engine.Season
import BoxOffice.Proofs.Engine.Soundness

/-!
# What an engine can come to

At an engine with a ledger in memory one thing happens after the other: tickets are put on sale,
codes are issued, tickets are bought, bills are settled, reservations are released on demand and
time passes. In between the reaper is told something, the clock is set, and the ledger is made to
fail at other places, as are the gateway and the post. Whatever has happened, the engine is sound
and nothing is left for the reaper to do.
-/
namespace BoxOffice

namespace Books

/-- Tickets that are put on sale leave those with another status alone. -/
theorem idsOf_offering (books : Books) {offered : List Ticket} {status : TicketStatus}
    (available : ∀ ticket ∈ offered, ticket.status = .available) (apart : status ≠ .available) :
    { books with tickets := books.tickets ++ offered }.idsOf status = books.idsOf status := by
  have none : offered.filter (fun ticket => ticket.status = status) = [] := by
    rw [List.filter_eq_nil_iff]
    intro ticket member same
    have same : ticket.status = status := of_decide_eq_true same
    exact apart (same.symm.trans (available ticket member))
  simp only [idsOf, List.filter_append, none, List.append_nil]

end Books

/-- Tickets that are put on sale are in nobody's custody. -/
theorem Custody.offering {stock : List Ticket} {books : Books} {live : List Holding}
    {offered : List Ticket} (custody : Custody stock books live)
    (available : ∀ ticket ∈ offered, ticket.status = .available)
    (distinct : (books.ticketIds ++ offered.map (·.id)).Nodup) :
    Custody { books with tickets := books.tickets ++ offered }.stock
      { books with tickets := books.tickets ++ offered } live := by
  constructor
  · unfold Books.ticketIds
    rw [List.map_append]
    exact distinct
  · have pending : TicketStatus.pending ≠ .available := nofun
    rw [books.idsOf_offering available pending]
    exact custody.held
  · have sold : TicketStatus.sold ≠ .available := nofun
    rw [books.idsOf_offering available sold]
    exact custody.attended
  · rfl

namespace Engine

variable {γ : Type} [Gateway γ] {engine : Engine MemoryLedger γ}

/-- A timer that fires keeps an engine sound. -/
theorem IsSound.run_fire (sound : engine.IsSound) (id : TrackingId) :
    (engine.run (Release.fire id)).2.IsSound := by
  rw [Engine.run_fire]
  exact sound.run_clearing (.expire id)

/-- An engine that comes to rest stays sound. -/
theorem IsSound.rest (sound : engine.IsSound) : engine.rest.IsSound :=
  rest_induction (fun _ id sound => sound.run_fire id) (fun _ _ _ sound => sound.congr rfl rfl)
    sound

/-- An engine stays sound while time passes. -/
theorem IsSound.advanceTo (sound : engine.IsSound) (target stops : Nat) :
    (engine.advanceTo target stops).IsSound := by
  apply advanceTo_induction ?_ target stops sound
  intro engine clock sound
  have clocked : IsSound { engine with clock } := sound.congr rfl rfl
  exact clocked.rest

/-- A service that leaves an engine sound leaves it at rest, sound and idle. -/
theorem IsIdle.perform_sound {α : Type} (idle : engine.IsIdle) (program : Program α)
    (sound : (engine.run program).2.IsSound) :
    (engine.perform program).2.IsSound ∧ (engine.perform program).2.IsIdle := by
  obtain ⟨reaper, -, -⟩ := run_frame program engine
  have ordered : (engine.run program).2.reaper.IsOrdered := by
    rw [reaper]
    exact idle.ordered
  exact ⟨sound.rest, (rest_isIdle _ ordered).1⟩

/-- Whether a step can happen: tickets that are put on sale have identifiers of their own, and a
code that is issued counts no fewer than no uses. -/
def Admits (engine : Engine MemoryLedger γ) : Step → Prop
  | .stock _ _ _ made => (engine.desk.books.ticketIds ++ made.map (·.1)).Nodup
  | .issue referral => 0 ≤ referral.currentUses.toInt
  | .buy .. | .settle _ | .pass _ => True

instance (engine : Engine MemoryLedger γ) : (step : Step) → Decidable (engine.Admits step)
  | .stock _ _ _ made =>
    inferInstanceAs (Decidable (engine.desk.books.ticketIds ++ made.map (·.1)).Nodup)
  | .issue referral => inferInstanceAs (Decidable (0 ≤ referral.currentUses.toInt))
  | .buy .. | .settle _ | .pass _ => inferInstanceAs (Decidable True)

/-- A step that can happen leaves an engine sound and idle. -/
theorem IsSound.step (sound : engine.IsSound) (idle : engine.IsIdle) (step : Step)
    (admits : engine.Admits step) :
    (engine.step step).IsSound ∧ (engine.step step).IsIdle := by
  cases step with
  | stock event name price made =>
    let offered : List Ticket := made.map fun ticket =>
      { id := ticket.1, event, name, price, status := .available, hash := ticket.2 }
    have available : ∀ ticket ∈ offered, ticket.status = .available := by
      intro ticket member
      obtain ⟨_, -, rfl⟩ := List.mem_map.mp member
      rfl
    have distinct : (engine.desk.books.ticketIds ++ offered.map (·.id)).Nodup := by
      rw [List.map_map]
      exact admits
    have custody := sound.custody.offering available distinct
    have returnable := sound.regular.returnable.congr rfl rfl
    exact ⟨⟨⟨trivial, returnable, sound.regular.keyed⟩, custody, sound.tallied.congr rfl⟩,
      ⟨idle.quiet, idle.ordered, idle.waits⟩⟩
  | issue referral =>
    have tallied : { engine.desk.books with
        codes := engine.desk.books.codes ++ [referral] }.IsTallied := by
      intro other member
      rcases List.mem_append.mp member with old | new
      · exact sound.tallied other old
      · exact List.mem_singleton.mp new ▸ admits
    have returnable : { engine.desk.books with
        codes := engine.desk.books.codes ++ [referral] }.CanReturn :=
      sound.regular.returnable.issue rfl rfl
    exact ⟨⟨⟨trivial, returnable, sound.regular.keyed⟩, { sound.custody with stocked := rfl },
      tallied⟩, ⟨idle.quiet, idle.ordered, idle.waits⟩⟩
  | buy settings event request =>
    exact idle.perform_sound _ (sound.run_buy settings event request)
  | settle notification =>
    exact idle.perform_sound _ (sound.run_clearing (.settle notification))
  | pass milliseconds =>
    have sound := sound.advanceTo (engine.clock + milliseconds) (milliseconds + 1)
    have idle := idle.advanceTo (engine.clock + milliseconds) (milliseconds + 1)
    exact ⟨sound.congr rfl rfl, ⟨idle.quiet, idle.ordered, idle.waits⟩⟩

/-- Whether an engine can be come to, one thing after the other. -/
inductive Reached : Engine MemoryLedger γ → Prop where
  /-- An engine with a ledger that has nothing on record. -/
  | start (gateway : γ) (now : Instant) (delay : Nat) :
    Reached (.start (.ofBooks .empty []) gateway now delay)
  /-- Something happens. -/
  | step {engine : Engine MemoryLedger γ} (reached : Reached engine) (step : Step)
    (admits : engine.Admits step) : Reached (engine.step step)
  /-- A reservation is released on demand. -/
  | reap {engine : Engine MemoryLedger γ} (reached : Reached engine) (id : TrackingId) :
    Reached (engine.reap id).2
  /-- The reaper is told something. -/
  | tell {engine : Engine MemoryLedger γ} (reached : Reached engine) (order : Reaper.Command) :
    Reached (engine.command order).rest
  /-- The ledger is made to fail at other places, gateway and post are replaced by others, and the
  clock is set. -/
  | arrange {engine : Engine MemoryLedger γ} (reached : Reached engine) (failing : List FailPoint)
    (gateway : γ) (now : Instant) (acceptsMail : Bool) :
    Reached { engine with
      desk := ⟨{ engine.desk.ledger with failing }, gateway, now⟩
      acceptsMail }

/-- Whatever has happened, the engine is sound and nothing is left for the reaper to do. -/
theorem Reached.sound_idle (reached : Reached engine) : engine.IsSound ∧ engine.IsIdle := by
  induction reached with
  | start gateway now delay =>
    refine ⟨⟨⟨trivial, .of_unused rfl, nofun⟩, ?_, nofun⟩, ⟨rfl, .nil, nofun⟩⟩
    exact ⟨.nil, List.nil_subperm, .refl _, rfl⟩
  | step reached step admits ih => exact ih.1.step ih.2 step admits
  | reap reached id ih => exact ih.2.perform_sound _ (ih.1.run_clearing (.reap id))
  | tell reached order ih =>
    have told : (Engine.command order _).IsSound := ih.1.congr rfl rfl
    exact ⟨told.rest, (rest_isIdle (Engine.command order _) ih.2.ordered).1⟩
  | arrange reached failing gateway now acceptsMail ih =>
    exact ⟨ih.1.congr rfl rfl, ⟨ih.2.quiet, ih.2.ordered, ih.2.waits⟩⟩

end Engine

end BoxOffice
