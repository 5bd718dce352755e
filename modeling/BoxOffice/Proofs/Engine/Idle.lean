import BoxOffice.Proofs.Engine.Clearing

/-!
# Engines that wait

Between two services nothing is left for the reaper to follow, and if reservations stay open for any
time at all no timer is due: a timer is armed for a time that is still to come, and coming to rest
fires those whose time has come. So a service that is carried out meets no timer, and neither does
the rest that follows it.
-/
namespace BoxOffice

namespace Reaper

/-- Whether a command arms a timer for nothing but a given time. -/
def Command.IsFor (due : Nat) : Command → Prop
  | .schedule _ time => time = due
  | .resolve _ => True

variable {reaper : Reaper}

/-- After commands that arm timers for a given time the queue has no other new place. -/
theorem mem_queue_foldl {due : Nat} {orders : List Command} {place : Nat × TrackingId}
    (all : ∀ order ∈ orders, order.IsFor due)
    (member : place ∈ (orders.foldl (fun reaper order => reaper.follow order) reaper).queue) :
    place ∈ reaper.queue ∨ place.1 = due := by
  induction orders generalizing reaper with
  | nil => exact .inl member
  | cons order rest ih =>
    rcases ih (fun other among => all other (List.mem_cons_of_mem _ among)) member with old | new
    · cases order with
      | resolve id => exact .inl old
      | schedule id time =>
        have due : time = due := all (.schedule id time) List.mem_cons_self
        rcases mem_enqueue.mp old with rfl | older
        · exact .inr due
        · exact .inl older
    · exact .inr new

/-- A reaper that wakes up when nothing is due does nothing. -/
theorem wake_of_waits {now : Nat} (waits : ∀ place ∈ reaper.queue, now < place.1) :
    reaper.wake now = ([], reaper) := by
  obtain ⟨deadlines, queue⟩ := reaper
  cases queue with
  | nil => rfl
  | cons first rest =>
    have early : now < first.1 := waits first List.mem_cons_self
    simp only [wake, fireDue, early, ↓reduceIte]

end Reaper

namespace Engine

variable {σ γ α : Type} {engine : Engine σ γ}

/-- Whether nothing is left for the reaper to do. -/
structure IsIdle (engine : Engine σ γ) : Prop where
  /-- The reaper has followed its commands. -/
  quiet : engine.commands = []
  /-- Its queue goes by time. -/
  ordered : engine.reaper.IsOrdered
  /-- No timer is due, if reservations stay open for any time at all. -/
  waits : 0 < engine.delay → ∀ place ∈ engine.reaper.queue, engine.clock < place.1

/-- When the reaper follows commands that arm timers for some time from now on, nothing is left for
it to do. -/
theorem followCommands_isIdle (ordered : engine.reaper.IsOrdered)
    (waits : 0 < engine.delay → ∀ place ∈ engine.reaper.queue, engine.clock < place.1)
    (orders : ∀ order ∈ engine.commands, order.IsFor (engine.clock + engine.delay)) :
    engine.followCommands.IsIdle := by
  refine ⟨rfl, ordered.foldl _, fun positive place member => ?_⟩
  have positive : 0 < engine.delay := positive
  show engine.clock < place.1
  rcases Reaper.mem_queue_foldl orders member with old | new
  · exact waits positive place old
  · omega

variable [Ledger σ] [Gateway γ]

/-- A service arms timers for nothing but the time that reservations stay open. -/
theorem run_commands (program : Program α) (engine : Engine σ γ) :
    ∃ orders, (engine.run program).2.commands = engine.commands ++ orders ∧
      ∀ order ∈ orders, order.IsFor (engine.clock + engine.delay) := by
  induction program generalizing engine with
  | done value => exact ⟨[], (List.append_nil _).symm, nofun⟩
  | ask request next ih =>
    have first : ∃ orders, (answer request engine).2.commands = engine.commands ++ orders ∧
        ∀ order ∈ orders, order.IsFor (engine.clock + engine.delay) := by
      have none : ∃ orders, engine.commands = engine.commands ++ orders ∧
          ∀ order ∈ orders, order.IsFor (engine.clock + engine.delay) :=
        ⟨[], (List.append_nil _).symm, nofun⟩
      cases request with
      | schedule id => exact ⟨[_], rfl, fun order member => List.mem_singleton.mp member ▸ rfl⟩
      | resolve id => exact ⟨[_], rfl, fun order member => List.mem_singleton.mp member ▸ trivial⟩
      | putReservation reservation =>
        simp only [answer, put]
        split <;> exact none
      | _ => exact none
    obtain ⟨early, told, all⟩ := first
    obtain ⟨-, clock, delay⟩ := run_frame (.ask request fun answer => .done answer) engine
    have clock : (answer request engine).2.clock = engine.clock := clock
    have delay : (answer request engine).2.delay = engine.delay := delay
    obtain ⟨late, toldLater, others⟩ := ih (answer request engine).1 (answer request engine).2
    rw [clock, delay] at others
    refine ⟨early ++ late, ?_, fun order member => ?_⟩
    · show (Engine.run (next (answer request engine).1) (answer request engine).2).2.commands = _
      rw [toldLater, told, List.append_assoc]
    · rcases List.mem_append.mp member with old | new
      · exact all order old
      · exact others order new

/-- Timers that fire leave the other timers and the clock alone, and arm timers for nothing but the
time that reservations stay open. -/
theorem fires_commands (ids : List TrackingId) (engine : Engine σ γ) :
    let fired := ids.foldl (fun engine id => (engine.run (Release.fire id)).2) engine
    (fired.reaper = engine.reaper ∧ fired.clock = engine.clock ∧ fired.delay = engine.delay) ∧
      ∃ orders, fired.commands = engine.commands ++ orders ∧
        ∀ order ∈ orders, order.IsFor (engine.clock + engine.delay) := by
  induction ids generalizing engine with
  | nil => exact ⟨⟨rfl, rfl, rfl⟩, [], (List.append_nil _).symm, nofun⟩
  | cons id rest ih =>
    obtain ⟨reaper, clock, delay⟩ := run_frame (Release.fire id) engine
    obtain ⟨early, told, all⟩ := run_commands (Release.fire id) engine
    obtain ⟨⟨reaperToo, clockToo, delayToo⟩, late, toldLater, others⟩ :=
      ih (engine.run (Release.fire id)).2
    rw [clock, delay] at others
    refine ⟨⟨reaperToo.trans reaper, clockToo.trans clock, delayToo.trans delay⟩, early ++ late,
      ?_, fun order member => ?_⟩
    · show _ = _
      rw [List.foldl_cons, toldLater, told, List.append_assoc]
    · rcases List.mem_append.mp member with old | new
      · exact all order old
      · exact others order new

/-- Whatever an engine was told, when it has come to rest nothing is left for the reaper to do. -/
theorem rest_isIdle (engine : Engine σ γ) (ordered : engine.reaper.IsOrdered) :
    engine.rest.IsIdle ∧ engine.rest.clock = engine.clock ∧ engine.rest.delay = engine.delay := by
  have followed : engine.followCommands.reaper.IsOrdered := ordered.foldl _
  obtain ⟨stays, waits⟩ := followed.wake engine.clock
  obtain ⟨⟨reaper, clock, delay⟩, orders, told, all⟩ := fires_commands
    (engine.followCommands.reaper.wake engine.clock).1
    { engine.followCommands with reaper := (engine.followCommands.reaper.wake engine.clock).2 }
  have told : engine.followCommands.fireDue.commands = [] ++ orders := told
  have clock : engine.followCommands.fireDue.clock = engine.clock := clock
  have delay : engine.followCommands.fireDue.delay = engine.delay := delay
  have reaper : engine.followCommands.fireDue.reaper =
    (engine.followCommands.reaper.wake engine.clock).2 := reaper
  refine ⟨?_, clock, delay⟩
  apply followCommands_isIdle
  · rw [reaper]
    exact stays
  · rw [reaper, clock]
    exact fun _ => waits
  · rw [told, clock, delay]
    exact all

/-- When time has passed nothing is left for the reaper to do. -/
theorem IsIdle.advanceTo (idle : engine.IsIdle) (target stops : Nat) :
    (engine.advanceTo target stops).IsIdle :=
  advanceTo_induction (fun engine clock idle => (rest_isIdle { engine with clock } idle.ordered).1)
    target stops idle

/-- Where no timer is due none fires. -/
theorem fireDue_of_waits (waits : ∀ place ∈ engine.reaper.queue, engine.clock < place.1) :
    engine.fireDue = engine := by
  unfold fireDue
  rw [Reaper.wake_of_waits waits]
  rfl

/-- A service that is performed at an idle engine meets no timer, and leaves the engine idle. -/
theorem IsIdle.perform (idle : engine.IsIdle) (positive : 0 < engine.delay)
    (program : Program α) :
    engine.perform program = engine.handle program ∧ (engine.handle program).2.IsIdle ∧
      (engine.handle program).2.delay = engine.delay := by
  obtain ⟨reaper, clock, delay⟩ := run_frame program engine
  obtain ⟨orders, told, all⟩ := run_commands program engine
  rw [idle.quiet] at told
  have followed : (engine.run program).2.followCommands.IsIdle := by
    apply followCommands_isIdle
    · rw [reaper]
      exact idle.ordered
    · rw [reaper, clock, delay]
      exact idle.waits
    · rw [told, clock, delay]
      exact all
  have later : 0 < (engine.run program).2.followCommands.delay := Nat.lt_of_lt_of_eq positive
    delay.symm
  have rests : (engine.run program).2.rest = (engine.run program).2.followCommands := by
    unfold rest
    rw [fireDue_of_waits (followed.waits later)]
    rfl
  refine ⟨?_, followed, delay⟩
  show ((engine.run program).1, (engine.run program).2.rest) =
    ((engine.run program).1, (engine.run program).2.followCommands)
  rw [rests]

end Engine

end BoxOffice
