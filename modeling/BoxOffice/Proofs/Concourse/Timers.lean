import BoxOffice.Proofs.Concourse.Order
import BoxOffice.Proofs.Reaper

/-!
# Timers of open reservations

If the gateway never repeats a number and only timers release what nobody paid for, no open
reservation is ever left without a timer: its deadline stands in the queue of the reaper, or the
reaper has been told to arm its timer and will not be told to disarm it, or a call is about to arm
it, or the timer has fired and not asked for the reservation yet.
-/
namespace BoxOffice

namespace Reaper

variable {id : TrackingId}

/-- Whether the reaper will be told to arm a timer and not to disarm it after that. -/
def IsTold (commands : List Command) (id : TrackingId) : Prop :=
  ∃ before due rest, commands = before ++ .schedule id due :: rest ∧ .resolve id ∉ rest

/-- What the reaper was told last it will follow. -/
theorem isTold_schedule (commands : List Command) (id : TrackingId) (due : Nat) :
    IsTold (commands ++ [.schedule id due]) id :=
  ⟨commands, due, [], rfl, List.not_mem_nil⟩

/-- The reaper may be told something else after that. -/
theorem IsTold.append {commands : List Command} {order : Command} (told : IsTold commands id)
    (apart : order ≠ .resolve id) : IsTold (commands ++ [order]) id := by
  obtain ⟨before, due, rest, rfl, stays⟩ := told
  refine ⟨before, due, rest ++ [order], by rw [List.append_assoc, List.cons_append], ?_⟩
  intro member
  rcases List.mem_append.mp member with old | new
  · exact stays old
  · exact apart (List.mem_singleton.mp new).symm

/-- The reaper arms the timer next, or will still be told to. -/
theorem IsTold.tail {order : Command} {rest : List Command} (told : IsTold (order :: rest) id) :
    (∃ due, order = .schedule id due) ∨ IsTold rest id := by
  obtain ⟨before, due, behind, same, stays⟩ := told
  cases before with
  | nil => exact .inl ⟨due, (List.cons.inj same).1⟩
  | cons first before => exact .inr ⟨before, due, behind, (List.cons.inj same).2, stays⟩

end Reaper

/-- Whether a call is going to see to the timer of a reservation or is itself that timer. -/
inductive Role.SeesTo (id : TrackingId) : Role → Phase → Prop
  /-- It has opened the reservation, or a timer that could not release it, and is about to arm the
  timer. -/
  | arm (role : Role) : SeesTo id role (.arming id)
  /-- It is the timer and has not asked for the reservation yet. -/
  | fire : SeesTo id .timer (.seeking id)

/-- Whether the timer of a reservation is seen to. -/
inductive Scene.IsCovered {γ : Type} (scene : Scene γ) (id : TrackingId) : Prop
  /-- It is armed. -/
  | armed (armed : scene.standing.reaper.IsArmed id)
  /-- The reaper has been told to arm it. -/
  | told (told : Reaper.IsTold scene.standing.commands id)
  /-- Some call sees to it. -/
  | seen {role : Role} {phase : Phase} (member : (role, phase) ∈ scene.cast)
    (sees : role.SeesTo id phase)

/-- Whether the timers are in order. -/
structure Scene.IsTimed {γ : Type} (scene : Scene γ) : Prop where
  /-- Only timers of reservations whose tickets have been sold or released are disarmed. -/
  disarmed : ∀ id, .resolve id ∈ scene.standing.commands → id ∈ scene.consumptions.map (·.1)
  /-- The timer of each open reservation is seen to. -/
  covered : ∀ id reservation, scene.standing.store.get? id = some reservation →
    scene.IsCovered id

namespace Scene

variable {γ : Type} [Gateway γ] {standing later : Standing γ} {role : Role}
  {phase after : Phase} {before rest : List (Role × Phase)} {id : TrackingId}

omit [Gateway γ] in
/-- A timer is still seen to after the turn of a call if what was said about it still is. -/
theorem IsCovered.turn
    (covered : (Scene.mk standing (before ++ (role, phase) :: rest)).IsCovered id)
    (reaper : later.reaper = standing.reaper)
    (told : Reaper.IsTold standing.commands id → Reaper.IsTold later.commands id)
    (sees : role.SeesTo id phase →
      (Scene.mk later (before ++ (role, after) :: rest)).IsCovered id) :
    (Scene.mk later (before ++ (role, after) :: rest)).IsCovered id := by
  cases covered with
  | armed armed =>
    refine .armed ?_
    simp only [reaper]
    exact armed
  | told already => exact .told (told already)
  | seen member seesTo =>
    rcases List.mem_append.mp member with old | member
    · exact .seen (List.mem_append_left _ old) seesTo
    · rcases List.mem_cons.mp member with same | old
      · cases same
        exact sees seesTo
      · exact .seen (List.mem_append_right _ (List.mem_cons_of_mem _ old)) seesTo

omit [Gateway γ] in
/-- A timer is seen to after the turn of a call that sees to it. -/
theorem isCovered_of_seesTo (sees : role.SeesTo id after) :
    (Scene.mk later (before ++ (role, after) :: rest)).IsCovered id :=
  .seen (List.mem_append_right _ List.mem_cons_self) sees

omit [Gateway γ] in
/-- What has been sold or released by a call that takes a turn. -/
theorem mem_consumptions {fate : Fate} (standing : Standing γ) :
    (id, fate) ∈
      (Scene.mk standing (before ++ (role, .consumed id fate) :: rest)).consumptions := by
  have member : (role, Phase.consumed id fate) ∈ before ++ (role, .consumed id fate) :: rest :=
    List.mem_append_right _ List.mem_cons_self
  exact List.mem_filterMap.mpr ⟨_, member, rfl⟩

namespace IsTimed

/-- In each turn the reaper is only told to disarm timers of what has been sold or released. -/
theorem disarmed_turn (timed : (Scene.mk standing (before ++ (role, phase) :: rest)).IsTimed)
    (orderly : (Scene.mk standing (before ++ (role, phase) :: rest)).InOrder)
    (move : Move role standing phase later after) (told : .resolve id ∈ later.commands) :
    id ∈ (Scene.mk later (before ++ (role, after) :: rest)).consumptions.map (·.1) := by
  have follows : (Scene.mk standing (before ++ (role, phase) :: rest)).Next
      ⟨later, before ++ (role, after) :: rest⟩ := .turn before rest move
  have kept (already : .resolve id ∈ standing.commands) :
      id ∈ (Scene.mk later (before ++ (role, after) :: rest)).consumptions.map (·.1) := by
    obtain ⟨gone, consumed, same⟩ := List.mem_map.mp (timed.disarmed id already)
    exact List.mem_map.mpr ⟨gone, follows.consumptions consumed, same⟩
  cases move with
  | schedule due =>
    rcases List.mem_append.mp told with old | new
    · exact kept old
    · cases List.mem_singleton.mp new
  | resolve taker =>
    rcases List.mem_append.mp told with old | new
    · exact kept old
    · cases List.mem_singleton.mp new
      exact List.mem_map.mpr ⟨_, mem_consumptions _, rfl⟩
  | forget =>
    have straight := orderly.straight _ (List.mem_append_right _ List.mem_cons_self)
    contradiction
  | _ => exact kept told

/-- After each turn of a call that is no release the timer of an open reservation is seen to. -/
theorem covered_turn (timed : (Scene.mk standing (before ++ (role, phase) :: rest)).IsTimed)
    (orderly : (Scene.mk standing (before ++ (role, phase) :: rest)).InOrder)
    (keyed : ∀ id reservation, standing.store.get? id = some reservation → reservation.id = id)
    (lasting : role ≠ .release) (move : Move role standing phase later after)
    {reservation : Reservation} (found : later.store.get? id = some reservation) :
    (Scene.mk later (before ++ (role, after) :: rest)).IsCovered id := by
  have rearms (other : TrackingId) : role.SeesTo other (role.afterPut other) := by
    cases role with
    | release => contradiction
    | _ => exact .arm _
  have was := timed.covered id reservation
  cases move with
  | rest phase requests => exact (was found).turn rfl (fun told => told) isCovered_of_seesTo
  | @put opened absent =>
    by_cases same : id = opened.id
    · rw [same]
      exact isCovered_of_seesTo (rearms opened.id)
    · rw [Register.get?_insert_of_ne _ _ same] at found
      exact (was found).turn rfl (fun told => told) nofun
  | lapse taker gone =>
    refine (was found).turn rfl (fun told => told) fun sees => ?_
    cases sees
    rcases gone with paid | absent
    · rw [(orderly.of_open keyed found).1] at paid
      contradiction
    · rw [absent] at found
      contradiction
  | falter =>
    refine (was found).turn rfl (fun told => told) fun sees => ?_
    cases sees
    exact isCovered_of_seesTo (rearms id)
  | @take taken taker present =>
    obtain ⟨apart, old⟩ := Register.get?_erase_eq_some.mp found
    refine (was old).turn rfl (fun told => told) fun sees => ?_
    cases sees
    contradiction
  | schedule due =>
    refine (was found).turn rfl (fun told => told.append nofun) fun sees => ?_
    cases sees
    exact .told (Reaper.isTold_schedule _ _ _)
  | resolve taker =>
    -- What is disarmed has been sold or released, so it is not open.
    refine (was found).turn rfl (fun told => told.append fun same => ?_) nofun
    cases same
    exact (orderly.of_open keyed found).2 (List.mem_map.mpr ⟨_, mem_consumptions _, rfl⟩)
  | forget =>
    have straight := orderly.straight _ (List.mem_append_right _ List.mem_cons_self)
    contradiction
  | _ => exact (was found).turn rfl (fun told => told) nofun

omit [Gateway γ] in
/-- Calls that begin leave the timers in order. -/
theorem append {cast : List (Role × Phase)} (timed : (Scene.mk standing cast).IsTimed)
    (more : List (Role × Phase)) : (Scene.mk standing (cast ++ more)).IsTimed := by
  constructor
  · intro id told
    simp only [consumptions, List.filterMap_append, List.map_append]
    exact List.mem_append_left _ (timed.disarmed id told)
  · intro id reservation found
    cases timed.covered id reservation found with
    | armed armed => exact .armed armed
    | told told => exact .told told
    | seen member sees => exact .seen (List.mem_append_left _ member) sees

/-- A command that the reaper follows leaves the timers in order. -/
theorem follow {cast : List (Role × Phase)} {order : Reaper.Command} {rest : List Reaper.Command}
    (timed : (Scene.mk standing cast).IsTimed) (orderly : (Scene.mk standing cast).InOrder)
    (keyed : ∀ id reservation, standing.store.get? id = some reservation → reservation.id = id)
    (queued : standing.commands = order :: rest) :
    (Scene.mk { standing with reaper := standing.reaper.follow order, commands := rest }
      cast).IsTimed := by
  constructor
  · intro id told
    refine timed.disarmed id ?_
    simp only [queued]
    exact List.mem_cons_of_mem _ told
  · intro id reservation found
    cases timed.covered id reservation found with
    | armed armed =>
      refine .armed ?_
      cases order with
      | schedule other due => exact armed.schedule other due
      | resolve other =>
        refine armed.resolve fun same => ?_
        have gone : other ∈ (Scene.mk standing cast).consumptions.map (·.1) := by
          refine timed.disarmed other ?_
          simp only [queued]
          exact List.mem_cons_self
        exact (orderly.of_open keyed found).2 (same ▸ gone)
    | told told =>
      simp only [queued] at told
      rcases told.tail with ⟨due, rfl⟩ | told
      · exact .armed (Reaper.isArmed_schedule _ _ _)
      · exact .told told
    | seen member sees => exact .seen member sees

omit [Gateway γ] in
/-- When the reaper wakes up the timers stay in order. -/
theorem wake {cast : List (Role × Phase)} (timed : (Scene.mk standing cast).IsTimed) (now : Nat) :
    (Scene.mk { standing with reaper := (standing.reaper.wake now).2 }
      (cast ++ (standing.reaper.wake now).1.map fun id => (.timer, .seeking id))).IsTimed := by
  have grown := timed.append ((standing.reaper.wake now).1.map fun id => (.timer, .seeking id))
  refine ⟨grown.disarmed, fun id reservation found => ?_⟩
  cases timed.covered id reservation found with
  | armed armed =>
    rcases armed.wake now with fired | armed
    · have begun : (.timer, .seeking id) ∈
          (standing.reaper.wake now).1.map fun id => (Role.timer, Phase.seeking id) :=
        List.mem_map.mpr ⟨id, fired, rfl⟩
      exact .seen (List.mem_append_right _ begun) .fire
    · exact .armed armed
  | told told => exact .told told
  | seen member sees => exact .seen (List.mem_append_left _ member) sees

/-- The timers stay in order from one scene to the next if no call is a release. -/
theorem next {scene following : Scene γ} (timed : scene.IsTimed) (orderly : scene.InOrder)
    (keyed : ∀ id reservation, scene.standing.store.get? id = some reservation →
      reservation.id = id)
    (lasting : ∀ part ∈ scene.cast, part.1 ≠ .release) (follows : scene.Next following) :
    following.IsTimed := by
  cases follows with
  | stay => exact timed
  | @turn standing later role phase after before rest move =>
    have ours : role ≠ .release :=
      lasting (role, phase) (List.mem_append_right _ List.mem_cons_self)
    exact ⟨fun id told => timed.disarmed_turn orderly move told,
      fun id reservation found => timed.covered_turn orderly keyed ours move found⟩
  | buy standing cast => exact timed.append _
  | seek standing cast id taker => exact timed.append _
  | follow cast queued => exact timed.follow orderly keyed queued
  | wake standing cast now => exact timed.wake now

end IsTimed

end Scene

variable {σ γ : Type} [Ledger σ] [Bookkeeping σ] [Gateway γ]

/-- No call is a release as long as none is begun. -/
theorem Concourse.role_ne_release {concourse : Concourse σ γ}
    (lasting : ∀ call ∈ concourse.calls, call.role ≠ .release) {action : Action σ}
    (other : ∀ id, action ≠ .reap id) :
    ∀ call ∈ (concourse.step action).calls, call.role ≠ .release := by
  have grown (more : List Call) (fresh : ∀ call ∈ more, call.role ≠ .release) :
      ∀ call ∈ concourse.calls ++ more, call.role ≠ .release := by
    intro call member
    exact (List.mem_append.mp member).elim (lasting call) (fresh call)
  cases action with
  | buy settings event request =>
    refine grown _ fun call member => ?_
    rw [List.mem_singleton.mp member]
    nofun
  | settle notification =>
    refine grown _ fun call member => ?_
    rw [List.mem_singleton.mp member]
    nofun
  | reap id => exact absurd rfl (other id)
  | wake =>
    refine grown _ fun call member => ?_
    obtain ⟨id, -, rfl⟩ := List.mem_map.mp member
    nofun
  | go caller =>
    simp only [step, go]
    split
    · exact lasting
    · rename_i was present
      intro call member
      rcases List.mem_or_eq_of_mem_set member with old | rfl
      · exact lasting call old
      · rw [was.turn_role]
        exact lasting was (List.mem_of_getElem? present)
  | follow =>
    simp only [step, follow]
    split <;> exact lasting
  | _ => exact lasting

/-- Every open reservation always has a timer that will release it if the gateway never repeats a
number. As long as no release is asked for but by a timer, whatever else has happened, the deadline
of each open reservation stands in the queue of the reaper, or the reaper has been told to arm its
timer and has not been told to disarm it after that, or some call sees to it: one that has opened
the reservation and is about to arm its timer, or the timer itself, which has fired and not asked
for the reservation yet. -/
theorem Opening.always_covered (opening : Opening σ γ)
    (fresh : Gateway.NeverRepeats opening.gateway) (actions : List (Action σ))
    (lasting : ∀ id, .reap id ∉ actions) :
    ∀ id, (opening.after actions).engine.store.contains id = true →
      (opening.after actions).scene.IsCovered id := by
  have timed : (∀ call ∈ (opening.after actions).calls, call.role ≠ .release) ∧
      (opening.after actions).scene.IsTimed := by
    induction actions using List.reverseRecOn with
    | nil => exact ⟨nofun, nofun, nofun⟩
    | append_singleton actions action ih =>
      have before (id : TrackingId) : .reap id ∉ actions := fun member =>
        lasting id (List.mem_append_left _ member)
      have other (id : TrackingId) : action ≠ .reap id := fun same =>
        lasting id (List.mem_append_right _ (List.mem_singleton.mpr same.symm))
      obtain ⟨unreleased, timed⟩ := ih before
      have regular := opening.after_regular actions
      have cast : ∀ part ∈ (opening.after actions).scene.cast, part.1 ≠ .release := by
        intro part member
        obtain ⟨call, running, rfl⟩ := List.mem_map.mp member
        exact unreleased call running
      rw [opening.after_append]
      exact ⟨Concourse.role_ne_release unreleased other,
        timed.next (opening.inOrder_after fresh actions) regular.engine.keyed cast
          (regular.step action).2⟩
  intro id opened
  rw [Register.contains_eq_isSome] at opened
  obtain ⟨reservation, found⟩ := Option.isSome_iff_exists.mp opened
  exact timed.2.covered id reservation found

/-- When the timer of a reservation has fired and nothing else is left of it, it is itself what sees
to it. -/
theorem Opening.always_covered_matinee :
    (Matinee.opening.after (Matinee.purchase 4 ++ [.follow, .pass 10, .wake])).engine.reaper.queue
        = [] ∧
      (Matinee.opening.after (Matinee.purchase 4 ++ [.follow, .pass 10, .wake])).scene.IsCovered
        ⟨7⟩ := by
  have lasting (id : TrackingId) :
      .reap id ∉ Matinee.purchase 4 ++ [.follow, .pass 10, .wake] := by
    simp [Matinee.purchase]
  have covered := Matinee.opening.always_covered Matinee.neverRepeats
    (Matinee.purchase 4 ++ [.follow, .pass 10, .wake]) lasting
  exact ⟨by decide, covered ⟨7⟩ (by decide)⟩

end BoxOffice
