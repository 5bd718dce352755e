import BoxOffice.Proofs.Concourse.Course
import Mathlib.Data.List.Induction

/-!
# Scenes

A scene is what invariants of a concourse speak of: where things stand, and how far each call has
come. `Scene.Next` tells how one scene follows another. A concourse that is regular stays so, and
its scenes follow each other in this way; so what holds of the first scene and is kept from one
scene to the next holds whatever happens.
-/
namespace BoxOffice

/-- Where things stand, and how far the calls have come. -/
structure Scene (γ : Type) where
  /-- Where things stand. -/
  standing : Standing γ
  /-- What kind of call each one is and how far it has come. -/
  cast : List (Role × Phase)

/-- How one scene follows another. -/
inductive Scene.Next {γ : Type} [Gateway γ] : Scene γ → Scene γ → Prop where
  /-- Nothing that matters happens. -/
  | stay (scene : Scene γ) : Next scene scene
  /-- Some call takes a turn. -/
  | turn {standing later : Standing γ} {role : Role} {phase after : Phase}
    (before rest : List (Role × Phase)) (move : Move role standing phase later after) :
    Next ⟨standing, before ++ (role, phase) :: rest⟩ ⟨later, before ++ (role, after) :: rest⟩
  /-- A purchase begins, or is over at once. -/
  | buy (standing : Standing γ) (cast : List (Role × Phase)) :
    Next ⟨standing, cast⟩ ⟨standing, cast ++ [(.purchase, .waiting)]⟩
  /-- A settlement or a release begins. -/
  | seek (standing : Standing γ) (cast : List (Role × Phase)) {role : Role} (id : TrackingId)
    (taker : role ≠ .purchase) :
    Next ⟨standing, cast⟩ ⟨standing, cast ++ [(role, .seeking id)]⟩
  /-- The reaper follows its next command. -/
  | follow {standing : Standing γ} (cast : List (Role × Phase)) {order : Reaper.Command}
    {rest : List Reaper.Command} (queued : standing.commands = order :: rest) :
    Next ⟨standing, cast⟩
      ⟨{ standing with reaper := standing.reaper.follow order, commands := rest }, cast⟩
  /-- The reaper wakes up. -/
  | wake (standing : Standing γ) (cast : List (Role × Phase)) (now : Nat) :
    Next ⟨standing, cast⟩
      ⟨{ standing with reaper := (standing.reaper.wake now).2 },
        cast ++ (standing.reaper.wake now).1.map fun id => (.timer, .seeking id)⟩

section

variable {γ : Type}

/-- What is held, in the store or by a call. -/
def Scene.live (scene : Scene γ) : List Holding :=
  scene.standing.stored ++ scene.cast.filterMap fun part => part.2.holding?

/-- What has been sold or released. -/
def Scene.consumptions (scene : Scene γ) : List (TrackingId × Fate) :=
  scene.cast.filterMap fun part => part.2.consumption?

/-- The numbers of the purchases that have made a hold. -/
def Scene.bought (scene : Scene γ) : List TrackingId :=
  scene.cast.filterMap fun part => part.1.bought? part.2

/-- A reservation that is put under a free number is held in the store. -/
theorem Standing.stored_put {standing : Standing γ} {reservation : Reservation}
    (absent : standing.store.get? reservation.id = none) :
    (standing.store.insert reservation.id reservation).values.map (·.holding) |>.Perm
      (reservation.holding :: standing.stored) :=
  (Register.values_insert reservation absent).map _

/-- A reservation that is taken was held in the store. -/
theorem Standing.stored_take {standing : Standing γ} {reservation : Reservation}
    (present : standing.store.get? reservation.id = some reservation) :
    standing.stored.Perm (reservation.holding ::
      (standing.store.erase reservation.id).values.map (·.holding)) :=
  (Register.values_erase present).map _

/-- What is read off a cast is what is read off some part and what is read off the others. -/
theorem filterMap_cast {β : Type} (read : Role × Phase → Option β) (part : Role × Phase)
    (before rest : List (Role × Phase)) :
    ((before ++ part :: rest).filterMap read).Perm
      ((read part).toList ++ (before ++ rest).filterMap read) := by
  refine (List.perm_middle.filterMap read).trans (List.Perm.of_eq ?_)
  rw [List.filterMap_cons]
  cases read part <;> rfl

/-- What is held is what some call holds, what the other calls hold and what the store holds. -/
theorem Scene.live_turn (standing : Standing γ) (before rest : List (Role × Phase)) (role : Role)
    (phase : Phase) :
    (Scene.mk standing (before ++ (role, phase) :: rest)).live.Perm
      (phase.holding?.toList ++
        (standing.stored ++ (before ++ rest).filterMap fun part => part.2.holding?)) := by
  have middle := filterMap_cast (fun part => part.2.holding?) (role, phase) before rest
  refine (middle.append_left _).trans ?_
  rw [← List.append_assoc, ← List.append_assoc]
  exact List.perm_append_comm.append_right _

/-- Calls that begin hold nothing. -/
theorem Scene.live_append {standing : Standing γ} {cast more : List (Role × Phase)}
    (nothing : ∀ part ∈ more, part.2.holding? = none) :
    (Scene.mk standing (cast ++ more)).live = (Scene.mk standing cast).live := by
  have none : more.filterMap (fun part => part.2.holding?) = [] :=
    List.filterMap_eq_nil_iff.mpr nothing
  simp only [live, List.filterMap_append, none, List.append_nil]

end

/-- What a call has sold or released stays so. -/
theorem Move.consumption? {γ : Type} [Gateway γ] {standing later : Standing γ} {role : Role}
    {phase next : Phase} {gone : TrackingId × Fate} (move : Move role standing phase later next)
    (consumed : phase.consumption? = some gone) : next.consumption? = some gone := by
  cases move with
  | rest => exact consumed
  | resolve => exact consumed
  | _ => contradiction

/-- What has been sold or released stays so. -/
theorem Scene.Next.consumptions {γ : Type} [Gateway γ] {scene later : Scene γ}
    {gone : TrackingId × Fate} (follows : scene.Next later)
    (consumed : gone ∈ scene.consumptions) : gone ∈ later.consumptions := by
  have kept (standing : Standing γ) (cast more : List (Role × Phase))
      (among : gone ∈ cast.filterMap fun part => part.2.consumption?) :
      gone ∈ (Scene.mk standing (cast ++ more)).consumptions := by
    simp only [Scene.consumptions, List.filterMap_append]
    exact List.mem_append_left _ among
  cases follows with
  | stay => exact consumed
  | @turn standing after role phase next before rest move =>
    have split := filterMap_cast (fun part => part.2.consumption?)
    rw [Scene.consumptions, (split (role, phase) before rest).mem_iff, List.mem_append,
      Option.mem_toList] at consumed
    rw [Scene.consumptions, (split (role, next) before rest).mem_iff, List.mem_append,
      Option.mem_toList]
    exact consumed.imp_left move.consumption?
  | buy standing cast => exact kept _ _ _ consumed
  | seek standing cast => exact kept _ _ _ consumed
  | follow => exact consumed
  | wake standing cast now => exact kept _ _ _ consumed

variable {σ γ : Type} [Ledger σ] [Bookkeeping σ] [Gateway γ]

/-- Whether what is left of a call is on the course of its kind. -/
inductive Call.OnCourse : Call → Prop
  /-- A purchase. -/
  | purchase {program : Program (Except Abort Receipt)} (course : PurchaseCourse program) :
    OnCourse (.purchase program)
  /-- A settlement. -/
  | settlement {notification : PaymentNotification}
    {program : Program (Except Abort SettlementOutcome)}
    (course : SettlementCourse notification program) :
    OnCourse (.settlement notification.trackingId program)
  /-- A release. -/
  | release {id : TrackingId} {program : Program (Except Abort ReapOutcome)}
    (course : ReleaseCourse id program) : OnCourse (.release id program)
  /-- A timer. -/
  | timer {id : TrackingId} {program : Program (Except Abort ReapOutcome)}
    (course : TimerCourse id program) : OnCourse (.timer id program)

omit [Bookkeeping σ] in
/-- A call that takes a turn stays of its kind. -/
theorem Call.turn_role (call : Call) (engine : Engine σ γ) :
    (call.turn engine).1.role = call.role := by
  cases call <;> rfl

/-- An engine that can be relied on can be relied on after a turn. -/
theorem Engine.IsRegular.turn {engine : Engine σ γ} (regular : engine.IsRegular) (call : Call) :
    (call.turn engine).2.IsRegular := by
  have turned {α : Type} (program : Program α) :
      (program.turn Engine.answer engine).2.IsRegular := by
    cases program with
    | done value => exact regular
    | ask question next => exact regular.answer question
  cases call with
  | purchase program => exact turned program
  | settlement id program => exact turned program
  | release id program => exact turned program
  | timer id program => exact turned program

/-- Each turn of a call is a move along its course. -/
theorem Call.OnCourse.turn {call : Call} {engine : Engine σ γ} (course : call.OnCourse)
    (regular : engine.IsRegular) :
    (call.turn engine).1.OnCourse ∧
      ∀ holds, Move call.role (engine.standing holds) call.phase
        ((call.turn engine).2.standing
          (holds ++ (call.exchange? engine).toList.filterMap Exchange.hold?))
        (call.turn engine).1.phase := by
  cases course with
  | purchase course =>
    obtain ⟨stays, moves⟩ := course.turn regular
    exact ⟨.purchase stays, moves⟩
  | settlement course =>
    obtain ⟨stays, moves⟩ := course.turn regular
    exact ⟨.settlement stays, moves⟩
  | release course =>
    obtain ⟨stays, moves⟩ := course.turn (endsRelease_release _) regular
    exact ⟨.release stays, moves⟩
  | timer course =>
    obtain ⟨stays, moves⟩ := course.turn regular
    exact ⟨.timer stays, moves⟩

namespace Concourse

/-- The scene of a concourse. -/
def scene (concourse : Concourse σ γ) : Scene γ where
  standing := concourse.engine.standing concourse.holds
  cast := concourse.calls.map fun call => (call.role, call.phase)

omit [Gateway γ] in
/-- What is held in a concourse is what is held in its scene. -/
theorem live_scene (concourse : Concourse σ γ) : concourse.scene.live = concourse.live := by
  simp only [scene, Scene.live, List.filterMap_map]
  rfl

omit [Gateway γ] in
/-- What has been sold or released in a concourse is what has been in its scene. -/
theorem consumptions_scene (concourse : Concourse σ γ) :
    concourse.scene.consumptions = concourse.consumptions := by
  simp only [scene, Scene.consumptions, List.filterMap_map]
  rfl

/-- Whether a concourse is regular: its engine can be relied on, and all calls are on course. -/
structure IsRegular (concourse : Concourse σ γ) : Prop where
  /-- The engine can be relied on. -/
  engine : concourse.engine.IsRegular
  /-- All calls are on course. -/
  onCourse : ∀ call ∈ concourse.calls, call.OnCourse

variable {concourse : Concourse σ γ}

/-- A turn of a call leaves a concourse regular, and leads to a next scene. -/
theorem IsRegular.go (regular : concourse.IsRegular) (caller : Nat) :
    (concourse.go caller).IsRegular ∧ concourse.scene.Next (concourse.go caller).scene := by
  simp only [Concourse.go]
  split
  · exact ⟨regular, .stay _⟩
  · rename_i call present
    obtain ⟨stays, moves⟩ :=
      (regular.onCourse call (List.mem_of_getElem? present)).turn regular.engine
    constructor
    · refine ⟨regular.engine.turn call, fun other member => ?_⟩
      rcases List.mem_or_eq_of_mem_set member with old | new
      · exact regular.onCourse other old
      · exact new ▸ stays
    · obtain ⟨inside, same⟩ := List.getElem?_eq_some_iff.mp present
      have split : concourse.calls =
          concourse.calls.take caller ++ call :: concourse.calls.drop (caller + 1) := by
        rw [← same, ← List.drop_eq_getElem_cons inside, List.take_append_drop]
      have move := moves concourse.holds
      simp only [scene, holds, List.filterMap_append] at move ⊢
      rw [List.set_eq_take_append_cons_drop, if_pos inside]
      conv in concourse.calls.map _ => rw [split]
      simp only [List.map_append, List.map_cons, call.turn_role]
      exact .turn _ _ move

omit [Gateway γ] in
/-- A call that begins on its course leaves a concourse regular. -/
theorem IsRegular.begin (regular : concourse.IsRegular) {call : Call} (course : call.OnCourse) :
    (concourse.begin call).IsRegular := by
  refine ⟨regular.engine, fun other member => ?_⟩
  rcases List.mem_append.mp member with old | new
  · exact regular.onCourse other old
  · rw [List.mem_singleton.mp new]
    exact course

omit [Gateway γ] in
/-- A call that begins is the last of the cast. -/
theorem scene_begin (concourse : Concourse σ γ) (call : Call) :
    (concourse.begin call).scene =
      ⟨concourse.scene.standing, concourse.scene.cast ++ [(call.role, call.phase)]⟩ := by
  simp only [scene, begin, List.map_append, List.map_cons, List.map_nil]
  rfl

/-- A purchase that begins has nothing in hand. -/
theorem phaseOf_buy (settings : CheckoutSettings) (event : Uuid) (request : PurchaseRequest) :
    phaseOf purchaseEnd (Checkout.buy settings event request) = .waiting := by
  simp only [Checkout.buy]
  split <;> rfl

/-- A command that the reaper follows leaves a concourse regular, and leads to a next scene. -/
theorem IsRegular.follow (regular : concourse.IsRegular) :
    concourse.follow.IsRegular ∧ concourse.scene.Next concourse.follow.scene := by
  simp only [Concourse.follow]
  split
  · exact ⟨regular, .stay _⟩
  · rename_i order rest queued
    obtain ⟨faithful, returnable, keyed⟩ := regular.engine
    exact ⟨⟨⟨faithful, returnable, keyed⟩, regular.onCourse⟩, .follow _ queued⟩

/-- When the reaper wakes up a concourse stays regular, and a next scene begins. -/
theorem IsRegular.wake (regular : concourse.IsRegular) :
    concourse.wake.IsRegular ∧ concourse.scene.Next concourse.wake.scene := by
  obtain ⟨faithful, returnable, keyed⟩ := regular.engine
  constructor
  · refine ⟨⟨faithful, returnable, keyed⟩, fun call member => ?_⟩
    rcases List.mem_append.mp member with old | new
    · exact regular.onCourse call old
    · obtain ⟨id, -, rfl⟩ := List.mem_map.mp new
      exact .timer (.releasing _ .start)
  · have woken := Scene.Next.wake concourse.scene.standing concourse.scene.cast
      concourse.engine.clock
    simp only [scene, Concourse.wake, List.map_append, List.map_map] at woken ⊢
    exact woken

/-- Whatever happens, a concourse stays regular, and a next scene begins. -/
theorem IsRegular.step (regular : concourse.IsRegular) (action : Action σ) :
    (concourse.step action).IsRegular ∧ concourse.scene.Next (concourse.step action).scene := by
  obtain ⟨faithful, returnable, keyed⟩ := regular.engine
  cases action with
  | buy settings event request =>
    refine ⟨regular.begin (.purchase (purchaseCourse_buy settings event request)), ?_⟩
    simp only [Concourse.step, scene_begin, Call.phase, phaseOf_buy]
    exact .buy _ _
  | settle notification =>
    refine ⟨regular.begin (.settlement .start), ?_⟩
    simp only [Concourse.step, scene_begin]
    exact .seek _ _ notification.trackingId nofun
  | reap id =>
    refine ⟨regular.begin (.release .start), ?_⟩
    simp only [Concourse.step, scene_begin]
    exact .seek _ _ id nofun
  | go caller => exact regular.go caller
  | follow => exact regular.follow
  | wake => exact regular.wake
  | pass milliseconds => exact ⟨⟨⟨faithful, returnable, keyed⟩, regular.onCourse⟩, .stay _⟩
  | date now => exact ⟨⟨⟨faithful, returnable, keyed⟩, regular.onCourse⟩, .stay _⟩
  | upset mood =>
    obtain ⟨stays, books⟩ := Bookkeeping.inMood_books mood faithful
    have returns := returnable.congr (congrArg Books.codes books) (congrArg Books.uses books)
    refine ⟨⟨⟨stays, returns, keyed⟩, regular.onCourse⟩, ?_⟩
    have same : (concourse.step (.upset mood)).scene = concourse.scene := by
      simp only [scene, Concourse.step, Engine.withLedger, Engine.standing, Desk.books, books]
      rfl
    rw [same]
    exact .stay _
  | post acceptsMail => exact ⟨⟨⟨faithful, returnable, keyed⟩, regular.onCourse⟩, .stay _⟩

/-- What holds of a scene and is kept from one scene to the next holds whatever happens. -/
theorem IsRegular.run {Invariant : Scene γ → Prop}
    (keeps : ∀ scene later : Scene γ, Invariant scene → scene.Next later → Invariant later)
    (regular : concourse.IsRegular) (holds : Invariant concourse.scene)
    (actions : List (Action σ)) :
    (concourse.run actions).IsRegular ∧ Invariant (concourse.run actions).scene := by
  induction actions generalizing concourse with
  | nil => exact ⟨regular, holds⟩
  | cons action rest ih =>
    obtain ⟨stays, next⟩ := regular.step action
    exact ih stays (keeps _ _ holds next)

/-- What is sold or released in a concourse stays so. -/
theorem IsRegular.consumptions_run {gone : TrackingId × Fate} (regular : concourse.IsRegular)
    (consumed : gone ∈ concourse.consumptions) (actions : List (Action σ)) :
    gone ∈ (concourse.run actions).consumptions := by
  rw [← consumptions_scene] at consumed ⊢
  exact (regular.run (fun _ _ among follows => Scene.Next.consumptions follows among) consumed
    actions).2

end Concourse

omit [Gateway γ] in
/-- A concourse in which nothing has happened yet is regular. -/
theorem Opening.regular (opening : Opening σ γ) : opening.concourse.IsRegular :=
  ⟨⟨opening.faithful, .of_unused opening.unused, fun _ _ found => nomatch found⟩, nofun⟩

/-- What holds of the first scene and is kept from one scene to the next holds after anything. -/
theorem Opening.invariant {Invariant : Scene γ → Prop}
    (keeps : ∀ scene later : Scene γ, Invariant scene → scene.Next later → Invariant later)
    (opening : Opening σ γ) (holds : Invariant opening.concourse.scene)
    (actions : List (Action σ)) : Invariant (opening.after actions).scene :=
  (opening.regular.run keeps holds actions).2

/-- After anything a concourse is regular. -/
theorem Opening.after_regular (opening : Opening σ γ) (actions : List (Action σ)) :
    (opening.after actions).IsRegular :=
  (opening.regular.run (fun _ _ _ _ => trivial) trivial actions).1

/-- What happens later happens after what happened first. -/
theorem Opening.after_append (opening : Opening σ γ) (actions more : List (Action σ)) :
    opening.after (actions ++ more) = (opening.after actions).run more :=
  List.foldl_append

/-- What holds at first and is kept by every step holds after anything. -/
theorem Opening.after_induction (opening : Opening σ γ) (Invariant : Concourse σ γ → Prop)
    (start : Invariant opening.concourse)
    (keeps : ∀ actions action, Invariant (opening.after actions) →
      Invariant ((opening.after actions).step action))
    (actions : List (Action σ)) : Invariant (opening.after actions) := by
  induction actions using List.reverseRecOn with
  | nil => exact start
  | append_singleton actions action ih =>
    rw [opening.after_append]
    exact keeps actions action ih

end BoxOffice
