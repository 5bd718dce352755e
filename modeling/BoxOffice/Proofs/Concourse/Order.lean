import BoxOffice.Proofs.Concourse.Scene
import Mathlib.Data.List.Pairwise

/-!
# Order with a gateway that never repeats a number

If the gateway never repeats a number, every number it has put on a committed hold is accounted for:
its tickets are held under it, or they have been sold or released under it, once. So no tickets
stay pending that nobody holds, no use of a code is kept for tickets that were released, and a
reservation can always be put back.
-/
namespace BoxOffice

/-- The use that comes with a hold goes by its number. -/
theorem Hold.id_of_use {hold : Hold} {use : ReferralUse} (own : use ∈ hold.use?) :
    use.id = hold.id := by
  obtain ⟨snapshot, -, rfl⟩ := Option.map_eq_some_iff.mp own
  rfl

/-- How the books agree with what is held and with what has been sold or released. -/
structure Order {γ : Type} [Gateway γ] (books : Books) (gateway : γ) (holds : List Hold)
    (live : List Holding) (consumed : List (TrackingId × Fate)) : Prop where
  /-- No two tickets have the same identifier. -/
  distinct : books.ticketIds.Nodup
  /-- The pending tickets are those that are held, each once. -/
  pending : (live.flatMap (·.tickets)).Perm (books.idsOf .pending)
  /-- Holds have different numbers, and so will all bills to come. -/
  numbered : ∀ requests, (holds.map (·.id) ++ Gateway.issued requests gateway).Nodup
  /-- Each hold is still held or has been sold or released, and only once. -/
  accounted : (holds.map (·.id)).Perm (live.map (·.id) ++ consumed.map (·.1))
  /-- What has been paid for is what has been sold. -/
  paid : ∀ id, books.paymentExists id = true ↔ (id, .sold) ∈ consumed
  /-- No number has two uses of a code. -/
  usedOnce : (books.uses.map (·.id)).Nodup
  /-- The uses of codes are those of holds that are still held or have been sold. -/
  used : ∀ use, use ∈ books.uses ↔ ∃ hold ∈ holds, use ∈ hold.use? ∧
    (hold.id ∈ live.map (·.id) ∨ (hold.id, .sold) ∈ consumed)

namespace Order

variable {γ : Type} [Gateway γ] {books after : Books} {gateway later : γ} {holds : List Hold}
  {live others : List Holding} {consumed gone : List (TrackingId × Fate)} {holding : Holding}

/-- The order of what is held and of what is gone does not matter. -/
theorem of_perm (order : Order books gateway holds live consumed) (held : live.Perm others)
    (same : consumed.Perm gone) : Order books gateway holds others gone where
  distinct := order.distinct
  pending := (held.flatMap_right _).symm.trans order.pending
  numbered := order.numbered
  accounted := order.accounted.trans ((held.map _).append (same.map _))
  paid id := by rw [order.paid, same.mem_iff]
  usedOnce := order.usedOnce
  used use := by simp only [order.used, (held.map _).mem_iff, same.mem_iff]

/-- Nothing is held or gone twice, and nothing that is held is gone. -/
theorem ids_nodup (order : Order books gateway holds live consumed) :
    (live.map (·.id) ++ consumed.map (·.1)).Nodup := by
  have numbers := order.numbered []
  rw [Gateway.issued, List.append_nil] at numbers
  exact order.accounted.nodup_iff.mp numbers

/-- What is held is not gone. -/
theorem not_consumed (order : Order books gateway holds (holding :: live) consumed) (fate : Fate) :
    (holding.id, fate) ∉ consumed := by
  intro member
  have first := (List.nodup_cons.mp order.ids_nodup).1
  exact first (List.mem_append_right _ (List.mem_map.mpr ⟨_, member, rfl⟩))

/-- What is held has not been paid for. -/
theorem unpaid (order : Order books gateway holds (holding :: live) consumed) :
    books.paymentExists holding.id = false := by
  rw [← Bool.not_eq_true, order.paid]
  exact order.not_consumed .sold

/-- No other holding goes by the same number. -/
theorem not_held (order : Order books gateway holds (holding :: live) consumed) :
    holding.id ∉ live.map (·.id) := by
  intro member
  exact (List.nodup_cons.mp order.ids_nodup).1 (List.mem_append_left _ member)

/-- What is held is held once and pending. -/
theorem owned (order : Order books gateway holds (holding :: live) consumed) :
    holding.tickets.Nodup ∧ holding.tickets ⊆ books.idsOf .pending := by
  have once := order.pending.nodup_iff.mpr (Books.idsOf_nodup order.distinct)
  rw [List.flatMap_cons] at once
  refine ⟨(List.nodup_append.mp once).1, fun ticket member => ?_⟩
  exact order.pending.subset (List.mem_append_left _ member)

/-- Nothing that is held has been paid for. -/
theorem unpaid_of_mem (order : Order books gateway holds live consumed) (held : holding ∈ live) :
    books.paymentExists holding.id = false := by
  obtain ⟨before, rest, rfl⟩ := List.append_of_mem held
  exact (order.of_perm List.perm_middle (.refl _)).unpaid

/-- A pending ticket belongs to one holding and to no other, and no other ticket does. -/
theorem pending_iff (order : Order books gateway holds live consumed) (ticket : Uuid) :
    books.ticketStatus? ticket = some .pending ↔
      ∃! holding, holding ∈ live ∧ ticket ∈ holding.tickets := by
  rw [Books.ticketStatus?_eq_some order.distinct, ← order.pending.mem_iff, List.mem_flatMap]
  have once := order.pending.nodup_iff.mpr (Books.idsOf_nodup order.distinct)
  have apart := (List.nodup_flatMap.mp once).2
  have symmetric : Std.Symm (Function.onFun List.Disjoint fun held : Holding => held.tickets) :=
    ⟨fun _ _ separate => List.disjoint_symm separate⟩
  constructor
  · rintro ⟨holding, held, member⟩
    refine ⟨holding, ⟨held, member⟩, fun other ⟨otherHeld, otherMember⟩ => ?_⟩
    by_contra different
    have separate := apart.forall held otherHeld (Ne.symm different)
    exact separate member otherMember
  · rintro ⟨holding, ⟨held, member⟩, -⟩
    exact ⟨holding, held, member⟩

/-- The uses of codes are those of the holds with a discount that are still held or paid for. -/
theorem uses_iff (order : Order books gateway holds live consumed) (code : Uuid)
    (id : TrackingId) :
    ⟨code, id⟩ ∈ books.uses ↔ ∃ hold ∈ holds, hold.id = id ∧
      hold.discount.map (·.referral) = some code ∧
        (id ∈ live.map (·.id) ∨ books.paymentExists id = true) := by
  rw [order.used]
  refine exists_congr fun hold => and_congr_right fun _ => ?_
  simp only [order.paid]
  constructor
  · rintro ⟨own, still⟩
    obtain ⟨snapshot, discount, same⟩ := Option.map_eq_some_iff.mp own
    obtain ⟨rfl, rfl⟩ := ReferralUse.mk.inj same
    exact ⟨rfl, by rw [discount]; rfl, still⟩
  · rintro ⟨rfl, discount, still⟩
    obtain ⟨snapshot, found, rfl⟩ := Option.map_eq_some_iff.mp discount
    exact ⟨Option.map_eq_some_iff.mpr ⟨snapshot, found, rfl⟩, still⟩

/-- Requests in vain do not upset the order. -/
theorem heard (order : Order books gateway holds live consumed) (requests : List BillRequest) :
    Order books (Gateway.heard requests gateway) holds live consumed := by
  refine { order with numbered := fun more => ?_ }
  have all := order.numbered (requests ++ more)
  rw [Gateway.issued_append] at all
  exact all.sublist ((List.sublist_append_right _ _).append_left _)

/-- A hold comes in under a new number. -/
theorem hold {hold : Hold} {request : BillRequest}
    (order : Order books gateway holds live consumed) (held : books.Held hold after)
    (billed : Gateway.createBill request gateway = (.ok hold.bill, later)) :
    Order after later (holds ++ [hold]) (hold.holding :: live) consumed := by
  have separate := (Books.idsOf_nodup order.distinct).sublist held.offered
  have owned := held.offered.subset
  have ids : after.idsOf = (books.withStatus hold.ticketIds .available .pending).idsOf :=
    Books.idsOf_congr held.tickets
  have numbers (more : List BillRequest) :
      ((holds ++ [hold]).map (·.id) ++ Gateway.issued more later).Nodup := by
    have all := order.numbered (request :: more)
    rw [Gateway.issued_of_createBill billed] at all
    rw [List.map_append, List.append_assoc]
    exact all
  have new : hold.id ∉ holds.map (·.id) := by
    have all := numbers []
    rw [Gateway.issued, List.append_nil, List.map_append] at all
    intro member
    exact (List.nodup_append.mp all).2.2 _ member _ List.mem_cons_self rfl
  constructor
  · rw [Books.ticketIds_congr held.tickets, Books.withStatus_ticketIds]
    exact order.distinct
  · rw [ids]
    have joined := Books.idsOf_next .pending order.distinct separate owned (by decide)
    exact (order.pending.append_left _).trans joined.symm
  · exact numbers
  · rw [List.map_append]
    exact (List.perm_append_comm).trans (order.accounted.cons hold.id)
  · intro id
    rw [Books.paymentExists, held.payments]
    exact order.paid id
  · rw [held.uses, List.map_append]
    refine List.Nodup.append order.usedOnce ?_ ?_
    · cases hold.use? with
      | none => exact List.nodup_nil
      | some use => exact List.nodup_singleton _
    · intro id early late
      obtain ⟨use, recorded, rfl⟩ := List.mem_map.mp early
      obtain ⟨other, member, own, -⟩ := (order.used use).mp recorded
      obtain ⟨fresh, present, same⟩ := List.mem_map.mp late
      rw [Hold.id_of_use own, Hold.id_of_use (Option.mem_toList.mp present)] at same
      exact new (List.mem_map.mpr ⟨other, member, same.symm⟩)
  · intro use
    rw [held.uses, List.mem_append, Option.mem_toList, order.used]
    constructor
    · rintro (⟨other, member, own, still | sold⟩ | own)
      · exact ⟨other, List.mem_append_left _ member, own, .inl (List.mem_cons_of_mem _ still)⟩
      · exact ⟨other, List.mem_append_left _ member, own, .inr sold⟩
      · exact ⟨hold, List.mem_append_right _ List.mem_cons_self, own, .inl List.mem_cons_self⟩
    · rintro ⟨other, member, own, still⟩
      rcases List.mem_append.mp member with old | fresh
      · refine .inl ⟨other, old, own, still.imp_left fun among => ?_⟩
        rcases List.mem_cons.mp among with same | among
        · exact absurd (List.mem_map.mpr ⟨other, old, same⟩) new
        · exact among
      · rw [List.mem_singleton.mp fresh] at own
        exact .inr own

/-- Tickets that are sold are not held any more, and their number is paid for. -/
theorem sell {reservation : Reservation}
    (order : Order books gateway holds (reservation.holding :: live) consumed)
    (sold : books.Sold reservation after) :
    Order after gateway holds live ((reservation.id, .sold) :: consumed) := by
  obtain ⟨separate, owned⟩ := order.owned
  have ids : after.idsOf = (books.withStatus reservation.tickets .pending .sold).idsOf :=
    Books.idsOf_congr sold.tickets
  constructor
  · rw [Books.ticketIds_congr sold.tickets, Books.withStatus_ticketIds]
    exact order.distinct
  · rw [ids]
    have left := Books.idsOf_current .sold order.distinct separate owned (by decide)
    exact (List.perm_append_left_iff _).mp (order.pending.trans left)
  · exact order.numbered
  · exact order.accounted.trans List.perm_middle.symm
  · intro id
    rw [Books.paymentExists_iff, sold.payments, List.mem_append, ← Books.paymentExists_iff,
      order.paid, List.mem_singleton, List.mem_cons, Prod.mk.injEq]
    simp only [and_true, or_comm]
  · rw [sold.uses]
    exact order.usedOnce
  · intro use
    rw [sold.uses, order.used]
    refine exists_congr fun hold => and_congr_right fun _ => and_congr_right fun _ => ?_
    simp only [List.map_cons, List.mem_cons, Prod.mk.injEq, and_true, Reservation.holding]
    tauto

/-- Tickets that become available again are not held any more, and no code is used for them. -/
theorem free (order : Order books gateway holds (holding :: live) consumed) :
    Order (books.freed holding.tickets holding.id) gateway holds live
      ((holding.id, .released) :: consumed) := by
  obtain ⟨separate, owned⟩ := order.owned
  obtain ⟨tickets, payments, -⟩ := books.freed_frame holding.tickets holding.id
  have ids := Books.idsOf_congr tickets
  have uses : (books.freed holding.tickets holding.id).uses =
      books.uses.filter fun use => use.id ≠ holding.id :=
    (books.withStatus holding.tickets .pending .available).withoutUse_uses order.usedOnce _
  constructor
  · rw [Books.ticketIds_congr tickets, Books.withStatus_ticketIds]
    exact order.distinct
  · rw [ids]
    have left := Books.idsOf_current .available order.distinct separate owned (by decide)
    exact (List.perm_append_left_iff _).mp (order.pending.trans left)
  · exact order.numbered
  · exact order.accounted.trans List.perm_middle.symm
  · intro id
    rw [Books.paymentExists, payments]
    refine (order.paid id).trans ?_
    simp only [List.mem_cons, Prod.mk.injEq, reduceCtorEq, and_false, false_or]
  · rw [uses]
    exact order.usedOnce.sublist (List.filter_sublist.map _)
  · intro use
    rw [uses, List.mem_filter, order.used]
    constructor
    · rintro ⟨⟨hold, member, own, still⟩, apart⟩
      have other : hold.id ≠ holding.id := by
        rw [← Hold.id_of_use own]
        exact of_decide_eq_true apart
      refine ⟨hold, member, own, still.imp (fun among => ?_) (List.mem_cons_of_mem _)⟩
      exact (List.mem_cons.mp among).resolve_left other
    · rintro ⟨hold, member, own, still⟩
      have other : hold.id ≠ holding.id := by
        intro same
        rcases still with among | sold
        · exact order.not_held (same ▸ among)
        · refine order.not_consumed .sold ?_
          rw [← same]
          exact (List.mem_cons.mp sold).resolve_left (by simp)
      rw [← Hold.id_of_use own] at other
      refine ⟨⟨hold, member, own, ?_⟩, decide_eq_true other⟩
      refine still.imp (List.mem_cons_of_mem _) fun sold => ?_
      exact (List.mem_cons.mp sold).resolve_left (by simp)

end Order

/-- What is held by others is held under other numbers, so no move can come of a repeated one. -/
theorem Order.not_stored {γ : Type} [Gateway γ] {standing : Standing γ} {holding : Holding}
    {others : List Holding} {gone : List (TrackingId × Fate)}
    (order : Order standing.books standing.gateway standing.holds
      (holding :: (standing.stored ++ others)) gone) :
    holding.id ∉ standing.stored.map (·.id) := by
  intro present
  refine order.not_held ?_
  rw [List.map_append]
  exact List.mem_append_left _ present

/-- A move keeps the order, whatever else is held and gone. -/
theorem Move.order {γ : Type} [Gateway γ] {standing later : Standing γ} {role : Role}
    {phase next : Phase} {others : List Holding} {gone : List (TrackingId × Fate)}
    (move : Move role standing phase later next) (straight : phase.isAstray = false)
    (order : Order standing.books standing.gateway standing.holds
      (phase.holding?.toList ++ (standing.stored ++ others))
      (phase.consumption?.toList ++ gone)) :
    Order later.books later.gateway later.holds
      (next.holding?.toList ++ (later.stored ++ others)) (next.consumption?.toList ++ gone) := by
  cases move with
  | rest phase requests => exact order.heard requests
  | hold buyer held billed => exact order.hold held billed
  | put absent =>
    have same := ((Standing.stored_put absent).append_right others).symm
    cases role <;> exact order.of_perm same (.refl _)
  | decline buyer present => exact absurd present order.not_stored
  | turnAway taker present => exact absurd present order.not_stored
  | undo => contradiction
  | abandon => contradiction
  | lapse => exact order
  | falter => cases role <;> exact order
  | take taker present =>
    exact order.of_perm ((Standing.stored_take present).append_right others) (.refl _)
  | sell taker sold => exact order.sell sold
  | recur taker paid =>
    rw [order.unpaid] at paid
    contradiction
  | release => exact order.free
  | schedule => cases role <;> exact order
  | resolve => exact order
  | forget => contradiction

/-- A move makes a hold or leaves its purchase with the one it made, if the order is kept. -/
theorem Move.bought {γ : Type} [Gateway γ] {standing later : Standing γ} {role : Role}
    {phase next : Phase} {numbers : List TrackingId}
    (move : Move role standing phase later next) (straight : phase.isAstray = false)
    (bought : (standing.holds.map (·.id)).Perm ((role.bought? phase).toList ++ numbers)) :
    (later.holds.map (·.id)).Perm ((role.bought? next).toList ++ numbers) := by
  cases move with
  | rest => exact bought
  | hold buyer =>
    rw [buyer, List.map_append]
    refine List.perm_append_comm.trans ?_
    rw [buyer] at bought
    exact bought.cons _
  | put => cases role <;> exact bought
  | decline buyer =>
    rw [buyer] at bought ⊢
    exact bought
  | schedule => cases role <;> exact bought
  | undo => contradiction
  | abandon => contradiction
  | forget => contradiction
  | _ taker =>
    rw [Role.bought?_of_ne taker] at bought ⊢
    exact bought

/-- A move does not go astray if the order is kept. -/
theorem Move.straight {γ : Type} [Gateway γ] {standing later : Standing γ} {role : Role}
    {phase next : Phase} {others : List Holding} {gone : List (TrackingId × Fate)}
    (move : Move role standing phase later next) (straight : phase.isAstray = false)
    (order : Order standing.books standing.gateway standing.holds
      (phase.holding?.toList ++ (standing.stored ++ others))
      (phase.consumption?.toList ++ gone)) : next.isAstray = false := by
  cases move with
  | rest => exact straight
  | decline buyer present => exact absurd present order.not_stored
  | turnAway taker present => exact absurd present order.not_stored
  | recur taker paid =>
    rw [order.unpaid] at paid
    contradiction
  | put => cases role <;> rfl
  | falter => cases role <;> rfl
  | schedule => cases role <;> rfl
  | _ => rfl

/-- Whether a scene is in order: the books agree with what is held and gone, each hold is that of a
purchase, and no call is on its way to an end that only comes of a repeated number. -/
structure Scene.InOrder {γ : Type} [Gateway γ] (scene : Scene γ) : Prop where
  /-- The books agree with what is held and gone. -/
  order : Order scene.standing.books scene.standing.gateway scene.standing.holds scene.live
    scene.consumptions
  /-- Each hold is that of a purchase. -/
  bought : (scene.standing.holds.map (·.id)).Perm scene.bought
  /-- No call has found that a number is repeated. -/
  straight : ∀ part ∈ scene.cast, part.2.isAstray = false

namespace Scene.InOrder

variable {γ : Type} [Gateway γ] {standing later : Standing γ}
  {cast before rest : List (Role × Phase)} {role : Role} {phase after : Phase}

/-- Calls that begin do not upset the order. -/
theorem append {more : List (Role × Phase)} (orderly : (Scene.mk standing cast).InOrder)
    (nothing : ∀ part ∈ more, part.2.holding? = none)
    (fresh : ∀ part ∈ more, part.2.consumption? = none ∧ part.1.bought? part.2 = none ∧
      part.2.isAstray = false) : (Scene.mk standing (cast ++ more)).InOrder := by
  have none : more.filterMap (fun part => part.2.consumption?) = [] :=
    List.filterMap_eq_nil_iff.mpr fun part member => (fresh part member).1
  have noneBought : more.filterMap (fun part => part.1.bought? part.2) = [] :=
    List.filterMap_eq_nil_iff.mpr fun part member => (fresh part member).2.1
  constructor
  · rw [Scene.live_append nothing, Scene.consumptions, List.filterMap_append, none,
      List.append_nil]
    exact orderly.order
  · rw [Scene.bought, List.filterMap_append, noneBought, List.append_nil]
    exact orderly.bought
  · intro part member
    rcases List.mem_append.mp member with old | new
    · exact orderly.straight part old
    · exact (fresh part new).2.2

/-- What is held and gone, told apart by whether it is some call's. -/
theorem apart (orderly : (Scene.mk standing (before ++ (role, phase) :: rest)).InOrder) :
    Order standing.books standing.gateway standing.holds
      (phase.holding?.toList ++
        (standing.stored ++ (before ++ rest).filterMap fun part => part.2.holding?))
      (phase.consumption?.toList ++
        (before ++ rest).filterMap fun part => part.2.consumption?) :=
  orderly.order.of_perm (Scene.live_turn standing before rest role phase)
    (filterMap_cast (fun part => part.2.consumption?) (role, phase) before rest)

/-- Nobody has paid for an open reservation, and its tickets have not been sold or released. -/
theorem of_open {scene : Scene γ} {id : TrackingId} {reservation : Reservation}
    (orderly : scene.InOrder)
    (keyed : ∀ id reservation, scene.standing.store.get? id = some reservation →
      reservation.id = id)
    (found : scene.standing.store.get? id = some reservation) :
    scene.standing.books.paymentExists id = false ∧ id ∉ scene.consumptions.map (·.1) := by
  have stored : reservation ∈ scene.standing.store.values :=
    List.mem_map.mpr ⟨_, Register.get?_eq_some.mp found, rfl⟩
  have live : reservation.holding ∈ scene.live :=
    List.mem_append_left _ (List.mem_map.mpr ⟨reservation, stored, rfl⟩)
  have unpaid := orderly.order.unpaid_of_mem live
  have apart := (List.nodup_append.mp orderly.order.ids_nodup).2.2
  rw [← keyed id reservation found]
  exact ⟨unpaid, fun gone => apart _ (List.mem_map.mpr ⟨_, live, rfl⟩) _ gone rfl⟩

/-- Each move of a call keeps a scene in order. -/
theorem turn (orderly : (Scene.mk standing (before ++ (role, phase) :: rest)).InOrder)
    (move : Move role standing phase later after) :
    (Scene.mk later (before ++ (role, after) :: rest)).InOrder := by
  have straight : phase.isAstray = false :=
    orderly.straight (role, phase) (List.mem_append_right _ List.mem_cons_self)
  have bought := filterMap_cast (fun part => part.1.bought? part.2)
  constructor
  · refine (move.order straight orderly.apart).of_perm ?_ ?_
    · exact (Scene.live_turn later before rest role after).symm
    · exact (filterMap_cast (fun part => part.2.consumption?) (role, after) before rest).symm
  · have was := orderly.bought.trans (bought (role, phase) before rest)
    exact (move.bought straight was).trans (bought (role, after) before rest).symm
  · intro part member
    rcases List.mem_append.mp member with old | member
    · exact orderly.straight part (List.mem_append_left _ old)
    · rcases List.mem_cons.mp member with rfl | old
      · exact move.straight straight orderly.apart
      · exact orderly.straight part (List.mem_append_right _ (List.mem_cons_of_mem _ old))

/-- Order is kept from one scene to the next. -/
theorem next {scene later : Scene γ} (orderly : scene.InOrder) (follows : scene.Next later) :
    later.InOrder := by
  cases follows with
  | stay => exact orderly
  | turn before rest move => exact orderly.turn move
  | buy =>
    refine orderly.append (by simp [Phase.holding?]) ?_
    simp [Phase.consumption?, Role.bought?, Phase.isAstray]
  | seek standing cast id taker =>
    refine orderly.append (by simp [Phase.holding?]) ?_
    simp [Phase.consumption?, Role.bought?_of_ne taker, Phase.isAstray]
  | follow => exact ⟨orderly.order, orderly.bought, orderly.straight⟩
  | wake standing cast now =>
    have kept : (Scene.mk { standing with reaper := (standing.reaper.wake now).2 } cast).InOrder :=
      ⟨orderly.order, orderly.bought, orderly.straight⟩
    refine kept.append (by simp [Phase.holding?]) ?_
    simp [Phase.consumption?, Role.bought?, Phase.isAstray]

end Scene.InOrder

variable {σ γ : Type} [Ledger σ] [Bookkeeping σ] [Gateway γ]

/-- At first everything is in order. -/
theorem Opening.inOrder (opening : Opening σ γ) (fresh : Gateway.NeverRepeats opening.gateway) :
    opening.concourse.scene.InOrder := by
  have none : (Bookkeeping.books opening.ledger).idsOf .pending = [] :=
    Books.idsOf_eq_nil opening.available (by decide)
  have unused := opening.unused
  have unpaid := opening.unpaid
  refine ⟨⟨opening.distinct, ?_, fresh, .refl _, ?_, ?_, ?_⟩, .refl _, List.forall_mem_nil _⟩
  · simp only [Concourse.scene, Opening.concourse, Engine.standing, Engine.start, none]
    exact .refl _
  · intro id
    simp only [Concourse.scene, Opening.concourse, Engine.standing, Engine.start,
      Books.paymentExists, unpaid]
    constructor <;> intro among <;> contradiction
  · simp only [Concourse.scene, Opening.concourse, Engine.standing, Engine.start, unused]
    exact List.nodup_nil
  · intro use
    simp only [Concourse.scene, Opening.concourse, Engine.standing, Engine.start, unused]
    constructor
    · intro among
      contradiction
    · rintro ⟨hold, among, -⟩
      contradiction

/-- Whatever has happened, everything is in order. -/
theorem Opening.inOrder_after (opening : Opening σ γ)
    (fresh : Gateway.NeverRepeats opening.gateway) (actions : List (Action σ)) :
    (opening.after actions).scene.InOrder :=
  opening.invariant (fun _ _ orderly follows => orderly.next follows) (opening.inOrder fresh)
    actions

omit [Bookkeeping σ] in
/-- A question whether a reservation can be put is asked by a call that holds its tickets. -/
theorem phaseOf_of_put {α : Type} {program : Program α} {engine : Engine σ γ}
    {reservation : Reservation} {isOpened : Bool} (finish : α → Phase)
    (asked : program.exchange? Engine.answer engine =
      some ⟨.putReservation reservation, isOpened⟩) :
    phaseOf finish program = .keeping reservation.holding ∧
      (Engine.answer (.putReservation reservation) engine).1 = isOpened := by
  cases program with
  | done value => contradiction
  | ask question next =>
    cases asked
    exact ⟨rfl, rfl⟩

namespace Concourse

variable {concourse : Concourse σ γ}

/-- In order no call is told that a reservation cannot be put. -/
theorem IsRegular.put_opens (regular : concourse.IsRegular) (orderly : concourse.scene.InOrder)
    {call : Call} (member : call ∈ concourse.calls) (reservation : Reservation) :
    call.exchange? concourse.engine ≠ some ⟨.putReservation reservation, false⟩ := by
  intro asked
  have keeps : call.phase = .keeping reservation.holding ∧
      (Engine.answer (.putReservation reservation) concourse.engine).1 = false := by
    cases call with
    | purchase program => exact phaseOf_of_put purchaseEnd asked
    | settlement id program => exact phaseOf_of_put (settlementEnd id) asked
    | release id program => exact phaseOf_of_put (releaseEnd id) asked
    | timer id program => exact phaseOf_of_put (releaseEnd id) asked
  obtain ⟨phase, refused⟩ := keeps
  rcases regular.engine.put reservation with ⟨-, opened⟩ | ⟨present, -⟩
  · rw [opened] at refused
    contradiction
  · have part : (call.role, call.phase) ∈ concourse.scene.cast :=
      List.mem_map.mpr ⟨call, member, rfl⟩
    obtain ⟨before, rest, cast⟩ := List.append_of_mem part
    rw [phase] at cast
    have apart : (Scene.mk concourse.scene.standing (before ++ (call.role,
        .keeping reservation.holding) :: rest)).InOrder := cast ▸ orderly
    exact apart.apart.not_stored (present concourse.holds)

/-- In order no reservation is ever turned away from the store. -/
theorem IsRegular.transcript (regular : concourse.IsRegular)
    (orderly : concourse.scene.InOrder)
    (clean : ∀ reservation, ⟨.putReservation reservation, false⟩ ∉ concourse.transcript)
    (action : Action σ) (reservation : Reservation) :
    ⟨.putReservation reservation, false⟩ ∉ (concourse.step action).transcript := by
  cases action with
  | go caller =>
    simp only [Concourse.step, Concourse.go]
    split
    · exact clean reservation
    · rename_i call present
      intro member
      rcases List.mem_append.mp member with old | new
      · exact clean reservation old
      · exact regular.put_opens orderly (List.mem_of_getElem? present) reservation
          (Option.mem_toList.mp new)
  | follow =>
    simp only [Concourse.step, Concourse.follow]
    split <;> exact clean reservation
  | _ => exact clean reservation

end Concourse

/-- Whatever has happened, no reservation was turned away from the store. -/
theorem Opening.transcript_after (opening : Opening σ γ)
    (fresh : Gateway.NeverRepeats opening.gateway) (actions : List (Action σ)) :
    ∀ reservation, ⟨.putReservation reservation, false⟩ ∉ (opening.after actions).transcript := by
  refine opening.after_induction (fun concourse =>
    ∀ reservation, ⟨.putReservation reservation, false⟩ ∉ concourse.transcript) ?_ ?_ actions
  · intro reservation
    exact List.not_mem_nil
  · intro actions action clean reservation
    have regular := opening.after_regular actions
    exact regular.transcript (opening.inOrder_after fresh actions) clean action reservation

/-- A call that is over is left with what it ended with. -/
theorem Call.eq_done_of_isOver {call : Call} (finished : call.isOver = true) :
    (∃ result, call = .purchase (.done result)) ∨
      (∃ id result, call = .settlement id (.done result)) ∨
      (∃ id result, call = .release id (.done result)) ∨
      ∃ id result, call = .timer id (.done result) := by
  cases call with
  | purchase program =>
    cases program with
    | ask question next => contradiction
    | done result => exact .inl ⟨result, rfl⟩
  | settlement id program =>
    cases program with
    | ask question next => contradiction
    | done result => exact .inr (.inl ⟨id, result, rfl⟩)
  | release id program =>
    cases program with
    | ask question next => contradiction
    | done result => exact .inr (.inr (.inl ⟨id, result, rfl⟩))
  | timer id program =>
    cases program with
    | ask question next => contradiction
    | done result => exact .inr (.inr (.inr ⟨id, result, rfl⟩))

/-- A call that is over holds nothing. -/
theorem Call.holding?_of_isOver {call : Call} (finished : call.isOver = true) :
    call.phase.holding? = none := by
  rcases call.eq_done_of_isOver finished with
    ⟨result, rfl⟩ | ⟨id, result, rfl⟩ | ⟨id, result, rfl⟩ | ⟨id, result, rfl⟩
  · cases result <;> rfl
  · rcases result with abort | (tickets | tickets | _) <;> rfl
  · rcases result with abort | (tickets | _ | _) <;> rfl
  · rcases result with abort | (tickets | _ | _) <;> rfl

omit [Ledger σ] [Bookkeeping σ] [Gateway γ] in
/-- When no call is running, all that is held is in the store. -/
theorem Concourse.live_of_over {concourse : Concourse σ γ}
    (finished : ∀ call ∈ concourse.calls, call.isOver = true) :
    concourse.live = concourse.engine.store.values.map (·.holding) := by
  have none : concourse.inHand = [] :=
    List.filterMap_eq_nil_iff.mpr fun call member => Call.holding?_of_isOver (finished call member)
  rw [live, none, List.append_nil, stored]

/-- No hold and no use of a code is ever lost or left behind if the gateway never repeats a number.
Whatever has happened, holdings have different numbers, and a ticket is pending if and only if it
belongs to one of them and to no other; nobody has paid for what is held; the uses of codes are
those of the holds that were made with a discount and are still held or have been paid for; no
reservation was ever turned away from the store; and when no call is running, the pending tickets
are those of the reservations in the store. -/
theorem Opening.nothing_lost (opening : Opening σ γ)
    (fresh : Gateway.NeverRepeats opening.gateway) (actions : List (Action σ)) :
    ((opening.after actions).live.map (·.id)).Nodup ∧
      (∀ ticket, (opening.after actions).books.ticketStatus? ticket = some .pending ↔
        ∃! holding, holding ∈ (opening.after actions).live ∧ ticket ∈ holding.tickets) ∧
      (∀ holding ∈ (opening.after actions).live,
        (opening.after actions).books.paymentExists holding.id = false) ∧
      (∀ code id, ⟨code, id⟩ ∈ (opening.after actions).books.uses ↔
        ∃ hold ∈ (opening.after actions).holds, hold.id = id ∧
          hold.discount.map (·.referral) = some code ∧
            (id ∈ (opening.after actions).live.map (·.id) ∨
              (opening.after actions).books.paymentExists id = true)) ∧
      (∀ reservation,
        ⟨.putReservation reservation, false⟩ ∉ (opening.after actions).transcript) ∧
      ((∀ call ∈ (opening.after actions).calls, call.isOver = true) →
        ((opening.after actions).books.idsOf .pending).Perm
          ((opening.after actions).engine.store.values.flatMap (·.tickets))) := by
  have order := (opening.inOrder_after fresh actions).order
  rw [Concourse.live_scene, Concourse.consumptions_scene] at order
  have numbered := (List.nodup_append.mp order.ids_nodup).1
  have shelved : (∀ call ∈ (opening.after actions).calls, call.isOver = true) →
      ((opening.after actions).books.idsOf .pending).Perm
        ((opening.after actions).engine.store.values.flatMap (·.tickets)) := by
    intro finished
    have pending := order.pending.symm
    rw [Concourse.live_of_over finished, List.flatMap_map] at pending
    exact pending
  exact ⟨numbered, order.pending_iff, fun holding held => order.unpaid_of_mem held,
    order.uses_iff, opening.transcript_after fresh actions, shelved⟩

namespace Matinee

/-- The event. -/
def event : Uuid := .ofNat 9

/-- The ticket that is on sale. -/
def ticket : Ticket := ⟨.ofNat 1, event, "A", 100, .available, "A1"⟩

/-- A bill with a number. -/
def bill (number : Int64) : Bill :=
  ⟨number, "", "A", "SINGLE", 100, none, none, none, .null, .null, .null, .null⟩

/-- An opening with one ticket and a gateway that has two bills ready. -/
def opening : Opening MemoryLedger ScriptedGateway where
  ledger := .ofBooks ⟨[ticket], [], [], [], []⟩ []
  gateway := ⟨[.ok (bill 7), .ok (bill 8)]⟩
  now := .ofMilliseconds 0
  delay := 10
  faithful := trivial
  available _ member := by rw [List.mem_singleton.mp member]; rfl
  distinct := List.nodup_singleton _
  unused := rfl
  unpaid := rfl
  unattended := rfl

/-- The bills have different numbers. -/
theorem neverRepeats : Gateway.NeverRepeats opening.gateway :=
  ScriptedGateway.neverRepeats (by decide)

/-- Someone buys the ticket, and the purchase takes so many turns. -/
def purchase (turns : Nat) : List (Action MemoryLedger) :=
  .buy ⟨0, 30, ""⟩ event ⟨"A", 1, none, [.empty]⟩ :: List.replicate turns (.go 0)

end Matinee

/-- While someone holds a ticket before the reservation is opened, nothing is lost. -/
theorem Opening.nothing_lost_matinee :
    (Matinee.opening.after (Matinee.purchase 2)).live = [⟨⟨7⟩, [Matinee.ticket.id]⟩] ∧
      (Matinee.opening.after (Matinee.purchase 2)).stored = [] ∧
      ∃! holding, holding ∈ (Matinee.opening.after (Matinee.purchase 2)).live ∧
        Matinee.ticket.id ∈ holding.tickets := by
  obtain ⟨-, pending, -⟩ := Matinee.opening.nothing_lost Matinee.neverRepeats (Matinee.purchase 2)
  refine ⟨by decide, by decide, (pending Matinee.ticket.id).mp (by decide)⟩

end BoxOffice
