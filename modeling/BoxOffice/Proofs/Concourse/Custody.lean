import BoxOffice.Proofs.Concourse.Scene
import Mathlib.Data.List.Perm.Subperm

/-!
# Custody of tickets

A ticket that is held is held once, and is pending; a ticket that is sold has one visitor, and stays
sold. This is so whatever the gateway numbers its bills, whatever fails, and in whatever order the
calls take their turns.
-/
namespace BoxOffice

/-- Who has the tickets: those that are held are different pending ones, those that are sold are
those with a visitor, and none is lost or new. -/
structure Custody (stock : List Ticket) (books : Books) (live : List Holding) : Prop where
  /-- No two tickets have the same identifier. -/
  distinct : books.ticketIds.Nodup
  /-- Held tickets are pending, each once. -/
  held : (live.flatMap (·.tickets)).Subperm (books.idsOf .pending)
  /-- Sold tickets have one visitor each. -/
  attended : (books.attendances.map (·.ticket)).Perm (books.idsOf .sold)
  /-- The tickets are those there were. -/
  stocked : books.stock = stock

namespace Custody

variable {stock : List Ticket} {books after : Books} {live later : List Holding}
  {holding : Holding}

/-- Custody does not depend on the order of what is held. -/
theorem of_perm (custody : Custody stock books live) (same : live.Perm later) :
    Custody stock books later :=
  { custody with held := (same.flatMap_right _).symm.subperm.trans custody.held }

/-- Tickets that nobody holds any more do no harm. -/
theorem drop (custody : Custody stock books (holding :: live)) : Custody stock books live :=
  { custody with held := (List.sublist_append_right _ _).subperm.trans custody.held }

/-- No ticket is held twice. -/
theorem held_nodup (custody : Custody stock books live) :
    (live.flatMap (·.tickets)).Nodup := by
  have pending : (books.idsOf .pending).Nodup := Books.idsOf_nodup custody.distinct
  obtain ⟨listed, same, within⟩ := custody.held
  exact same.nodup_iff.mp (pending.sublist within)

/-- What is held is held once and pending. -/
theorem owned (custody : Custody stock books (holding :: live)) :
    holding.tickets.Nodup ∧ holding.tickets ⊆ books.idsOf .pending := by
  have once := custody.held_nodup
  rw [List.flatMap_cons] at once
  refine ⟨(List.nodup_append.mp once).1, fun ticket member => ?_⟩
  exact custody.held.subset (List.mem_append_left _ member)

/-- Tickets that are held for the first time come into custody. -/
theorem hold {hold : Hold} (custody : Custody stock books live)
    (held : books.Held hold after) : Custody stock after (hold.holding :: live) := by
  have separate := (Books.idsOf_nodup custody.distinct).sublist held.offered
  have owned := held.offered.subset
  have ids : after.idsOf = (books.withStatus hold.ticketIds .available .pending).idsOf :=
    Books.idsOf_congr held.tickets
  constructor
  · rw [Books.ticketIds_congr held.tickets, Books.withStatus_ticketIds]
    exact custody.distinct
  · rw [ids]
    have joined := Books.idsOf_next .pending custody.distinct separate owned (by decide)
    refine List.Subperm.trans ?_ joined.symm.subperm
    exact (List.subperm_append_left _).mpr custody.held
  · rw [ids, held.attendances]
    exact custody.attended.trans
      (Books.idsOf_other .pending .sold custody.distinct owned (by decide) (by decide)).symm
  · rw [Books.stock_congr held.tickets, Books.withStatus_stock, custody.stocked]

/-- Tickets that become available again are in nobody's custody. -/
theorem free (custody : Custody stock books (holding :: live))
    (tickets : after.tickets = (books.withStatus holding.tickets .pending .available).tickets)
    (attendances : after.attendances = books.attendances) : Custody stock after live := by
  obtain ⟨separate, owned⟩ := custody.owned
  have ids : after.idsOf = (books.withStatus holding.tickets .pending .available).idsOf :=
    Books.idsOf_congr tickets
  constructor
  · rw [Books.ticketIds_congr tickets, Books.withStatus_ticketIds]
    exact custody.distinct
  · rw [ids]
    have left := Books.idsOf_current .available custody.distinct separate owned (by decide)
    exact (List.subperm_append_left _).mp (custody.held.trans left.subperm)
  · rw [ids, attendances]
    exact custody.attended.trans
      (Books.idsOf_other .available .sold custody.distinct owned (by decide) (by decide)).symm
  · rw [Books.stock_congr tickets, Books.withStatus_stock, custody.stocked]

/-- Tickets that are sold have visitors from then on. -/
theorem sell {reservation : Reservation}
    (custody : Custody stock books (reservation.holding :: live))
    (sold : books.Sold reservation after) : Custody stock after live := by
  obtain ⟨separate, owned⟩ := custody.owned
  have ids : after.idsOf = (books.withStatus reservation.tickets .pending .sold).idsOf :=
    Books.idsOf_congr sold.tickets
  constructor
  · rw [Books.ticketIds_congr sold.tickets, Books.withStatus_ticketIds]
    exact custody.distinct
  · rw [ids]
    have left := Books.idsOf_current .sold custody.distinct separate owned (by decide)
    exact (List.subperm_append_left _).mp (custody.held.trans left.subperm)
  · rw [ids, sold.attendances]
    have joined := Books.idsOf_next .sold custody.distinct separate owned (by decide)
    refine (custody.attended.append_right _).trans (List.perm_append_comm.trans ?_)
    exact joined.symm
  · rw [Books.stock_congr sold.tickets, Books.withStatus_stock, custody.stocked]

/-- Each move of a call keeps custody. -/
theorem turn {γ : Type} [Gateway γ] {standing later : Standing γ} {role : Role}
    {phase next : Phase} {before rest : List (Role × Phase)}
    (custody : Custody stock standing.books
      (Scene.mk standing (before ++ (role, phase) :: rest)).live)
    (move : Move role standing phase later next) :
    Custody stock later.books (Scene.mk later (before ++ (role, next) :: rest)).live := by
  have was := custody.of_perm (Scene.live_turn standing before rest role phase)
  refine of_perm ?_ (Scene.live_turn later before rest role next).symm
  cases move with
  | rest => exact was
  | hold buyer held billed => exact was.hold held
  | put absent =>
    rw [Role.holding?_afterPut]
    exact was.of_perm ((Standing.stored_put absent).append_right _).symm
  | decline => exact was
  | turnAway =>
    rw [Role.holding?_afterTurnAway]
    exact was.drop
  | undo isRedeemed =>
    obtain ⟨tickets, -, attendances⟩ := standing.books.undone_frame isRedeemed _ _
    exact was.free tickets attendances
  | abandon => exact was.drop
  | lapse => exact was
  | falter =>
    rw [Role.holding?_afterPut]
    exact was
  | take taker present => exact was.of_perm ((Standing.stored_take present).append_right _)
  | sell taker sold => exact was.sell sold
  | recur => exact was.drop
  | release =>
    obtain ⟨tickets, -, attendances⟩ := standing.books.freed_frame _ _
    exact was.free tickets attendances
  | schedule =>
    rw [Role.holding?_afterArming]
    exact was
  | resolve => exact was
  | forget => exact was

/-- Custody is kept from one scene to the next. -/
theorem next {γ : Type} [Gateway γ] {scene after : Scene γ}
    (custody : Custody stock scene.standing.books scene.live) (follows : scene.Next after) :
    Custody stock after.standing.books after.live := by
  cases follows with
  | stay => exact custody
  | turn before rest move => exact custody.turn move
  | buy standing cast =>
    rw [Scene.live_append (by simp [Phase.holding?])]
    exact custody
  | seek standing cast id taker =>
    rw [Scene.live_append (by simp [Phase.holding?])]
    exact custody
  | follow => exact custody
  | wake standing cast now =>
    rw [Scene.live_append (by simp [Phase.holding?])]
    exact custody

end Custody

/-- Nobody who is to come is struck off. -/
theorem Scene.Next.attendances {γ : Type} [Gateway γ] {scene after : Scene γ}
    (follows : scene.Next after) :
    scene.standing.books.attendances.map (·.ticket) <+:
      after.standing.books.attendances.map (·.ticket) := by
  cases follows with
  | turn before rest move =>
    cases move with
    | hold buyer held => simp only [held.attendances, List.prefix_rfl]
    | undo isRedeemed => simp only [(Books.undone_frame _ isRedeemed _ _).2.2, List.prefix_rfl]
    | sell taker sold =>
      rw [sold.attendances]
      exact List.prefix_append _ _
    | release => simp only [(Books.freed_frame _ _ _).2.2, List.prefix_rfl]
    | _ => exact List.prefix_rfl
  | _ => exact List.prefix_rfl

variable {σ γ : Type} [Ledger σ] [Bookkeeping σ] [Gateway γ]

omit [Gateway γ] in
/-- At first nobody holds anything, and nobody is to come. -/
theorem Opening.custody (opening : Opening σ γ) :
    Custody (Bookkeeping.books opening.ledger).stock opening.concourse.scene.standing.books
      opening.concourse.scene.live := by
  constructor
  · exact opening.distinct
  · exact List.nil_subperm
  · have none : (Bookkeeping.books opening.ledger).idsOf .sold = [] :=
      Books.idsOf_eq_nil opening.available (by decide)
    have nobody := opening.unattended
    simp only [Concourse.scene, Opening.concourse, Engine.standing, Engine.start, none, nobody]
    exact .refl _
  · rfl

/-- Whatever has happened, tickets are in custody. -/
theorem Opening.custody_after (opening : Opening σ γ) (actions : List (Action σ)) :
    Custody (Bookkeeping.books opening.ledger).stock (opening.after actions).books
      (opening.after actions).live := by
  have kept := opening.invariant (fun _ _ custody follows => Custody.next custody follows)
    opening.custody actions
  rw [Concourse.live_scene] at kept
  exact kept

/-- Those who are to come are those with a ticket that is sold. -/
theorem Opening.attended_iff (opening : Opening σ γ) (actions : List (Action σ)) (ticket : Uuid) :
    ticket ∈ (opening.after actions).books.attendances.map (·.ticket) ↔
      (opening.after actions).books.ticketStatus? ticket = some .sold := by
  have custody := opening.custody_after actions
  rw [Books.ticketStatus?_eq_some custody.distinct]
  exact custody.attended.mem_iff

/-- Tickets are never sold over. Whatever has happened, no ticket is held twice, and those that are
held are pending; no ticket has two visitors, and those with a visitor are the ones sold; a ticket
that is sold stays so; and none is lost or new. -/
theorem Opening.no_oversell (opening : Opening σ γ) (actions more : List (Action σ)) :
    ((opening.after actions).live.flatMap (·.tickets)).Nodup ∧
      (∀ holding ∈ (opening.after actions).live, ∀ ticket ∈ holding.tickets,
        (opening.after actions).books.ticketStatus? ticket = some .pending) ∧
      ((opening.after actions).books.attendances.map (·.ticket)).Nodup ∧
      (∀ ticket, ticket ∈ (opening.after actions).books.attendances.map (·.ticket) ↔
        (opening.after actions).books.ticketStatus? ticket = some .sold) ∧
      (∀ ticket, (opening.after actions).books.ticketStatus? ticket = some .sold →
        (opening.after (actions ++ more)).books.ticketStatus? ticket = some .sold) ∧
      (opening.after actions).books.stock = (Bookkeeping.books opening.ledger).stock := by
  have custody := opening.custody_after actions
  have pending : ∀ holding ∈ (opening.after actions).live, ∀ ticket ∈ holding.tickets,
      (opening.after actions).books.ticketStatus? ticket = some .pending := by
    intro holding held ticket member
    rw [Books.ticketStatus?_eq_some custody.distinct]
    exact custody.held.subset (List.mem_flatMap.mpr ⟨holding, held, member⟩)
  have once : ((opening.after actions).books.attendances.map (·.ticket)).Nodup :=
    custody.attended.nodup_iff.mpr (Books.idsOf_nodup custody.distinct)
  have lasting : ∀ ticket, (opening.after actions).books.ticketStatus? ticket = some .sold →
      (opening.after (actions ++ more)).books.ticketStatus? ticket = some .sold := by
    intro ticket sold
    rw [← opening.attended_iff] at sold ⊢
    have grows := ((opening.after_regular actions).run
      (fun _ _ longer follows => List.IsPrefix.trans longer (Scene.Next.attendances follows))
      List.prefix_rfl more).2
    rw [opening.after_append]
    exact grows.subset sold
  exact ⟨custody.held_nodup, pending, once, opening.attended_iff actions, lasting,
    custody.stocked⟩

end BoxOffice
