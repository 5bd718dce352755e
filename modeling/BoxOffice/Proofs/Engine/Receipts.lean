import BoxOffice.Proofs.Concourse.Sales
import BoxOffice.Proofs.Engine.Reach

/-!
# What receipts vouch for

Each buyer gets a receipt. Whatever happens at an engine with a ledger in memory, a reservation that
is open is that of a receipt, with the tickets of the receipt and a visitor for each, and what is on
record of uses and payments goes by the numbers of receipts. Where no two receipts have one number,
nobody has paid for a reservation that is open: a payment closes the reservation for good.
-/
namespace BoxOffice

/-- The number of the bill of a receipt. -/
def Receipt.id (receipt : Receipt) : TrackingId := receipt.bill.trackingId

/-- Whether a reservation is that of a receipt, for as many tickets as were asked for and with a
visitor for each. -/
structure Receipt.Covers (receipt : Receipt) (reservation : Reservation) : Prop where
  /-- They are of one bill. -/
  id : reservation.id = receipt.id
  /-- The tickets are the same. -/
  tickets : reservation.tickets = receipt.tickets
  /-- The tickets are as many as asked for. -/
  count : (receipt.tickets.length : Int) = receipt.amount.toInt
  /-- There is a visitor for each ticket. -/
  visitors : reservation.visitors.length = receipt.tickets.length

/-- Whether receipts vouch for what is on record and for the reservations that are open. -/
structure Vouched (receipts : List Receipt) (books : Books)
    (store : Register TrackingId Reservation) : Prop where
  /-- An open reservation is that of a receipt. -/
  opened : ∀ id reservation, store.get? id = some reservation →
    ∃ receipt ∈ receipts, receipt.id = id ∧ receipt.Covers reservation
  /-- The use of a code is on record under the number of a receipt. -/
  used : books.uses.map (·.id) ⊆ receipts.map (·.id)
  /-- A payment is on record under the number of a receipt. -/
  paid : books.payments.map (·.id) ⊆ receipts.map (·.id)
  /-- Nobody has paid for an open reservation, if no two receipts have one number. -/
  unpaid : (receipts.map (·.id)).Nodup → ∀ id reservation, store.get? id = some reservation →
    books.paymentExists id = false

namespace Vouched

variable {receipts : List Receipt} {books after : Books}
  {store later : Register TrackingId Reservation}

/-- Receipts vouch for less: reservations that are gone, uses that were returned, and payments for
reservations that are gone. -/
theorem shrink (vouched : Vouched receipts books store)
    (fewer : ∀ id reservation, later.get? id = some reservation →
      store.get? id = some reservation)
    (uses : after.uses.map (·.id) ⊆ books.uses.map (·.id))
    (payments : ∀ id ∈ after.payments.map (·.id), id ∈ books.payments.map (·.id) ∨
      id ∈ receipts.map (·.id) ∧ later.get? id = none) : Vouched receipts after later := by
  refine ⟨?_, fun id member => vouched.used (uses member), fun id member => ?_, ?_⟩
  · intro id reservation found
    exact vouched.opened id reservation (fewer id reservation found)
  · rcases payments id member with old | ⟨listed, -⟩
    · exact vouched.paid old
    · exact listed
  · intro once id reservation found
    have unpaid := vouched.unpaid once id reservation (fewer id reservation found)
    rw [Bool.eq_false_iff, ne_eq, Books.paymentExists_iff] at unpaid ⊢
    intro member
    rcases payments id member with old | ⟨-, gone⟩
    · exact unpaid old
    · rw [gone] at found
      contradiction

/-- Receipts vouch for a reservation that is opened, if its receipt is one of them. -/
theorem add (vouched : Vouched receipts books store) {receipt : Receipt} {reservation : Reservation}
    (covers : receipt.Covers reservation)
    (uses : after.uses.map (·.id) ⊆ receipt.id :: books.uses.map (·.id))
    (payments : after.payments = books.payments) :
    Vouched (receipts ++ [receipt]) after (store.insert receipt.id reservation) := by
  have listed : (receipts ++ [receipt]).map (·.id) = receipts.map (·.id) ++ [receipt.id] :=
    List.map_append
  refine ⟨fun id other found => ?_, fun id member => ?_, ?_, fun once id other found => ?_⟩
  · rcases Register.get?_insert_eq_some.mp found with ⟨own, rfl⟩ | ⟨-, old⟩
    · exact ⟨receipt, List.mem_append_right _ List.mem_cons_self, own.symm, covers⟩
    · obtain ⟨former, given, its⟩ := vouched.opened id other old
      exact ⟨former, List.mem_append_left _ given, its⟩
  · rw [listed]
    rcases List.mem_cons.mp (uses member) with rfl | old
    · exact List.mem_append_right _ List.mem_cons_self
    · exact List.mem_append_left _ (vouched.used old)
  · rw [listed, payments]
    exact fun id member => List.mem_append_left _ (vouched.paid member)
  · rw [listed] at once
    obtain ⟨others, -, apart⟩ := List.nodup_append.mp once
    rw [Books.paymentExists_congr payments]
    rcases Register.get?_insert_eq_some.mp found with ⟨rfl, -⟩ | ⟨-, old⟩
    · rw [Bool.eq_false_iff, ne_eq, Books.paymentExists_iff]
      intro member
      exact apart _ (vouched.paid member) _ List.mem_cons_self rfl
    · exact vouched.unpaid others id other old

/-- Receipts go on to vouch for the same when there are more of them. -/
theorem congr (vouched : Vouched receipts books store) (uses : after.uses = books.uses)
    (payments : after.payments = books.payments) : Vouched receipts after store := by
  refine vouched.shrink (fun _ _ found => found) ?_ fun id member => .inl ?_
  · rw [uses]
    exact List.Subset.refl _
  · rw [← payments]
    exact member

end Vouched

/-- A returned use is off the record, and no other comes on it. -/
theorem Books.freed_uses (books : Books) (tickets : List Uuid) (id : TrackingId) :
    (books.freed tickets id).uses.Sublist books.uses := by
  show ((books.withStatus tickets .pending .available).withoutUse id).uses.Sublist books.uses
  unfold Books.withoutUse
  split
  · exact .refl _
  · exact List.eraseP_sublist

namespace Engine

variable {γ : Type} {engine later : Engine MemoryLedger γ} {receipts : List Receipt}

/-- Receipts vouch for what a clearing leaves. -/
theorem Clears.vouched {id : TrackingId} {books : Books} {store : Register TrackingId Reservation}
    (clears : engine.Clears id books store) (tidy : engine.IsTidy)
    (vouched : Vouched receipts engine.desk.books engine.store) :
    Vouched receipts books store := by
  have fewer : ∀ other reservation, (engine.store.erase id).get? other = some reservation →
      engine.store.get? other = some reservation := fun other reservation found =>
    (Register.get?_erase_eq_some.mp found).2
  cases clears with
  | kept same open_ =>
    rw [same, open_]
    exact vouched
  | forgotten reservation found same taken =>
    rw [same, taken]
    exact vouched.shrink fewer (List.Subset.refl _) fun number member => .inl member
  | released reservation found freed taken =>
    obtain ⟨-, payments, -⟩ := engine.desk.books.freed_frame reservation.tickets reservation.id
    have uses := engine.desk.books.freed_uses reservation.tickets reservation.id
    rw [freed, taken]
    refine vouched.shrink fewer (uses.map _).subset fun number member => .inl ?_
    rw [payments] at member
    exact member
  | sold reservation found sold taken =>
    have named := tidy.keyed id reservation found
    rw [taken]
    refine vouched.shrink fewer ?_ fun number member => ?_
    · rw [sold.uses]
      exact List.Subset.refl _
    · rw [sold.payments, List.mem_append, List.mem_singleton, named] at member
      rcases member with old | rfl
      · exact .inl old
      · obtain ⟨receipt, given, own, -⟩ := vouched.opened number reservation found
        exact .inr ⟨List.mem_map.mpr ⟨receipt, given, own⟩, Register.get?_erase_self _ _⟩

/-- Whether an engine is sound, and receipts vouch for what is on record and for the reservations
that are open. -/
structure IsVouchedFor (receipts : List Receipt) (engine : Engine MemoryLedger γ) : Prop where
  /-- It is sound. -/
  sound : engine.IsSound
  /-- Receipts vouch for what is there. -/
  vouched : Vouched receipts engine.desk.books engine.store

namespace IsVouchedFor

/-- Receipts vouch for an engine with the same books and store as well. -/
theorem congr (vouched : engine.IsVouchedFor receipts)
    (books : later.desk.books = engine.desk.books) (store : later.store = engine.store) :
    later.IsVouchedFor receipts := by
  refine ⟨vouched.sound.congr books store, ?_⟩
  rw [books, store]
  exact vouched.vouched

variable [Gateway γ]

/-- Receipts vouch for what a clearing leaves at an engine. -/
theorem run_clearing (vouched : engine.IsVouchedFor receipts) (clearing : Clearing) :
    (engine.run clearing.program).2.IsVouchedFor receipts := by
  have tidy := vouched.sound.tidy
  refine ⟨vouched.sound.run_clearing clearing, ?_⟩
  rw [tidy.run_clearing clearing]
  exact (engine.clears clearing).vouched tidy vouched.vouched

/-- Receipts vouch for what is there when an engine has come to rest. -/
theorem rest (vouched : engine.IsVouchedFor receipts) : engine.rest.IsVouchedFor receipts := by
  refine rest_induction (fun engine id vouched => ?_)
    (fun _ _ _ vouched => vouched.congr rfl rfl) vouched
  rw [run_fire]
  exact vouched.run_clearing (.expire id)

/-- Receipts vouch for what is there when time has passed. -/
theorem advanceTo (vouched : engine.IsVouchedFor receipts) (target stops : Nat) :
    (engine.advanceTo target stops).IsVouchedFor receipts := by
  apply advanceTo_induction ?_ target stops vouched
  intro engine clock vouched
  have clocked : IsVouchedFor receipts { engine with clock } := vouched.congr rfl rfl
  exact clocked.rest

/-- Receipts vouch for what a purchase leaves, with the receipt of that purchase, if there is one.
-/
theorem run_buy (vouched : engine.IsVouchedFor receipts) (settings : CheckoutSettings)
    (event : Uuid) (request : PurchaseRequest) :
    let bought := engine.run (Checkout.buy settings event request)
    bought.2.IsVouchedFor (receipts ++ bought.1.toOption.toList) := by
  have sound := vouched.sound.run_buy settings event request
  have purchased := vouched.sound.run_purchase settings event request
  refine ⟨sound, ?_⟩
  generalize engine.run (Checkout.buy settings event request) = ran at *
  cases purchased with
  | failed abort desk same =>
    have still : Vouched receipts desk.books engine.store := by
      rw [same]
      exact vouched.vouched
    show Vouched (receipts ++ []) desk.books engine.store
    rw [List.append_nil]
    exact still
  | bought hold desk checked serves held redeemed absent =>
    have count : ((hold.tickets.map (·.id)).length : Int) = request.amount.toInt := by
      rw [List.length_map]
      exact serves.count
    have visitors : request.visitors.length = (hold.tickets.map (·.id)).length :=
      Int.ofNat.inj ((Checkout.visitors_of_check checked).trans count.symm)
    have covers : (Checkout.receiptOf event request hold).Covers
        (Checkout.reservationOf event request hold desk.now) := ⟨rfl, rfl, count, visitors⟩
    refine vouched.vouched.add covers ?_ held.payments
    rw [held.uses, List.map_append]
    intro id member
    rcases List.mem_append.mp member with old | new
    · exact List.mem_cons_of_mem _ old
    · obtain ⟨use, used, rfl⟩ := List.mem_map.mp new
      have own := hold.id_of_use (Option.mem_toList.mp used)
      exact own ▸ List.mem_cons_self

end IsVouchedFor

variable [Gateway γ]

/-- The receipts that are given out in a step. -/
def receiptsOf (engine : Engine MemoryLedger γ) : Step → List Receipt
  | .buy settings event request => (engine.buy settings event request).1.toOption.toList
  | .stock .. | .issue _ | .settle _ | .pass _ => []

/-- Whether an engine can be come to, one thing after the other, with some receipts given out on the
way, the oldest first. -/
inductive ReachedWith : Engine MemoryLedger γ → List Receipt → Prop where
  /-- An engine with a ledger that has nothing on record. -/
  | start (gateway : γ) (now : Instant) (delay : Nat) :
    ReachedWith (.start (.ofBooks .empty []) gateway now delay) []
  /-- Something happens. -/
  | step {engine : Engine MemoryLedger γ} {receipts : List Receipt}
    (reached : ReachedWith engine receipts) (step : Step) (admits : engine.Admits step) :
    ReachedWith (engine.step step) (receipts ++ engine.receiptsOf step)
  /-- A reservation is released on demand. -/
  | reap {engine : Engine MemoryLedger γ} {receipts : List Receipt}
    (reached : ReachedWith engine receipts) (id : TrackingId) :
    ReachedWith (engine.reap id).2 receipts
  /-- The reaper is told something. -/
  | tell {engine : Engine MemoryLedger γ} {receipts : List Receipt}
    (reached : ReachedWith engine receipts) (order : Reaper.Command) :
    ReachedWith (engine.command order).rest receipts
  /-- The ledger is made to fail at other places, gateway and post are replaced by others, and the
  clock is set. -/
  | arrange {engine : Engine MemoryLedger γ} {receipts : List Receipt}
    (reached : ReachedWith engine receipts) (failing : List FailPoint) (gateway : γ)
    (now : Instant) (acceptsMail : Bool) :
    ReachedWith { engine with
      desk := ⟨{ engine.desk.ledger with failing }, gateway, now⟩
      acceptsMail } receipts

/-- What can be come to with some receipts can be come to. -/
theorem ReachedWith.reached (reached : engine.ReachedWith receipts) : engine.Reached := by
  induction reached with
  | start gateway now delay => exact .start gateway now delay
  | step reached step admits ih => exact ih.step step admits
  | reap reached id ih => exact ih.reap id
  | tell reached order ih => exact ih.tell order
  | arrange reached failing gateway now acceptsMail ih =>
    exact ih.arrange failing gateway now acceptsMail

/-- Whatever can be come to can be come to with some receipts. -/
theorem Reached.with (reached : engine.Reached) : ∃ receipts, engine.ReachedWith receipts := by
  induction reached with
  | start gateway now delay => exact ⟨[], .start gateway now delay⟩
  | step reached step admits ih =>
    obtain ⟨receipts, ih⟩ := ih
    exact ⟨_, ih.step step admits⟩
  | reap reached id ih =>
    obtain ⟨receipts, ih⟩ := ih
    exact ⟨receipts, ih.reap id⟩
  | tell reached order ih =>
    obtain ⟨receipts, ih⟩ := ih
    exact ⟨receipts, ih.tell order⟩
  | arrange reached failing gateway now acceptsMail ih =>
    obtain ⟨receipts, ih⟩ := ih
    exact ⟨receipts, ih.arrange failing gateway now acceptsMail⟩

/-- A step that can happen leaves receipts to vouch for what is there. -/
theorem IsVouchedFor.step (vouched : engine.IsVouchedFor receipts) (idle : engine.IsIdle)
    (step : Step) (admits : engine.Admits step) :
    (engine.step step).IsVouchedFor (receipts ++ engine.receiptsOf step) := by
  obtain ⟨sound, -⟩ := vouched.sound.step idle step admits
  cases step with
  | stock event name price made =>
    rw [receiptsOf, List.append_nil]
    exact ⟨sound, vouched.vouched.congr rfl rfl⟩
  | issue referral =>
    rw [receiptsOf, List.append_nil]
    exact ⟨sound, vouched.vouched.congr rfl rfl⟩
  | buy settings event request => exact (vouched.run_buy settings event request).rest
  | settle notification =>
    rw [receiptsOf, List.append_nil]
    exact (vouched.run_clearing (.settle notification)).rest
  | pass milliseconds =>
    rw [receiptsOf, List.append_nil]
    have passed := vouched.advanceTo (engine.clock + milliseconds) (milliseconds + 1)
    exact passed.congr rfl rfl

/-- Whatever has happened, the receipts that were given out vouch for what is there. -/
theorem ReachedWith.vouched (reached : engine.ReachedWith receipts) :
    engine.IsVouchedFor receipts := by
  induction reached with
  | start gateway now delay =>
    have sound := (Reached.start gateway now delay).sound_idle.1
    exact ⟨sound, ⟨nofun, List.Subset.refl _, List.Subset.refl _, nofun⟩⟩
  | step reached step admits ih => exact ih.step reached.reached.sound_idle.2 step admits
  | reap reached id ih => exact (ih.run_clearing (.reap id)).rest
  | tell reached order ih =>
    have told : (Engine.command order _).IsVouchedFor _ := ih.congr rfl rfl
    exact told.rest
  | arrange reached failing gateway now acceptsMail ih => exact ih.congr rfl rfl

end Engine

end BoxOffice
