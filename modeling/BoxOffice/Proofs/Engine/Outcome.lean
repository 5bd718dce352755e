import BoxOffice.Proofs.Engine.Failure
import BoxOffice.Proofs.Engine.Receipts

/-!
# How clearings end

At an engine whose gateway has never given one number to two receipts, and whose ledger in memory is
not made to fail, a clearing of an open reservation does not fail of itself. Its tickets are all
pending and nobody has paid for them, so as many are sold or released as were held; each has a
visitor, who is the first. What comes of a clearing can so be told beforehand from what is open and
what has been paid for.
-/
namespace BoxOffice

namespace Engine

variable {γ : Type}

/-- What is to come of a settlement: all tickets of the open reservation are sold, or all are
released. -/
def expectedSettlement (engine : Engine MemoryLedger γ) (notification : PaymentNotification) :
    SettlementOutcome :=
  match engine.store.get? notification.trackingId with
  | none => .duplicate
  | some reservation =>
    if notification.status = "SUCCESSFUL" then .sold reservation.tickets.length
    else .released reservation.tickets.length

/-- What is to come of a release: all tickets of the open reservation are released. -/
def expectedRelease (engine : Engine MemoryLedger γ) (id : TrackingId) : ReapOutcome :=
  match engine.store.get? id with
  | some reservation => .released reservation.tickets.length
  | none => if engine.desk.books.paymentExists id then .alreadySettled else .alreadyConsumed

variable {engine : Engine MemoryLedger γ} {receipts : List Receipt} {id : TrackingId}
  {reservation : Reservation}

/-- The tickets of an open reservation are pending, each once. -/
theorem IsSound.owned (sound : engine.IsSound) (found : engine.store.get? id = some reservation) :
    reservation.tickets.Nodup ∧ reservation.tickets ⊆ engine.desk.books.idsOf .pending :=
  (sound.custody.of_perm (holdings_of_found found)).owned

/-- All tickets of an open reservation are counted as pending. -/
theorem IsSound.counted (sound : engine.IsSound)
    (found : engine.store.get? id = some reservation) :
    engine.desk.books.countAmong reservation.tickets .pending = reservation.tickets.length := by
  obtain ⟨separate, owned⟩ := sound.owned found
  exact Books.countAmong_eq_length sound.custody.distinct separate owned

/-- No ticket of an open reservation has a visitor yet. -/
theorem IsSound.not_attended (sound : engine.IsSound)
    (found : engine.store.get? id = some reservation) :
    ∀ ticket ∈ reservation.tickets,
      ticket ∉ engine.desk.books.attendances.map (·.ticket) := by
  intro ticket member attended
  have pending : ticket ∈ engine.desk.books.idsOf .pending := (sound.owned found).2 member
  have sold : ticket ∈ engine.desk.books.idsOf .sold :=
    sound.custody.attended.mem_iff.mp attended
  have same := Books.status_unique sound.custody.distinct pending sold
  contradiction

variable [Gateway γ]

/-- The tickets of an open reservation can be sold, if receipts of different numbers vouch for it.
-/
theorem IsVouchedFor.perform_sell (vouched : engine.IsVouchedFor receipts)
    (once : (receipts.map (·.id)).Nodup) (smooth : engine.desk.ledger.failing = [])
    (found : engine.store.get? id = some reservation) (notification : PaymentNotification) :
    (engine.desk.perform (.sell reservation notification)).1 =
      .ok (.sold reservation.tickets.length) := by
  have named : reservation.id = id := vouched.sound.tidy.keyed id reservation found
  have unpaid : engine.desk.books.paymentExists reservation.id = false := by
    rw [named]
    exact vouched.vouched.unpaid once id reservation found
  have enough : reservation.tickets.length ≤ reservation.visitors.length := by
    obtain ⟨receipt, -, -, covers⟩ := vouched.vouched.opened id reservation found
    have tickets := congrArg List.length covers.tickets
    have visitors := covers.visitors
    omega
  obtain ⟨separate, -⟩ := vouched.sound.owned found
  exact Desk.perform_sell notification smooth unpaid (vouched.sound.counted found) enough separate
    (vouched.sound.not_attended found)

/-- A settlement comes to the end that is expected. -/
theorem IsVouchedFor.judge_settle (vouched : engine.IsVouchedFor receipts)
    (once : (receipts.map (·.id)).Nodup) (smooth : engine.desk.ledger.failing = [])
    (notification : PaymentNotification) :
    (engine.judge (.settle notification)).1 = .ok (engine.expectedSettlement notification) := by
  show (Clearing.judgeSettlement notification (engine.store.get? notification.trackingId)
    engine.desk).1 = _
  unfold expectedSettlement
  cases found : engine.store.get? notification.trackingId with
  | none => rfl
  | some reservation =>
    simp only [Clearing.judgeSettlement]
    by_cases paid : notification.isPaid = true
    · have successful := notification.isPaid_iff.mp paid
      rw [if_pos paid, if_pos successful]
      exact vouched.perform_sell once smooth found notification
    · have unsuccessful := fun same => paid (notification.isPaid_iff.mpr same)
      have returnable := vouched.sound.regular.returnable
      have released := Desk.perform_release smooth returnable reservation
      rw [if_neg paid, if_neg unsuccessful, released, vouched.sound.counted found]
      rfl

/-- A release comes to the end that is expected. -/
theorem IsVouchedFor.judge_reap (vouched : engine.IsVouchedFor receipts)
    (once : (receipts.map (·.id)).Nodup) (smooth : engine.desk.ledger.failing = [])
    (id : TrackingId) :
    (engine.judge (.reap id)).1 = .ok (engine.expectedRelease id) := by
  show (Clearing.judgeChecked (.ok (engine.desk.books.paymentExists id)) (engine.store.get? id)
    engine.desk).1 = _
  unfold expectedRelease
  cases found : engine.store.get? id with
  | none => cases engine.desk.books.paymentExists id <;> rfl
  | some reservation =>
    have unpaid := vouched.vouched.unpaid once id reservation found
    have returnable := vouched.sound.regular.returnable
    have released := Desk.perform_reclaim smooth returnable reservation
    rw [unpaid]
    simp only [Clearing.judgeChecked]
    rw [released, vouched.sound.counted found]
    rfl

/-- Clearings do not fail of themselves. Whatever has happened at an engine, wherever its ledger in
memory was made to fail before, and if no two receipts have one number and nothing is made to fail
now: a settlement finds no reservation open, or it sells all tickets that were held when it tells of
a payment and releases all of them when it tells of anything else. A release releases all tickets
that were held if the reservation is open, and otherwise tells whether the bill was paid. -/
theorem clearings_succeed (reached : engine.ReachedWith receipts)
    (once : (receipts.map (·.id)).Nodup) (smooth : engine.desk.ledger.failing = []) :
    (∀ notification,
      (engine.settle notification).1 = .ok (engine.expectedSettlement notification)) ∧
    (∀ id, (engine.reap id).1 = .ok (engine.expectedRelease id)) ∧
    ∀ id reservation, engine.store.get? id = some reservation →
      engine.desk.books.paymentExists id = false ∧
        ∃ receipt ∈ receipts, receipt.id = id ∧ receipt.Covers reservation := by
  have vouched := reached.vouched
  have tidy := vouched.sound.tidy
  refine ⟨fun notification => ?_, fun id => ?_, fun id reservation found => ?_⟩
  · have settled := congrArg Prod.fst (tidy.run_settle notification)
    exact settled.trans (vouched.judge_settle once smooth notification)
  · have released := congrArg Prod.fst (tidy.run_reap id)
    exact released.trans (vouched.judge_reap once smooth id)
  · exact ⟨vouched.vouched.unpaid once id reservation found,
      vouched.vouched.opened id reservation found⟩

end Engine

/-- A ticket is held, and what a payment, an expiry and a release will come to is known. -/
theorem Engine.clearings_succeed_matinee :
    (Matinee.doubleSeason.ending.settle Matinee.notification).1 = .ok (.sold 1) ∧
      (Matinee.doubleSeason.ending.reap ⟨7⟩).1 = .ok (.released 1) ∧
        (Matinee.doubleSeason.ending.reap ⟨8⟩).1 = .ok .alreadyConsumed := by
  have opened : Matinee.doubleSeason.beginning.ReachedWith [] := .start _ _ _
  have stocked := opened.step
    (.stock Matinee.event "A" 100 [(.ofNat 1, "A1"), (.ofNat 2, "A2")]) (by decide)
  have issued := stocked.step (.issue Matinee.code) (by decide)
  have bought := issued.step Matinee.buying trivial
  obtain ⟨settles, releases, -⟩ := clearings_succeed bought (by decide) rfl
  exact ⟨(settles Matinee.notification).trans rfl, (releases ⟨7⟩).trans rfl,
    (releases ⟨8⟩).trans rfl⟩

end BoxOffice
