import BoxOffice.Proofs.Concourse.Sales
import BoxOffice.Proofs.Engine.Retry

/-!
# Two ways to release

The tickets of a reservation are released by a notification that does not tell of a payment, and by
a release on demand. The former ends a transaction that fails by rolling it back and the latter
leaves it to be undone, and each puts the reservation back in its own way. Over a ledger in memory,
and for a bill that nobody paid, they come to the same end.
-/
namespace BoxOffice

namespace Clearing

/-- Whether a settlement and a release have come to the same end: both have released so many
tickets, both have found nothing, the ledger has failed both with one fault, or the counter of a
code was at its lowest in both. -/
inductive Agrees : Except Abort SettlementOutcome → Except Abort ReapOutcome → Prop where
  /-- So many tickets are available again. -/
  | released (tickets : Nat) : Agrees (.ok (.released tickets)) (.ok (.released tickets))
  /-- No reservation was open. -/
  | consumed : Agrees (.ok .duplicate) (.ok .alreadyConsumed)
  /-- The ledger has failed. -/
  | failed (fault : Fault) :
    Agrees (.error (.refused (.persistence fault))) (.error (.refused (.persistence fault)))
  /-- The counter of a code was at its lowest. -/
  | overflowed : Agrees (.error (.overflowed .difference)) (.error (.overflowed .difference))

variable {γ : Type} [Gateway γ] {notification : PaymentNotification}

omit [Gateway γ] in
/-- A settlement and a release that agree have both taken the reservation or both left it. -/
theorem Agrees.isTaken {settled : Except Abort SettlementOutcome}
    {released : Except Abort ReapOutcome} (agrees : Agrees settled released)
    (notification : PaymentNotification) (id : TrackingId) :
    isTaken (.settle notification) settled = isTaken (.reap id) released := by
  cases agrees <;> rfl

/-- What comes of a release is the same for whoever asked for it. -/
theorem agrees_of_release (desk : Desk MemoryLedger γ) (reservation : Reservation) :
    Agrees ((desk.perform (.release reservation)).1.map .released)
      ((desk.perform (.release reservation)).1.map .released) := by
  rw [Desk.perform_release_fate]
  split
  · exact .failed _
  · split
    · exact .overflowed
    · split
      · exact .failed _
      · exact .released _

/-- At the desk a notification that does not tell of a payment comes to the same end as a release on
demand, if nobody paid the bill. -/
theorem judgeRelease_agrees {id : TrackingId} {desk : Desk MemoryLedger γ}
    (other : notification.isPaid = false) (unpaid : desk.books.paymentExists id = false)
    (found : Option Reservation) :
    (judgeRelease id found desk).2 = (judgeSettlement notification found desk).2 ∧
      Agrees (judgeSettlement notification found desk).1 (judgeRelease id found desk).1 := by
  have asked : judgeRelease id found desk =
      judgeChecked (.ok (desk.books.paymentExists id)) found desk := rfl
  rw [asked, unpaid]
  cases found with
  | none => exact ⟨rfl, .consumed⟩
  | some reservation =>
    have reclaimed := desk.perform_reclaim_eq reservation
    simp only [judgeChecked, judgeSettlement, other, Bool.false_eq_true, ↓reduceIte]
    rw [reclaimed]
    exact ⟨rfl, agrees_of_release desk reservation⟩

/-- A settlement that fails at the desk has found a reservation, and leaves the books as they were.
-/
theorem judgeSettlement_failed {desk : Desk MemoryLedger γ} {found : Option Reservation}
    {abort : Abort} (failed : (judgeSettlement notification found desk).1 = .error abort) :
    (judgeSettlement notification found desk).2.books = desk.books ∧
      ∃ reservation, found = some reservation := by
  cases found with
  | none => contradiction
  | some reservation =>
    have faithful : desk.IsFaithful := trivial
    have books := judgeSettlement_books notification (some reservation) faithful
    rw [failed] at books
    exact ⟨books.trans (Amendment.amend_nothing desk.books), reservation, rfl⟩

/-- A release overflows only where a use meets a counter at its lowest. -/
theorem isAtBottom_of_overflowed {desk : Desk MemoryLedger γ} {reservation : Reservation}
    {overflow : Overflow}
    (failed : (judgeSettlement notification (some reservation) desk).1 =
      .error (.overflowed overflow))
    (other : notification.isPaid = false) :
    desk.books.isAtBottom reservation.id = true := by
  simp only [judgeSettlement, other, Bool.false_eq_true, ↓reduceIte] at failed
  have performed := eq_error_of_map failed
  rw [Desk.perform_release_fate] at performed
  split at performed
  · cases performed
  · split at performed
    · assumption
    · split at performed <;> cases performed

/-- The two ways to release agree. Whatever the ledger in memory has on record and wherever it is
made to fail, whatever reservations are open, each under its own number, and for a bill that nobody
paid: a notification with any other status than that of a payment and a release on demand leave
the same ledger and the same reservations open, and come to the same end, with as many tickets or
with the same fault. After a fault the books are as before, and the reservation is open again. There
is an overflow only where a use is on record with a counter at its lowest. -/
theorem releases_agree {engine : Engine MemoryLedger γ} (tidy : engine.IsTidy)
    (other : notification.status ≠ "SUCCESSFUL")
    (unpaid : engine.desk.books.paymentExists notification.trackingId = false) :
    let settled := engine.run (Settlement.settle notification)
    let released := engine.run (Release.reap notification.trackingId)
    settled.2.desk = released.2.desk ∧ settled.2.store = released.2.store ∧
      Agrees settled.1 released.1 ∧
        ∀ abort, settled.1 = .error abort → settled.2.desk.books = engine.desk.books ∧
          (∃ reservation, engine.store.get? notification.trackingId = some reservation) ∧
            match abort with
            | .refused _ => settled.2.store = engine.store
            | .overflowed _ => engine.desk.books.isAtBottom notification.trackingId = true := by
  intro settled released
  let found := engine.store.get? notification.trackingId
  have unpaidStatus : notification.isPaid = false :=
    Bool.eq_false_iff.mpr fun paid => other (notification.isPaid_iff.mp paid)
  obtain ⟨desk, agrees⟩ := judgeRelease_agrees unpaidStatus unpaid found
  have settles : settled = ((engine.judge (.settle notification)).1,
      engine.cleared (.settle notification) (engine.judge (.settle notification))) :=
    tidy.run_settle notification
  have releases : released = ((engine.judge (.reap notification.trackingId)).1,
      engine.cleared (.reap notification.trackingId)
        (engine.judge (.reap notification.trackingId))) :=
    tidy.run_reap notification.trackingId
  rw [settles, releases]
  refine ⟨desk.symm, ?_, agrees, fun abort failed => ?_⟩
  · have taken := agrees.isTaken notification notification.trackingId
    show (if isTaken (.settle notification) (judgeSettlement notification found engine.desk).1
        then engine.store.erase notification.trackingId else engine.store) =
      if isTaken (.reap notification.trackingId)
        (judgeRelease notification.trackingId found engine.desk).1
        then engine.store.erase notification.trackingId else engine.store
    rw [taken]
  · obtain ⟨books, reservation, present⟩ := judgeSettlement_failed failed
    refine ⟨books, ⟨reservation, present⟩, ?_⟩
    cases abort with
    | refused refusal => exact (Engine.isRestored_of_refused failed).store
    | overflowed overflow =>
      have named := tidy.keyed notification.trackingId reservation present
      have judged : (judgeSettlement notification (some reservation) engine.desk).1 =
          .error (.overflowed overflow) := present ▸ failed
      exact named ▸ isAtBottom_of_overflowed judged unpaidStatus

end Clearing

namespace Matinee

/-- The gateway notifies that a bill is out of date. -/
def lapsed : PaymentNotification := { notification with status := "EXPIRED" }

end Matinee

/-- Where nothing can be committed both ways to release fail with one fault, and the reservation is
open again. -/
theorem Clearing.releases_agree_matinee :
    Agrees (Matinee.stuckOffice.run (Settlement.settle Matinee.lapsed)).1
        (Matinee.stuckOffice.run (Release.reap ⟨7⟩)).1 ∧
      (Matinee.stuckOffice.run (Release.reap ⟨7⟩)).1 =
          .error (.refused (.persistence (.injected .commit))) ∧
        (Matinee.stuckOffice.run (Release.reap ⟨7⟩)).2.store.get? ⟨7⟩ =
            Matinee.stuckOffice.store.get? ⟨7⟩ ∧
          (Matinee.stuckOffice.run (Release.reap ⟨7⟩)).2.store.size = 1 := by
  have other : Matinee.lapsed.status ≠ "SUCCESSFUL" := by decide
  have unpaid : Matinee.stuckOffice.desk.books.paymentExists ⟨7⟩ = false := by decide
  obtain ⟨-, store, agrees, restored⟩ :=
    releases_agree Matinee.stuckOffice_regular.tidy other unpaid
  obtain ⟨-, -, back⟩ := restored (.refused (.persistence (.injected .commit))) rfl
  have same : (Matinee.stuckOffice.run (Release.reap ⟨7⟩)).2.store = Matinee.stuckOffice.store :=
    store.symm.trans back
  refine ⟨agrees, rfl, congrArg (·.get? ⟨7⟩) same, ?_⟩
  rw [same]
  rfl

end BoxOffice
