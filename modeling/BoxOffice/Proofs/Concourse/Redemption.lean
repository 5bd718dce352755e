import BoxOffice.Proofs.Concourse.Chronicle
import BoxOffice.Proofs.Concourse.Order
import BoxOffice.Proofs.Ledger.Account

/-!
# Redemption of referral codes

Whatever the gateway numbers its bills, whatever fails, and in whatever order the calls take their
turns, the counter of each referral code agrees with its uses on record, and no code is used more
often than it may.
-/
namespace BoxOffice

variable {σ γ : Type} [Ledger σ] [Bookkeeping σ] [Gateway γ]

/-- Codes that have not been used when a concourse opens are accounted for, whatever has happened.
-/
theorem Opening.accounted_after (opening : Opening σ γ)
    (distinct : ((Bookkeeping.books opening.ledger).codes.map (·.id)).Nodup)
    (unused : ∀ referral ∈ (Bookkeeping.books opening.ledger).codes, referral.currentUses = 0)
    (actions : List (Action σ)) :
    (opening.after actions).books.Accounted (Bookkeeping.books opening.ledger).codes := by
  induction actions using List.reverseRecOn with
  | nil =>
    have none : (opening.after []).books.uses = [] := opening.unused
    have nothing (code : Uuid) : (opening.after []).books.usageCount code = 0 := by
      rw [Books.usageCount, none, List.countP_nil]
    refine ⟨?_, distinct, ?_, fun referral member => ?_, fun referral member _ => ?_⟩
    · refine (List.map_congr_left fun referral member => ?_).trans (List.map_id _)
      rw [ReferralCode.unused, ← unused referral member]
      rfl
    · exact none ▸ List.nodup_nil
    · rw [unused referral member, nothing]
      rfl
    · rw [nothing]
      exact Int.le_max_right _ _
  | append_singleton actions action ih =>
    rw [opening.after_append]
    rcases (opening.after_regular actions).deed action with same | ⟨_, _, -, deed⟩
    · exact same ▸ ih
    · exact ih.deed deed

/-- The accounts of referral codes agree. Codes with different identifiers that have not been used
are seeded. Then whatever happens: no number has two uses on record; the codes stay as they are but
for their counters; and for each code the counter tells the number of its uses on record, so that
both checks for its exhaustion say the same and a use that is returned is always one less; and if it
has a cap, the uses stay within it. Without a cap they stay within what a counter can count, since a
use beyond that is not recorded.
-/
theorem Opening.codes_accounted (opening : Opening σ γ)
    (distinct : ((Bookkeeping.books opening.ledger).codes.map (·.id)).Nodup)
    (unused : ∀ referral ∈ (Bookkeeping.books opening.ledger).codes, referral.currentUses = 0)
    (actions : List (Action σ)) :
    ((opening.after actions).books.uses.map (·.id)).Nodup ∧
      (opening.after actions).books.codes.map ReferralCode.unused =
        (Bookkeeping.books opening.ledger).codes ∧
      ∀ referral ∈ (opening.after actions).books.codes,
        referral.currentUses.toInt = (opening.after actions).books.usageCount referral.id ∧
          referral.isExhaustedBy referral.currentUses.toInt =
            referral.isExhaustedBy ((opening.after actions).books.usageCount referral.id) ∧
          (∀ use ∈ (opening.after actions).books.uses, use.code = referral.id →
            (Books.returnUse referral).currentUses.toInt = referral.currentUses.toInt - 1) ∧
          (referral.maxUses ≠ -1 →
            ((opening.after actions).books.usageCount referral.id : Int) ≤
              max referral.maxUses.toInt 0) := by
  have accounted := opening.accounted_after distinct unused actions
  refine ⟨accounted.once, accounted.codes, fun referral member => ?_⟩
  have counted := accounted.counted referral member
  refine ⟨counted, congrArg _ counted, fun use recorded own => ?_, fun capped => ?_⟩
  · have some : 0 < (opening.after actions).books.usageCount referral.id :=
      List.countP_pos_iff.mpr ⟨use, recorded, decide_eq_true own⟩
    exact Books.returnUse_toInt (by omega)
  · exact accounted.capped referral member capped

namespace Matinee

/-- A code for one use. -/
def code : ReferralCode := ⟨.ofNat 5, "HALF", 50, 1, 0, .ofMilliseconds 0, none⟩

/-- An opening with one ticket, a code, and a gateway that has two bills with one number ready. -/
def previewOpening : Opening MemoryLedger ScriptedGateway :=
  { opening with
    ledger := .ofBooks ⟨[ticket], [code], [], [], []⟩ []
    gateway := ⟨[.ok (bill 7), .ok (bill 7)]⟩ }

/-- Someone buys the ticket with the code, and the purchase takes so many turns. -/
def discountedPurchase (turns : Nat) : List (Action MemoryLedger) :=
  .buy ⟨0, 30, ""⟩ event ⟨"A", 1, some "HALF", [.empty]⟩ :: List.replicate turns (.go 0)

end Matinee

/-- A code for one use counts the one use that was made of it. -/
theorem Opening.codes_accounted_matinee :
    ((Matinee.previewOpening.after (Matinee.discountedPurchase 4)).books.codes.map
        (·.currentUses)) = [1] ∧
      ∀ referral ∈ (Matinee.previewOpening.after (Matinee.discountedPurchase 4)).books.codes,
        referral.currentUses.toInt =
          (Matinee.previewOpening.after (Matinee.discountedPurchase 4)).books.usageCount
            referral.id := by
  obtain ⟨-, -, accounts⟩ := Matinee.previewOpening.codes_accounted (by decide) (by decide)
    (Matinee.discountedPurchase 4)
  exact ⟨by decide, fun referral member => (accounts referral member).1⟩

end BoxOffice
