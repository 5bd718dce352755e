import BoxOffice.Proofs.Ledger.Deed

/-!
# Accounts of referral codes

The record of uses and the counters of the codes are kept apart: a use is found by its number, a
counter by its code. They agree all the same. Where no number has two uses and no two codes have the
same identifier, each deed changes the counter of a code by as many as the uses of the code on
record, and no counter gets beyond its cap.
-/
namespace BoxOffice

/-- A code as it was issued, before any use. -/
def ReferralCode.unused (referral : ReferralCode) : ReferralCode :=
  { referral with currentUses := 0 }

namespace Books

/-- Whether the counters of the issued codes agree with the uses on record. -/
structure Accounted (issued : List ReferralCode) (books : Books) : Prop where
  /-- The codes are those that were issued. -/
  codes : books.codes.map ReferralCode.unused = issued
  /-- No two codes have the same identifier. -/
  distinct : (books.codes.map (·.id)).Nodup
  /-- No number has two uses. -/
  once : (books.uses.map (·.id)).Nodup
  /-- Each counter tells how often its code has been used. -/
  counted : ∀ referral ∈ books.codes, referral.currentUses.toInt = books.usageCount referral.id
  /-- No code has been used more often than it may. -/
  capped : ∀ referral ∈ books.codes, referral.maxUses ≠ ReferralCode.unlimitedUses →
    (books.usageCount referral.id : Int) ≤ max referral.maxUses.toInt 0

variable {issued : List ReferralCode} {books after : Books} {code : Uuid}

/-- Where no two codes have the same identifier, the first with an identifier is the only one. -/
theorem changeFirst_eq_map (code : Uuid) (change : ReferralCode → ReferralCode)
    {codes : List ReferralCode}
    (distinct : (codes.map (·.id)).Nodup) :
    changeFirst code change codes =
      codes.map fun referral => if referral.id = code then change referral else referral := by
  induction codes with
  | nil => rfl
  | cons referral rest ih =>
    obtain ⟨apart, others⟩ := List.nodup_cons.mp distinct
    simp only [changeFirst, List.map_cons]
    split
    · rename_i own
      have same : rest.map (fun referral => if referral.id = code then change referral
          else referral) = rest := by
        refine (List.map_congr_left fun other member => if_neg fun again => apart ?_).trans
          (List.map_id _)
        exact List.mem_map.mpr ⟨other, member, again.trans own.symm⟩
      rw [same]
    · rw [ih others]

/-- A use more counts for its own code only. -/
theorem usageCount_append (books : Books) (use : ReferralUse) (code : Uuid) :
    { books with uses := books.uses ++ [use] }.usageCount code =
      books.usageCount code + if use.code = code then 1 else 0 := by
  simp only [usageCount, List.countP_append, List.countP_singleton, decide_eq_true_eq]

/-- A code counts one use more, if the counter goes that far. -/
theorem addUse_toInt {referral : ReferralCode}
    (room : referral.currentUses.toInt + 1 ≤ Int32.maxValue.toInt) :
    (addUse referral).currentUses.toInt = referral.currentUses.toInt + 1 := by
  have most : Int32.maxValue.toInt = 2147483647 := by decide
  have least := Int32.le_toInt referral.currentUses
  have one : (1 : Int32).toInt = 1 := by decide
  rw [addUse, Int32.toInt_add, one, Int.bmod_eq_of_le] <;> omega

/-- A counter that has not come to its end can go on. -/
theorem room_of_ne {referral : ReferralCode} (apart : referral.currentUses ≠ Int32.maxValue) :
    referral.currentUses.toInt + 1 ≤ Int32.maxValue.toInt := by
  have most := Int32.toInt_le referral.currentUses
  have below : referral.currentUses.toInt ≠ Int32.maxValue.toInt := fun same =>
    apart (Int32.toInt_inj.mp same)
  omega

/-- A code counts one use less, if it has been used. -/
theorem returnUse_toInt {referral : ReferralCode} (used : 1 ≤ referral.currentUses.toInt) :
    (returnUse referral).currentUses.toInt = referral.currentUses.toInt - 1 := by
  have most := Int32.toInt_lt referral.currentUses
  have same : max 0 (referral.currentUses.toInt - 1) = referral.currentUses.toInt - 1 := by omega
  simp only [returnUse, same]
  rw [Int32.toInt_ofInt_of_le] <;> omega

namespace Accounted

/-- A change of the counter of one code keeps the account if the counter follows the uses. -/
theorem change (accounted : books.Accounted issued) (change : ReferralCode → ReferralCode)
    (same : ∀ referral, (change referral).unused = referral.unused)
    (codes : changeFirst code change books.codes = after.codes)
    (once : (after.uses.map (·.id)).Nodup)
    (others : ∀ other, other ≠ code → after.usageCount other = books.usageCount other)
    (counted : ∀ referral ∈ books.codes, referral.id = code →
      (change referral).currentUses.toInt = after.usageCount code ∧
        (referral.maxUses ≠ ReferralCode.unlimitedUses →
          (after.usageCount code : Int) ≤ max referral.maxUses.toInt 0)) :
    after.Accounted issued := by
  have changed := changeFirst_eq_map code change accounted.distinct
  have issue (referral : ReferralCode) :
      (if referral.id = code then change referral else referral).unused = referral.unused := by
    split
    · exact same referral
    · rfl
  have identifier (referral : ReferralCode) :
      (if referral.id = code then change referral else referral).id = referral.id := by
    have same := congrArg ReferralCode.id (issue referral)
    exact same
  have cap (referral : ReferralCode) :
      (if referral.id = code then change referral else referral).maxUses = referral.maxUses := by
    have same := congrArg ReferralCode.maxUses (issue referral)
    exact same
  rw [codes] at changed
  refine ⟨?_, ?_, once, fun referral member => ?_, fun referral member capped => ?_⟩
  · rw [changed, List.map_map, ← accounted.codes]
    exact List.map_congr_left fun referral _ => issue referral
  · rw [changed, List.map_map]
    exact (List.map_congr_left fun referral _ => identifier referral) ▸ accounted.distinct
  · rw [changed] at member
    obtain ⟨was, present, rfl⟩ := List.mem_map.mp member
    rw [identifier]
    split
    · rename_i own
      rw [own]
      exact (counted was present own).1
    · rename_i apart
      rw [others was.id apart]
      exact accounted.counted was present
  · rw [changed] at member
    obtain ⟨was, present, rfl⟩ := List.mem_map.mp member
    rw [cap] at capped ⊢
    rw [identifier]
    by_cases own : was.id = code
    · rw [own]
      exact (counted was present own).2 capped
    · rw [others was.id own]
      exact accounted.capped was present capped

/-- Books with the same codes and uses have the same account. -/
theorem congr (accounted : books.Accounted issued) (codes : after.codes = books.codes)
    (uses : after.uses = books.uses) : after.Accounted issued := by
  have counts : after.usageCount = books.usageCount := by
    funext code
    simp only [usageCount, uses]
  refine ⟨?_, ?_, ?_, ?_, ?_⟩
  · exact codes ▸ accounted.codes
  · exact codes ▸ accounted.distinct
  · exact uses ▸ accounted.once
  · rw [codes, counts]
    exact accounted.counted
  · rw [codes, counts]
    exact accounted.capped

/-- No two codes on record with the same identifier are different. -/
theorem unique (accounted : books.Accounted issued) {first second : ReferralCode}
    (one : first ∈ books.codes) (other : second ∈ books.codes) (same : first.id = second.id) :
    first = second :=
  List.inj_on_of_nodup_map accounted.distinct one other same

/-- A code that is redeemed counts one use more. -/
theorem redeemed {hold : Hold} (accounted : books.Accounted issued)
    (redeemed : books.Redeemed hold after) (uses : after.uses = books.uses ++ hold.use?.toList) :
    after.Accounted issued := by
  cases redeemed with
  | plain none codes =>
    have nothing : hold.use? = Option.none := by rw [Hold.use?, none, Option.map_none]
    rw [nothing] at uses
    exact accounted.congr codes (uses.trans (List.append_nil _))
  | @redeemed referral issuedNow granted free first room codes =>
    have use : hold.use? = some ⟨referral.id, hold.id⟩ := by
      rw [Hold.use?, granted]
      rfl
    rw [use, Option.toList_some] at uses
    have counts (code : Uuid) : after.usageCount code =
        books.usageCount code + if referral.id = code then 1 else 0 := by
      rw [← usageCount_append books ⟨referral.id, hold.id⟩ code]
      simp only [usageCount, uses]
    have more : after.usageCount referral.id = books.usageCount referral.id + 1 := by
      rw [counts, if_pos rfl]
    -- The check before the redemption leaves room below the cap, and a counter at its end is not
    -- counted on.
    have below : referral.maxUses ≠ ReferralCode.unlimitedUses →
        (books.usageCount referral.id : Int) < referral.maxUses.toInt := by
      intro capped
      simpa only [ReferralCode.isExhaustedBy, ReferralCode.isUnlimited, beq_eq_false_iff_ne.mpr
        capped, Bool.not_false, Bool.true_and, decide_eq_false_iff_not, Int.not_le] using free
    have room : referral.currentUses.toInt + 1 ≤ Int32.maxValue.toInt := by
      obtain ⟨present, found, unended⟩ := room
      have own : present.id = referral.id := by simpa using List.find?_some found
      rw [accounted.unique (List.mem_of_find?_eq_some found) issuedNow own] at unended
      exact room_of_ne unended
    refine accounted.change addUse (fun _ => rfl) codes.symm ?_ (fun other apart => ?_)
      fun same present own => ?_
    · rw [uses, List.map_append]
      refine List.Nodup.append accounted.once (List.nodup_singleton _) fun id early late => first ?_
      have own : id = hold.id := List.mem_singleton.mp late
      exact own ▸ early
    · rw [counts, if_neg apart.symm, Nat.add_zero]
    · rw [accounted.unique present issuedNow own, more]
      constructor
      · rw [addUse_toInt room, accounted.counted referral issuedNow]
        push_cast
        rfl
      · intro capped
        have under := below capped
        push_cast
        omega

/-- A use that is returned is not counted any more. -/
theorem withoutUse (accounted : books.Accounted issued) (id : TrackingId) :
    (books.withoutUse id).Accounted issued := by
  simp only [Books.withoutUse]
  split
  · exact accounted
  · rename_i use found
    obtain ⟨own, before, rest, uses, others⟩ := List.find?_eq_some_iff_append.mp found
    have left : (books.uses.eraseP fun use => use.id = id) = before ++ rest := by
      have first : (use :: rest).eraseP (fun use => use.id = id) = rest :=
        List.eraseP_cons_of_pos own
      rw [uses, List.eraseP_append_right _ fun other member => by
        simpa using others other member, first]
    rw [left]
    have counts (code : Uuid) : books.usageCount code =
        { books with
          codes := changeFirst use.code returnUse books.codes
          uses := before ++ rest }.usageCount code + if use.code = code then 1 else 0 := by
      simp only [usageCount, uses, List.countP_append, List.countP_cons, decide_eq_true_eq]
      omega
    refine accounted.change returnUse (fun _ => rfl) rfl ?_ (fun other apart => ?_)
      fun referral present own => ?_
    · refine accounted.once.sublist (List.Sublist.map _ ?_)
      rw [uses]
      exact (List.sublist_cons_self _ _).append_left _
    · have count := counts other
      rw [if_neg apart.symm] at count
      exact count.symm
    · have count := counts use.code
      rw [if_pos rfl] at count
      have counted := accounted.counted referral present
      rw [own, count] at counted
      push_cast at counted
      constructor
      · rw [returnUse_toInt (by omega), counted]
        exact Int.add_sub_cancel _ _
      · intro capped
        have most := accounted.capped referral present capped
        rw [own, count] at most
        push_cast at most
        exact Int.le_trans (by omega) most

/-- Each deed keeps the account. -/
theorem deed {transaction : Transaction} {value : transaction.Result}
    (accounted : books.Accounted issued) (deed : transaction.Deed value books after) :
    after.Accounted issued := by
  have changed (tickets : List Uuid) (current next : TicketStatus) :
      (books.withStatus tickets current next).Accounted issued := accounted.congr rfl rfl
  cases transaction with
  | hold settings event request => exact accounted.redeemed deed.2.1 deed.1.uses
  | undoHold id tickets isRedeemed =>
    cases deed
    cases isRedeemed with
    | false => exact changed _ _ _
    | true => exact (changed _ _ _).withoutUse id
  | sell reservation notification =>
    rcases deed with ⟨-, -, rfl⟩ | ⟨-, sold, entered⟩
    · exact accounted
    · exact accounted.congr entered.codes sold.uses
  | release reservation =>
    cases deed
    exact (changed _ _ _).withoutUse reservation.id
  | reclaim reservation =>
    cases deed
    exact (changed _ _ _).withoutUse reservation.id

end Accounted

end Books

end BoxOffice
