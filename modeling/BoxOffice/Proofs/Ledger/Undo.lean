import BoxOffice.Proofs.Ledger.Account
import BoxOffice.Proofs.Ledger.Success

/-!
# Holds that are undone

A hold that could not be kept is undone by a second transaction. Where no two tickets have the same
identifier and no counter is negative, it takes back all that the first one did: each ticket was
available, the use is the last on record, and the counter of its code went up by one. In a ledger in
memory the second transaction meets no place that the first one has not passed.
-/
namespace BoxOffice

attribute [ext] Books

namespace Books

variable {books after : Books} {ids : List Uuid} {code : Uuid} {current next : TicketStatus}

/-- Whether no code counts fewer than no uses. -/
def IsTallied (books : Books) : Prop := ∀ referral ∈ books.codes, 0 ≤ referral.currentUses.toInt

/-- A change of status that is taken back leaves the books as they were. -/
theorem withStatus_withStatus (distinct : books.ticketIds.Nodup)
    (owned : ids ⊆ books.idsOf current) :
    (books.withStatus ids current next).withStatus ids next current = books := by
  let changed (current next : TicketStatus) (ticket : Ticket) : Ticket :=
    if isAmong ids current ticket then { ticket with status := next } else ticket
  have back (ticket : Ticket) (member : ticket ∈ books.tickets) :
      changed next current (changed current next ticket) = ticket := by
    by_cases among : ticket.id ∈ ids
    · have own : ticket.id ∈ books.idsOf ticket.status := mem_idsOf.mpr ⟨ticket, member, rfl, rfl⟩
      have status : ticket.status = current := status_unique distinct own (owned among)
      have first : changed current next ticket = { ticket with status := next } :=
        if_pos (isAmong_iff.mpr ⟨among, status⟩)
      have second : changed next current { ticket with status := next } =
          { ticket with status := current } := by
        apply if_pos
        exact isAmong_iff.mpr ⟨among, rfl⟩
      rw [first, second, ← status]
    · have stays (current next : TicketStatus) : changed current next ticket = ticket :=
        if_neg fun has => among (isAmong_iff.mp has).1
      rw [stays, stays]
  have tickets : ((books.withStatus ids current next).withStatus ids next current).tickets =
      books.tickets := by
    show (books.tickets.map (changed current next)).map (changed next current) = books.tickets
    rw [List.map_map]
    exact (List.map_congr_left back).trans (List.map_id _)
  exact Books.ext tickets rfl rfl rfl rfl

/-- A change of a code that is taken back leaves the codes as they were. -/
theorem changeFirst_changeFirst {codes : List ReferralCode}
    {change restore : ReferralCode → ReferralCode}
    (keeps : ∀ referral, (change referral).id = referral.id)
    (restores : ∀ referral, codes.find? (fun referral => referral.id = code) = some referral →
      restore (change referral) = referral) :
    changeFirst code restore (changeFirst code change codes) = codes := by
  induction codes with
  | nil => rfl
  | cons first rest ih =>
    by_cases own : first.id = code
    · have back : restore (change first) = first := by
        apply restores
        simp only [List.find?_cons, own, decide_true]
      have name : (change first).id = code := (keeps first).trans own
      simp only [changeFirst, own, ↓reduceIte, name, back]
    · have others := ih fun referral found => by
        apply restores
        simp only [List.find?_cons, own, decide_false]
        exact found
      simp only [changeFirst, own, ↓reduceIte, others]

/-- A use more and one less leave a code as it was, if it can count so far. -/
theorem returnUse_addUse {referral : ReferralCode} (least : 0 ≤ referral.currentUses.toInt)
    (room : referral.currentUses ≠ Int32.maxValue) : returnUse (addUse referral) = referral := by
  have more := addUse_toInt (room_of_ne room)
  have used : 1 ≤ (addUse referral).currentUses.toInt := by omega
  have less := returnUse_toInt used
  have same : (returnUse (addUse referral)).currentUses = referral.currentUses := by
    rw [← Int32.toInt_inj, less, more]
    omega
  calc returnUse (addUse referral)
      = { referral with currentUses := (returnUse (addUse referral)).currentUses } := rfl
    _ = referral := by rw [same]

/-- A use that is returned as soon as it was recorded leaves the books as they were. -/
theorem withoutUse_recorded (use : ReferralUse) (tallied : books.IsTallied)
    (room : books.HasRoom use.code) (fresh : use.id ∉ books.uses.map (·.id)) :
    { books with
      codes := changeFirst use.code addUse books.codes
      uses := books.uses ++ [use] }.withoutUse use.id = books := by
  have others : ∀ other ∈ books.uses, ¬decide (other.id = use.id) = true := by
    intro other member same
    exact fresh (List.mem_map.mpr ⟨other, member, of_decide_eq_true same⟩)
  have found : (books.uses ++ [use]).find? (fun other => other.id = use.id) = some use := by
    rw [List.find?_append, List.find?_eq_none.mpr others]
    simp only [Option.none_or, List.find?_cons, decide_true]
  have uses : (books.uses ++ [use]).eraseP (fun other => other.id = use.id) = books.uses := by
    rw [List.eraseP_append_right _ others]
    simp only [List.eraseP_cons, decide_true, cond_true, List.append_nil]
  have codes : changeFirst use.code returnUse (changeFirst use.code addUse books.codes) =
      books.codes := by
    refine changeFirst_changeFirst (fun _ => rfl) fun referral first => ?_
    obtain ⟨present, same, below⟩ := room
    have own : present = referral := Option.some.inj (same.symm.trans first)
    exact returnUse_addUse (tallied referral (List.mem_of_find?_eq_some first)) (own ▸ below)
  simp only [withoutUse, found, uses, codes]

/-- A hold that is undone leaves the books as they were before it. -/
theorem Held.undone {hold : Hold} (held : books.Held hold after)
    (redeemed : books.Redeemed hold after) (distinct : books.ticketIds.Nodup)
    (tallied : books.IsTallied) :
    after.undone hold.discount.isSome hold.ticketIds hold.id = books := by
  have back : (books.withStatus hold.ticketIds .available .pending).withStatus hold.ticketIds
      .pending .available = books :=
    withStatus_withStatus distinct held.offered.subset
  cases redeemed with
  | plain none codes =>
    have uses : after.uses = books.uses := by
      rw [held.uses, Hold.use?, none]
      exact List.append_nil _
    have made : after = books.withStatus hold.ticketIds .available .pending :=
      Books.ext held.tickets codes uses held.payments held.attendances
    rw [none, made]
    exact back
  | @redeemed referral issued granted free fresh room codes =>
    have uses : after.uses = books.uses ++ [⟨referral.id, hold.id⟩] := by
      rw [held.uses, Hold.use?, granted]
      rfl
    have made : after.withStatus hold.ticketIds .pending .available =
        { books with
          codes := changeFirst referral.id addUse books.codes
          uses := books.uses ++ [⟨referral.id, hold.id⟩] } := by
      apply Books.ext
      · show (after.withStatus hold.ticketIds .pending .available).tickets = books.tickets
        rw [← congrArg Books.tickets back]
        simp only [withStatus, held.tickets]
      · exact codes
      · exact uses
      · exact held.payments
      · exact held.attendances
    rw [granted]
    show (after.withStatus hold.ticketIds .pending .available).withoutUse hold.id = books
    rw [made]
    exact withoutUse_recorded ⟨referral.id, hold.id⟩ tallied room fresh

/-- Tickets that are released as soon as they were held leave the books as they were, if the number
of the hold had no use on record. -/
theorem Held.freed {hold : Hold} (held : books.Held hold after)
    (redeemed : books.Redeemed hold after) (distinct : books.ticketIds.Nodup)
    (tallied : books.IsTallied) (unused : hold.id ∉ books.uses.map (·.id)) :
    after.freed hold.ticketIds hold.id = books := by
  have back := held.undone redeemed distinct tallied
  cases redeemed with
  | plain none codes =>
    have uses : (after.withStatus hold.ticketIds .pending .available).uses = books.uses := by
      show after.uses = books.uses
      rw [held.uses, Hold.use?, none]
      exact List.append_nil _
    rw [none] at back
    rw [← uses] at unused
    exact (withoutUse_eq_self.mpr unused).trans back
  | redeemed issued granted free fresh room codes =>
    rw [granted] at back
    exact back

/-- A code that is changed for one that counts no fewer than no uses leaves none that does. -/
theorem IsTallied.changeFirst {change : ReferralCode → ReferralCode} (tallied : books.IsTallied)
    (codes : after.codes = Books.changeFirst code change books.codes)
    (counts : ∀ referral, books.codes.find? (fun referral => referral.id = code) = some referral →
      0 ≤ (change referral).currentUses.toInt) : after.IsTallied := by
  unfold IsTallied at tallied ⊢
  rw [codes]
  clear codes
  generalize books.codes = codes at tallied counts
  induction codes with
  | nil => exact fun _ member => nomatch member
  | cons first rest ih =>
    intro referral member
    by_cases own : first.id = code
    · simp only [Books.changeFirst, own, ↓reduceIte, List.mem_cons] at member
      rcases member with rfl | later
      · apply counts
        simp only [List.find?_cons, own, decide_true]
      · exact tallied referral (List.mem_cons_of_mem _ later)
    · simp only [Books.changeFirst, own, ↓reduceIte, List.mem_cons] at member
      rcases member with rfl | later
      · exact tallied referral List.mem_cons_self
      · refine ih (fun other among => tallied other (List.mem_cons_of_mem _ among))
          (fun other found => counts other ?_) referral later
        simp only [List.find?_cons, own, decide_false]
        exact found

/-- Books with the same codes are tallied alike. -/
theorem IsTallied.congr (tallied : books.IsTallied) (codes : after.codes = books.codes) :
    after.IsTallied := by
  unfold IsTallied
  rw [codes]
  exact tallied

/-- No counter becomes negative when a use is returned. -/
theorem IsTallied.withoutUse (tallied : books.IsTallied) (id : TrackingId) :
    (books.withoutUse id).IsTallied := by
  unfold Books.withoutUse
  split
  · exact tallied
  · apply tallied.changeFirst rfl
    exact fun referral _ => returnUse_nonneg referral

/-- No counter becomes negative by a hold. -/
theorem IsTallied.redeemed {hold : Hold} (tallied : books.IsTallied)
    (redeemed : books.Redeemed hold after) : after.IsTallied := by
  cases redeemed with
  | plain none codes => exact tallied.congr codes
  | @redeemed referral issued granted free fresh room codes =>
    apply tallied.changeFirst codes
    intro first found
    obtain ⟨present, same, below⟩ := room
    have own : present = first := Option.some.inj (same.symm.trans found)
    have least := tallied first (List.mem_of_find?_eq_some found)
    have more := addUse_toInt (room_of_ne (own ▸ below))
    omega

end Books

namespace Desk

variable {γ : Type} [Gateway γ] {desk later : Desk MemoryLedger γ}

/-- A change of status that is carried out is not made to fail. -/
theorem sound_of_changeStatus {tickets : List Uuid} {current next : TicketStatus} {changed : Nat}
    (given : desk.Gives (Attempt.changeStatus tickets current next) changed later) :
    .changeTicketStatus ∉ desk.ledger.failing := by
  intro failing
  have stopped : desk.ledger.failureAt? (.changeStatus tickets current next) =
      some .changeTicketStatus := MemoryLedger.failureAt?_eq_some rfl failing
  have fails := attempt_consult_failing stopped
  have same := (Prod.mk.inj (fails.symm.trans given)).1
  contradiction

/-- A hold that is committed has met no place at which it would be made to fail, and leaves the
places as they were. -/
theorem sound_of_hold {settings : CheckoutSettings} {event : Uuid} {request : PurchaseRequest}
    {hold : Hold} (done : (desk.perform (.hold settings event request)).1 = .ok hold) :
    .changeTicketStatus ∉ desk.ledger.failing ∧ .commit ∉ desk.ledger.failing := by
  let opened : Desk MemoryLedger γ := { desk with ledger := (Ledger.openTransaction desk.ledger).2 }
  let worked := opened.attempt (Transaction.holdWork settings event request)
  have kept : worked.2.ledger.failing = desk.ledger.failing := attempt_failing _ opened
  have closed : (close (Transaction.hold settings event request).isRolledBack worked.1
      worked.2).1 = .ok hold := done
  cases result : worked.1 with
  | error abort =>
    rw [result] at closed
    contradiction
  | ok found =>
    constructor
    · have given : opened.Gives (Transaction.holdWork settings event request) found worked.2 :=
        Prod.ext result rfl
      obtain ⟨discount, first, redeemed, given⟩ := gives_bind given
      obtain ⟨tickets, second, reserved, -⟩ := gives_bind given
      obtain ⟨_, _, checked, reserved⟩ := gives_bind reserved
      obtain ⟨-, rfl⟩ := gives_check checked
      obtain ⟨offered, third, looked, reserved⟩ := gives_bind reserved
      obtain ⟨_, _, demanded, reserved⟩ := gives_bind reserved
      obtain ⟨-, rfl⟩ := gives_demand demanded
      obtain ⟨held, fourth, changed, -⟩ := gives_bind reserved
      have same : third.ledger.failing = desk.ledger.failing :=
        (gives_failing looked).trans ((gives_failing redeemed).trans rfl)
      rw [← same]
      exact sound_of_changeStatus changed
    · intro failing
      rw [result] at closed
      have stopped : worked.2.ledger.failing.contains .commit = true := by
        rw [kept]
        exact List.contains_iff_mem.mpr failing
      simp only [close, Ledger.commit, stopped, ↓reduceIte] at closed
      contradiction

end Desk

end BoxOffice
