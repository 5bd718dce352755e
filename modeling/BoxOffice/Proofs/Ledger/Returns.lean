import BoxOffice.Proofs.Ledger.Account

/-!
# Uses that can be returned

When a use is returned the counter of its code goes down by one before it is kept from being
negative, so at the lowest counter there is the return overflows. It never comes to that: the
counter went up when the use was recorded, and no return leaves it negative. `CanReturn` is the
invariant, kept by every deed and when codes are issued, and where it holds no transaction but a
hold leads a number out of its range: it gives a value or is refused.
-/
namespace BoxOffice

/-- Whether a query changes the counter of a code. -/
def Query.changesCounter : Query → Bool
  | .recordUsage .. | .releaseUsage _ => true
  | .availableTickets .. | .changeStatus .. | .referralCode _ | .usageCount _ | .paymentExists _
  | .insertPayment _ | .insertAttendance _ => false

namespace Books

variable {books after : Books} {code : Uuid} {more : List ReferralCode}

/-- Whether each use on record can be returned: there is its code, with a counter that is not at its
lowest. -/
def CanReturn (books : Books) : Prop :=
  ∀ use ∈ books.uses, ∃ referral,
    books.codes.find? (fun referral => referral.id = use.code) = some referral ∧
      referral.currentUses ≠ Int32.minValue

/-- A counter that is not negative is not at its lowest. -/
theorem ne_minValue_of_nonneg {count : Int32} (least : 0 ≤ count.toInt) :
    count ≠ Int32.minValue := by
  rintro rfl
  exact absurd least (by decide)

/-- A use that is returned leaves no counter negative. -/
theorem returnUse_nonneg (referral : ReferralCode) :
    0 ≤ (returnUse referral).currentUses.toInt := by
  have high := Int32.toInt_lt referral.currentUses
  rw [returnUse, Int32.toInt_ofInt_of_le] <;> omega

/-- A use is returned when that is asked for, unless the counter of its code is at its lowest. -/
theorem answer_releaseUsage (books : Books) (id : TrackingId) :
    books.answer (.releaseUsage id) =
      if books.isAtBottom id then .error (.overflowed .difference)
      else .ok ((), books.withoutUse id) := by
  simp only [answer, releaseUse]
  split <;> rfl

/-- A change of the first code with some identifier shows where that identifier is looked up. -/
theorem find?_changeFirst {change : ReferralCode → ReferralCode}
    (keeps : ∀ referral, (change referral).id = referral.id) (code other : Uuid)
    (codes : List ReferralCode) :
    (changeFirst code change codes).find? (fun referral => referral.id = other) =
      if other = code then (codes.find? fun referral => referral.id = other).map change
      else codes.find? fun referral => referral.id = other := by
  induction codes with
  | nil => simp only [changeFirst, List.find?_nil, Option.map_none, ite_self]
  | cons first rest ih =>
    by_cases own : first.id = code
    · by_cases asked : other = code
      · simp only [changeFirst, own, asked, keeps, List.find?_cons, decide_true, ↓reduceIte,
          Option.map_some]
      · simp only [changeFirst, own, asked, keeps, List.find?_cons, Ne.symm asked, decide_false,
          ↓reduceIte]
    · by_cases found : first.id = other
      · have apart : other ≠ code := found ▸ own
        simp only [changeFirst, found, apart, List.find?_cons, decide_true, ↓reduceIte]
      · simp only [changeFirst, own, found, List.find?_cons, decide_false, ↓reduceIte, ih]

namespace CanReturn

/-- Where no use is on record none has to be returned. -/
theorem of_unused (unused : books.uses = []) : books.CanReturn := by
  intro use recorded
  rw [unused] at recorded
  contradiction

/-- Books with the same codes and uses have the same uses to return. -/
theorem congr (returnable : books.CanReturn) (codes : after.codes = books.codes)
    (uses : after.uses = books.uses) : after.CanReturn := by
  unfold CanReturn
  rw [codes, uses]
  exact returnable

/-- No use meets a counter at its lowest. -/
theorem isAtBottom (returnable : books.CanReturn) (id : TrackingId) :
    books.isAtBottom id = false := by
  rw [Bool.eq_false_iff]
  intro bottom
  simp only [Books.isAtBottom, Option.any_eq_true, decide_eq_true_eq] at bottom
  obtain ⟨use, found, referral, counted, lowest⟩ := bottom
  obtain ⟨present, same, above⟩ := returnable use (List.mem_of_find?_eq_some found)
  obtain rfl : present = referral := Option.some.inj (same.symm.trans counted)
  exact above lowest

/-- A use is returned when that is asked for. -/
theorem answer_releaseUsage (returnable : books.CanReturn) (id : TrackingId) :
    books.answer (.releaseUsage id) = .ok ((), books.withoutUse id) := by
  rw [Books.answer_releaseUsage, returnable.isAtBottom id, if_neg Bool.false_ne_true]

/-- A code that is issued leaves the uses on record to be returned, whatever its counter. -/
theorem issue (returnable : books.CanReturn) (codes : after.codes = books.codes ++ more)
    (uses : after.uses = books.uses) : after.CanReturn := by
  intro use recorded
  rw [uses] at recorded
  obtain ⟨referral, found, above⟩ := returnable use recorded
  refine ⟨referral, ?_, above⟩
  rw [codes, List.find?_append, found]
  rfl

/-- A change of one code leaves all uses to be returned if its counter is not at its lowest then,
and new uses are of that code. -/
theorem changeFirst {change : ReferralCode → ReferralCode} (returnable : books.CanReturn)
    (keeps : ∀ referral, (change referral).id = referral.id)
    (codes : after.codes = Books.changeFirst code change books.codes)
    (uses : ∀ use ∈ after.uses, use ∈ books.uses ∨ use.code = code)
    (counts : ∃ referral, books.codes.find? (fun referral => referral.id = code) = some referral ∧
      (change referral).currentUses ≠ Int32.minValue) : after.CanReturn := by
  intro use recorded
  rw [codes, find?_changeFirst keeps]
  by_cases own : use.code = code
  · obtain ⟨referral, found, above⟩ := counts
    rw [if_pos own, own, found]
    exact ⟨_, rfl, above⟩
  · rw [if_neg own]
    exact returnable use ((uses use recorded).resolve_right own)

/-- When a use is returned the others can still be. -/
theorem withoutUse (returnable : books.CanReturn) (id : TrackingId) :
    (books.withoutUse id).CanReturn := by
  unfold Books.withoutUse
  split
  · exact returnable
  · rename_i use found
    have keeps (referral : ReferralCode) : (returnUse referral).id = referral.id := rfl
    obtain ⟨referral, counted, -⟩ := returnable use (List.mem_of_find?_eq_some found)
    refine returnable.changeFirst keeps rfl (fun other recorded => ?_) ⟨referral, counted, ?_⟩
    · exact .inl (List.mem_of_mem_eraseP recorded)
    · exact ne_minValue_of_nonneg (returnUse_nonneg referral)

/-- A use that comes with a hold can be returned. -/
theorem redeemed {hold : Hold} (returnable : books.CanReturn)
    (redeemed : books.Redeemed hold after) (uses : after.uses = books.uses ++ hold.use?.toList) :
    after.CanReturn := by
  cases redeemed with
  | plain none codes =>
    rw [Hold.use?, none] at uses
    exact returnable.congr codes (uses.trans (List.append_nil _))
  | @redeemed referral issued granted free first room codes =>
    have keeps (referral : ReferralCode) : (addUse referral).id = referral.id := rfl
    obtain ⟨present, counted, unended⟩ := room
    refine returnable.changeFirst keeps codes (fun use recorded => ?_) ⟨present, counted, ?_⟩
    · rw [uses, Hold.use?, granted, List.mem_append] at recorded
      exact recorded.imp_right fun new => congrArg ReferralUse.code (List.mem_singleton.mp new)
    · have more := addUse_toInt (room_of_ne unended)
      have least := Int32.le_toInt present.currentUses
      intro lowest
      rw [lowest] at more
      have bottom : Int32.minValue.toInt = -2 ^ 31 := by decide
      omega

/-- After each deed the uses on record can be returned. -/
theorem deed {transaction : Transaction} {value : transaction.Result}
    (returnable : books.CanReturn) (deed : transaction.Deed value books after) :
    after.CanReturn := by
  have changed (tickets : List Uuid) (current next : TicketStatus) :
      (books.withStatus tickets current next).CanReturn := returnable.congr rfl rfl
  cases transaction with
  | hold settings event request => exact returnable.redeemed deed.2.1 deed.1.uses
  | undoHold id tickets isRedeemed =>
    cases deed
    cases isRedeemed with
    | false => exact changed _ _ _
    | true => exact (changed _ _ _).withoutUse id
  | sell reservation notification =>
    rcases deed with ⟨-, -, rfl⟩ | ⟨-, sold, entered⟩
    · exact returnable
    · exact returnable.congr entered.codes sold.uses
  | release reservation =>
    cases deed
    exact (changed _ _ _).withoutUse reservation.id
  | reclaim reservation =>
    cases deed
    exact (changed _ _ _).withoutUse reservation.id

end CanReturn

/-- A query that changes no counter leads no number out of its range. -/
theorem answer_inRange {query : Query} (books : Books) (overflow : Overflow)
    (uncounted : query.changesCounter = false) :
    books.answer query ≠ .error (.overflowed overflow) := by
  intro overflows
  cases query with
  | changeStatus tickets current next =>
    simp only [answer] at overflows
    split at overflows <;> cases overflows
  | insertPayment record =>
    simp only [answer, withPayment] at overflows
    split at overflows <;> cases overflows
  | insertAttendance attendance =>
    simp only [answer, withAttendance] at overflows
    split at overflows <;> cases overflows
  | _ => contradiction

end Books

/-- A fault is an overflow only where a number would leave its range. -/
theorem Abort.ofFault_eq_overflowed {fault : Fault} {overflow : Overflow}
    (same : Abort.ofFault fault = .overflowed overflow) : fault = .overflowed overflow := by
  cases fault with
  | overflowed other => exact congrArg _ (Abort.overflowed.inj same)
  | _ => contradiction

/-- Whether a transaction holds tickets. -/
def Transaction.isHold : Transaction → Bool
  | .hold .. => true
  | .undoHold .. | .sell .. | .release _ | .reclaim _ => false

namespace Desk

variable {σ γ α β : Type} [Ledger σ] [Gateway γ] {desk : Desk σ γ}

/-- Whether some work leads no number out of its range. -/
def StaysInRange (desk : Desk σ γ) (work : Attempt α) : Prop :=
  ∀ overflow, (desk.attempt work).1 ≠ .error (.overflowed overflow)

/-- Work that gives a value at once leads no number anywhere. -/
theorem staysInRange_pure (value : α) : desk.StaysInRange (pure value : Attempt α) := by
  intro overflow overflows
  cases overflows

/-- Work that refuses leads no number anywhere. -/
theorem staysInRange_refuse (refusal : Refusal) :
    desk.StaysInRange (Attempt.refuse refusal : Attempt α) := by
  intro overflow overflows
  cases overflows

/-- A condition that is demanded is met or refused. -/
theorem staysInRange_demand (condition : Bool) (refusal : Refusal) :
    desk.StaysInRange (Attempt.demand condition refusal) := by
  cases condition with
  | false => exact staysInRange_refuse refusal
  | true => exact staysInRange_pure ()

/-- Work that goes on leads no number out of its range if its parts do not. -/
theorem StaysInRange.bind {work : Attempt α} {next : α → Attempt β}
    (first : desk.StaysInRange work)
    (rest : ∀ value later, desk.Gives work value later → later.StaysInRange (next value)) :
    desk.StaysInRange (work >>= next) := by
  intro overflow
  rw [attempt_bind]
  cases worked : desk.attempt work with
  | mk result later =>
    cases result with
    | error abort =>
      have inRange := first overflow
      rw [worked] at inRange
      intro overflows
      exact inRange (congrArg Except.error (Except.error.inj overflows))
    | ok value => exact rest value later worked overflow

variable [Bookkeeping σ]

/-- A query leads no number out of its range where the answer from the books does not. -/
theorem staysInRange_consult {query : Query} (faithful : desk.IsFaithful)
    (answers : ∀ overflow, desk.staged.answer query ≠ .error (.overflowed overflow)) :
    desk.StaysInRange (Attempt.consult query) := by
  intro overflow overflows
  have told : ((Ledger.answer query desk.ledger).1.mapError Abort.ofFault) =
      .error (.overflowed overflow) := overflows
  cases answered : (Ledger.answer query desk.ledger).1 with
  | ok value =>
    rw [answered] at told
    contradiction
  | error fault =>
    rw [answered] at told
    obtain rfl := Abort.ofFault_eq_overflowed (Except.error.inj told)
    exact answers overflow (Bookkeeping.answer_overflow faithful answered)

/-- A query that changes no counter leads no number out of its range. -/
theorem staysInRange_other {query : Query} (faithful : desk.IsFaithful)
    (uncounted : query.changesCounter = false) :
    desk.StaysInRange (Attempt.consult query) :=
  staysInRange_consult faithful fun overflow => Books.answer_inRange _ overflow uncounted

/-- The return of a use leads no number out of its range where the uses on record can be returned.
-/
theorem staysInRange_releaseUsage (faithful : desk.IsFaithful)
    (returnable : desk.staged.CanReturn) (id : TrackingId) :
    desk.StaysInRange (Attempt.releaseUsage id) := by
  refine staysInRange_consult faithful fun overflow overflows => ?_
  rw [returnable.answer_releaseUsage] at overflows
  contradiction

/-- Where the uses on record can be returned, a release leads no number out of its range. -/
theorem staysInRange_releaseWork (faithful : desk.IsFaithful)
    (returnable : desk.staged.CanReturn) (reservation : Reservation) :
    desk.StaysInRange (Transaction.releaseWork reservation) := by
  refine (staysInRange_other faithful rfl).bind fun changed later change => ?_
  have freed := becomes_of_changeStatus faithful change
  have still : later.staged.CanReturn := freed.staged ▸ returnable.congr rfl rfl
  refine (staysInRange_releaseUsage freed.faithful still _).bind fun _ _ _ => ?_
  exact staysInRange_pure changed

/-- Where the uses on record can be returned, the undoing of a hold leads no number out of its
range. -/
theorem staysInRange_undoWork (faithful : desk.IsFaithful) (returnable : desk.staged.CanReturn)
    (id : TrackingId) (tickets : List Uuid) (isRedeemed : Bool) :
    desk.StaysInRange (Transaction.undoWork id tickets isRedeemed) := by
  refine (staysInRange_other faithful rfl).bind fun changed later change => ?_
  have freed := becomes_of_changeStatus faithful change
  cases isRedeemed with
  | false => exact staysInRange_pure ()
  | true =>
    have still : later.staged.CanReturn := freed.staged ▸ returnable.congr rfl rfl
    exact staysInRange_releaseUsage freed.faithful still id

/-- The entry of attendances leads no number out of its range. -/
theorem staysInRange_attendWork (faithful : desk.IsFaithful) (event : Uuid)
    (tickets : List Uuid) (visitors : List VisitorDetails) :
    desk.StaysInRange (Transaction.attendWork event tickets visitors) := by
  induction tickets generalizing visitors desk with
  | nil => exact staysInRange_pure ()
  | cons ticket rest ih =>
    cases visitors with
    | nil => exact staysInRange_refuse _
    | cons visitor visitors =>
      refine (staysInRange_other faithful rfl).bind fun _ later entered => ?_
      exact ih (gives_consult faithful entered).1 visitors

/-- A sale leads no number out of its range. -/
theorem staysInRange_sellWork (faithful : desk.IsFaithful) (reservation : Reservation)
    (notification : PaymentNotification) :
    desk.StaysInRange (Transaction.sellWork reservation notification) := by
  refine (staysInRange_other faithful rfl).bind fun isRecorded first asked => ?_
  have first := (gives_consult faithful asked).1
  cases isRecorded with
  | true => exact staysInRange_pure _
  | false =>
    refine (staysInRange_other first rfl).bind fun _ second paid => ?_
    have second := (gives_consult first paid).1
    refine (staysInRange_other second rfl).bind fun sold third change => ?_
    have third := (gives_consult second change).1
    refine (staysInRange_demand _ _).bind fun _ fourth demanded => ?_
    obtain ⟨-, rfl⟩ := gives_demand demanded
    refine (staysInRange_attendWork third _ _ _).bind fun _ _ _ => ?_
    exact staysInRange_pure _

/-- Where the uses on record can be returned, no work but that of a hold leads a number out of its
range. -/
theorem staysInRange_work {transaction : Transaction} (faithful : desk.IsFaithful)
    (returnable : desk.staged.CanReturn) (holds : transaction.isHold = false) :
    desk.StaysInRange transaction.work := by
  cases transaction with
  | hold settings event request => contradiction
  | undoHold id tickets isRedeemed =>
    exact staysInRange_undoWork faithful returnable id tickets isRedeemed
  | sell reservation notification => exact staysInRange_sellWork faithful reservation notification
  | release reservation => exact staysInRange_releaseWork faithful returnable reservation
  | reclaim reservation => exact staysInRange_releaseWork faithful returnable reservation

/-- A transaction leaves the uses on record to be returned, whatever comes of it. -/
theorem perform_canReturn {transaction : Transaction} (faithful : desk.IsFaithful)
    (returnable : desk.books.CanReturn) : (desk.perform transaction).2.books.CanReturn := by
  cases came : (desk.perform transaction).1 with
  | error abort =>
    rw [perform_error faithful came]
    exact returnable
  | ok value => exact returnable.deed (perform_deed faithful came)

omit [Gateway γ] in
/-- A transaction ends with no overflow if its work does not. -/
theorem close_inRange {isRolledBack : Abort → Bool} {result : Except Abort α}
    (faithful : desk.IsFaithful)
    (inRange : ∀ overflow, result ≠ .error (.overflowed overflow)) (overflow : Overflow) :
    (close isRolledBack result desk).1 ≠ .error (.overflowed overflow) := by
  cases result with
  | error abort => exact inRange overflow
  | ok value =>
    have commits := Bookkeeping.commit_inRange overflow faithful
    simp only [close]
    cases ended : (Ledger.commit desk.ledger).1 with
    | ok _ =>
      intro overflows
      contradiction
    | error fault =>
      rw [ended] at commits
      intro overflows
      exact commits (congrArg _ (Abort.ofFault_eq_overflowed (Except.error.inj overflows)))

/-- Where the uses on record can be returned, a transaction that holds nothing leads no number out
of its range. -/
theorem perform_inRange {transaction : Transaction} (faithful : desk.IsFaithful)
    (returnable : desk.books.CanReturn) (holds : transaction.isHold = false)
    (overflow : Overflow) : (desk.perform transaction).1 ≠ .error (.overflowed overflow) := by
  let start : Desk σ γ := { desk with ledger := (Ledger.openTransaction desk.ledger).2 }
  have opened : start.IsFaithful := (Bookkeeping.openTransaction_books faithful).1
  simp only [perform]
  cases begun : (Ledger.openTransaction desk.ledger).1 with
  | error fault =>
    have opens := Bookkeeping.openTransaction_inRange overflow faithful
    rw [begun] at opens
    intro overflows
    exact opens (congrArg _ (Abort.ofFault_eq_overflowed (Except.error.inj overflows)))
  | ok _ =>
    have staged : start.staged = desk.books := Bookkeeping.openTransaction_staged faithful begun
    have worked := (attempt_books transaction.work start opened).1
    exact close_inRange worked (staysInRange_work opened (staged ▸ returnable) holds) overflow

/-- Where the uses on record can be returned, a transaction that holds nothing gives a value or is
refused. -/
theorem perform_refused {transaction : Transaction} {abort : Abort} (faithful : desk.IsFaithful)
    (returnable : desk.books.CanReturn) (holds : transaction.isHold = false)
    (failed : (desk.perform transaction).1 = .error abort) :
    ∃ refusal, abort = .refused refusal := by
  cases abort with
  | refused refusal => exact ⟨refusal, rfl⟩
  | overflowed overflow =>
    exact absurd failed (perform_inRange faithful returnable holds overflow)

end Desk

end BoxOffice
