import BoxOffice.Proofs.Stop
import BoxOffice.Transaction

/-!
# What is made of the words of a fault

A ledger that fails tells why, in words and in the context in which it arose. Someone who listens to
a ledger (`RecordingLedger`) and has no ear for these words hears the calls and their replies, and
within a transaction these are `Transaction.calls`. All work within a transaction ends with the
first fault, whatever its words. So a transaction comes to the same over two ledgers that sound the
same (`Desk.perform_alike`), and if a call has failed it has come to a fault
(`Desk.perform_failed`).
-/
namespace BoxOffice

/-- What is left of a fault without its words. -/
inductive BareFault where
  /-- A call has failed. -/
  | failure
  /-- A number on record would leave its range. -/
  | overflow (overflow : Overflow)

/-- A fault without its words and its context. -/
def Fault.bare : Fault → BareFault
  | .overflowed overflow => .overflow overflow
  | _ => .failure

/-- A reply without the words of its fault, if it is one. -/
def bareReply {α : Type} (reply : Except Fault α) : Except BareFault α :=
  reply.mapError Fault.bare

/-- A call to a ledger with its reply, as far as it can be told without the words of faults. -/
inductive LedgerCall where
  /-- A transaction is opened. -/
  | opening (reply : Except BareFault Unit)
  /-- A query is answered within the open transaction. -/
  | query (query : Query) (reply : Except BareFault query.Answer)
  /-- The open transaction is committed. -/
  | commit (reply : Except BareFault Unit)
  /-- The open transaction is rolled back. -/
  | rollBack (reply : Except BareFault Unit)
  /-- The open transaction is left to be undone. -/
  | abandon
  /-- A payment is looked for outside transactions. -/
  | paymentExists (id : TrackingId) (reply : Except BareFault Bool)
  /-- The ledger is asked whether it answers. -/
  | ping (isAnswering : Bool)

/-- Whether a call has failed. A rollback is of no account: it only follows on what has ended
already. -/
def LedgerCall.IsFailure : LedgerCall → Prop
  | .opening reply | .commit reply => reply = .error .failure
  | .query _ reply => reply = .error .failure
  | .paymentExists _ reply => reply = .error .failure
  | .rollBack _ | .abandon | .ping _ => False

/-- A ledger to which someone listens. -/
structure RecordingLedger (σ : Type) where
  /-- The ledger that answers. -/
  inner : σ
  /-- The calls so far. -/
  calls : List LedgerCall

namespace RecordingLedger

variable {σ : Type} [Ledger σ]

instance : Ledger (RecordingLedger σ) where
  openTransaction ledger :=
    let opened := Ledger.openTransaction ledger.inner
    (opened.1, ⟨opened.2, ledger.calls ++ [.opening (bareReply opened.1)]⟩)
  answer query ledger :=
    let answered := Ledger.answer query ledger.inner
    (answered.1, ⟨answered.2, ledger.calls ++ [.query query (bareReply answered.1)]⟩)
  commit ledger :=
    let committed := Ledger.commit ledger.inner
    (committed.1, ⟨committed.2, ledger.calls ++ [.commit (bareReply committed.1)]⟩)
  rollBack ledger :=
    let undone := Ledger.rollBack ledger.inner
    (undone.1, ⟨undone.2, ledger.calls ++ [.rollBack (bareReply undone.1)]⟩)
  abandon ledger := ⟨Ledger.abandon ledger.inner, ledger.calls ++ [.abandon]⟩
  paymentExists id ledger :=
    let found := Ledger.paymentExists id ledger.inner
    (found.1, ⟨found.2, ledger.calls ++ [.paymentExists id (bareReply found.1)]⟩)
  ping ledger :=
    let answered := Ledger.ping ledger.inner
    (answered.1, ⟨answered.2, ledger.calls ++ [.ping answered.1]⟩)

end RecordingLedger

section Reply

variable {α β : Type} {first second : Except Fault α}

/-- A reply that has failed is a fault that is reported as one of the ledger. -/
theorem bareReply_eq_failure (failed : bareReply first = .error .failure) :
    ∃ fault, first = .error fault ∧ (Abort.ofFault fault).IsFault := by
  cases first with
  | ok value => contradiction
  | error fault =>
    refine ⟨fault, rfl, ?_⟩
    have bare : fault.bare = .failure := Except.error.inj failed
    cases fault with
    | overflowed overflow => contradiction
    | _ => exact ⟨_, rfl⟩

/-- What goes on from a reply that has failed is a fault of the ledger. -/
theorem hasFailed_of_bareReply (failed : bareReply first = .error .failure) (next : α → β) :
    HasFailed ((first.mapError Abort.ofFault).map next) := by
  obtain ⟨fault, told, isFault⟩ := bareReply_eq_failure failed
  rw [told]
  exact ⟨.ofFault fault, rfl, isFault⟩

/-- A fault about a number is all that it tells without its words. -/
theorem Fault.eq_overflowed {fault : Fault} {overflow : Overflow}
    (bare : fault.bare = .overflow overflow) : fault = .overflowed overflow := by
  cases fault with
  | overflowed other => exact congrArg _ (BareFault.overflow.inj bare)
  | _ => contradiction

/-- Replies that are the same without the words of faults are the same unless both have failed. -/
theorem eq_or_failures_of_bareReply (same : bareReply first = bareReply second) :
    first = second ∨ bareReply first = .error .failure ∧ bareReply second = .error .failure := by
  cases first with
  | ok found =>
    cases second with
    | ok other => exact .inl (congrArg Except.ok (Except.ok.inj same))
    | error fault => contradiction
  | error fault =>
    cases second with
    | ok other => contradiction
    | error faultToo =>
      have same : fault.bare = faultToo.bare := Except.error.inj same
      cases bare : fault.bare with
      | failure =>
        have bareToo : faultToo.bare = .failure := same.symm.trans bare
        exact .inr ⟨congrArg Except.error bare, congrArg Except.error bareToo⟩
      | overflow overflow =>
        have name := Fault.eq_overflowed bare
        have nameToo := Fault.eq_overflowed (same.symm.trans bare)
        exact .inl (congrArg Except.error (name.trans nameToo.symm))

end Reply

/-- How work ends when an inquiry is answered so, if that ends it: with the fault of a ledger. -/
def Inquiry.abort? : (inquiry : Inquiry) → inquiry.Answer → Option Abort
  | .consult _ => fun reply =>
    match reply with
    | .ok _ => none
    | .error fault => some (.ofFault fault)
  | .createBill _ | .wallClock => fun _ => none

/-- Whether some work ends with the first fault of the ledger. -/
def Attempt.StopsAtFaults {α : Type} (work : Attempt α) : Prop := work.run.StopsAt Inquiry.abort?

/-- A query that has failed ends work with a fault of the ledger. -/
theorem Inquiry.tellsOfFault {query : Query} {reply : Except Fault query.Answer}
    (failed : bareReply reply = .error .failure) :
    Dialogue.TellsOfFault Inquiry.abort? (.consult query) reply := by
  obtain ⟨fault, rfl, isFault⟩ := bareReply_eq_failure failed
  exact ⟨.ofFault fault, rfl, isFault⟩

namespace Attempt

variable {α β : Type}

/-- Work that is done ends with the first fault. -/
theorem stopsAtFaults_pure (value : α) : (pure value : Attempt α).StopsAtFaults := trivial

/-- A query ends with its fault. -/
theorem stopsAtFaults_consult (query : Query) : (consult query).StopsAtFaults := by
  refine ⟨fun reply abort told => ?_, fun _ => trivial⟩
  cases reply with
  | ok value => contradiction
  | error fault =>
    obtain rfl : Abort.ofFault fault = abort := Option.some.inj told
    rfl

/-- A demand asks nothing of the ledger. -/
theorem stopsAtFaults_demand (condition : Bool) (refusal : Refusal) :
    (demand condition refusal).StopsAtFaults := by
  cases condition <;> trivial

/-- The gateway tells of no fault of the ledger. -/
theorem stopsAtFaults_createBill (request : BillRequest) : (createBill request).StopsAtFaults :=
  ⟨nofun, fun _ => trivial⟩

/-- The clock tells of no fault of the ledger. -/
theorem stopsAtFaults_wallClock : wallClock.StopsAtFaults := ⟨nofun, fun _ => trivial⟩

/-- Work that goes on ends with the first fault if its parts do. -/
theorem StopsAtFaults.bind {work : Attempt α} {next : α → Attempt β} (stops : work.StopsAtFaults)
    (stopsOn : ∀ value, (next value).StopsAtFaults) : (work >>= next).StopsAtFaults := by
  unfold StopsAtFaults
  rw [ExceptT.run_bind]
  exact Dialogue.StopsAt.bind stops stopsOn fun _ => rfl

end Attempt

namespace Transaction

open Attempt

/-- Redeeming a code ends with the first fault. -/
theorem stopsAtFaults_redeem (code : String) (now : Instant) :
    (Redemption.redeem code now).StopsAtFaults := by
  refine (stopsAtFaults_consult _).bind fun found => ?_
  cases found with
  | none => trivial
  | some referral =>
    have checked : (Attempt.check (Redemption.checkWindow referral now)).StopsAtFaults := trivial
    refine checked.bind fun _ => (stopsAtFaults_demand _ _).bind fun _ => ?_
    refine (stopsAtFaults_consult _).bind fun uses => ?_
    exact (stopsAtFaults_demand _ _).bind fun _ => stopsAtFaults_pure _

/-- Redeeming the code that a buyer entered ends with the first fault. -/
theorem stopsAtFaults_redeemEntered (request : PurchaseRequest) :
    (redeemEntered request).StopsAtFaults := by
  unfold redeemEntered
  cases request.referralCode with
  | none => trivial
  | some code =>
    refine stopsAtFaults_wallClock.bind fun now => ?_
    exact (stopsAtFaults_redeem code now).bind fun _ => stopsAtFaults_pure _

/-- Reserving tickets ends with the first fault. -/
theorem stopsAtFaults_reserve (event : Uuid) (name : String) (amount : Int64) :
    (Inventory.reserve event name amount).StopsAtFaults := by
  have checked : (Attempt.check (Inventory.checkAmount amount)).StopsAtFaults := trivial
  refine checked.bind fun _ => (stopsAtFaults_consult _).bind fun tickets => ?_
  refine (stopsAtFaults_demand _ _).bind fun _ => (stopsAtFaults_consult _).bind fun held => ?_
  exact (stopsAtFaults_demand _ _).bind fun _ => stopsAtFaults_pure _

/-- Recording the use of a code ends with the first fault. -/
theorem stopsAtFaults_recordUse (discount : Option DiscountSnapshot) (bill : Bill) :
    (recordUse discount bill).StopsAtFaults := by
  cases discount with
  | none => trivial
  | some snapshot => exact stopsAtFaults_consult _

/-- Holding tickets ends with the first fault. -/
theorem stopsAtFaults_holdWork (settings : CheckoutSettings) (event : Uuid)
    (request : PurchaseRequest) : (holdWork settings event request).StopsAtFaults := by
  have computed {α : Type} (result : Except Overflow α) : (compute result).StopsAtFaults := trivial
  refine (stopsAtFaults_redeemEntered request).bind fun discount => ?_
  refine (stopsAtFaults_reserve _ _ _).bind fun tickets => (computed _).bind fun price => ?_
  refine stopsAtFaults_wallClock.bind fun now => (computed _).bind fun expiry => ?_
  refine (stopsAtFaults_createBill _).bind fun bill => ?_
  exact (stopsAtFaults_recordUse discount bill).bind fun _ => stopsAtFaults_pure _

/-- Undoing a hold ends with the first fault. -/
theorem stopsAtFaults_undoWork (id : TrackingId) (tickets : List Uuid) (isRedeemed : Bool) :
    (undoWork id tickets isRedeemed).StopsAtFaults := by
  refine (stopsAtFaults_consult _).bind fun _ => ?_
  cases isRedeemed with
  | true => exact stopsAtFaults_consult _
  | false => trivial

/-- Releasing tickets ends with the first fault. -/
theorem stopsAtFaults_releaseWork (reservation : Reservation) :
    (releaseWork reservation).StopsAtFaults :=
  (stopsAtFaults_consult _).bind fun _ =>
    (stopsAtFaults_consult _).bind fun _ => stopsAtFaults_pure _

/-- Entering visitors ends with the first fault. -/
theorem stopsAtFaults_attendWork (event : Uuid) (tickets : List Uuid)
    (visitors : List VisitorDetails) : (attendWork event tickets visitors).StopsAtFaults := by
  induction tickets generalizing visitors with
  | nil => trivial
  | cons ticket tickets ih =>
    cases visitors with
    | nil => trivial
    | cons visitor visitors => exact (stopsAtFaults_consult _).bind fun _ => ih visitors

/-- Selling tickets ends with the first fault. -/
theorem stopsAtFaults_sellWork (reservation : Reservation) (notification : PaymentNotification) :
    (sellWork reservation notification).StopsAtFaults := by
  refine (stopsAtFaults_consult _).bind fun isRecorded => ?_
  cases isRecorded with
  | true => trivial
  | false =>
    refine (stopsAtFaults_consult _).bind fun _ => (stopsAtFaults_consult _).bind fun _ => ?_
    refine (stopsAtFaults_demand _ _).bind fun _ => ?_
    exact (stopsAtFaults_attendWork _ _ _).bind fun _ => stopsAtFaults_pure _

/-- Whatever is done within a transaction ends with the first fault. -/
theorem stopsAtFaults_work (transaction : Transaction) : transaction.work.StopsAtFaults := by
  cases transaction with
  | hold settings event request => exact stopsAtFaults_holdWork settings event request
  | undoHold id tickets isRedeemed => exact stopsAtFaults_undoWork id tickets isRedeemed
  | sell reservation notification => exact stopsAtFaults_sellWork reservation notification
  | release reservation => exact stopsAtFaults_releaseWork reservation
  | reclaim reservation => exact stopsAtFaults_releaseWork reservation

end Transaction

section Calls

variable {σ γ : Type} [Ledger σ]

/-- The call to the ledger by which an inquiry is answered. -/
def Inquiry.calls : (inquiry : Inquiry) → Desk σ γ → List LedgerCall
  | .consult query, desk => [.query query (bareReply (Ledger.answer query desk.ledger).1)]
  | .createBill _, _ | .wallClock, _ => []

/-- The call to the ledger by which a transaction is ended. -/
def Desk.closingCall {α : Type} (isRolledBack : Abort → Bool) (result : Except Abort α)
    (desk : Desk σ γ) : LedgerCall :=
  match result with
  | .ok _ => .commit (bareReply (Ledger.commit desk.ledger).1)
  | .error abort =>
    if isRolledBack abort then .rollBack (bareReply (Ledger.rollBack desk.ledger).1) else .abandon

/-- The calls to the ledger by which a transaction is carried out. -/
def Transaction.calls [Gateway γ] (transaction : Transaction) (desk : Desk σ γ) :
    List LedgerCall :=
  let opened := Ledger.openTransaction desk.ledger
  let begun := { desk with ledger := opened.2 }
  .opening (bareReply opened.1) ::
    match opened.1 with
    | .error _ => []
    | .ok _ =>
      let worked := begun.attempt transaction.work
      transaction.work.run.noted Desk.answer Inquiry.calls begun ++
        [worked.2.closingCall transaction.isRolledBack worked.1]

end Calls

namespace Desk

variable {σ τ γ α : Type}

/-- A desk with another ledger. -/
def overLedger (desk : Desk σ γ) (ledger : τ) : Desk τ γ := ⟨ledger, desk.gateway, desk.now⟩

/-- Whether two desks differ in their ledgers only. -/
def IsTwin (desk : Desk σ γ) (other : Desk τ γ) : Prop := ∃ ledger, other = desk.overLedger ledger

/-- A desk to whose ledger someone listens who has heard some calls. -/
def recording (calls : List LedgerCall) (desk : Desk σ γ) : Desk (RecordingLedger σ) γ :=
  desk.overLedger ⟨desk.ledger, calls⟩

variable [Ledger σ] [Ledger τ] [Gateway γ]

/-- Who listens hears the call by which an inquiry is answered, and changes nothing. -/
theorem answer_recording (inquiry : Inquiry) (earlier : List LedgerCall) (desk : Desk σ γ) :
    answer inquiry (desk.recording earlier) =
      ((answer inquiry desk).1,
        (answer inquiry desk).2.recording (earlier ++ inquiry.calls desk)) := by
  cases inquiry with
  | consult query => rfl
  | createBill request => simp only [Inquiry.calls, List.append_nil]; rfl
  | wallClock => simp only [Inquiry.calls, List.append_nil]; rfl

omit [Gateway γ] in
/-- Who listens hears the call by which a transaction is ended, and changes nothing. -/
theorem close_recording (isRolledBack : Abort → Bool) (result : Except Abort α)
    (earlier : List LedgerCall) (desk : Desk σ γ) :
    close isRolledBack result (desk.recording earlier) =
      ((close isRolledBack result desk).1, (close isRolledBack result desk).2.recording
        (earlier ++ [desk.closingCall isRolledBack result])) := by
  cases result with
  | ok value => rfl
  | error abort =>
    simp only [close, closingCall]
    split <;> rfl

/-- Who listens hears the calls by which a transaction is carried out, and changes nothing. -/
theorem perform_recording (transaction : Transaction) (earlier : List LedgerCall)
    (desk : Desk σ γ) : (desk.recording earlier).perform transaction =
      ((desk.perform transaction).1,
        (desk.perform transaction).2.recording (earlier ++ transaction.calls desk)) := by
  let begun : Desk σ γ := { desk with ledger := (Ledger.openTransaction desk.ledger).2 }
  have opens : Ledger.openTransaction (desk.recording earlier).ledger =
    ((Ledger.openTransaction desk.ledger).1, ⟨begun.ledger,
      earlier ++ [.opening (bareReply (Ledger.openTransaction desk.ledger).1)]⟩) := rfl
  simp only [perform, Transaction.calls, opens]
  cases (Ledger.openTransaction desk.ledger).1 with
  | error fault => rfl
  | ok value =>
    let heard := earlier ++ [.opening (bareReply (.ok value))]
    have worked := Dialogue.run_noting answer_recording transaction.work.run heard begun
    have closed := congrArg (fun worked : Except Abort transaction.Result × Desk _ γ =>
      close transaction.isRolledBack worked.1 worked.2) worked
    have ended := closed.trans (close_recording _ _ _ _)
    simp only [heard, List.append_assoc] at ended
    exact ended

/-- An inquiry at two desks is answered alike if the calls to their ledgers are the same. -/
theorem answer_alike (inquiry : Inquiry) {desk : Desk σ γ} {other : Desk τ γ}
    {rest restToo : List LedgerCall} (twins : desk.IsTwin other)
    (same : inquiry.calls desk ++ rest = inquiry.calls other ++ restToo) :
    ((answer inquiry desk).1 = (answer inquiry other).1 ∨
      Dialogue.TellsOfFault Inquiry.abort? inquiry (answer inquiry desk).1 ∧
      Dialogue.TellsOfFault Inquiry.abort? inquiry (answer inquiry other).1) ∧
    (answer inquiry desk).2.IsTwin (answer inquiry other).2 ∧ rest = restToo := by
  obtain ⟨ledger, rfl⟩ := twins
  cases inquiry with
  | createBill request => exact ⟨.inl rfl, ⟨ledger, rfl⟩, same⟩
  | wallClock => exact ⟨.inl rfl, ⟨ledger, rfl⟩, same⟩
  | consult query =>
    obtain ⟨first, others⟩ := List.cons.inj same
    refine ⟨?_, ⟨_, rfl⟩, others⟩
    have replies := eq_of_heq (LedgerCall.query.inj first).2
    rcases eq_or_failures_of_bareReply replies with equal | ⟨failed, failedToo⟩
    · exact .inl equal
    · exact .inr ⟨Inquiry.tellsOfFault failed, Inquiry.tellsOfFault failedToo⟩

omit [Gateway γ] in
/-- Two transactions whose work has come to the same are ended alike if the calls to their ledgers
are the same. -/
theorem close_alike_of_call {isRolledBack : Abort → Bool} {result resultToo : Except Abort α}
    {desk : Desk σ γ} {other : Desk τ γ} (twins : desk.IsTwin other)
    (alike : EndsAlike result resultToo)
    (same : desk.closingCall isRolledBack result = other.closingCall isRolledBack resultToo) :
    EndsAlike (close isRolledBack result desk).1 (close isRolledBack resultToo other).1 ∧
      (close isRolledBack result desk).2.IsTwin (close isRolledBack resultToo other).2 := by
  obtain ⟨ledger, rfl⟩ := twins
  have twinsLater : (close isRolledBack result desk).2.IsTwin
      (close isRolledBack resultToo (desk.overLedger ledger)).2 := by
    cases result <;> cases resultToo <;> exact ⟨_, rfl⟩
  refine ⟨?_, twinsLater⟩
  rcases alike with rfl | ⟨⟨abort, rfl, fault⟩, abortToo, rfl, faultToo⟩
  · cases result with
    | error abort => exact .inl rfl
    | ok value =>
      have replies := LedgerCall.commit.inj same
      simp only [close]
      rcases eq_or_failures_of_bareReply replies with equal | ⟨failed, failedToo⟩
      · exact .inl (by rw [equal])
      · exact .inr ⟨hasFailed_of_bareReply failed _, hasFailed_of_bareReply failedToo _⟩
  · exact .inr ⟨⟨abort, rfl, fault⟩, abortToo, rfl, faultToo⟩

/-- A transaction over two ledgers comes to the same, and leaves desks behind that differ in their
ledgers only, if the calls to the ledgers are the same but for the words of faults. -/
theorem perform_alike (transaction : Transaction) {desk : Desk σ γ} {other : Desk τ γ}
    {rest restToo : List LedgerCall} (twins : desk.IsTwin other)
    (same : transaction.calls desk ++ rest = transaction.calls other ++ restToo) :
    EndsAlike (desk.perform transaction).1 (other.perform transaction).1 ∧
      (desk.perform transaction).2.IsTwin (other.perform transaction).2 ∧ rest = restToo := by
  obtain ⟨ledger, rfl⟩ := twins
  simp only [Transaction.calls, List.cons_append] at same
  obtain ⟨first, others⟩ := List.cons.inj same
  have replies := LedgerCall.opening.inj first
  simp only [perform]
  rcases eq_or_failures_of_bareReply replies with equal | ⟨failed, failedToo⟩
  · cases begun : (Ledger.openTransaction desk.ledger).1 with
    | error fault =>
      rw [begun] at equal others
      rw [← equal] at others ⊢
      exact ⟨.inl rfl, ⟨_, rfl⟩, others⟩
    | ok _ =>
      rw [begun] at equal others
      rw [← equal] at others ⊢
      simp only [List.append_assoc] at others
      -- nothing said so far keeps the two works from taking different numbers of calls: that their
      -- closing calls face each other is what `run_alike` says about the rest
      obtain ⟨alike, twins, ending⟩ := (transaction.stopsAtFaults_work).run_alike
        (fun inquiry _ _ _ _ => answer_alike inquiry) ⟨_, rfl⟩ others
      obtain ⟨last, others⟩ := List.cons.inj ending
      obtain ⟨closed, twins⟩ := close_alike_of_call twins alike last
      exact ⟨closed, twins, others⟩
  · obtain ⟨fault, told, isFault⟩ := bareReply_eq_failure failed
    obtain ⟨faultToo, toldToo, isFaultToo⟩ := bareReply_eq_failure failedToo
    rw [told, toldToo] at others ⊢
    exact ⟨.inr ⟨⟨_, rfl, isFault⟩, _, rfl, isFaultToo⟩, ⟨_, rfl⟩, others⟩

/-- What tells of a failed call to the ledger is an answer that tells of a fault. -/
theorem answer_failed (inquiry : Inquiry) (desk : Desk σ γ) (call : LedgerCall)
    (member : call ∈ inquiry.calls desk) (failed : call.IsFailure) :
    Dialogue.TellsOfFault Inquiry.abort? inquiry (answer inquiry desk).1 := by
  cases inquiry with
  | createBill request => cases member
  | wallClock => cases member
  | consult query =>
    obtain rfl := List.mem_singleton.mp member
    exact Inquiry.tellsOfFault failed

omit [Gateway γ] in
/-- A transaction that could not be committed has come to a fault, and so has one whose work has. -/
theorem close_failed {isRolledBack : Abort → Bool} {result : Except Abort α} {desk : Desk σ γ}
    (failed : HasFailed result ∨ (desk.closingCall isRolledBack result).IsFailure) :
    HasFailed (close isRolledBack result desk).1 := by
  cases result with
  | error abort =>
    rcases failed with worked | closed
    · exact worked
    · simp only [closingCall] at closed
      split at closed <;> exact closed.elim
  | ok value =>
    rcases failed with ⟨abort, worked, -⟩ | closed
    · contradiction
    · exact hasFailed_of_bareReply closed _

/-- A transaction in which a call has failed has come to a fault. -/
theorem perform_failed (transaction : Transaction) {desk : Desk σ γ} {call : LedgerCall}
    (member : call ∈ transaction.calls desk) (failed : call.IsFailure) :
    HasFailed (desk.perform transaction).1 := by
  simp only [perform]
  rcases List.mem_cons.mp member with rfl | member
  · obtain ⟨fault, told, isFault⟩ := bareReply_eq_failure failed
    simp only [told]
    exact ⟨_, rfl, isFault⟩
  · cases begun : (Ledger.openTransaction desk.ledger).1 with
    | error fault =>
      rw [begun] at member
      cases member
    | ok _ =>
      rw [begun] at member
      rcases List.mem_append.mp member with worked | last
      · exact close_failed (.inl ((transaction.stopsAtFaults_work).run_failed answer_failed
          worked failed))
      · obtain rfl := List.mem_singleton.mp last
        exact close_failed (.inr failed)

end Desk

end BoxOffice
