import BoxOffice.Proofs.Engine.Bills
import BoxOffice.Proofs.Engine.Reversal
import BoxOffice.Proofs.Ledger.Objection

/-!
# What decides on a purchase

At an engine whose ledger in memory is not made to fail, a purchase meets an objection exactly if
something stands against the request, and that is all that is said of it. Otherwise it may still
come to nothing, as when the gateway is silent, but not with an objection. The gateway is asked for
a bill only if nothing stands against the request and its sums stay in range, and then for one.
-/
namespace BoxOffice

/-- Whether a service refuses because of what was asked for and what is left, and not because
something failed. -/
def Refusal.IsObjection : Refusal → Prop
  | .invalidArgument _ | .insufficientInventory .. | .referralNotFound _ | .referralExpired _
  | .referralExhausted _ => True
  | .gatewayUnavailable _ | .persistence _ | .unknownStatus _ => False

/-- Whether a computation ends with an objection. -/
def Abort.IsObjection : Abort → Prop
  | .refused refusal => refusal.IsObjection
  | .overflowed _ => False

/-- A fault of the ledger is no objection. -/
theorem Abort.not_isObjection_ofFault (fault : Fault) : ¬(ofFault fault).IsObjection := by
  cases fault <;> exact id

namespace Desk

variable {γ : Type} [Gateway γ] {desk : Desk MemoryLedger γ} {settings : CheckoutSettings}
  {event : Uuid} {request : PurchaseRequest}

omit [Gateway γ] in
/-- Where nothing is made to fail every point is passed. -/
theorem passes_of_sound (sound : desk.ledger.failing = []) (point : FailPoint) :
    point ∉ desk.ledger.failing :=
  sound ▸ List.not_mem_nil

/-- What becomes of a hold is what becomes of its draft. It ends for the same reason if there is
none, and otherwise it is billed; until then the gateway hears nothing. -/
theorem perform_hold (passes : .changeTicketStatus ∉ desk.ledger.failing)
    (distinct : desk.books.ticketIds.Nodup) (positive : 0 < request.amount.toInt) :
    let isRolledBack := (Transaction.hold settings event request).isRolledBack
    ∃ later : Desk MemoryLedger γ, later.gateway = desk.gateway ∧
      (∀ abort, desk.books.draft settings desk.now event request = .error abort →
        desk.perform (.hold settings event request) =
          close isRolledBack (.error abort : Except Abort Hold) later) ∧
      ∀ draft, desk.books.draft settings desk.now event request = .ok draft →
        desk.perform (.hold settings event request) =
          close isRolledBack (later.attempt (draft.bill settings request)).1
            (later.attempt (draft.bill settings request)).2 := by
  intro isRolledBack
  -- a transaction is opened on the books as they are, so what is staged is drafted alike
  let opened : Desk MemoryLedger γ := desk.withStaged desk.ledger.books
  have passes : .changeTicketStatus ∉ opened.ledger.failing := passes
  have distinct : opened.ledger.staged.ticketIds.Nodup := distinct
  obtain ⟨later, drafts, silent, -⟩ := attempt_draft passes distinct positive
  have drafts : opened.attempt (Draft.work settings event request) =
    (desk.books.draft settings desk.now event request, later) := drafts
  have performed : desk.perform (.hold settings event request) =
      close isRolledBack (opened.attempt (Transaction.holdWork settings event request)).1
        (opened.attempt (Transaction.holdWork settings event request)).2 := rfl
  rw [Draft.work_bill] at performed
  refine ⟨later, silent, fun abort undrafted => ?_, fun draft drafted => ?_⟩
  · rw [undrafted] at drafts
    rw [performed, attempt_bind_of_error drafts]
  · rw [drafted] at drafts
    rw [performed, Gives.attempt_bind drafts]

/-- A hold that cannot be drafted ends for the same reason, and the gateway hears nothing. -/
theorem perform_hold_undrafted {abort : Abort} (passes : .changeTicketStatus ∉ desk.ledger.failing)
    (distinct : desk.books.ticketIds.Nodup) (positive : 0 < request.amount.toInt)
    (undrafted : desk.books.draft settings desk.now event request = .error abort) :
    (desk.perform (.hold settings event request)).1 = .error abort ∧
      (desk.perform (.hold settings event request)).2.gateway = desk.gateway := by
  obtain ⟨later, silent, ends, -⟩ := perform_hold passes distinct positive
  rw [ends abort undrafted]
  exact ⟨rfl, silent⟩

/-- A bill is what the gateway makes of a request. -/
theorem attempt_createBill (billed : BillRequest) (desk : Desk MemoryLedger γ) :
    desk.attempt (Attempt.createBill billed) =
      ((Gateway.createBill billed desk.gateway).1.mapError fun fault =>
          .refused (.gatewayUnavailable fault),
        { desk with gateway := (Gateway.createBill billed desk.gateway).2 }) :=
  rfl

/-- What a query to the ledger ends with is no objection. -/
theorem not_isObjection_of_consult {query : Query} {abort : Abort}
    (ended : (desk.attempt (Attempt.consult query)).1 = .error abort) : ¬abort.IsObjection := by
  have told : (desk.attempt (Attempt.consult query)).1 =
    (Ledger.answer query desk.ledger).1.mapError Abort.ofFault := rfl
  rw [told] at ended
  cases answered : (Ledger.answer query desk.ledger).1 with
  | ok _ =>
    rw [answered] at ended
    contradiction
  | error fault =>
    rw [answered] at ended
    rw [← Except.error.inj ended]
    exact Abort.not_isObjection_ofFault fault

/-- What the record of a use ends with is no objection. -/
theorem not_isObjection_of_recordUse {discount : Option DiscountSnapshot} {bill : Bill}
    {abort : Abort}
    (ended : (desk.attempt (Transaction.recordUse discount bill)).1 = .error abort) :
    ¬abort.IsObjection := by
  cases discount with
  | none => contradiction
  | some snapshot => exact not_isObjection_of_consult ended

/-- What the undoing of a hold ends with is no objection. -/
theorem not_isObjection_of_undoWork {id : TrackingId} {tickets : List Uuid} {isRedeemed : Bool}
    {abort : Abort}
    (ended : (desk.attempt (Transaction.undoWork id tickets isRedeemed)).1 = .error abort) :
    ¬abort.IsObjection := by
  unfold Transaction.undoWork at ended
  rw [attempt_bind] at ended
  cases changed : desk.attempt (Attempt.changeStatus tickets .pending .available) with
  | mk result later =>
    rw [changed] at ended
    cases result with
    | error failure =>
      obtain rfl : failure = abort := Except.error.inj ended
      exact not_isObjection_of_consult (congrArg Prod.fst changed)
    | ok _ =>
      cases isRedeemed with
      | false => contradiction
      | true => exact not_isObjection_of_consult ended

/-- Billing a draft asks for its bill, and if it ends early, it does so without an objection. -/
theorem attempt_bill (settings : CheckoutSettings) (request : PurchaseRequest) (draft : Draft)
    (desk : Desk MemoryLedger γ) :
    (desk.attempt (draft.bill settings request)).2.gateway =
        Gateway.heard [draft.billRequest settings request] desk.gateway ∧
      ∀ abort, (desk.attempt (draft.bill settings request)).1 = .error abort →
        ¬abort.IsObjection := by
  let asked : Desk MemoryLedger γ := { desk with
    gateway := (Gateway.createBill (draft.billRequest settings request) desk.gateway).2 }
  have heard : asked.gateway = Gateway.heard [draft.billRequest settings request] desk.gateway :=
    rfl
  rw [Draft.bill, attempt_bind, attempt_createBill]
  cases (Gateway.createBill (draft.billRequest settings request) desk.gateway).1 with
  | error fault =>
    refine ⟨heard, fun abort ended => ?_⟩
    rw [← Except.error.inj ended]
    exact id
  | ok bill =>
    have recorded := (Transaction.isQuiet_recordUse draft.discount bill).gateway asked
    simp only [Except.mapError]
    rw [attempt_bind]
    cases entered : asked.attempt (Transaction.recordUse draft.discount bill) with
    | mk result later =>
      rw [entered] at recorded
      cases result with
      | ok _ =>
        refine ⟨recorded.trans heard, fun abort ended => ?_⟩
        contradiction
      | error abort =>
        refine ⟨recorded.trans heard, fun other ended => ?_⟩
        obtain rfl : abort = other := Except.error.inj ended
        exact not_isObjection_of_recordUse (congrArg Prod.fst entered)

omit [Gateway γ] in
/-- A transaction ends early with its work, or because of a fault when it is committed. -/
theorem close_stops {α : Type} {isRolledBack : Abort → Bool} {result : Except Abort α}
    {abort : Abort} (ended : (close isRolledBack result desk).1 = .error abort) :
    result = .error abort ∨ ∃ fault, abort = .ofFault fault := by
  cases result with
  | error failure => exact .inl ended
  | ok value =>
    simp only [close] at ended
    cases committed : (Ledger.commit desk.ledger).1 with
    | ok _ =>
      rw [committed] at ended
      contradiction
    | error fault =>
      rw [committed] at ended
      exact .inr ⟨fault, (Except.error.inj ended).symm⟩

/-- If a hold cannot be undone, it is so without an objection. -/
theorem not_isObjection_of_undoHold {id : TrackingId} {tickets : List Uuid} {isRedeemed : Bool}
    {abort : Abort}
    (ended : (desk.perform (.undoHold id tickets isRedeemed)).1 = .error abort) :
    ¬abort.IsObjection := by
  let opened : Desk MemoryLedger γ := desk.withStaged desk.ledger.books
  have performed : desk.perform (.undoHold id tickets isRedeemed) =
    close (Transaction.undoHold id tickets isRedeemed).isRolledBack
      (opened.attempt (Transaction.undoWork id tickets isRedeemed)).1
      (opened.attempt (Transaction.undoWork id tickets isRedeemed)).2 := rfl
  rw [performed] at ended
  rcases close_stops ended with stopped | ⟨fault, rfl⟩
  · exact not_isObjection_of_undoWork stopped
  · exact Abort.not_isObjection_ofFault fault

/-- Of a hold that can be drafted the gateway hears its bill, and if it ends early, it does so
without an objection. -/
theorem perform_hold_drafted (desk : Desk MemoryLedger γ) {draft : Draft}
    (passes : .changeTicketStatus ∉ desk.ledger.failing)
    (distinct : desk.books.ticketIds.Nodup) (positive : 0 < request.amount.toInt)
    (drafted : desk.books.draft settings desk.now event request = .ok draft) :
    (desk.perform (.hold settings event request)).2.gateway =
        Gateway.heard [draft.billRequest settings request] desk.gateway ∧
      ∀ abort, (desk.perform (.hold settings event request)).1 = .error abort →
        ¬abort.IsObjection := by
  obtain ⟨later, silent, -, bills⟩ := perform_hold passes distinct positive
  obtain ⟨heard, ends⟩ := attempt_bill settings request draft later
  rw [bills draft drafted, close_gateway]
  refine ⟨heard.trans (congrArg (Gateway.heard _) silent), fun abort ended => ?_⟩
  rcases close_stops ended with stopped | ⟨fault, rfl⟩
  · exact ends abort stopped
  · exact Abort.not_isObjection_ofFault fault

end Desk

namespace Engine

variable {γ : Type} [Gateway γ] {engine : Engine MemoryLedger γ} {settings : CheckoutSettings}
  {event : Uuid} {request : PurchaseRequest}

/-- A purchase that passes the check goes on with its hold. -/
theorem buy_of_checked (checked : Checkout.check request = .ok ()) :
    (engine.buy settings event request).1 =
      (run (Checkout.afterHold event request
          (engine.desk.perform (.hold settings event request)).1)
        { engine with desk := (engine.desk.perform (.hold settings event request)).2 }).1 := by
  show (engine.run (Checkout.buy settings event request)).1 = _
  rw [Checkout.buy_of_checked checked]
  rfl

/-- A purchase whose hold was committed ends without an objection. -/
theorem not_isObjection_of_held {hold : Hold} {abort : Abort}
    (ended : (engine.run (Checkout.afterHold event request (.ok hold))).1 = .error abort) :
    ¬abort.IsObjection := by
  let reservation := Checkout.reservationOf event request hold engine.desk.now
  have asks : engine.run (Checkout.afterHold event request (.ok hold)) =
      (answer (.putReservation reservation) engine).2.run (Checkout.afterPut event request hold
        (answer (.putReservation reservation) engine).1) := rfl
  rw [asks] at ended
  cases opened : engine.store.get? reservation.id with
  | none =>
    rw [answer_put_absent opened] at ended
    contradiction
  | some present =>
    rw [answer_put_present opened] at ended
    have undone : (engine.run (Checkout.afterPut event request hold false)).1 =
        ((engine.desk.perform (.undoHold hold.bill.trackingId (hold.tickets.map (·.id))
          hold.discount.isSome)).1 >>= fun _ =>
            .error (.ofFault (.reservationOpen hold.bill.trackingId))) := rfl
    rw [undone] at ended
    cases came : (engine.desk.perform (.undoHold hold.bill.trackingId (hold.tickets.map (·.id))
        hold.discount.isSome)).1 with
    | error failure =>
      rw [came] at ended
      obtain rfl : failure = abort := Except.error.inj ended
      exact Desk.not_isObjection_of_undoHold came
    | ok _ =>
      rw [came] at ended
      rw [← Except.error.inj ended]
      exact Abort.not_isObjection_ofFault _

/-- If a purchase cannot be drafted, it ends for the same reason and the gateway hears nothing. -/
theorem buy_of_undrafted (engine : Engine MemoryLedger γ) {abort : Abort}
    (sound : engine.desk.ledger.failing = [])
    (distinct : engine.desk.books.ticketIds.Nodup) (formed : ¬request.IsMalformed)
    (undrafted : engine.desk.books.draft settings engine.desk.now event request = .error abort) :
    (engine.buy settings event request).1 = .error abort ∧
      (engine.buy settings event request).2.desk.gateway = engine.desk.gateway := by
  have checked := Checkout.check_eq_ok.mpr formed
  have positive := PurchaseRequest.positive_of_formed formed
  have passes := Desk.passes_of_sound sound .changeTicketStatus
  obtain ⟨ends, silent⟩ := Desk.perform_hold_undrafted passes distinct positive undrafted
  rw [buy_of_checked checked, ends, engine.buy_gateway checked]
  exact ⟨rfl, silent⟩

/-- If a purchase can be drafted, it meets no objection. -/
theorem not_isObjection_of_drafted {draft : Draft} (sound : engine.desk.ledger.failing = [])
    (distinct : engine.desk.books.ticketIds.Nodup) (formed : ¬request.IsMalformed)
    (drafted : engine.desk.books.draft settings engine.desk.now event request = .ok draft)
    {abort : Abort} (ended : (engine.buy settings event request).1 = .error abort) :
    ¬abort.IsObjection := by
  have checked := Checkout.check_eq_ok.mpr formed
  have positive := PurchaseRequest.positive_of_formed formed
  have passes := Desk.passes_of_sound sound .changeTicketStatus
  obtain ⟨-, ends⟩ := engine.desk.perform_hold_drafted passes distinct positive drafted
  rw [buy_of_checked checked] at ended
  cases held : (engine.desk.perform (.hold settings event request)).1 with
  | error failure =>
    rw [held] at ended
    obtain rfl : failure = abort := Except.error.inj ended
    exact ends failure held
  | ok hold =>
    rw [held] at ended
    exact not_isObjection_of_held ended

end Engine

/-- How it is decided on a purchase: the objections that it can meet, each with what has to be so
for it, and the bills that the gateway is asked for. -/
structure IsDecided (books : Books) (now : Instant) (settings : CheckoutSettings) (event : Uuid)
    (request : PurchaseRequest) (result : Except Abort Receipt) (bills : List BillRequest) :
    Prop where
  /-- The request makes no sense. -/
  malformed : (∃ fault, result = .error (.refused (.invalidArgument fault))) ↔ request.IsMalformed
  /-- There is no such code. -/
  unknown (code : String) : result = .error (.refused (.referralNotFound code)) ↔
    ¬request.IsMalformed ∧ request.referralCode = some code ∧
      ∀ referral ∈ books.codes, referral.code ≠ code
  /-- The code is out of date. -/
  expired (code : String) : result = .error (.refused (.referralExpired code)) ↔
    ¬request.IsMalformed ∧ request.referralCode = some code ∧
      ∃ referral ∈ books.codes, referral.code = code ∧ referral.IsShutAt now
  /-- The code is used up. -/
  exhausted (code : String) : result = .error (.refused (.referralExhausted code)) ↔
    ¬request.IsMalformed ∧ request.referralCode = some code ∧
      ∃ referral ∈ books.codes, referral.code = code ∧ ¬referral.IsShutAt now ∧
        books.IsUsedUp referral
  /-- There are too few tickets. -/
  short (requested available : Int) :
    result = .error (.refused (.insufficientInventory requested available)) ↔
      ¬request.IsMalformed ∧ books.Honours now request ∧ requested = request.amount.toInt ∧
        available = books.count event request.ticketName .available ∧ available < requested
  /-- If nothing stands against the request and its sums stay in range, one bill is asked for. -/
  billed (price : PriceQuote) (expiry : Instant) : books.Serves now event request →
    books.quote settings event request = .ok price →
      now.addMinutes settings.billMinutes = .ok expiry →
        bills = [Transaction.billRequest settings request.ticketName price.total expiry]
  /-- Otherwise none is asked for. -/
  silent : ¬books.Serves now event request ∨
    (∃ overflow, books.quote settings event request = .error overflow) ∨
      (∃ overflow, now.addMinutes settings.billMinutes = .error overflow) → bills = []

namespace Engine

variable {γ : Type} [Gateway γ] {engine : Engine MemoryLedger γ} {settings : CheckoutSettings}
  {event : Uuid} {request : PurchaseRequest}

/-- A purchase is refused with an objection exactly if that stands against the request. -/
theorem buy_objects (sound : engine.desk.ledger.failing = [])
    (distinct : engine.desk.books.ticketIds.Nodup)
    (unique : (engine.desk.books.codes.map (·.code)).Nodup) {refusal : Refusal}
    (objection : refusal.IsObjection) :
    (engine.buy settings event request).1 = .error (.refused refusal) ↔
      engine.desk.books.Objects engine.desk.now event request refusal := by
  cases checked : Checkout.check request with
  | error found =>
    have malformed : ¬¬request.IsMalformed := fun formed =>
      nomatch checked.symm.trans (Checkout.check_eq_ok.mpr formed)
    rw [(engine.buy_of_failed checked).1]
    constructor
    · intro same
      obtain rfl := Abort.refused.inj (Except.error.inj same)
      exact .malformed checked
    · intro objects
      cases objects with
      | malformed failed => rw [Except.error.inj (checked.symm.trans failed)]
      | barred formed bars => exact absurd formed malformed
      | short formed honours few => exact absurd formed malformed
  | ok _ =>
    have formed := Checkout.check_eq_ok.mp checked
    have objects : engine.desk.books.draft settings engine.desk.now event request =
        .error (.refused refusal) ↔
          engine.desk.books.Objects engine.desk.now event request refusal :=
      Books.draft_eq_objection unique formed
    rw [← objects]
    cases drafted : engine.desk.books.draft settings engine.desk.now event request with
    | error abort =>
      rw [(engine.buy_of_undrafted sound distinct formed drafted).1]
      constructor <;> exact fun same => congrArg Except.error (Except.error.inj same)
    | ok draft =>
      refine ⟨fun ended => ?_, nofun⟩
      exact absurd objection (not_isObjection_of_drafted sound distinct formed drafted ended)

/-- A purchase that can be drafted asks for the bill of its draft, and for no other. -/
theorem billsOf_drafted {draft : Draft}
    (passes : .changeTicketStatus ∉ engine.desk.ledger.failing)
    (distinct : engine.desk.books.ticketIds.Nodup) (formed : ¬request.IsMalformed)
    (drafted : engine.desk.books.draft settings engine.desk.now event request = .ok draft) :
    engine.billsOf (Checkout.buy settings event request) =
      [draft.billRequest settings request] := by
  have positive := PurchaseRequest.positive_of_formed formed
  obtain ⟨heard, -⟩ :=
    engine.recorded.desk.perform_hold_drafted passes distinct positive drafted
  have asked : (engine.recorded.buy settings event request).2.desk.gateway = _ :=
    engine.recorded.buy_gateway (Checkout.check_eq_ok.mpr formed)
  have kept := congrArg RecordingGateway.requests (asked.trans heard)
  rw [RecordingGateway.requests_heard] at kept
  exact kept

/-- A purchase that nothing stands against and whose sums stay in range asks for its bill. -/
theorem billsOf_served {price : PriceQuote} {expiry : Instant}
    (sound : engine.desk.ledger.failing = []) (distinct : engine.desk.books.ticketIds.Nodup)
    (unique : (engine.desk.books.codes.map (·.code)).Nodup)
    (serves : engine.desk.books.Serves engine.desk.now event request)
    (quoted : engine.desk.books.quote settings event request = .ok price)
    (dated : engine.desk.now.addMinutes settings.billMinutes = .ok expiry) :
    engine.billsOf (Checkout.buy settings event request) =
      [Transaction.billRequest settings request.ticketName price.total expiry] := by
  have passes := Desk.passes_of_sound sound .changeTicketStatus
  obtain ⟨draft, drafted, rfl, rfl⟩ :=
    (Books.draft_eq_served unique serves.formed).mpr ⟨serves, quoted, dated⟩
  exact billsOf_drafted passes distinct serves.formed drafted

/-- A purchase that something stands against, or one of whose sums leaves its range, asks for no
bill. -/
theorem billsOf_unserved (sound : engine.desk.ledger.failing = [])
    (distinct : engine.desk.books.ticketIds.Nodup)
    (unique : (engine.desk.books.codes.map (·.code)).Nodup)
    (unserved : ¬(engine.desk.books.Serves engine.desk.now event request ∧
      ∃ price, engine.desk.books.quote settings event request = .ok price ∧
        ∃ expiry, engine.desk.now.addMinutes settings.billMinutes = .ok expiry)) :
    engine.billsOf (Checkout.buy settings event request) = [] := by
  have silent : (engine.recorded.buy settings event request).2.desk.gateway =
      engine.recorded.desk.gateway := by
    cases checked : Checkout.check request with
    | error refusal => exact (engine.recorded.buy_of_failed checked).2
    | ok _ =>
      have formed := Checkout.check_eq_ok.mp checked
      cases drafted : engine.desk.books.draft settings engine.desk.now event request with
      | error abort =>
        exact (engine.recorded.buy_of_undrafted sound distinct formed drafted).2
      | ok draft =>
        obtain ⟨serves, quoted, dated⟩ :=
          (Books.draft_eq_served unique formed).mp ⟨draft, drafted, rfl, rfl⟩
        exact absurd ⟨serves, _, quoted, _, dated⟩ unserved
  exact congrArg RecordingGateway.requests silent

end Engine

/-- It is decided on every purchase by the request, the books and the time. Whatever has happened at
an engine and whatever its gateway answers, if its ledger is not made to fail, no two tickets have
one identifier and no two codes one text, then a purchase is refused for a request that makes no
sense, for a code that is unknown, out of date or used up, and for too few tickets exactly when that
is so and nothing before it is; and too few tickets are counted exactly. The gateway is asked for
one bill if none of this is so and neither the price nor the date is out of range, and for none
otherwise. -/
theorem Checkout.purchase_is_decided {γ : Type} [Gateway γ] {engine : Engine MemoryLedger γ}
    (sound : engine.desk.ledger.failing = []) (distinct : engine.desk.books.ticketIds.Nodup)
    (unique : (engine.desk.books.codes.map (·.code)).Nodup) (settings : CheckoutSettings)
    (event : Uuid) (request : PurchaseRequest) :
    IsDecided engine.desk.books engine.desk.now settings event request
      (engine.buy settings event request).1
      (engine.billsOf (Checkout.buy settings event request)) := by
  have objects (refusal : Refusal) (objection : refusal.IsObjection) :
      (engine.buy settings event request).1 = .error (.refused refusal) ↔
        engine.desk.books.Objects engine.desk.now event request refusal :=
    Engine.buy_objects sound distinct unique objection
  constructor
  case malformed =>
    rw [← Books.Objects.malformed_iff]
    exact exists_congr fun fault => objects (.invalidArgument fault) trivial
  case unknown =>
    intro code
    exact (objects (.referralNotFound code) trivial).trans Books.Objects.unknown_iff
  case expired =>
    intro code
    exact (objects (.referralExpired code) trivial).trans Books.Objects.expired_iff
  case exhausted =>
    intro code
    exact (objects (.referralExhausted code) trivial).trans Books.Objects.exhausted_iff
  case short =>
    intro requested available
    exact (objects (.insufficientInventory requested available) trivial).trans
      Books.Objects.short_iff
  case billed =>
    exact fun price expiry => Engine.billsOf_served sound distinct unique
  case silent =>
    intro reasons
    apply Engine.billsOf_unserved sound distinct unique
    rintro ⟨serves, price, quoted, expiry, dated⟩
    rcases reasons with unserved | ⟨overflow, failed⟩ | ⟨overflow, failed⟩
    · exact unserved serves
    · exact nomatch quoted.symm.trans failed
    · exact nomatch dated.symm.trans failed

namespace Matinee

/-- An office where two tickets are on sale and a code was issued. -/
def quietOffice : Engine MemoryLedger ScriptedGateway := quietSeason.ending

/-- Someone asks for three tickets. -/
def family : PurchaseRequest := ⟨"A", 3, none, [.empty, .empty, .empty]⟩

end Matinee

/-- Three tickets are asked for where two are left, and no bill is made; one is asked for at the
price of the code, and one bill is made. -/
theorem Checkout.purchase_is_decided_matinee :
    (Matinee.quietOffice.buy ⟨0, 30, ""⟩ Matinee.event Matinee.family).1 =
        .error (.refused (.insufficientInventory 3 2)) ∧
      Matinee.quietOffice.billsOf (buy ⟨0, 30, ""⟩ Matinee.event Matinee.family) = [] ∧
        (Matinee.quietOffice.billsOf
          (buy ⟨0, 30, ""⟩ Matinee.event Matinee.discounted)).map (·.amount) = [50] := by
  have unique : (Matinee.quietOffice.desk.books.codes.map (·.code)).Nodup := by decide
  have decided (request : PurchaseRequest) :
      IsDecided Matinee.quietOffice.desk.books Matinee.quietOffice.desk.now ⟨0, 30, ""⟩
        Matinee.event request
        (Matinee.quietOffice.buy ⟨0, 30, ""⟩ Matinee.event request).1
        (Matinee.quietOffice.billsOf (buy ⟨0, 30, ""⟩ Matinee.event request)) :=
    purchase_is_decided rfl (by decide) unique ⟨0, 30, ""⟩ Matinee.event request
  have formed : ¬Matinee.family.IsMalformed := check_eq_ok.mp rfl
  have honours : Matinee.quietOffice.desk.books.Honours Matinee.quietOffice.desk.now
    Matinee.family := fun _ entered => nomatch entered
  have short := ((decided Matinee.family).short 3 2).mpr ⟨formed, honours, rfl, rfl, by decide⟩
  refine ⟨short, ?_, ?_⟩
  · apply (decided Matinee.family).silent
    exact .inl fun serves => absurd serves.enough (by decide)
  · have serves : Matinee.quietOffice.desk.books.Serves Matinee.quietOffice.desk.now
        Matinee.event Matinee.discounted :=
      ⟨check_eq_ok.mp rfl, (Books.grant_eq_ok unique).mp ⟨_, rfl⟩, by decide⟩
    have quoted : Matinee.quietOffice.desk.books.quote ⟨0, 30, ""⟩ Matinee.event
      Matinee.discounted = .ok ⟨100, 50, 0, 50⟩ := rfl
    rw [(decided Matinee.discounted).billed _ _ serves quoted rfl]
    rfl

end BoxOffice
