import BoxOffice.Checkout
import BoxOffice.Proofs.Ledger.Draft
import Mathlib.Data.List.TakeWhile

/-!
# What stands against a request

A request may make no sense, its code may be unknown, out of date or used up, and too few tickets
may be left. Each is said of the request and the books alone, without the order in which a purchase
looks at them. `Books.Bars` is what stands against a code, and `Books.Serves` is that nothing stands
against a request; where no two codes have one text, a hold is drafted if nothing does and its sums
stay in range.
-/
namespace BoxOffice

namespace Text

/-- Leading blanks count for nothing when a text is asked whether all of it is blank. -/
theorem isBlank_trimStart {text : List Char} :
    (∀ character ∈ trimStart text, isBlank character = true) ↔
      ∀ character ∈ text, isBlank character = true := by
  constructor
  · intro blank character member
    rw [← text.takeWhile_append_dropWhile (p := isBlank), List.mem_append] at member
    rcases member with leading | rest
    · exact List.mem_takeWhile_imp leading
    · exact blank character rest
  · exact fun blank character member => blank character (text.dropWhile_subset isBlank member)

/-- Nothing is left between the blanks at both ends of a text if and only if all of it is blank. -/
theorem isEmpty_trim {text : String} :
    (trim text).isEmpty = true ↔ ∀ character ∈ text.toList, isBlank character = true := by
  rw [trim, String.isEmpty_iff, String.ofList_eq_empty_iff, trimCharacters, List.reverse_eq_nil_iff,
    trimStart, List.dropWhile_eq_nil_iff]
  simp only [List.mem_reverse]
  exact isBlank_trimStart

end Text

/-- Whether a request makes no sense: it is for no tickets, for tickets without a name, or for
another number of visitors. -/
def PurchaseRequest.IsMalformed (request : PurchaseRequest) : Prop :=
  request.amount.toInt ≤ 0 ∨
    (∀ character ∈ request.ticketName.toList, Text.isBlank character = true) ∨
      (request.visitors.length : Int) ≠ request.amount.toInt

/-- A request that makes sense is for some tickets. -/
theorem PurchaseRequest.positive_of_formed {request : PurchaseRequest}
    (formed : ¬request.IsMalformed) : 0 < request.amount.toInt :=
  Int.not_le.mp fun few => formed (.inl few)

namespace Checkout

variable {request : PurchaseRequest}

/-- A request passes the check if and only if it makes sense. -/
theorem check_eq_ok : check request = .ok () ↔ ¬request.IsMalformed := by
  simp only [check, Inventory.checkAmount, PurchaseRequest.IsMalformed, ← Text.isEmpty_trim]
  by_cases few : request.amount.toInt ≤ 0
  · simp only [few, ↓reduceIte, true_or, not_true_eq_false, reduceCtorEq]
  by_cases blank : (Text.trim request.ticketName).isEmpty = true
  · simp only [few, blank, ↓reduceIte, true_or, or_true, not_true_eq_false, reduceCtorEq]
  by_cases unequal : (request.visitors.length : Int) ≠ request.amount.toInt
  · simp only [few, blank, ↓reduceIte, ne_eq, unequal, not_false_eq_true, or_true,
      not_true_eq_false, reduceCtorEq]
  · simp only [few, blank, Bool.false_eq_true, ↓reduceIte, unequal, or_self, not_false_eq_true]

/-- A request that does not pass the check is found to make no sense. -/
theorem check_eq_error {refusal : Refusal} (failed : check request = .error refusal) :
    ∃ fault, refusal = .invalidArgument fault := by
  simp only [check, Inventory.checkAmount] at failed
  by_cases few : request.amount.toInt ≤ 0
  · simp only [few, ↓reduceIte] at failed
    exact ⟨_, (Except.error.inj failed).symm⟩
  simp only [few, ↓reduceIte] at failed
  split at failed
  · exact ⟨_, (Except.error.inj failed).symm⟩
  split at failed
  · exact ⟨_, (Except.error.inj failed).symm⟩
  · cases failed

end Checkout

/-- Whether a code is not valid at some time: its window has yet to open, or has closed. -/
def ReferralCode.IsShutAt (referral : ReferralCode) (now : Instant) : Prop :=
  now.isBefore referral.validFrom = true ∨
    ∃ close, referral.validUntil = some close ∧ close.isBefore now = true

/-- A code is valid unless its window is shut. -/
theorem ReferralCode.isValidAt_eq_false {referral : ReferralCode} {now : Instant} :
    referral.isValidAt now = false ↔ referral.IsShutAt now := by
  simp only [isValidAt, IsShutAt, Bool.and_eq_false_iff, Bool.not_eq_false', Option.any_eq_true]

namespace Books

variable {books : Books} {now : Instant} {event : Uuid} {request : PurchaseRequest}

/-- Whether a code has been used as often as it may, by its own counter or by the uses on record. -/
def IsUsedUp (books : Books) (referral : ReferralCode) : Prop :=
  referral.maxUses ≠ -1 ∧ (referral.maxUses.toInt ≤ referral.currentUses.toInt ∨
    referral.maxUses.toInt ≤ books.usageCount referral.id)

/-- A code is used up if its counter or the number of its uses exhausts it. -/
theorem isUsedUp_iff {referral : ReferralCode} :
    books.IsUsedUp referral ↔ referral.isExhaustedBy referral.currentUses.toInt = true ∨
      referral.isExhaustedBy (books.usageCount referral.id) = true := by
  simp only [IsUsedUp, ReferralCode.isExhaustedBy, ReferralCode.isUnlimited,
    ReferralCode.unlimitedUses, Bool.and_eq_true, Bool.not_eq_true', beq_eq_false_iff_ne,
    decide_eq_true_eq, and_or_left]

/-- What stands against the code of a request. -/
inductive Bars (books : Books) (now : Instant) (request : PurchaseRequest) : Refusal → Prop where
  /-- There is no such code. -/
  | unknown {code : String} (entered : request.referralCode = some code)
    (missing : ∀ referral ∈ books.codes, referral.code ≠ code) :
    Bars books now request (.referralNotFound code)
  /-- The code is out of date. -/
  | expired {referral : ReferralCode} (entered : request.referralCode = some referral.code)
    (issued : referral ∈ books.codes) (shut : referral.IsShutAt now) :
    Bars books now request (.referralExpired referral.code)
  /-- The code is used up. -/
  | exhausted {referral : ReferralCode} (entered : request.referralCode = some referral.code)
    (issued : referral ∈ books.codes) (isOpen : ¬referral.IsShutAt now)
    (spent : books.IsUsedUp referral) : Bars books now request (.referralExhausted referral.code)

/-- Whether the code of a request, if there is one, is known, up to date and not used up. -/
def Honours (books : Books) (now : Instant) (request : PurchaseRequest) : Prop :=
  ∀ code, request.referralCode = some code → ∃ referral ∈ books.codes,
    referral.code = code ∧ ¬referral.IsShutAt now ∧ ¬books.IsUsedUp referral

/-- Whether nothing stands against a request. -/
structure Serves (books : Books) (now : Instant) (event : Uuid) (request : PurchaseRequest) :
    Prop where
  /-- The request makes sense. -/
  formed : ¬request.IsMalformed
  /-- Its code is honoured. -/
  honoured : books.Honours now request
  /-- There are enough tickets. -/
  enough : request.amount.toInt ≤ books.count event request.ticketName .available

/-- What stands against a request: that it makes no sense, or else what stands against its code, or
else that there are too few tickets. -/
inductive Objects (books : Books) (now : Instant) (event : Uuid) (request : PurchaseRequest) :
    Refusal → Prop where
  /-- The request makes no sense. -/
  | malformed {refusal : Refusal} (failed : Checkout.check request = .error refusal) :
    Objects books now event request refusal
  /-- The code is barred. -/
  | barred {refusal : Refusal} (formed : ¬request.IsMalformed)
    (bars : books.Bars now request refusal) : Objects books now event request refusal
  /-- There are too few tickets. -/
  | short (formed : ¬request.IsMalformed) (honours : books.Honours now request)
    (few : (books.count event request.ticketName .available : Int) < request.amount.toInt) :
    Objects books now event request (.insufficientInventory request.amount.toInt
      (books.count event request.ticketName .available))

/-- A code is found by its text where no two codes have one text. -/
theorem referralCode_eq_some (unique : (books.codes.map (·.code)).Nodup) {code : String}
    {referral : ReferralCode} :
    books.referralCode code = some referral ↔ referral ∈ books.codes ∧ referral.code = code := by
  constructor
  · intro found
    have alike := List.find?_some found
    exact ⟨List.mem_of_find?_eq_some found, of_decide_eq_true alike⟩
  · rintro ⟨issued, same⟩
    cases found : books.referralCode code with
    | none =>
      have other := List.find?_eq_none.mp found referral issued
      exact absurd (decide_eq_true same) other
    | some first =>
      have among : first ∈ books.codes := List.mem_of_find?_eq_some found
      have alike := List.find?_some found
      have alike : first.code = code := of_decide_eq_true alike
      rw [List.inj_on_of_nodup_map unique among issued (alike.trans same.symm)]

/-- No code is found where none has the text. -/
theorem referralCode_eq_none {code : String} :
    books.referralCode code = none ↔ ∀ referral ∈ books.codes, referral.code ≠ code := by
  simp only [referralCode, List.find?_eq_none, decide_eq_true_eq, ne_eq]

/-- What becomes of a code that is found: it may be out of date, or else used up, or else it grants
its discount. -/
theorem redeem_of_found (now : Instant) {code : String} {referral : ReferralCode}
    (found : books.referralCode code = some referral) :
    (referral.IsShutAt now ∧ books.redeem now code = .error (.referralExpired referral.code)) ∨
      (¬referral.IsShutAt now ∧ books.IsUsedUp referral ∧
        books.redeem now code = .error (.referralExhausted referral.code)) ∨
      (¬referral.IsShutAt now ∧ ¬books.IsUsedUp referral ∧
        books.redeem now code = .ok referral.snapshot) := by
  simp only [redeem, found, isUsedUp_iff, ← ReferralCode.isValidAt_eq_false]
  cases referral.isValidAt now with
  | false => exact .inl ⟨rfl, rfl⟩
  | true =>
    have within : ¬true = false := by decide
    cases referral.isExhaustedBy referral.currentUses.toInt with
    | true => exact .inr (.inl ⟨within, .inl rfl, rfl⟩)
    | false =>
      cases referral.isExhaustedBy (books.usageCount referral.id) with
      | true => exact .inr (.inl ⟨within, .inr rfl, rfl⟩)
      | false =>
        have spared : ¬(false = true ∨ false = true) := by decide
        exact .inr (.inr ⟨within, spared, rfl⟩)

/-- Either something stands against the code of a request and it is denied for that, or the code is
honoured and a discount is granted. -/
theorem grant_fate (books : Books) (now : Instant) (request : PurchaseRequest) :
    (∃ refusal, books.Bars now request refusal ∧ books.grant now request = .error refusal) ∨
      books.Honours now request ∧ ∃ discount, books.grant now request = .ok discount := by
  cases entered : request.referralCode with
  | none =>
    have honours : books.Honours now request := fun code same => nomatch entered.symm.trans same
    have granted : books.grant now request = .ok none := by simp only [grant, entered]
    exact .inr ⟨honours, none, granted⟩
  | some code =>
    have redeemed : books.grant now request = (books.redeem now code).map some := by
      simp only [grant, entered]
    rw [redeemed]
    cases found : books.referralCode code with
    | none =>
      refine .inl ⟨_, .unknown entered (referralCode_eq_none.mp found), ?_⟩
      simp only [redeem, found]
      rfl
    | some referral =>
      have alike := List.find?_some found
      have issued : referral ∈ books.codes := List.mem_of_find?_eq_some found
      obtain rfl : referral.code = code := of_decide_eq_true alike
      rcases redeem_of_found now found with ⟨shut, fate⟩ | ⟨opened, spent, fate⟩ |
        ⟨opened, unspent, fate⟩
      · exact .inl ⟨_, .expired entered issued shut, by rw [fate]; rfl⟩
      · exact .inl ⟨_, .exhausted entered issued opened spent, by rw [fate]; rfl⟩
      · refine .inr ⟨fun other same => ?_, some referral.snapshot, by rw [fate]; rfl⟩
        exact ⟨referral, issued, Option.some.inj (entered.symm.trans same), opened, unspent⟩

section Unique

variable (unique : (books.codes.map (·.code)).Nodup)

include unique

/-- A code is denied for what stands against it, and for nothing else. -/
theorem grant_eq_error {refusal : Refusal} :
    books.grant now request = .error refusal ↔ books.Bars now request refusal := by
  constructor
  · intro denied
    rcases books.grant_fate now request with ⟨found, bars, fate⟩ | ⟨-, discount, granted⟩
    · obtain rfl := Except.error.inj (fate.symm.trans denied)
      exact bars
    · exact nomatch granted.symm.trans denied
  · intro bars
    cases bars with
    | unknown entered missing =>
      simp only [grant, entered, redeem, referralCode_eq_none.mpr missing]
      rfl
    | expired entered issued shut =>
      have found := (referralCode_eq_some unique).mpr ⟨issued, rfl⟩
      rcases redeem_of_found now found with ⟨-, fate⟩ | ⟨opened, -⟩ | ⟨opened, -⟩
      · simp only [grant, entered, fate]
        rfl
      · contradiction
      · contradiction
    | exhausted entered issued opened spent =>
      have found := (referralCode_eq_some unique).mpr ⟨issued, rfl⟩
      rcases redeem_of_found now found with ⟨shut, -⟩ | ⟨-, -, fate⟩ | ⟨-, unspent, -⟩
      · contradiction
      · simp only [grant, entered, fate]
        rfl
      · contradiction

/-- A discount is granted if the code is honoured, and not otherwise. -/
theorem grant_eq_ok :
    (∃ discount, books.grant now request = .ok discount) ↔ books.Honours now request := by
  constructor
  · rintro ⟨discount, granted⟩
    rcases books.grant_fate now request with ⟨refusal, -, denied⟩ | ⟨honours, -⟩
    · exact nomatch denied.symm.trans granted
    · exact honours
  · intro honours
    cases entered : request.referralCode with
    | none => exact ⟨none, by simp only [grant, entered]⟩
    | some code =>
      obtain ⟨referral, issued, same, opened, unspent⟩ := honours code entered
      have found := (referralCode_eq_some unique).mpr ⟨issued, same⟩
      rcases redeem_of_found now found with ⟨shut, -⟩ | ⟨-, spent, -⟩ | ⟨-, -, fate⟩
      · contradiction
      · contradiction
      · refine ⟨some referral.snapshot, ?_⟩
        simp only [grant, entered, fate]
        rfl

end Unique

/-- Too few tickets are offered if fewer than asked for can be held, and all that can are counted.
-/
theorem offer_eq_error {refusal : Refusal} :
    books.offer event request = .error refusal ↔
      (books.count event request.ticketName .available : Int) < request.amount.toInt ∧
        refusal = .insufficientInventory request.amount.toInt
          (books.count event request.ticketName .available) := by
  have counted : books.count event request.ticketName .available =
      (books.availableTickets event request.ticketName).length := List.countP_eq_length_filter
  simp only [offer, allotment, List.length_take, counted]
  by_cases enough : request.amount.toInt ≤
      (books.availableTickets event request.ticketName).length
  · rw [if_pos (by omega)]
    refine ⟨fun ended => ?_, fun few => absurd few.1 (by omega)⟩
    cases ended
  · rw [if_neg (by omega), Nat.min_eq_right (by omega)]
    constructor
    · intro short
      exact ⟨by omega, (Except.error.inj short).symm⟩
    · rintro ⟨-, rfl⟩
      rfl

/-- Tickets are offered if as many as asked for can be held. -/
theorem offers_iff :
    (∃ tickets, books.offer event request = .ok tickets) ↔
      request.amount.toInt ≤ books.count event request.ticketName .available := by
  cases offered : books.offer event request with
  | error refusal =>
    have few := (offer_eq_error.mp offered).1
    exact ⟨nofun, fun enough => absurd enough (by omega)⟩
  | ok tickets =>
    refine ⟨fun _ => ?_, fun _ => ⟨tickets, rfl⟩⟩
    by_contra few
    have few : (books.count event request.ticketName .available : Int) < request.amount.toInt := by
      omega
    exact nomatch offered.symm.trans (offer_eq_error.mpr ⟨few, rfl⟩)

/-- A request that does not pass the check makes no sense, and so is refused. -/
theorem Objects.malformed_iff :
    (∃ fault, books.Objects now event request (.invalidArgument fault)) ↔ request.IsMalformed := by
  constructor
  · rintro ⟨fault, objects⟩
    by_contra formed
    cases objects with
    | malformed failed => exact nomatch failed.symm.trans (Checkout.check_eq_ok.mpr formed)
    | barred _ bars => cases bars
  · intro malformed
    cases checked : Checkout.check request with
    | ok _ => exact absurd malformed (Checkout.check_eq_ok.mp checked)
    | error refusal =>
      obtain ⟨fault, rfl⟩ := Checkout.check_eq_error checked
      exact ⟨fault, .malformed checked⟩

/-- What stands against a request, but for what it is asked for itself, is that its code is barred
or that there are too few tickets. -/
theorem Objects.of_formed {refusal : Refusal} (objects : books.Objects now event request refusal)
    (other : ∀ fault, refusal ≠ .invalidArgument fault) :
    ¬request.IsMalformed ∧ (books.Bars now request refusal ∨ books.Honours now request ∧
      (books.count event request.ticketName .available : Int) < request.amount.toInt ∧
        refusal = .insufficientInventory request.amount.toInt
          (books.count event request.ticketName .available)) := by
  cases objects with
  | malformed failed =>
    obtain ⟨fault, rfl⟩ := Checkout.check_eq_error failed
    exact absurd rfl (other fault)
  | barred formed bars => exact ⟨formed, .inl bars⟩
  | short formed honours few => exact ⟨formed, .inr ⟨honours, few, rfl⟩⟩

/-- That a code is unknown stands against a request that makes sense. -/
theorem Objects.unknown_iff {code : String} :
    books.Objects now event request (.referralNotFound code) ↔
      ¬request.IsMalformed ∧ request.referralCode = some code ∧
        ∀ referral ∈ books.codes, referral.code ≠ code := by
  constructor
  · intro objects
    obtain ⟨formed, bars | ⟨-, -, other⟩⟩ := objects.of_formed nofun
    · cases bars with
      | unknown entered missing => exact ⟨formed, entered, missing⟩
    · contradiction
  · rintro ⟨formed, entered, missing⟩
    exact .barred formed (.unknown entered missing)

/-- That a code is out of date stands against a request that makes sense. -/
theorem Objects.expired_iff {code : String} :
    books.Objects now event request (.referralExpired code) ↔
      ¬request.IsMalformed ∧ request.referralCode = some code ∧
        ∃ referral ∈ books.codes, referral.code = code ∧ referral.IsShutAt now := by
  constructor
  · intro objects
    obtain ⟨formed, bars | ⟨-, -, other⟩⟩ := objects.of_formed nofun
    · cases bars with
      | expired entered issued shut => exact ⟨formed, entered, _, issued, rfl, shut⟩
    · contradiction
  · rintro ⟨formed, entered, referral, issued, rfl, shut⟩
    exact .barred formed (.expired entered issued shut)

/-- That a code is used up stands against a request that makes sense, if the code is up to date. -/
theorem Objects.exhausted_iff {code : String} :
    books.Objects now event request (.referralExhausted code) ↔
      ¬request.IsMalformed ∧ request.referralCode = some code ∧
        ∃ referral ∈ books.codes, referral.code = code ∧ ¬referral.IsShutAt now ∧
          books.IsUsedUp referral := by
  constructor
  · intro objects
    obtain ⟨formed, bars | ⟨-, -, other⟩⟩ := objects.of_formed nofun
    · cases bars with
      | exhausted entered issued opened spent =>
        exact ⟨formed, entered, _, issued, rfl, opened, spent⟩
    · contradiction
  · rintro ⟨formed, entered, referral, issued, rfl, opened, spent⟩
    exact .barred formed (.exhausted entered issued opened spent)

/-- That there are too few tickets stands against a request that makes sense, if its code is
honoured. -/
theorem Objects.short_iff {requested available : Int} :
    books.Objects now event request (.insufficientInventory requested available) ↔
      ¬request.IsMalformed ∧ books.Honours now request ∧ requested = request.amount.toInt ∧
        available = books.count event request.ticketName .available ∧ available < requested := by
  constructor
  · intro objects
    obtain ⟨formed, bars | ⟨honours, few, same⟩⟩ := objects.of_formed nofun
    · cases bars
    · obtain ⟨rfl, rfl⟩ := Refusal.insufficientInventory.inj same
      exact ⟨formed, honours, rfl, rfl, few⟩
  · rintro ⟨formed, honours, rfl, rfl, few⟩
    exact .short formed honours few

section Draft

variable {settings : CheckoutSettings} (unique : (books.codes.map (·.code)).Nodup)

include unique

/-- A request that makes sense is not drafted for what stands against it. -/
theorem draft_eq_objection {refusal : Refusal} (formed : ¬request.IsMalformed) :
    books.draft settings now event request = .error (.refused refusal) ↔
      books.Objects now event request refusal := by
  have checked := Checkout.check_eq_ok.mpr formed
  rw [draft_eq_refused, grant_eq_error unique, grant_eq_ok unique, offer_eq_error]
  constructor
  · rintro (bars | ⟨honours, few, rfl⟩)
    · exact .barred formed bars
    · exact .short formed honours few
  · intro objects
    cases objects with
    | malformed failed => exact nomatch checked.symm.trans failed
    | barred _ bars => exact .inl bars
    | short _ honours few => exact .inr ⟨honours, few, rfl⟩

/-- A request that makes sense is drafted if nothing stands against it and its sums stay in range,
and not otherwise. -/
theorem draft_eq_served {price : PriceQuote} {expiry : Instant} (formed : ¬request.IsMalformed) :
    (∃ draft, books.draft settings now event request = .ok draft ∧ draft.price = price ∧
        draft.expiry = expiry) ↔
      books.Serves now event request ∧ books.quote settings event request = .ok price ∧
        now.addMinutes settings.billMinutes = .ok expiry := by
  constructor
  · rintro ⟨draft, drafted, rfl, rfl⟩
    obtain ⟨granted, offered, quoted, dated⟩ := draft_eq_ok.mp drafted
    have honours := (grant_eq_ok unique).mp ⟨_, granted⟩
    refine ⟨⟨formed, honours, offers_iff.mp ?_⟩, quoted, dated⟩
    cases found : books.offer event request with
    | ok tickets => exact ⟨tickets, rfl⟩
    | error refusal =>
      rw [found] at offered
      contradiction
  · rintro ⟨serves, quoted, dated⟩
    obtain ⟨discount, granted⟩ := (grant_eq_ok unique).mpr serves.honoured
    obtain ⟨tickets, offered⟩ := offers_iff.mpr serves.enough
    refine ⟨⟨discount, tickets.map Ticket.held, price, expiry⟩, draft_eq_ok.mpr ?_, rfl, rfl⟩
    rw [offered]
    exact ⟨granted, rfl, quoted, dated⟩

end Draft

end Books

end BoxOffice
