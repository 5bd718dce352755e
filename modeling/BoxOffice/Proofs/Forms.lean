import BoxOffice.Attendance
import BoxOffice.Bill
import BoxOffice.Payment
import BoxOffice.Proofs.Json.Free
import BoxOffice.Ticket

/-!
# Reading back what the box office keeps

Whatever the box office writes in JSON it reads back: each record is written with all its fields,
and each field is read back as what it holds. Dates are read back in years of four digits, and free
values if they are not too deep and hold no decimals.
-/
namespace BoxOffice

open Json Json.Shape

/-- Whether a free value can be kept: it holds no decimals and is not too deep. -/
def Json.IsKept (value : Json) : Prop := value.isPlain = true ∧ value.depth ≤ freeDepth

/-- A tracking identifier is read back. -/
theorem TrackingId.readsBack (id : TrackingId) : ReadsBack ofJson id.json id := by
  intro tree written
  simp only [ofJson, readsBack_int64 id.number tree written, Except.map]

/-- What was told about a visitor is read back. -/
theorem VisitorDetails.readsBack (details : VisitorDetails) :
    ReadsBack ofJson details.json details := readsBack_register readsBack_text

/-- A status of a ticket is read back. -/
theorem TicketStatus.readsBack (status : TicketStatus) : ReadsBack ofJson status.json status :=
  readsBack_name status.ofName?_name

/-- A status of a payment is read back. -/
theorem PaymentStatus.readsBack (status : PaymentStatus) : ReadsBack ofJson status.json status :=
  readsBack_name status.ofName?_name

/-- A snapshot of a discount is read back. -/
theorem DiscountSnapshot.readsBack (discount : DiscountSnapshot) :
    ReadsBack shape.decode discount.json discount := by
  refine Shape.readsBack (by decide) rfl (.refl _) ?_
  cases discount
  refine recovers_seq ?_ (recovers_required (readsBack_int32 _))
  refine recovers_seq ?_ (recovers_required (readsBack_text _))
  exact recovers_map _ (recovers_required (readsBack_uuid _))

/-- A snapshot of a discount that may be missing is read back. -/
theorem DiscountSnapshot.readsBack_optional (given : Option DiscountSnapshot) :
    ReadsBack (readOption shape.decode) (.ofOption json given) given := by
  refine readsBack_option given (fun discount _ => discount.readsBack) fun discount read => ?_
  cases read

/-- A reservation is read back. -/
theorem Reservation.readsBack (reservation : Reservation)
    (short : Rfc3339.HasShortYear reservation.createdAt) :
    ReadsBack shape.decode reservation.json reservation := by
  refine Shape.readsBack (by decide) rfl (.refl _) ?_
  cases reservation
  refine recovers_seq ?_ (recovers_required (readsBack_instant short))
  refine recovers_seq ?_ (recovers_required (readsBack_int64 _))
  refine recovers_seq ?_ (recovers_optional (DiscountSnapshot.readsBack_optional _))
  refine recovers_seq ?_ (recovers_required
    (readsBack_list fun details _ => details.readsBack))
  refine recovers_seq ?_ (recovers_required
    (readsBack_list fun hash _ => readsBack_text hash))
  refine recovers_seq ?_ (recovers_required
    (readsBack_list fun ticket _ => readsBack_uuid ticket))
  refine recovers_seq ?_ (recovers_required (readsBack_uuid _))
  exact recovers_map _ (recovers_required (TrackingId.readsBack _))

/-- A purchase request is read back. -/
theorem PurchaseRequest.readsBack (request : PurchaseRequest) :
    ReadsBack shape.decode request.json request := by
  refine Shape.readsBack (by decide) rfl (.refl _) ?_
  cases request
  refine recovers_seq ?_ (recovers_defaulted
    (readsBack_list fun details _ => details.readsBack))
  refine recovers_seq ?_ (recovers_defaulted (readsBack_optionalText _))
  refine recovers_seq ?_ (recovers_required (readsBack_int64 _))
  exact recovers_map _ (recovers_required (readsBack_text _))

/-- A notification is read back. -/
theorem PaymentNotification.readsBack (notification : PaymentNotification) :
    ReadsBack shape.decode notification.json notification := by
  have same : ["amount", "bill_link", "bill_link_id", "bill_title", "created_at", "id",
      "sender_bank", "sender_bank_type", "sender_email", "sender_name", "status"].Perm
        shape.names := by decide
  refine Shape.readsBack (by decide) rfl same ?_
  cases notification
  refine recovers_seq ?_ (recovers_defaulted (readsBack_text _))
  refine recovers_seq ?_ (recovers_defaulted (readsBack_text _))
  refine recovers_seq ?_ (recovers_defaulted (readsBack_text _))
  refine recovers_seq ?_ (recovers_defaulted (readsBack_int64 _))
  refine recovers_seq ?_ (recovers_defaulted (readsBack_text _))
  refine recovers_seq ?_ (recovers_defaulted (readsBack_text _))
  refine recovers_seq ?_ (recovers_defaulted (readsBack_text _))
  refine recovers_seq ?_ (recovers_defaulted (readsBack_text _))
  refine recovers_seq ?_ (recovers_required (readsBack_int64 _))
  refine recovers_seq ?_ (recovers_defaulted (readsBack_text _))
  exact recovers_map _ (recovers_defaulted (readsBack_text _))

/-- A record of a payment is read back. -/
theorem PaymentRecord.readsBack (record : PaymentRecord) (kept : record.notification.IsKept) :
    ReadsBack shape.decode record.json record := by
  refine Shape.readsBack (by decide) rfl (.refl _) ?_
  cases record
  refine recovers_seq ?_ (recovers_required (readsBack_free kept.1 kept.2))
  refine recovers_seq ?_ (recovers_required (readsBack_text _))
  refine recovers_seq ?_ (recovers_required (readsBack_text _))
  refine recovers_seq ?_ (recovers_required (readsBack_int64 _))
  refine recovers_seq ?_ (recovers_required (readsBack_uuid _))
  exact recovers_map _ (recovers_required (TrackingId.readsBack _))

/-- A referral code is read back. -/
theorem ReferralCode.readsBack (referral : ReferralCode)
    (opens : Rfc3339.HasShortYear referral.validFrom)
    (closes : ∀ close ∈ referral.validUntil, Rfc3339.HasShortYear close) :
    ReadsBack shape.decode referral.json referral := by
  refine Shape.readsBack (by decide) rfl (.refl _) ?_
  cases referral
  refine recovers_seq ?_ (recovers_optional (readsBack_optionalInstant closes))
  refine recovers_seq ?_ (recovers_required (readsBack_instant opens))
  refine recovers_seq ?_ (recovers_required (readsBack_int32 _))
  refine recovers_seq ?_ (recovers_required (readsBack_int32 _))
  refine recovers_seq ?_ (recovers_required (readsBack_int32 _))
  refine recovers_seq ?_ (recovers_required (readsBack_text _))
  exact recovers_map _ (recovers_required (readsBack_uuid _))

/-- A ticket is read back. -/
theorem Ticket.readsBack (ticket : Ticket) : ReadsBack shape.decode ticket.json ticket := by
  refine Shape.readsBack (by decide) rfl (.refl _) ?_
  cases ticket
  refine recovers_seq ?_ (recovers_required (readsBack_text _))
  refine recovers_seq ?_ (recovers_required (TicketStatus.readsBack _))
  refine recovers_seq ?_ (recovers_required (readsBack_int64 _))
  refine recovers_seq ?_ (recovers_required (readsBack_text _))
  refine recovers_seq ?_ (recovers_required (readsBack_uuid _))
  exact recovers_map _ (recovers_required (readsBack_uuid _))

/-- An attendance is read back. -/
theorem Attendance.readsBack (attendance : Attendance) (kept : attendance.data.IsKept) :
    ReadsBack shape.decode attendance.json attendance := by
  refine Shape.readsBack (by decide) rfl (.refl _) ?_
  cases attendance
  refine recovers_seq ?_ (recovers_required (readsBack_free kept.1 kept.2))
  refine recovers_seq ?_ (recovers_required (readsBack_uuid _))
  exact recovers_map _ (recovers_required (readsBack_uuid _))

/-- Whether the free values of a bill can be kept. -/
structure Bill.IsKept (bill : Bill) : Prop where
  /-- The status can. -/
  status : bill.status.IsKept
  /-- The step can. -/
  step : bill.step.IsKept
  /-- Whether the payer has to give an address can. -/
  isAddressRequired : bill.isAddressRequired.IsKept
  /-- Whether the payer has to give a phone number can. -/
  isPhoneNumberRequired : bill.isPhoneNumberRequired.IsKept

/-- A bill is read back. -/
theorem Bill.readsBack (bill : Bill) (kept : bill.IsKept) :
    ReadsBack shape.decode bill.json bill := by
  obtain ⟨status, step, address, phoneNumber⟩ := kept
  rw [json, fields]
  refine Shape.readsBack (by decide) rfl (.refl _) ?_
  cases bill
  refine recovers_seq ?_ (recovers_defaulted (readsBack_free phoneNumber.1 phoneNumber.2))
  refine recovers_seq ?_ (recovers_defaulted (readsBack_free address.1 address.2))
  refine recovers_seq ?_ (recovers_defaulted (readsBack_free step.1 step.2))
  refine recovers_seq ?_ (recovers_defaulted (readsBack_free status.1 status.2))
  refine recovers_seq ?_ (recovers_defaulted (readsBack_optionalText _))
  refine recovers_seq ?_ (recovers_defaulted (readsBack_optionalText _))
  refine recovers_seq ?_ (recovers_defaulted (readsBack_optionalText _))
  refine recovers_seq ?_ (recovers_defaulted (readsBack_int64 _))
  refine recovers_seq ?_ (recovers_defaulted (readsBack_text _))
  refine recovers_seq ?_ (recovers_defaulted (readsBack_text _))
  refine recovers_seq ?_ (recovers_defaulted (readsBack_text _))
  exact recovers_map _ (recovers_required (readsBack_int64 _))

/-- What the box office writes in JSON it reads back. Each value of each kind that it keeps, takes
or gives is read from every tree that it can be written as, whatever the order of members: bare
numbers and names, records in records, lists, registers of any names and texts, missing values, free
values without decimals down to the greatest depth that is read, and dates in years of four digits
to the nanosecond, leap seconds included. -/
theorem forms_read_back :
    (∀ id : TrackingId, ReadsBack TrackingId.ofJson id.json id) ∧
      (∀ discount : DiscountSnapshot,
        ReadsBack DiscountSnapshot.shape.decode discount.json discount) ∧
      (∀ reservation : Reservation, Rfc3339.HasShortYear reservation.createdAt →
        ReadsBack Reservation.shape.decode reservation.json reservation) ∧
      (∀ request : PurchaseRequest,
        ReadsBack PurchaseRequest.shape.decode request.json request) ∧
      (∀ status : PaymentStatus, ReadsBack PaymentStatus.ofJson status.json status) ∧
      (∀ notification : PaymentNotification,
        ReadsBack PaymentNotification.shape.decode notification.json notification) ∧
      (∀ record : PaymentRecord, record.notification.IsKept →
        ReadsBack PaymentRecord.shape.decode record.json record) ∧
      (∀ referral : ReferralCode, Rfc3339.HasShortYear referral.validFrom →
        (∀ close ∈ referral.validUntil, Rfc3339.HasShortYear close) →
          ReadsBack ReferralCode.shape.decode referral.json referral) ∧
      (∀ status : TicketStatus, ReadsBack TicketStatus.ofJson status.json status) ∧
      (∀ ticket : Ticket, ReadsBack Ticket.shape.decode ticket.json ticket) ∧
      (∀ attendance : Attendance, attendance.data.IsKept →
        ReadsBack Attendance.shape.decode attendance.json attendance) ∧
      ∀ bill : Bill, bill.IsKept → ReadsBack Bill.shape.decode bill.json bill :=
  ⟨TrackingId.readsBack, DiscountSnapshot.readsBack, Reservation.readsBack,
    PurchaseRequest.readsBack, PaymentStatus.readsBack, PaymentNotification.readsBack,
    PaymentRecord.readsBack, ReferralCode.readsBack, TicketStatus.readsBack, Ticket.readsBack,
    Attendance.readsBack, Bill.readsBack⟩

/-- A code that closes at a leap second is read back, and so is an attendance with nested details
whose members are written the other way round. -/
theorem forms_read_back_leap :
    let close : Instant := ⟨1483228799, 1500000000, by decide⟩
    let referral : ReferralCode := ⟨.ofNat 1, "A", 10, -1, 0, .ofMilliseconds 0, some close⟩
    let attendance : Attendance := ⟨.ofNat 1, .ofNat 2,
      .object [("a", .array [.null, .ofInt (-5)]), ("b", .ofText "c")]⟩
    ReferralCode.shape.decode referral.json = .ok referral ∧
      Attendance.shape.decode (.object [("data", .object [("b", .ofText "c"),
          ("a", .array [.null, .ofInt (-5)])]), ("ticket_id", .ofUuid (.ofNat 2)),
        ("event_id", .ofUuid (.ofNat 1))]) = .ok attendance := by
  obtain ⟨-, -, -, -, -, -, -, codes, -, -, attendances, -⟩ := forms_read_back
  intro close referral attendance
  have closes : ∀ given ∈ referral.validUntil, Rfc3339.HasShortYear given := by
    intro given same
    obtain rfl := Option.some.inj same
    exact ⟨by decide, by decide⟩
  refine ⟨codes referral ⟨by decide, by decide⟩ closes _ (isWrittenAs_self _),
    attendances attendance ⟨by decide, by decide⟩ _ ?_⟩
  have data : attendance.data.IsWrittenAs
      (.object [("b", .ofText "c"), ("a", .array [.null, .ofInt (-5)])]) :=
    ⟨_, _, rfl, .swap _ _ _, membersAreWrittenAs_self _⟩
  refine ⟨_, _, rfl, List.reverse_perm _, ?_⟩
  exact ⟨_, _, rfl, rfl, _, _, rfl, rfl, _, _, rfl, data, rfl⟩

end BoxOffice
