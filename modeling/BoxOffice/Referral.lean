import BoxOffice.Json.Shape

/-!
# Referral codes

A referral code grants a discount within a window of time, both ends included, and may cap how
often it is used. A reservation keeps a snapshot of the discount, so a later change of the code
does not touch it.
-/
namespace BoxOffice

/-- A referral code. -/
structure ReferralCode where
  /-- The identifier of the code. -/
  id : Uuid
  /-- What the buyer enters. -/
  code : String
  /-- The discount in percent. -/
  discountPercentage : Int32
  /-- The cap on the number of uses. -/
  maxUses : Int32
  /-- The number of uses. -/
  currentUses : Int32
  /-- When the window opens. -/
  validFrom : Instant
  /-- When the window closes, if it does. -/
  validUntil : Option Instant
deriving DecidableEq

namespace ReferralCode

/-- The cap that stands for no cap. -/
def unlimitedUses : Int32 := -1

/-- Whether the code has no cap. -/
def isUnlimited (referral : ReferralCode) : Bool := referral.maxUses == unlimitedUses

/-- Whether so many uses exhaust the code. -/
def isExhaustedBy (referral : ReferralCode) (uses : Int) : Bool :=
  !referral.isUnlimited && decide (referral.maxUses.toInt ≤ uses)

/-- Whether an instant lies in the window. -/
def isValidAt (referral : ReferralCode) (now : Instant) : Bool :=
  !now.isBefore referral.validFrom && !referral.validUntil.any fun close => close.isBefore now

/-- A code in JSON. -/
def json (referral : ReferralCode) : Json :=
  .ofFields [("id", .ofUuid referral.id), ("code", .ofText referral.code),
    ("discount_percentage", .ofInt32 referral.discountPercentage),
    ("max_uses", .ofInt32 referral.maxUses), ("current_uses", .ofInt32 referral.currentUses),
    ("valid_from", .ofInstant referral.validFrom),
    ("valid_until", .ofOption .ofInstant referral.validUntil)]

/-- The fields of a code in JSON. -/
def shape : Json.Shape ReferralCode :=
  ReferralCode.mk <$> .required "id" Json.readUuid <*> .required "code" Json.readText
    <*> .required "discount_percentage" Json.readInt32 <*> .required "max_uses" Json.readInt32
    <*> .required "current_uses" Json.readInt32 <*> .required "valid_from" Json.readInstant
    <*> .optional "valid_until" Json.readInstant

end ReferralCode

/-- The discount of a code as it stood when tickets were held. -/
structure DiscountSnapshot where
  /-- The code. -/
  referral : Uuid
  /-- What the buyer entered. -/
  code : String
  /-- The discount in percent. -/
  percentage : Int32
deriving DecidableEq

namespace DiscountSnapshot

/-- A snapshot in JSON. -/
def json (discount : DiscountSnapshot) : Json :=
  .ofFields [("referral_code_id", .ofUuid discount.referral), ("code", .ofText discount.code),
    ("discount_percentage", .ofInt32 discount.percentage)]

/-- The fields of a snapshot in JSON. -/
def shape : Json.Shape DiscountSnapshot :=
  DiscountSnapshot.mk <$> .required "referral_code_id" Json.readUuid
    <*> .required "code" Json.readText <*> .required "discount_percentage" Json.readInt32

end DiscountSnapshot

/-- The discount that a code grants now. -/
def ReferralCode.snapshot (referral : ReferralCode) : DiscountSnapshot :=
  ⟨referral.id, referral.code, referral.discountPercentage⟩

end BoxOffice
