import BoxOffice.Ledger.Work

/-!
# Redeeming referral codes

A referral code is looked up within the transaction that is to use it. It has to be valid now and
not exhausted, neither by its own counter nor by the uses on record; what it grants is the
snapshot of its discount. Whether the window is open is asked before whether the code is
exhausted.
-/
namespace BoxOffice.Redemption

/-- Whether a code is valid at some time. -/
def checkWindow (referral : ReferralCode) (now : Instant) : Except Refusal Unit :=
  if referral.isValidAt now then .ok () else .error (.referralExpired referral.code)

/-- The discount of a code at some time. -/
def redeem (code : String) (now : Instant) : Attempt DiscountSnapshot := do
  match ← Attempt.referralCode code with
  | none => Attempt.refuse (.referralNotFound code)
  | some referral =>
    Attempt.check (checkWindow referral now)
    Attempt.demand (!referral.isExhaustedBy referral.currentUses.toInt)
      (.referralExhausted referral.code)
    let uses ← Attempt.usageCount referral.id
    Attempt.demand (!referral.isExhaustedBy uses) (.referralExhausted referral.code)
    return referral.snapshot

end BoxOffice.Redemption
