import BoxOffice.Bill

/-!
# Gateways

A gateway makes bills. Each request is made once; what its failure means is for the caller to
decide.
-/
namespace BoxOffice

/-- Things that serve as a gateway. -/
class Gateway (γ : Type) where
  /-- Asks for a bill. -/
  createBill : BillRequest → γ → Except GatewayFault Bill × γ

end BoxOffice
