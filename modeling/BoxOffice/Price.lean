import BoxOffice.Whole

/-!
# Prices

The price of a purchase: so many tickets at one unit price, less a percentage of the subtotal,
plus a fee for each ticket. All amounts are whole and of 64 bits. The percentage counts from 0 to
100 and its share of the subtotal is rounded toward zero. A quote either is exact or names the
first operation whose result left 64 bits.
-/
namespace BoxOffice

/-- A percentage as it counts: from 0 to 100. -/
def effectivePercentage (percent : Int32) : Int := max 0 (min 100 percent.toInt)

/-- A total less a percentage of it, the share taken off being rounded toward zero. -/
def applyDiscount (percent : Int32) (total : Int64) : Except Overflow Int64 :=
  match Checked.multiply total (Int64.ofInt (effectivePercentage percent)) with
  | .error overflow => .error overflow
  | .ok product => Checked.subtract total (Int64.ofInt (product.toInt.tdiv 100))

/-- The parts of a price. -/
structure PriceQuote where
  /-- The unit price times the number of tickets. -/
  subtotal : Int64
  /-- The subtotal less the discount. -/
  discounted : Int64
  /-- The fee for all tickets. -/
  serviceFee : Int64
  /-- What the buyer pays. -/
  total : Int64
deriving DecidableEq, Repr

/-- The subtotal less the discount, when a discount applies. -/
def discountedSubtotal (percentage : Option Int32) (subtotal : Int64) : Except Overflow Int64 :=
  match percentage with
  | some percent => applyDiscount percent subtotal
  | none => .ok subtotal

/-- The price of `amount` tickets. -/
def PriceQuote.compute (unitPrice amount : Int64) (percentage : Option Int32)
    (feePerTicket : Int64) : Except Overflow PriceQuote := do
  let subtotal ← Checked.multiply unitPrice amount
  let discounted ← discountedSubtotal percentage subtotal
  let serviceFee ← Checked.multiply feePerTicket amount
  let total ← Checked.add discounted serviceFee
  return { subtotal, discounted, serviceFee, total }

end BoxOffice
