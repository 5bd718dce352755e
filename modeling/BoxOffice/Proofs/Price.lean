import BoxOffice.Price
import Mathlib.Algebra.Ring.Int.Defs

/-!
# Exact prices

A quote is what its parts are in exact integers, or there is none because one of them has no
representation of 64 bits. The discount is never more than the subtotal, so taking it off leaves no
range. Of a subtotal that is not negative something between nothing and all of it is left, the less
the higher the percentage and the more the higher the subtotal.
-/
namespace BoxOffice

/-- Whether an integer of 64 bits has this value. -/
def IsRepresentable (value : Int) : Prop := -2 ^ 63 ≤ value ∧ value < 2 ^ 63

instance (value : Int) : Decidable (IsRepresentable value) :=
  inferInstanceAs (Decidable (_ ∧ _))

/-- The value of an integer of 64 bits is representable. -/
theorem isRepresentable_toInt (number : Int64) : IsRepresentable number.toInt :=
  ⟨number.le_toInt, number.toInt_lt⟩

/-- A representable value is that of its integer. -/
theorem IsRepresentable.toInt_ofInt {value : Int} (representable : IsRepresentable value) :
    (Int64.ofInt value).toInt = value := by
  obtain ⟨low, high⟩ := representable
  exact Int64.toInt_ofInt_of_le low high

/-- A hundredth of a representable value is representable. -/
theorem IsRepresentable.hundredth {value : Int} (representable : IsRepresentable value) :
    IsRepresentable (value.tdiv 100) := by
  have parts := Int.tmod_add_mul_tdiv value 100
  have most := Int.tmod_lt_of_pos value (show (0 : Int) < 100 by decide)
  have least := Int.lt_tmod_of_pos value (show (0 : Int) < 100 by decide)
  unfold IsRepresentable at representable ⊢
  omega

namespace Checked

variable {operation : Overflow} {value : Int}

/-- A representable value has its integer. -/
theorem fit_ok (operation : Overflow) (representable : IsRepresentable value) :
    ∃ number, fit operation value = .ok number ∧ number.toInt = value := by
  obtain ⟨low, high⟩ := representable
  have range : -9223372036854775808 ≤ value ∧ value ≤ 9223372036854775807 := by omega
  refine ⟨Int64.ofInt value, ?_, IsRepresentable.toInt_ofInt ⟨low, high⟩⟩
  simp only [fit, int64?, range, and_self, ↓reduceIte]

/-- A value that is not representable is an overflow. -/
theorem fit_error (operation : Overflow) (outside : ¬IsRepresentable value) :
    fit operation value = .error operation := by
  have range : ¬(-9223372036854775808 ≤ value ∧ value ≤ 9223372036854775807) := by
    unfold IsRepresentable at outside
    omega
  simp only [fit, int64?, range, ↓reduceIte]

end Checked

/-- The percentage that a discount takes off: that of the code as it counts, and nothing without a
code. -/
def reduction : Option Int32 → Int
  | none => 0
  | some percent => effectivePercentage percent

/-- What is left of a subtotal in exact integers. -/
def exactDiscounted (percentage : Option Int32) (subtotal : Int) : Int :=
  subtotal - (subtotal * reduction percentage).tdiv 100

/-- No more than all of it is taken off. -/
theorem reduction_range (percentage : Option Int32) :
    0 ≤ reduction percentage ∧ reduction percentage ≤ 100 := by
  cases percentage with
  | none => exact ⟨Int.le_refl 0, by decide⟩
  | some percent =>
    simp only [reduction, effectivePercentage]
    omega

/-- A higher percentage takes off more. -/
theorem reduction_mono {first second : Int32} (higher : first ≤ second) :
    reduction (some first) ≤ reduction (some second) := by
  have higher : first.toInt ≤ second.toInt := Int32.le_iff_toInt_le.mp higher
  simp only [reduction, effectivePercentage]
  omega

/-- Of a subtotal that is not negative the hundredths that stay make up what is left, rounded up. -/
theorem exactDiscounted_bounds (percentage : Option Int32) {subtotal : Int}
    (positive : 0 ≤ subtotal) :
    subtotal * (100 - reduction percentage) ≤ 100 * exactDiscounted percentage subtotal ∧
      100 * exactDiscounted percentage subtotal <
        subtotal * (100 - reduction percentage) + 100 := by
  have share : 0 ≤ subtotal * reduction percentage :=
    Int.mul_nonneg positive (reduction_range percentage).1
  rw [exactDiscounted, Int.tdiv_eq_ediv_of_nonneg share, Int.mul_sub subtotal]
  omega

/-- The lower the percentage and the higher the subtotal, the more is left. -/
theorem exactDiscounted_mono {first second : Option Int32} {less more : Int}
    (positive : 0 ≤ less) (higher : less ≤ more) (lower : reduction second ≤ reduction first) :
    exactDiscounted first less ≤ exactDiscounted second more := by
  have left := exactDiscounted_bounds first positive
  have right := exactDiscounted_bounds second (Int.le_trans positive higher)
  have stays : less * (100 - reduction first) ≤ more * (100 - reduction second) := by
    refine Int.mul_le_mul higher (by omega) ?_ (Int.le_trans positive higher)
    have most := (reduction_range first).2
    omega
  omega

/-- Between nothing and all of a subtotal is left. -/
theorem exactDiscounted_range (percentage : Option Int32) {subtotal : Int}
    (positive : 0 ≤ subtotal) :
    0 ≤ exactDiscounted percentage subtotal ∧ exactDiscounted percentage subtotal ≤ subtotal := by
  obtain ⟨least, most⟩ := reduction_range percentage
  have share : 0 ≤ subtotal * reduction percentage := Int.mul_nonneg positive least
  have all : subtotal * reduction percentage ≤ subtotal * 100 :=
    Int.mul_le_mul_of_nonneg_left most positive
  rw [exactDiscounted, Int.tdiv_eq_ediv_of_nonneg share]
  omega

/-- The opposite of a subtotal leaves the opposite. -/
theorem exactDiscounted_neg (percentage : Option Int32) (subtotal : Int) :
    exactDiscounted percentage (-subtotal) = -exactDiscounted percentage subtotal := by
  rw [exactDiscounted, exactDiscounted, Int.neg_mul, Int.neg_tdiv]
  omega

/-- Taking off a discount leaves no range. -/
theorem isRepresentable_discounted (percentage : Option Int32) {subtotal : Int}
    (representable : IsRepresentable subtotal) :
    IsRepresentable (exactDiscounted percentage subtotal) := by
  unfold IsRepresentable at representable ⊢
  rcases Int.le_total 0 subtotal with positive | negative
  · have range := exactDiscounted_range percentage positive
    omega
  · -- the share has the sign of the subtotal, so this is the other case reflected
    have range := exactDiscounted_range percentage (Int.neg_nonneg_of_nonpos negative)
    rw [exactDiscounted_neg] at range
    omega

/-- A discount is exact, or its product with the percentage is out of range. -/
theorem discountedSubtotal_fate (percentage : Option Int32) (subtotal : Int64) :
    IsRepresentable (subtotal.toInt * reduction percentage) ∧
        (∃ discounted, discountedSubtotal percentage subtotal = .ok discounted ∧
          discounted.toInt = exactDiscounted percentage subtotal.toInt) ∨
      ¬IsRepresentable (subtotal.toInt * reduction percentage) ∧
        discountedSubtotal percentage subtotal = .error .product := by
  cases percentage with
  | none =>
    refine .inl ⟨?_, subtotal, rfl, ?_⟩
    · rw [reduction, Int.mul_zero]
      decide
    · rw [exactDiscounted, reduction, Int.mul_zero, Int.zero_tdiv, Int.sub_zero]
  | some percent =>
    have range := reduction_range (some percent)
    have small : IsRepresentable (reduction (some percent)) := by
      unfold IsRepresentable
      omega
    have begun : Checked.multiply subtotal (Int64.ofInt (effectivePercentage percent)) =
        Checked.fit .product (subtotal.toInt * reduction (some percent)) :=
      congrArg (Checked.fit .product <| subtotal.toInt * ·) small.toInt_ofInt
    by_cases representable : IsRepresentable (subtotal.toInt * reduction (some percent))
    · obtain ⟨product, multiplied, exact⟩ := Checked.fit_ok .product representable
      obtain ⟨discounted, taken, left⟩ := Checked.fit_ok .difference
        (isRepresentable_discounted (some percent) (isRepresentable_toInt subtotal))
      have share := (isRepresentable_toInt product).hundredth.toInt_ofInt
      refine .inl ⟨representable, discounted, ?_, left⟩
      rw [exactDiscounted, ← exact, ← share] at taken
      simp only [discountedSubtotal, applyDiscount, begun, multiplied]
      exact taken
    · refine .inr ⟨representable, ?_⟩
      simp only [discountedSubtotal, applyDiscount, begun, Checked.fit_error _ representable]

namespace PriceQuote

/-- Whether a quote has these parts in exact integers. -/
structure IsExact (quote : PriceQuote) (whole left fees : Int) : Prop where
  /-- The subtotal. -/
  subtotal : quote.subtotal.toInt = whole
  /-- What is left of it. -/
  discounted : quote.discounted.toInt = left
  /-- The fee for all tickets. -/
  serviceFee : quote.serviceFee.toInt = fees
  /-- What the buyer pays. -/
  total : quote.total.toInt = left + fees

/-- A quote is exact, or only its total is out of range, or one of its products is. -/
theorem compute_fate (unitPrice amount fee : Int64) (percentage : Option Int32) :
    let subtotal := unitPrice.toInt * amount.toInt
    let discounted := exactDiscounted percentage subtotal
    let serviceFee := fee.toInt * amount.toInt
    let products := IsRepresentable subtotal ∧ IsRepresentable (subtotal * reduction percentage) ∧
      IsRepresentable serviceFee
    products ∧ IsRepresentable (discounted + serviceFee) ∧
        (∃ quote, compute unitPrice amount percentage fee = .ok quote ∧
          quote.IsExact subtotal discounted serviceFee) ∨
      products ∧ ¬IsRepresentable (discounted + serviceFee) ∧
          compute unitPrice amount percentage fee = .error .sum ∨
        ¬products ∧ compute unitPrice amount percentage fee = .error .product := by
  intro subtotal discounted serviceFee products
  -- one case for each part in the order of their computation; the first out of range is reported
  by_cases first : IsRepresentable subtotal
  case neg =>
    have failed : Checked.multiply unitPrice amount = .error .product := Checked.fit_error _ first
    refine .inr (.inr ⟨fun all => first all.1, ?_⟩)
    simp only [compute, failed, bind, Except.bind]
  obtain ⟨whole, multiplied, exact⟩ : ∃ whole, Checked.multiply unitPrice amount = .ok whole ∧
      whole.toInt = subtotal := Checked.fit_ok _ first
  have reduced := discountedSubtotal_fate percentage whole
  rw [exact] at reduced
  rcases reduced with ⟨second, left, taken, exactLeft⟩ | ⟨outside, failed⟩
  case inr =>
    refine .inr (.inr ⟨fun all => outside all.2.1, ?_⟩)
    simp only [compute, multiplied, bind, Except.bind, failed]
  by_cases third : IsRepresentable serviceFee
  case neg =>
    have failed : Checked.multiply fee amount = .error .product := Checked.fit_error _ third
    refine .inr (.inr ⟨fun all => third all.2.2, ?_⟩)
    simp only [compute, multiplied, bind, Except.bind, taken, failed]
  obtain ⟨fees, charged, exactFees⟩ : ∃ fees, Checked.multiply fee amount = .ok fees ∧
      fees.toInt = serviceFee := Checked.fit_ok _ third
  have sum : Checked.add left fees = Checked.fit .sum (discounted + serviceFee) := by
    rw [Checked.add, exactLeft, exactFees]
  by_cases last : IsRepresentable (discounted + serviceFee)
  · obtain ⟨total, added, exactTotal⟩ := Checked.fit_ok .sum last
    refine .inl ⟨⟨first, second, third⟩, last, ⟨whole, left, fees, total⟩, ?_,
      ⟨exact, exactLeft, exactFees, exactTotal⟩⟩
    simp only [compute, multiplied, bind, Except.bind, taken, charged, sum, added, pure,
      Except.pure]
  · refine .inr (.inl ⟨⟨first, second, third⟩, last, ?_⟩)
    simp only [compute, multiplied, bind, Except.bind, taken, charged, sum,
      Checked.fit_error .sum last]

variable {unitPrice amount fee : Int64} {percentage : Option Int32} {quote : PriceQuote}

/-- A quote that is computed is exact. -/
theorem isExact_of_compute (computed : compute unitPrice amount percentage fee = .ok quote) :
    quote.IsExact (unitPrice.toInt * amount.toInt)
      (exactDiscounted percentage (unitPrice.toInt * amount.toInt))
      (fee.toInt * amount.toInt) := by
  rcases compute_fate unitPrice amount fee percentage with
    ⟨-, -, found, same, exact⟩ | ⟨-, -, failed⟩ | ⟨-, failed⟩
  · rw [computed] at same
    exact Except.ok.inj same ▸ exact
  · rw [computed] at failed
    contradiction
  · rw [computed] at failed
    contradiction

/-- Whether a quote is computed with some percentage. -/
def IsAt (percentage : Option Int32) (quote : PriceQuote) : Prop :=
  ∃ unitPrice amount fee, compute unitPrice amount percentage fee = .ok quote

/-- What is left of the subtotal of a quote is what the percentage leaves. -/
theorem IsAt.discounted_eq (quoted : quote.IsAt percentage) :
    quote.discounted.toInt = exactDiscounted percentage quote.subtotal.toInt := by
  obtain ⟨unitPrice, amount, fee, computed⟩ := quoted
  have exact := isExact_of_compute computed
  rw [exact.subtotal, exact.discounted]

/-- A quote is exact or names its overflow. There is one if the subtotal, its product with the
percentage that counts, the fee for all tickets and the total all have a representation of 64 bits,
and its parts are these. Otherwise the first product out of range is reported, or the sum if all
products are in range; no difference ever is. Of a subtotal that is not negative between nothing and
all of it is left, not more at a higher percentage and not less of a higher subtotal. -/
theorem exact_or_overflow (unitPrice amount fee : Int64) (percentage : Option Int32) :
    let subtotal := unitPrice.toInt * amount.toInt
    let discounted := exactDiscounted percentage subtotal
    let serviceFee := fee.toInt * amount.toInt
    let products := IsRepresentable subtotal ∧ IsRepresentable (subtotal * reduction percentage) ∧
      IsRepresentable serviceFee
    let computed := compute unitPrice amount percentage fee
    ((∃ quote, computed = .ok quote) ↔ products ∧ IsRepresentable (discounted + serviceFee)) ∧
    (∀ quote, computed = .ok quote → quote.IsExact subtotal discounted serviceFee) ∧
    (∀ overflow, computed = .error overflow → overflow.message =
      if products then "attempt to add with overflow" else "attempt to multiply with overflow") ∧
    (∀ quote, computed = .ok quote → 0 ≤ subtotal →
      0 ≤ quote.discounted.toInt ∧ quote.discounted.toInt ≤ quote.subtotal.toInt) ∧
    (∀ (lower higher : Int32) (quote other : PriceQuote), lower ≤ higher →
      quote.IsAt (some higher) → other.IsAt (some lower) → 0 ≤ quote.subtotal.toInt →
        quote.subtotal.toInt ≤ other.subtotal.toInt →
          quote.discounted.toInt ≤ other.discounted.toInt) := by
  intro subtotal discounted serviceFee products computed
  refine ⟨?_, fun quote => isExact_of_compute, ?_, fun quote found positive => ?_, ?_⟩
  · rcases compute_fate unitPrice amount fee percentage with
      ⟨fit, sum, quote, found, -⟩ | ⟨-, outside, failed⟩ | ⟨outside, failed⟩
    · exact ⟨fun _ => ⟨fit, sum⟩, fun _ => ⟨quote, found⟩⟩
    · exact ⟨fun ⟨_, found⟩ => absurd (failed.symm.trans found) nofun,
        fun fit => absurd fit.2 outside⟩
    · exact ⟨fun ⟨_, found⟩ => absurd (failed.symm.trans found) nofun,
        fun fit => absurd fit.1 outside⟩
  · intro overflow failed
    rcases compute_fate unitPrice amount fee percentage with
      ⟨-, -, quote, found, -⟩ | ⟨fit, -, same⟩ | ⟨outside, same⟩
    · exact absurd (found.symm.trans failed) nofun
    · rw [if_pos fit, ← Except.error.inj (same.symm.trans failed)]
      rfl
    · rw [if_neg outside, ← Except.error.inj (same.symm.trans failed)]
      rfl
  · have exact := isExact_of_compute found
    rw [exact.discounted, exact.subtotal]
    exact exactDiscounted_range percentage positive
  · intro lower higher quote other order quoted quotedToo positive more
    rw [quoted.discounted_eq, quotedToo.discounted_eq]
    exact exactDiscounted_mono positive more (reduction_mono order)

/-- Half of the highest price is in range, and its product with the percentage is not. -/
example : compute 9223372036854775807 1 (some 50) 0 = .error .product := by rfl

end PriceQuote

end BoxOffice
