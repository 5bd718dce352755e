/-!
# Whole numbers of fixed width

Counts, percentages and amounts are integers of 32 or 64 bits. A value outside the width has no
such integer: readers refuse it, and arithmetic that would leave 64 bits reports an `Overflow`
instead of wrapping. Each checked operation computes in exact integers first, so its result, when
there is one, is the exact one.
-/
namespace BoxOffice

/-- The integer of 64 bits with a given value, when there is one. -/
def int64? (value : Int) : Option Int64 :=
  if -9223372036854775808 ≤ value ∧ value ≤ 9223372036854775807 then some (Int64.ofInt value)
  else none

/-- The integer of 32 bits with a given value, when there is one. -/
def int32? (value : Int) : Option Int32 :=
  if -2147483648 ≤ value ∧ value ≤ 2147483647 then some (Int32.ofInt value) else none

/-- Every integer of 64 bits is the one with its value. -/
theorem int64?_toInt (number : Int64) : int64? number.toInt = some number := by
  have low := number.le_toInt
  have high := number.toInt_lt
  have range : -9223372036854775808 ≤ number.toInt ∧ number.toInt ≤ 9223372036854775807 := by
    omega
  simp only [int64?, range, and_self, ↓reduceIte, Int64.ofInt_toInt]

/-- Every integer of 32 bits is the one with its value. -/
theorem int32?_toInt (number : Int32) : int32? number.toInt = some number := by
  have low := number.le_toInt
  have high := number.toInt_lt
  have range : -2147483648 ≤ number.toInt ∧ number.toInt ≤ 2147483647 := by omega
  simp only [int32?, range, and_self, ↓reduceIte, Int32.ofInt_toInt]

/-- The integer found has the value asked for. -/
theorem toInt_of_int64? {value : Int} {number : Int64} (found : int64? value = some number) :
    number.toInt = value := by
  simp only [int64?] at found
  split at found
  · rename_i range
    rw [← Option.some.inj found]
    exact Int64.toInt_ofInt_of_le (by omega) (by omega)
  · contradiction

/-- The first operation of a computation whose result has no representation. -/
inductive Overflow where
  /-- A product outside 64 bits. -/
  | product
  /-- A sum outside 64 bits. -/
  | sum
  /-- A difference outside 64 bits. -/
  | difference
  /-- A date later or earlier than the calendar reaches. -/
  | date
deriving DecidableEq, Repr

/-- The report of an overflow. -/
def Overflow.message : Overflow → String
  | .product => "attempt to multiply with overflow"
  | .sum => "attempt to add with overflow"
  | .difference => "attempt to subtract with overflow"
  | .date => "`DateTime + TimeDelta` overflowed"

namespace Checked

/-- The integer with the exact value, or the overflow that names the operation. -/
def fit (operation : Overflow) (value : Int) : Except Overflow Int64 :=
  match int64? value with
  | some number => .ok number
  | none => .error operation

/-- The exact product. -/
def multiply (first second : Int64) : Except Overflow Int64 :=
  fit .product (first.toInt * second.toInt)

/-- The exact sum. -/
def add (first second : Int64) : Except Overflow Int64 :=
  fit .sum (first.toInt + second.toInt)

/-- The exact difference. -/
def subtract (first second : Int64) : Except Overflow Int64 :=
  fit .difference (first.toInt - second.toInt)

end Checked

end BoxOffice
