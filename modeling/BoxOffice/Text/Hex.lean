/-!
# Hexadecimal digits

A digit below sixteen and its character. Digits are written in lower case, or in upper case
where a format asks for it, and read in either case.
-/
namespace BoxOffice.Hex

/-- The lower-case character of a digit. -/
def lower (digit : Fin 16) : Char :=
  Char.ofNat (if digit.val < 10 then 48 + digit.val else 87 + digit.val)

/-- The upper-case character of a digit. -/
def upper (digit : Fin 16) : Char :=
  Char.ofNat (if digit.val < 10 then 48 + digit.val else 55 + digit.val)

/-- The last digit of a number. -/
def last (value : Nat) : Fin 16 := Fin.ofNat 16 value

/-- The digit of a character, in either case. -/
def digit? (character : Char) : Option (Fin 16) :=
  let code := character.toNat
  if 48 ≤ code ∧ code ≤ 57 then some (last (code - 48))
  else if 97 ≤ code ∧ code ≤ 102 then some (last (code - 87))
  else if 65 ≤ code ∧ code ≤ 70 then some (last (code - 55))
  else none

/-- A digit is read back from its lower-case character. -/
theorem digit?_lower : ∀ digit, digit? (lower digit) = some digit := by decide

/-- A digit is read back from its upper-case character. -/
theorem digit?_upper : ∀ digit, digit? (upper digit) = some digit := by decide

/-- The two digits of a byte, the higher one first. -/
def ofByte (byte : UInt8) : Fin 16 × Fin 16 :=
  (last (byte.toNat / 16), last byte.toNat)

/-- The byte of two digits, the higher one first. -/
def toByte (high low : Fin 16) : UInt8 := UInt8.ofNat (high.val * 16 + low.val)

/-- A natural number in lower-case digits without leading zeros. -/
def ofNat (value : Nat) : List Char := Nat.toDigits 16 value

end BoxOffice.Hex
