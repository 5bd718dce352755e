/-!
# Decimal digits

Numbers in a fixed number of decimal digits, and prefixes of a text read as decimal digits up to
a limit. Only the ten ASCII digits count.
-/
namespace BoxOffice.Decimal

/-- The character of a digit; of a larger number its last digit. -/
def digit (value : Nat) : Char := Char.ofNat (48 + value % 10)

/-- The value of a digit character. -/
def digit? (character : Char) : Option Nat :=
  let code := character.toNat
  if 48 ≤ code ∧ code ≤ 57 then some (code - 48) else none

/-- The last `width` digits of a number, with leading zeros. -/
def fixed : (width value : Nat) → List Char
  | 0, _ => []
  | width + 1, value => fixed width (value / 10) ++ [digit value]

/-- The digits of a number, with leading zeros up to a least number of digits. -/
def padded (width value : Nat) : List Char :=
  let digits := Nat.toDigits 10 value
  List.replicate (width - digits.length) '0' ++ digits

/-- A prefix of digits read from a text. -/
structure Prefixed where
  /-- The value of the digits. -/
  value : Nat
  /-- How many digits there were. -/
  count : Nat
  /-- The text after the digits. -/
  rest : List Char

/-- Reads on after some digits, at most `limit` further ones. -/
def readOn : (limit value count : Nat) → List Char → Prefixed
  | 0, value, count, rest => ⟨value, count, rest⟩
  | _ + 1, value, count, [] => ⟨value, count, []⟩
  | limit + 1, value, count, character :: rest =>
    match digit? character with
    | some next => readOn limit (10 * value + next) (count + 1) rest
    | none => ⟨value, count, character :: rest⟩

/-- Reads at least one and at most `limit` digits. -/
def read? (limit : Nat) (text : List Char) : Option Prefixed :=
  let found := readOn limit 0 0 text
  if found.count = 0 then none else some found

/-- A digit is read back from its character. -/
theorem digit?_digit (value : Nat) : digit? (digit value) = some (value % 10) := by
  have small : value % 10 < 10 := Nat.mod_lt _ (by decide)
  have all : ∀ digits : Fin 10, digit? (Char.ofNat (48 + digits.val)) = some digits.val := by decide
  exact all ⟨value % 10, small⟩

end BoxOffice.Decimal
