/-!
# Blanks

The twenty-five characters with the Unicode property White_Space, and texts without the blanks at
their ends.
-/
namespace BoxOffice.Text

/-- Whether a character has the property White_Space. -/
def isBlank (character : Char) : Bool :=
  let code := character.toNat
  (9 ≤ code && code ≤ 13) || code == 0x20 || code == 0x85 || code == 0xA0 || code == 0x1680 ||
    (0x2000 ≤ code && code ≤ 0x200A) || code == 0x2028 || code == 0x2029 || code == 0x202F ||
    code == 0x205F || code == 0x3000

/-- The blanks of ASCII are blanks. -/
theorem isBlank_of_isWhitespace {character : Char} (blank : character.isWhitespace = true) :
    isBlank character = true := by
  simp only [Char.isWhitespace, Bool.or_eq_true, decide_eq_true_eq] at blank
  rcases blank with ((rfl | rfl) | rfl) | rfl <;> rfl

/-- The characters from the first that is not a blank. -/
def trimStart (text : List Char) : List Char := text.dropWhile isBlank

/-- The characters between the blanks at both ends. -/
def trimCharacters (text : List Char) : List Char :=
  (trimStart (trimStart text).reverse).reverse

/-- The text between the blanks at both ends. -/
def trim (text : String) : String := String.ofList (trimCharacters text.toList)

end BoxOffice.Text
