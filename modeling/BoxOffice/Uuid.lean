import BoxOffice.Text.Hex

/-!
# Identifiers

A `Uuid` is thirty-two hexadecimal digits. It is written hyphenated in groups of 8, 4, 4, 4 and
12 digits, or as the bare digits. It is read from either of these forms, from the hyphenated
form between braces, and from the hyphenated form after `urn:uuid:`, with digits in either
case. `Uuid.read?_hyphenated` says that an identifier is read back from its written form.
-/
namespace BoxOffice

/-- An identifier of 128 bits, as its hexadecimal digits. -/
structure Uuid where
  /-- The digits, the most significant first. -/
  digits : Vector (Fin 16) 32
deriving DecidableEq

namespace Uuid

/-- The identifier with a given value as an unsigned number of 128 bits. -/
def ofNat (value : Nat) : Uuid :=
  ⟨Vector.ofFn fun place : Fin 32 => Hex.last (value / Nat.pow 16 (31 - place.val))⟩

/-- The characters of the digits, in lower case. -/
def characters (id : Uuid) : List Char := id.digits.toList.map Hex.lower

/-- The bare form: thirty-two digits. -/
def bare (id : Uuid) : String := String.ofList id.characters

/-- The characters of the hyphenated form. -/
def hyphenatedCharacters (id : Uuid) : List Char :=
  let text := id.characters
  text.take 8 ++ '-' :: ((text.drop 8).take 4 ++ '-' :: ((text.drop 12).take 4 ++
    '-' :: ((text.drop 16).take 4 ++ '-' :: text.drop 20)))

/-- The hyphenated form: groups of 8, 4, 4, 4 and 12 digits. -/
def hyphenated (id : Uuid) : String := String.ofList id.hyphenatedCharacters

instance : ToString Uuid := ⟨hyphenated⟩

/-- Reads exactly thirty-two digits. -/
def readBare? (text : List Char) : Option Uuid :=
  match text.mapM Hex.digit? with
  | none => none
  | some digits =>
    if sized : digits.length = 32 then some ⟨⟨digits.toArray, by simpa using sized⟩⟩ else none

/-- Reads the hyphenated form: a hyphen after each of the first four groups. -/
def readHyphenated? (text : List Char) : Option Uuid :=
  if text.length = 36 ∧ text[8]? = some '-' ∧ text[13]? = some '-' ∧ text[18]? = some '-' ∧
      text[23]? = some '-' then
    readBare? (text.take 8 ++ (text.drop 9).take 4 ++ (text.drop 14).take 4 ++
      (text.drop 19).take 4 ++ text.drop 24)
  else none

/-- Reads an identifier in any of its four forms; the length of the text tells which. -/
def readCharacters? (text : List Char) : Option Uuid :=
  if text.length = 32 then readBare? text
  else if text.length = 36 then readHyphenated? text
  else if text.length = 38 then
    if text.head? = some '{' ∧ text.getLast? = some '}' then
      readHyphenated? (text.drop 1).dropLast
    else none
  else if text.length = 45 ∧ text.take 9 = "urn:uuid:".toList then readHyphenated? (text.drop 9)
  else none

/-- Reads an identifier from a text. -/
def read? (text : String) : Option Uuid := readCharacters? text.toList

/-- Digits are read back from their characters. -/
theorem mapM_digit?_map_lower (digits : List (Fin 16)) :
    (digits.map Hex.lower).mapM Hex.digit? = some digits := by
  induction digits with
  | nil => rfl
  | cons digit rest ih =>
    simp only [List.map_cons, List.mapM_cons, Hex.digit?_lower, ih, Option.pure_def,
      Option.bind_eq_bind, Option.bind_some]

/-- There are thirty-two digits. -/
theorem length_characters (id : Uuid) : id.characters.length = 32 := by
  simp [characters]

/-- An identifier is read back from its digits. -/
theorem readBare?_characters (id : Uuid) : readBare? id.characters = some id := by
  have sized : id.digits.toList.length = 32 := Vector.length_toList
  simp only [readBare?, characters, mapM_digit?_map_lower, sized, ↓reduceDIte]
  rfl

/-- The hyphenated form has four characters more than there are digits. -/
theorem length_hyphenatedCharacters (id : Uuid) : id.hyphenatedCharacters.length = 36 := by
  simp [hyphenatedCharacters, length_characters]

/-- The hyphens stand after the first four groups. -/
theorem hyphens_hyphenatedCharacters (id : Uuid) :
    id.hyphenatedCharacters[8]? = some '-' ∧ id.hyphenatedCharacters[13]? = some '-' ∧
      id.hyphenatedCharacters[18]? = some '-' ∧ id.hyphenatedCharacters[23]? = some '-' := by
  simp [hyphenatedCharacters, List.length_take, length_characters id]

/-- The groups of the hyphenated form are the digits. -/
theorem groups_hyphenatedCharacters (id : Uuid) :
    id.hyphenatedCharacters.take 8 ++ (id.hyphenatedCharacters.drop 9).take 4 ++
      (id.hyphenatedCharacters.drop 14).take 4 ++ (id.hyphenatedCharacters.drop 19).take 4 ++
      id.hyphenatedCharacters.drop 24 = id.characters := by
  have sized := length_characters id
  simp only [hyphenatedCharacters]
  generalize id.characters = text at sized ⊢
  have second : text.drop 8 = (text.drop 8).take 4 ++ text.drop 12 := by
    rw [show text.drop 12 = (text.drop 8).drop 4 by simp, List.take_append_drop]
  have third : text.drop 12 = (text.drop 12).take 4 ++ text.drop 16 := by
    rw [show text.drop 16 = (text.drop 12).drop 4 by simp, List.take_append_drop]
  have fourth : text.drop 16 = (text.drop 16).take 4 ++ text.drop 20 := by
    rw [show text.drop 20 = (text.drop 16).drop 4 by simp, List.take_append_drop]
  simp [List.drop_append, List.length_take, sized, List.drop_take]
  rw [← fourth, ← third, ← second, List.take_append_drop]

/-- An identifier is read back from its hyphenated form. -/
theorem read?_hyphenated (id : Uuid) : read? id.hyphenated = some id := by
  have hyphens := hyphens_hyphenatedCharacters id
  simp only [read?, hyphenated, String.toList_ofList, readCharacters?, readHyphenated?,
    length_hyphenatedCharacters, hyphens, groups_hyphenatedCharacters, readBare?_characters]
  simp

end Uuid

end BoxOffice
