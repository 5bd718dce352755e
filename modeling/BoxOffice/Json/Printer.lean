import BoxOffice.Json.Basic
import BoxOffice.Text.Hex

/-!
# Writing JSON

A tree is written without blanks. In string literals the quote, the backslash and the controls
are escaped, five of the controls by letter, and all other characters stand for themselves.
-/
namespace BoxOffice.Json

/-- One character inside a string literal. -/
def writeCharacter (character : Char) : List Char :=
  if character = '"' then ['\\', '"']
  else if character = '\\' then ['\\', '\\']
  else if character = '\x08' then ['\\', 'b']
  else if character = '\t' then ['\\', 't']
  else if character = '\n' then ['\\', 'n']
  else if character = '\x0c' then ['\\', 'f']
  else if character = '\r' then ['\\', 'r']
  else if character.toNat < 0x20 then
    let digits := Hex.ofByte (UInt8.ofNat character.toNat)
    ['\\', 'u', '0', '0', Hex.lower digits.1, Hex.lower digits.2]
  else [character]

/-- A string literal. -/
def writeText (text : String) : List Char :=
  '"' :: (text.toList.flatMap writeCharacter ++ ['"'])

/-- A number: an integer as its digits, a decimal as digits and exponent. -/
def writeNumeral : Numeral → List Char
  | .integer value => (toString value).toList
  | .decimal negative digits exponent =>
    (if negative then ['-'] else []) ++
      ((toString digits).toList ++ 'e' :: (toString exponent).toList)

mutual

/-- The characters of a tree. A literal that names no text and a break are written as null. -/
def writeCharacters : Json → List Char
  | .null => ['n', 'u', 'l', 'l']
  | .bool true => ['t', 'r', 'u', 'e']
  | .bool false => ['f', 'a', 'l', 's', 'e']
  | .number numeral => writeNumeral numeral
  | .string (.text content) => writeText content
  | .string .unpaired => ['n', 'u', 'l', 'l']
  | .array items => '[' :: (writeItems items ++ [']'])
  | .object members => '{' :: (writeMembers members ++ ['}'])
  | .broken => ['n', 'u', 'l', 'l']

/-- The characters of items with commas between them. -/
def writeItems : List Json → List Char
  | [] => []
  | [item] => writeCharacters item
  | item :: next :: rest => writeCharacters item ++ ',' :: writeItems (next :: rest)

/-- The characters of members with commas between them. -/
def writeMembers : List (Literal × Json) → List Char
  | [] => []
  | [(name, value)] => writeText name.content ++ ':' :: writeCharacters value
  | (name, value) :: next :: rest =>
    writeText name.content ++ ':' :: (writeCharacters value ++ ',' :: writeMembers (next :: rest))

end

/-- The text of a tree. -/
def write (value : Json) : String := String.ofList (writeCharacters value)

end BoxOffice.Json
