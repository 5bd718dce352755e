import BoxOffice.Text.Hex
import BoxOffice.Text.Quoted.Spelled

/-!
# Quotations

A text in double quotes such that any reader can tell its characters apart: quotes and
backslashes after a backslash, the four common controls by letter, and every character that is
invisible or joins its neighbour by its code point in hexadecimal digits between braces.
-/
namespace BoxOffice.Text

/-- One character of a quotation. -/
def quoteCharacter (character : Char) : List Char :=
  if character = '"' then ['\\', '"']
  else if character = '\\' then ['\\', '\\']
  else if character = '\n' then ['\\', 'n']
  else if character = '\r' then ['\\', 'r']
  else if character = '\t' then ['\\', 't']
  else if character = '\x00' then ['\\', '0']
  else if isSpelled character then
    ['\\', 'u', '{'] ++ Hex.ofNat character.toNat ++ ['}']
  else [character]

/-- A text as a quotation. -/
def quote (text : String) : String :=
  String.ofList ('"' :: (text.toList.flatMap quoteCharacter ++ ['"']))

end BoxOffice.Text
