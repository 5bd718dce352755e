import BoxOffice.Json.Basic
import BoxOffice.Text.Decimal
import BoxOffice.Text.Hex

/-!
# Tokens of JSON

A text is scanned character by character into marks, string literals and plain values. The
scanner is an automaton: between tokens, inside a string, inside an escape, or inside a word,
which is a run of characters up to the next blank, mark or quote. A word is a literal name or a
number, possibly with a rest that belongs to nothing; at the first fault the scan ends.
-/
namespace BoxOffice.Json

/-- A token of a JSON text. -/
inductive Token where
  /-- The mark that opens an array. -/
  | openArray
  /-- The mark that closes an array. -/
  | closeArray
  /-- The mark that opens an object. -/
  | openObject
  /-- The mark that closes an object. -/
  | closeObject
  /-- The mark between a name and its value. -/
  | colon
  /-- The mark between items or members. -/
  | comma
  /-- A string literal. -/
  | string (literal : Literal)
  /-- Any other value without parts. -/
  | plain (value : Json)
  /-- Characters that begin no token. -/
  | fault

/-- Part of a string literal: a character, or half of a surrogate pair. -/
inductive Piece where
  /-- A character. -/
  | character (value : Char)
  /-- The code of half of a surrogate pair. -/
  | half (code : Nat)

/-- The characters of the pieces of a literal, when every half has its other half after it. -/
def joinPieces : List Piece → Option (List Char)
  | [] => some []
  | .character value :: rest => (joinPieces rest).map (value :: ·)
  | .half high :: .half low :: rest =>
    if high < 0xDC00 ∧ 0xDC00 ≤ low then
      (joinPieces rest).map
        (Char.ofNat (0x10000 + (high - 0xD800) * 0x400 + (low - 0xDC00)) :: ·)
    else none
  | .half _ :: _ => none

/-- The literal of its pieces. -/
def Literal.ofPieces (pieces : List Piece) : Literal :=
  match joinPieces pieces with
  | some characters => .text (String.ofList characters)
  | none => .unpaired

/-- The piece of a code unit. -/
def Piece.ofCode (code : Nat) : Piece :=
  if 0xD800 ≤ code ∧ code ≤ 0xDFFF then .half code else .character (Char.ofNat code)

/-- The character that a letter after a backslash stands for. -/
def escaped? : Char → Option Char
  | '"' => some '"'
  | '\\' => some '\\'
  | '/' => some '/'
  | 'b' => some '\x08'
  | 'f' => some '\x0c'
  | 'n' => some '\n'
  | 'r' => some '\r'
  | 't' => some '\t'
  | _ => none

/-- The number that an integer part begins: its digits and what follows. A zero that another
digit follows begins no number. -/
def integerPart? (text : List Char) : Option Decimal.Prefixed := do
  let found ← Decimal.read? text.length text
  if text.head? = some '0' ∧ found.count ≠ 1 then none else some found

/-- The exponent at the beginning of a text, if it has one; the outer option tells a fault. -/
def exponentPart? : List Char → Option (Option (Int × List Char))
  | mark :: rest =>
    if mark = 'e' ∨ mark = 'E' then
      match rest with
      | '-' :: digits => (Decimal.read? digits.length digits).map
          fun found => some (-(found.value : Int), found.rest)
      | '+' :: digits => (Decimal.read? digits.length digits).map
          fun found => some ((found.value : Int), found.rest)
      | digits => (Decimal.read? digits.length digits).map
          fun found => some ((found.value : Int), found.rest)
    else some none
  | [] => some none

/-- A number without its sign, and what follows it. -/
def unsigned? (negative : Bool) (text : List Char) : Option (Numeral × List Char) := do
  let whole ← integerPart? text
  let fraction ← match whole.rest with
    | '.' :: digits => (Decimal.read? digits.length digits).map some
    | _ => some none
  let digits := match fraction with
    | some found => whole.value * Nat.pow 10 found.count + found.value
    | none => whole.value
  let places := match fraction with
    | some found => found.count
    | none => 0
  let rest := match fraction with
    | some found => found.rest
    | none => whole.rest
  match ← exponentPart? rest with
  | some (exponent, rest) => some (.decimal negative digits (exponent - places), rest)
  | none =>
    if fraction.isSome || negative && digits == 0 then
      some (.decimal negative digits (-places), rest)
    else some (.integer (if negative then -digits else digits), rest)

/-- The number at the beginning of a word, and the rest of the word. -/
def number? : List Char → Option (Numeral × List Char)
  | '-' :: rest => unsigned? true rest
  | text => unsigned? false text

/-- The value at the beginning of a word, and the rest of the word. -/
def plainValue? (word : List Char) : Option (Json × List Char) :=
  if word.take 4 = ['n', 'u', 'l', 'l'] then some (.null, word.drop 4)
  else if word.take 4 = ['t', 'r', 'u', 'e'] then some (.bool true, word.drop 4)
  else if word.take 5 = ['f', 'a', 'l', 's', 'e'] then some (.bool false, word.drop 5)
  else (number? word).map fun found => (.number found.1, found.2)

/-- The tokens of a word: a value, and a fault for a rest of the word. -/
def wordTokens (word : List Char) : List Token :=
  match plainValue? word with
  | some (value, []) => [.plain value]
  | some (value, _) => [.plain value, .fault]
  | none => [.fault]

/-- Where the scanner stands. Collected characters and pieces are kept in reverse. -/
inductive Scan where
  /-- Between tokens. -/
  | between
  /-- In a word. -/
  | word (reversed : List Char)
  /-- In a string literal. -/
  | string (reversed : List Piece)
  /-- After a backslash in a string literal. -/
  | escape (reversed : List Piece)
  /-- In the digits of an escape by code: how many are missing, and the value of those read. -/
  | code (reversed : List Piece) (missing value : Nat)
  /-- After a fault. -/
  | ended

/-- Whether JSON allows a character between tokens. -/
def isSpace (character : Char) : Bool :=
  character = ' ' || character = '\n' || character = '\r' || character = '\t'

/-- The token of a mark. -/
def mark? : Char → Option Token
  | '[' => some .openArray
  | ']' => some .closeArray
  | '{' => some .openObject
  | '}' => some .closeObject
  | ':' => some .colon
  | ',' => some .comma
  | _ => none

/-- One character between tokens. -/
def Scan.start (character : Char) : List Token × Scan :=
  if isSpace character then ([], .between)
  else if character = '"' then ([], .string [])
  else match mark? character with
    | some token => ([token], .between)
    | none => ([], .word [character])

/-- The tokens that one character completes, and where the scanner stands after it. -/
def Scan.step : Scan → Char → List Token × Scan
  | .between, character => start character
  | .word reversed, character =>
    if isSpace character || character = '"' || (mark? character).isSome then
      let next := start character
      (wordTokens reversed.reverse ++ next.1, next.2)
    else ([], .word (character :: reversed))
  | .string reversed, character =>
    if character = '"' then ([.string (.ofPieces reversed.reverse)], .between)
    else if character = '\\' then ([], .escape reversed)
    else if character.toNat < 0x20 then ([.fault], .ended)
    else ([], .string (.character character :: reversed))
  | .escape reversed, character =>
    if character = 'u' then ([], .code reversed 4 0)
    else match escaped? character with
      | some value => ([], .string (.character value :: reversed))
      | none => ([.fault], .ended)
  | .code reversed missing value, character =>
    match Hex.digit? character with
    | some digit =>
      let value := value * 16 + digit.val
      if missing ≤ 1 then ([], .string (.ofCode value :: reversed))
      else ([], .code reversed (missing - 1) value)
    | none => ([.fault], .ended)
  | .ended, _ => ([], .ended)

/-- The tokens that the end of the text completes. -/
def Scan.finish : Scan → List Token
  | .between => []
  | .word reversed => wordTokens reversed.reverse
  | .ended => []
  | _ => [.fault]

/-- The tokens of a text from where the scanner stands. -/
def Scan.tokens : Scan → List Char → List Token
  | scan, [] => scan.finish
  | scan, character :: rest =>
    let next := scan.step character
    next.1 ++ next.2.tokens rest

/-- The tokens of a text. -/
def tokens (text : String) : List Token := Scan.between.tokens text.toList

end BoxOffice.Json
