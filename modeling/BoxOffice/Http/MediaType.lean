/-!
# Media types

A media type is `type/subtype` with parameters after semicolons. A suffix after the last plus
sign of the subtype names the format of the data. `MediaType.read?` accepts what stands in a
header exactly when it is a media type; `MediaType.isJson` tells whether it promises JSON.
-/
namespace BoxOffice.Http

/-- A media type without its parameters. -/
structure MediaType where
  /-- The type, in lower case. -/
  main : String
  /-- The subtype up to its suffix, in lower case. -/
  sub : String
  /-- The suffix, in lower case. -/
  ending : Option String
deriving DecidableEq, Repr

namespace MediaType

/-- Whether a character may stand in a name. -/
def isNameCharacter (character : Char) : Bool :=
  character.isAlphanum || "!#$%&'+-.^_\x60|~".toList.contains character

/-- Whether a character may stand between quotes. -/
def isQuotable (character : Char) : Bool := 31 < character.toNat && character.toNat ≠ 127

/-- The text after a quoted value: blanks up to a semicolon or the end. -/
def readAfterQuote? : List Char → Option (List Char)
  | [] => some []
  | ' ' :: rest => readAfterQuote? rest
  | ';' :: rest => some rest
  | _ => none

/-- The text after the value of a parameter. A value is a name, possibly empty at the end, or any
characters between quotes, at least one. -/
def readValue? (text : List Char) : Option (List Char) :=
  match text with
  | '"' :: quoted =>
    match quoted.drop 1 |>.span (· ≠ '"') with
    | (content, '"' :: rest) =>
      if (quoted.take 1 ++ content).all isQuotable then readAfterQuote? rest else none
    | _ => none
  | _ =>
    match text.span isNameCharacter with
    | (_, []) => some []
    | (value, ';' :: rest) => if value.isEmpty then none else some rest
    | _ => none

/-- Whether a text is parameters with semicolons between them, at most so many. -/
def areParameters : (limit : Nat) → List Char → Bool
  | _, [] => true
  | 0, _ => false
  | limit + 1, text =>
    match (text.dropWhile (· = ' ')).span isNameCharacter with
    | ([], []) => true
    | (_ :: _, '=' :: value) =>
      match readValue? value with
      | some rest => areParameters limit rest
      | none => false
    | _ => false

/-- A subtype, parted by its last plus sign unless that stands at its beginning. -/
def partSubtype (subtype : List Char) : List Char × Option (List Char) :=
  let reversedEnding := subtype.reverse.takeWhile (· ≠ '+')
  let before := (subtype.reverse.dropWhile (· ≠ '+')).drop 1
  if before.isEmpty then (subtype, none) else (before.reverse, some reversedEnding.reverse)

/-- A name in lower case. -/
def lower (name : List Char) : String := String.ofList (name.map Char.toLower)

/-- Reads a media type. -/
def read? (text : String) : Option MediaType :=
  match text.toList.span isNameCharacter with
  | (main, '/' :: rest) =>
    let parts := rest.span isNameCharacter
    let parameters := parts.2.drop 1
    let isWellFormed := match parts.2 with
      | [] => true
      | ';' :: _ => !parts.1.isEmpty && areParameters parameters.length parameters
      | _ => false
    if main.isEmpty || !isWellFormed then none
    else
      let subtype := partSubtype parts.1
      some ⟨lower main, lower subtype.1, subtype.2.map lower⟩
  | _ => none

/-- Whether data of a media type is JSON. -/
def isJson (mediaType : MediaType) : Bool :=
  mediaType.main = "application" && (mediaType.sub = "json" || mediaType.ending = some "json")

end MediaType

end BoxOffice.Http
