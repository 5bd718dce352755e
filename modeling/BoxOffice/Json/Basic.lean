import BoxOffice.Register

/-!
# JSON

A `Json` is the tree of a JSON text as it was written: members stand in the order of the text, a
name may occur twice, and a number tells whether it was written as an integer. A string literal
may hold an escape for half of a surrogate pair; such a literal is well-formed JSON but names no
text. Where a text stops being JSON, the tree ends in the leaf `broken`: everything before the
break is kept, so a reader that takes the tree from left to right meets faults in the order of
the text.
-/
namespace BoxOffice

/-- What a string literal names. -/
inductive Json.Literal where
  /-- A text. -/
  | text (content : String)
  /-- Nothing: the literal holds half of a surrogate pair. -/
  | unpaired
deriving DecidableEq, Repr

instance : Coe String Json.Literal := ⟨.text⟩

/-- A number as it was written. -/
inductive Json.Numeral where
  /-- Digits only, with or without a minus sign; not minus zero. -/
  | integer (value : Int)
  /-- A number with fraction or exponent, or minus zero: digits times a power of ten. -/
  | decimal (negative : Bool) (digits : Nat) (exponent : Int)
deriving DecidableEq, Repr

/-- A JSON text as a tree. -/
inductive Json where
  /-- The literal null. -/
  | null
  /-- The literals true and false. -/
  | bool (value : Bool)
  /-- A number. -/
  | number (numeral : Json.Numeral)
  /-- A string literal. -/
  | string (literal : Json.Literal)
  /-- The items of an array. -/
  | array (items : List Json)
  /-- The members of an object in the order of the text. -/
  | object (members : List (Json.Literal × Json))
  /-- The place where the text stops being JSON. -/
  | broken
deriving BEq, Repr

namespace Json

instance : Inhabited Json := ⟨.null⟩

/-- The string literal of a text. -/
def ofText (text : String) : Json := .string (.text text)

/-- The number of an integer. -/
def ofInt (value : Int) : Json := .number (.integer value)

/-- The object of named values. -/
def ofFields (fields : List (String × Json)) : Json :=
  .object (fields.map fun field => (.text field.1, field.2))

/-- A value, or null for none. -/
def ofOption {α : Type} (write : α → Json) : Option α → Json
  | some value => write value
  | none => .null

namespace Numeral

/-- The least magnitude that has no double-precision number: halfway from the greatest of them to
the next power of two. -/
def magnitudeLimit : Nat := Nat.pow 2 1024 - Nat.pow 2 970

/-- Whether the magnitude has a double-precision number. The number of digits decides, except
near the limit, where exact integers are compared. -/
def isFinite : Numeral → Bool
  | .integer value => value.natAbs < magnitudeLimit
  | .decimal _ digits exponent =>
    let length := (Nat.toDigits 10 digits).length
    if digits = 0 then true
    else if length + exponent > 310 then false
    else if length + exponent < 300 then true
    else if 0 ≤ exponent then digits * Nat.pow 10 exponent.toNat < magnitudeLimit
    else digits < magnitudeLimit * Nat.pow 10 exponent.natAbs

/-- An integer stays one while it fits in 64 bits, signed or unsigned; beyond that it counts as
a decimal. -/
def canonical : Numeral → Numeral
  | .integer value =>
    if -9223372036854775808 ≤ value ∧ value ≤ 18446744073709551615 then .integer value
    else .decimal (value < 0) value.natAbs 0
  | .decimal negative digits exponent => .decimal negative digits exponent

end Numeral

mutual

/-- Whether the text was JSON to its end. -/
def isWhole : Json → Bool
  | .broken => false
  | .array items => isWholeItems items
  | .object members => isWholeMembers members
  | _ => true

/-- Whether all items are whole. -/
def isWholeItems : List Json → Bool
  | [] => true
  | item :: rest => isWhole item && isWholeItems rest

/-- Whether the values of all members are whole. -/
def isWholeMembers : List (Literal × Json) → Bool
  | [] => true
  | (_, value) :: rest => isWhole value && isWholeMembers rest

end

mutual

/-- Whether every literal names a text and every number has a double-precision number, and the
text was JSON to its end. -/
def isReadable : Json → Bool
  | .broken => false
  | .string .unpaired => false
  | .number numeral => numeral.isFinite
  | .array items => isReadableItems items
  | .object members => isReadableMembers members
  | _ => true

/-- Whether all items are readable. -/
def isReadableItems : List Json → Bool
  | [] => true
  | item :: rest => isReadable item && isReadableItems rest

/-- Whether the names and values of all members are readable. -/
def isReadableMembers : List (Literal × Json) → Bool
  | [] => true
  | (name, value) :: rest => name ≠ .unpaired && isReadable value && isReadableMembers rest

end

mutual

/-- The number of arrays and objects that stand around the innermost value, at most. -/
def depth : Json → Nat
  | .array items => depthItems items + 1
  | .object members => depthMembers members + 1
  | _ => 0

/-- The greatest depth of the items. -/
def depthItems : List Json → Nat
  | [] => 0
  | item :: rest => max (depth item) (depthItems rest)

/-- The greatest depth of the values of members. -/
def depthMembers : List (Literal × Json) → Nat
  | [] => 0
  | (_, value) :: rest => max (depth value) (depthMembers rest)

end

/-- The name of a member, the empty text where the literal names none. -/
def Literal.content : Literal → String
  | .text content => content
  | .unpaired => ""

mutual

/-- The value that a tree stands for: members in ascending order of their names, of two with one
name the later one, and integers beyond 64 bits as decimals. -/
def canonical : Json → Json
  | .number numeral => .number numeral.canonical
  | .array items => .array (canonicalItems items)
  | .object members => ofFields (Register.ofList (canonicalMembers members)).entries
  | leaf => leaf

/-- The values of items. -/
def canonicalItems : List Json → List Json
  | [] => []
  | item :: rest => canonical item :: canonicalItems rest

/-- The values of members with their names. -/
def canonicalMembers : List (Literal × Json) → List (String × Json)
  | [] => []
  | (name, value) :: rest => (name.content, canonical value) :: canonicalMembers rest

end

end Json

end BoxOffice
