import BoxOffice.Json.Reader
import BoxOffice.Time.Rfc3339
import BoxOffice.Uuid

/-!
# Reading and writing plain values as JSON

A decoder takes a tree to a value or to the flaw that a reader of the text meets first. A tree is
malformed where the text stops being JSON, names no text or holds a number beyond all bounds, and
mismatched where it is JSON of another form. Integers are accepted only in the integer spelling
and in range, dates and identifiers only as strings. A free value is any readable tree of limited
depth; it is taken in its canonical form.
-/
namespace BoxOffice.Json

/-- What is wrong with a tree. -/
inductive Flaw where
  /-- The text is no JSON, or no JSON with a value. -/
  | malformed
  /-- The value has another form than the one asked for. -/
  | mismatched
deriving DecidableEq, Repr

/-- A reader of values from trees. -/
abbrev Decoder (α : Type) := Json → Except Flaw α

/-- The flaw of a tree that stands where another form belongs. Arrays and objects are recognised
by their first mark; anything else is read to its end first. -/
def unexpected : Json → Flaw
  | .broken => .malformed
  | .string .unpaired => .malformed
  | .number numeral => if numeral.isFinite then .mismatched else .malformed
  | _ => .mismatched

/-- Reads a text. -/
def readText : Decoder String
  | .string (.text content) => .ok content
  | other => .error (unexpected other)

/-- Reads a text that `choose` gives a value. -/
def readTextAs {α : Type} (choose : String → Option α) (value : Json) : Except Flaw α :=
  match readText value with
  | .error flaw => .error flaw
  | .ok content =>
    match choose content with
    | some result => .ok result
    | none => .error .mismatched

/-- Reads an integer that `choose` gives a value. -/
def readIntegerAs {α : Type} (choose : Int → Option α) : Decoder α
  | .number (.integer value) =>
    match choose value with
    | some result => .ok result
    | none => .error (unexpected (.number (.integer value)))
  | other => .error (unexpected other)

/-- Reads an integer of 64 bits. -/
def readInt64 : Decoder Int64 := readIntegerAs int64?

/-- Reads an integer of 32 bits. -/
def readInt32 : Decoder Int32 := readIntegerAs int32?

/-- Reads an identifier. -/
def readUuid : Decoder Uuid := readTextAs Uuid.read?

/-- Reads an instant. -/
def readInstant : Decoder Instant := readTextAs Rfc3339.read?

/-- Reads a value, or none from null. -/
def readOption {α : Type} (decode : Decoder α) : Decoder (Option α)
  | .null => .ok none
  | other => (decode other).map some

/-- Reads the items of an array in turn. -/
def readItems {α : Type} (decode : Decoder α) : List Json → Except Flaw (List α)
  | [] => .ok []
  | item :: rest =>
    match decode item with
    | .error flaw => .error flaw
    | .ok value => (readItems decode rest).map (value :: ·)

/-- Reads a list. -/
def readList {α : Type} (decode : Decoder α) : Decoder (List α)
  | .array items => readItems decode items
  | other => .error (unexpected other)

/-- Reads the members of an object in turn. -/
def readMembers {α : Type} (decode : Decoder α) :
    List (Literal × Json) → Except Flaw (List (String × α))
  | [] => .ok []
  | (.unpaired, _) :: _ => .error .malformed
  | (.text name, member) :: rest =>
    match decode member with
    | .error flaw => .error flaw
    | .ok value => (readMembers decode rest).map ((name, value) :: ·)

/-- Reads a register from an object; of two members with one name the later one stays. -/
def readRegister {α : Type} (decode : Decoder α) : Decoder (Register String α)
  | .object members => (readMembers decode members).map Register.ofList
  | other => .error (unexpected other)

/-- Reads a name out of a fixed choice, as a string or as the one member, null, of an object. -/
def readName {α : Type} (choose : String → Option α) : Decoder α
  | .object [(.text name, .null)] => readTextAs choose (.ofText name)
  | .string literal => readTextAs choose (.string literal)
  | _ => .error .malformed

/-- How many arrays and objects a free value may nest. -/
def freeDepth : Nat := 126

/-- Reads a free value. -/
def readFree : Decoder Json := fun value =>
  if value.isReadable && decide (value.depth ≤ freeDepth) then .ok value.canonical
  else .error .malformed

/-- Reads a whole text: one value with nothing but blanks after it. -/
def readWhole {α : Type} (decode : Decoder α) (text : String) : Except Flaw α :=
  let reading := read text
  match decode reading.value with
  | .error flaw => .error flaw
  | .ok value => if reading.isEnd then .ok value else .error .malformed

/-- An integer of 64 bits as a number. -/
def ofInt64 (value : Int64) : Json := ofInt value.toInt

/-- An integer of 32 bits as a number. -/
def ofInt32 (value : Int32) : Json := ofInt value.toInt

/-- A number of things. -/
def ofNat (value : Nat) : Json := ofInt value

/-- An identifier as a string. -/
def ofUuid (id : Uuid) : Json := ofText id.hyphenated

/-- An instant as a string. -/
def ofInstant (instant : Instant) : Json := ofText (Rfc3339.write instant)

/-- A list as an array. -/
def ofList {α : Type} (write : α → Json) (items : List α) : Json := .array (items.map write)

/-- A register as an object. -/
def ofRegister {α : Type} (write : α → Json) (register : Register String α) : Json :=
  ofFields (register.entries.map fun entry => (entry.1, write entry.2))

end BoxOffice.Json
