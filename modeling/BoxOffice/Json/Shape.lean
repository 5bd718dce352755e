import BoxOffice.Json.Leaf

/-!
# Shapes of records

A `Shape` describes a record in JSON: its fields in the order of declaration, which of them may
be missing, and how the record is made of their values. Shapes are put together field by field.

A record is an object with its fields as members, each at most once, in any order; members with
other names are passed over as long as they are JSON. A record is also an array of the values in
the order of declaration, where fields with a default may be left off at the end. Members and
items are examined from left to right and the first flaw counts; that a field is missing shows
only at the end.
-/
namespace BoxOffice.Json

/-- What a shape asks of one field. -/
structure Rule where
  /-- The name of the member. -/
  name : String
  /-- Whether the field may be left off at the end of an array. -/
  hasDefault : Bool
  /-- The flaw of a value of the field, if it has one. -/
  flaw? : Json → Option Flaw

/-- The flaw that a decoder finds. -/
def flawOf {α : Type} (decode : Decoder α) (value : Json) : Option Flaw :=
  match decode value with
  | .error flaw => some flaw
  | .ok _ => none

/-- The values of fields by name. -/
abbrev Fields := String → Option Json

/-- A record in JSON. -/
structure Shape (α : Type) where
  /-- The fields in the order of declaration. -/
  rules : List Rule
  /-- The record of the values found. -/
  build : Fields → Except Flaw α

namespace Shape

/-- A record without fields. -/
def constant {α : Type} (value : α) : Shape α := ⟨[], fun _ => .ok value⟩

/-- A record of the fields of two shapes. -/
def apply {α β : Type} (first : Shape (α → β)) (second : Shape α) : Shape β where
  rules := first.rules ++ second.rules
  build fields :=
    match first.build fields with
    | .error flaw => .error flaw
    | .ok make => (second.build fields).map make

instance : Applicative Shape where
  pure := constant
  seq first second := apply first (second ())

/-- A field that must be there. -/
def required {α : Type} (name : String) (decode : Decoder α) : Shape α where
  rules := [⟨name, false, flawOf decode⟩]
  build fields :=
    match fields name with
    | some value => decode value
    | none => .error .mismatched

/-- A field that has a given value when it is missing. -/
def defaulted {α : Type} (name : String) (missing : α) (decode : Decoder α) : Shape α where
  rules := [⟨name, true, flawOf decode⟩]
  build fields :=
    match fields name with
    | some value => decode value
    | none => .ok missing

/-- A field without a value when it is missing from an object; in an array it has its place. -/
def optional {α : Type} (name : String) (decode : Decoder α) : Shape (Option α) where
  rules := [⟨name, false, flawOf (readOption decode)⟩]
  build fields :=
    match fields name with
    | some value => readOption decode value
    | none => .ok none

end Shape

/-- The first flaw among members, some names having been seen before. -/
def membersFlaw? (rules : List Rule) (seen : List String) : List (Literal × Json) → Option Flaw
  | [] => none
  | (.unpaired, _) :: _ => some .malformed
  | (.text name, value) :: rest =>
    match rules.find? fun rule => rule.name = name with
    | none => if value.isWhole then membersFlaw? rules seen rest else some .malformed
    | some rule =>
      if name ∈ seen then some .mismatched
      else match rule.flaw? value with
        | some flaw => some flaw
        | none => membersFlaw? rules (name :: seen) rest

/-- The first flaw among items, which belong to the fields in turn. -/
def itemsFlaw? : List Rule → List Json → Option Flaw
  | [], [] => none
  | [], _ :: _ => some .malformed
  | rule :: rules, [] => if rule.hasDefault then itemsFlaw? rules [] else some .mismatched
  | rule :: rules, item :: items =>
    match rule.flaw? item with
    | some flaw => some flaw
    | none => itemsFlaw? rules items

/-- The values of members by name. -/
def memberFields (members : List (Literal × Json)) : Fields := fun name =>
  (members.find? fun member => member.1 = .text name).map (·.2)

/-- The values of items by the names of the fields they belong to. -/
def itemFields (rules : List Rule) (items : List Json) : Fields := fun name =>
  ((rules.zip items).find? fun pair => pair.1.name = name).map (·.2)

/-- Reads a record. -/
def Shape.decode {α : Type} (shape : Shape α) : Decoder α
  | .object members =>
    match membersFlaw? shape.rules [] members with
    | some flaw => .error flaw
    | none => shape.build (memberFields members)
  | .array items =>
    match itemsFlaw? shape.rules items with
    | some flaw => .error flaw
    | none => shape.build (itemFields shape.rules items)
  | other => .error (unexpected other)

end BoxOffice.Json
