import BoxOffice.Json.Leaf

/-!
# Statements and rows

What is sent to a database that speaks SQL: the three commands that begin and end transactions,
and queries with bound values; and the rows that come back, as cells by the names of their
columns.
-/
namespace BoxOffice.Sql

/-- A value bound to a query. -/
inductive Parameter where
  /-- A text. -/
  | text (value : String)
  /-- An integer of 64 bits. -/
  | integer (value : Int64)
  /-- An identifier. -/
  | uuid (value : Uuid)
  /-- Several identifiers. -/
  | uuids (values : List Uuid)
  /-- JSON. -/
  | json (value : Json)

/-- A bound value in JSON. -/
def Parameter.toJson : Parameter → Json
  | .text value => .ofText value
  | .integer value => .ofInt64 value
  | .uuid value => .ofUuid value
  | .uuids values => .ofList .ofUuid values
  | .json value => value

/-- What is sent to a database. -/
inductive Statement where
  /-- A transaction begins. -/
  | opening
  /-- The transaction ends and keeps its changes. -/
  | commit
  /-- The transaction ends and its changes are undone. -/
  | rollback
  /-- A query with its bound values. -/
  | query (text : String) (parameters : List Parameter)

/-- A cell of a row. -/
inductive Cell where
  /-- No value. -/
  | null
  /-- An identifier. -/
  | uuid (value : Uuid)
  /-- An integer. -/
  | integer (value : Int)
  /-- A truth value. -/
  | bool (value : Bool)
  /-- An instant. -/
  | instant (value : Instant)
  /-- A text. -/
  | text (value : String)

/-- A row: its cells by the names of their columns. -/
abbrev Row := List (String × Cell)

namespace Row

/-- The cell in a column. -/
def cell? (row : Row) (column : String) : Option Cell :=
  (row.find? fun entry => entry.1 = column).map (·.2)

/-- The identifier in a column. -/
def uuid? (row : Row) (column : String) : Option Uuid :=
  match row.cell? column with
  | some (.uuid value) => some value
  | _ => none

/-- The integer in a column. -/
def integer? (row : Row) (column : String) : Option Int :=
  match row.cell? column with
  | some (.integer value) => some value
  | _ => none

/-- The truth value in a column. -/
def bool? (row : Row) (column : String) : Option Bool :=
  match row.cell? column with
  | some (.bool value) => some value
  | _ => none

/-- The instant in a column. -/
def instant? (row : Row) (column : String) : Option Instant :=
  match row.cell? column with
  | some (.instant value) => some value
  | _ => none

/-- The text in a column. -/
def text? (row : Row) (column : String) : Option String :=
  match row.cell? column with
  | some (.text value) => some value
  | _ => none

end Row

end BoxOffice.Sql
