import BoxOffice.Json.Token

/-!
# Reading JSON

Tokens are put together by a machine with a stack of open arrays and objects. When a token does
not fit, or the tokens end early, the leaf `broken` takes the place of the missing value and the
open arrays and objects are closed around it. The tokens after a complete value are left over;
a text is one JSON value when none are left.
-/
namespace BoxOffice.Json

/-- An open array or object, with its parts so far in reverse. The name of an object is that of
the member whose value comes next, and `unpaired` when no such name has been read. -/
inductive Frame where
  /-- An open array. -/
  | array (reversed : List Json)
  /-- An open object. -/
  | object (reversed : List (Literal × Json)) (name : Literal)

/-- What may come next. -/
inductive Expectation where
  /-- A value. -/
  | value
  /-- A value or the end of the array. -/
  | firstItem
  /-- A name or the end of the object. -/
  | firstName
  /-- A name. -/
  | name
  /-- The mark after a name. -/
  | colon
  /-- The mark before another part, or the end of the array or object. -/
  | more
deriving DecidableEq

/-- The frame with one more part. -/
def Frame.add (value : Json) : Frame → Frame
  | .array reversed => .array (value :: reversed)
  | .object reversed name => .object ((name, value) :: reversed) .unpaired

/-- The array or object of a frame. -/
def Frame.close : Frame → Json
  | .array reversed => .array reversed.reverse
  | .object reversed _ => .object reversed.reverse

/-- The frame with the name of its next member. -/
def Frame.setName (name : Literal) : Frame → Frame
  | .object reversed _ => .object reversed name
  | frame => frame

/-- The tree that ends in the given value: it is the last part of the innermost frame, and all
frames are closed. -/
def closeAround (value : Json) : List Frame → Json
  | [] => value
  | frame :: outer => closeAround (frame.add value).close outer

/-- The tree of the tokens read so far with a break after them. -/
def breakOff (frames : List Frame) : Json := closeAround .broken frames

/-- What may come after a mark between parts. -/
def Frame.next : Frame → Expectation
  | .array _ => .value
  | .object .. => .name

/-- One step of the machine. -/
inductive Move where
  /-- The machine goes on. -/
  | go (expectation : Expectation) (frames : List Frame)
  /-- The value is complete. -/
  | complete (value : Json)
  /-- The token does not fit. -/
  | stop

/-- The step that a complete value makes. -/
def Move.place (value : Json) : List Frame → Move
  | [] => .complete value
  | frame :: outer => .go .more (frame.add value :: outer)

/-- The step that a token makes. -/
def Move.ofToken (expectation : Expectation) (frames : List Frame) (token : Token) : Move :=
  let isValue := expectation = .value ∨ expectation = .firstItem
  let isName := expectation = .name ∨ expectation = .firstName
  match token, frames with
  | .plain value, _ => if isValue then place value frames else .stop
  | .string literal, _ =>
    if isValue then place (.string literal) frames
    else if isName then
      match frames with
      | frame :: outer => .go .colon (frame.setName literal :: outer)
      | [] => .stop
    else .stop
  | .openArray, _ => if isValue then .go .firstItem (.array [] :: frames) else .stop
  | .openObject, _ => if isValue then .go .firstName (.object [] .unpaired :: frames) else .stop
  | .colon, _ => if expectation = .colon then .go .value frames else .stop
  | .comma, frame :: _ => if expectation = .more then .go frame.next frames else .stop
  | .closeArray, .array reversed :: outer =>
    if expectation = .more ∨ expectation = .firstItem then
      place (Frame.array reversed).close outer
    else .stop
  | .closeObject, .object reversed name :: outer =>
    if expectation = .more ∨ expectation = .firstName then
      place (Frame.object reversed name).close outer
    else .stop
  | _, _ => .stop

/-- The tree of some tokens, and the tokens after it. -/
def assemble : Expectation → List Frame → List Token → Json × List Token
  | _, frames, [] => (breakOff frames, [])
  | expectation, frames, token :: rest =>
    match Move.ofToken expectation frames token with
    | .go expectation frames => assemble expectation frames rest
    | .complete value => (value, rest)
    | .stop => (breakOff frames, rest)

/-- A value read from the beginning of a text. -/
structure Reading where
  /-- The tree. -/
  value : Json
  /-- Whether nothing but blanks follows. -/
  isEnd : Bool

/-- Reads the value at the beginning of a text. -/
def read (text : String) : Reading :=
  let found := assemble .value [] (tokens text)
  ⟨found.1, found.2.isEmpty⟩

end BoxOffice.Json
