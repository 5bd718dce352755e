import BoxOffice.Json.Basic

/-!
# Requests and responses

What the box office is asked over HTTP, and what it answers.
-/
namespace BoxOffice.Http

/-- A request. -/
structure HttpRequest where
  /-- The method. -/
  method : String
  /-- The path and what follows it. -/
  target : String
  /-- The type of the body, if it is told. -/
  contentType : Option String
  /-- The body. -/
  body : String

/-- The path in a target without query. A target may name scheme and host before the path, and
then no path is the root. -/
def pathAfterHost (target : List Char) : List Char :=
  match target.span (· ≠ ':') with
  | ('/' :: _, _) => target
  | (_, ':' :: '/' :: '/' :: rest) =>
    let path := rest.dropWhile (· ≠ '/')
    if path.isEmpty then ['/'] else path
  | _ => target

/-- The path of a request, without query and fragment. -/
def HttpRequest.path (request : HttpRequest) : String :=
  String.ofList (pathAfterHost (request.target.toList.takeWhile fun character =>
    character ≠ '?' && character ≠ '#'))

/-- The type of the body, if it is told in printable characters and tabs. -/
def HttpRequest.bodyType? (request : HttpRequest) : Option String :=
  request.contentType.filter fun contentType =>
    contentType.toList.all fun character =>
      32 ≤ character.toNat && character.toNat < 127 || character = '\t'

/-- The body of a response. -/
inductive Content where
  /-- There is none. -/
  | nothing
  /-- A text. -/
  | text (value : String)
  /-- JSON. -/
  | json (value : Json)

/-- The type of JSON. -/
def jsonType : String := "application/json"

/-- The type of texts. -/
def textType : String := "text/plain; charset=utf-8"

/-- The type of a body, if there is a body. -/
def Content.type? : Content → Option String
  | .nothing => none
  | .text _ => some textType
  | .json _ => some jsonType

/-- A response. -/
structure HttpResponse where
  /-- The status. -/
  status : Nat
  /-- The type of the body, if it is told. -/
  contentType : Option String
  /-- The methods that are allowed, if they are told. -/
  allow : Option String
  /-- The body. -/
  body : Content

namespace HttpResponse

/-- A response with a status and a body. -/
def of (status : Nat) (body : Content) : HttpResponse := ⟨status, body.type?, none, body⟩

/-- A response in JSON. -/
def json (status : Nat) (value : Json) : HttpResponse := of status (.json value)

/-- A response in words. -/
def text (status : Nat) (value : String) : HttpResponse := of status (.text value)

/-- The response to a path where there is nothing. -/
def notFound : HttpResponse := of 404 .nothing

/-- The response to a method that is not allowed. -/
def methodNotAllowed (allowed : String) : HttpResponse :=
  { of 405 .nothing with allow := some allowed }

/-- A response without its body. -/
def withoutBody (response : HttpResponse) : HttpResponse := { response with body := .nothing }

end HttpResponse

end BoxOffice.Http
