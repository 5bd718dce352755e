import BoxOffice.Text.FormEncoding

/-!
# Targets

What stands after the host in an address, as it is sent: a path that begins with a slash, and the
query if there is one. In an address a backslash counts as a slash, and tabs, line breaks and
blanks at the end count for nothing. A segment of one dot is left out, and one of two dots takes
the segment before it away. Characters that may not stand in a path or in a query are
percent-encoded. What stands before the path belongs to the host and is not sent, nor is a
fragment.
-/
namespace BoxOffice.Http.Target

/-- Whether a character can be written down at all. -/
def isPrintable (character : Char) : Bool := 32 < character.toNat && character.toNat < 127

/-- Whether a character stands for itself in a path. -/
def isPlainInPath (character : Char) : Bool :=
  isPrintable character && !"\"#<>?\x60\x7b\x7d".toList.contains character

/-- Whether a character stands for itself in a query. -/
def isPlainInQuery (character : Char) : Bool :=
  isPrintable character && !"\"#<>'".toList.contains character

/-- Characters with those percent-encoded that do not stand for themselves. -/
def encode (isPlain : Char → Bool) (text : List Char) : List Char :=
  text.flatMap fun character =>
    if isPlain character then [character]
    else (Utf8.encode (String.singleton character)).flatMap FormEncoding.percent

/-- Whether a segment is one of some segments, in either case. -/
def isOneOf (forms : List String) (segment : List Char) : Bool :=
  forms.contains (String.ofList (segment.map Char.toLower))

/-- Whether a segment names the place where it stands. -/
def isHere (segment : List Char) : Bool := isOneOf [".", "%2e"] segment

/-- Whether a segment names the place above. -/
def isAbove (segment : List Char) : Bool := isOneOf ["..", ".%2e", "%2e.", "%2e%2e"] segment

/-- The segments without those that name a place. Where such a segment stands last, the path ends
with a slash. The segments kept so far are in reverse. -/
def resolve (kept : List (List Char)) : List (List Char) → List (List Char)
  | [] => kept.reverse
  | segment :: rest =>
    let closed (kept : List (List Char)) := if rest.isEmpty then [] :: kept else kept
    if isAbove segment then resolve (closed (kept.drop 1)) rest
    else if isHere segment then resolve (closed kept) rest
    else resolve (segment :: kept) rest

/-- The path as it is sent. -/
def writePath (path : List Char) : List Char :=
  let slashed := path.map fun character => if character = '\\' then '/' else character
  let segments := ((slashed.dropWhile (· ≠ '/')).drop 1).splitOn '/'
  (resolve [] segments).flatMap fun segment => '/' :: encode isPlainInPath segment

/-- The query as it is sent, with the question mark before it. -/
def writeQuery : List Char → List Char
  | '?' :: query => '?' :: encode isPlainInQuery query
  | _ => []

/-- The characters of an address that count. -/
def counted (address : List Char) : List Char :=
  let trimmed := (address.reverse.dropWhile fun character => character.toNat ≤ 32).reverse
  trimmed.filter fun character => !"\t\n\r".toList.contains character

/-- The target in what stands after the host. -/
def ofAddress (address : String) : String :=
  let sent := (counted address.toList).takeWhile (· ≠ '#')
  let path := sent.takeWhile (· ≠ '?')
  String.ofList (writePath path ++ writeQuery (sent.dropWhile (· ≠ '?')))

end BoxOffice.Http.Target
