import BoxOffice.Text.Hex
import BoxOffice.Text.Utf8

/-!
# Form encoding

Names and values as `application/x-www-form-urlencoded`. Fields stand between ampersands, a name
is parted from its value by the first equals sign, a space is written as a plus sign, and every
byte other than letters, digits and `*-._` as a percent sign with two digits. Reading passes a
percent sign without two digits on as it is and replaces bytes that form no character.
-/
namespace BoxOffice.FormEncoding

/-- Whether a byte stands for itself. -/
def isPlain (byte : UInt8) : Bool :=
  (0x30 ≤ byte && byte ≤ 0x39) || (0x41 ≤ byte && byte ≤ 0x5A) || (0x61 ≤ byte && byte ≤ 0x7A) ||
    byte == 0x2A || byte == 0x2D || byte == 0x2E || byte == 0x5F

/-- A byte as a percent sign and two upper-case digits. -/
def percent (byte : UInt8) : List Char :=
  let digits := Hex.ofByte byte
  ['%', Hex.upper digits.1, Hex.upper digits.2]

/-- The written form of a byte. -/
def writeByte (byte : UInt8) : List Char :=
  if isPlain byte then [Char.ofNat byte.toNat]
  else if byte == 0x20 then ['+']
  else percent byte

/-- The written form of a name or a value. -/
def writeText (text : String) : List Char := (Utf8.encode text).flatMap writeByte

/-- The written form of fields. -/
def write (fields : List (String × String)) : String :=
  String.ofList (List.intercalate ['&'] (fields.map fun field =>
    writeText field.1 ++ '=' :: writeText field.2))

/-- The bytes of a percent-encoded sequence of bytes. -/
def decodePercent : List UInt8 → List UInt8
  | [] => []
  | 0x25 :: first :: second :: rest =>
    match Hex.digit? (Char.ofNat first.toNat), Hex.digit? (Char.ofNat second.toNat) with
    | some high, some low => Hex.toByte high low :: decodePercent rest
    | _, _ => 0x25 :: decodePercent (first :: second :: rest)
  | byte :: rest => byte :: decodePercent rest
termination_by bytes => bytes.length

/-- The text of a written name or value. -/
def readText (bytes : List UInt8) : String :=
  Utf8.decode (decodePercent (bytes.map fun byte => if byte == 0x2B then 0x20 else byte))

/-- The name and the value of one written field. -/
def readField (bytes : List UInt8) : String × String :=
  let parts := bytes.span (· != 0x3D)
  (readText parts.1, readText (parts.2.drop 1))

/-- The fields of a written form; nothing between two ampersands is no field. -/
def read (text : String) : List (String × String) :=
  ((Utf8.encode text).splitOn 0x26).filterMap fun bytes =>
    if bytes.isEmpty then none else some (readField bytes)

end BoxOffice.FormEncoding
