/-!
# UTF-8

The bytes of a text, and the text of any bytes. Bytes that form no character are replaced: each
longest run of them that begins a character without finishing it becomes one U+FFFD.
-/
namespace BoxOffice.Utf8

/-- The bytes of a text. -/
def encode (text : String) : List UInt8 := text.toUTF8.toList

/-- Whether a byte continues a character. -/
def isContinuation (byte : UInt8) : Bool := 0x80 ≤ byte && byte ≤ 0xBF

/-- How a byte begins a character: the number of bytes that follow, the bits it contributes, and
the least and greatest byte that may follow it. -/
structure Lead where
  /-- The number of bytes that follow. -/
  following : Nat
  /-- The highest bits of the code point. -/
  bits : Nat
  /-- The least second byte. -/
  low : UInt8
  /-- The greatest second byte. -/
  high : UInt8

/-- The lead that a byte of at least 0x80 is, unless no character begins with it. -/
def lead? (byte : UInt8) : Option Lead :=
  if 0xC2 ≤ byte && byte ≤ 0xDF then some ⟨1, byte.toNat - 0xC0, 0x80, 0xBF⟩
  else if byte == 0xE0 then some ⟨2, 0, 0xA0, 0xBF⟩
  else if byte == 0xED then some ⟨2, 0xD, 0x80, 0x9F⟩
  else if 0xE1 ≤ byte && byte ≤ 0xEF then some ⟨2, byte.toNat - 0xE0, 0x80, 0xBF⟩
  else if byte == 0xF0 then some ⟨3, 0, 0x90, 0xBF⟩
  else if byte == 0xF4 then some ⟨3, 4, 0x80, 0x8F⟩
  else if 0xF1 ≤ byte && byte ≤ 0xF3 then some ⟨3, byte.toNat - 0xF0, 0x80, 0xBF⟩
  else none

/-- What stands for bytes that form no character. -/
def replacement : Char := '\uFFFD'

/-- Reads further bytes of a character: the character, or the replacement, and how many bytes
were taken. -/
def continueWith : (following bits taken : Nat) → List UInt8 → Char × Nat
  | 0, bits, taken, _ => (Char.ofNat bits, taken)
  | _ + 1, _, taken, [] => (replacement, taken)
  | following + 1, bits, taken, byte :: rest =>
    if isContinuation byte then
      continueWith following (bits * 64 + (byte.toNat - 0x80)) (taken + 1) rest
    else (replacement, taken)

/-- The character that begins with a byte, and how many of the bytes after it belong to it. -/
def character (byte : UInt8) (rest : List UInt8) : Char × Nat :=
  if byte < 0x80 then (Char.ofNat byte.toNat, 0)
  else match lead? byte, rest with
    | some lead, second :: later =>
      if lead.low ≤ second && second ≤ lead.high then
        continueWith (lead.following - 1) (lead.bits * 64 + (second.toNat - 0x80)) 1 later
      else (replacement, 0)
    | _, _ => (replacement, 0)

/-- The characters of some bytes after the first `passed` of them, which belong to a character
already read. -/
def decodeAfter : (passed : Nat) → List UInt8 → List Char
  | _, [] => []
  | passed + 1, _ :: rest => decodeAfter passed rest
  | 0, byte :: rest =>
    let found := character byte rest
    found.1 :: decodeAfter found.2 rest

/-- The text of some bytes, with replacements where they form no character. -/
def decode (bytes : List UInt8) : String := String.ofList (decodeAfter 0 bytes)

/-- The text of some bytes when all of them form characters. -/
def decode? (bytes : List UInt8) : Option String := String.fromUTF8? ⟨bytes.toArray⟩

end BoxOffice.Utf8
